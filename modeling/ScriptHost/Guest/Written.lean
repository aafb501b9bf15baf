import ScriptHost.Guest.Hashing
import ScriptHost.Number.Decimal
import ScriptHost.Text.CodePoint
import ScriptHost.Value.Display

/-! The written forms of objects: the one that shows what an object is, and the one that is
meant to be read. -/
namespace ScriptHost

private def hexPoints (width n : Nat) : List Nat :=
  let digits := (Nat.toDigits 16 n).map Char.toNat
  List.replicate (width - digits.length) 48 ++ digits

private def pointsOf (s : String) : List Nat := s.toList.map Char.toNat

/-- A code point by its number, in as few digits as its size allows. -/
private def numberedPoint (p : Nat) : List Nat :=
  if p < 0x100 then pointsOf "\\x" ++ hexPoints 2 p
  else if p < 0x10000 then pointsOf "\\u" ++ hexPoints 4 p
  else pointsOf "\\U" ++ hexPoints 8 p

private def namedPoint? (p : Nat) : Option (List Nat) :=
  if p = 10 then some (pointsOf "\\n")
  else if p = 13 then some (pointsOf "\\r")
  else if p = 9 then some (pointsOf "\\t")
  else if p = 92 then some [92, 92]
  else none

namespace Text

private def escapedPoint (onlyAscii : Bool) (quoteMark p : Nat) : List Nat :=
  if p = quoteMark then [92, p]
  else (namedPoint? p).getD <|
    if CodePoint.wasUnprintable p || isSurrogate p || (onlyAscii && 127 ≤ p) then numberedPoint p
    else [p]

private def literalIn (onlyAscii : Bool) (t : Text) : Text :=
  let quoteMark := if t.points.contains 39 && !t.points.contains 34 then 34 else 39
  ⟨quoteMark :: t.points.flatMap (escapedPoint onlyAscii quoteMark) ++ [quoteMark]⟩

/-- A text between single quotes, or between double ones if only single ones stand in it. -/
def literal (t : Text) : Text := literalIn false t

/-- A text with every code point beyond ASCII by its number. -/
def asciiOnly (t : Text) : Text := ⟨t.points.flatMap fun p => if p < 128 then [p] else numberedPoint p⟩

private def joinPoints (separator : List Nat) : List Text → List Nat
  | [] => []
  | [t] => t.points
  | t :: ts => t.points ++ separator ++ joinPoints separator ts

/-- Texts with a separator between them. -/
def join (separator : Text) (parts : List Text) : Text := ⟨joinPoints separator.points parts⟩

/-- Texts with commas between them. -/
def commaSeparated (parts : List Text) : Text := join (.ofString ", ") parts

end Text

private def escapedByte (isQuote : Nat → Bool) (b : UInt8) : List Nat :=
  let p := b.toNat
  if isQuote p then [92, p]
  else (namedPoint? p).getD (if p < 32 ∨ 127 ≤ p then pointsOf "\\x" ++ hexPoints 2 p else [p])

private def bytesQuote (data : List UInt8) : Nat := if data.contains 39 && !data.contains 34 then 34 else 39

/-- The literal form of bytes. -/
def bytesLiteral (data : List UInt8) : Text :=
  let quoteMark := bytesQuote data
  ⟨98 :: quoteMark :: data.flatMap (escapedByte (· == quoteMark)) ++ [quoteMark]⟩

private def between (opening closing : String) (inner : Text) : Text :=
  .ofString opening ++ inner ++ .ofString closing

/-- The form of bytes that can change: single quotes are escaped whatever stands around them. -/
def byteArrayLiteral (class? : String) (data : List UInt8) : Text :=
  let quoteMark := bytesQuote data
  between (class? ++ "(") ")" ⟨98 :: quoteMark :: data.flatMap (escapedByte (· == 39)) ++ [quoteMark]⟩

/-- The literal form of a complex number. -/
def complexLiteral (re im : Double) : String :=
  let imaginary := im.write .part ++ "j"
  if re.bits = 0 then imaginary
  else
    let sign := if im.isNegative || im.isNaN then "" else "+"
    let sign := if im.isNaN then "+" else sign
    "(" ++ re.write .part ++ sign ++ imaginary ++ ")"

/-- The most digits that an integer may have to be written in decimal. -/
def maxDecimalDigits : Nat := 4300

/-- The decimal form of an integer, refused beyond a number of digits. -/
def decimalText (n : Int) : Except Fault Text :=
  if n.natAbs.log2 < 14000 then .ok (.ofString (toString n))
  else if pow10 maxDecimalDigits ≤ n.natAbs then
    .error (.valueError ("Exceeds the limit (4300 digits) for integer string conversion; " ++
      "use sys.set_int_max_str_digits() to increase the limit"))
  else .ok (.ofString (toString n))

/-- How deeply the written forms of objects nest at most. -/
def writtenDepth : Nat := 995

private def tooDeeplyWritten : Fault :=
  .of "RecursionError" "maximum recursion depth exceeded while getting the repr of an object"

/-- The name of a function as a script sees it. -/
def Function.name : Function → String
  | .raising name _ _ | .feature name _ _ | .renamed name _ _ => name
  | .increment => "<lambda>"

/-- The name of a function with the names of what it stands in. -/
def Function.fullName : Function → String
  | .renamed _ fullName _ => fullName
  | f => f.name

/-- The last part of a dotted name. -/
def lastPart (dotted : String) : String := (dotted.splitOn ".").getLastD dotted

namespace Guest

def address (id : Identity) : String := "0x" ++ String.ofList (Nat.toDigits 16 id.number)

def nameIn (g : Guest) (attributes : Identity) (name : String) : Option Identity :=
  g.lookup attributes (.ofString name)

/-- The object that a module or a specification keeps under a name, unless that is none. -/
def presentIn (g : Guest) (attributes : Identity) (name : String) : Option Identity :=
  (g.nameIn attributes name).filter fun id => !g.isNone id

def isTrue (g : Guest) (id : Identity) : Bool :=
  match g.body id with
  | .bool b => b
  | _ => false

def moduleText (g : Guest) (attributes : Identity) (inner : Identity → GuestM Text) :
    GuestM Text := do
  let shown (id? : Option Identity) : GuestM Text :=
    match id? with
    | some id => inner id
    | none => pure (Text.ofString "?").literal
  match (g.presentIn attributes "__spec__").bind g.ownAttributes? with
  | some specification =>
    let name ← shown (g.presentIn specification "name")
    match g.presentIn specification "origin", g.presentIn specification "loader" with
    | none, none => return between "<module " ">" name
    | none, some loader =>
      return between "<module " ")>" (name ++ .ofString " (" ++ (← inner loader))
    | some origin, _ =>
      if (g.nameIn specification "has_location").any g.isTrue then
        return between "<module " ">" (name ++ .ofString " from " ++ (← inner origin))
      else
        let plain := ((g.text? origin).getD (.ofString "?"))
        return between "<module " ")>" (name ++ .ofString " (" ++ plain)
  | none =>
    let name ← shown (g.nameIn attributes "__name__")
    match g.nameIn attributes "__file__", g.presentIn attributes "__loader__" with
    | some file, _ => return between "<module " ">" (name ++ .ofString " from " ++ (← inner file))
    | none, some loader => return between "<module " ")>" (name ++ .ofString " (" ++ (← inner loader))
    | none, none => return between "<module " ">" name

/-- The module that the written form of a class names, if it has one that is no matter of course. -/
def shownModule? (g : Guest) (class? : Identity) : Option Text :=
  ((g.ownAttribute? class? (.ofString "__module__")).bind g.text?).filter (· ≠ .ofString "builtins")

/-- The name of a class with its module. -/
def titleOf (g : Guest) (class? : Identity) : Text :=
  match g.body class? with
  | .builtin name => .ofString (Builtin.qualifiedName name)
  | .classObject made =>
    match g.shownModule? class? with
    | some module => module ++ .ofString ("." ++ made.fullName)
    | none => .ofString made.name
  | _ => ⟨[]⟩

def objectText (g : Guest) (id : Identity) : Text :=
  let title := match g.home? id with
    | some home => g.titleOf home
    | none => .ofString (Builtin.qualifiedName (g.body id).className)
  .ofString "<" ++ title ++ .ofString (" object at " ++ address id ++ ">")

private def memberText (owner name : String) : MemberKind → String
  | .method | .classMethod => "<method '" ++ name ++ "' of '" ++ owner ++ "' objects>"
  | .slot => "<slot wrapper '" ++ name ++ "' of '" ++ owner ++ "' objects>"
  | .data => "<attribute '" ++ name ++ "' of '" ++ owner ++ "' objects>"
  | .field => "<member '" ++ name ++ "' of '" ++ owner ++ "' objects>"

/-- A class with the types of its items, as it is written in a script. -/
def genericText (g : Guest) (id : Identity) (inner : Identity → GuestM Text) : GuestM Text := do
  let part (id : Identity) : GuestM Text :=
    match g.body id with
    | .ellipsis => pure (.ofString "...")
    | .builtin _ | .classObject _ => pure (g.titleOf id)
    | _ => inner id
  let held (name : String) : Identity := (g.ownAttribute? id (.ofString name)).getD id
  let parameters ← match g.body (held "__args__") with
    | .tuple items => items.toList.mapM part
    | _ => pure []
  let shown := if parameters.isEmpty then .ofString "()" else Text.commaSeparated parameters
  return (← part (held "__origin__")) ++ between "[" "]" shown

/-- How a module came to be: its name and what loads it, and where its code and its parts are. -/
def specificationText (g : Guest) (id : Identity) (inner : Identity → GuestM Text) :
    GuestM Text := do
  let field (shown name : String) : GuestM (List Text) :=
    match g.ownAttribute? id (.ofString name) with
    | some value => do return [.ofString (shown ++ "=") ++ (← inner value)]
    | none => pure []
  let present (name : String) : Bool := (g.ownAttribute? id (.ofString name)).any fun value => !g.isNone value
  let optional (name : String) : GuestM (List Text) := if present name then field name name else pure []
  let parts := (← field "name" "name") ++ (← field "loader" "loader") ++ (← optional "origin") ++
    (← optional "submodule_search_locations")
  return between "ModuleSpec(" ")" (Text.commaSeparated parts)

/-- The object that the parts of a package are looked up by, as far as it is one. -/
def standInText (g : Guest) (id : Identity) (class? : String) (inner : Identity → GuestM Text) :
    GuestM Text := do
  match class?, g.ownAttribute? id (.ofString "_path") with
  | "ModuleSpec", _ => g.specificationText id inner
  | "_NamespacePath", some paths => return between "_NamespacePath(" ")" (← inner paths)
  | _, _ => return g.objectText id

/-- What the classes behind a class say of an object, as it is written. -/
def ancestralText (g : Guest) (class? : Identity) (target : Option Identity)
    (inner : Identity → GuestM Text) : GuestM Text := do
  let shown := match target with
    | some target => "<" ++ g.className target ++ " object>"
    | none => "NULL"
  return between "<super: " ">" ((← inner class?) ++ .ofString (", " ++ shown))

/-- The name of a function as it stands in the written form of a method. -/
def functionTitle (g : Guest) (id : Identity) : String :=
  match g.body id with
  | .function f _ => f.fullName
  | .builtin name => lastPart name
  | .member owner name _ => owner ++ "." ++ name
  | .classObject made => made.fullName
  | _ => "?"

end Guest

namespace GuestM

/-- The text that a script's class answers with where it has to give one. -/
def ownText (name : String) (answer : Identity) : GuestM Text := do
  let g ← get
  match g.text? answer with
  | some t => return t
  | .none => typeError (name ++ " returned non-string (type " ++ g.classLabel answer ++ ")")

/-- The form that shows what the data of an object is; an object inside itself is written short. -/
def representBody (inner : Identity → GuestM Text) (isInside : Bool) (id : Identity) : GuestM Text := do
  let g ← get
  let items (opening closing short : String) (ids : List Identity) : GuestM Text := do
    if isInside then return .ofString short
    else return between opening closing (.commaSeparated (← ids.mapM inner))
  let entry (part : Option DictPart) (e : DictEntry) : GuestM Text := do
    match part with
    | some .keys => inner e.key
    | some .values => inner e.value
    | some .items =>
      let key ← inner e.key
      return between "(" ")" (.commaSeparated [key, ← inner e.value])
    | .none =>
      let key ← inner e.key
      return key ++ .ofString ": " ++ (← inner e.value)
  match g.body id with
  | .none => return .ofString "None"
  | .ellipsis => return .ofString "Ellipsis"
  | .notImplemented => return .ofString "NotImplemented"
  | .bool b => return .ofString (if b then "True" else "False")
  | .int n => liftExcept (decimalText n)
  | .float x => return .ofString (x.write .literal)
  | .complex re im => return .ofString (complexLiteral re im)
  | .text t => return t.literal
  | .bytes data => return bytesLiteral data
  | .byteArray data => return byteArrayLiteral (g.className id) data
  | .memoryView _ _ _ _ => return .ofString ("<memory at " ++ Guest.address id ++ ">")
  | .list ids => items "[" "]" "[...]" ids.toList
  | .tuple ids => items "(" (if ids.size = 1 then ",)" else ")") "(...)" ids.toList
  | .set members =>
    let class? := g.className id
    if members.size = 0 then return .ofString (class? ++ "()")
    else if class? = "set" then items "\x7b" "\x7d" "set(...)" members.ids
    else items (class? ++ "(\x7b") "\x7d)" (class? ++ "(...)") members.ids
  | .frozenSet members =>
    let class? := g.className id
    if members.size = 0 then return .ofString (class? ++ "()")
    else items (class? ++ "(\x7b") "\x7d)" (class? ++ "(...)") members.ids
  | .dict entries =>
    if isInside then return .ofString "\x7b...\x7d"
    else return between "\x7b" "\x7d" (.commaSeparated (← entries.mapM (entry Option.none)))
  | .view part dict =>
    if isInside then return .ofString "..."
    else
      let shown ← (g.entries dict).mapM (entry (some part))
      return between (part.className ++ "([") "])" (.commaSeparated shown)
  | .proxy dict => return between "mappingproxy(" ")" (← inner dict)
  | .mappingView _ mapping => return between ((g.body id).className ++ "(") ")" (← inner mapping)
  | .range start stop step =>
    let ends := toString start ++ ", " ++ toString stop
    return .ofString ("range(" ++ (if step = 1 then ends else ends ++ ", " ++ toString step) ++ ")")
  | .slice start stop step => return between "slice(" ")" (.commaSeparated (← [start, stop, step].mapM inner))
  | .exception _ arguments _ =>
    return between (g.className id ++ "(") ")" (.commaSeparated (← arguments.mapM inner))
  | .builtin name =>
    return .ofString (if Builtin.isClass name then "<class '" ++ Builtin.qualifiedName name ++ "'>"
      else if name.endsWith ".__new__" then "<built-in method __new__ of type object at " ++ Guest.address id ++ ">"
      else "<built-in function " ++ lastPart name ++ ">")
  | .classObject _ => return between "<class '" "'>" (g.titleOf id)
  | .function f _ => return .ofString ("<function " ++ f.fullName ++ " at " ++ Guest.address id ++ ">")
  | .method function self =>
    return between ("<bound method " ++ g.functionTitle function ++ " of ") ">" (← inner self)
  | .place class? name kind =>
    let what := if kind = .field then "<member '" else "<attribute '"
    return .ofString what ++ name ++ .ofString ("' of '" ++ g.nameOfClass class? ++ "' objects>")
  | .staticMethod function => return between "<staticmethod(" ")>" (← inner function)
  | .classMethod function => return between "<classmethod(" ")>" (← inner function)
  | .ancestral class? target => g.ancestralText class? target inner
  | .member owner name kind => return .ofString (Guest.memberText owner name kind)
  | .bound target _ name kind =>
    let what := if kind = .slot then "<method-wrapper '" ++ name ++ "'" else "<built-in method " ++ name
    return .ofString (what ++ " of " ++ g.classLabel target ++ " object at " ++ Guest.address target ++ ">")
  | .module attributes => g.moduleText attributes inner
  | .wrapper (.host o) => return .ofString ("<HostObject " ++ o.typeName ++ ">")
  | .wrapper v => return .ofString ("<HostObject " ++ v.display ++ ">")
  | .tagged (some tag) => return .ofString tag
  | .plain "GenericAlias" => g.genericText id inner
  | .plain class? => g.standInText id class? inner
  | _ => return g.objectText id

/-- The form that a script's class gives an object: its own answer, or the place of the object where the
class does not give out the function for that. -/
def answeredForm (asked : String) (value id : Identity) : GuestM Text := do
  match ← callIfGiven? value id [] with
  | some answer => ownText asked answer
  | .none => return (← get).objectText id

/-- The form that shows what an object is, to a depth. -/
def representTo : Nat → List Identity → Identity → GuestM Text
  | 0, _, _ => raise tooDeeplyWritten
  | depth + 1, active, id => do
    let g ← get
    match g.special? id "__repr__" with
    | some value => answeredForm "__repr__" value id
    | .none =>
      match (g.home? id).bind fun home => g.entryIn home (.ofString "__repr__") with
      | some (.own "object" _ _) => return g.objectText id
      | _ => representBody (representTo depth (id :: active)) (active.contains id) id

/-- The form that shows what an object is. -/
def represent (id : Identity) : GuestM Text := representTo writtenDepth [] id

/-- The form that shows what the data of an object is, whatever its class says. -/
def representData (id : Identity) : GuestM Text := representBody represent false id

/-- The form that tells an object by its class and place. -/
def representPlain (id : Identity) : GuestM Text := return (← get).objectText id

end GuestM

namespace Guest

/-- What an exception keeps under a name, unless that is none. -/
def detail? (g : Guest) (details : List (String × Identity)) (name : String) : Option Identity :=
  (details.lookup name).filter fun id => !g.isNone id

def smallInt (g : Guest) (details : List (String × Identity)) (name : String) : Int :=
  match (details.lookup name).map g.body with
  | some (.int n) => n
  | some (.bool b) => if b then 1 else 0
  | _ => 0

def textIn (g : Guest) (details : List (String × Identity)) (name : String) : Text :=
  ((details.lookup name).bind g.text?).getD ⟨[]⟩

private def placeText (single several : String) (point : Text) (start stop : Int) (isSingle : Bool) :
    Text :=
  if isSingle then .ofString (single ++ " ") ++ point ++ .ofString (" in position " ++ toString start ++ ": ")
  else .ofString (several ++ " in position " ++ toString start ++ "-" ++ toString (stop - 1) ++ ": ")

private def pointText (t : Text) (start : Int) : Text :=
  between "'" "'" ⟨numberedPoint (t.points.getD start.toNat 0)⟩

/-- The text of an exception about a text that has no encoded form, or bytes that have no decoded
one. -/
def codingText (g : Guest) (type : String) (details : List (String × Identity)) : Text :=
  let (start, stop) := (g.smallInt details "start", g.smallInt details "end")
  let codec := between "'" "' codec " (g.textIn details "encoding")
  let reason := g.textIn details "reason"
  let object := g.textIn details "object"
  let isSingle (length : Nat) : Bool := stop = start + 1 && start < length
  if type = "UnicodeDecodeError" then
    let data := ((details.lookup "object").bind g.octets?).getD []
    codec ++ placeText "can't decode byte" "can't decode bytes"
      ⟨pointsOf "0x" ++ hexPoints 2 (data.getD start.toNat 0).toNat⟩ start stop (isSingle data.length) ++ reason
  else if type = "UnicodeEncodeError" then
    codec ++ placeText "can't encode character" "can't encode characters" (pointText object start) start stop
      (isSingle object.length) ++ reason
  else
    placeText "can't translate character" "can't translate characters" (pointText object start) start stop
      (isSingle object.length) ++ reason

def systemErrorText (inner : Identity → GuestM Text)
    (details : List (String × Identity)) : Option (GuestM Text) :=
  let heading (number reason : Identity) : GuestM Text := do
    return between "[Errno " "] " (← inner number) ++ (← inner reason)
  match details.lookup "errno", details.lookup "strerror", details.lookup "filename", details.lookup "filename2" with
  | some number, some reason, some file, some second => some do
    return (← heading number reason) ++ .ofString ": " ++ (← GuestM.represent file) ++ .ofString " -> " ++
      (← GuestM.represent second)
  | some number, some reason, some file, none => some do
    return (← heading number reason) ++ .ofString ": " ++ (← GuestM.represent file)
  | some number, some reason, none, _ => some (heading number reason)
  | _, _, _, _ => none

def syntaxErrorText (g : Guest) (inner : Identity → GuestM Text)
    (details : List (String × Identity)) : GuestM Text := do
  let message ← match details.lookup "msg" with
    | some id => inner id
    | none => pure (.ofString "None")
  let file := (((details.lookup "filename").bind g.text?).map fun t =>
    Text.mk ((t.points.reverse.takeWhile (· ≠ 47)).reverse))
  let line := (details.lookup "lineno").bind g.plainInt?
  match file, line with
  | none, none => return message
  | some file, some n => return message ++ between " (" ")" (file ++ .ofString (", line " ++ toString n))
  | some file, none => return message ++ between " (" ")" file
  | none, some n => return message ++ .ofString (" (line " ++ toString n ++ ")")

def groupText (g : Guest) (inner : Identity → GuestM Text)
    (details : List (String × Identity)) : GuestM Text := do
  let message ← match details.lookup "message" with
    | some id => inner id
    | none => pure ⟨[]⟩
  let count := match (details.lookup "exceptions").map g.body with
    | some (.tuple items) => items.size
    | _ => 0
  return message ++ .ofString (" (" ++ toString count ++ (if count = 1 then " sub-exception)" else " sub-exceptions)"))

private def isCodingError (type : String) : Bool :=
  ["UnicodeEncodeError", "UnicodeDecodeError", "UnicodeTranslateError"].contains type

/-- The text of an exception that its arguments make, where no data of its own says more. -/
def argumentsText (inner : Identity → GuestM Text) (type : String) :
    List Identity → GuestM Text
  | [] => pure ⟨[]⟩
  | [argument] => if type = "KeyError" then GuestM.represent argument else inner argument
  | arguments => do return between "(" ")" (.commaSeparated (← arguments.mapM GuestM.represent))

end Guest

/-- A key error, whose text shows the key. -/
def Fault.missingKey (key : Text) : Fault := ⟨"KeyError", "KeyError", some key.literal, []⟩

/-- The number of arguments that a class of exceptions insists on. -/
def Builtin.neededArguments? (type : String) : Option Nat :=
  if type = "UnicodeDecodeError" ∨ type = "UnicodeEncodeError" then some 5
  else if type = "UnicodeTranslateError" then some 4
  else none

/-- The exception that a class and a text make. -/
def Raise.fault (r : Raise) : Fault :=
  let type := Builtin.canonical r.type
  if type = "KeyError" then .missingKey (.ofString r.text)
  else if Builtin.descends type "BaseExceptionGroup" then
    .typeError "BaseExceptionGroup.__new__() takes exactly 2 arguments (1 given)"
  else match Builtin.neededArguments? type with
    | some n => .typeError ("function takes exactly " ++ toString n ++ " arguments (1 given)")
    | none => .of type r.text

namespace GuestM

/-- The text of an exception. -/
def exceptionText (inner : Identity → GuestM Text) (type : String) (arguments : List Identity)
    (details : List (String × Identity)) : GuestM Text := do
  let g ← get
  if Guest.isCodingError type then return g.codingText type details
  else if Builtin.descends type "OSError" then
    (Guest.systemErrorText inner details).getD (Guest.argumentsText inner type arguments)
  else if Builtin.descends type "SyntaxError" then g.syntaxErrorText inner details
  else if Builtin.descends type "BaseExceptionGroup" then g.groupText inner details
  else Guest.argumentsText inner type arguments

/-- The form of an object that is meant to be read, to a depth. -/
def plainTextTo : Nat → Identity → GuestM Text
  | 0, _ => raise tooDeeplyWritten
  | depth + 1, id => do
    match ← specially? "__str__" id [] with
    | some answer => ownText "__str__" answer
    | .none =>
      let g ← get
      let owner := match (g.home? id).bind fun home => g.entryIn home (.ofString "__str__") with
        | some (.own owner _ _) => owner
        | _ => (g.body id).className
      match owner, g.body id with
      | "object", _ =>
        match g.special? id "__repr__" with
        | some value => answeredForm "__str__" value id
        | .none => represent id
      | _, .text t => return t
      | _, .exception type arguments details =>
        exceptionText (plainTextTo depth) (if Builtin.isException owner then owner else type) arguments details
      | _, _ => represent id

/-- The form of an object that is meant to be read. -/
def plainText (id : Identity) : GuestM Text := plainTextTo writtenDepth id

/-- The readable form that one of the interpreter's own classes gives to what an object holds, whatever
the class of the object says. -/
def plainData (owner : String) (id : Identity) : GuestM Text := do
  match ← bodyOf id with
  | .text t => return t
  | .exception type arguments details =>
    exceptionText plainText (if Builtin.isException owner then owner else type) arguments details
  | _ => representData id

/-- The answer of a computation, unless it raises. -/
def succeeded? {α : Type} (run : GuestM α) : GuestM (Option α) :=
  tryCatch (some <$> run) fun _ => return .none

/-- The exception that raising an object causes. -/
def faultOf (id : Identity) : GuestM Fault := do
  let g ← get
  match g.body id with
  | .exception type _ _ => return ⟨g.className id, type, ← succeeded? (plainText id), []⟩
  | _ => return .typeError "exceptions must derive from BaseException"

end GuestM

/-- The string of a text, for what leaves the interpreter. -/
def Text.encode (t : Text) : Except Fault String :=
  match t.toString? with
  | some s => .ok s
  | none =>
    let (start, stop) := t.firstSurrogates
    let point : Text := between "'" "'" ⟨numberedPoint (t.points.getD start 0)⟩
    let place :=
      if stop = start + 1 then "character " ++ point.lossy ++ " in position " ++ toString start
      else "characters in position " ++ toString start ++ "-" ++ toString (stop - 1)
    .error (.of "UnicodeEncodeError"
      ("'utf-8' codec can't encode " ++ place ++ ": surrogates not allowed"))

end ScriptHost
