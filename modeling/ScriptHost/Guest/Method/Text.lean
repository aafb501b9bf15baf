import ScriptHost.Guest.Exceptions
import ScriptHost.Guest.Fields
import ScriptHost.Guest.Method.Strings
import ScriptHost.Text.Encoding
import ScriptHost.Text.LetterCase

/-! The methods of text: encoding, letter case, classes of code points, tables of replacements and
fields to fill in. -/
namespace ScriptHost.GuestM

/-- The encoding and the leniency that two arguments name. -/
def codecNames (function : String) (arguments : List Identity) : GuestM (String × String) := do
  let named (place : Nat) (what default : String) : GuestM String := do
    match arguments[place]? with
    | .none => return default
    | some id => return (← textArgument (function ++ "() argument '" ++ what ++ "'") id).lossy
  return (← named 0 "encoding" "utf-8", ← named 1 "errors" "strict")

def encodingNamed (name : String) : GuestM Encoding := do
  match Encoding.ofName? name with
  | some e => return e
  | .none => raise (.of "LookupError" ("unknown encoding: " ++ name))

def unknownHandler {α : Type} (name : String) : GuestM α :=
  raise (.of "LookupError" ("unknown error handler name '" ++ name ++ "'"))

/-- Raises what the encoding of a text, or the decoding of some bytes, goes wrong with. -/
def raiseDefect {α : Type} (type : String) (e : Encoding) (object : Identity) (d : EncodingDefect) :
    GuestM α := do
  let encoding ← string e.name
  let start ← int d.start
  let stop ← int d.stop
  let exception ← makeException type [encoding, object, start, stop, ← string d.reason]
  raise (← faultOf exception)

/-- The bytes of a text in an encoding. -/
def encodeText (function : String) (t : Text) (arguments : List Identity) : GuestM (List UInt8) := do
  let (encoding, errors) ← codecNames function arguments
  let e ← encodingNamed encoding
  match e.encode ((Leniency.ofName? errors).getD .strict) t with
  | .ok data => return data
  | .error defect =>
    if (Leniency.ofName? errors).isNone then unknownHandler errors
    else raiseDefect "UnicodeEncodeError" e (← text t) defect

/-- The text of some bytes in an encoding. -/
def decodeOctets (function : String) (data : List UInt8) (arguments : List Identity) : GuestM Text := do
  let (encoding, errors) ← codecNames function arguments
  let e ← encodingNamed encoding
  match e.decode ((Leniency.ofName? errors).getD .strict) data with
  | .ok t => return t
  | .error defect =>
    if (Leniency.ofName? errors).isNone then unknownHandler errors
    else raiseDefect "UnicodeDecodeError" e (← bytes data) defect

private def isIgnoredInWords (p : Nat) : Bool :=
  CodePoint.isExtending p ||
    [0x27, 0x2e, 0x3a, 0x5e, 0x60, 0xa8, 0xad, 0xaf, 0xb4, 0xb7, 0xb8, 0x2018, 0x2019, 0x200b, 0x2060].contains p

/-- Whether the next letter that counts, if there is one, has a case. -/
private def meetsCased (points : List Nat) : Bool :=
  match points.dropWhile isIgnoredInWords with
  | p :: _ => CodePoint.isCased p
  | [] => false

/-- The lower-case form of a code point between others; a sigma at the end of a word has a form of
its own. The code points before it are given from the last to the first. -/
private def lowerAmong (before : List Nat) (p : Nat) (behind : List Nat) : List Nat :=
  if p = 0x3a3 then (if meetsCased before && !meetsCased behind then [0x3c2] else [0x3c3])
  else CodePoint.lower p

/-- Maps every code point, knowing those before it, from the last to the first, and those behind. -/
private def mapAmong (f : List Nat → Nat → List Nat → List Nat) : List Nat → List Nat → List Nat
  | _, [] => []
  | before, p :: behind => f before p behind ++ mapAmong f (p :: before) behind

private def lowered (points : List Nat) : List Nat := mapAmong lowerAmong [] points

private def capitalized (points : List Nat) : List Nat :=
  mapAmong (fun before p behind => if before.isEmpty then CodePoint.title p else lowerAmong before p behind)
    [] points

private def titled (points : List Nat) : List Nat :=
  mapAmong (fun before p behind =>
    if before.head?.any CodePoint.isCased then lowerAmong before p behind else CodePoint.title p) [] points

private def swapped (points : List Nat) : List Nat :=
  mapAmong (fun before p behind =>
    if CodePoint.isUpper p then lowerAmong before p behind
    else if CodePoint.isLower p then CodePoint.upper p
    else [p]) [] points

/-- Whether words begin with a capital and go on without. -/
private def isTitled : Bool → Bool → List Nat → Bool
  | _, found, [] => found
  | inWord, found, p :: rest =>
    if CodePoint.isUpper p || CodePoint.isTitle p then !inWord && isTitled true true rest
    else if CodePoint.isLower p then inWord && isTitled true true rest
    else isTitled false found rest

/-- Whether all code points of a text are of a class. -/
private def classTest? (name : String) (points : List Nat) : Option Bool :=
  let all (isIn : Nat → Bool) : Option Bool := some (!points.isEmpty && points.all isIn)
  match name with
  | "isascii" => some (points.all (· < 128))
  | "isspace" => all CodePoint.isSpace
  | "isdecimal" => all CodePoint.isDecimal
  | "isdigit" => all CodePoint.isDigit
  | "isnumeric" => all CodePoint.isNumeric
  | "isalpha" => all CodePoint.isLetter
  | "isalnum" => all CodePoint.isLetterOrNumber
  | "isprintable" => some (points.all fun p => !CodePoint.wasUnprintable p)
  | "isidentifier" => some (CodePoint.formIdentifier points)
  | "istitle" => some (isTitled false false points)
  | "islower" =>
    some (points.any CodePoint.isLower && !points.any fun p => CodePoint.isUpper p || CodePoint.isTitle p)
  | "isupper" =>
    some (points.any CodePoint.isUpper && !points.any fun p => CodePoint.isLower p || CodePoint.isTitle p)
  | _ => .none

def badReplacement {α : Type} : GuestM α :=
  raise (.valueError "character mapping must be in range(0x110000)")

/-- What a table puts in the place of a code point. -/
def replacement (table : Identity) (p : Nat) : GuestM (List Nat) := do
  let key ← int p
  let found? ← tryCatch (some <$> subscript table key) fun f =>
    if f.isA "LookupError" then return .none else raise f
  match found? with
  | .none => return [p]
  | some found =>
    let g ← get
    match g.body found with
    | .none => return []
    | .text t => return t.points
    | .int n => if 0 ≤ n ∧ n < 0x110000 then return [n.toNat] else badReplacement
    | .bool b => return [if b then 1 else 0]
    | _ => typeError "character mapping must return integer, None or str"

/-- A table of replacements from pairs of texts, or from a dictionary. -/
def makeTable (arguments : List Identity) : GuestM Identity := do
  let g ← get
  match arguments with
  | [source] =>
    match g.body source, g.isExact source with
    | .dict entries, true =>
      dict (← entries.mapM fun entry => do
        match g.body entry.key with
        | .text ⟨[p]⟩ => return (← int p, entry.value)
        | .text _ => valueError "string keys in translate table must be of length 1"
        | .int _ | .bool _ => return (entry.key, entry.value)
        | _ => typeError "keys in translate table must be strings or integers")
    | _, _ => typeError "if you give only one argument to maketrans it must be a dict"
  | source :: target :: dropped =>
    let target ← textArgument "maketrans() argument 2" target
    let dropped ← dropped.head?.mapM (textArgument "maketrans() argument 3")
    match g.text? source with
    | .none => typeError "first maketrans argument must be a string if there is a second argument"
    | some source =>
      if source.length ≠ target.length then
        valueError "the first two maketrans arguments must have equal length"
      let replaced ← (source.points.zip target.points).mapM fun (p, q) => do return (← int p, ← int q)
      let nothing ← none
      let gone ← ((dropped.map Text.points).getD []).mapM fun (p : Nat) => do return (← int p, nothing)
      dict (replaced ++ gone)
  | [] => none

/-- Calls a method of text. -/
def textMethod (target : Identity) (t : Text) (name : String) (arguments : List Identity) : GuestM Identity := do
  let g ← get
  let subject : Subject :=
    { target, points := t.points, isText := true, isExact := g.isExact target }
  let first := arguments.headD default
  match subject.method? name arguments, classTest? name t.points with
  | some run, _ => run
  | .none, some answer => bool answer
  | .none, .none =>
    match name with
    | "upper" => text ⟨t.points.flatMap CodePoint.upper⟩
    | "lower" => text ⟨lowered t.points⟩
    | "casefold" => text ⟨t.points.flatMap CodePoint.folded⟩
    | "capitalize" => text ⟨capitalized t.points⟩
    | "title" => text ⟨titled t.points⟩
    | "swapcase" => text ⟨swapped t.points⟩
    | "encode" => do bytes (← encodeText "encode" t arguments)
    | "translate" => do text ⟨(← t.points.mapM (replacement first)).flatten⟩
    | "format" => do text (← fillFields ⟨arguments, .none, true⟩ t)
    | "format_map" => do text (← fillFields ⟨[], some first, false⟩ t)
    | "__format__" => do text (← formattedData target (← textArgument "__format__() argument" first))
    | "__getnewargs__" => do tuple [← text t]
    | _ => int (49 + t.length)

end ScriptHost.GuestM
