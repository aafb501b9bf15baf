import ScriptHost.Guest.ClassMaking
import ScriptHost.Guest.Exceptions
import ScriptHost.Guest.Method.Collections
import ScriptHost.Guest.Method.Numbers
import ScriptHost.Guest.Method.Text

/-! Making objects: what the classes of data make of their arguments. -/
namespace ScriptHost.GuestM

/-! ### Numbers -/

private def cutTo (size : Nat) (t : Text) : Text := ⟨t.points.take size⟩

def notLiteral {α : Type} (base : Int) (id : Identity) : GuestM α := do
  let g ← get
  let shown ← match g.octets? id with
    | some data => pure (bytesLiteral (data.take 200))
    | .none => represent id
  raise ⟨"ValueError", "ValueError",
    some (.ofString ("invalid literal for int() with base " ++ toString base ++ ": ") ++ cutTo 200 shown), []⟩

def tooManyDigits {α : Type} (count : Nat) : GuestM α :=
  valueError ("Exceeds the limit (4300 digits) for integer string conversion: value has " ++ toString count ++
    " digits; use sys.set_int_max_str_digits() to increase the limit")

private def isPowerOfTwo (base : Nat) : Bool := [2, 4, 8, 16, 32].contains base

def readInt (base : Nat) (points : List Nat) (id : Identity) : GuestM Int := do
  match Reading.integerDigits? base points with
  | some (found, digits, negative) =>
    if !isPowerOfTwo found && maxDecimalDigits < digits.length then tooManyDigits digits.length
    return Reading.integerOf found digits negative
  | .none => notLiteral base id

/-- The code points of a text, or the bytes of bytes, that a number is read from. -/
def readable? (g : Guest) (id : Identity) : Option (List Nat) :=
  match g.text? id with
  | some t => some (Reading.plainDigits t)
  | .none => (g.octets? id).map (·.map UInt8.toNat)

def intFrom (id : Identity) : GuestM Int := do
  let g ← get
  if let some answer ← specially? "__int__" id [] then
    match (← get).number? answer with
    | some (.int n) => return n
    | _ => typeError ("__int__ returned non-int (type " ++ (← classLabel answer) ++ ")")
  match g.number? id, readable? g id with
  | some (.int n), _ => return n
  | some (.float x), _ =>
    refuseUnbounded x
    return x.truncated
  | .none, some points => readInt 10 points id
  | _, _ =>
    if g.hasIndex id then indexOf id
    else match ← specially? "__trunc__" id [] with
      | some answer =>
        if (← get).hasIndex answer then indexOf answer
        else typeError ("__trunc__ returned non-Integral (type " ++ (← classLabel answer) ++ ")")
      | .none => typeError ("int() argument must be a string, a bytes-like object or a real number, not '" ++
      g.classLabel id ++ "'")

def intWithBase (id base : Identity) : GuestM Int := do
  let n ← indexOf base
  if n ≠ 0 ∧ (n < 2 ∨ 36 < n) then valueError "int() base must be >= 2 and <= 36, or 0"
  let g ← get
  match g.body id, readable? g id with
  | .text _, some points | .bytes _, some points | .byteArray _, some points => readInt n.toNat points id
  | _, _ => typeError "int() can't convert non-string with explicit base"

def unreadable {α : Type} (kind : String) (id : Identity) : GuestM α := do
  let shown ← represent id
  raise ⟨"ValueError", "ValueError", some (.ofString ("could not convert string to " ++ kind ++ ": ") ++ shown), []⟩

def floatFrom (refusal : String) (id : Identity) : GuestM Double := do
  let g ← get
  if let some answer ← specially? "__float__" id [] then
    match (← get).number? answer with
    | some (.float x) => return x
    | _ => typeError (g.className id ++ ".__float__ returned non-float (type " ++ (← classLabel answer) ++ ")")
  match g.number? id, readable? g id with
  | some (.int n), _ => widened n
  | some (.float x), _ => return x
  | .none, some points =>
    match Reading.double? points with
    | some x => return x
    | .none => unreadable "float" id
  | _, _ =>
    if g.hasIndex id then widened (← indexOf id)
    else typeError (refusal ++ ", not '" ++ g.classLabel id ++ "'")

def isNumeric (g : Guest) (id : Identity) : Bool :=
  (g.number? id).isSome || g.hasIndex id || (g.special? id "__float__").isSome

def complexFrom (re im? : Option Identity) : GuestM (Double × Double) := do
  let g ← get
  let part (id : Identity) : GuestM (Double × Double × Bool) := do
    match g.number? id with
    | some (.complex a b) => return (a, b, true)
    | _ => return (← floatFrom "" id, .zero, false)
  match re.bind g.text?, re, im? with
  | some _, _, some _ => typeError "complex() can't take second arg if first is a string"
  | some t, some id, .none =>
    match Reading.complex? (Reading.plainDigits t) with
    | some z => return z
    | .none =>
      if Reading.hasOrderlyUnderscores (Reading.plainDigits t) then valueError "complex() arg is a malformed string"
      else unreadable "complex" id
  | _, re, im? =>
    if im?.any g.isText then typeError "complex() second arg can't be a string"
    if let some id := re then
      if !isNumeric g id then
        typeError ("complex() first argument must be a string or a number, not '" ++ g.classLabel id ++ "'")
    if let some id := im? then
      if !isNumeric g id then
        typeError ("complex() second argument must be a number, not '" ++ g.classLabel id ++ "'")
    let (a, b, isComplex) ← match re with
      | some id => part id
      | .none => pure (.zero, .zero, false)
    match im? with
    | .none => return (a, b)
    | some id =>
      let (c, d, turns) ← part id
      return (if turns then a.sub d else a, if isComplex then c.add b else c)

/-! ### Text and bytes -/

/-- Refuses what is no name of an encoding or of a way to handle errors. -/
def checkCodec (class? : String) (codec : List Identity) : GuestM Unit := do
  for (name, argument) in ["encoding", "errors"].zip codec do
    let t ← textArgument (class? ++ "() argument '" ++ name ++ "'") argument
    discard (liftExcept t.encode)

def textFrom (id : Identity) (codec : List Identity) : GuestM Text := do
  let g ← get
  if codec.isEmpty then plainText id
  else
    checkCodec "str" codec
    if g.isText id then typeError "decoding str is not supported"
    match g.octets? id with
    | some data => decodeOctets "str" data codec
    | .none => typeError ("decoding to str: need a bytes-like object, " ++ g.classLabel id ++ " found")

def zeros (id : Identity) : GuestM (List UInt8) := do
  let n ← wordOf "OverflowError" id
  if n < 0 then valueError "negative count"
  if mostItems < n then raise (.of "MemoryError" "")
  return List.replicate n.toNat 0

def octetsFor (class? : String) (id : Identity) (codec : List Identity) : GuestM (List UInt8) := do
  let g ← get
  if class? = "bytes" && codec.isEmpty then
    if let some answer ← specially? "__bytes__" id [] then
      match ← bodyOf answer with
      | .bytes data => return data
      | _ => typeError ("__bytes__ returned non-bytes (type " ++ (← classLabel answer) ++ ")")
  match g.text? id, codec with
  | some t, _ :: _ => encodeText class? t codec
  | some _, [] => typeError "string argument without an encoding"
  | .none, _ :: _ =>
    checkCodec class? codec
    typeError "encoding without a string argument"
  | .none, [] =>
    match g.octets? id with
    | some data => return data
    | .none =>
      if g.hasIndex id then zeros id
      else match ← itemsOf? id with
        | .none => typeError ("cannot convert '" ++ g.classLabel id ++ "' object to " ++ class?)
        | some items => if class? = "bytearray" then items.mapM byteOf else octetsFrom (← list items)

/-! ### Ranges and views -/

/-- Makes a range. -/
def makeRange (start stop step : Identity) : GuestM Identity := do
  let start ← indexOf start
  let stop ← indexOf stop
  let step ← indexOf step
  if step = 0 then valueError "range() arg 3 must not be zero"
  allocate (.range start stop step)

/-- Makes a view of bytes. -/
def makeMemoryView (source : Identity) : GuestM Identity := do
  let g ← get
  match g.body source with
  | .bytes data | .byteArray data => allocate (.memoryView source 0 1 data.length)
  | .memoryView inner first step count => allocate (.memoryView inner first step count)
  | .plain "memoryview" => refuseReleased
  | _ => typeError ("memoryview: a bytes-like object is required, not '" ++ g.classLabel source ++ "'")

/-! ### Objects of classes -/

/-- What an object of a class of data holds that is made of some arguments. -/
def bodyFor (class? : String) (arguments : List Identity) : GuestM Body := do
  match class?, arguments with
  | "str", [] => return .text ⟨[]⟩
  | "str", id :: codec => return .text (← textFrom id codec)
  | "int", [] => return .int 0
  | "int", [id] => return .int (← intFrom id)
  | "int", id :: base :: _ => return .int (← intWithBase id base)
  | "float", [] => return .float .zero
  | "float", id :: _ => return .float (← floatFrom "float() argument must be a string or a real number" id)
  | "complex", arguments => do
    let (re, im) ← complexFrom arguments[0]? arguments[1]?
    return .complex re im
  | "bool", [] => return .bool false
  | "bool", id :: _ => return .bool (← truth id)
  | "list", [] => return .list #[]
  | "list", id :: _ => return .list (← itemsOf id).toArray
  | "tuple", [] => return .tuple #[]
  | "tuple", id :: _ => return .tuple (← itemsOf id).toArray
  | "set", [] => return .set .empty
  | "set", id :: _ => return .set (← addMembers .empty id)
  | "frozenset", [] => return .frozenSet .empty
  | "frozenset", id :: _ => return .frozenSet (← addMembers .empty id)
  | "dict", arguments => do
    let made ← allocate (.dict [])
    if let some source := arguments.head? then updateDict made source
    bodyOf made
  | "bytes", [] => return .bytes []
  | "bytes", id :: codec => return .bytes (← octetsFor "bytes" id codec)
  | "bytearray", [] => return .byteArray []
  | "bytearray", id :: codec => return .byteArray (← octetsFor "bytearray" id codec)
  | name, arguments =>
    if Builtin.isException name then exceptionBody name arguments else return .plain name

/-- The classes whose objects are made empty and filled in when they are started. -/
def startsEmpty (class? : String) : Bool := ["list", "dict", "set", "bytearray"].contains class?

/-- What an object of a class that a script made holds: an exception is of no narrower class. -/
def withClass (class? : String) : Body → Body
  | .exception _ arguments details => .exception (Builtin.canonical class?) arguments details
  | body => body

/-- The classes of exceptions that have all their data before they are started. -/
private def isEarlyException (class? : String) : Bool :=
  ["OSError", "BaseExceptionGroup"].any (Builtin.descends class?)

/-- What a new object holds before it is started, where a script may be in charge of that. -/
def unstartedBody (class? : String) (isScripted : Bool) (arguments : List Identity) : GuestM Body := do
  if startsEmpty class? then bodyFor class? []
  else if Builtin.descends class? "OSError" && isScripted then return .exception class? [] []
  else if Builtin.isException class? && !isEarlyException class? then
    return .exception (Builtin.canonical class?) arguments []
  else return withClass class? (← bodyFor class? arguments)

/-- Starts an object as every object is started whose class has no way of its own. -/
def startPlain (target : Identity) (arguments : List Identity) : GuestM Unit := do
  let g ← get
  if !arguments.isEmpty then
    match g.entryOf target (.ofString "__init__"), g.entryOf target (.ofString "__new__") with
    | some (.own "object" _ _), .none =>
      if Builtin.newcomerOf (g.family target) = "object" && g.family target ≠ "Opaque" then
        typeError (g.className target ++ ".__init__() takes exactly one argument (the instance to initialize)")
    | some (.own "object" _ _), _ => return ()
    | _, _ => typeError "object.__init__() takes exactly one argument (the instance to initialize)"

/-- Starts an exception as one of the classes of exceptions does that its class extends. -/
def startException (target : Identity) (owner : String) (arguments : List Identity) : GuestM Unit := do
  let given ← bodyFor owner arguments
  match given, ← bodyOf target with
  | .exception _ arguments details, .exception type _ kept =>
    let rest := kept.filter fun entry => (details.lookup entry.1).isNone
    setBody target (.exception type arguments (details ++ rest))
  | _, _ => return ()

/-- Gives a property of a script's class the description of its getter. -/
def describeProperty (target : Identity) (arguments : List Identity) : GuestM Unit := do
  let g ← get
  let given (place : Nat) : Option Identity := arguments[place]?.filter fun id => !g.isNone id
  match given 0, given 3 with
  | some getter, .none =>
    if let some description ← attribute? getter (.ofString "__doc__") then
      setAttributeNamed target (.ofString "__doc__") description
  | _, _ => return ()

/-- Starts an object as one of the interpreter's own classes does that its class extends. -/
def startAs (owner : String) (target : Identity) (arguments : List Identity) : GuestM Unit := do
  let g ← get
  let family := g.family target
  if owner = "object" then startPlain target arguments
  else if family = "property" then describeProperty target arguments
  else if startsEmpty family then
    if 1 < arguments.length && family ≠ "bytearray" then
      let name := if family = "set" then g.className target else family
      typeError (name ++ " expected at most 1 argument, got " ++ toString arguments.length)
    if family = "dict" then
      if let some source := arguments.head? then updateDict target source
    else setBody target (← bodyFor family arguments)
  else if Builtin.isException family then
    unless isEarlyException owner do startException target owner arguments
  else if Builtin.newcomerOf family = "object" then startPlain target arguments

/-- Starts an object as the nearest of the interpreter's own classes does that its class extends. -/
def startData (target : Identity) (arguments : List Identity) : GuestM Unit := do
  match (← get).entryOf target (.ofString "__init__") with
  | some (.own owner _ _) => startAs owner target arguments
  | _ => startAs ((← get).family target) target arguments

/-- Whether a class gives an object of its own back as it is. -/
def keepsOwn (class? : String) (g : Guest) (arguments : List Identity) : Bool :=
  match arguments with
  | [id] => g.isExact id && (g.body id).className == class? &&
      ["str", "int", "float", "complex", "tuple", "frozenset", "bytes"].contains class?
  | _ => false

/-- The object that holds something, where single objects are told from new ones. -/
def objectFor : Body → GuestM Identity
  | .int n => int n
  | .bool b => bool b
  | .text t => text t
  | .bytes data => bytes data
  | .tuple items => tuple items.toList
  | body => allocate body

def makeSlice (arguments : List Identity) : GuestM Identity := do
  let empty ← none
  match arguments with
  | [stop] => allocate (.slice empty stop empty)
  | [start, stop] => allocate (.slice start stop empty)
  | start :: stop :: step :: _ => allocate (.slice start stop step)
  | [] => return empty

def makeEnumerate (arguments : List Identity) : GuestM Identity := do
  let start ← match arguments[1]? with
    | some id => indexOf id
    | .none => pure 0
  allocate (.iterator "enumerate" (.numbered (← iterator (arguments.headD default)) start))

def makeSuper (arguments : List Identity) : GuestM Identity := do
  let g ← get
  match arguments with
  | [] => raise (.of "RuntimeError" "super(): no arguments")
  | _ :: _ :: _ :: _ =>
    typeError ("super() expected at most 2 arguments, got " ++ toString arguments.length)
  | class? :: target =>
    if !g.isClassObject class? then
      typeError ("super() argument 1 must be a type, not " ++ g.classLabel class?)
    match target.filter fun id => !g.isNone id with
    | [] => allocate (.ancestral class? Option.none)
    | id :: _ =>
      let own ← classOf id
      let g ← get
      if g.isSubclass own class? || (g.isClassObject id && g.isSubclass id class?) then
        allocate (.ancestral class? (some id))
      else typeError "super(type, obj): obj must be an instance or subtype of type"

/-- Makes an object of one of the interpreter's own classes. -/
def construct (class? : String) (arguments : List Identity) : GuestM Identity := do
  let first := arguments.headD default
  let g ← get
  if keepsOwn class? g arguments then return first
  else match class?, arguments with
    | "object", _ =>
      if arguments.isEmpty then allocate (.plain "object") else typeError "object() takes no arguments"
    | "type", [id] => classOf id
    | "type", [name, bases, attributes] => do makeClassFrom (← builtin "type") name bases attributes
    | "type", _ => typeError "type() takes 1 or 3 arguments"
    | "range", [stop] => do makeRange (← int 0) stop (← int 1)
    | "range", [start, stop] => do makeRange start stop (← int 1)
    | "range", start :: stop :: step :: _ => makeRange start stop step
    | "slice", _ => makeSlice arguments
    | "memoryview", _ => makeMemoryView first
    | "enumerate", _ =>
      if arguments.isEmpty then typeError "enumerate() missing required argument 'iterable'"
      else makeEnumerate arguments
    | "zip", sources => do allocate (.iterator "zip" (.together (← sources.mapM iterator)))
    | "map", function :: source :: sources => do
      allocate (.iterator "map" (.mapped function (← (source :: sources).mapM iterator)))
    | "map", _ => typeError "map() must have at least two arguments."
    | "filter", [function, source] => do
      let source ← iterator source
      allocate (.iterator "filter" (.filtered (if g.isNone function then Option.none else some function) source))
    | "reversed", _ => reversed first
    | "super", _ => makeSuper arguments
    | "classmethod", [function] => allocate (.classMethod function)
    | "staticmethod", [function] => allocate (.staticMethod function)
    | "property", _ =>
      let given (place : Nat) : Option Identity := arguments[place]?.filter fun id => !g.isNone id
      allocate (.property (given 0) (given 1) (given 2) Option.none)
    | "method", [function, self] => allocate (.method function self)
    | "mappingproxy", [source] =>
      if g.isMapping source then allocate (.proxy source)
      else typeError ("mappingproxy() argument must be a mapping, not " ++ g.classLabel source)
    | "Opaque", _ => do allocate (.tagged ((g.text? first).map Text.lossy))
    | "NoneType", [] => none
    | "ellipsis", [] => intern .ellipsis
    | "NotImplementedType", [] => intern .notImplemented
    | _, _ =>
      if Builtin.hiddenClasses.contains class? then
        typeError ("cannot create '" ++ Builtin.qualifiedName class? ++ "' instances")
      else do objectFor (← bodyFor class? arguments)

end ScriptHost.GuestM
