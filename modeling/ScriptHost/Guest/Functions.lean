import ScriptHost.Guest.Method.Objects

/-! The functions that stand under built-in names. -/
namespace ScriptHost

/-- How many arguments the classes and functions under built-in names take. -/
def Builtin.callArity (name : String) : Arity :=
  if ["abs", "aiter", "all", "any", "ascii", "bin", "callable", "chr", "hash", "hex", "id", "len", "oct",
      "ord", "repr"].contains name then .one
  else match name with
    | "globals" | "locals" => .none
    | "delattr" | "divmod" | "hasattr" | "isinstance" | "issubclass" | "filter" => .positional 2 2
    | "reversed" | "sorted" | "classmethod" | "staticmethod" => .positional 1 1
    | "bool" | "dict" | "dir" | "float" | "frozenset" | "list" | "set" | "tuple" | "vars" | "input" => .positional 0 1
    | "anext" | "format" | "iter" | "next" => .positional 1 2
    | "getattr" => .positional 2 3
    | "setattr" => .positional 3 3
    | "range" | "slice" => .positional 1 3
    | "complex" | "int" | "enumerate" => .named 0 2
    | "bytearray" | "bytes" | "str" => .named 0 3
    | "memoryview" => .named 1 1
    | "property" => .positional 0 4
    | "pow" => .named 2 3
    | "round" | "sum" => .named 1 2
    | "__import__" => .named 1 5
    | _ => .any

namespace GuestM

/-- The number of items of an object. -/
def lengthOf (id : Identity) : GuestM Identity := do
  match ← length? id with
  | some n => if FitsWord n then int n else raise tooLargeForSize
  | .none => typeError ("object of type '" ++ (← classLabel id) ++ "' has no len()")

/-- The items of an object in order. -/
def sorted (id : Identity) : GuestM Identity := do
  list (← sort (← itemsOf id))

/-- Adds up the items of an object, from zero or another start on. -/
def sum (source : Identity) (start : Option Identity) : GuestM Identity := do
  let c ← cursor source
  let refused (what empty : String) : GuestM Unit :=
    typeError ("sum() can't sum " ++ what ++ " [use " ++ empty ++ ".join(seq) instead]")
  let start ← match start with
    | some start => pure start
    | .none => int 0
  match ← bodyOf start with
  | .text _ => refused "strings" "''"
  | .bytes _ => refused "bytes" "b''"
  | .byteArray _ => refused "bytearray" "b''"
  | _ => return ← foldUntil (fun total item => return (← operate .add total item, false)) mostItems start c
  return start

def extreme (name : String) (c : Comparison) (arguments : List Identity) : GuestM Identity := do
  let better (best : Option Identity) (item : Identity) : GuestM (Option Identity) := do
    match best with
    | .none => return some item
    | some found => return if ← compare c item found then some item else best
  match arguments with
  | [] => typeError (name ++ " expected at least 1 argument, got 0")
  | [source] =>
    match ← foldItems source Option.none better with
    | some best => return best
    | .none => valueError (name ++ "() arg is an empty sequence")
  | first :: _ => return (← arguments.foldlM better Option.none).getD first

def next (id : Identity) (fallback : Option Identity) : GuestM Identity := do
  let g ← get
  if !isIteratorObject g id then typeError ("'" ++ g.classLabel id ++ "' object is not an iterator")
  let step : GuestM (Option Identity) := do
    match ← specially? "__next__" id [] with
    | some item => return some item
    | .none => nextOfData id
  match ← tryCatch step (fun f => if fallback.isSome && f.isA "StopIteration" then return .none else raise f),
      fallback with
  | some item, _ | .none, some item => return item
  | .none, .none => raise (.of "StopIteration" "")

/-- Whether an object can be called. -/
def isCallable (g : Guest) (id : Identity) : Bool :=
  match g.body id with
  | .builtin _ | .classObject _ | .function _ _ | .bound _ _ _ _ | .method _ _ | .staticMethod _ => true
  | .plain "GenericAlias" => true
  | .member _ _ kind => kind = .method || kind = .slot || kind = .classMethod
  | _ => (g.special? id "__call__").isSome

def anyOf (source : Identity) (wanted : Bool) : GuestM Identity := do
  let found ← foldItemsUntil source false fun _ item => do
    let isFound := (← truth item) == wanted
    return (isFound, isFound)
  bool (found == wanted)

def nameArgument (id : Identity) : GuestM Text := do
  match (← get).text? id with
  | some t => return t
  | .none => typeError ("attribute name must be string, not '" ++ (← classLabel id) ++ "'")

def inBase (base : Nat) (letter : String) (id : Identity) : GuestM Identity := do
  let n ← indexOf id
  string ((if n < 0 then "-0" else "0") ++ letter ++ String.ofList (Nat.toDigits base n.natAbs))

def pointOf (id : Identity) : GuestM Identity := do
  let g ← get
  let several (size : Nat) : GuestM Identity :=
    typeError ("ord() expected a character, but string of length " ++ toString size ++ " found")
  match g.body id with
  | .text ⟨[p]⟩ => int p
  | .text t => several t.length
  | .bytes [b] | .byteArray [b] => int b.toNat
  | .bytes data | .byteArray data => several data.length
  | _ => typeError ("ord() expected string of length 1, but " ++ g.classLabel id ++ " found")

def character (id : Identity) : GuestM Identity := do
  let n ← smallIntOf id
  if 0 ≤ n ∧ n < 0x110000 then text ⟨[n.toNat]⟩ else valueError "chr() arg not in range(0x110000)"

/-- What the class of an operand makes of a power with a modulus, unless it leaves that to the others. -/
def powerBy (base exponent modulus operand : Identity) : GuestM (Option Identity) := do
  let g ← get
  match g.number? operand, g.number? base, g.number? exponent, g.number? modulus with
  | some (.int _), some (.int n), some (.int e), some (.int m) => some <$> modularPower n e m
  | some (.float _), _, _, _ => typeError "pow() 3rd argument not allowed unless all arguments are integers"
  | some (.complex _ _), some _, some _, _ => valueError "complex modulo"
  | _, _, _, _ => return .none

def raised (base exponent modulus : Identity) : GuestM Identity := do
  let g ← get
  if g.isNone modulus then operate .power base exponent
  else match ← [base, exponent, modulus].findSomeM? (powerBy base exponent modulus) with
    | some result => return result
    | .none =>
      let label (id : Identity) : String := "'" ++ g.classLabel id ++ "'"
      typeError ("unsupported operand type(s) for ** or pow(): " ++ label base ++ ", " ++ label exponent ++
        ", " ++ label modulus)

def attributesOfObject (id : Identity) : GuestM Identity := do
  match ← attribute? id (.ofString "__dict__") with
  | some attributes => return attributes
  | .none => typeError "vars() argument must have __dict__ attribute"

def hashOf (id : Identity) : GuestM Identity := do int (Hash.signed (← hash id))

def magnitudeOf (id : Identity) : GuestM Identity := do
  let g ← get
  match ← specially? "__abs__" id [], g.number? id with
  | some answer, _ => return answer
  | .none, some number => magnitude number
  | .none, .none => typeError ("bad operand type for abs(): '" ++ g.classLabel id ++ "'")

def callsUntil (function sentinel : Identity) : GuestM Identity := do
  if isCallable (← get) function then allocate (.iterator "callable_iterator" (.calls function sentinel))
  else typeError "iter(v, w): v must be callable"

/-- Calls a function under a built-in name with as many arguments as it takes. -/
def callFunction (name : String) (arguments : List Identity) : GuestM Identity := do
  let first := arguments.headD default
  let second := arguments.getD 1 default
  let third := arguments[2]?
  match name with
  | "abs" => magnitudeOf first
  | "aiter" => typeError ("'" ++ (← classLabel first) ++ "' object is not an async iterable")
  | "anext" => typeError ("'" ++ (← classLabel first) ++ "' object is not an async iterator")
  | "all" => anyOf first false
  | "any" => anyOf first true
  | "ascii" => do text (← represent first).asciiOnly
  | "bin" => inBase 2 "b" first
  | "callable" => do bool (isCallable (← get) first)
  | "chr" => character first
  | "delattr" =>
    deleteAttributeNamed first (← nameArgument second)
    none
  | "dir" =>
    match arguments with
    | [] => do list (← sort (((← get).entries (← place).globals).map (·.key)))
    | _ =>
      match ← specially? "__dir__" first [] with
      | some names => sorted names
      | .none => do sorted (← attributeNames first)
  | "divmod" => operate .divideWithRest first second
  | "format" => do
    let spec ← match arguments[1]? with
      | some spec => textArgument "format() argument 2" spec
      | .none => pure ⟨[]⟩
    text (← formatted first spec)
  | "getattr" =>
    let wanted ← nameArgument second
    match third with
    | some fallback => return (← attribute? first wanted).getD fallback
    | .none => attributeNamed first wanted
  | "globals" | "locals" => return (← place).globals
  | "hasattr" => do bool (← attribute? first (← nameArgument second)).isSome
  | "hash" => hashOf first
  | "hex" => inBase 16 "x" first
  | "id" => int first.number
  | "input" => raise (.of "EOFError" "EOF when reading a line")
  | "isinstance" => do bool (← isInstanceOf first second)
  | "issubclass" => do bool (← isSubclassOf first second)
  | "iter" => if arguments.length = 2 then callsUntil first second else iterator first
  | "len" => lengthOf first
  | "max" => extreme "max" .greater arguments
  | "min" => extreme "min" .less arguments
  | "next" => next first arguments[1]?
  | "oct" => inBase 8 "o" first
  | "ord" => pointOf first
  | "pow" => do raised first second (third.getD (← none))
  | "print" =>
    print arguments Option.none
    none
  | "repr" => do text (← represent first)
  | "round" =>
    let g ← get
    match ← specially? "__round__" first ((arguments[1]?).filter fun id => !g.isNone id).toList with
    | some answer => return answer
    | .none => rounded first arguments[1]?
  | "setattr" =>
    setAttributeNamed first (← nameArgument second) (third.getD default)
    none
  | "sorted" => sorted first
  | "sum" => sum first arguments[1]?
  | "vars" => if arguments.isEmpty then return (← place).globals else attributesOfObject first
  | _ => typeError ("cannot call " ++ name ++ "() here")

end GuestM
end ScriptHost
