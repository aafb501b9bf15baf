import ScriptHost.Guest.Member
import ScriptHost.Guest.Operators

/-! Arguments of calls: how a wrong number of them is refused, and how what a function asks for is
taken from an object. -/
namespace ScriptHost

/-- Whether a function can be called with so many arguments. -/
def Arity.admits : Arity → Nat → Bool
  | .none, given => given == 0
  | .one, given => given == 1
  | .positional least most, given | .named least most, given => least ≤ given && given ≤ most
  | .any, _ => true

private def counted (count : Nat) (noun : String) : String :=
  toString count ++ " " ++ noun ++ (if count = 1 then "" else "s")

/-- The names of the arguments that functions insist on, where messages tell them. -/
private def requiredNames : List (String × List String) := [
  ("pow", ["base", "exp"]), ("round", ["number"]), ("memoryview", ["object"]), ("compile", ["source"]),
  ("cast", ["format"]), ("from_bytes", ["bytes"]), ("__import__", ["name"])]

private def tooFewNamed (name : String) (least given : Nat) : String :=
  match (requiredNames.lookup name).bind (·[given]?) with
  | some missing =>
    name ++ "() missing required argument '" ++ missing ++ "' (pos " ++ toString (given + 1) ++ ")"
  | none =>
    let kind := if name = "sum" ∨ name = "translate" then "positional argument" else "argument"
    name ++ "() takes at least " ++ counted least kind ++ " (" ++ toString given ++ " given)"

/-- The exception that refuses a call with another number of arguments than a function takes, which
messages call by a full or by a short name. -/
def Arity.refusal (arity : Arity) (fullName name : String) (given : Nat) : Fault :=
  .typeError <| match arity with
    | .none | .any => fullName ++ "() takes no arguments (" ++ toString given ++ " given)"
    | .one => fullName ++ "() takes exactly one argument (" ++ toString given ++ " given)"
    | .positional least most =>
      let number := if least = most then "" else if given < least then "at least " else "at most "
      let bound := if given < least then least else most
      name ++ " expected " ++ number ++ counted bound "argument" ++ ", got " ++ toString given
    | .named least most =>
      if name = "sort" then "sort() takes no positional arguments"
      else if given < least then tooFewNamed name least given
      else
        let kind := if ["to_bytes", "from_bytes"].contains name then "positional argument" else "argument"
        name ++ "() takes at most " ++ counted most kind ++ " (" ++ toString given ++ " given)"

namespace Builtin

private def unarySlots : List String := [
  "__repr__", "__hash__", "__str__", "__iter__", "__next__", "__len__", "__neg__", "__pos__", "__abs__",
  "__bool__", "__invert__", "__int__", "__float__", "__index__", "__del__"]

/-- How many arguments the function behind an operator takes. -/
def slotArity (name : String) : Option (Nat × Nat) :=
  if unarySlots.contains name then some (0, 0)
  else if name = "__setitem__" ∨ name = "__setattr__" ∨ name = "__set__" then some (2, 2)
  else if name = "__pow__" ∨ name = "__rpow__" ∨ name = "__get__" then some (1, 2)
  else if name = "__call__" ∨ name = "__init__" then none
  else some (1, 1)

/-- The exception that refuses a call of the function behind an operator. -/
def slotRefusal (least most given : Nat) : Fault :=
  .typeError <|
    if least = most then
      (if most = 2 then " " else "") ++ "expected " ++ counted most "argument" ++ ", got " ++ toString given
    else " expected " ++ (if given < least then "at least " ++ counted least "argument"
      else "at most " ++ counted most "argument") ++ ", got " ++ toString given

end Builtin

namespace GuestM

/-- The integer of an object that a signed word has to hold. -/
def sizeOf (id : Identity) : GuestM Int := do
  let n ← indexOf id
  if FitsWord n then return n
  else raise tooLargeForSize

/-- The integer of an object that half a signed word has to hold. -/
def smallIntOf (id : Identity) : GuestM Int := do
  let n ← indexOf id
  if FitsHalfWord n then return n
  else raise (.of "OverflowError" "Python int too large to convert to C int")

/-- The integer of an argument, or a number of its own where there is none. -/
def sizeOr (default : Int) : Option Identity → GuestM Int
  | some id => sizeOf id
  | .none => return default

/-- The text of an argument that has to be one. -/
def textArgument (name : String) (id : Identity) : GuestM Text := do
  let g ← get
  match g.text? id with
  | some t => return t
  | .none => typeError (name ++ " must be str, not " ++ (if g.isNone id then "None" else g.classLabel id))

/-- The bytes of an argument that has to hold or show some. -/
def octetsOf (id : Identity) : GuestM (List UInt8) := do
  match (← get).octets? id with
  | some data => return data
  | .none => typeError ("a bytes-like object is required, not '" ++ (← classLabel id) ++ "'")

/-- Where a search in a sequence starts and stops, from two objects that may be left out. -/
def windowOf (bounds : List Identity) (size : Nat) : GuestM (Nat × Nat) := do
  let bound (id? : Option Identity) (open? : Int) : GuestM Int := do
    match id? with
    | .none => return open?
    | some id => return (← sliceEnd id).getD open?
  let fromEnd (n : Int) : Nat := (if n < 0 then max 0 (n + size) else n).toNat
  let start ← bound bounds[0]? 0
  let stop ← bound bounds[1]? size
  return (fromEnd start, fromEnd (min stop size))

end GuestM
end ScriptHost
