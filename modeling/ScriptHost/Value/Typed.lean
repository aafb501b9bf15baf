import Std.Data.ExtTreeMap
import ScriptHost.Value.Display
import ScriptHost.Value.Error

/-! Typed views of values: a grammar of target types, the data each one denotes, and the
conversions between values and typed data in both directions. -/
namespace ScriptHost

/-- A type that a value can be taken as. -/
inductive Target where
  | value | bool | int64 | int32 | integer | float | string | handle | host
  | list (item : Target)
  | option (item : Target)
  | map (item : Target)
  deriving DecidableEq

namespace Target

/-- Maps from strings, blind to the order in which they were filled. -/
abbrev StringMap (α : Type) := Std.ExtTreeMap String α compare

/-- The data that a target type stands for. -/
@[reducible] def Denote : Target → Type
  | .value => Value
  | .bool => Bool
  | .int64 => Int64
  | .int32 => Int32
  | .integer => Int
  | .float => Double
  | .string => String
  | .handle => Identity
  | .host => HostObject
  | .list item => List item.Denote
  | .option item => Option item.Denote
  | .map item => StringMap item.Denote

private def mismatch {α : Type} (expected : Kind) : Value → Except ConversionError α
  | .null => .error .nullValue
  | other => .error (.typeMismatch expected other.kind)

def extractInt64 : Value → Except ConversionError Int64
  | .int n => .ok n
  | .bigInt n => .error (.integerOverflow (toString n) .bits64)
  | other => mismatch .int other

def extractInt32 (v : Value) : Except ConversionError Int32 :=
  match extractInt64 v with
  | .error (.integerOverflow text _) => .error (.integerOverflow text .bits32)
  | .error e => .error e
  | .ok n =>
    if FitsHalfWord n.toInt then .ok (Int32.ofInt n.toInt)
    else .error (.integerOverflow (toString n.toInt) .bits32)

/-- Extracts the items of a list in order, naming the place of the first that fails. -/
def extractItems {α : Type} (item : Value → Except ConversionError α) :
    Nat → List Value → Except ConversionError (List α)
  | _, [] => .ok []
  | index, v :: vs =>
    match item v with
    | .error e => .error (.listElement index e)
    | .ok x =>
      match extractItems item (index + 1) vs with
      | .error e => .error e
      | .ok xs => .ok (x :: xs)

/-- Extracts the entries of a map in order; a key must be a string. -/
def extractEntries {α : Type} (item : Value → Except ConversionError α) :
    StringMap α → List (Value × Value) → Except ConversionError (StringMap α)
  | found, [] => .ok found
  | found, (.string key, v) :: rest =>
    match item v with
    | .error e => .error (.mapEntry key e)
    | .ok x => extractEntries item (found.insert key x) rest
  | _, (key, _) :: _ => .error (.mapEntry key.display (.typeMismatch .string key.kind))

/-- Takes a value as a target type. -/
def extract : (t : Target) → Value → Except ConversionError t.Denote
  | .value, v => .ok v
  | .bool, .bool b => .ok b
  | .bool, other => mismatch .bool other
  | .int64, v => extractInt64 v
  | .int32, v => extractInt32 v
  | .integer, .int n => .ok n.toInt
  | .integer, .bigInt n => .ok n
  | .integer, other => mismatch .bigInt other
  | .float, .float x => .ok x
  | .float, .int n => .ok (.ofInt n.toInt)
  | .float, .bigInt n => .ok (.ofInt n)
  | .float, other => mismatch .float other
  | .string, .string s => .ok s
  | .string, other => mismatch .string other
  | .handle, .handle id => .ok id
  | .handle, other => mismatch .handle other
  | .host, .host o => .ok o
  | .host, other => mismatch .host other
  | .list item, .list items => extractItems item.extract 0 items
  | .list _, other => .error (.typeMismatch .list other.kind)
  | .option _, .null => .ok none
  | .option item, other => (item.extract other).map some
  | .map item, .map entries => extractEntries item.extract ∅ entries.toList
  | .map _, other => .error (.typeMismatch .map other.kind)

/-- An option takes a value that is there as its type does. -/
theorem extract_option {v : Value} (hv : v.isNull = false) (item : Target) :
    extract (.option item) v = (item.extract v).map some := by
  cases v with
  | null => cases hv
  | _ => rfl

theorem extract_option_ok {v : Value} (hv : v.isNull = false) {item : Target} {x : Option item.Denote}
    (h : extract (.option item) v = .ok x) : ∃ y, item.extract v = .ok y ∧ x = some y := by
  rw [extract_option hv] at h
  cases hitem : item.extract v with
  | error e => simp [hitem, Except.map] at h
  | ok y =>
    rw [hitem] at h
    exact ⟨y, rfl, (Except.ok.inj h).symm⟩

/-- The value of typed data; the entries of a map come in the order of their keys. -/
def toValue : (t : Target) → t.Denote → Value
  | .value, v => v
  | .bool, b => .bool b
  | .int64, n => .int n
  | .int32, n => .int (Int64.ofInt n.toInt)
  | .integer, n => .integer n
  | .float, x => .float x
  | .string, s => .string s
  | .handle, id => .handle id
  | .host, o => .host o
  | .list item, xs => .list (xs.map item.toValue)
  | .option item, x => (x.map item.toValue).getD .null
  | .map item, xs => .map (ValueMap.ofList (xs.toList.map fun (key, x) => (.string key, item.toValue x)))

end Target
end ScriptHost
