import ScriptHost.Value.Basic

/-! Why a value cannot be taken as a given type, and at which place of it. -/
namespace ScriptHost

/-- The integer widths that an extraction can overflow. -/
inductive Width where
  | bits32 | bits64
  deriving DecidableEq

def Width.name : Width → String
  | .bits32 => "i32"
  | .bits64 => "i64"

/-- The cause of a failed extraction; the outer constructors lead to its place. -/
inductive ConversionError where
  | typeMismatch (expected found : Kind)
  | nullValue
  | integerOverflow (value : String) (target : Width)
  | listElement (index : Nat) (source : ConversionError)
  | mapEntry (key : String) (source : ConversionError)
  deriving DecidableEq, Inhabited

namespace ConversionError

/-- The name of the cause. -/
def name : ConversionError → String
  | .typeMismatch _ _ => "TypeMismatch"
  | .nullValue => "NullValue"
  | .integerOverflow _ _ => "IntegerOverflow"
  | .listElement _ _ => "ListElement"
  | .mapEntry _ _ => "MapEntry"

/-- The cause inside a cause that names a place. -/
def source? : ConversionError → Option ConversionError
  | .listElement _ source | .mapEntry _ source => some source
  | _ => none

def message : ConversionError → String
  | .typeMismatch expected found =>
    "Type mismatch: expected " ++ expected.name ++ ", found " ++ found.name
  | .nullValue => "Unexpected null value"
  | .integerOverflow value target =>
    "Integer overflow: value " ++ value ++ " doesn't fit in " ++ target.name
  | .listElement index source =>
    "List element conversion failed at index " ++ toString index ++ ": " ++ source.message
  | .mapEntry key source => "Map entry '" ++ key ++ "' conversion failed: " ++ source.message

end ConversionError
end ScriptHost
