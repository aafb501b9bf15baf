import ScriptHost.Config
import ScriptHost.Value.Display

/-! The bindings of a call: names and values paired in order, after a leading label is taken out. -/
namespace ScriptHost

/-- What a call hands to a script, and the label that its output goes under. -/
structure Bindings where
  label : String
  pairs : List (String × Value)

namespace Bindings

/-- The text of a label: a string as it is, any other value as messages show it. -/
def labelText : Value → String
  | .string s => s
  | v => v.display

/-- Takes a leading label binding out of names and values; the label's value goes with it. -/
def takeLabel (config : Config) (names : List String) (values : List Value) :
    String × List String × List Value :=
  match names with
  | name :: names' =>
    if name = config.labelBinding then
      match values with
      | v :: values' => (labelText v, names', values')
      | [] => (config.defaultLabel, names', [])
    else (config.defaultLabel, names, values)
  | [] => (config.defaultLabel, [], values)

private def repeatedNames : List String → List String → List String
  | _, [] => []
  | seen, name :: rest =>
    if seen.contains name then name :: repeatedNames seen rest
    else repeatedNames (name :: seen) rest

/-- The bindings of names and values, and what pairing them up reports. -/
def ofArguments (config : Config) (names : List String) (values : List Value) :
    Bindings × List Record :=
  let (label, names, values) := takeLabel config names values
  let pairs := names.zip values
  let ignored : List Record :=
    if names.length = values.length then []
    else [⟨.debug, .evaluator, "[Evaluator] " ++ toString names.length ++ " binding name(s) for " ++
      toString values.length ++ " value(s); extra entries ignored"⟩]
  let repetitions : List Record := (repeatedNames [] (pairs.map (·.1))).map fun name =>
    ⟨.warn, .evaluator, "[Evaluator] binding '" ++ name ++ "' given more than once; the last value wins"⟩
  (⟨label, pairs⟩, ignored ++ repetitions)

end Bindings
end ScriptHost
