/-! Maximal runs of digits in a text. -/
namespace ScriptHost.Text

/-- Replaces the runs of digits among characters, after a run that has begun already and is given
from its last digit to its first. -/
def replaceRuns (replace : List Char → List Char) : List Char → List Char → List Char
  | [], [] => []
  | run, [] => replace run.reverse
  | run, c :: rest =>
    if c.isDigit then replaceRuns replace (c :: run) rest
    else (if run.isEmpty then [] else replace run.reverse) ++ c :: replaceRuns replace [] rest

/-- Replaces every maximal run of digits in a text. -/
def replaceDigits (replace : String → String) (s : String) : String :=
  String.ofList (replaceRuns (fun run => (replace (String.ofList run)).toList) [] s.toList)

end ScriptHost.Text
