import ScriptHost.Text.Basic

/-! Exceptions that the interpreter raises: the class, the text, and the frames passed on the
way out. -/
namespace ScriptHost

/-- A place that an exception passed: a line of a file and the function it stands in. -/
structure Frame where
  file : String := "<string>"
  line : Nat
  context : String := "<module>"
  deriving DecidableEq, Inhabited

/-- An exception on its way out. -/
structure Fault where
  /-- The name of the class. -/
  type : String
  /-- The nearest class of the interpreter's own. -/
  family : String
  /-- The text, unless asking for it raised in turn. -/
  text : Option Text
  /-- The frames passed, the outermost first. -/
  frames : List Frame := []
  deriving DecidableEq, Inhabited

namespace Fault

/-- An exception of one of the interpreter's own classes. -/
def of (type text : String) : Fault := ⟨type, type, some (.ofString text), []⟩

def typeError (text : String) : Fault := of "TypeError" text
def valueError (text : String) : Fault := of "ValueError" text
def attributeError (text : String) : Fault := of "AttributeError" text
def nameError (name : String) : Fault := of "NameError" ("name '" ++ name ++ "' is not defined")

/-- Raised where an evaluation nests too deeply. -/
def tooDeep : Fault := of "RecursionError" "maximum recursion depth exceeded"

/-- The class and the text of an exception. -/
def message (f : Fault) : String :=
  f.type ++ ": " ++
    match f.text with
    | some text => text.lossy
    | none => "<exception str() failed>"

private def frameLine (frame : Frame) : String :=
  "  File \"" ++ frame.file ++ "\", line " ++ toString frame.line ++ ", in " ++ frame.context ++ "\n"

/-- The frames of an exception, one a line, under a heading. -/
def traceback (f : Fault) : String :=
  "Traceback (most recent call last):\n" ++ String.join (f.frames.map frameLine)

/-- The exception seen from one frame further out. -/
def within (frame : Frame) (f : Fault) : Fault := { f with frames := frame :: f.frames }

end Fault
end ScriptHost
