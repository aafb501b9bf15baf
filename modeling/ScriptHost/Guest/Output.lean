/-! The writer that stands in for standard output during an evaluation: it cuts what is written
into lines. -/
namespace ScriptHost

/-- A writer with its label and the text after the last line it has emitted. -/
structure LineWriter where
  label : String
  pending : List Char := []
  deriving DecidableEq, Inhabited

namespace LineWriter

def isLineEnd (c : Char) : Bool := c == '\n' || c == '\r'

/-- A line without the line ends that close it. -/
def trimmed (line : List Char) : List Char := (line.reverse.dropWhile isLineEnd).reverse

/-- The lines that a text completes, and what follows the last of them. -/
def cut : List Char → List (List Char) × List Char
  | [] => ([], [])
  | c :: rest =>
    match cut rest with
    | (lines, left) =>
      if c = '\n' then ([] :: lines, left)
      else match lines with
        | [] => ([], c :: left)
        | line :: lines => ((c :: line) :: lines, left)

/-- The lines that writing a text emits, and the writer afterwards. -/
def write (w : LineWriter) (text : List Char) : List String × LineWriter :=
  match cut (w.pending ++ text) with
  | (lines, pending) => (lines.map fun line => String.ofList (trimmed line), { w with pending })

/-- The pending text as a line of its own, if there is any. -/
def flush (w : LineWriter) : List String × LineWriter :=
  (if w.pending.isEmpty then [] else [String.ofList w.pending], { w with pending := [] })

/-- What is done to a writer. -/
inductive Stroke where
  | write (text : List Char)
  | flush
  deriving DecidableEq

/-- The lines that a stroke emits, and the writer afterwards. -/
def strike (w : LineWriter) : Stroke → List String × LineWriter
  | .write text => w.write text
  | .flush => w.flush

end LineWriter
end ScriptHost
