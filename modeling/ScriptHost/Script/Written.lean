import ScriptHost.Number.Decimal
import ScriptHost.Script.Syntax

/-! The source text of scripts, one statement a line. -/
namespace ScriptHost

private def paddedHex (width n : Nat) : String :=
  let digits := String.ofList (Nat.toDigits 16 n)
  String.ofList (List.replicate (width - digits.length) '0') ++ digits

private def writtenInt (n : Int) : String :=
  if n < 0 then "(-0x" ++ paddedHex 1 n.natAbs ++ ")" else "0x" ++ paddedHex 1 n.natAbs

private def writtenPoint (p : Nat) : String :=
  if p = 39 then "\\'" else if p = 92 then "\\\\"
  else if p = 10 then "\\n" else if p = 13 then "\\r" else if p = 9 then "\\t"
  else if 32 ≤ p ∧ p < 127 then (Char.ofNat p).toString
  else if p < 256 then "\\x" ++ paddedHex 2 p
  else if p < 65536 then "\\u" ++ paddedHex 4 p
  else "\\U" ++ paddedHex 8 p

private def writtenText (t : Text) : String := "'" ++ String.join (t.points.map writtenPoint) ++ "'"

private def writtenBytes (data : List UInt8) : String :=
  "bytes.fromhex('" ++ String.join (data.map fun b => paddedHex 2 b.toNat) ++ "')"

private def commaSeparated (parts : List String) : String := ", ".intercalate parts

mutual
/-- The source text of an expression. -/
def Expr.written : Expr → String
  | .none => "None"
  | .ellipsis => "..."
  | .bool b => if b then "True" else "False"
  | .int n => writtenInt n
  | .float x => "float('" ++ x.write .literal ++ "')"
  | .complex re im => "complex(float('" ++ re.write .literal ++ "'), float('" ++ im.write .literal ++ "'))"
  | .text t => writtenText t
  | .bytes data => writtenBytes data
  | .byteArray data => "bytearray(" ++ writtenBytes data ++ ")"
  | .memoryView source => "memoryview(" ++ source.written ++ ")"
  | .list items => "[" ++ commaSeparated (writtenItems items) ++ "]"
  | .tuple items => "tuple([" ++ commaSeparated (writtenItems items) ++ "])"
  | .set items => "set([" ++ commaSeparated (writtenItems items) ++ "])"
  | .frozenSet items => "frozenset([" ++ commaSeparated (writtenItems items) ++ "])"
  | .dict entries => "dict([" ++ commaSeparated (writtenEntries entries) ++ "])"
  | .range start stop step =>
    "range(" ++ start.written ++ ", " ++ stop.written ++ ", " ++ step.written ++ ")"
  | .repeated count s => writtenText (.ofString s) ++ " * " ++ toString count
  | .nested depth inner => "nested(" ++ toString depth ++ ", " ++ inner.written ++ ")"
  | .countdown count => "dict((i, -i) for i in range(" ++ toString count ++ "))"
  | .name dotted => dotted
  | .builtin dotted => dotted
  | .namespaceNames => "sorted(globals())"
  | .outputType => "type(sys.stdout).__name__"
  | .binary .add a b => a.written ++ " + " ++ b.written
  | .binary .multiply a b => a.written ++ " * " ++ b.written
  | .binary .divide a b => a.written ++ " / " ++ b.written
  | .binary .subscript a b => a.written ++ "[" ++ b.written ++ "]"
  | .binary .identical a b => a.written ++ " is " ++ b.written
  | .attribute target name => target.written ++ "." ++ name
  | .call function arguments => function.written ++ "(" ++ commaSeparated (writtenItems arguments) ++ ")"
  | .apply function argument =>
    function.name ++ "(" ++ argument.written ++ ")" ++ (if function = .typeName then ".__name__" else "")
  | .increment => "lambda x: x + 1"
  | .opaqueObject tag => "Opaque(" ++ writtenText (.ofString tag) ++ ")"
  | .generator items _ => "generator([" ++ commaSeparated (writtenItems items) ++ "])"
  | .dropHandles dictionary => "drop_handles(" ++ dictionary ++ ")"
  | .object shape _ _ _ _ _ => shape.name ++ "()"
termination_by structural e => e
def writtenItems : List Expr → List String
  | [] => []
  | item :: items => item.written :: writtenItems items
termination_by structural items => items
def writtenEntries : List (Expr × Expr) → List String
  | [] => []
  | entry :: entries => writtenEntry entry :: writtenEntries entries
termination_by structural entries => entries
def writtenEntry : Expr × Expr → String
  | (key, value) => "(" ++ key.written ++ ", " ++ value.written ++ ")"
termination_by structural entry => entry
end

/-- The source line of a statement. -/
def Statement.written : Statement → String
  | .assign name value => name ++ " = " ++ value.written
  | .evaluate value => value.written
  | .append name value => name ++ ".append(" ++ value.written ++ ")"
  | .setItem name key value => name ++ "[" ++ key.written ++ "] = " ++ value.written
  | .delete name => "del " ++ name
  | .print value none => "print(" ++ value.written ++ ")"
  | .print value (some ending) => "print(" ++ value.written ++ ", end=" ++ ending.written ++ ")"
  | .write name value => name ++ " = __import__('sys').stdout.write(" ++ value.written ++ ")"
  | .flush => "__import__('sys').stdout.flush()"
  | .dropOutput => "__import__('sys').stdout = None"
  | .raise type arguments => "raise " ++ type ++ "(" ++ commaSeparated (writtenItems arguments) ++ ")"
  | .raiseObject value => "raise " ++ value.written
  | .defineRaise name type value =>
    "def " ++ name ++ "(): raise " ++ type ++ "(" ++ value.written ++ ")"
  | .importModule name => "import " ++ name
  | .insertPath value => "__import__('sys').path.insert(0, " ++ value.written ++ ")"
  | .clearPath => "__import__('sys').path = []"
  | .pass => "pass"
  | .comment text => "# " ++ text

def Script.written : Script → String
  | .lines statements => "\n".intercalate (statements.map Statement.written)
  | .source text => text

end ScriptHost
