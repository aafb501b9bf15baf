import ScriptHost.Text.CodePoint

/-! Quoted text as the host writes it: double quotes, named escapes for five characters,
and `\u` escapes in braces for what has no form of its own. -/
namespace ScriptHost.Text

private def hexDigits (n : Nat) : String := String.ofList (Nat.toDigits 16 n)

/-- The written form of one character between double quotes. -/
def quoteChar (c : Char) : String :=
  match c with
  | '\x00' => "\\0"
  | '\t' => "\\t"
  | '\n' => "\\n"
  | '\r' => "\\r"
  | '"' => "\\\""
  | '\\' => "\\\\"
  | c =>
    if CodePoint.isUnprintable c.toNat || CodePoint.isExtending c.toNat
    then "\\u" ++ "\x7b" ++ hexDigits c.toNat ++ "\x7d"
    else c.toString

/-- A text in double quotes. -/
def quote (s : String) : String :=
  "\"" ++ s.foldl (fun out c => out ++ quoteChar c) "" ++ "\""

end ScriptHost.Text
