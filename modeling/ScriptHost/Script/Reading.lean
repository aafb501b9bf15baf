import ScriptHost.Guest.Fault
import ScriptHost.Script.Syntax

/-! Reading source text: comments, blank lines, assignments of a name or literal, imports and
bare expressions, each on a line of its own, and the errors for everything else. -/
namespace ScriptHost.Reading

inductive Token where
  | word (s : String)
  | number (n : Nat)
  | text (s : String)
  | mark (c : Char)
  deriving DecidableEq, Inhabited

/-- Why a line is no statement. -/
inductive Defect where
  | invalid
  | unexpectedIndent
  | unterminatedText
  | neverClosed (opening : Char)
  | unmatched (closing : Char)
  deriving DecidableEq

/-- The error of a defect in a line of a file. -/
def Defect.fault (defect : Defect) (file : String) (line : Nat) : Fault :=
  let place := " (" ++ file ++ ", line " ++ toString line ++ ")"
  match defect with
  | .invalid => .of "SyntaxError" ("invalid syntax" ++ place)
  | .unexpectedIndent => .of "IndentationError" ("unexpected indent" ++ place)
  | .unterminatedText =>
    .of "SyntaxError" ("unterminated string literal (detected at line " ++ toString line ++ ")" ++ place)
  | .neverClosed c => .of "SyntaxError" ("'" ++ c.toString ++ "' was never closed" ++ place)
  | .unmatched c => .of "SyntaxError" ("unmatched '" ++ c.toString ++ "'" ++ place)

private def isWordStart (c : Char) : Bool := c.isAlpha || c == '_' || 127 < c.toNat
private def isWordPart (c : Char) : Bool := isWordStart c || c.isDigit

private def escaped : Char → Char
  | 'n' => '\n'
  | 'r' => '\r'
  | 't' => '\t'
  | '0' => '\x00'
  | c => c

/-- The rest of a quoted text and what follows it. -/
private def quotedRest (mark : Char) : List Char → List Char → Option (List Char × List Char)
  | _, [] => none
  | found, '\\' :: c :: rest => quotedRest mark (escaped c :: found) rest
  | found, c :: rest =>
    if c = mark then some (found.reverse, rest) else quotedRest mark (c :: found) rest

private def digitsValue (digits : List Char) : Nat :=
  digits.foldl (fun n c => 10 * n + (c.toNat - '0'.toNat)) 0

/-- The tokens of a line; each step uses up at least one character. -/
private def tokensTo : Nat → List Char → Except Defect (List Token)
  | 0, _ => .ok []
  | _ + 1, [] => .ok []
  | fuel + 1, c :: rest =>
    if c = '#' then .ok []
    else if c = ' ' ∨ c = '\t' ∨ c = '\x0c' then tokensTo fuel rest
    else if c = '\'' ∨ c = '"' then
      match quotedRest c [] rest with
      | none => .error .unterminatedText
      | some (text, rest) => (tokensTo fuel rest).map (.text (String.ofList text) :: ·)
    else if c.isDigit then
      let digits := c :: rest.takeWhile Char.isDigit
      (tokensTo fuel (rest.dropWhile Char.isDigit)).map (.number (digitsValue digits) :: ·)
    else if isWordStart c then
      let word := c :: rest.takeWhile fun c => isWordPart c || c == '.'
      (tokensTo fuel (rest.dropWhile fun c => isWordPart c || c == '.')).map
        (.word (String.ofList word) :: ·)
    else (tokensTo fuel rest).map (.mark c :: ·)

private def tokens (line : List Char) : Except Defect (List Token) := tokensTo (line.length + 1) line

private def isKeyword (word : String) : Bool :=
  ["False", "None", "True", "and", "as", "assert", "async", "await", "break", "class", "continue", "def",
    "del", "elif", "else", "except", "finally", "for", "from", "global", "if", "import", "in", "is",
    "lambda", "nonlocal", "not", "or", "pass", "raise", "return", "try", "while", "with", "yield"].contains word

private def atom? : Token → Option Expr
  | .word "None" => some .none
  | .word "True" => some (.bool true)
  | .word "False" => some (.bool false)
  | .word w => if isKeyword w then none else some (.name w)
  | .number n => some (.int n)
  | .text s => some (.text (.ofString s))
  | .mark _ => none

private def expression? : List Token → Option Expr
  | [token] => atom? token
  | [.mark '-', .number n] => some (.int (-(n : Int)))
  | [.word f, .mark '(', .mark ')'] => some (.call (.name f) [])
  | [.mark '[', .mark ']'] => some (.list [])
  | _ => none

private def statement? : List Token → Option Statement
  | [.word "pass"] => some .pass
  | [.word "import", .word name] => some (.importModule name)
  | [.word "del", .word name] => some (.delete name)
  | [.word "raise", .word type, .mark '(', .mark ')'] => some (.raise type [])
  | [.word "raise", .word type, .mark '(', .text s, .mark ')'] => some (.raise type [.text (.ofString s)])
  | .word name :: .mark '=' :: value =>
    if isKeyword name then none else (expression? value).map (.assign name)
  | value => (expression? value).map .evaluate

private def closing (c : Char) : Option Char :=
  if c = '(' then some ')' else if c = '[' then some ']' else if c = '\x7b' then some '\x7d' else none

/-- The first closing mark without an opening one, or else the last mark left open. -/
private def bracketDefect : List Char → List Token → Option Defect
  | [], [] => none
  | c :: _, [] => some (.neverClosed c)
  | opened, .mark c :: rest =>
    if (closing c).isSome then bracketDefect (c :: opened) rest
    else if c = ')' ∨ c = ']' ∨ c = '\x7d' then
      match opened with
      | [] => some (.unmatched c)
      | _ :: opened => bracketDefect opened rest
    else bracketDefect opened rest
  | opened, _ :: rest => bracketDefect opened rest

/-- Whether a line goes wrong before any bracket is opened. -/
private def failsEarly : List Token → Bool
  | .word w :: _ => w = "def" || w = "class"
  | _ => false

/-- The statement of a line, if one stands on it. -/
def readLine (line : List Char) : Except Defect (Option Statement) :=
  match tokens line with
  | .error defect => .error defect
  | .ok [] => .ok none
  | .ok found =>
    if line.head? = some ' ' ∨ line.head? = some '\t' then .error .unexpectedIndent
    else match statement? found with
      | some statement => .ok (some statement)
      | none => .error (if failsEarly found then .invalid else (bracketDefect [] found).getD .invalid)

def readLines (file : String) : Nat → List (List Char) → Except Fault (List (Nat × Statement))
  | _, [] => .ok []
  | number, line :: lines =>
    match readLine line with
    | .error defect => .error (defect.fault file number)
    | .ok none => readLines file (number + 1) lines
    | .ok (some statement) => (readLines file (number + 1) lines).map ((number, statement) :: ·)

/-- A text with every line end written as a newline, and without a mark of its byte order. -/
def normalized : List Char → List Char
  | '\ufeff' :: rest => lineEnds rest
  | text => lineEnds text
where
  lineEnds : List Char → List Char
    | [] => []
    | '\r' :: '\n' :: rest => '\n' :: lineEnds rest
    | '\r' :: rest => '\n' :: lineEnds rest
    | c :: rest => c :: lineEnds rest

/-- Where in the bytes of a text the first NUL stands. -/
def firstNul? (text : String) : Option Nat :=
  let before := text.toList.takeWhile (· ≠ '\x00')
  if before.length = text.length then none else some (String.ofList before).utf8ByteSize

private def numbered (statements : List Statement) : List (Nat × Statement) :=
  (List.range statements.length).zip statements |>.map fun (place, statement) => (place + 1, statement)

/-- The numbered statements of a script that stands in a file. -/
def statements (file : String) : Script → Except Fault (List (Nat × Statement))
  | .lines list => .ok (numbered list)
  | .source text => readLines file 1 ((String.ofList (normalized text.toList)).splitOn "\n" |>.map String.toList)

/-- The numbered statements of a script that the host hands over, which must not hold a NUL. -/
def handedOver (script : Script) : Except Fault (List (Nat × Statement)) :=
  match script with
  | .lines _ => statements "<string>" script
  | .source text =>
    match firstNul? text with
    | some place =>
      .error (.valueError ("nul byte found in provided data at position: " ++ toString place))
    | none => statements "<string>" script

end ScriptHost.Reading
