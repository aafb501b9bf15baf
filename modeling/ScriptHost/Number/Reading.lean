import ScriptHost.Number.Rounding
import ScriptHost.Text.Basic
import ScriptHost.Text.CodePoint

/-! Reading numbers: integers in any base up to 36, doubles in decimal and complex numbers, with
single underscores between digits and blanks around the whole. -/
namespace ScriptHost.Reading

/-- The digits of every script as ASCII ones and every blank as a space. -/
def plainDigits (t : Text) : List Nat :=
  t.points.map fun p =>
    if p < 127 then p
    else if CodePoint.isSpace p then 32
    else match CodePoint.decimal? p with
      | some d => 48 + d
      | none => 63

private def isBlank (p : Nat) : Bool := p == 32 || (9 ≤ p && p ≤ 13)

private def trimmed (points : List Nat) : List Nat :=
  ((points.dropWhile isBlank).reverse.dropWhile isBlank).reverse

/-- The value of a digit or letter as a digit of a large base. -/
private def digitValue? (p : Nat) : Option Nat :=
  if 48 ≤ p ∧ p ≤ 57 then some (p - 48)
  else if 65 ≤ p ∧ p ≤ 90 then some (p - 55)
  else if 97 ≤ p ∧ p ≤ 122 then some (p - 87)
  else none

private def isDecimal (p : Nat) : Bool := 48 ≤ p && p ≤ 57

/-- Leaves out underscores that stand between two characters of a kind; none may stand elsewhere. -/
private def withoutUnderscores? (isDigit : Nat → Bool) (before : Bool) : List Nat → Option (List Nat)
  | [] => some []
  | 95 :: p :: rest =>
    if before && isDigit p then withoutUnderscores? isDigit before (p :: rest) else none
  | [95] => none
  | p :: rest => (withoutUnderscores? isDigit (isDigit p) rest).map (p :: ·)

private def splitSign : List Nat → Bool × List Nat
  | 43 :: rest => (false, rest)
  | 45 :: rest => (true, rest)
  | points => (false, points)

private def markedBase (letter : Nat) : Option Nat :=
  if letter = 120 ∨ letter = 88 then some 16
  else if letter = 111 ∨ letter = 79 then some 8
  else if letter = 98 ∨ letter = 66 then some 2
  else none

/-- The base of an integer and its digits, which a mark of the base may precede. -/
private def splitBase (base : Nat) : List Nat → Nat × List Nat × Bool
  | 48 :: letter :: rest =>
    match markedBase letter with
    | some marked =>
      if base = 0 ∨ base = marked then (marked, if rest.head? = some 95 then rest.tail else rest, true)
      else (base, 48 :: letter :: rest, false)
    | none => (base, 48 :: letter :: rest, false)
  | points => (base, points, false)

/-- The digits of an integer in a base, each by its value, and whether it is negative. -/
def integerDigits? (base : Nat) (points : List Nat) : Option (Nat × List Nat × Bool) := do
  let (negative, points) := splitSign (trimmed points)
  let (found, points, _) := splitBase base points
  let isOpen := found = 0
  let found := if isOpen then 10 else found
  let digits ← withoutUnderscores? (fun p => (digitValue? p).any (· < found)) false points
  let values ← digits.mapM fun p => (digitValue? p).filter (· < found)
  if values.isEmpty then none
  else if isOpen && values.head? == some 0 && values.any (· != 0) then none
  else some (found, values, negative)

/-- The integer that digits make up. -/
def integerOf (base : Nat) (digits : List Nat) (negative : Bool) : Int :=
  let magnitude := digits.foldl (fun n d => base * n + d) 0
  if negative then -(magnitude : Int) else magnitude

private def lowered (p : Nat) : Nat := if 65 ≤ p ∧ p ≤ 90 then p + 32 else p

private def wordOf (points : List Nat) : String := String.ofList (points.map fun p => Char.ofNat (lowered p))

private def decimalValue (points : List Nat) : Nat := points.foldl (fun n p => 10 * n + (p - 48)) 0

/-- The exponent at the start of some text and what follows it; nothing is read unless digits
stand there. -/
private def exponentPart (points : List Nat) : Int × List Nat :=
  match points with
  | e :: rest =>
    if e = 101 ∨ e = 69 then
      let (negative, rest') := splitSign rest
      let digits := rest'.takeWhile isDecimal
      if digits.isEmpty then (0, points)
      else
        let size : Int := min (decimalValue digits) 100000
        (if negative then -size else size, rest'.dropWhile isDecimal)
    else (0, points)
  | [] => (0, [])

/-- The unsigned decimal number at the start of some text, and what follows it. -/
private def decimalPart? (points : List Nat) : Option (Double × List Nat) :=
  let whole := points.takeWhile isDecimal
  let rest := points.dropWhile isDecimal
  let (fraction, rest) := match rest with
    | 46 :: rest => (rest.takeWhile isDecimal, rest.dropWhile isDecimal)
    | _ => ([], rest)
  if whole.isEmpty && fraction.isEmpty then none
  else
    let (exponent, rest) := exponentPart rest
    some (Double.ofDecimal (decimalValue (whole ++ fraction)) (exponent - fraction.length), rest)

private def stripWord? (word : String) (points : List Nat) : Option (List Nat) :=
  if wordOf (points.take word.length) = word then some (points.drop word.length) else none

/-- The number at the start of some text, with a sign or without one, and what follows it. -/
def doublePart? (points : List Nat) : Option (Double × List Nat) :=
  let (negative, rest) := splitSign points
  let found := (decimalPart? rest).or <|
    ((stripWord? "infinity" rest).map fun rest => (Double.infinity false, rest)).or <|
    ((stripWord? "inf" rest).map fun rest => (Double.infinity false, rest)).or
    ((stripWord? "nan" rest).map fun rest => (Double.nan, rest))
  found.map fun (x, rest) => (if negative then x.negate else x, rest)

/-- The double that a text stands for. -/
def double? (points : List Nat) : Option Double := do
  let points ← withoutUnderscores? isDecimal false (trimmed points)
  match ← doublePart? points with
  | (x, []) => some x
  | _ => none

private def isUnit (p : Nat) : Bool := p == 106 || p == 74

private def signedUnit? : List Nat → Option (Double × List Nat)
  | 43 :: p :: rest => if isUnit p then some (.one, rest) else none
  | 45 :: p :: rest => if isUnit p then some (Double.one.negate, rest) else none
  | _ => none

/-- The real and the imaginary part that a text without blanks stands for. -/
private def complexParts? (points : List Nat) : Option (Double × Double) :=
  match points with
  | [p] => if isUnit p then some (.zero, .one) else (doublePart? points).map fun (x, _) => (x, .zero)
  | _ =>
    match signedUnit? points with
    | some (y, []) => some (.zero, y)
    | _ =>
      match doublePart? points with
      | some (x, []) => some (x, .zero)
      | some (y, [p]) => if isUnit p then some (.zero, y) else none
      | some (x, rest) =>
        if rest.head? ≠ some 43 ∧ rest.head? ≠ some 45 then none
        else match signedUnit? rest with
          | some (y, []) => some (x, y)
          | _ =>
            match doublePart? rest with
            | some (y, [p]) => if isUnit p then some (x, y) else none
            | _ => none
      | none => none

/-- Whether every underscore in a text stands between two digits. -/
def hasOrderlyUnderscores (points : List Nat) : Bool :=
  (withoutUnderscores? isDecimal false (trimmed points)).isSome

/-- The complex number that a text stands for, perhaps in parentheses. -/
def complex? (points : List Nat) : Option (Double × Double) := do
  let points ← withoutUnderscores? isDecimal false (trimmed points)
  match points with
  | 40 :: rest =>
    match rest.reverse with
    | 41 :: inner => complexParts? (trimmed inner.reverse)
    | _ => none
  | _ => complexParts? points

end ScriptHost.Reading
