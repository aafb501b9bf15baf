import ScriptHost.Number.Double

/-! Decimal text of doubles: the fewest digits that read back as the same number,
laid out by a record of the decisions that a written form makes. -/
namespace ScriptHost

/-- The number `digits * 10 ^ exponent`. -/
structure Decimal where
  digits : Nat
  exponent : Int
  deriving DecidableEq, Repr

namespace Decimal

/-- Which of two equally near decimals stands for a number. -/
inductive Tie where
  | up | even
  deriving DecidableEq, Repr

/-- Whether a tie between a number of units and the next one goes to the lower. -/
def Tie.staysDown (tie : Tie) (down : Nat) : Bool :=
  match tie with
  | .up => false
  | .even => down % 2 = 0

/-- The greatest `e` with `10 ^ e ≤ num / den`, found from an estimate off by at most one. -/
private def floorLog10 (num den : Nat) (estimate : Int) : Int :=
  let atLeast (e : Int) : Bool := den * pow10 e ≤ num * pow10 (-e)
  if atLeast (estimate + 1) then estimate + 1
  else if atLeast estimate then estimate
  else estimate - 1

private def stripZeros : Nat → Decimal → Decimal
  | 0, d => d
  | fuel + 1, d =>
    if d.digits % 10 = 0 ∧ d.digits ≠ 0 then stripZeros fuel ⟨d.digits / 10, d.exponent + 1⟩ else d

/-- The value `quarters / 4 * unit`, where the numbers from `quarters - below` to
`quarters + 2` read back as it, the ends only if `closed`. -/
private structure Interval where
  quarters : Nat
  below : Nat
  closed : Bool
  num : Nat
  den : Nat

private def Interval.contains (i : Interval) (digits : Nat) (k : Int) : Bool :=
  let point := digits * i.den * pow10 k
  let low := (i.quarters - i.below) * i.num * pow10 (-k)
  let high := (i.quarters + 2) * i.num * pow10 (-k)
  if i.closed then low ≤ point && point ≤ high else low < point && point < high

/-- The point of the grid `10 ^ k` that reads back as the value and is nearest to it. -/
private def Interval.nearest? (tie : Tie) (i : Interval) (k : Int) : Option Decimal :=
  let num := i.quarters * i.num * pow10 (-k)
  let den := i.den * pow10 k
  let down := num / den
  let rest := num % den
  match i.contains down k, i.contains (down + 1) k with
  | true, true =>
    if 2 * rest < den ∨ (2 * rest = den ∧ tie.staysDown down) then some ⟨down, k⟩
    else some ⟨down + 1, k⟩
  | true, false => some ⟨down, k⟩
  | false, true => some ⟨down + 1, k⟩
  | false, false => none

private def Interval.search (tie : Tie) (i : Interval) (top : Int) : Nat → Nat → Option Decimal
  | 0, _ => none
  | fuel + 1, count => (i.nearest? tie (top - count)).or (i.search tie top fuel (count + 1))

/-- The shortest decimal that reads back as a finite double's magnitude. -/
def shortest (tie : Tie) (x : Double) : Decimal :=
  let (m, q) := x.decode
  if m = 0 then ⟨0, 0⟩ else
    let scale := q - 2
    let interval : Interval :=
      { quarters := 4 * m
        below := if m = 0x10000000000000 ∧ q > -1074 then 1 else 2
        closed := m % 2 = 0
        num := pow2 scale
        den := pow2 (-scale) }
    let estimate := ((m.log2 : Int) + q) * 30103 / 100000
    let top := floorLog10 (interval.quarters * interval.num) interval.den estimate
    stripZeros 20 ((interval.search tie top 18 0).getD ⟨m, 0⟩)

/-- How a double is written: where ties go, which decimal exponents stand in positional form, whether
a whole number keeps `.0`, the least width and the plus sign of an exponent, and the
words for what is no finite number. -/
structure Layout where
  tie : Tie
  positionalFrom : Option Int
  positionalBelow : Option Int
  keepsPoint : Bool
  exponentWidth : Nat
  exponentPlus : Bool
  nan : String
  infinity : String

/-- Every number in full, without an exponent and without a superfluous point. -/
def Layout.plain : Layout := ⟨.up, none, none, false, 0, false, "NaN", "inf"⟩

/-- Positional from `1e-4` up to `1e16`, always showing that it is no integer. -/
def Layout.exact : Layout := ⟨.up, some (-4), some 16, true, 0, false, "NaN", "inf"⟩

/-- Positional from `1e-4` up to `1e16`; exponents have a sign and two digits. -/
def Layout.literal : Layout := ⟨.even, some (-4), some 16, true, 2, true, "nan", "inf"⟩

/-- A literal without `.0`, as the parts of a complex number are written. -/
def Layout.part : Layout := { Layout.literal with keepsPoint := false }

private def zeros (n : Nat) : String := String.ofList (List.replicate n '0')

private def padLeft (width : Nat) (s : String) : String := zeros (width - s.length) ++ s

/-- The exponent of the leading digit. -/
def leading (d : Decimal) : Int := (toString d.digits).length - 1 + d.exponent

private def positional (layout : Layout) (d : Decimal) : String :=
  let digits := toString d.digits
  let point := if layout.keepsPoint then ".0" else ""
  match d.exponent with
  | .ofNat e => (if d.digits = 0 then digits else digits ++ zeros e) ++ point
  | .negSucc e =>
    let places := e + 1
    let padded := padLeft (places + 1) digits
    let whole := (padded.take (padded.length - places)).toString
    let fraction := (padded.drop (padded.length - places)).toString
    whole ++ "." ++ fraction

private def scientific (layout : Layout) (d : Decimal) : String :=
  let digits := toString d.digits
  let mantissa := if digits.length = 1 then digits else
    (digits.take 1).toString ++ "." ++ (digits.drop 1).toString
  let e := d.leading
  let sign := if e < 0 then "-" else if layout.exponentPlus then "+" else ""
  mantissa ++ "e" ++ sign ++ padLeft layout.exponentWidth (toString e.natAbs)

def write (layout : Layout) (d : Decimal) : String :=
  let low := layout.positionalFrom.all (· ≤ d.leading)
  let high := layout.positionalBelow.all (d.leading < ·)
  if d.digits = 0 ∨ (low && high) then positional layout d else scientific layout d

end Decimal

/-- The text of a double in a given layout. -/
def Double.write (layout : Decimal.Layout) (x : Double) : String :=
  if x.isNaN then layout.nan else
    let sign := if x.isNegative then "-" else ""
    if x.isInfinite then sign ++ layout.infinity
    else sign ++ (Decimal.shortest layout.tie x).write layout

end ScriptHost
