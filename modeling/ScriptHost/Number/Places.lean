import ScriptHost.Number.Decimal
import ScriptHost.Number.Rounding

/-! Decimal text of doubles with a number of digits that is asked for: behind the point, with an
exponent, or whichever of the two is shorter. -/
namespace ScriptHost.Double

/-- How a number of digits is asked for. -/
inductive Presentation where
  /-- So many digits behind the point. -/
  | fixed
  /-- One digit before the point and an exponent. -/
  | scientific
  /-- So many digits in all; an exponent only for very large and very small numbers. -/
  | general
  deriving DecidableEq, Repr

/-- The magnitude of a finite number in units of a power of ten. -/
private def units (x : Double) (exponent : Int) : Nat :=
  let (m, q) := x.decode
  roundDiv (m * pow2 q * pow10 (-exponent)) (pow2 (-q) * pow10 exponent)

/-- So many significant digits of a finite number, and the power of ten of the first. -/
private def significant (x : Double) (count : Nat) : String × Int :=
  if x.isZero then (String.ofList (List.replicate count '0'), 0)
  else
    let guess := (Decimal.shortest .even x).leading
    let digits := toString (x.units (guess + 1 - count))
    if digits.length = count then (digits, guess)
    else if count < digits.length then ((digits.take count).toString, guess + 1)
    else (toString (x.units (guess - count)), guess - 1)

private def pointed (whole fraction : String) (showsPoint : Bool) : String :=
  if fraction.isEmpty && !showsPoint then whole else whole ++ "." ++ fraction

private def zeroRun (count : Nat) : String := String.ofList (List.replicate count '0')

private def fixedText (x : Double) (places : Nat) (showsPoint : Bool) : String :=
  let digits := toString (x.units (-places))
  let padded := zeroRun (places + 1 - digits.length) ++ digits
  let cut := padded.length - places
  pointed (padded.take cut).toString (padded.drop cut).toString showsPoint

private def exponentText (e : Int) : String :=
  let digits := toString e.natAbs
  "e" ++ (if e < 0 then "-" else "+") ++ zeroRun (2 - digits.length) ++ digits

private def scientificText (digits : String) (exponent : Int) (showsPoint : Bool) : String :=
  pointed (digits.take 1).toString (digits.drop 1).toString showsPoint ++ exponentText exponent

private def withoutZeros (digits : String) : String := (digits.dropEndWhile (· == '0')).toString

/-- Digits with the point behind the place of a power of ten. -/
private def placed (digits : String) (exponent : Int) (showsPoint : Bool) : String :=
  if exponent < 0 then pointed "0" (zeroRun (-exponent - 1).toNat ++ digits) showsPoint
  else
    let whole := exponent.toNat + 1
    let padded := digits ++ zeroRun (whole - digits.length)
    pointed (padded.take whole).toString (padded.drop whole).toString showsPoint

private def generalText (x : Double) (count : Nat) (keepsZeros wantsPoint : Bool) : String :=
  let count := max count 1
  let (digits, exponent) := x.significant count
  let digits := if keepsZeros then digits else
    let short := withoutZeros digits
    if short.isEmpty then "0" else short
  let limit : Int := if wantsPoint then count - 1 else count
  if exponent < -4 ∨ limit ≤ exponent then scientificText digits exponent keepsZeros
  else
    let text := placed digits exponent keepsZeros
    if wantsPoint && !text.contains '.' then text ++ ".0" else text

/-- The magnitude of a number with so many digits. A number may be asked to keep its point and its
zeros, or to show that it is no integer. -/
def present (x : Double) (how : Presentation) (count : Nat) (keepsPoint wantsPoint : Bool) : String :=
  if x.isNaN then "nan"
  else if x.isInfinite then "inf"
  else match how with
    | .fixed => x.fixedText count keepsPoint
    | .scientific =>
      let (digits, exponent) := x.significant (count + 1)
      scientificText digits exponent keepsPoint
    | .general => x.generalText count keepsPoint wantsPoint

/-- The magnitude of a number with as few digits as it needs. -/
def presentShortest (x : Double) (wantsPoint : Bool) : String :=
  (absolute x).write { Decimal.Layout.literal with keepsPoint := wantsPoint }

end ScriptHost.Double
