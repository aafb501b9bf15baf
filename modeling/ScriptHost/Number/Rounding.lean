import ScriptHost.Number.Double

/-! Whole parts, remainders and decimal roundings of doubles, worked out exactly and rounded once. -/
namespace ScriptHost.Double

def one : Double := ofNat 1

def nan : Double := ⟨0x7ff8000000000000⟩

def absolute (x : Double) : Double := ⟨x.magnitude⟩

/-- A number with the sign of another one. -/
def withSignOf (x sign : Double) : Double :=
  if sign.isNegative then (absolute x).negate else absolute x

def isFinite (x : Double) : Bool := !x.isNaN && !x.isInfinite

/-- A signed integer times a power of two, as a double with the sign of another one if it is zero. -/
private def ofScaled (n : Int) (q : Int) (sign : Double) : Double :=
  let magnitude := ofRatio (n.natAbs * pow2 q) (pow2 (-q))
  if n = 0 then withSignOf zero sign else if n < 0 then magnitude.negate else magnitude

/-- The integer part of a finite number. -/
def truncated (x : Double) : Int :=
  let (n, q) := x.signedDecode
  (n * pow2 q).tdiv (pow2 (-q))

/-- The largest integer that is not above a finite number. -/
def floored (x : Double) : Int :=
  let (n, q) := x.signedDecode
  (n * pow2 q).fdiv (pow2 (-q))

/-- The smallest integer that is not below a finite number. -/
def ceiled (x : Double) : Int := -floored x.negate

/-- The integer nearest to a finite number; a half goes to the even neighbour. -/
def nearest (x : Double) : Int :=
  let (n, q) := x.signedDecode
  roundDivInt (n * pow2 q) (pow2 (-q))

/-- The remainder of a division that cuts off, with the sign of the dividend. -/
def remainder (x y : Double) : Double :=
  if x.isNaN || y.isNaN || x.isInfinite || y.isZero then nan
  else if y.isInfinite then x
  else
    let ((a, p), (b, q)) := (x.signedDecode, y.signedDecode)
    let unit := min p q
    ofScaled ((a * pow2 (p - unit)).tmod (b * pow2 (q - unit))) unit x

/-- The quotient without its fraction, towards minus infinity, and the remainder with the sign of
the divisor. -/
def divideWithRest (x y : Double) : Double × Double :=
  let rest := remainder x y
  let quotient := (x.sub rest).div y
  let (rest, quotient) :=
    if rest.isZero then (withSignOf zero y, quotient)
    else if y.less zero != rest.less zero then (rest.add y, quotient.sub one)
    else (rest, quotient)
  if quotient.isZero then (withSignOf zero (x.div y), rest)
  else if !quotient.isFinite then (quotient, rest)
  else
    let whole := ofInt quotient.floored
    let whole := if (ofRatio 1 2).less (quotient.sub whole) then whole.add one else whole
    (if whole.isZero then withSignOf zero quotient else whole, rest)

/-- A finite number rounded to so many decimal places; a half goes to the even neighbour. -/
def roundedTo (x : Double) (places : Int) : Double :=
  let (n, q) := x.signedDecode
  let units := roundDiv (n.natAbs * pow2 q * pow10 places) (pow2 (-q) * pow10 (-places))
  withSignOf (ofDecimal units (-places)) x

def power (x y : Double) : Double := ofFloat (x.toFloat.pow y.toFloat)

/-- A finite number as a fraction in lowest terms. -/
def fraction (x : Double) : Int × Int :=
  let (n, q) := x.signedDecode
  let (num, den) := (n * pow2 q, pow2 (-q))
  let divisor := Nat.gcd num.natAbs den
  (num / divisor, den / divisor)

end ScriptHost.Double
