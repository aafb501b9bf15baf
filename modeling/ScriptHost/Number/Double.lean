import ScriptHost.Number.Exact

/-! Double-precision numbers as 64-bit words: classification, numeric equality,
correctly rounded conversion from the integers, and exact decoding. -/
namespace ScriptHost

/-- A double-precision number, given by its bits. -/
structure Double where
  bits : UInt64
  deriving DecidableEq, Hashable, Inhabited

namespace Double

private def magnitudeMask : UInt64 := 0x7fffffffffffffff
private def infinityBits : UInt64 := 0x7ff0000000000000

private def hexValue (c : Char) : Nat :=
  if c.isDigit then c.toNat - '0'.toNat else c.toLower.toNat - 'a'.toNat + 10

/-- The number whose bits are written in hexadecimal. -/
def ofHex (digits : String) : Double :=
  ⟨(digits.foldl (fun n c => 16 * n + hexValue c) 0).toUInt64⟩

/-- The bits of a number in sixteen hexadecimal digits. -/
def hex (x : Double) : String :=
  let digits := Nat.toDigits 16 x.bits.toNat
  String.ofList (List.replicate (16 - digits.length) '0' ++ digits)

/-- The bits without the sign. -/
def magnitude (x : Double) : UInt64 := x.bits &&& magnitudeMask

def isNegative (x : Double) : Bool := x.bits != x.magnitude

def isNaN (x : Double) : Bool := infinityBits < x.magnitude

def isInfinite (x : Double) : Bool := x.magnitude == infinityBits

def isZero (x : Double) : Bool := x.magnitude == 0

/-- Numeric equality: NaN equals nothing, and the two zeros are equal. -/
def equals (x y : Double) : Bool :=
  !x.isNaN && !y.isNaN && (x.bits == y.bits || (x.isZero && y.isZero))

def zero : Double := ⟨0⟩

def infinity (negative : Bool) : Double :=
  ⟨if negative then infinityBits ||| 0x8000000000000000 else infinityBits⟩

def negate (x : Double) : Double := ⟨x.bits ^^^ 0x8000000000000000⟩

/-- The magnitude of a finite number as `m * 2 ^ q`. -/
def decode (x : Double) : Nat × Int :=
  let word := x.magnitude.toNat
  let exponent : Nat := word / 0x10000000000000
  let fraction : Nat := word % 0x10000000000000
  if exponent = 0 then (fraction, -1074) else (0x10000000000000 + fraction, (exponent : Int) - 1075)

/-- The double nearest to a quotient of natural numbers; infinity beyond the largest one. -/
def ofRatio (num den : Nat) : Double :=
  if num = 0 then zero else
    let estimate : Int := (num.log2 : Int) - den.log2
    let exponent :=
      if num * pow2 (-estimate) < den * pow2 estimate then estimate - 1 else estimate
    let unit := max (exponent - 52) (-1074)
    let significand := roundDiv (num * pow2 (-unit)) (den * pow2 unit)
    let word := (unit + 1074).toNat * 0x10000000000000 + significand
    if infinityBits.toNat ≤ word then infinity false else ⟨word.toUInt64⟩

/-- The double nearest to a natural number; infinity beyond the largest one. -/
def ofNat (m : Nat) : Double := ofRatio m 1

/-- The double nearest to an integer. -/
def ofInt : Int → Double
  | .ofNat m => ofNat m
  | .negSucc m => (ofNat (m + 1)).negate

/-- The double nearest to `digits * 10 ^ exponent`. -/
def ofDecimal (digits : Nat) (exponent : Int) : Double :=
  if digits = 0 then zero
  else
    let size : Int := (digits.log2 : Int) * 3 / 10 + exponent
    if 400 < size then infinity false
    else if size < -400 then zero
    else ofRatio (digits * pow10 exponent) (pow10 (-exponent))

/-- The integer that the number is, if it is one. -/
def toInt? (x : Double) : Option Int :=
  if x.isNaN || x.isInfinite then none else
    let (m, q) := x.decode
    let whole : Option Nat :=
      match q with
      | .ofNat shift => some (m * pow2 shift)
      | .negSucc shift => if m % pow2 (shift + 1) = 0 then some (m / pow2 (shift + 1)) else none
    whole.map fun n => if x.isNegative then -(n : Int) else n

def toFloat (x : Double) : Float := Float.ofBits x.bits

def ofFloat (x : Float) : Double := ⟨x.toBits⟩

def add (x y : Double) : Double := ofFloat (x.toFloat + y.toFloat)
def mul (x y : Double) : Double := ofFloat (x.toFloat * y.toFloat)
def sub (x y : Double) : Double := ofFloat (x.toFloat - y.toFloat)
def div (x y : Double) : Double := ofFloat (x.toFloat / y.toFloat)

/-- Whether a number is less than another one. -/
def less (x y : Double) : Bool := x.toFloat < y.toFloat

/-- A finite number as a signed multiple of a power of two. -/
def signedDecode (x : Double) : Int × Int :=
  let (m, q) := x.decode
  (if x.isNegative then -(m : Int) else m, q)

def sqrt (x : Double) : Double := ofFloat x.toFloat.sqrt

private def rootFrom (n : Nat) : Nat → Nat → Nat
  | 0, guess => guess
  | fuel + 1, guess =>
    let better := (guess + n / guess) / 2
    if better < guess then rootFrom n fuel better else guess

/-- The integer part of the square root of a natural number. -/
def floorRoot (n : Nat) : Nat := if n = 0 then 0 else rootFrom n (n.log2 + 2) (pow2 (n.log2 / 2 + 1))

/-- The length of the vector with two components. -/
def hypot (x y : Double) : Double :=
  if x.isInfinite || y.isInfinite then infinity false
  else if x.isNaN || y.isNaN then ⟨0x7ff8000000000000⟩
  else
    let (m, p) := x.decode
    let (n, q) := y.decode
    let unit := min p q
    let squared (k : Nat) : Nat := k * k
    let square := squared (m * pow2 (p - unit)) + squared (n * pow2 (q - unit))
    let spare := 0x10000000000000000
    let root := floorRoot (square * squared spare)
    let sticky := if squared root = square * squared spare then 2 * root else 2 * root + 1
    ofRatio (sticky * pow2 unit) (2 * spare * pow2 (-unit))

end Double
end ScriptHost
