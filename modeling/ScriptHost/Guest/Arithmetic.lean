import ScriptHost.Guest.Slice
import ScriptHost.Number.Rounding

/-! Arithmetic of numbers: integers of any size, doubles and complex numbers. -/
namespace ScriptHost

/-- The operations between two objects that give an object of the same kind. -/
inductive Operation where
  | add | subtract | multiply | divide | floorDivide | remainder | divideWithRest | power
  | shiftLeft | shiftRight | both | either | different
  deriving DecidableEq, Repr

/-- How messages name an operation. -/
def Operation.symbol : Operation → String
  | .add => "+"
  | .subtract => "-"
  | .multiply => "*"
  | .divide => "/"
  | .floorDivide => "//"
  | .remainder => "%"
  | .divideWithRest => "divmod()"
  | .power => "** or pow()"
  | .shiftLeft => "<<"
  | .shiftRight => ">>"
  | .both => "&"
  | .either => "|"
  | .different => "^"

/-- The names of the functions behind an operation: the one of the first operand, and the one of the
second. -/
def Operation.names (op : Operation) : String × String :=
  let word := match op with
    | .add => "add"
    | .subtract => "sub"
    | .multiply => "mul"
    | .divide => "truediv"
    | .floorDivide => "floordiv"
    | .remainder => "mod"
    | .divideWithRest => "divmod"
    | .power => "pow"
    | .shiftLeft => "lshift"
    | .shiftRight => "rshift"
    | .both => "and"
    | .either => "or"
    | .different => "xor"
  ("__" ++ word ++ "__", "__r" ++ word ++ "__")

namespace GuestM

/-- The double of an integer in arithmetic. -/
def widened (n : Int) : GuestM Double :=
  let x := Double.ofInt n
  if x.isInfinite then raise (.of "OverflowError" "int too large to convert to float") else return x

def zeroDivision {α : Type} (text : String) : GuestM α := raise (.of "ZeroDivisionError" text)

def divideInts (a b : Int) : GuestM Identity := do
  if b = 0 then zeroDivision "division by zero"
  let quotient := Double.ofRatio a.natAbs b.natAbs
  if quotient.isInfinite then
    raise (.of "OverflowError" "integer division result too large for a float")
  float (if (a < 0) != (b < 0) then quotient.negate else quotient)

def zeroToNegative {α : Type} : GuestM α :=
  zeroDivision "0.0 cannot be raised to a negative power"

private def isOddInteger (x : Double) : Bool := x.toInt?.any fun n => n % 2 != 0

private def multiplyComplex (a b : Double × Double) : Double × Double :=
  ((a.1.mul b.1).sub (a.2.mul b.2), (a.1.mul b.2).add (a.2.mul b.1))

/-- The quotient of two complex numbers of which the second is not zero. -/
private def divideComplex (a b : Double × Double) : Double × Double :=
  let (re, im) := (b.1.absolute, b.2.absolute)
  if !re.isNaN && !im.isNaN && !re.less im then
    let ratio := b.2.div b.1
    let scale := b.1.add (b.2.mul ratio)
    ((a.1.add (a.2.mul ratio)).div scale, (a.2.sub (a.1.mul ratio)).div scale)
  else if !re.isNaN && !im.isNaN then
    let ratio := b.1.div b.2
    let scale := (b.1.mul ratio).add b.2
    (((a.1.mul ratio).add a.2).div scale, ((a.2.mul ratio).sub a.1).div scale)
  else (.nan, .nan)

private def complexPowerOf (base : Double × Double) : Nat → Double × Double
  | 0 => (.one, .zero)
  | n + 1 =>
    let half := complexPowerOf base ((n + 1) / 2)
    let square := multiplyComplex half half
    if (n + 1) % 2 = 0 then square else multiplyComplex base square
  termination_by n => n

/-- The power of a complex number to a complex one, by its length and angle. -/
private def complexPowerBy (a b : Double × Double) : Double × Double :=
  let length := Double.hypot a.1 a.2
  let angle := Float.atan2 a.2.toFloat a.1.toFloat
  let scale := (length.power b.1).toFloat
  let turn := angle * b.1.toFloat
  let (scale, turn) :=
    if b.2.isZero then (scale, turn)
    else (scale / Float.exp (angle * b.2.toFloat), turn + b.2.toFloat * Float.log length.toFloat)
  (.ofFloat (scale * Float.cos turn), .ofFloat (scale * Float.sin turn))

def complexPower (a b : Double × Double) : GuestM (Double × Double) := do
  if b.1.isZero && b.2.isZero then return (.one, .zero)
  if a.1.isZero && a.2.isZero then
    if b.2.isZero && !b.1.isNegative then return (.zero, .zero)
    zeroDivision "0.0 to a negative or complex power"
  match if b.2.isZero then b.1.toInt? else .none with
  | some n =>
    if n.natAbs ≤ 100 then
      let positive := complexPowerOf a n.natAbs
      return if n < 0 then divideComplex (.one, .zero) positive else positive
    else return complexPowerBy a b
  | .none => return complexPowerBy a b

def parts : Number → GuestM (Double × Double)
  | .int n => return (← widened n, .zero)
  | .float x => return (x, .zero)
  | .complex re im => return (re, im)

def complexOperation (op : Operation) (a b : Double × Double) : GuestM (Option Identity) := do
  let give (z : Double × Double) : GuestM (Option Identity) := some <$> allocate (.complex z.1 z.2)
  match op with
  | .add => give (a.1.add b.1, a.2.add b.2)
  | .subtract => give (a.1.sub b.1, a.2.sub b.2)
  | .multiply => give (multiplyComplex a b)
  | .divide =>
    if b.1.isZero && b.2.isZero then zeroDivision "complex division by zero"
    give (divideComplex a b)
  | .power => do give (← complexPower a b)
  | _ => return .none

def floatPower (x y : Double) : GuestM Identity := do
  if y.isZero then float .one
  else if x.isZero && y.isFinite && y.isNegative then zeroToNegative
  else if x.isFinite && y.isFinite && x.isNegative && !x.isZero && y.toInt?.isNone then
    let (re, im) := complexPowerBy (x, .zero) (y, .zero)
    allocate (.complex re im)
  else
    let result := x.power y
    if result.isInfinite && x.isFinite && y.isFinite then
      raise (.of "OverflowError" "(34, 'Numerical result out of range')")
    float result

def floatOperation (op : Operation) (x y : Double) : GuestM (Option Identity) := do
  match op with
  | .add => some <$> float (x.add y)
  | .subtract => some <$> float (x.sub y)
  | .multiply => some <$> float (x.mul y)
  | .divide => if y.isZero then zeroDivision "float division by zero" else some <$> float (x.div y)
  | .floorDivide =>
    if y.isZero then zeroDivision "float floor division by zero"
    else some <$> float (x.divideWithRest y).1
  | .remainder =>
    if y.isZero then zeroDivision "float modulo" else some <$> float (x.divideWithRest y).2
  | .divideWithRest =>
    if y.isZero then zeroDivision "float divmod()"
    let (quotient, rest) := x.divideWithRest y
    let quotient ← float quotient
    some <$> tuple [quotient, ← float rest]
  | .power => some <$> floatPower x y
  | _ => return .none

/-- The most bits that an integer may have. -/
private def mostBits : Nat := 0x1000000000

private def bitwise (f : Nat → Nat → Nat) (a b : Int) : Int :=
  let size := max a.natAbs.log2 b.natAbs.log2 + 2
  let wrapped (n : Int) : Nat := (n % pow2 size).toNat
  Int.bmod (f (wrapped a) (wrapped b)) (pow2 size)

def shiftBy (a b : Int) (left : Bool) : GuestM Identity := do
  if b < 0 then raise (.valueError "negative shift count")
  if left then
    if a = 0 then int 0
    else if !FitsWord b then raise (.of "OverflowError" "too many digits in integer")
    else if mostBits < b then raise (.of "MemoryError" "")
    else int (a * pow2 b)
  else if a.natAbs.log2 + 1 < b then int (if a < 0 then -1 else 0)
  else int (a.fdiv (pow2 b))

def intOperation (op : Operation) (a b : Int) : GuestM (Option Identity) := do
  match op with
  | .add => some <$> int (a + b)
  | .subtract => some <$> int (a - b)
  | .multiply => some <$> int (a * b)
  | .divide => some <$> divideInts a b
  | .floorDivide =>
    if b = 0 then zeroDivision "integer division or modulo by zero" else some <$> int (a.fdiv b)
  | .remainder => if b = 0 then zeroDivision "integer modulo by zero" else some <$> int (a.fmod b)
  | .divideWithRest =>
    if b = 0 then zeroDivision "integer division or modulo by zero"
    let quotient ← int (a.fdiv b)
    some <$> tuple [quotient, ← int (a.fmod b)]
  | .power =>
    if b < 0 then do
      let x ← widened a
      some <$> floatPower x (← widened b)
    else if mostBits < (a.natAbs.log2 * b.toNat) then raise (.of "MemoryError" "")
    else some <$> int (Int.pow a b.toNat)
  | .shiftLeft => some <$> shiftBy a b true
  | .shiftRight => some <$> shiftBy a b false
  | .both => some <$> int (bitwise Nat.land a b)
  | .either => some <$> int (bitwise Nat.lor a b)
  | .different => some <$> int (bitwise Nat.xor a b)

/-- An operation between two numbers, unless they are of kinds that have no such operation. -/
def calculate (op : Operation) (a b : Number) : GuestM (Option Identity) := do
  match a, b with
  | .int a, .int b => intOperation op a b
  | .complex _ _, _ | _, .complex _ _ =>
    let a ← parts a
    complexOperation op a (← parts b)
  | a, b =>
    let x ← parts a
    floatOperation op x.1 (← parts b).1

private def powerModulo (base modulus : Nat) : Nat → Nat
  | 0 => 1 % modulus
  | n + 1 =>
    let half := powerModulo base modulus ((n + 1) / 2)
    let square := half * half % modulus
    if (n + 1) % 2 = 0 then square else square * base % modulus
  termination_by n => n

/-- The factor that takes `a` to the greatest common divisor with `b`, modulo `b`. -/
private def bezout : Nat → Int → Int → Int → Int → Int
  | 0, _, _, x, _ => x
  | fuel + 1, a, b, x, y => if b = 0 then x else bezout fuel b (a % b) y (x - a / b * y)

private def inverse? (a modulus : Nat) : Option Nat :=
  if Nat.gcd a modulus ≠ 1 then .none
  else
    let factor := bezout (2 * modulus.log2 + 4) a modulus 1 0
    some (factor % modulus).toNat

/-- A power of integers modulo a third one. -/
def modularPower (base exponent modulus : Int) : GuestM Identity := do
  if modulus = 0 then raise (.valueError "pow() 3rd argument cannot be 0")
  let size := modulus.natAbs
  let start := (base % size).toNat
  let start ←
    if exponent < 0 then
      match inverse? start size with
      | some found => pure found
      | .none => raise (.valueError "base is not invertible for the given modulus")
    else pure start
  let result : Int := powerModulo start size exponent.natAbs
  int (if modulus < 0 ∧ result ≠ 0 then result + modulus else result)

/-- A number with the other sign. -/
def negated : Number → GuestM Identity
  | .int n => int (-n)
  | .float x => float x.negate
  | .complex re im => allocate (.complex re.negate im.negate)

/-- The distance of a number from zero. -/
def magnitude : Number → GuestM Identity
  | .int n => int n.natAbs
  | .float x => float x.absolute
  | .complex re im => do
    let length := Double.hypot re im
    if length.isInfinite && re.isFinite && im.isFinite then
      raise (.of "OverflowError" "absolute value too large")
    float length

end GuestM
end ScriptHost
