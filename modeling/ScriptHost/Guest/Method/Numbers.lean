import ScriptHost.Guest.Fields
import ScriptHost.Number.Reading
import ScriptHost.Text.Pieces

/-! The methods of numbers: bytes of integers, rounding, fractions and digits in base sixteen. -/
namespace ScriptHost.GuestM

private def bitCount : Nat → Nat → Nat
  | 0, _ => 0
  | fuel + 1, n => if n = 0 then 0 else n % 2 + bitCount fuel (n / 2)

private def bitLength (n : Nat) : Nat := if n = 0 then 0 else n.log2 + 1

/-- Whether bytes of an integer start with the lowest, as an argument says. -/
def startsLow (function : String) (id? : Option Identity) : GuestM Bool := do
  match id? with
  | .none => return false
  | some id =>
    match (← textArgument (function ++ "() argument 'byteorder'") id).lossy with
    | "little" => return true
    | "big" => return false
    | _ => valueError "byteorder must be either 'little' or 'big'"

def intToBytes (n : Int) (arguments : List Identity) : GuestM Identity := do
  let length ← sizeOr 1 arguments[0]?
  let low ← startsLow "to_bytes" arguments[1]?
  if length < 0 then valueError "length argument must be non-negative"
  if mostItems < length then raise (.of "MemoryError" "")
  if n < 0 then raise (.of "OverflowError" "can't convert negative int to unsigned")
  if pow2 (8 * length) ≤ n then raise (.of "OverflowError" "int too big to convert")
  let data := (List.range length.toNat).map fun (i : Nat) => (n.toNat / pow2 (8 * i) % 256).toUInt8
  bytes (if low then data else data.reverse)

/-- The bytes that an object holds, shows or lists. -/
def octetsFrom (id : Identity) : GuestM (List UInt8) := do
  let g ← get
  match g.octets? id with
  | some data => return data
  | .none =>
    let refused {α : Type} : GuestM α := typeError ("cannot convert '" ++ g.classLabel id ++ "' object to bytes")
    if g.isText id then refused
    let some items ← itemsOf? id | refused
    items.mapM fun item => do
      let n ← indexOf item
      if 0 ≤ n ∧ n < 256 then return n.toNat.toUInt8
      else valueError "bytes must be in range(0, 256)"

/-- The integer that bytes make up. -/
def intFromBytes (arguments : List Identity) : GuestM Int := do
  let low ← startsLow "from_bytes" arguments[1]?
  let data ← octetsFrom (arguments.headD default)
  return ((if low then data.reverse else data).foldl (fun n b => 256 * n + b.toNat) 0 : Nat)

private def roundInt (n : Int) (places : Int) : Int :=
  if 0 ≤ places then n
  else
    let unit := pow10 (-places)
    roundDivInt n unit * unit

/-- Refuses to take an infinity or a NaN for an integer. -/
def refuseUnbounded (x : Double) : GuestM Unit := do
  if x.isNaN then valueError "cannot convert float NaN to integer"
  if x.isInfinite then raise (.of "OverflowError" "cannot convert float infinity to integer")

def roundFloat (x : Double) (places? : Option Int) : GuestM Identity := do
  match places? with
  | .none =>
    refuseUnbounded x
    int x.nearest
  | some places =>
    if !x.isFinite || 323 < places then float x
    else if places < -308 then float (Double.zero.withSignOf x)
    else
      let made := x.roundedTo places
      if made.isInfinite then raise (.of "OverflowError" "rounded value too large to represent")
      else float made

def placesOf? (id? : Option Identity) : GuestM (Option Int) := do
  match id? with
  | .none => return .none
  | some id => if (← get).isNone id then return .none else some <$> indexOf id

/-- A number rounded to so many decimal places, or to an integer. -/
def rounded (id : Identity) (places : Option Identity) : GuestM Identity := do
  let g ← get
  match g.number? id with
  | some (.int n) =>
    match ← placesOf? places with
    | .none => int n
    | some places => int (roundInt n places)
  | some (.float x) => do roundFloat x (← placesOf? places)
  | _ => typeError ("type " ++ g.classLabel id ++ " doesn't define __round__ method")

def fractionOf (x : Double) : GuestM (Int × Int) := do
  if x.isInfinite then raise (.of "OverflowError" "cannot convert Infinity to integer ratio")
  if x.isNaN then valueError "cannot convert NaN to integer ratio"
  return x.fraction

private def hexDigits (width n : Nat) : String :=
  let digits := Nat.toDigits 16 n
  String.ofList (List.replicate (width - digits.length) '0' ++ digits)

/-- A double in base sixteen, with all its digits and an exponent of two. -/
private def hexOf (x : Double) : String :=
  if !x.isFinite then x.write .literal
  else
    let sign := if x.isNegative then "-" else ""
    let word := x.magnitude.toNat
    let (exponent, fraction) : Nat × Nat := (word / 0x10000000000000, word % 0x10000000000000)
    if word = 0 then sign ++ "0x0.0p+0"
    else
      let e : Int := if exponent = 0 then -1022 else (exponent : Int) - 1023
      sign ++ (if exponent = 0 then "0x0." else "0x1.") ++ hexDigits 13 fraction ++ "p" ++
        (if e < 0 then "-" else "+") ++ toString e.natAbs

private def isHexDigit (p : Nat) : Bool := (CodePoint.hexadecimal? p).isSome

private def hexNumber (points : List Nat) : Nat :=
  points.foldl (fun n p => 16 * n + (CodePoint.hexadecimal? p).getD 0) 0

private def signedRest : List Nat → Bool × List Nat
  | 45 :: rest => (true, rest)
  | 43 :: rest => (false, rest)
  | points => (false, points)

private def exponentOf : List Nat → Option Int
  | [] => some 0
  | p :: rest =>
    if p = 112 ∨ p = 80 then
      let (negative, digits) := signedRest rest
      if digits.isEmpty || !digits.all (fun p => 48 ≤ p && p ≤ 57) then .none
      else
        let n : Nat := min (digits.foldl (fun n p => 10 * n + (p - 48)) 0) 100000
        some (if negative then -(n : Int) else n)
    else .none

private def isBlankPoint (p : Nat) : Bool := p == 32 || (9 ≤ p && p ≤ 13)

/-- The double that digits in base sixteen stand for. -/
private def readHexDouble (points : List Nat) : Option Double := do
  let trimmed := Pieces.trimRight isBlankPoint (Pieces.trimLeft isBlankPoint points)
  let (negative, rest) := signedRest trimmed
  let word := String.ofList (rest.map fun p => (Char.ofNat p).toLower)
  let signed (x : Double) : Double := if negative then x.negate else x
  if word = "inf" ∨ word = "infinity" then return signed (.infinity false)
  if word = "nan" then return signed .nan
  let rest := match rest with
    | 48 :: 120 :: more | 48 :: 88 :: more => more
    | _ => rest
  let whole := rest.takeWhile isHexDigit
  let (fraction, rest) := match rest.dropWhile isHexDigit with
    | 46 :: more => (more.takeWhile isHexDigit, more.dropWhile isHexDigit)
    | more => ([], more)
  if whole.isEmpty && fraction.isEmpty then .none
  let e ← exponentOf rest
  let exponent := e - 4 * fraction.length
  let n := hexNumber (whole ++ fraction)
  return signed (Double.ofRatio (n * pow2 exponent) (pow2 (-exponent)))

/-- The double that an argument stands for in base sixteen. -/
def doubleFromHex (id : Identity) : GuestM Double := do
  match (← get).text? id with
  | .none => typeError "bad argument type for built-in operation"
  | some t =>
    match readHexDouble t.points with
    | some x =>
      if x.isInfinite && !(t.points.any fun p => p == 110 || p == 78) then
        raise (.of "OverflowError" "hexadecimal value too large to represent as a float")
      else return x
    | .none => valueError "invalid hexadecimal floating-point string"

/-- Calls a method of an integer. -/
def intMethod (target : Identity) (n : Int) (name : String) (arguments : List Identity) : GuestM Identity := do
  let self : GuestM Identity := do
    let g ← get
    match g.body target, g.isExact target with
    | .int _, true => return target
    | _, _ => int n
  match name with
  | "bit_length" => int (bitLength n.natAbs)
  | "bit_count" => int (bitCount (n.natAbs.log2 + 1) n.natAbs)
  | "to_bytes" => intToBytes n arguments
  | "as_integer_ratio" => do tuple [← self, ← int 1]
  | "__round__" => do
    match ← placesOf? arguments[0]? with
    | .none => self
    | some places => int (roundInt n places)
  | "__format__" => do text (← formattedData target (← textArgument "__format__() argument" (arguments.headD default)))
  | "__getnewargs__" => do tuple [← int n]
  | "__sizeof__" => int (24 + 4 * max 1 ((bitLength n.natAbs + 29) / 30))
  | _ => self

/-- Calls a method of a double. -/
def floatMethod (target : Identity) (x : Double) (name : String) (arguments : List Identity) : GuestM Identity := do
  let whole (f : Double → Int) : GuestM Identity := do
    refuseUnbounded x
    int (f x)
  match name with
  | "__trunc__" => whole Double.truncated
  | "__floor__" => whole Double.floored
  | "__ceil__" => whole Double.ceiled
  | "__round__" => do roundFloat x (← placesOf? arguments[0]?)
  | "as_integer_ratio" => do
    let (a, b) ← fractionOf x
    tuple [← int a, ← int b]
  | "hex" => string (hexOf x)
  | "is_integer" => bool x.toInt?.isSome
  | "__format__" => do text (← formattedData target (← textArgument "__format__() argument" (arguments.headD default)))
  | "__getnewargs__" => do tuple [← float x]
  | _ => do
    if (← get).isExact target then return target else float x

/-- Calls a method of a complex number. -/
def complexMethod (target : Identity) (re im : Double) (name : String) (arguments : List Identity) :
    GuestM Identity := do
  match name with
  | "conjugate" => allocate (.complex re im.negate)
  | "__format__" => do text (← formattedData target (← textArgument "__format__() argument" (arguments.headD default)))
  | "__getnewargs__" => do tuple [← float re, ← float im]
  | _ => allocate (.complex re im)

end ScriptHost.GuestM
