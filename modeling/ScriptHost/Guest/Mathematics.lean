import ScriptHost.Guest.Functions

/-! The functions and constants of the module of mathematics. -/
namespace ScriptHost

namespace Mathematics

/-- The constants, by the bits of the nearest doubles. -/
def constants : List (String × Double) := [
  ("pi", ⟨0x400921fb54442d18⟩), ("e", ⟨0x4005bf0a8b145769⟩), ("tau", ⟨0x401921fb54442d18⟩),
  ("inf", .infinity false), ("nan", .nan)]

/-- The functions from doubles to doubles. -/
private def curves : List (String × (Float → Float)) := [
  ("acos", Float.acos), ("acosh", Float.acosh), ("asin", Float.asin), ("asinh", Float.asinh),
  ("atan", Float.atan), ("atanh", Float.atanh), ("cbrt", Float.cbrt), ("cos", Float.cos),
  ("cosh", Float.cosh), ("exp", Float.exp), ("exp2", Float.exp2), ("fabs", Float.abs), ("sin", Float.sin),
  ("sinh", Float.sinh), ("sqrt", Float.sqrt), ("tan", Float.tan), ("tanh", Float.tanh)]

private def binary : List String := [
  "atan2", "comb", "copysign", "fmod", "isclose", "ldexp", "pow", "remainder"]

private def unary : List String := [
  "ceil", "degrees", "factorial", "floor", "frexp", "fsum", "isfinite", "isinf", "isnan", "isqrt", "log10",
  "log2", "modf", "prod", "radians", "trunc"]

/-- The names of the functions. -/
def functions : List String :=
  curves.map (·.1) ++ unary ++ binary ++ ["gcd", "hypot", "lcm", "log", "perm"]

/-- How many arguments a function takes. -/
def arity (name : String) : Arity :=
  if binary.contains name then .positional 2 2
  else if name = "perm" then .positional 1 2
  else if (curves.lookup name).isSome || unary.contains name then .one
  else .any

end Mathematics

namespace GuestM

def domainError {α : Type} : GuestM α := valueError "math domain error"

def rangeError {α : Type} : GuestM α := raise (.of "OverflowError" "math range error")

/-- The double of an argument that has to be a number. -/
def realOf (id : Identity) : GuestM Double := do
  let g ← get
  match g.body id, g.number? id, g.special? id "__float__" with
  | .float x, _, _ => return x
  | _, _, some value =>
    let answer ← callFor value id []
    match ← bodyOf answer with
    | .float x => return x
    | _ => typeError (g.className id ++ ".__float__ returned non-float (type " ++ (← classLabel answer) ++ ")")
  | _, some (.int n), .none => widened n
  | _, _, .none =>
    if g.hasIndex id then widened (← indexOf id) else typeError ("must be real number, not " ++ g.classLabel id)

/-- Refuses a result that is no number or too large although the arguments were in order. -/
def checked (arguments : List Double) (result : Double) : GuestM Identity := do
  if result.isNaN && !arguments.any Double.isNaN then domainError
  if result.isInfinite && arguments.all Double.isFinite then
    if arguments.all fun x => x.absolute.equals .one then domainError else rangeError
  float result

def logarithm (base : Float) (scale : Float → Float) (id : Identity) : GuestM Double := do
  let ofDouble (x : Double) : GuestM Double := do
    if x.isNaN then return x
    if x.isZero || x.isNegative then domainError
    return .ofFloat (scale x.toFloat)
  match (← get).number? id with
  | some (.int n) =>
    if n ≤ 0 then domainError
    let x := Double.ofInt n
    if x.isInfinite then
      let shift := n.natAbs.log2 - 60
      let rest := Double.ofNat (n.natAbs / pow2 shift)
      return .ofFloat (scale rest.toFloat + Float.ofNat shift * (Float.log 2 / base))
    else ofDouble x
  | _ => do ofDouble (← realOf id)

def naturalLogarithm (id : Identity) : GuestM Double := logarithm 1 Float.log id

/-- The whole number that a function makes of a number, unless the class of the number has its own. -/
def whole (name : String) (f : Double → Int) (id : Identity) : GuestM Identity := do
  match ← specially? name id [], (← get).number? id with
  | some answer, _ => return answer
  | .none, some (.int n) => int n
  | .none, _ =>
    let x ← realOf id
    refuseUnbounded x
    int (f x)

private def productTo (low count : Nat) : Nat := (List.range count).foldl (fun n i => n * (low + i)) 1

def chosen (n k : Int) (ordered : Bool) : GuestM Identity := do
  if n < 0 then valueError "n must be a non-negative integer"
  if k < 0 then valueError "k must be a non-negative integer"
  if n < k then int 0
  else
    let k' := if ordered then k else min k (n - k)
    let arrangements := productTo (n - k' + 1).toNat k'.toNat
    int (if ordered then arrangements else arrangements / productTo 1 k'.toNat)

def factorial (n : Int) : GuestM Identity := do
  if n < 0 then valueError "factorial() not defined for negative values"
  if 0x100000 < n then raise (.of "MemoryError" "")
  int (productTo 1 n.toNat)

def power (x y : Double) : GuestM Identity := do
  let result := x.power y
  if result.isNaN && !x.isNaN && !y.isNaN then domainError
  if result.isInfinite && x.isFinite && y.isFinite then
    if x.isZero then domainError else rangeError
  float result

/-- The sum of doubles, rounded once. -/
private def exactSum (items : List Double) : Double :=
  if items.any Double.isNaN then .nan
  else match items.find? Double.isInfinite with
    | some x => x
    | .none =>
      let parts := items.map Double.signedDecode
      let unit := parts.foldl (fun (least : Int) (_, q) => min least q) 0
      let total := parts.foldl (fun (sum : Int) (m, q) => sum + m * pow2 (q - unit)) 0
      let result := Double.ofRatio total.natAbs (pow2 (-unit))
      if total < 0 then result.negate else result

def split (x : Double) : GuestM (Identity × Identity) := do
  if x.isInfinite then return (← float (Double.zero.withSignOf x), ← float x)
  if x.isNaN then return (← float x, ← float x)
  let integral := (Double.ofInt x.truncated).withSignOf x
  return (← float ((x.sub integral).withSignOf x), ← float integral)

private def isClose (x y : Double) : Bool :=
  x.equals y || (x.isFinite && y.isFinite &&
    let distance := (x.sub y).absolute
    let bound := (Double.mul ⟨0x3e112e0be826d695⟩ x.absolute)
    let bound' := (Double.mul ⟨0x3e112e0be826d695⟩ y.absolute)
    !(bound.less distance) || !(bound'.less distance))

def scaled (x : Double) (n : Int) : GuestM Identity := do
  if x.isZero || !x.isFinite then float x
  else
    let (m, q) := x.decode
    let shift := max (-2200) (min 2200 (q + n))
    let result := Double.ofRatio (m * pow2 shift) (pow2 (-shift))
    if result.isInfinite then rangeError
    float (result.withSignOf x)

def mantissa (x : Double) : GuestM Identity := do
  if x.isZero || !x.isFinite then tuple [← float x, ← int 0]
  else
    let (m, q) := x.decode
    let size := m.log2 + 1
    let part := (Double.ofRatio m (pow2 size)).withSignOf x
    tuple [← float part, ← int (q + size)]

def turned (arguments : List Double) (f : Float → Float → Float) : GuestM Identity :=
  match arguments with
  | [x, y] => checked arguments (.ofFloat (f x.toFloat y.toFloat))
  | _ => domainError

/-- Calls a function of the module of mathematics with as many arguments as it takes. -/
def callMathematics (name : String) (arguments : List Identity) : GuestM Identity := do
  let first := arguments.headD default
  let second := arguments.getD 1 default
  let real (f : Double → GuestM Identity) : GuestM Identity := do f (← realOf first)
  let reals (f : Double → Double → GuestM Identity) : GuestM Identity := do
    let x ← realOf first
    f x (← realOf second)
  match name with
  | "ceil" => whole "__ceil__" Double.ceiled first
  | "floor" => whole "__floor__" Double.floored first
  | "trunc" =>
    let g ← get
    if (g.number? first).isNone && (g.special? first "__trunc__").isNone then
      typeError ("type " ++ g.classLabel first ++ " doesn't define __trunc__ method")
    whole "__trunc__" Double.truncated first
  | "isfinite" => real fun x => bool x.isFinite
  | "isinf" => real fun x => bool x.isInfinite
  | "isnan" => real fun x => bool x.isNaN
  | "degrees" => real fun x => float (x.mul (Double.div (.ofInt 180) ⟨0x400921fb54442d18⟩))
  | "radians" => real fun x => float (x.mul (Double.div ⟨0x400921fb54442d18⟩ (.ofInt 180)))
  | "factorial" => do factorial (← indexOf first)
  | "isqrt" => do
    let n ← indexOf first
    if n < 0 then valueError "isqrt() argument must be nonnegative"
    int (Double.floorRoot n.natAbs)
  | "comb" => do
    let n ← indexOf first
    chosen n (← indexOf second) false
  | "perm" => do
    let n ← indexOf first
    match arguments[1]?.filter (!(← get).isNone ·) with
    | some id => chosen n (← indexOf id) true
    | .none => factorial n
  | "gcd" => do int ((← arguments.mapM indexOf).foldl (fun (found : Int) n => found.gcd n) 0)
  | "lcm" => do int ((← arguments.mapM indexOf).foldl (fun (found : Int) n => found.lcm n) 1)
  | "hypot" => do
    let parts ← arguments.mapM realOf
    checked parts (parts.foldl Double.hypot .zero)
  | "fsum" => do float (exactSum (← (← itemsOf first).mapM realOf))
  | "prod" => do (← itemsOf first).foldlM (operate .multiply) (← int 1)
  | "log" =>
    match arguments with
    | [id] => do float (← naturalLogarithm id)
    | [id, base] => do
      let x ← naturalLogarithm id
      let y ← naturalLogarithm base
      if y.isZero then zeroDivision "float division by zero"
      float (x.div y)
    | _ => typeError "math.log requires 1 to 2 arguments"
  | "log2" => do float (← logarithm (Float.log 2) Float.log2 first)
  | "log10" => do float (← logarithm (Float.log 10) Float.log10 first)
  | "modf" => real fun x => do
    let (rest, integral) ← split x
    tuple [rest, integral]
  | "frexp" => real mantissa
  | "ldexp" => do
    let x ← realOf first
    scaled x (← indexOf second)
  | "atan2" => reals fun x y => turned [x, y] Float.atan2
  | "copysign" => reals fun x y => float (x.withSignOf y)
  | "fmod" => reals fun x y =>
    if x.isNaN || y.isNaN then float .nan
    else if x.isInfinite || y.isZero then domainError
    else float (if y.isInfinite then x else x.remainder y)
  | "remainder" => reals fun x y => do
    if x.isNaN || y.isNaN then return ← float .nan
    if x.isInfinite || y.isZero then domainError
    let n := (x.div y).nearest
    float (x.sub (y.mul (.ofInt n)))
  | "isclose" => reals fun x y => bool (isClose x y)
  | "pow" => reals power
  | _ =>
    match Mathematics.curves.lookup name with
    | some f => real fun x => checked [x] (.ofFloat (f x.toFloat))
    | .none => typeError ("cannot call math." ++ name ++ "() here")

end GuestM
end ScriptHost
