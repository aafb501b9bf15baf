import ScriptHost.Guest.Truth
import ScriptHost.Sorting

/-! Comparison of objects: when two of them are equal, which one comes first, and how they are
sorted. -/
namespace ScriptHost

/-- The order between objects that a comparison asks for. -/
inductive Comparison where
  | less | lessEqual | greater | greaterEqual
  deriving DecidableEq, Repr

def Comparison.symbol : Comparison → String
  | .less => "<"
  | .lessEqual => "<="
  | .greater => ">"
  | .greaterEqual => ">="

/-- The name of the function behind a comparison. -/
def Comparison.name : Comparison → String
  | .less => "__lt__"
  | .lessEqual => "__le__"
  | .greater => "__gt__"
  | .greaterEqual => "__ge__"

/-- The comparison that holds when the operands change places. -/
def Comparison.reflected : Comparison → Comparison
  | .less => .greater
  | .lessEqual => .greaterEqual
  | .greater => .less
  | .greaterEqual => .lessEqual

/-- Whether a comparison holds between two values of which the first may be less or equal. -/
def Comparison.holds (c : Comparison) (isLess isEqual : Bool) : Bool :=
  match c with
  | .less => isLess && !isEqual
  | .lessEqual => isLess || isEqual
  | .greater => !isLess && !isEqual
  | .greaterEqual => !isLess || isEqual

/-- A number as the operators see it. -/
inductive Number where
  | int (n : Int)
  | float (x : Double)
  | complex (re im : Double)

namespace Number

/-- A real number as a fraction of a power of two, unless it is infinite or a NaN. -/
private def scaled? : Number → Option (Int × Int)
  | .int n => some (n, 0)
  | .float x => if x.isNaN || x.isInfinite then none else some x.signedDecode
  | .complex _ _ => none

private def isNaN : Number → Bool
  | .int _ => false
  | .float x => x.isNaN
  | .complex re im => re.isNaN || im.isNaN

/-- Whether a real number is less than another one and whether the two are equal. -/
private def order (x y : Number) : Bool × Bool :=
  match x.scaled?, y.scaled? with
  | some (m, p), some (n, q) =>
    let unit := min p q
    let (a, b) := (m * pow2 (p - unit), n * pow2 (q - unit))
    (a < b, a = b)
  | some _, none => match y with
    | .float y => (!y.isNegative, false)
    | _ => (false, false)
  | none, some _ => match x with
    | .float x => (x.isNegative, false)
    | _ => (false, false)
  | none, none => match x, y with
    | .float x, .float y => (x.isNegative && !y.isNegative, x.bits == y.bits)
    | _, _ => (false, false)

def equals : Number → Number → Bool
  | .complex a b, .complex c d => a.equals c && b.equals d
  | .complex a b, y | y, .complex a b => b.isZero && !y.isNaN && !a.isNaN && (order (.float a) y).2
  | x, y => !x.isNaN && !y.isNaN && (order x y).2

/-- Whether a comparison holds between two real numbers. -/
def compare (c : Comparison) (x y : Number) : Bool :=
  if x.isNaN || y.isNaN then false
  else
    let (isLess, isEqual) := order x y
    c.holds isLess isEqual

end Number

namespace Guest

def number? (g : Guest) (id : Identity) : Option Number :=
  match g.body id with
  | .bool b => some (.int (if b then 1 else 0))
  | .int n => some (.int n)
  | .float x => some (.float x)
  | .complex re im => some (.complex re im)
  | _ => none

end Guest

namespace GuestM

/-- The keys of what a view of a dictionary shows, if no two of them can be equal. -/
def viewForms? (id : Identity) : GuestM (Option (List Key)) := do
  let g ← get
  match g.body id with
  | .view .keys dict => return some ((g.entries dict).map (·.form))
  | .view .items dict =>
    let pairForm (entry : DictEntry) : GuestM Key := return .tuple 2 :: entry.form ++ (← keyForm entry.value)
    succeeded? ((g.entries dict).mapM pairForm)
  | .set members | .frozenSet members => return some (members.toList.map (·.1))
  | _ => return .none

private def tooDeeplyCompared : Fault :=
  .of "RecursionError" "maximum recursion depth exceeded in comparison"

def isSubset (xs ys : List Key) : Bool := xs.all ys.contains

def isSequencePair : Body → Body → Option (Array Identity × Array Identity)
  | .list xs, .list ys => some (xs, ys)
  | .tuple xs, .tuple ys => some (xs, ys)
  | .slice a b c, .slice d e f => some (#[a, b, c], #[d, e, f])
  | _, _ => Option.none

/-- Whether objects at the same places are one or equal. -/
def allSame (equal : Identity → Identity → GuestM Bool) : List Identity → List Identity → GuestM Bool
  | a :: as, b :: bs => do
    if a == b then allSame equal as bs
    else if ← equal a b then allSame equal as bs
    else return false
  | _, _ => return true

/-- Whether the entries of a dictionary are those of another one as well. -/
def entriesSame (equal : Identity → Identity → GuestM Bool) (others : Dict) : Dict → GuestM Bool
  | [] => return true
  | entry :: rest => do
    match others.find? entry.form with
    | some value =>
      if entry.value == value then entriesSame equal others rest
      else if ← equal entry.value value then entriesSame equal others rest
      else return false
    | .none => return false

/-- Whether the data of two objects is equal, unless data of these kinds is never compared. -/
def equalData? (equal : Identity → Identity → GuestM Bool) (a b : Identity) : GuestM (Option Bool) := do
  let g ← get
  match g.number? a, g.number? b, g.octets? a, g.octets? b with
  | some x, some y, _, _ => return some (x.equals y)
  | _, _, some xs, some ys => return some (xs == ys)
  | _, _, _, _ =>
    match isSequencePair (g.body a) (g.body b), g.body a, g.body b with
    | some (xs, ys), _, _ =>
      if xs.size = ys.size then some <$> allSame equal xs.toList ys.toList else return some false
    | .none, .text s, .text t => return some (s == t)
    | .none, .range a b c, .range d e f => return some (KeyPart.ofRange a b c == KeyPart.ofRange d e f)
    | .none, .dict xs, .dict ys =>
      if xs.length = ys.length then some <$> entriesSame equal ys xs else return some false
    | .none, .proxy x, .proxy y => some <$> equal x y
    | .none, .proxy x, .dict _ => some <$> equal x b
    | .none, .dict _, .proxy y => some <$> equal a y
    | .none, .bound target owner name _, .bound target' owner' name' _ =>
      return some (target == target' && owner == owner' && name == name')
    | .none, .method f x, .method f' y => return some (x == y && f == f')
    | .none, _, _ =>
      match ← viewForms? a, ← viewForms? b with
      | some xs, some ys => return some (xs.length == ys.length && isSubset xs ys)
      | _, _ => return .none

/-- What two operands make of a comparison: the reflected one comes first where the class of the
second extends that of the first. Nothing comes of it if neither knows about the other. -/
def inTurn (a b : Identity) (straight reflected : GuestM (Option Identity)) : GuestM (Option Identity) := do
  let g ← get
  let (class?, other) := (← classOf a, ← classOf b)
  if class? != other && g.isSubclass other class? then
    match ← reflected with
    | some answer => return some answer
    | .none => straight
  else
    match ← straight with
    | some answer => return some answer
    | .none => reflected

/-- An answer, unless it says that an operation does not apply. -/
def applicable? (answer : Identity) : GuestM (Option Identity) := do
  return if isNotApplicable (← get) answer then .none else some answer

/-- The order between the data of two objects, unless such data has none. -/
def compareData? (c : Comparison) (equal : Identity → Identity → GuestM Bool)
    (order : Identity → Identity → GuestM Bool) (a b : Identity) : GuestM (Option Bool) := do
  let g ← get
  match g.number? a, g.number? b with
  | some (.complex _ _), _ | _, some (.complex _ _) => return .none
  | some x, some y => return some (x.compare c y)
  | _, _ =>
    match isSequencePair (g.body a) (g.body b), g.body a, g.body b with
    | some (xs, ys), _, _ => some <$> compareItems xs.toList ys.toList
    | .none, .text s, .text t => return some (comparePoints s.points t.points)
    | .none, .memoryView _ _ _ _, _ | .none, .bytes _, .memoryView _ _ _ _ => return .none
    | .none, _, _ =>
      match g.octets? a, g.octets? b, ← viewForms? a, ← viewForms? b with
      | some xs, some ys, _, _ => return some (comparePoints (xs.map UInt8.toNat) (ys.map UInt8.toNat))
      | _, _, some xs, some ys =>
        let (smaller, larger) := match c with
          | .less | .lessEqual => (xs, ys)
          | .greater | .greaterEqual => (ys, xs)
        let sizes := match c with
          | .less | .greater => smaller.length < larger.length
          | .lessEqual | .greaterEqual => true
        return some (sizes && isSubset smaller larger)
      | _, _, _, _ => return .none
where
  comparePoints (xs ys : List Nat) : Bool := c.holds (decide (xs < ys)) (xs == ys)
  compareItems : List Identity → List Identity → GuestM Bool
    | [], [] => return c.holds false true
    | [], _ :: _ => return c.holds true false
    | _ :: _, [] => return c.holds false false
    | a :: as, b :: bs => do
      if a == b then compareItems as bs
      else if ← equal a b then compareItems as bs
      else order a b

/-- What the class of an object says of a relation to another one. -/
def relate (name : String) (data : Identity → Identity → GuestM (Option Bool)) (a b : Identity) :
    GuestM (Option Identity) := do
  let answer? (value : Identity) : GuestM (Option Identity) := do
    match ← callIfGiven? value a [b] with
    | some answer => applicable? answer
    | .none => return .none
  let g ← get
  match g.entryOf a (.ofString name) with
  | some (.scripted value) => answer? value
  | some (.own "Mapping" kind _) => do
    let function ← intern (.member "Mapping" name kind)
    applicable? (← call function [a, b])
  | some (.own "object" _ _) =>
    if name ≠ "__ne__" then return .none
    match g.special? a "__eq__" with
    | .none => return .none
    | some value => (← answer? value).mapM fun answer => do bool !(← truth answer)
  | some (.own _ _ _) => (← data a b).mapM bool
  | _ => return .none

def notOrdered {α : Type} (c : Comparison) (a b : Identity) : GuestM α := do
  let g ← get
  typeError ("'" ++ c.symbol ++ "' not supported between instances of '" ++ g.classLabel a ++ "' and '" ++
    g.classLabel b ++ "'")

/-- The object that answers whether two objects are equal, to a depth. -/
def equalityTo : Nat → Identity → Identity → GuestM Identity
  | 0, _, _ => raise tooDeeplyCompared
  | depth + 1, a, b => do
    let g ← get
    let inner (a b : Identity) : GuestM Bool := do truth (← equalityTo depth a b)
    let data := equalData? inner
    if g.isExact a && g.isExact b then bool ((← data a b).getD (a == b))
    else
      match ← inTurn a b (relate "__eq__" data a b) (relate "__eq__" data b a) with
      | some answer => return answer
      | .none => bool (a == b)

/-- Whether two objects are equal, to a depth. -/
def equalTo (depth : Nat) (a b : Identity) : GuestM Bool := do truth (← equalityTo depth a b)

/-- The object that answers whether an order holds between two objects, to a depth. -/
def orderTo (c : Comparison) : Nat → Identity → Identity → GuestM Identity
  | 0, _, _ => raise tooDeeplyCompared
  | depth + 1, a, b => do
    let g ← get
    let inner (a b : Identity) : GuestM Bool := do truth (← orderTo c depth a b)
    let data (c : Comparison) := compareData? c (equalTo depth) inner
    if g.isExact a && g.isExact b then
      match ← data c a b with
      | some answer => bool answer
      | .none => notOrdered c a b
    else
      let back := c.reflected
      match ← inTurn a b (relate c.name (data c) a b) (relate back.name (data back) b a) with
      | some answer => return answer
      | .none => notOrdered c a b

/-- How deeply comparisons nest at most. -/
private def comparisonDepth : Nat := 995

/-- The object that answers whether two objects are equal. -/
def equality (a b : Identity) : GuestM Identity := equalityTo comparisonDepth a b

/-- Whether two objects are equal. -/
def equal (a b : Identity) : GuestM Bool := equalTo comparisonDepth a b

/-- Whether two objects are one or equal, which is how collections look for their items. -/
def same (a b : Identity) : GuestM Bool := if a == b then return true else equal a b

/-- Whether the data of two objects is equal, unless data of these kinds is never compared. -/
def sameData? (a b : Identity) : GuestM (Option Bool) := equalData? equal a b

/-- Whether an order holds between two objects. -/
def compare (c : Comparison) (a b : Identity) : GuestM Bool := do truth (← orderTo c comparisonDepth a b)

/-- Whether an order holds between the data of two objects, unless such data has none. -/
def orderData? (c : Comparison) (a b : Identity) : GuestM (Option Bool) :=
  compareData? c equal (compare c) a b

/-- Objects in ascending order; equal ones stay as they are. -/
def sort (ids : List Identity) : GuestM (List Identity) := Sorting.sort (compare .less) ids

end GuestM
end ScriptHost
