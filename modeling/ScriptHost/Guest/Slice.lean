import ScriptHost.Guest.Iteration

/-! Places in sequences: integers that stand for a place, and slices. -/
namespace ScriptHost.GuestM

/-- The place in a sequence that an integer stands for: negative ones count from the end. -/
def place? (n : Int) (size : Nat) : Option Nat :=
  let place := if n < 0 then n + size else n
  if 0 ≤ place ∧ place < size then some place.toNat else .none

/-- The integer of an end of a slice, or nothing where the slice leaves it open. -/
def sliceEnd (id : Identity) : GuestM (Option Int) := do
  let g ← get
  if g.isNone id then return .none
  else if g.hasIndex id then some <$> indexOf id
  else raise (.typeError "slice indices must be integers or None or have an __index__ method")

/-- The places of a sequence that a slice picks: the first one, the one it stops before, and the
distance. -/
structure Places where
  first : Int
  stop : Int
  step : Int

namespace Places

def count (p : Places) : Nat := rangeLength p.first p.stop p.step

/-- Cuts the ends of a slice down to a sequence. -/
def within (start stop : Option Int) (step : Int) (size : Nat) : Places :=
  let least : Int := if step < 0 then -1 else 0
  let most : Int := if step < 0 then size - 1 else size
  let cut (n : Int) : Int := min most (max least (if n < 0 then n + size else n))
  ⟨(start.map cut).getD (if step < 0 then most else least),
    (stop.map cut).getD (if step < 0 then least else most), step⟩

/-- The items of a sequence that a slice picks. -/
def pick {α : Type} (p : Places) (items : Array α) : List α :=
  if p.step = 1 then (items.extract p.first.toNat p.stop.toNat).toList
  else (List.range p.count).filterMap fun (i : Nat) => items[(p.first + i * p.step).toNat]?

/-- Whether a slice picks a whole sequence as it stands. -/
def isWhole (p : Places) (size : Nat) : Bool := p.first == 0 && p.step == 1 && p.count == size

end Places

/-- The places that a slice object picks from a sequence. -/
def placesOf (start stop step : Identity) (size : Nat) : GuestM Places := do
  let step := (← sliceEnd step).getD 1
  if step = 0 then raise (.valueError "slice step cannot be zero")
  let start ← sliceEnd start
  return .within start (← sliceEnd stop) step size

end ScriptHost.GuestM
