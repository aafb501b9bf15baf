import ScriptHost.Number.Exact

/-! Stable sorting by merging runs that are in order already. It asks for comparisons in a fixed
sequence, so that the answer is settled even where comparisons contradict each other. -/
namespace ScriptHost.Sorting

variable {α : Type} {m : Type → Type} [Inhabited α] [Monad m] (less : α → α → m Bool)

def item (xs : Array α) (i : Nat) : α := xs.getD i default

/-- Halves a stretch of places until one is left: behind those that a test sends to the right. -/
def bisect (goesRight : Nat → m Bool) : Nat → Nat → Nat → m Nat
  | 0, low, _ => pure low
  | fuel + 1, low, high =>
    if low < high then do
      let middle := low + (high - low) / 2
      if ← goesRight middle then bisect goesRight fuel (middle + 1) high
      else bisect goesRight fuel low middle
    else pure low

/-- Doubles an offset as long as it passes a test; the last one passed and the next, no further
than a bound. -/
def stretch (passes : Nat → m Bool) (most : Nat) : Nat → Nat → Nat → m (Nat × Nat)
  | 0, last, offset => pure (last, min offset most)
  | fuel + 1, last, offset =>
    if offset < most then do
      if ← passes offset then stretch passes most fuel offset (2 * offset + 1)
      else return (last, offset)
    else pure (last, min offset most)

/-- Looks from a hint on for the place where a test of items turns from true to false. -/
def gallop (goesRight : Nat → m Bool) (size hint : Nat) : m Nat := do
  if ← goesRight hint then
    let (last, offset) ← stretch (fun i => goesRight (hint + i)) (size - hint) 64 0 1
    bisect goesRight 64 (hint + last + 1) (hint + offset)
  else
    let (last, offset) ← stretch (fun i => (!·) <$> goesRight (hint - i)) (hint + 1) 64 0 1
    bisect goesRight 64 (hint + 1 - offset) (hint - last)

/-- Where an item goes among sorted ones, before those equal to it. -/
def gallopLeft (key : α) (xs : Nat → α) (size hint : Nat) : m Nat :=
  gallop (fun i => less (xs i) key) size hint

/-- Where an item goes among sorted ones, behind those equal to it. -/
def gallopRight (key : α) (xs : Nat → α) (size hint : Nat) : m Nat :=
  gallop (fun i => (!·) <$> less key (xs i)) size hint

/-- How many wins in a row make a merge look further ahead, to begin with. -/
private def firstThreshold : Nat := 7

/-- A merge of two runs: the items of each that are placed, those placed, and how many wins in a
row make it look further ahead. -/
structure Merging (α : Type) where
  left : Nat
  right : Nat
  placed : Array α := #[]
  threshold : Nat

/-- How a merge goes on. -/
inductive Turn where
  | further
  /-- What is left of one run keeps its order. -/
  | remainder
  /-- The last item of one run goes beyond all that is left of the other. -/
  | lastItem

section Upwards

variable (a b : Array α)

def placeLeft (s : Merging α) (count : Nat) : Merging α :=
  { s with left := s.left + count, placed := s.placed ++ a.extract s.left (s.left + count) }

def placeRight (s : Merging α) (count : Nat) : Merging α :=
  { s with right := s.right + count, placed := s.placed ++ b.extract s.right (s.right + count) }

def singleUp : Nat → Nat → Nat → Merging α → m (Turn × Merging α)
  | 0, _, _, s => pure (.remainder, s)
  | fuel + 1, wins, losses, s => do
    if ← less (item b s.right) (item a s.left) then
      let s := placeRight b s 1
      if s.right = b.size then return (.remainder, s)
      else if s.threshold ≤ losses + 1 then return (.further, s)
      else singleUp fuel 0 (losses + 1) s
    else
      let s := placeLeft a s 1
      if a.size - s.left = 1 then return (.lastItem, s)
      else if s.threshold ≤ wins + 1 then return (.further, s)
      else singleUp fuel (wins + 1) 0 s

def gallopUp : Nat → Merging α → m (Turn × Merging α)
  | 0, s => pure (.remainder, s)
  | fuel + 1, s => do
    let s := { s with threshold := if 1 < s.threshold then s.threshold - 1 else s.threshold }
    let wins ← gallopRight less (item b s.right) (fun i => item a (s.left + i)) (a.size - s.left) 0
    let s := placeLeft a s wins
    if wins ≠ 0 ∧ a.size - s.left = 1 then return (.lastItem, s)
    if wins ≠ 0 ∧ s.left = a.size then return (.remainder, s)
    let s := placeRight b s 1
    if s.right = b.size then return (.remainder, s)
    let losses ← gallopLeft less (item a s.left) (fun i => item b (s.right + i)) (b.size - s.right) 0
    let s := placeRight b s losses
    if losses ≠ 0 ∧ s.right = b.size then return (.remainder, s)
    let s := placeLeft a s 1
    if a.size - s.left = 1 then return (.lastItem, s)
    if firstThreshold ≤ wins ∨ firstThreshold ≤ losses then gallopUp fuel s
    else return (.further, { s with threshold := s.threshold + 1 })

def mergeUp : Nat → Merging α → m (Turn × Merging α)
  | 0, s => pure (.remainder, s)
  | fuel + 1, s => do
    let (turn, s) ← singleUp less a b (a.size + b.size + 1) 0 0 s
    match turn with
    | .further =>
      let (turn, s) ← gallopUp less a b (a.size + b.size + 1) { s with threshold := s.threshold + 1 }
      match turn with
      | .further => mergeUp fuel s
      | turn => return (turn, s)
    | turn => return (turn, s)

/-- Merges two runs from the front, where the first item of the second comes before all others. -/
def mergeLow (threshold : Nat) : m (Array α × Nat) := do
  let s : Merging α := placeRight b { left := 0, right := 0, threshold } 1
  let (turn, s) ←
    if s.right = b.size then pure (.remainder, s)
    else if a.size = 1 then pure (.lastItem, s)
    else mergeUp less a b (a.size + b.size + 1) s
  let (restA, restB) := (a.extract s.left a.size, b.extract s.right b.size)
  match turn with
  | .lastItem => return (s.placed ++ restB ++ restA, s.threshold)
  | _ => return (s.placed ++ restA ++ restB, s.threshold)

end Upwards

section Downwards

variable (a b : Array α)

/-- In a merge from the back, what is placed grows in front, and the items of each run that are
left are counted. -/
def takeLeft (s : Merging α) (count : Nat) : Merging α :=
  { s with left := s.left - count, placed := a.extract (s.left - count) s.left ++ s.placed }

def takeRight (s : Merging α) (count : Nat) : Merging α :=
  { s with right := s.right - count, placed := b.extract (s.right - count) s.right ++ s.placed }

def singleDown : Nat → Nat → Nat → Merging α → m (Turn × Merging α)
  | 0, _, _, s => pure (.remainder, s)
  | fuel + 1, wins, losses, s => do
    if ← less (item b (s.right - 1)) (item a (s.left - 1)) then
      let s := takeLeft a s 1
      if s.left = 0 then return (.remainder, s)
      else if s.threshold ≤ wins + 1 then return (.further, s)
      else singleDown fuel (wins + 1) 0 s
    else
      let s := takeRight b s 1
      if s.right = 1 then return (.lastItem, s)
      else if s.threshold ≤ losses + 1 then return (.further, s)
      else singleDown fuel 0 (losses + 1) s

def gallopDown : Nat → Merging α → m (Turn × Merging α)
  | 0, s => pure (.remainder, s)
  | fuel + 1, s => do
    let s := { s with threshold := if 1 < s.threshold then s.threshold - 1 else s.threshold }
    let place ← gallopRight less (item b (s.right - 1)) (item a) s.left (s.left - 1)
    let wins := s.left - place
    let s := takeLeft a s wins
    if wins ≠ 0 ∧ s.left = 0 then return (.remainder, s)
    let s := takeRight b s 1
    if s.right = 1 then return (.lastItem, s)
    let place ← gallopLeft less (item a (s.left - 1)) (item b) s.right (s.right - 1)
    let losses := s.right - place
    let s := takeRight b s losses
    if losses ≠ 0 ∧ s.right = 1 then return (.lastItem, s)
    if losses ≠ 0 ∧ s.right = 0 then return (.remainder, s)
    let s := takeLeft a s 1
    if s.left = 0 then return (.remainder, s)
    if firstThreshold ≤ wins ∨ firstThreshold ≤ losses then gallopDown fuel s
    else return (.further, { s with threshold := s.threshold + 1 })

def mergeDown : Nat → Merging α → m (Turn × Merging α)
  | 0, s => pure (.remainder, s)
  | fuel + 1, s => do
    let (turn, s) ← singleDown less a b (a.size + b.size + 1) 0 0 s
    match turn with
    | .further =>
      let (turn, s) ← gallopDown less a b (a.size + b.size + 1) { s with threshold := s.threshold + 1 }
      match turn with
      | .further => mergeDown fuel s
      | turn => return (turn, s)
    | turn => return (turn, s)

/-- Merges two runs from the back, where the last item of the first comes behind all others. -/
def mergeHigh (threshold : Nat) : m (Array α × Nat) := do
  let s : Merging α := takeLeft a { left := a.size, right := b.size, threshold } 1
  let (turn, s) ←
    if s.left = 0 then pure (.remainder, s)
    else if b.size = 1 then pure (.lastItem, s)
    else mergeDown less a b (a.size + b.size + 1) s
  let (restA, restB) := (a.extract 0 s.left, b.extract 0 s.right)
  match turn with
  | .lastItem => return (restB ++ restA ++ s.placed, s.threshold)
  | _ => return (restA ++ restB ++ s.placed, s.threshold)

end Downwards

/-- A run, the place it starts at, and how late it is merged with the next one. -/
structure Run (α : Type) where
  start : Nat
  items : Array α
  power : Nat := 0

/-- Merges two neighbouring runs, leaving out what is in its place already. -/
def mergeRuns (threshold : Nat) (a b : Array α) : m (Array α × Nat) := do
  let front ← gallopRight less (item b 0) (item a) a.size 0
  if front = a.size then return (a ++ b, threshold)
  let low := a.extract front a.size
  let back ← gallopLeft less (item low (low.size - 1)) (item b) b.size (b.size - 1)
  if back = 0 then return (a ++ b, threshold)
  let high := b.extract 0 back
  let (merged, threshold) ←
    if low.size ≤ high.size then mergeLow less low high threshold else mergeHigh less low high threshold
  return (a.extract 0 front ++ merged ++ b.extract back b.size, threshold)

/-- How deep in a balanced merging of all items two neighbouring runs meet. -/
private def powerOf (total : Nat) : Nat → Nat → Nat → Nat
  | 0, _, _ => 0
  | fuel + 1, a, b =>
    if total ≤ a then powerOf total fuel (2 * (a - total)) (2 * (b - total)) + 1
    else if total ≤ b then 1
    else powerOf total fuel (2 * a) (2 * b) + 1

/-- Merges the runs on top that meet deeper than the new one does; the latest run comes first. -/
def settle (power : Nat) : Nat → Nat → List (Run α) → m (List (Run α) × Nat)
  | fuel + 1, threshold, b :: a :: rest =>
    if power < a.power then do
      let (items, threshold) ← mergeRuns less threshold a.items b.items
      settle power fuel threshold ({ a with items } :: rest)
    else pure (b :: a :: rest, threshold)
  | _, threshold, runs => pure (runs, threshold)

def mergeAll : Nat → Nat → List (Run α) → m (List (Run α))
  | fuel + 1, threshold, c :: b :: a :: rest =>
    if a.items.size < c.items.size then do
      let (items, threshold) ← mergeRuns less threshold a.items b.items
      mergeAll fuel threshold (c :: { a with items } :: rest)
    else do
      let (items, threshold) ← mergeRuns less threshold b.items c.items
      mergeAll fuel threshold ({ b with items } :: a :: rest)
  | fuel + 1, threshold, [b, a] => do
    let (items, threshold) ← mergeRuns less threshold a.items b.items
    mergeAll fuel threshold [{ a with items }]
  | _, _, runs => pure runs

/-- How many items after the first two of a run go on as these do. -/
def countRun (falls : Bool) : α → List α → m Nat
  | _, [] => pure 0
  | x, y :: rest => do
    if (← less y x) = falls then return (← countRun falls y rest) + 1
    return 0

/-- Puts an item behind the sorted ones that do not come after it. -/
def insertInOrder (sorted : Array α) (x : α) : m (Array α) := do
  let place ← bisect (fun i => (!·) <$> less x (item sorted i)) 64 0 sorted.size
  return sorted.extract 0 place ++ #[x] ++ sorted.extract place sorted.size

/-- The run at the front of some items, put in ascending order and brought to a least length. -/
def frontRun (least : Nat) (items : List α) : m (Array α) :=
  match items with
  | x :: y :: rest => do
    let falls ← less y x
    let length := (← countRun less falls y rest) + 2
    let run := items.take length
    let run := (if falls then run.reverse else run).toArray
    if length < least then (items.take least |>.drop length).foldlM (insertInOrder less) run
    else return run
  | items => pure items.toArray

/-- The least length of runs, between 32 and 64, for so many items. -/
private def leastRun (n : Nat) : Nat :=
  let halvings := n.log2 - 5
  n / pow2 halvings + if n % pow2 halvings = 0 then 0 else 1

def sortFrom (total least : Nat) :
    Nat → Nat → Nat → List (Run α) → List α → m (List (Run α))
  | 0, _, _, runs, _ => pure runs
  | fuel + 1, threshold, start, runs, items =>
    if items.isEmpty then mergeAll less (runs.length + 1) threshold runs else do
      let run ← frontRun less least items
      let (runs, threshold) ← match runs with
        | [] => pure ([], threshold)
        | last :: _ =>
          let twice := 2 * last.start + last.items.size
          let power := powerOf total (total.log2 + 2) twice (twice + last.items.size + run.size)
          let (runs, threshold) ← settle less power (runs.length + 1) threshold runs
          match runs with
          | last :: rest => pure ({ last with power } :: rest, threshold)
          | [] => pure ([], threshold)
      sortFrom total least fuel threshold (start + run.size) (⟨start, run, 0⟩ :: runs)
        (items.drop run.size)

/-- Items in ascending order; those that are equal keep theirs. -/
def sort (items : List α) : m (List α) := do
  let total := items.length
  let least := leastRun total
  match ← sortFrom less total least (total + 1) firstThreshold 0 [] items with
  | [run] => return run.items.toList
  | _ => return items

end ScriptHost.Sorting
