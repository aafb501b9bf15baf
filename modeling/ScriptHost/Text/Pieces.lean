/-! Searches, cuts and replacements in sequences of code points or bytes. -/
namespace ScriptHost.Pieces

/-- Where a piece begins first, counted from a place that the sequence starts at. -/
private def firstFrom (piece : List Nat) : Nat → List Nat → Option Nat
  | place, [] => if piece.isEmpty then some place else none
  | place, p :: rest =>
    if piece.isPrefixOf (p :: rest) then some place else firstFrom piece (place + 1) rest

/-- Where a piece begins first. -/
def first? (piece whole : List Nat) : Option Nat := firstFrom piece 0 whole

/-- Where a piece begins last. -/
def last? (piece whole : List Nat) : Option Nat :=
  (first? piece.reverse whole.reverse).map fun place => whole.length - place - piece.length

/-- The parts between a separator, from the front, with so many cuts at most. -/
private def cutFrom (separator : List Nat) : Nat → Nat → List Nat → List (List Nat)
  | fuel + 1, cuts + 1, whole =>
    match first? separator whole with
    | some place => whole.take place :: cutFrom separator fuel cuts (whole.drop (place + separator.length))
    | none => [whole]
  | _, _, whole => [whole]

/-- The parts between a separator that is not empty, with so many cuts at most. -/
def split (separator : List Nat) (cuts : Nat) (whole : List Nat) : List (List Nat) :=
  cutFrom separator (whole.length + 1) cuts whole

/-- The parts between a separator, where the cuts are made from the back. -/
def splitBack (separator : List Nat) (cuts : Nat) (whole : List Nat) : List (List Nat) :=
  ((split separator.reverse cuts whole.reverse).map List.reverse).reverse

private def wordsFrom (isBlank : Nat → Bool) : Nat → Nat → List Nat → List (List Nat)
  | 0, _, _ => []
  | fuel + 1, cuts, whole =>
    let rest := whole.dropWhile isBlank
    if rest.isEmpty then []
    else match cuts with
      | 0 => [rest]
      | cuts + 1 =>
        rest.takeWhile (!isBlank ·) :: wordsFrom isBlank fuel cuts (rest.dropWhile (!isBlank ·))

/-- The parts between blanks, with so many cuts at most. -/
def words (isBlank : Nat → Bool) (cuts : Nat) (whole : List Nat) : List (List Nat) :=
  wordsFrom isBlank (whole.length + 1) cuts whole

/-- The parts between blanks, where the cuts are made from the back. -/
def wordsBack (isBlank : Nat → Bool) (cuts : Nat) (whole : List Nat) : List (List Nat) :=
  ((words isBlank cuts whole.reverse).map List.reverse).reverse

/-- How often a piece stands in a sequence, without overlaps. -/
def count (piece whole : List Nat) : Nat :=
  if piece.isEmpty then whole.length + 1 else (split piece whole.length whole).length - 1

private def interleave (added : List Nat) : Nat → List Nat → List Nat
  | _, [] => []
  | 0, whole => whole
  | n + 1, p :: rest => p :: added ++ interleave added n rest

/-- A sequence with a piece replaced, so many times at most; an empty piece stands at every place. -/
def replace (piece added : List Nat) (most : Nat) (whole : List Nat) : List Nat :=
  if piece.isEmpty then
    match most with
    | 0 => whole
    | n + 1 => added ++ interleave added n whole
  else added.intercalate (split piece most whole)

/-- The lines of a text, with what ends them or without it. -/
private def linesFrom (isEnd : Nat → Bool) (keeps : Bool) : Nat → List Nat → List (List Nat)
  | 0, _ => []
  | fuel + 1, whole =>
    if whole.isEmpty then [] else
      let line := whole.takeWhile (!isEnd ·)
      let rest := whole.dropWhile (!isEnd ·)
      let ending := match rest with
        | 13 :: 10 :: _ => rest.take 2
        | _ => rest.take 1
      (if keeps then line ++ ending else line) :: linesFrom isEnd keeps fuel (rest.drop ending.length)

/-- The lines of a text, with what ends them or without it. -/
def lines (isEnd : Nat → Bool) (keeps : Bool) (whole : List Nat) : List (List Nat) :=
  linesFrom isEnd keeps (whole.length + 1) whole

def trimLeft (isTrimmed : Nat → Bool) (whole : List Nat) : List Nat := whole.dropWhile isTrimmed

def trimRight (isTrimmed : Nat → Bool) (whole : List Nat) : List Nat :=
  (whole.reverse.dropWhile isTrimmed).reverse

/-- A sequence with its tabs filled up to the next of evenly spaced columns. -/
def expandTabs (size : Nat) (whole : List Nat) : List Nat :=
  (whole.foldl (fun ((made : List Nat), (column : Nat)) p =>
    if p = 9 then
      let gap := if size = 0 then 0 else size - column % size
      (List.replicate gap 32 ++ made, column + gap)
    else if p = 10 ∨ p = 13 then (p :: made, 0)
    else (p :: made, column + 1)) ([], 0)).1.reverse

/-- A sequence in the middle of so many places. -/
def center (width : Nat) (fill : Nat) (whole : List Nat) : List Nat :=
  let gap := width - whole.length
  let left := gap / 2 + (if gap % 2 = 1 ∧ width % 2 = 1 then 1 else 0)
  List.replicate left fill ++ whole ++ List.replicate (gap - left) fill

def padRight (width fill : Nat) (whole : List Nat) : List Nat :=
  whole ++ List.replicate (width - whole.length) fill

def padLeft (width fill : Nat) (whole : List Nat) : List Nat :=
  List.replicate (width - whole.length) fill ++ whole

/-- A number filled up with zeros behind its sign. -/
def zeroFill (width : Nat) (whole : List Nat) : List Nat :=
  match whole with
  | p :: rest =>
    if p = 43 ∨ p = 45 then p :: padLeft (width - 1) 48 rest else padLeft width 48 whole
  | [] => padLeft width 48 whole

end ScriptHost.Pieces
