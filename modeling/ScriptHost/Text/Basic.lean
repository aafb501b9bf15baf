/-! Text of the interpreter: sequences of code points, among which surrogates can stand alone. -/
namespace ScriptHost

/-- A sequence of code points. -/
structure Text where
  points : List Nat
  deriving DecidableEq, Hashable, Inhabited, Repr

namespace Text

/-- The text of a string. -/
def ofString (s : String) : Text := ⟨s.toList.map Char.toNat⟩

def append (a b : Text) : Text := ⟨a.points ++ b.points⟩

instance : Append Text := ⟨append⟩

def length (t : Text) : Nat := t.points.length

def isEmpty (t : Text) : Bool := t.points.isEmpty

/-- Whether a code point is half of a surrogate pair. -/
def isSurrogate (point : Nat) : Bool := 0xd800 ≤ point && point < 0xe000

/-- The string of a text, unless a surrogate stands in it. -/
def toString? (t : Text) : Option String :=
  if t.points.any isSurrogate then none else some (String.ofList (t.points.map Char.ofNat))

/-- The string of a text, with three replacement characters for each surrogate. -/
def lossy (t : Text) : String :=
  String.ofList (t.points.flatMap fun p => if isSurrogate p then List.replicate 3 '\ufffd' else [Char.ofNat p])

/-- Where the first run of surrogates starts and ends. -/
def firstSurrogates (t : Text) : Nat × Nat :=
  let start := (t.points.takeWhile fun p => !isSurrogate p).length
  let run := ((t.points.drop start).takeWhile isSurrogate).length
  (start, start + run)

def startsWith (t : Text) (mark : Text) : Bool := mark.points.isPrefixOf t.points

/-- The order of texts by code point. -/
def before (a b : Text) : Bool := decide (a.points < b.points)

end Text
end ScriptHost
