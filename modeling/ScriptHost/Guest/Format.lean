import ScriptHost.Guest.Fault
import ScriptHost.Number.Places

/-! Formats: short descriptions of how a number or text is laid out. -/
namespace ScriptHost

/-- How an object is laid out. -/
structure Format where
  fill : Nat := 32
  /-- Where the object stands in its field: `<`, `>`, `^`, or `=` between sign and digits. -/
  align : Nat := 62
  /-- Which sign a positive number has: a plus, a blank or none. -/
  sign : Option Nat := none
  /-- Whether a zero loses its minus. -/
  positiveZero : Bool := false
  /-- Whether the base, or the point, always shows. -/
  alternate : Bool := false
  width : Nat := 0
  separator : Option Nat := none
  precision : Option Nat := none
  type : Option Nat := none

namespace Format

private def isAlign (p : Nat) : Bool := p == 60 || p == 62 || p == 61 || p == 94

private def isSign (p : Nat) : Bool := p == 32 || p == 43 || p == 45

private def isDigit (p : Nat) : Bool := 48 ≤ p && p ≤ 57

private def invalid {α : Type} (text : String) : Except Fault α := .error (.valueError text)

/-- The number at the start of a format, and what follows it. -/
private def number (points : List Nat) : Except Fault (Option Nat × List Nat) :=
  let digits := points.takeWhile isDigit
  if digits.isEmpty then .ok (none, points)
  else
    let n : Nat := digits.foldl (fun n p => 10 * n + (p - 48)) 0
    if !FitsWord n then invalid "Too many decimal digits in format string"
    else .ok (some n, points.dropWhile isDigit)

private def splitAlign (defaultAlign : Nat) : List Nat → Format × Bool × Bool × List Nat
  | fill :: align :: rest =>
    if isAlign align then ({ fill, align }, true, true, rest)
    else if isAlign fill then ({ align := fill }, false, true, align :: rest)
    else ({ align := defaultAlign }, false, false, fill :: align :: rest)
  | [align] =>
    if isAlign align then ({ align }, false, true, []) else ({ align := defaultAlign }, false, false, [align])
  | [] => ({ align := defaultAlign }, false, false, [])

private def shownType (p : Nat) : String :=
  if 32 < p ∧ p < 128 then (Char.ofNat p).toString
  else "\\x" ++ String.ofList (Nat.toDigits 16 p)

private def bothSeparators : String := "Cannot specify both ',' and '_'."

private def takeSeparator (points : List Nat) : Except Fault (Option Nat × List Nat) :=
  match points with
  | 44 :: 95 :: _ => invalid bothSeparators
  | 95 :: 44 :: _ => invalid bothSeparators
  | 44 :: rest => .ok (some 44, rest)
  | 95 :: rest => .ok (some 95, rest)
  | rest => .ok (none, rest)

private def takePrecision (points : List Nat) : Except Fault (Option Nat × List Nat) := do
  match points with
  | 46 :: rest =>
    match ← number rest with
    | (none, _) => invalid "Format specifier missing precision"
    | found => return found
  | rest => return (none, rest)

private def checkSeparator (f : Format) : Except Fault Unit :=
  match f.separator, f.type with
  | some mark, some type =>
    let isFree := [100, 101, 102, 103, 69, 71, 37, 70].contains type
    let isBase := mark = 95 && [98, 111, 120, 88].contains type
    if isFree || isBase then .ok ()
    else invalid ("Cannot specify '" ++ (Char.ofNat mark).toString ++ "' with '" ++ shownType type ++ "'.")
  | _, _ => .ok ()

private def flag (p : Nat) (points : List Nat) : Bool × List Nat :=
  if points.head? = some p then (true, points.tail) else (false, points)

/-- Reads a format for objects of a class, which may have a type that goes without saying. -/
def read (class? : String) (defaultAlign : Nat) (defaultType : Option Nat) (t : Text) :
    Except Fault Format := do
  let (f, hasFill, hasAlign, rest) := splitAlign defaultAlign t.points
  let (sign, rest) := match rest with
    | p :: more => if isSign p then (some p, more) else (none, rest)
    | [] => (none, rest)
  let (positiveZero, rest) := flag 122 rest
  let (alternate, rest) := flag 35 rest
  let (zeros, rest) := if hasFill then (false, rest) else flag 48 rest
  let f := if zeros then
    { f with fill := 48, align := if !hasAlign && defaultAlign == 62 then 61 else f.align } else f
  let (width, rest) ← number rest
  let (separator, rest) ← takeSeparator rest
  let (precision, rest) ← takePrecision rest
  let f := { f with sign, positiveZero, alternate, width := width.getD 0, separator, precision }
  match rest with
  | [] =>
    let f := { f with type := defaultType }
    f.checkSeparator
    return f
  | [type] =>
    let f := { f with type := some type }
    f.checkSeparator
    return f
  | _ =>
    .error ⟨"ValueError", "ValueError", some (.ofString "Invalid format specifier '" ++ t ++
      .ofString ("' for object of type '" ++ class? ++ "'")), []⟩

private def unknownType {α : Type} (class? : String) (type : Nat) : Except Fault α :=
  invalid ("Unknown format code '" ++ shownType type ++ "' for object of type '" ++ class? ++ "'")

/-- What stands around a written object, by the format's place in the field. -/
private def pad (f : Format) (sign body : List Nat) : List Nat :=
  let gap := f.width - sign.length - body.length
  let run (n : Nat) := List.replicate n f.fill
  if f.align = 60 then sign ++ body ++ run gap
  else if f.align = 94 then run (gap / 2) ++ sign ++ body ++ run (gap - gap / 2)
  else if f.align = 61 then sign ++ run gap ++ body
  else run gap ++ sign ++ body

/-- Puts a separator between groups of digits, and zeros before them up to a width. -/
private def grouped (size separator : Nat) : Nat → List Nat → Nat → List Nat
  | 0, digits, _ => digits.reverse
  | fuel + 1, digits, width =>
    let length := min size (max (max digits.length width) 1)
    let chars := min digits.length length
    let part := (List.replicate (length - chars) 48) ++ (digits.take chars).reverse
    let rest := digits.drop chars
    if rest.isEmpty ∧ width ≤ length then part
    else grouped size separator fuel rest (width - length - 1) ++ separator :: part

/-- A number from its sign, its mark of the base, its leading digits and what follows them. -/
private def assembled (f : Format) (negative : Bool) (mark digits rest : List Nat) : List Nat :=
  let sign := if negative then [45] else match f.sign with
    | some 43 => [43]
    | some 32 => [32]
    | _ => []
  let front := sign ++ mark
  let least := if f.fill = 48 ∧ f.align = 61 then f.width - front.length - rest.length else 0
  let digits := if digits.isEmpty then [] else match f.separator with
    | some separator =>
      let size := if separator = 95 ∧ [98, 111, 120, 88].contains (f.type.getD 0) then 4 else 3
      grouped size separator (digits.length + least + 1) digits.reverse least
    | none => List.replicate (least - digits.length) 48 ++ digits
  f.pad front (digits ++ rest)

private def raised (points : List Nat) : List Nat := points.map fun p => if 97 ≤ p ∧ p ≤ 122 then p - 32 else p

/-- The text of a text in a format. -/
def text (class? : String) (spec : Text) (t : Text) : Except Fault Text := do
  let f ← read class? 60 (some 115) spec
  if f.type ≠ some 115 then unknownType class? (f.type.getD 0)
  if f.sign = some 32 then invalid "Space not allowed in string format specifier"
  if f.sign.isSome then invalid "Sign not allowed in string format specifier"
  if f.positiveZero then invalid "Negative zero coercion (z) not allowed in string format specifier"
  if f.alternate then invalid "Alternate form (#) not allowed in string format specifier"
  if f.align = 61 then invalid "'=' alignment not allowed in string format specifier"
  let points := match f.precision with
    | some n => t.points.take n
    | none => t.points
  return ⟨f.pad [] points⟩

private def splitNumber (s : String) : List Nat × List Nat :=
  let points := s.toList.map Char.toNat
  (points.takeWhile isDigit, points.dropWhile isDigit)

/-- The written magnitude of a double in a format. -/
private def magnitude (f : Format) (x : Double) : List Nat :=
  let count := f.precision.getD 6
  let points (s : String) : List Nat := s.toList.map Char.toNat
  match f.type with
  | none =>
    match f.precision with
    | some n => points (x.present .general n f.alternate true)
    | none => points (x.presentShortest true)
  | some 101 => points (x.present .scientific count f.alternate false)
  | some 69 => raised (points (x.present .scientific count f.alternate false))
  | some 102 => points (x.present .fixed count f.alternate false)
  | some 70 => raised (points (x.present .fixed count f.alternate false))
  | some 71 => raised (points (x.present .general count f.alternate false))
  | some 37 => points ((x.mul (.ofNat 100)).present .fixed count f.alternate false) ++ [37]
  | some _ => points (x.present .general count f.alternate false)

private def isFloatType (type : Nat) : Bool := [101, 69, 102, 70, 103, 71, 110, 37].contains type

private def double (f : Format) (x : Double) : List Nat :=
  let shown := f.magnitude x
  let isNothing := (shown.all fun p => p == 48 || p == 46 || p == 37 || p == 101 || p == 43 || p == 45)
  let negative := x.isNegative && !x.isNaN && !(f.positiveZero && isNothing)
  f.assembled negative [] (shown.takeWhile isDigit) (shown.dropWhile isDigit)

/-- The text of a double in a format. -/
def float (class? : String) (spec : Text) (x : Double) : Except Fault Text := do
  let f ← read class? 62 none spec
  match f.type with
  | some type => if isFloatType type then return ⟨f.double x⟩ else unknownType class? type
  | none => return ⟨f.double x⟩

private def digitPoints (base n : Nat) : List Nat := (Nat.toDigits base n).map Char.toNat

/-- The text of an integer in a format. -/
def int (class? : String) (spec : Text) (n : Int) : Except Fault Text := do
  let f ← read class? 62 (some 100) spec
  let type := f.type.getD 100
  let base? : Option (Nat × List Nat) := match type with
    | 98 => some (2, [48, 98])
    | 111 => some (8, [48, 111])
    | 120 => some (16, [48, 120])
    | 88 => some (16, [48, 88])
    | 100 | 110 => some (10, [])
    | _ => none
  let check : Except Fault Unit := do
    if f.precision.isSome then invalid "Precision not allowed in integer format specifier"
    if f.positiveZero then
      invalid "Negative zero coercion (z) not allowed in integer format specifier"
  match base?, type with
  | some (base, mark), _ =>
    check
    let digits := digitPoints base n.natAbs
    let digits := if type = 88 then raised digits else digits
    return ⟨f.assembled (n < 0) (if f.alternate then mark else []) digits []⟩
  | none, 99 =>
    check
    if f.sign.isSome then invalid "Sign not allowed with integer format specifier 'c'"
    if f.alternate then invalid "Alternate form (#) not allowed with integer format specifier 'c'"
    if !FitsWord n then .error (.of "OverflowError" "Python int too large to convert to C long")
    if n < 0 ∨ 0x110000 ≤ n then .error (.of "OverflowError" "%c arg not in range(0x110000)")
    return ⟨f.assembled false [] [] [n.toNat]⟩
  | none, _ =>
    if isFloatType type then
      let x := Double.ofInt n
      if x.isInfinite then .error (.of "OverflowError" "int too large to convert to float")
      else return ⟨f.double x⟩
    else unknownType class? type

/-- The text of a complex number in a format. -/
def complex (class? : String) (spec : Text) (re im : Double) : Except Fault Text := do
  let f ← read class? 62 none spec
  if let some type := f.type then
    if !isFloatType type || type = 37 then unknownType class? type
  if f.fill = 48 then invalid "Zero padding is not allowed in complex format specifier"
  if f.align = 61 then invalid "'=' alignment flag is not allowed in complex format specifier"
  let part (x : Double) (f : Format) : List Nat :=
    let shown := match f.type, f.precision with
      | none, none => (x.presentShortest false).toList.map Char.toNat
      | none, some n => (x.present .general n f.alternate false).toList.map Char.toNat
      | _, _ => f.magnitude x
    { f with width := 0 }.assembled (x.isNegative && !x.isNaN) [] (shown.takeWhile isDigit) (shown.dropWhile isDigit)
  let imaginary := part im { f with sign := some 43 } ++ [106]
  let body :=
    if f.type.isSome then part re f ++ imaginary
    else if re.bits = 0 then part im f ++ [106]
    else 40 :: part re f ++ imaginary ++ [41]
  return ⟨f.pad [] body⟩

end Format

end ScriptHost
