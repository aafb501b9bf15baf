import ScriptHost.Guest.Making

/-! Texts with conversions in them, which a tuple, a mapping or a single object fills in. -/
namespace ScriptHost.GuestM

/-- How a conversion lays out its object. -/
structure Layout where
  toLeft : Bool := false
  sign : Option Nat := .none
  alternate : Bool := false
  zeros : Bool := false
  width : Nat := 0
  precision : Option Nat := .none

/-- The objects that conversions still take. -/
structure Supply where
  source : Identity
  isMapping : Bool
  rest : List Identity

def takeNext (s : Supply) : GuestM (Identity × Supply) := do
  match s.rest with
  | [] => typeError "not enough arguments for format string"
  | id :: rest => return (id, { s with rest })

/-- The text between a parenthesis that is open and the one that closes it. -/
private def keyPart : Nat → List Nat → List Nat → Option (List Nat × List Nat)
  | _, _, [] => .none
  | depth, found, 41 :: rest => if depth = 0 then some (found.reverse, rest) else keyPart (depth - 1) (41 :: found) rest
  | depth, found, 40 :: rest => keyPart (depth + 1) (40 :: found) rest
  | depth, found, p :: rest => keyPart depth (p :: found) rest

def takeKey (s : Supply) : List Nat → GuestM (List Nat × Supply)
  | 40 :: rest => do
    if !s.isMapping then typeError "format requires a mapping"
    match keyPart 0 [] rest with
    | .none => valueError "incomplete format key"
    | some (key, rest) => return (rest, { s with rest := [← subscript s.source (← text ⟨key⟩)] })
  | points => return (points, s)

private def takeFlags (l : Layout) : List Nat → Layout × List Nat
  | 45 :: rest => takeFlags { l with toLeft := true } rest
  | 43 :: rest => takeFlags { l with sign := some 43 } rest
  | 32 :: rest => takeFlags { l with sign := l.sign.or (some 32) } rest
  | 35 :: rest => takeFlags { l with alternate := true } rest
  | 48 :: rest => takeFlags { l with zeros := true } rest
  | points => (l, points)

private def isFigure (p : Nat) : Bool := 48 ≤ p && p ≤ 57

def figures (most : Nat) (tooBig : String) (points : List Nat) : GuestM (Nat × List Nat) := do
  let n := (points.takeWhile isFigure).foldl (fun n p => 10 * n + (p - 48)) 0
  if most < n then valueError tooBig
  return (n, points.dropWhile isFigure)

/-- The number that an object gives in place of figures. -/
def starOf (s : Supply) : GuestM (Int × Supply) := do
  let (id, s) ← takeNext s
  match ← bodyOf id with
  | .int n => return (n, s)
  | .bool b => return (if b then 1 else 0, s)
  | _ => typeError "* wants int"

def takeWidth (s : Supply) (l : Layout) : List Nat → GuestM (Layout × List Nat × Supply)
  | 42 :: rest => do
    let (n, s) ← starOf s
    return ({ l with width := n.natAbs, toLeft := l.toLeft || n < 0 }, rest, s)
  | points => do
    let (width, rest) ← figures 0x7fffffffffffffff "width too big" points
    return ({ l with width }, rest, s)

def takePrecision (s : Supply) (l : Layout) : List Nat → GuestM (Layout × List Nat × Supply)
  | 46 :: 42 :: rest => do
    let (n, s) ← starOf s
    return ({ l with precision := some n.toNat }, rest, s)
  | 46 :: points => do
    let (precision, rest) ← figures 0x7fffffff "precision too big" points
    return ({ l with precision := some precision }, rest, s)
  | points => return (l, points, s)

/-- Fills a text up to the width of its field; zeros come behind the sign and the base. -/
private def padded (l : Layout) (isNumber : Bool) (base : Nat) (points : List Nat) : List Nat :=
  let (sign, digits) := match points with
    | 45 :: rest => if isNumber then ([45], rest) else ([], points)
    | _ => (if isNumber then l.sign.toList else [], points)
  let missing := l.width - (sign.length + digits.length)
  if l.toLeft then sign ++ digits ++ List.replicate missing 32
  else if l.zeros && isNumber then
    sign ++ digits.take base ++ List.replicate missing 48 ++ digits.drop base
  else List.replicate missing 32 ++ sign ++ digits

def wrongNumber {α : Type} (type : Nat) (id : Identity) : GuestM α := do
  let wanted := if [111, 120, 88].contains type then "an integer" else "a real number"
  typeError ("%" ++ (Char.ofNat type).toString ++ " format: " ++ wanted ++ " is required, not " ++ (← classLabel id))

def wholeOf (type : Nat) (id : Identity) : GuestM Int := do
  let g ← get
  match g.number? id with
  | some (.int n) => return n
  | some (.float x) =>
    if [111, 120, 88].contains type then wrongNumber type id
    refuseUnbounded x
    return x.truncated
  | _ => if g.hasIndex id then indexOf id else wrongNumber type id

private def baseOf (type : Nat) : Nat := if type = 111 then 8 else if type = 120 || type = 88 then 16 else 10

def intDigits (l : Layout) (type : Nat) (n : Int) : GuestM (List Nat) := do
  let base := baseOf type
  let digits ←
    if base = 10 then pure (← liftExcept (decimalText n.natAbs)).points
    else pure ((Nat.toDigits base n.natAbs).map Char.toNat)
  let digits := List.replicate ((l.precision.getD 0) - digits.length) 48 ++ digits
  let mark := if l.alternate && base ≠ 10 then [48, if base = 8 then 111 else 120] else []
  let shown := mark ++ digits
  let shown := if type = 88 then shown.map fun p => if 97 ≤ p && p ≤ 122 then p - 32 else p else shown
  return (if n < 0 then [45] else []) ++ shown

def doubleOf (id : Identity) : GuestM Double := do
  let g ← get
  match g.number? id with
  | some (.int n) => widened n
  | some (.float x) => return x
  | _ => if g.hasIndex id then widened (← indexOf id) else typeError ("must be real number, not " ++ g.classLabel id)

def floatDigits (l : Layout) (type : Nat) (x : Double) : GuestM (List Nat) := do
  let spec := (if l.alternate then "#" else "") ++ "." ++ toString (l.precision.getD 6) ++ (Char.ofNat type).toString
  return (← liftExcept (Format.float "float" (.ofString spec) x)).points

def singlePoint (id : Identity) : GuestM (List Nat) := do
  let g ← get
  match g.body id with
  | .text ⟨[p]⟩ => return [p]
  | .text _ => typeError "%c requires int or char"
  | _ =>
    if !g.hasIndex id then typeError "%c requires int or char"
    let n ← indexOf id
    if 0 ≤ n ∧ n < 0x110000 then return [n.toNat]
    else raise (.of "OverflowError" "%c arg not in range(0x110000)")

/-- The text of an object under a conversion. -/
def convertedTo (l : Layout) (type place : Nat) (id : Identity) : GuestM (List Nat) := do
  let cut (t : Text) : List Nat := padded l false 0 (l.precision.elim t.points fun n => t.points.take n)
  match Char.ofNat type with
  | 's' => return cut (← plainText id)
  | 'r' => return cut (← represent id)
  | 'a' => return cut (← represent id).asciiOnly
  | 'd' | 'i' | 'u' => return padded l true 0 (← intDigits l type (← wholeOf type id))
  | 'o' | 'x' | 'X' =>
    return padded l true (if l.alternate then 2 else 0) (← intDigits l type (← wholeOf type id))
  | 'e' | 'E' | 'f' | 'F' | 'g' | 'G' => return padded l true 0 (← floatDigits l type (← doubleOf id))
  | 'c' => return padded l false 0 (← singlePoint id)
  | _ =>
    let shown := if 31 ≤ type && type ≤ 127 then Char.ofNat type else '?'
    valueError ("unsupported format character '" ++ shown.toString ++ "' (0x" ++
      String.ofList (Nat.toDigits 16 type) ++ ") at index " ++ toString place)

/-- Fills in the conversions of a text of a given length, one after the other. -/
def fillConversions (size : Nat) : Nat → Supply → List Nat → GuestM (List Nat × Supply)
  | 0, s, _ | _, s, [] => return ([], s)
  | fuel + 1, s, 37 :: rest => do
    let (rest, s) ← takeKey s rest
    let (l, rest) := takeFlags {} rest
    let (l, rest, s) ← takeWidth s l rest
    let (l, rest, s) ← takePrecision s l rest
    let rest := match rest with
      | 104 :: rest | 108 :: rest | 76 :: rest => rest
      | rest => rest
    match rest with
    | [] => valueError "incomplete format"
    | 37 :: rest =>
      let (more, s) ← fillConversions size fuel s rest
      return (37 :: more, s)
    | type :: rest =>
      let (id, s) ← takeNext s
      let shown ← convertedTo l type (size - rest.length - 1) id
      let (more, s) ← fillConversions size fuel s rest
      return (shown ++ more, s)
  | fuel + 1, s, p :: rest => do
    let (more, s) ← fillConversions size fuel s rest
    return (p :: more, s)

def isMappingLike (g : Guest) (id : Identity) : Bool :=
  (!g.isText id && !(g.isInstance id "tuple") && (g.special? id "__getitem__").isSome) ||
    match g.body id with
    | .dict _ | .proxy _ | .list _ | .bytes _ | .byteArray _ | .range _ _ _ | .memoryView _ _ _ _ => true
    | _ => false

/-- A text with its conversions filled in from an object. -/
def interpolated (t : Text) (source : Identity) : GuestM Text := do
  let g ← get
  let rest := match g.body source with
    | .tuple items => items.toList
    | _ => [source]
  let supply : Supply := ⟨source, isMappingLike g source, rest⟩
  let (points, left) ← fillConversions t.length (t.length + 1) supply t.points
  if !left.rest.isEmpty && !left.isMapping then
    typeError "not all arguments converted during string formatting"
  return ⟨points⟩

end ScriptHost.GuestM
