import ScriptHost.Guest.Attributes
import ScriptHost.Text.CodePoint
import ScriptHost.Text.Pieces

/-! The methods that text and bytes have in common: searching, cutting, joining and filling up. -/
namespace ScriptHost.GuestM

/-- Text or bytes that a method works on, as the numbers of its code points or bytes. -/
structure Subject where
  target : Identity
  points : List Nat
  isText : Bool
  /-- Whether the bytes can change. -/
  isOpen : Bool := false
  /-- Whether the object is of a class of the interpreter's own. -/
  isExact : Bool := true

namespace Subject

/-- The subject that an object is, if it is text or bytes. -/
def of? (g : Guest) (id : Identity) : Option Subject :=
  let isExact := g.isExact id
  match g.body id with
  | .text t => some { target := id, points := t.points, isText := true, isExact }
  | .bytes data => some { target := id, points := data.map UInt8.toNat, isText := false, isExact }
  | .byteArray data =>
    some { target := id, points := data.map UInt8.toNat, isText := false, isOpen := true, isExact }
  | _ => .none

/-- An object of the same kind. -/
def make (s : Subject) (points : List Nat) : GuestM Identity :=
  if s.isText then text ⟨points⟩
  else if s.isOpen then allocate (.byteArray (points.map Nat.toUInt8))
  else bytes (points.map Nat.toUInt8)

/-- An object of the same kind, which is the subject itself where nothing changed. -/
def change (s : Subject) (points : List Nat) : GuestM Identity :=
  if s.isExact && !s.isOpen && points == s.points then return s.target else s.make points

def isBlank (s : Subject) (p : Nat) : Bool :=
  if s.isText then CodePoint.isSpace p else p == 32 || (9 ≤ p && p ≤ 13)

private def isLineEnd (s : Subject) (p : Nat) : Bool :=
  if s.isText then CodePoint.isLineEnd p else p == 10 || p == 13

def bytePiece (id : Identity) : GuestM (List Nat) := return (← octetsOf id).map UInt8.toNat

/-- The numbers of an argument of the subject's own kind, which messages about text call so. -/
def piece (s : Subject) (name : String) (id : Identity) : GuestM (List Nat) := do
  if s.isText then return (← textArgument name id).points else bytePiece id

/-- What a search looks for; a number stands for a byte. -/
def wanted (s : Subject) (id : Identity) : GuestM (List Nat) := do
  let g ← get
  if s.isText then
    match g.text? id with
    | some t => return t.points
    | .none => typeError ("must be str, not " ++ g.classLabel id)
  else if g.hasIndex id then return [(← byteOf id).toNat]
  else match g.octets? id with
    | some data => return data.map UInt8.toNat
    | .none =>
      typeError ("argument should be integer or bytes-like object, not '" ++ g.classLabel id ++ "'")

/-- The part of the subject that a search goes through, and where it starts, unless it starts
behind its end. -/
def window? (s : Subject) (bounds : List Identity) : GuestM (Option (Nat × List Nat)) := do
  let (start, stop) ← windowOf bounds s.points.length
  return if stop < start then .none else some (start, (s.points.take stop).drop start)

def found? (s : Subject) (search : List Nat → List Nat → Option Nat) (arguments : List Identity) :
    GuestM (Option Nat) := do
  let window ← s.window? arguments.tail
  let sought ← s.wanted (arguments.headD default)
  return window.bind fun (start, part) => (search sought part).map (start + ·)

def findAt (s : Subject) (search : List Nat → List Nat → Option Nat) (arguments : List Identity) :
    GuestM Identity := do
  match ← s.found? search arguments with
  | some place => int place
  | .none => int (-1)

def indexAt (s : Subject) (search : List Nat → List Nat → Option Nat) (arguments : List Identity) :
    GuestM Identity := do
  match ← s.found? search arguments with
  | some place => int place
  | .none => valueError (if s.isText then "substring not found" else "subsection not found")

private def kind (s : Subject) : String := if s.isText then "str" else "bytes"

/-- Whether the subject begins or ends with one of some pieces. -/
def borders (s : Subject) (name : String) (isAt : List Nat → List Nat → Bool)
    (arguments : List Identity) : GuestM Identity := do
  let sought := arguments.headD default
  let part ← s.window? arguments.tail
  let g ← get
  let holds (piece : List Nat) : Bool := part.any fun (_, whole) => isAt piece whole
  match g.body sought with
  | .tuple pieces =>
    let rec anyOf : List Identity → GuestM Identity
      | [] => bool false
      | id :: rest => do
        let piece ←
          if s.isText then
            match (← get).text? id with
            | some t => pure t.points
            | .none => typeError ("tuple for " ++ name ++ " must only contain str, not " ++ (← classLabel id))
          else bytePiece id
        if holds piece then bool true else anyOf rest
    anyOf pieces.toList
  | _ =>
    let own := if s.isText then (g.text? sought).map (·.points)
      else (g.octets? sought).map (·.map UInt8.toNat)
    match own with
    | some piece => bool (holds piece)
    | .none =>
      typeError (name ++ " first arg must be " ++ s.kind ++ " or a tuple of " ++ s.kind ++ ", not " ++
        g.classLabel sought)

/-- The separator of a cut, unless blanks separate. -/
def separator? (s : Subject) (id? : Option Identity) : GuestM (Option (List Nat)) := do
  let g ← get
  match id?.filter fun id => !g.isNone id with
  | .none => return .none
  | some id =>
    let piece ←
      if s.isText then
        match g.text? id with
        | some t => pure t.points
        | .none => typeError ("must be str or None, not " ++ g.classLabel id)
      else bytePiece id
    if piece.isEmpty then valueError "empty separator"
    return some piece

def cut (s : Subject) (fromBack : Bool) (arguments : List Identity) : GuestM Identity := do
  let most ← sizeOr (-1) arguments[1]?
  let cuts := if most < 0 then s.points.length else most.toNat
  let parts ← match ← s.separator? arguments[0]? with
    | .none => pure ((if fromBack then Pieces.wordsBack else Pieces.words) s.isBlank cuts s.points)
    | some separator => pure ((if fromBack then Pieces.splitBack else Pieces.split) separator cuts s.points)
  list (← parts.mapM s.change)

def parted (s : Subject) (fromBack : Bool) (id : Identity) : GuestM Identity := do
  let separator ← if s.isText then s.wanted id else s.piece "" id
  if separator.isEmpty then valueError "empty separator"
  let place? := if fromBack then Pieces.last? separator s.points else Pieces.first? separator s.points
  match place? with
  | some place =>
    let before ← s.make (s.points.take place)
    let between ← if s.isOpen then s.make separator else pure id
    tuple [before, between, ← s.make (s.points.drop (place + separator.length))]
  | .none =>
    let whole ← s.change s.points
    let first ← s.make []
    let second ← s.make []
    tuple (if fromBack then [first, second, whole] else [whole, first, second])

def joinItem (s : Subject) (place : Nat) (id : Identity) : GuestM (List Nat) := do
  let g ← get
  let own := if s.isText then (g.text? id).map (·.points) else (g.octets? id).map (·.map UInt8.toNat)
  match own with
  | some points => return points
  | .none =>
    typeError ("sequence item " ++ toString place ++ ": expected " ++
      (if s.isText then "str instance" else "a bytes-like object") ++ ", " ++ g.classLabel id ++ " found")

/-- The items of an object with the subject between them; a single item of the same kind stays as
it is. -/
def joined (s : Subject) (source : Identity) : GuestM Identity := do
  let some items ← itemsOf? source | typeError "can only join an iterable"
  let parts ← ((List.range items.length).zip items).mapM fun (place, id) => s.joinItem place id
  let g ← get
  match items with
  | [item] =>
    let isSame := g.isExact item && match g.body item with
      | .text _ => s.isText
      | .bytes _ => !s.isText && !s.isOpen
      | _ => false
    if isSame then return item else s.make parts.flatten
  | _ => s.make (s.points.intercalate parts)

def fillPoint (s : Subject) (name : String) (id? : Option Identity) : GuestM Nat := do
  match id? with
  | .none => return 32
  | some id =>
    let g ← get
    if s.isText then
      match g.text? id with
      | some ⟨[p]⟩ => return p
      | some _ => typeError "The fill character must be exactly one character long"
      | .none => typeError ("The fill character must be a unicode character, not " ++ g.classLabel id)
    else match g.body id with
      | .bytes [b] | .byteArray [b] => return b.toNat
      | _ => typeError (name ++ "() argument 2 must be a byte string of length 1, not " ++ g.classLabel id)

/-- Refuses a width that no text could have. -/
def widthOf (id : Identity) : GuestM Nat := do
  let width ← sizeOf id
  if mostItems < width then raise (.of "MemoryError" "")
  return width.toNat

def filled (s : Subject) (name : String) (lay : Nat → Nat → List Nat → List Nat)
    (arguments : List Identity) : GuestM Identity := do
  let width ← widthOf (arguments.headD default)
  let fill ← s.fillPoint name arguments[1]?
  s.change (lay width fill s.points)

def trimmed (s : Subject) (name : String) (left right : Bool) (id? : Option Identity) :
    GuestM Identity := do
  let g ← get
  let isTrimmed ← match id?.filter fun id => !g.isNone id with
    | .none => pure s.isBlank
    | some id =>
      if s.isText && !g.isText id then typeError (name ++ " arg must be None or str")
      let points ← s.piece "" id
      pure points.contains
  let front := if left then Pieces.trimLeft isTrimmed s.points else s.points
  s.change (if right then Pieces.trimRight isTrimmed front else front)

/-- Calls a method that text and bytes have in common, if the name is that of one. -/
def method? (s : Subject) (name : String) (arguments : List Identity) : Option (GuestM Identity) :=
  let first := arguments.headD default
  match name with
  | "find" => some (s.findAt Pieces.first? arguments)
  | "rfind" => some (s.findAt Pieces.last? arguments)
  | "index" => some (s.indexAt Pieces.first? arguments)
  | "rindex" => some (s.indexAt Pieces.last? arguments)
  | "count" => some do
    let window ← s.window? arguments.tail
    let sought ← s.wanted first
    int ((window.map fun (_, part) => Pieces.count sought part).getD 0)
  | "startswith" => some (s.borders name List.isPrefixOf arguments)
  | "endswith" => some (s.borders name List.isSuffixOf arguments)
  | "split" => some (s.cut false arguments)
  | "rsplit" => some (s.cut true arguments)
  | "partition" => some (s.parted false first)
  | "rpartition" => some (s.parted true first)
  | "join" => some (s.joined first)
  | "replace" => some do
    let piece ← s.piece "replace() argument 1" first
    let added ← s.piece "replace() argument 2" (arguments.getD 1 default)
    let most ← sizeOr (-1) arguments[2]?
    s.change (Pieces.replace piece added (if most < 0 then s.points.length + 1 else most.toNat) s.points)
  | "strip" => some (s.trimmed name true true arguments[0]?)
  | "lstrip" => some (s.trimmed name true false arguments[0]?)
  | "rstrip" => some (s.trimmed name false true arguments[0]?)
  | "removeprefix" => some do
    let piece ← s.piece "removeprefix() argument" first
    s.change (if piece.isPrefixOf s.points then s.points.drop piece.length else s.points)
  | "removesuffix" => some do
    let piece ← s.piece "removesuffix() argument" first
    s.change (if piece.isSuffixOf s.points then s.points.take (s.points.length - piece.length) else s.points)
  | "expandtabs" => some do
    let size ← match arguments[0]? with
      | some id => smallIntOf id
      | .none => pure 8
    s.change (Pieces.expandTabs size.toNat s.points)
  | "splitlines" => some do
    let keeps ← match arguments[0]? with
      | some id => smallIntOf id
      | .none => pure 0
    list (← (Pieces.lines s.isLineEnd (keeps != 0) s.points).mapM s.change)
  | "center" => some (s.filled name Pieces.center arguments)
  | "ljust" => some (s.filled name Pieces.padRight arguments)
  | "rjust" => some (s.filled name Pieces.padLeft arguments)
  | "zfill" => some do
    let width ← widthOf first
    s.change (Pieces.zeroFill width s.points)
  | _ => .none

end Subject
end ScriptHost.GuestM
