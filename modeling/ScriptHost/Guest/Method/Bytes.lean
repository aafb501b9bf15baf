import ScriptHost.Guest.Method.Text

/-! The methods of bytes, of bytes that can change and of views of bytes. -/
namespace ScriptHost.GuestM

private def isUpperByte (p : Nat) : Bool := 65 ≤ p && p ≤ 90

private def isLowerByte (p : Nat) : Bool := 97 ≤ p && p ≤ 122

private def isLetterByte (p : Nat) : Bool := isUpperByte p || isLowerByte p

private def isDigitByte (p : Nat) : Bool := 48 ≤ p && p ≤ 57

private def raiseByte (p : Nat) : Nat := if isLowerByte p then p - 32 else p

private def lowerByte (p : Nat) : Nat := if isUpperByte p then p + 32 else p

private def titleBytes : Bool → List Nat → List Nat
  | _, [] => []
  | inWord, p :: rest => (if inWord then lowerByte p else raiseByte p) :: titleBytes (isLetterByte p) rest

private def areTitleBytes : Bool → Bool → List Nat → Bool
  | _, found, [] => found
  | inWord, found, p :: rest =>
    if isUpperByte p then !inWord && areTitleBytes true true rest
    else if isLowerByte p then inWord && areTitleBytes true true rest
    else areTitleBytes false found rest

private def byteTest? (name : String) (points : List Nat) : Option Bool :=
  let all (isIn : Nat → Bool) : Option Bool := some (!points.isEmpty && points.all isIn)
  match name with
  | "isascii" => some (points.all (· < 128))
  | "isspace" => all fun p => p == 32 || (9 ≤ p && p ≤ 13)
  | "isdigit" => all isDigitByte
  | "isalpha" => all isLetterByte
  | "isalnum" => all fun p => isLetterByte p || isDigitByte p
  | "istitle" => some (areTitleBytes false false points)
  | "islower" => some (points.any isLowerByte && !points.any isUpperByte)
  | "isupper" => some (points.any isUpperByte && !points.any isLowerByte)
  | _ => .none

private def hexByte (p : Nat) : List Nat :=
  let digits := (Nat.toDigits 16 p).map Char.toNat
  List.replicate (2 - digits.length) 48 ++ digits

private def chunks {α : Type} (size : Nat) : Nat → List α → List (List α)
  | 0, _ | _, [] => []
  | fuel + 1, items => items.take size :: chunks size fuel (items.drop size)

/-- The digits of bytes in base sixteen, perhaps with a separator between groups of them: groups
are counted from the end, or from the front if their size is negative. -/
def hexText (data : List Nat) (arguments : List Identity) : GuestM Identity := do
  match arguments with
  | [] => text ⟨data.flatMap hexByte⟩
  | separator :: rest =>
    let size ← match rest.head? with
      | some id => smallIntOf id
      | .none => pure 1
    match ← length? separator with
    | .none => typeError ("object of type '" ++ (← classLabel separator) ++ "' has no len()")
    | some length => if length ≠ 1 then valueError "sep must be length 1."
    let mark ← match ← bodyOf separator with
      | .text t => pure t.points
      | .bytes found => pure (found.map UInt8.toNat)
      | _ => typeError "sep must be str or bytes."
    if mark.any (128 ≤ ·) then valueError "sep must be ASCII."
    let parts :=
      if size = 0 then [data]
      else if 0 < size then ((chunks size.toNat (data.length + 1) data.reverse).map List.reverse).reverse
      else chunks size.natAbs (data.length + 1) data
    text ⟨mark.intercalate (parts.map fun part => part.flatMap hexByte)⟩

private def readHex : Nat → List Nat → Except Nat (List UInt8)
  | _, [] => .ok []
  | place, p :: rest =>
    if p = 32 ∨ (9 ≤ p ∧ p ≤ 13) then readHex (place + 1) rest
    else match CodePoint.hexadecimal? p, rest with
      | .none, _ => .error place
      | some _, [] => .error (place + 1)
      | some high, q :: rest =>
        match CodePoint.hexadecimal? q with
        | .none => .error (place + 1)
        | some low => (readHex (place + 2) rest).map ((16 * high + low).toUInt8 :: ·)

/-- The bytes that digits in base sixteen make up. -/
def bytesFromHex (id : Identity) : GuestM (List UInt8) := do
  let t ← textArgument "fromhex() argument" id
  match readHex 0 t.points with
  | .ok data => return data
  | .error place =>
    valueError ("non-hexadecimal number found in fromhex() arg at position " ++ toString place)

def tableOf (id : Identity) : GuestM (Nat → Nat) := do
  if (← get).isNone id then return fun p => p
  let data := (← octetsOf id).toArray
  if data.size ≠ 256 then valueError "translation table must be 256 characters long"
  return fun p => (data.getD p 0).toNat

/-- A table of replacements from two runs of bytes of one length. -/
def makeByteTable (source target : Identity) : GuestM Identity := do
  let source ← octetsOf source
  let target ← octetsOf target
  if source.length ≠ target.length then valueError "maketrans arguments must have same length"
  let table := (source.zip target).foldl (fun (made : Array UInt8) (p, q) => made.set! p.toNat q)
    ((List.range 256).map Nat.toUInt8).toArray
  bytes table.toList

/-- Calls a method that all bytes have. -/
def bytesMethod? (s : Subject) (name : String) (arguments : List Identity) :
    Option (GuestM Identity) :=
  let first := arguments.headD default
  match s.method? name arguments, byteTest? name s.points with
  | some run, _ => some run
  | .none, some answer => some (bool answer)
  | .none, .none =>
    match name with
    | "upper" => some (s.make (s.points.map raiseByte))
    | "lower" => some (s.make (s.points.map lowerByte))
    | "swapcase" => some (s.make (s.points.map fun p => if isUpperByte p then lowerByte p else raiseByte p))
    | "capitalize" =>
      some (s.make ((s.points.take 1).map raiseByte ++ (s.points.drop 1).map lowerByte))
    | "title" => some (s.make (titleBytes false s.points))
    | "hex" => some (hexText s.points arguments)
    | "decode" => some do text (← decodeOctets "decode" (s.points.map Nat.toUInt8) arguments)
    | "translate" => some do
      let table ← tableOf first
      let dropped ← match arguments[1]? with
        | some id => s.piece "" id
        | .none => pure []
      s.change ((s.points.filter fun p => !dropped.contains p).map table)
    | "__bytes__" => some (s.change s.points)
    | "__getnewargs__" => some do tuple [← s.make s.points]
    | "copy" => some (s.make s.points)
    | _ => .none

/-- The bytes that an object adds to others. -/
def addedOctets (kind : String) (id : Identity) : GuestM (List UInt8) := do
  let g ← get
  match g.octets? id with
  | some data => return data
  | .none =>
    match ← itemsOf? id with
    | some items => items.mapM byteOf
    | .none => typeError ("can't extend " ++ kind ++ " with " ++ g.classLabel id)

def resized (target : Identity) (data : List UInt8) : GuestM Identity := do
  refuseViewed target
  setBody target (.byteArray data)
  none

/-- Calls a method of bytes that changes them. -/
def openBytesMethod? (target : Identity) (data : List UInt8) (name : String)
    (arguments : List Identity) : Option (GuestM Identity) :=
  let first := arguments.headD default
  match name with
  | "append" => some do resized target (data ++ [← byteOf first])
  | "extend" => some do resized target (data ++ (← addedOctets "bytearray" first))
  | "clear" => some (resized target [])
  | "insert" => some do
    let n ← sizeOf first
    let b ← byteOf (arguments.getD 1 default)
    let place := (if n < 0 then max 0 (n + data.length) else min n data.length).toNat
    resized target (data.take place ++ b :: data.drop place)
  | "pop" => some do
    let n ← sizeOr (-1) arguments[0]?
    if data.isEmpty then raise (.of "IndexError" "pop from empty bytearray")
    match place? n data.length with
    | .none => raise (.of "IndexError" "pop index out of range")
    | some place =>
      discard (resized target (data.eraseIdx place))
      int (data.getD place 0).toNat
  | "remove" => some do
    let b ← byteOf first
    match data.findIdx? (· == b) with
    | some place => resized target (data.eraseIdx place)
    | .none => valueError "value not found in bytearray"
  | "reverse" => some do
    setBody target (.byteArray data.reverse)
    none
  | "__alloc__" => some (int (if data.isEmpty then 0 else data.length + 1))
  | "__sizeof__" => some (int (56 + (if data.isEmpty then 0 else data.length + 1)))
  | _ => .none

/-- Calls a method of bytes. -/
def byteMethod (target : Identity) (name : String) (arguments : List Identity) : GuestM Identity := do
  let g ← get
  match Subject.of? g target, g.body target with
  | some s, .byteArray data =>
    match openBytesMethod? target data name arguments, bytesMethod? s name arguments with
    | some run, _ | .none, some run => run
    | .none, .none => int (56 + data.length)
  | some s, _ => (bytesMethod? s name arguments).getD (int (33 + s.points.length))
  | .none, _ => none

def viewBytes (target : Identity) : GuestM (List UInt8) := return ((← get).octets? target).getD []

/-- Calls a method of a view of bytes. -/
def viewMethod (target : Identity) (name : String) (arguments : List Identity) : GuestM Identity := do
  let data ← viewBytes target
  match ← bodyOf target, name with
  | _, "release" | _, "__exit__" =>
    setBody target (.plain "memoryview")
    none
  | .plain _, _ => refuseReleased
  | _, "tobytes" => bytes data
  | _, "tolist" => do list (← data.mapM fun b => int b.toNat)
  | _, "hex" => hexText (data.map UInt8.toNat) arguments
  | _, "cast" =>
    let form ← textArgument "cast() argument 'format'" (arguments.headD default)
    if ["B", "@B"].contains form.lossy then
      match ← bodyOf target with
      | .memoryView source first step count => allocate (.memoryView source first step count)
      | _ => return target
    else valueError ("memoryview: destination format must be a native single character format prefixed " ++
      "with an optional '@'")
  | _, _ => return target

end ScriptHost.GuestM
