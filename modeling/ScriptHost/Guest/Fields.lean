import ScriptHost.Guest.Attributes
import ScriptHost.Guest.Format

/-! Formatted objects, and texts whose fields are filled in with them. -/
namespace ScriptHost

namespace GuestM

/-- The text of the data of an object in a format that is given as text. -/
def formattedData (id : Identity) (spec : Text) : GuestM Text := do
  let g ← get
  let class? := g.classLabel id
  if spec.isEmpty then plainText id
  else match g.body id, g.number? id with
    | .text t, _ => liftExcept (Format.text class? spec t)
    | _, some (.int n) => liftExcept (Format.int class? spec n)
    | _, some (.float x) => liftExcept (Format.float class? spec x)
    | _, some (.complex re im) => liftExcept (Format.complex class? spec re im)
    | _, .none => typeError ("unsupported format string passed to " ++ class? ++ ".__format__")

/-- The text of an object in a format that is given as text. -/
def formatted (id : Identity) (spec : Text) : GuestM Text := do
  let g ← get
  if (g.special? id "__format__").isNone then formattedData id spec
  else match ← specially? "__format__" id [← text spec] with
    | .none => formattedData id spec
    | some answer =>
      match (← get).text? answer with
      | some t => return t
      | .none => typeError ("__format__ must return a str, not " ++ (← classLabel answer))

/-- What the fields of a text are filled in from. -/
structure FieldSource where
  positional : List Identity
  /-- Where names are looked up, if anywhere. -/
  named : Option Identity
  /-- Whether fields may go by number at all. -/
  hasPositions : Bool

/-- How the fields met so far were numbered: the number of the next one, unless they give their
numbers themselves. -/
inductive Numbering where
  | unset
  | automatic (next : Nat)
  | manual

inductive FieldStep where
  | attribute (name : List Nat)
  | item (key : List Nat)

private def isDecimalRun (points : List Nat) : Bool := !points.isEmpty && points.all fun p => 48 ≤ p && p ≤ 57

private def decimalOf (points : List Nat) : Nat := points.foldl (fun n p => 10 * n + (p - 48)) 0

/-- The steps from the object of a field to the one that is shown. -/
private def fieldSteps : Nat → List Nat → Except Fault (List FieldStep)
  | 0, _ | _, [] => .ok []
  | fuel + 1, 46 :: rest =>
    let name := rest.takeWhile fun p => p ≠ 46 ∧ p ≠ 91
    if name.isEmpty then .error (.valueError "Empty attribute in format string")
    else (fieldSteps fuel (rest.drop name.length)).map (.attribute name :: ·)
  | fuel + 1, 91 :: rest =>
    let key := rest.takeWhile (· ≠ 93)
    match rest.drop key.length with
    | 93 :: rest =>
      if key.isEmpty then .error (.valueError "Empty attribute in format string")
      else (fieldSteps fuel rest).map (.item key :: ·)
    | _ => .error (.valueError "Missing ']' in format string")
  | _ + 1, _ => .error (.valueError "Only '.' or '[' may follow ']' in format field specifier")

def itemKey (key : List Nat) : GuestM Identity :=
  if isDecimalRun key then int (decimalOf key) else text ⟨key⟩

/-- The object that a field names. -/
def fieldObject (source : FieldSource) (numbering : Numbering) (points : List Nat) :
    GuestM (Identity × Numbering) := do
  let first := points.takeWhile fun p => p ≠ 46 ∧ p ≠ 91
  let rest := points.drop first.length
  let positional (place : Nat) (numbering : Numbering) : GuestM (Identity × Numbering) := do
    if !source.hasPositions then valueError "Format string contains positional fields"
    match source.positional[place]? with
    | some id => return (id, numbering)
    | .none =>
      raise (.of "IndexError" ("Replacement index " ++ toString place ++ " out of range for positional args tuple"))
  let (id, numbering) ←
    if first.isEmpty then
      match numbering with
      | .manual => valueError "cannot switch from manual field specification to automatic field numbering"
      | .unset => positional 0 (.automatic 1)
      | .automatic next => positional next (.automatic (next + 1))
    else if isDecimalRun first then
      if !FitsWord (decimalOf first) then valueError "Too many decimal digits in format string"
      match numbering with
      | .automatic _ =>
        valueError "cannot switch from automatic field numbering to manual field specification"
      | _ => positional (decimalOf first) .manual
    else
      let key ← text ⟨first⟩
      match source.named with
      | some named => pure (← subscript named key, numbering)
      | .none => missingKey key
  let steps ← liftExcept (fieldSteps (rest.length + 1) rest)
  let shown ← steps.foldlM (fun id step => match step with
    | .attribute name => attributeNamed id ⟨name⟩
    | .item key => do subscript id (← itemKey key)) id
  return (shown, numbering)

/-- The inside of a field, up to the brace that closes it, and what follows. -/
private def splitField : Nat → Nat → List Nat → Option (List Nat × List Nat)
  | 0, _, _ | _, _, [] => .none
  | fuel + 1, depth, p :: rest =>
    if p = 125 ∧ depth = 0 then some ([], rest)
    else
      let depth := if p = 123 then depth + 1 else if p = 125 then depth - 1 else depth
      (splitField fuel depth rest).map fun (inside, rest) => (p :: inside, rest)

def converted (conversion : Option Nat) (id : Identity) : GuestM Identity := do
  match conversion with
  | .none => return id
  | some 114 => text (← represent id)
  | some 115 => text (← plainText id)
  | some 97 => text (← represent id).asciiOnly
  | some p =>
    raise ⟨"ValueError", "ValueError", some (.ofString "Unknown conversion specifier " ++ ⟨[p]⟩), []⟩

/-- The parts of a field: what names its object, how that is converted, and its format. -/
private def fieldParts (inside : List Nat) (isClosed : Bool) :
    Except Fault (List Nat × Option Nat × List Nat) :=
  let nameEnd := fieldNameEnd false inside
  let name := inside.take nameEnd
  let unclosed : Except Fault (List Nat × Option Nat × List Nat) :=
    .error (.valueError "unmatched '\x7b' in format spec")
  match inside.drop nameEnd with
  | [] => if isClosed then .ok (name, Option.none, []) else .error (.valueError "expected '\x7d' before end of string")
  | 58 :: spec => if isClosed then .ok (name, Option.none, spec) else unclosed
  | 33 :: rest =>
    match rest, isClosed with
    | [], _ | _, false => unclosed
    | [conversion], true => .ok (name, some conversion, [])
    | conversion :: 58 :: spec, true => .ok (name, some conversion, spec)
    | _, true => .error (.valueError "expected ':' after conversion specifier")
  | _ => .error (.valueError "unexpected '\x7b' in field name")
where
  /-- Where the name of a field ends; brackets may hold anything. -/
  fieldNameEnd (inBrackets : Bool) : List Nat → Nat
    | [] => 0
    | p :: rest =>
      if !inBrackets && (p = 58 || p = 33 || p = 123) then 0
      else fieldNameEnd (if p = 91 then true else if p = 93 then false else inBrackets) rest + 1

/-- Fills in the fields of a text, where formats may hold fields of their own to a depth. -/
def fill (source : FieldSource) : Nat → Nat → Numbering → List Nat → GuestM (List Nat × Numbering)
  | 0, _, numbering, points => return (points, numbering)
  | _, _, numbering, [] => return ([], numbering)
  | fuel + 1, depth, numbering, 123 :: 123 :: rest => do
    let (shown, numbering) ← fill source fuel depth numbering rest
    return (123 :: shown, numbering)
  | fuel + 1, depth, numbering, 125 :: 125 :: rest => do
    let (shown, numbering) ← fill source fuel depth numbering rest
    return (125 :: shown, numbering)
  | _, _, _, 125 :: _ => valueError "Single '\x7d' encountered in format string"
  | _, _, _, [123] => valueError "Single '\x7b' encountered in format string"
  | fuel + 1, depth, numbering, 123 :: rest => do
    if depth = 0 then valueError "Max string recursion exceeded"
    let found := splitField (rest.length + 1) 0 rest
    let (inside, rest) := found.getD (rest, [])
    let (field, conversion, spec) ← liftExcept (fieldParts inside found.isSome)
    let (id, numbering) ← fieldObject source numbering field
    let id ← converted conversion id
    let (spec, numbering) ←
      if spec.contains 123 || spec.contains 125 then fill source fuel (depth - 1) numbering spec
      else pure (spec, numbering)
    let shown ← formatted id ⟨spec⟩
    let (more, numbering) ← fill source fuel depth numbering rest
    return (shown.points ++ more, numbering)
  | fuel + 1, depth, numbering, p :: rest => do
    let (shown, numbering) ← fill source fuel depth numbering rest
    return (p :: shown, numbering)

/-- A text with its fields filled in. -/
def fillFields (source : FieldSource) (t : Text) : GuestM Text := do
  let (points, _) ← fill source (2 * t.length + 2) 2 .unset t.points
  return ⟨points⟩

end GuestM
end ScriptHost
