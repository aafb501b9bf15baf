import ScriptHost.Journal.Record
import ScriptHost.Text.Quoted

/-! Tables of converters: for each direction a list in which a higher priority comes first and
earlier registrations come before later ones of the same priority. -/
namespace ScriptHost

/-- Which way a converter moves values. -/
inductive Direction where
  /-- From the host to the interpreter. -/
  | inbound
  /-- From the interpreter to the host. -/
  | outbound
  deriving DecidableEq, Repr

def Direction.name : Direction → String
  | .inbound => "Inbound"
  | .outbound => "Outbound"

private def Direction.lowerName : Direction → String
  | .inbound => "inbound"
  | .outbound => "outbound"

/-- A conversion with the guard that says what it applies to. -/
structure Converter (Guard Conversion : Type) where
  name : String
  priority : Int
  guard : Guard
  conversion : Conversion

namespace Converter
variable {Guard Conversion : Type}

/-- Puts a converter before the first one of a lower priority. -/
def insert (c : Converter Guard Conversion) :
    List (Converter Guard Conversion) → List (Converter Guard Conversion)
  | [] => [c]
  | d :: rest => if d.priority < c.priority then c :: d :: rest else d :: insert c rest

/-- What registering a converter reports: a name that is taken already, and the converter. -/
def reports (direction : Direction) (c : Converter Guard Conversion)
    (list : List (Converter Guard Conversion)) : List Record :=
  let registered : Record := ⟨.debug, .registry, "[Converters] registered " ++ direction.lowerName ++
    " '" ++ c.name ++ "' (priority " ++ toString c.priority ++ ")"⟩
  match list.find? fun d => d.name == c.name with
  | none => [registered]
  | some existing =>
    [registered, ⟨.warn, .registry, "[Converters] " ++ direction.name ++ " converter '" ++ c.name ++
      "' registered again (priority " ++ toString existing.priority ++ " then " ++
      toString c.priority ++ "); resolution order decides which one runs"⟩]

/-- The text of a converter in diagnostics. -/
def inspect (direction : Direction) (c : Converter Guard Conversion) : String :=
  "Converter \x7b name: " ++ Text.quote c.name ++ ", direction: " ++ direction.name ++
    ", priority: " ++ toString c.priority ++ ", .. \x7d"

end Converter
end ScriptHost
