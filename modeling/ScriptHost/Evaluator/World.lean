import ScriptHost.Config
import ScriptHost.Convert.Inbound
import ScriptHost.Convert.Outbound

/-! The world of a host: one interpreter, the evaluators that share it, and the lock that only one
call at a time holds. -/
namespace ScriptHost

/-- The converters of both directions. -/
structure ConverterTable where
  inbound : List InboundConverter := []
  outbound : List OutboundConverter := []

namespace ConverterTable

def empty : ConverterTable := {}

def registerInbound (t : ConverterTable) (c : InboundConverter) : ConverterTable × List Record :=
  ({ t with inbound := c.insert t.inbound }, c.reports .inbound t.inbound)

def registerOutbound (t : ConverterTable) (c : OutboundConverter) : ConverterTable × List Record :=
  ({ t with outbound := c.insert t.outbound }, c.reports .outbound t.outbound)

private def thenRegister {Guard Conversion : Type}
    (register : ConverterTable → Converter Guard Conversion → ConverterTable × List Record)
    (state : ConverterTable × List Record) (c : Converter Guard Conversion) :
    ConverterTable × List Record :=
  let (table, records) := register state.1 c
  (table, state.2 ++ records)

/-- The table with the standard converters, and what registering them reports. -/
def standard : ConverterTable × List Record :=
  Outbound.standard.foldl (thenRegister registerOutbound)
    (Inbound.standard.foldl (thenRegister registerInbound) (empty, []))

/-- The names of one direction in the order of resolution. -/
def names (t : ConverterTable) : Direction → List String
  | .inbound => t.inbound.map (·.name)
  | .outbound => t.outbound.map (·.name)

def length (t : ConverterTable) (direction : Direction) : Nat := (t.names direction).length

/-- The text of a table in diagnostics. -/
def inspect (t : ConverterTable) : String :=
  "TypeConverterRegistry \x7b inbound: [" ++
    ", ".intercalate (t.inbound.map (Converter.inspect .inbound)) ++ "], outbound: [" ++
    ", ".intercalate (t.outbound.map (Converter.inspect .outbound)) ++ "] \x7d"

end ConverterTable

/-- A call that a hook makes into an evaluator while a script runs. -/
inductive Request where
  | evaluate (evaluator : Nat) (code : Script) (names : List String) (values : List Value)
  | reset (evaluator : Nat) (engine : String)
  | session (evaluator : Nat)
  | release (evaluator : Nat) (id : Identity)
  | releaseValue (evaluator : Nat) (v : Value)

/-- A listener around evaluations. -/
structure Hook where
  /-- Bindings that it adds before the script runs. -/
  inject : List (String × Value) := []
  /-- Bindings that it reads after the script has run. -/
  read : List String := []
  /-- Calls that it makes before the script runs. -/
  requests : List Request := []
  /-- Calls that it makes after the script has run. -/
  lateRequests : List Request := []
  /-- Whether it keeps what it is told to itself. -/
  silent : Bool := false

/-- What an evaluator has once the interpreter is started for it. -/
structure Runtime where
  /-- The namespace of the session's names and of the objects behind handles. -/
  namespaceDict : Identity
  counts : Counts := ∅
  /-- The module search path that its scripts start with. -/
  searchPath : List String

structure Evaluator where
  config : Config := {}
  converters : ConverterTable := {}
  hooks : List Hook := []
  runtime : Option Runtime := none
  deriving Inhabited

namespace Evaluator

/-- An evaluator with the standard converters, and what making it reports. -/
def make (config : Config) : Evaluator × List Record :=
  let (converters, records) := ConverterTable.standard
  let created : Record := ⟨.debug, .evaluator, "[Evaluator] Creating evaluator (isolated: " ++
    (if config.isolated then "true" else "false") ++ ", " ++ toString config.libraryPaths.length ++
    " library path(s))"⟩
  ({ config, converters }, created :: records)

def isStarted (e : Evaluator) : Bool := e.runtime.isSome

/-- The number of identities that have handles. -/
def handleCount (e : Evaluator) : Nat := (e.runtime.map fun r => r.counts.live).getD 0

/-- The number of outstanding handles of an identity. -/
def refCount (e : Evaluator) (id : Identity) : Nat := (e.runtime.map fun r => r.counts.count id).getD 0

/-- The text of an evaluator in diagnostics. -/
def inspect (e : Evaluator) : String :=
  "PythonEvaluator \x7b config: " ++ e.config.inspect ++ ", started: " ++
    (if e.isStarted then "true" else "false") ++ ", handles: " ++ toString e.handleCount ++ ", .. \x7d"

end Evaluator

structure World where
  guest : Guest
  evaluators : Array Evaluator := #[]
  /-- Whether a call is inside the lock. -/
  held : Bool := false
  /-- The search path that the interpreter had before any evaluator touched it. -/
  interpreterPath : Option (List String) := none
  /-- The variables of the process environment. -/
  processVariables : List (String × String) := []
  deriving Inhabited

abbrev WorldM := StateM World

namespace World

def environment (w : World) : Environment := fun name => w.processVariables.lookup name

def evaluator (w : World) (i : Nat) : Evaluator := w.evaluators.getD i default

end World

namespace WorldM

def record (level : Level) (source : Source) (message : String) : WorldM Unit :=
  modify fun w => { w with guest :=
    { w.guest with records := w.guest.records.push ⟨level, source, message⟩ } }

def recordAll (records : List Record) : WorldM Unit :=
  records.forM fun r => record r.level r.source r.message

def notify (event : Event) : WorldM Unit :=
  modify fun w => { w with guest := { w.guest with events := w.guest.events.push event } }

/-- Runs a computation of the interpreter, and adds what it reports to the journal. -/
def guest {α : Type} (run : GuestM α) : WorldM (Except Fault α) :=
  fun ⟨g, evaluators, held, interpreterPath, processVariables⟩ =>
    match GuestM.atTop run g.unreported with
    | .ok x g' => (.ok x, ⟨g.reporting g', evaluators, held, interpreterPath, processVariables⟩)
    | .error f g' => (.error f, ⟨g.reporting g', evaluators, held, interpreterPath, processVariables⟩)

/-- Evaluators of which one has other counts. -/
def keepCounts (evaluators : Array Evaluator) (i : Nat) (counts : Counts) : Array Evaluator :=
  evaluators.modify i fun e => { e with runtime := e.runtime.map fun r => { r with counts } }

/-- Runs a crossing of an evaluator that has been started, and adds what it reports to the journal. -/
def cross {α : Type} (i : Nat) (runtime : Runtime) (run : TransferM α) : WorldM (Except Fault α) :=
  fun ⟨g, evaluators, held, interpreterPath, processVariables⟩ =>
    let counts := ((evaluators.getD i default).runtime.map (·.counts)).getD ∅
    match run { guest := g.unreported, namespaceDict := runtime.namespaceDict, counts } with
    | .ok x t =>
      (.ok x, ⟨g.reporting t.guest, keepCounts evaluators i t.counts, held, interpreterPath, processVariables⟩)
    | .error f t =>
      (.error f, ⟨g.reporting t.guest, keepCounts evaluators i t.counts, held, interpreterPath, processVariables⟩)

end WorldM
end ScriptHost
