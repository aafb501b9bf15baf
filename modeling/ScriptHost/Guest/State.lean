import ScriptHost.Guest.Fault
import ScriptHost.Guest.Object
import ScriptHost.Journal.Event
import ScriptHost.Journal.Record

/-! The state of the interpreter: its objects, the attributes that every evaluator shares, the
source files it can import, and the journal of what happened. -/
namespace ScriptHost

structure Guest where
  /-- The objects, each at the place that is its identity; none is ever freed. -/
  heap : Array Object := #[]
  /-- The objects of the constants met so far, by the script that they are constants of; those of
  every script have the number zero. -/
  constants : Std.HashMap (Nat × Constant) Identity := ∅
  /-- The number of scripts begun so far. -/
  scripts : Nat := 0
  /-- The attributes of the system module. -/
  system : Identity := ⟨0⟩
  /-- The attributes of the module of built-in names. -/
  builtins : Identity := ⟨0⟩
  /-- The table of the modules imported so far. -/
  modules : Identity := ⟨0⟩
  /-- The modules that are part of the interpreter, as far as they came up. -/
  standardModules : List (String × Identity) := []
  /-- The modules that cannot be imported at present. -/
  halted : List String := []
  /-- The source files by their paths. -/
  files : List (String × Script) := []
  /-- The directories that files were written to. -/
  folders : List String := []
  /-- What was written to the interpreter's own standard output. -/
  captured : Text := ⟨[]⟩
  /-- What was done to the line writers that stood in for it, in order. -/
  strokes : Array (Identity × LineWriter.Stroke) := #[]
  /-- The line writers in use, each with the number of hooks that listen to it. -/
  writers : Std.HashMap Identity (LineWriter × Nat) := ∅
  records : Array Record := #[]
  events : Array Event := #[]
  deriving Inhabited

/-- What a computation of the interpreter runs in: the place of the code, and how objects are
called. -/
structure Context where
  place : Place
  call : Place → Identity → List Identity → EStateM Fault Guest Identity

/-- Computations of the interpreter, which raise exceptions and keep the state when they do. -/
abbrev GuestM := ReaderT Context (EStateM Fault Guest)

namespace Guest

def object (g : Guest) (id : Identity) : Object := g.heap.getD id.index default

def body (g : Guest) (id : Identity) : Body := (g.object id).body

/-- The class of an object, unless it is the one of the interpreter's own that the data tells. -/
def home? (g : Guest) (id : Identity) : Option Identity := (g.object id).home

/-- Whether an object is of the class that its data tells, and not of one that extends it. -/
def isExact (g : Guest) (id : Identity) : Bool := (g.home? id).isNone

/-- The identity that the next object gets. -/
def next (g : Guest) : Identity := ⟨g.heap.size⟩

def adding (g : Guest) (o : Object) : Guest := { g with heap := g.heap.push o }

def withBody (g : Guest) (id : Identity) (body : Body) : Guest :=
  { g with heap := g.heap.modify id.index fun o => { o with body } }

/-- A guest with nothing in its journal. -/
def unreported (g : Guest) : Guest := { g with records := #[], events := #[] }

/-- A guest whose journal comes after the one of another guest. -/
def reporting (before g : Guest) : Guest :=
  { g with records := before.records ++ g.records, events := before.events ++ g.events }

/-- The constant that an object is, if it is one. -/
def constant? (g : Guest) (id : Identity) : Option Constant :=
  (g.heap[id.index]?).bind fun o => if o.home.isSome then none else o.body.constant?

end Guest

namespace GuestM

def raise {α : Type} (f : Fault) : GuestM α := throw f

/-- The place of the code that runs. -/
def place : GuestM Place := return (← read).place

/-- Calls an object. -/
def call (function : Identity) (arguments : List Identity) : GuestM Identity :=
  fun context => context.call context.place function arguments

/-- Runs a computation as code at another place. -/
def atPlace {α : Type} (place : Place) (run : GuestM α) : GuestM α :=
  fun context => run { context with place }

/-- Makes a new object. -/
def allocate (body : Body) (home : Option Identity := none) : GuestM Identity :=
  modifyGet fun g => (g.next, g.adding { body, home })

/-- The one object of a constant within a script, made when it first comes up. -/
def internIn (script : Nat) (c : Constant) : GuestM Identity :=
  modifyGet fun g =>
    match (g.constants[(script, c)]?).filter fun id => g.constant? id == some c with
    | some id => (id, g)
    | none =>
      (g.next, { g with
        heap := g.heap.push { body := c.body }
        constants := g.constants.insert (script, c) ⟨g.heap.size⟩ })

/-- The one object of a constant, made when it first comes up. -/
def intern (c : Constant) : GuestM Identity := internIn 0 c

def bodyOf (id : Identity) : GuestM Body := return (← get).body id

def setBody (id : Identity) (body : Body) : GuestM Unit := modify (·.withBody id body)

def record (level : Level) (source : Source) (message : String) : GuestM Unit :=
  modify fun g => { g with records := g.records.push ⟨level, source, message⟩ }

def notify (event : Event) : GuestM Unit :=
  modify fun g => { g with events := g.events.push event }

def none : GuestM Identity := intern .none

def bool (b : Bool) : GuestM Identity := intern (.bool b)

private def isSmall (n : Int) : Bool := -5 ≤ n && n ≤ 256

/-- The object of an integer: the small ones are single objects. -/
def int (n : Int) : GuestM Identity :=
  if isSmall n then intern (.int n) else allocate (.int n)

def float (x : Double) : GuestM Identity := allocate (.float x)

private def isSingle (t : Text) : Bool :=
  match t.points with
  | [] => true
  | [p] => p < 256
  | _ => false

/-- The object of a text: the empty one and those of one small code point are single objects. -/
def text (t : Text) : GuestM Identity :=
  if isSingle t then intern (.text t) else allocate (.text t)

def string (s : String) : GuestM Identity := text (.ofString s)

/-- Whether a text could be a name. -/
private def isName (t : Text) : Bool :=
  t.points.all fun p => p < 128 && ((Char.ofNat p).isAlphanum || p == 95)

/-- The object of a name. -/
def name (t : Text) : GuestM Identity := if isName t then intern (.text t) else allocate (.text t)

/-- The object of an integer that stands in a script. -/
def literalInt (n : Int) : GuestM Identity := do
  let home ← place
  internIn (if isSmall n then 0 else home.script) (.int n)

/-- The object of a text that stands in a script. -/
def literalText (t : Text) : GuestM Identity := do
  let home ← place
  internIn (if isSingle t || isName t then 0 else home.script) (.text t)

def bytes (data : List UInt8) : GuestM Identity :=
  if data.length ≤ 1 then intern (.bytes data) else allocate (.bytes data)

def tuple (items : List Identity) : GuestM Identity :=
  if items.isEmpty then intern .emptyTuple else allocate (.tuple items.toArray)

def list (items : List Identity) : GuestM Identity := allocate (.list items.toArray)

def builtin (name : String) : GuestM Identity := intern (.builtin name)

end GuestM
end ScriptHost
