import ScriptHost.Guest.Calls
import ScriptHost.Script.Syntax

/-! Evaluation of expressions at a place of a script. -/
namespace ScriptHost

/-- Whether an expression stands for a single value that is known before the script runs. -/
def Expr.isFixed : Expr → Bool
  | .none | .ellipsis | .bool _ | .int _ | .text _ | .repeated _ _ => true
  | .binary op left right => op ≠ .identical && left.isFixed && right.isFixed
  | _ => false

namespace GuestM

/-! ### Names -/

/-- Where names are looked up that a namespace does not have. -/
def builtinsOf (globals : Identity) : GuestM Identity := do
  let g ← get
  match g.lookup globals (.ofString "__builtins__") with
  | .none => return g.builtins
  | some id =>
    match g.body id with
    | .module attributes => return attributes
    | _ => return id

/-- The place that a function keeps which is defined here. -/
def definitionPlace : GuestM Place := do
  let here ← place
  return { here with builtins := ← builtinsOf here.globals }

/-- What stands under a built-in name, if anything does. -/
def builtinNamed? (name : String) : GuestM (Option Identity) := do
  let builtins := (← place).builtins
  let g ← get
  match g.body builtins, g.isExact builtins with
  | .dict _, true => return g.lookup builtins (.ofString name)
  | _, _ =>
    tryCatch (some <$> (do subscript builtins (← string name))) fun f =>
      if f.isA "KeyError" then return .none else raise f

/-- The object of a name: the namespace's own, else one of the built-in names. -/
def lookupName (name : String) : GuestM Identity := do
  match (← get).lookup (← place).globals (.ofString name) with
  | some id => return id
  | .none =>
    match ← builtinNamed? name with
    | some id => return id
    | .none => raise (.nameError name)

/-- The object of a dotted name: attributes of the object of its first part. -/
def lookupDotted (dotted : String) : GuestM Identity := do
  match dotted.splitOn "." with
  | [] => raise (.nameError dotted)
  | first :: rest => rest.foldlM attributeOf (← lookupName first)

/-- The system module, as code gets it that does not import it under a name. -/
def systemModule : GuestM Identity := do
  let importer ← lookupName "__import__"
  call importer [← string "sys"]

/-- The names of a namespace in order. -/
def sortedNames : GuestM Identity := do
  let sorting ← lookupName "sorted"
  call sorting [← call (← lookupName "globals") []]

/-- Removes the entries that keep objects alive for handles. -/
def dropHandles (dictionary : String) : GuestM Identity := do
  let id ← lookupDotted dictionary
  let g ← get
  let mark := Text.ofString Identity.keyMark
  let isHandle (entry : DictEntry) : Bool := (g.text? entry.key).any (·.startsWith mark)
  let (dropped, kept) := (g.entries id).partition isHandle
  setBody id (.dict kept)
  if dropped.isEmpty then list [] else none

/-! ### Objects that scripts make -/

def countdown (count : Nat) : GuestM Identity := do
  let entries ← (List.range count).mapM fun (i : Nat) => do
    let key ← int i
    return (⟨[.integer i], key, ← int (-(i : Int))⟩ : DictEntry)
  allocate (.dict entries)

def nest (id : Identity) : Nat → GuestM Identity
  | 0 => return id
  | depth + 1 => do list [← nest id depth]

/-- What a function does that raises, or else returns an object, if it does either. -/
def replying (value : Option Identity) (exception : Option Raise) : Option Feature :=
  (exception.map fun r => .reply (.raises r)).or (value.map fun id => .reply (.returns id))

/-- What the expressions of a class stand for. -/
structure ClassParts where
  index : Option Identity
  items : Option Identity
  iteration : Option (List Identity)
  mapping : Option (List (Identity × Identity))

/-- How objects of a class are iterated over, as far as a function of the class does that. -/
def iterationOf (shape : ClassShape) (items : Option (List Identity)) : GuestM (Option Feature) := do
  let yields : Feature := .yields (items.getD []) shape.iterationRaise
  match shape.iteration with
  | some .itself => return some .yieldsItself
  | some .broken => return some (.reply (.returns (← int 5)))
  | some .refused | some .byIndex | some .onInstance => return .none
  | some .items => return some yields
  | .none => return if items.isSome || shape.iterationRaise.isSome then some yields else .none

/-- The functions of a class, each with its name and the number of arguments behind the object. -/
def featuresOf (shape : ClassShape) (parts : ClassParts) : GuestM (List (String × Nat × Feature)) := do
  let tag ← string shape.tag
  let iteration := (← iterationOf shape parts.iteration).toList.map fun does => ("__iter__", 0, does)
  let byIndex ← if shape.iteration = some .byIndex then do
      pure [("__getitem__", 1, Feature.item (← list (parts.iteration.getD [])))]
    else pure []
  let ownItems := replying parts.items shape.itemsRaise
  let entries := parts.mapping.getD []
  let mapping := if parts.mapping.isSome || ownItems.isSome then
      [("__getitem__", 1, Feature.entry entries), ("__iter__", 0, .keys entries), ("__len__", 0, .count entries)]
    else []
  let missing : Option Feature :=
    (shape.attributeRaise.map fun r => .reply (.raises r)).or
      (if shape.skip = some .dynamic then some .mark else .none)
  let equality ← if shape.equalsAll then do
      pure [("__eq__", 1, Feature.reply (.returns (← bool true))), ("__hash__", 0, .reply (.returns (← int 7)))]
    else pure []
  let text := (replying (some tag) shape.textRaise).toList.map fun does => ("__str__", 0, does)
  return text ++ [("__repr__", 0, .reply (.returns tag))] ++
    missing.toList.map (fun does => ("__getattr__", 1, does)) ++
    (replying parts.index shape.indexRaise).toList.map (fun does => ("__index__", 0, does)) ++
    mapping ++ iteration ++ byIndex ++ ownItems.toList.map (fun does => ("items", 0, does)) ++ equality

/-- Sets what a class holds that is no function. -/
def setMarks (own : Identity) (shape : ClassShape) : GuestM Unit := do
  let set (name : String) (value : Identity) : GuestM Unit := setName own (.ofString name) value
  set "__module__" (← string "__main__")
  if shape.iteration = some .refused then set "__iter__" (← none)
  match shape.skip with
  | some .onClass => do set Guest.skipMark (← bool true)
  | some .classFalse => do set Guest.skipMark (← bool false)
  | some .classNone => do set Guest.skipMark (← none)
  | _ => return ()

/-- Makes an object of a new class. -/
def makeObject (shape : ClassShape) (initial : Option Identity) (parts : ClassParts) : GuestM Identity := do
  let define (name : String) (arguments : Nat) (does : Feature) : GuestM Identity := do
    allocate (.function (.feature name arguments does) (← definitionPlace))
  let own ← allocate (.dict [])
  for (name, arguments, does) in ← featuresOf shape parts do
    setName own (.ofString name) (← define "<lambda>" arguments does)
  setMarks own shape
  let isMapping := parts.mapping.isSome || parts.items.isSome || shape.itemsRaise.isSome
  let bases := shape.base.toList.map Builtin.canonical ++ (if isMapping then ["Mapping"] else [])
  let class? ← makeClass (← builtin "type") (.ofString shape.name) (← bases.mapM builtin) own
  let made ← call class? (if shape.base.isSome then initial.toList else [])
  if shape.skip = some .onInstance then setAttribute made Guest.skipMark (← bool true)
  if shape.iteration = some .onInstance then
    let items := parts.iteration.getD []
    setAttribute made "__iter__" (← define "<lambda>" 0 (.yields items shape.iterationRaise))
  return made

/-! ### Expressions -/

def applyBinary : BinaryOperator → Identity → Identity → GuestM Identity
  | .add, a, b => operate .add a b
  | .multiply, a, b => operate .multiply a b
  | .divide, a, b => operate .divide a b
  | .subscript, a, b => subscript a b
  | .identical, a, b => bool (a == b)

/-- The one object of a script that stands for a value known before it runs. -/
def shared (id : Identity) : GuestM Identity := do
  match ← bodyOf id with
  | .int n => literalInt n
  | .text t => if t.length ≤ 4096 then literalText t else return id
  | _ => return id

mutual
/-- Evaluates an expression. -/
def evaluate : Expr → GuestM Identity
  | .none => none
  | .ellipsis => intern .ellipsis
  | .bool b => bool b
  | .int n => literalInt n
  | .float x => float x
  | .complex re im => allocate (.complex re im)
  | .text t => literalText t
  | .bytes data => bytes data
  | .byteArray data => allocate (.byteArray data)
  | .memoryView source => do makeMemoryView (← evaluate source)
  | .list items => do list (← evaluateItems items)
  | .tuple items => do tuple (← evaluateItems items)
  | .set items => do allocate (.set (← members (← evaluateItems items)))
  | .frozenSet items => do allocate (.frozenSet (← members (← evaluateItems items)))
  | .dict entries => do dict (← evaluateEntries entries)
  | .range start stop step => do
    let start ← evaluate start
    let stop ← evaluate stop
    makeRange start stop (← evaluate step)
  | .repeated count s => do
    let made ← text ⟨(List.replicate count (Text.ofString s).points).flatten⟩
    shared made
  | .nested depth inner => do nest (← evaluate inner) depth
  | .countdown count => countdown count
  | .name dotted => lookupDotted dotted
  | .builtin dotted => lookupDotted dotted
  | .namespaceNames => sortedNames
  | .outputType => do
    let output ← attributeOf (← systemModule) "stdout"
    attributeOf (← classOf output) "__name__"
  | .binary op left right => do
    let isShared := op ≠ .identical && left.isFixed && right.isFixed
    let left ← evaluate left
    let made ← applyBinary op left (← evaluate right)
    if isShared then shared made else return made
  | .attribute target name => do attributeOf (← evaluate target) name
  | .call (.attribute target name) arguments => do
    let target ← evaluate target
    let function ← attributeOf target name
    callAttribute target function (← evaluateItems arguments)
  | .call function arguments => do
    let function ← evaluate function
    call function (← evaluateItems arguments)
  | .apply function argument => do
    let callee ← lookupName function.name
    let answer ← call callee [← evaluate argument]
    if function = .typeName then attributeOf answer "__name__" else return answer
  | .increment => do allocate (.function .increment (← definitionPlace))
  | .opaqueObject tag => allocate (.tagged (some tag))
  | .generator items ending => do
    allocate (.iterator "generator" (.items (← evaluateItems items) ending))
  | .dropHandles dictionary => dropHandles dictionary
  | .object shape initial index items iteration mapping => do
    let index ← evaluateOptional index
    let items ← evaluateOptional items
    let iteration ← evaluateOptionalItems iteration
    let mapping ← evaluateOptionalEntries mapping
    makeObject shape (← evaluateOptional initial) { index, items, iteration, mapping }
termination_by structural e => e
def evaluateItems : List Expr → GuestM (List Identity)
  | [] => return []
  | item :: items => do
    let id ← evaluate item
    return id :: (← evaluateItems items)
termination_by structural items => items
def evaluateEntries : List (Expr × Expr) → GuestM (List (Identity × Identity))
  | [] => return []
  | entry :: entries => do
    let pair ← evaluateEntry entry
    return pair :: (← evaluateEntries entries)
termination_by structural entries => entries
def evaluateEntry : Expr × Expr → GuestM (Identity × Identity)
  | (key, value) => do
    let key ← evaluate key
    return (key, ← evaluate value)
termination_by structural entry => entry
def evaluateOptional : Option Expr → GuestM (Option Identity)
  | .none => return .none
  | some e => do return some (← evaluate e)
termination_by structural e => e
def evaluateOptionalItems : Option (List Expr) → GuestM (Option (List Identity))
  | .none => return .none
  | some items => do return some (← evaluateItems items)
termination_by structural items => items
def evaluateOptionalEntries : Option (List (Expr × Expr)) → GuestM (Option (List (Identity × Identity)))
  | .none => return .none
  | some entries => do return some (← evaluateEntries entries)
termination_by structural entries => entries
end

/-! ### Exceptions and functions -/

/-- Raises what a call gives: an exception, or a class of exceptions. -/
def raiseCall {α : Type} (type : String) (arguments : GuestM (List Identity)) : GuestM α := do
  let callee ← lookupDotted type
  raiseObject (← call callee (← arguments))

/-- Runs a computation as a frame: its exceptions pass through it. -/
def inFrame {α : Type} (frame : Frame) (run : GuestM α) : GuestM α :=
  tryCatch run fun f => raise (f.within frame)

def tooMany {α : Type} (name : String) (takes given : Nat) : GuestM α :=
  typeError (name ++ "() takes " ++ toString takes ++ " positional argument" ++ (if takes = 1 then "" else "s") ++
    " but " ++ toString given ++ (if given = 1 then " was given" else " were given"))

def reply : Reply → GuestM Identity
  | .returns id => return id
  | .raises r => raise r.fault

/-- What a function of a described class gives for an object of it and the arguments behind that. -/
def answer (does : Feature) (self argument : Identity) : GuestM Identity := do
  match does with
  | .reply r => reply r
  | .yields items ending => allocate (.iterator "generator" (.items items ending))
  | .yieldsItself => allocate (.iterator "generator" (.items [self] .none))
  | .entry entries => inFrame ⟨"oracle_helpers.py", 104, "<lambda>"⟩ do subscript (← dict entries) argument
  | .keys entries => iterator (← list (entries.map (·.1)))
  | .count entries => int entries.length
  | .item items => subscript items argument
  | .mark =>
    match (← get).text? argument with
    | some name => if name = .ofString Guest.skipMark then bool true else attributeErrorOf [name]
    | .none => none

/-- Runs a function that a script defined, which messages call by a name, and frames by the one it was
defined with. -/
def runFunction (title : String) (home : Place) (arguments : List Identity) : Function → GuestM Identity
  | .renamed _ _ f => runFunction title home arguments f
  | .increment =>
    match arguments with
    | [x] => inside "<lambda>" do operate .add x (← int 1)
    | [] => typeError (title ++ "() missing 1 required positional argument: 'x'")
    | _ => tooMany title 1 arguments.length
  | .raising name type value =>
    if arguments.isEmpty then inside name (raiseCall type (return [← evaluate value]))
    else tooMany title 0 arguments.length
  | .feature _ count does =>
    if count + 1 < arguments.length then tooMany title (count + 1) arguments.length
    else answer does (arguments.headD default) (arguments.getD 1 default)
where
  inside (name : String) (run : GuestM Identity) : GuestM Identity :=
    inFrame ⟨home.file, home.line, name⟩ (atPlace home run)

/-- Calls a function that a script defined, at the place where it was defined. -/
def callScripted (f : Function) (home : Place) (arguments : List Identity) : GuestM Identity :=
  runFunction f.fullName home arguments f

end GuestM
end ScriptHost
