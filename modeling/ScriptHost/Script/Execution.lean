import ScriptHost.Script.Evaluation
import ScriptHost.Script.Import
import ScriptHost.Script.Reading

/-! Execution of statements and scripts: what each statement does at its place, how code runs in a
namespace, and how the objects of a program call each other. -/
namespace ScriptHost.GuestM

/-! ### Statements -/

/-- Binds a name of the namespace, or sets an attribute of the object that a dotted name leads to. -/
def assign (name : String) (value : Identity) : GuestM Unit := do
  match splitLastDot name with
  | ("", _) => setName (← place).globals (.ofString name) value
  | (target, last) => setAttribute (← lookupDotted target) last value

def delete (name : String) : GuestM Unit := do
  match splitLastDot name with
  | ("", _) =>
    let globals := (← place).globals
    if ((← get).lookup globals (.ofString name)).isSome then eraseName globals (.ofString name)
    else raise (.nameError name)
  | (target, last) => deleteAttributeNamed (← lookupDotted target) (.ofString last)

/-- Calls a method with the object of an expression that is evaluated after the method is found. -/
def callMethod (target : Identity) (name : String) (before : List Identity) (value : Expr) :
    GuestM Identity := do
  let method ← attributeOf target name
  call method (before ++ [← evaluate value])

/-- Prints with an ending, if the object under the name of the printing function still is that. -/
def printEnding (callee value ending : Identity) : GuestM Unit := do
  let g ← get
  match g.body callee with
  | .builtin "print" => print [value] (some ending)
  | .function f _ => typeError (f.fullName ++ "() got an unexpected keyword argument 'end'")
  | .builtin name => typeError (name ++ "() takes no keyword arguments")
  | .classObject made => typeError (made.name ++ "() takes no keyword arguments")
  | _ => discard (call callee [value])

def printStatement (value : Expr) (ending : Option Expr) : GuestM Unit := do
  let callee ← lookupName "print"
  let value ← evaluate value
  match ending with
  | .none => discard (call callee [value])
  | some ending => printEnding callee value (← evaluate ending)

/-- Imports a module and binds the name of the outermost package. -/
def importStatement (name : String) : GuestM Unit := do
  match ← builtinNamed? "__import__" with
  | .none => raise (.of "ImportError" "__import__ not found")
  | some importer =>
    let globals := (← place).globals
    let module ← call importer [← string name, globals, globals, ← none, ← int 0]
    setName globals (.ofString ((name.splitOn ".").headD name)) module

/-- Executes a statement. -/
def execute : Statement → GuestM Unit
  | .assign name value => do assign name (← evaluate value)
  | .evaluate value => discard (evaluate value)
  | .append name value => do discard (callMethod (← lookupDotted name) "append" [] value)
  | .setItem name key value => do
    let value ← evaluate value
    let target ← lookupDotted name
    setItem target (← evaluate key) value
  | .delete name => delete name
  | .print value ending => printStatement value ending
  | .write name value => do
    let output ← attributeOf (← systemModule) "stdout"
    assign name (← callMethod output "write" [] value)
  | .flush => do
    let output ← attributeOf (← systemModule) "stdout"
    discard (call (← attributeOf output "flush") [])
  | .dropOutput => do
    let nothing ← none
    setAttribute (← systemModule) "stdout" nothing
  | .raise type arguments => raiseCall type (evaluateItems arguments)
  | .raiseObject value => do raiseObject (← evaluate value)
  | .defineRaise name type value => do
    assign name (← allocate (.function (.raising name type value) (← definitionPlace)))
  | .importModule name => importStatement name
  | .insertPath value => do
    let path ← attributeOf (← systemModule) "path"
    discard (callMethod path "insert" [← int 0] value)
  | .clearPath => do
    let empty ← list []
    setAttribute (← systemModule) "path" empty
  | .pass | .comment _ => return ()

/-! ### Code -/

def isStatement (numbered : Nat × Statement) : Bool :=
  match numbered.2 with
  | .comment _ => false
  | _ => true

/-- The text that code describes itself with: its first statement, if that is nothing but a text. -/
def documentation? (statements : List (Nat × Statement)) : Option Text :=
  match statements.find? isStatement with
  | some (_, .evaluate (.text t)) => some t
  | _ => .none

/-- Executes the numbered statements of a file in a namespace. -/
def executeAll (globals : Identity) (file : String) (statements : List (Nat × Statement)) :
    GuestM Unit := do
  modify fun g => { g with scripts := g.scripts + 1 }
  let here : Place := { globals, builtins := ← builtinsOf globals, file, script := (← get).scripts }
  if let some t := documentation? statements then
    setName globals (.ofString "__doc__") (← atPlace here (literalText t))
  for (line, statement) in statements do
    inFrame { file, line } (atPlace { here with line } (execute statement))

/-- Runs the code of a module's file in a namespace. -/
def runFile (globals : Identity) (path shortName : String) (code : Script) : GuestM Unit := do
  executeAll globals path (← liftExcept (Reading.statements shortName code))

/-- Runs a script that the host hands over, in a namespace. -/
def runScript (globals : Identity) (script : Script) : GuestM Unit := do
  let g ← get
  if (g.lookup globals (.ofString "__builtins__")).isNone then
    setName globals (.ofString "__builtins__") g.builtins
  executeAll globals "<string>" (← liftExcept (Reading.handedOver script))

/-- The object that a script leaves under a name, run in a namespace of its own. -/
def resultOf (script : Script) (name : String) : GuestM Identity := do
  let globals ← allocate (.dict [])
  runScript globals script
  match (← get).lookup globals (.ofString name) with
  | some object => return object
  | .none => missingKey (← string name)

/-- Imports a module as a script does, and gives the module of the full name. -/
def importModule (name : String) : GuestM Identity := importNamed runFile name false

/-! ### Calls -/

/-- Calls an object from a place, where calls nest to a depth. -/
def callTo : Nat → Place → Identity → List Identity → EStateM Fault Guest Identity
  | 0, _, _, _ => throw .tooDeep
  | depth + 1, place, id, arguments =>
    let run : GuestM Identity := do
      match ← bodyOf id with
      | .function f home => callScripted f home arguments
      | .builtin "__import__" => importBuiltin runFile arguments
      | _ => callObject id arguments
    run { place, call := callTo depth }

/-- How deeply calls nest at most. -/
def callDepth : Nat := 995

/-- Runs a computation on behalf of the host, in a namespace that has nothing but the built-in names. -/
def atTop {α : Type} (run : GuestM α) : EStateM Fault Guest α := fun g =>
  run { place := { globals := g.builtins, builtins := g.builtins }, call := callTo callDepth } g

/-- The object of an expression that is evaluated in a namespace of its own. -/
def objectOf (e : Expr) : GuestM Identity := do
  resultOf (.lines [.assign "OUT" e]) "OUT"

end ScriptHost.GuestM
