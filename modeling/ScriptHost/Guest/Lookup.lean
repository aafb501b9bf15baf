import ScriptHost.Guest.Member

/-! What classes say of their objects: what stands under a name in a class and in those that it extends,
how that is bound to an object, and calls of it. -/
namespace ScriptHost

/-- What is found under a name in a class or in one that it extends. -/
inductive ClassEntry where
  /-- An attribute of one of the interpreter's own classes. -/
  | own (owner : String) (kind : MemberKind) (arity : Arity)
  /-- One of the interpreter's own classes says that there is nothing under the name. -/
  | nothing
  /-- What the class of a script holds. -/
  | scripted (value : Identity)

namespace Builtin

/-- What is found under a name in one of the interpreter's own classes itself. -/
def entry? (class? name : String) : Option ClassEntry :=
  if name = "__hash__" && refusesHash class? then some .nothing
  else if name = "__reversed__" && class? = "Mapping" then some .nothing
  else ((members class?).lookup name).map fun (kind, arity) => .own class? kind arity

/-- What is found under a name in one of the interpreter's own classes or in those that it extends. -/
def inheritedEntry? (class? name : String) : Option ClassEntry :=
  (ancestry class?).findSome? fun owner => entry? owner name

end Builtin

namespace Guest

/-- What is found under a name in a class, whatever it extends. -/
def entryOfOne (g : Guest) (name : Text) (key : String) (class? : Identity) : Option ClassEntry :=
  match g.body class? with
  | .builtin own => Builtin.entry? own key
  | _ => (g.ownAttribute? class? name).map fun value =>
    match g.body value with
    | .member "object" own kind => if own = key then .own "object" kind .any else .scripted value
    | _ => .scripted value

/-- What is found under a name in the first of some classes that has it. -/
def entryAmong (g : Guest) (classes : List Identity) (name : Text) : Option ClassEntry :=
  classes.findSome? (g.entryOfOne name ((name.toString?).getD ""))

/-- What is found under a name in a class and in those that it extends. -/
def entryIn (g : Guest) (class? : Identity) (name : Text) : Option ClassEntry :=
  match g.body class? with
  | .builtin own => Builtin.inheritedEntry? own ((name.toString?).getD "")
  | .classObject made => g.entryAmong (class? :: made.ancestors) name
  | _ => none

/-- What the class of an object has under a name. -/
def entryOf (g : Guest) (id : Identity) (name : Text) : Option ClassEntry :=
  match g.home? id with
  | some home => g.entryIn home name
  | none => Builtin.inheritedEntry? (g.body id).className ((name.toString?).getD "")

/-- What a script's class has under a name for its objects, unless one of the interpreter's own
classes comes first. -/
def special? (g : Guest) (id : Identity) (name : String) : Option Identity :=
  match (g.home? id).bind fun home => g.entryIn home (.ofString name) with
  | some (.scripted value) => some value
  | _ => none

/-- Whether the class of an object has something under a name. -/
def has (g : Guest) (id : Identity) (name : String) : Bool := (g.entryOf id (.ofString name)).isSome

/-- Whether an object can stand for an integer as an index. -/
def hasIndex (g : Guest) (id : Identity) : Bool :=
  match g.body id with
  | .bool _ | .int _ => true
  | _ => (g.home? id).any fun home => (g.entryIn home (.ofString "__index__")).isSome

/-- Whether the class of an object looks up what stands under a key or a place. -/
def hasItems (g : Guest) (id : Identity) : Bool := g.has id "__getitem__"

end Guest

namespace GuestM

def typeError {α : Type} (text : String) : GuestM α := raise (.typeError text)

def valueError {α : Type} (text : String) : GuestM α := raise (.valueError text)

/-- The name of the class of an object as messages give it. -/
def classLabel (id : Identity) : GuestM String := return (← get).classLabel id

/-- The class of an object. -/
def classOf (id : Identity) : GuestM Identity := do
  let g ← get
  match g.home? id with
  | some home => return home
  | .none => builtin (g.body id).className

/-- A class and those that it extends, in the order in which they are asked for attributes. -/
def orderOf (class? : Identity) : GuestM (List Identity) := do
  match ← bodyOf class? with
  | .classObject made => return class? :: made.ancestors
  | .builtin own => (Builtin.ancestry own).mapM builtin
  | _ => return [class?]

/-- Refuses an attribute of a class for an object of another one. -/
def refuseForeign {α : Type} (owner name : String) (target : Identity) : GuestM α := do
  typeError ("descriptor '" ++ name ++ "' for '" ++ owner ++ "' objects doesn't apply to a '" ++
    (← classLabel target) ++ "' object")

private def textOf (parts : List Text) : Text := parts.foldl (· ++ ·) ⟨[]⟩

def attributeErrorOf {α : Type} (parts : List Text) : GuestM α :=
  raise ⟨"AttributeError", "AttributeError", some (textOf parts), []⟩

/-- Refuses the use of data that a class works out by functions, where it lacks the one for it. -/
def refuseProperty {α : Type} (target : Identity) (name : Option Text) (what : String) : GuestM α := do
  let named ← match name with
    | .none => pure ⟨[]⟩
    | some name => do pure (textOf [.ofString " '", name, .ofString "'"])
  attributeErrorOf [.ofString "property", named, .ofString (" of '" ++ (← get).className target ++
    "' object has no " ++ what)]

/-- A function as an object gives it out whose class holds it. -/
def bindFunction (value target : Identity) : GuestM Identity := do
  let g ← get
  match g.body value with
  | .function _ _ => allocate (.method value target)
  | .member owner name .classMethod => do allocate (.bound (← classOf target) owner name .classMethod)
  | .member owner name kind =>
    if g.isInstance target owner then allocate (.bound target owner name kind)
    else refuseForeign owner name target
  | .staticMethod function => return function
  | .classMethod function => do allocate (.method function (← classOf target))
  | _ => return value

/-- What an object gives out under a name where its class holds something. -/
def bindFor (value target : Identity) : GuestM Identity := do
  let g ← get
  match g.body value, g.special? value "__get__" with
  | .property (some getter) _ _ _, _ => call getter [target]
  | .property .none _ _ name, _ => refuseProperty target name "getter"
  | _, some getter => do call (← bindFunction getter value) [target, ← classOf target]
  | _, .none => bindFunction value target

/-- Calls what the class of an object holds under a name, on behalf of the object. -/
def callFor (value target : Identity) (arguments : List Identity) : GuestM Identity := do
  match ← bodyOf value with
  | .function _ _ | .member _ _ .method | .member _ _ .slot => call value (target :: arguments)
  | _ => do call (← bindFor value target) arguments

/-- Calls what the class of an object holds under a name, if the class gives it out for the object. -/
def callIfGiven? (value target : Identity) (arguments : List Identity) : GuestM (Option Identity) := do
  match ← bodyOf value with
  | .function _ _ | .member _ _ .method | .member _ _ .slot => some <$> call value (target :: arguments)
  | _ =>
    match ← tryCatch (some <$> bindFor value target) fun _ => return .none with
    | some given => some <$> call given arguments
    | .none => return .none

/-- What the class of an object answers under a name, if a script's class has something there. -/
def specially? (name : String) (target : Identity) (arguments : List Identity) : GuestM (Option Identity) := do
  match (← get).special? target name with
  | some value => some <$> callFor value target arguments
  | .none => return .none

/-- Whether an answer says that an operation does not apply. -/
def isNotApplicable (g : Guest) (id : Identity) : Bool :=
  match g.body id with
  | .notImplemented => true
  | _ => false

end GuestM
end ScriptHost
