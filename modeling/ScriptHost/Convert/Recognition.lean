import ScriptHost.Script.Execution

/-! What an object is recognised as before it is converted: by its class, by what its class has for its
objects, and by what the object itself says of its class. -/
namespace ScriptHost
namespace Guest

/-- Whether an object answers to the name of an attribute, whatever the answer is. -/
def hasAttribute (g : Guest) (id : Identity) (name : String) : Bool :=
  match GuestM.atTop (GuestM.attribute? id (.ofString name)) g with
  | .ok found _ => found.isSome
  | .error _ _ => false

/-- Whether the attributes that are set on objects with some data are all that they can have beside those
of its class. -/
def isSettled : Body → Bool
  | .module _ | .classObject _ | .ancestral _ _ | .method _ _ | .staticMethod _ | .classMethod _ => false
  | .plain class? => class? ≠ "GenericAlias"
  | _ => true

/-- Whether an object carries the mark that keeps it from being converted. -/
def isMarked (g : Guest) (id : Identity) : Bool :=
  if g.isExact id && isSettled (g.body id) then (g.ownAttribute? id (.ofString skipMark)).isSome
  else g.hasAttribute id skipMark

/-- Whether the class of an object answers to the name of a function for its objects. -/
def classAnswers (g : Guest) (class? : Identity) (name : String) : Bool :=
  (g.entryIn class? (.ofString name)).isSome || ((g.home? class?).isSome && g.hasAttribute class? name)

/-- Whether the class of an object has a function that starts an iteration. -/
def isIterable (g : Guest) (id : Identity) : Bool :=
  match g.home? id with
  | some home => classAnswers g home "__iter__"
  | none => (g.body id).isIterable

/-- Whether the class of an object has a function that gives an integer for it. -/
def offersIndex (g : Guest) (id : Identity) : Bool := (g.home? id).any fun home => classAnswers g home "__index__"

def isDict (g : Guest) (id : Identity) : Bool :=
  match g.body id with
  | .dict _ => true
  | _ => false

/-- Whether an object counts as a mapping, by its class or by the class that it says it has. -/
def countsAsMapping (g : Guest) (id : Identity) : Bool :=
  let isScripted (name : String) : Bool := (g.special? id name).isSome
  if g.isDict id || !(isScripted "__class__" || isScripted "__getattribute__") then g.isMapping id
  else match GuestM.atTop (GuestM.attributeOf id "__class__") g with
    | .ok said g => g.isClassObject said && (g.isMappingClass said || g.isMapping id)
    | .error _ _ => false

end Guest

/-- Asks an object for the mark that keeps it from being converted, for what its class does when it is asked. -/
def GuestM.askForMark (id : Identity) : GuestM Unit := do
  let g ← get
  unless g.isExact id && Guest.isSettled (g.body id) do
    tryCatch (discard (attribute? id (.ofString Guest.skipMark))) fun _ => return ()

end ScriptHost
