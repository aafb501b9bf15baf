import ScriptHost.Guest.Attributes
import ScriptHost.Guest.Inheritance

/-! Changes of attributes: what is set and removed where no class of a script decides, and where one does. -/
namespace ScriptHost.GuestM

/-- Refuses to set or delete an attribute of an object that has none of its own. -/
def refuseChange {α : Type} (target : Identity) (name : Text) : GuestM α := do
  let g ← get
  let key := (name.toString?).getD ""
  let class? := g.classLabel target
  match g.entryOf target name with
  | some (.own owner .data _) =>
    attributeErrorOf [.ofString ("attribute '" ++ key ++ "' of '" ++ owner ++ "' objects is not writable")]
  | some (.own _ .field _) => attributeErrorOf [.ofString "readonly attribute"]
  | some _ => attributeErrorOf [.ofString ("'" ++ class? ++ "' object attribute '" ++ key ++ "' is read-only")]
  | .none =>
    if key = "__doc__" || key = "__new__" then
      attributeErrorOf [.ofString ("'" ++ class? ++ "' object attribute '" ++ key ++ "' is read-only")]
    else missingAttribute target name

def refuseClassChange {α : Type} (target : Identity) (name : Text) : GuestM α := do
  let class? := Builtin.qualifiedName ((← get).nameOfClass target)
  raise ⟨"TypeError", "TypeError",
    some ([.ofString "cannot set '", name,
      .ofString ("' attribute of immutable type '" ++ class? ++ "'")].foldl (· ++ ·) ⟨[]⟩), []⟩

/-- What is set in the place of data that an exception stores. -/
def setExceptionData (target : Identity) (name : String) (value : Option Identity) : GuestM Bool := do
  match ← bodyOf target, Builtin.findMember ((← get).family target) name with
  | .exception type _ details, some (_, .data, _) =>
    match name, value with
    | "args", some value =>
      setBody target (.exception type (← itemsOf value) details)
      return true
    | "args", .none => typeError "args may not be deleted"
    | _, _ => return false
  | .exception type arguments details, some (_, .field, _) =>
    let rest := details.filter fun entry => entry.1 != name
    setBody target (.exception type arguments ((value.map fun id => (name, id)).toList ++ rest))
    return true
  | _, _ => return false

/-! ### Classes of objects and of classes -/

def isPlaceOf (g : Guest) (class? value : Identity) : Bool :=
  match g.body value with
  | .place own _ _ => own == class?
  | _ => false

/-- The names of the places that a class adds to its objects. -/
def addedPlaces (g : Guest) (class? : Identity) : List Text :=
  (((g.ownAttributes? class?).map g.entries).getD []).filterMap fun entry =>
    if isPlaceOf g class? entry.value then g.text? entry.key else Option.none

/-- The nearest class, from a class on, that adds places to its objects. -/
def layoutRoot (g : Guest) : Nat → Identity → Identity
  | 0, class? => class?
  | depth + 1, class? =>
    match g.body class? with
    | .classObject made => if (addedPlaces g class?).isEmpty then layoutRoot g depth made.base else class?
    | _ => class?

/-- Whether the objects of two classes are laid out alike. -/
def sharesLayout (g : Guest) (left right : Identity) : Bool :=
  let left := layoutRoot g 1000 left
  let right := layoutRoot g 1000 right
  left == right || match g.body left, g.body right with
    | .builtin one, .builtin other => Builtin.solid one == Builtin.solid other
    | .classObject one, .classObject other =>
      let places := addedPlaces g left
      let others := addedPlaces g right
      one.base == other.base && places.all others.contains && others.all places.contains
    | _, _ => false

/-- Whether the objects of a class can be parts of circles of objects. -/
def holdsObjects (g : Guest) (class? : Identity) : Bool :=
  match g.body (layoutRoot g 1000 class?) with
  | .builtin own =>
    !(["object", "int", "float", "complex", "str", "bytes", "bytearray"].contains (Builtin.solid own))
  | _ => true

/-- Checks that a class can take the place of another one. -/
def checkLayout (what : String) (old new : Identity) : GuestM Unit := do
  let g ← get
  let refuse (part : String) : GuestM Unit := do
    typeError (what ++ " assignment: '" ++ g.nameOfClass new ++ "' " ++ part ++ " differs from '" ++
      g.nameOfClass old ++ "'")
  if holdsObjects g old != holdsObjects g new then refuse "deallocator"
  if !sharesLayout g old new then refuse "object layout"

/-- Gives an object another class, whose objects hold the same data. -/
def setClass (target class? : Identity) : GuestM Unit := do
  let g ← get
  if !g.isClassObject class? then
    typeError ("__class__ must be set to a class, not '" ++ g.classLabel class? ++ "' object")
  match g.body class?, g.home? target with
  | .classObject _, some old =>
    if !(g.body old matches .classObject _) then
      typeError "__class__ assignment only supported for mutable types or ModuleType subclasses"
    checkLayout "__class__" old class?
    modify fun g => { g with heap := g.heap.modify target.index fun o => { o with home := some class? } }
  | _, _ => typeError "__class__ assignment only supported for mutable types or ModuleType subclasses"

/-- Works out again which classes stand behind those that extend a class. -/
def renewHeirs (class? : Identity) : GuestM Unit := do
  for index in List.range (← get).heap.size do
    match ← bodyOf ⟨index⟩ with
    | .classObject made =>
      if made.ancestors.contains class? then
        let ancestors ← ancestorsOf made.bases
        setBody ⟨index⟩ (.classObject { made with ancestors })
    | _ => pure ()

/-- Lets a class extend other classes, whose objects are laid out as before. -/
def setBases (target : Identity) (made : ScriptClass) (value : Identity) : GuestM Unit := do
  let g ← get
  match g.body value with
  | .tuple items =>
    if items.isEmpty then typeError ("can only assign non-empty tuple to " ++ made.name ++ ".__bases__, not ()")
    let bases := items.toList
    for base in bases do
      if !g.isClassObject base then
        typeError (made.name ++ ".__bases__ must be tuple of classes, not '" ++ g.classLabel base ++ "'")
      if g.isSubclass base target then typeError "a __bases__ item causes an inheritance cycle"
    let base ← mainBase bases
    checkLayout "__bases__" made.base base
    let ancestors ← ancestorsOf bases
    setBody target (.classObject { made with bases, base, ancestors, layout := layoutOver g base ancestors })
    renewHeirs target
  | _ => typeError ("can only assign tuple to " ++ made.name ++ ".__bases__, not " ++ g.classLabel value)

/-- Whether data of a class never changes. -/
private def isFixedData (name : String) : Bool :=
  ["__mro__", "__base__", "__basicsize__", "__itemsize__", "__dictoffset__", "__weakrefoffset__", "__flags__"].contains
    name

/-- Sets data that every class has. -/
def setClassData (target : Identity) (made : ScriptClass) (name : String) (value : Identity) : GuestM Bool := do
  let g ← get
  let wanted : GuestM String := do
    match g.text? value with
    | some t => return t.lossy
    | .none => typeError ("can only assign string to " ++ made.name ++ "." ++ name ++ ", not '" ++
        g.classLabel value ++ "'")
  match name with
  | "__name__" =>
    let name ← wanted
    setBody target (.classObject { made with name })
    return true
  | "__qualname__" =>
    let fullName ← wanted
    setBody target (.classObject { made with fullName })
    return true
  | "__bases__" =>
    setBases target made value
    return true
  | "__class__" =>
    setClass target value
    return true
  | "__dict__" | "__text_signature__" => refuseChange target (.ofString name)
  | _ => if isFixedData name then attributeErrorOf [.ofString "readonly attribute"] else return false

/-- Sets or removes data that is kept beside what was set on the object. -/
def keepBeside (target : Identity) (name : String) (value : Option Identity) : GuestM Bool := do
  let attributes ← attributesOf target
  match value with
  | some value => setName attributes (.ofString name) value
  | .none => eraseName attributes (.ofString name)
  return true

/-- Sets data of a function, which may have to be of a certain class. -/
def setFunctionData (target : Identity) (f : Function) (home : Place) (name : String)
    (value : Option Identity) : GuestM Bool := do
  let g ← get
  let isNothing := value.all g.isNone
  let insist (class? what : String) : GuestM Bool := do
    if isNothing || value.any fun id => g.isInstance id class? then keepBeside target name value
    else typeError (name ++ " must be set to a " ++ what ++ " object")
  match name with
  | "__name__" | "__qualname__" =>
    match value.bind g.text? with
    | .none => typeError (name ++ " must be set to a string object")
    | some t =>
      let (ownName, fullName) := if name = "__name__" then (t.lossy, f.fullName) else (f.name, t.lossy)
      setBody target (.function (.renamed ownName fullName f) home)
      return true
  | "__doc__" | "__module__" => keepBeside target name value
  | "__defaults__" => insist "tuple" "tuple"
  | "__kwdefaults__" | "__annotations__" => insist "dict" "dict"
  | "__code__" => typeError "__code__ must be set to a code object"
  | _ => return false

/-- Sets or removes data that a class of the interpreter's own lets change. -/
def setOwnData (target : Identity) (name : String) (value : Option Identity) : GuestM Bool := do
  match ← bodyOf target with
  | .exception _ _ _ => setExceptionData target name value
  | .function f home => setFunctionData target f home name value
  | .property _ _ _ _ => if name = "__doc__" then keepBeside target name value else return false
  | .builtin _ | .bound _ _ _ _ => if name = "__module__" then keepBeside target name value else return false
  | _ => return false

/-- Gives an object another dictionary of its attributes. -/
def setAttributes (target : Identity) (value : Option Identity) : GuestM Unit := do
  let g ← get
  match value, value.map g.body with
  | some dict, some (.dict _) =>
    modify fun g => { g with heap := g.heap.modify target.index fun o => { o with attributes := some dict } }
  | some other, _ => typeError ("__dict__ must be set to a dictionary, not a '" ++ g.classLabel other ++ "'")
  | .none, _ =>
    if ((g.home? target).map g.body) matches some (.classObject _) || (g.body target) matches .tagged _ then
      modify fun g => { g with heap := g.heap.modify target.index fun o => { o with attributes := Option.none } }
    else typeError "cannot delete __dict__"

/-- Changes what an object keeps in a place that its class made for an attribute. -/
def keepIn (place target class? : Identity) (name : Text) (kind : MemberKind) (value : Option Identity) :
    GuestM Unit := do
  checkOwner target class? name
  let g ← get
  if kind = .data then
    if name = .ofString "__dict__" then return ← setAttributes target value
    attributeErrorOf [.ofString ("attribute '__weakref__' of '" ++ g.nameOfClass class? ++ "' objects is not writable")]
  if value.isNone && ((g.object target).places.lookup place).isNone then attributeErrorOf [name]
  let rest := (g.object target).places.filter fun entry => entry.1 != place
  let places := (value.map fun id => (place, id)).toList ++ rest
  modify fun g => { g with heap := g.heap.modify target.index fun o => { o with places } }

/-- Lets what the class of an object holds under a name take a new value, or nothing, if that is its part. -/
def changedByClass (target : Identity) (name : Text) (value : Option Identity) : GuestM Bool := do
  let g ← get
  match g.entryOf target name with
  | some (.scripted held) =>
    match g.body held, value with
    | .property _ (some setter) _ _, some value =>
      discard (call setter [target, value])
      return true
    | .property _ .none _ shown, some _ => refuseProperty target shown "setter"
    | .property _ _ (some deleter) _, .none =>
      discard (call deleter [target])
      return true
    | .property _ _ .none shown, .none => refuseProperty target shown "deleter"
    | .place class? own kind, value =>
      keepIn held target class? own kind value
      return true
    | .member owner own .data, _ =>
      if !g.isInstance target owner then refuseForeign owner own target
      attributeErrorOf [.ofString ("attribute '" ++ own ++ "' of '" ++ owner ++ "' objects is not writable")]
    | .member owner own .field, _ =>
      if !g.isInstance target owner then refuseForeign owner own target
      attributeErrorOf [.ofString "readonly attribute"]
    | _, some value => return (← specially? "__set__" held [target, value]).isSome
    | _, .none => return (← specially? "__delete__" held [target]).isSome
  | _ => return false

/-- Whether a name stands for the class of an object, and not for what a script's class holds. -/
def hasOwnClass (g : Guest) (target : Identity) (name : Text) : Bool :=
  name == .ofString "__class__" && match g.entryOf target name with
    | some (.scripted _) => false
    | _ => true

/-- Sets an attribute of an object, as it is done where no class of a script decides. -/
def setAttributeByDefault (target : Identity) (name : Text) (value : Identity) : GuestM Unit := do
  let g ← get
  let key := (name.toString?).getD ""
  match g.body target with
  | .module attributes =>
    if name = .ofString "__dict__" then attributeErrorOf [.ofString "readonly attribute"]
    else setName attributes name value
  | .builtin own =>
    if Builtin.isClass own then refuseClassChange target name
    else if key = "__class__" then setClass target value
    else if ← setOwnData target key (some value) then return ()
    else refuseChange target name
  | .classObject made =>
    if ← changedByClass target name (some value) then return ()
    else if ← setClassData target made key value then return ()
    else setName (← attributesOf target) name value
  | _ =>
    if ← changedByClass target name (some value) then return ()
    else if hasOwnClass g target name then setClass target value
    else if ← setOwnData target key (some value) then return ()
    else if !isOpen g target then refuseChange target name
    else if key = "__dict__" then setAttributes target (some value)
    else match g.entryOf target name with
      | some (.own _ .data _) | some (.own _ .field _) => refuseChange target name
      | _ => do setName (← attributesOf target) name value

/-- Sets an attribute of an object. -/
def setAttributeNamed (target : Identity) (name : Text) (value : Identity) : GuestM Unit := do
  if ((← get).special? target "__setattr__").isNone then setAttributeByDefault target name value
  else discard (specially? "__setattr__" target [← GuestM.name name, value])

/-- Sets an attribute of an object under a name that a script spells out. -/
def setAttribute (target : Identity) (name : String) (value : Identity) : GuestM Unit :=
  setAttributeNamed target (.ofString name) value

/-- Removes an attribute of an object, as it is done where no class of a script decides. -/
def deleteAttributeByDefault (target : Identity) (name : Text) : GuestM Unit := do
  let g ← get
  let key := (name.toString?).getD ""
  let missing : GuestM Unit := missingAttribute target name
  match g.body target with
  | .builtin own =>
    if Builtin.isClass own then refuseClassChange target name
    else if name = .ofString "__class__" then typeError "can't delete __class__ attribute"
    else if ← setOwnData target key .none then return ()
    else refuseChange target name
  | .classObject made =>
    if ← changedByClass target name .none then return ()
    else if ["__name__", "__qualname__", "__bases__", "__module__", "__doc__"].contains key then
      typeError ("cannot delete '" ++ key ++ "' attribute of immutable type '" ++ made.name ++ "'")
    else if key = "__dict__" || key = "__text_signature__" then refuseChange target name
    else if isFixedData key then attributeErrorOf [.ofString "readonly attribute"]
    else if key = "__class__" then typeError "can't delete __class__ attribute"
    else
      let attributes ← attributesOf target
      if ((← get).lookup attributes name).isSome then eraseName attributes name
      else if key = "__annotations__" || key = "__abstractmethods__" then attributeErrorOf [name]
      else missing
  | _ =>
    if ← changedByClass target name .none then return ()
    else if hasOwnClass g target name then typeError "can't delete __class__ attribute"
    else if name = .ofString "__dict__" && isOpen g target then setAttributes target .none
    else if ← setOwnData target key .none then return ()
    else if !isOpen g target then refuseChange target name
    else match g.ownAttributes? target with
      | some attributes =>
        if (g.lookup attributes name).isSome then eraseName attributes name else missing
      | .none => missing

/-- Removes an attribute of an object. -/
def deleteAttributeNamed (target : Identity) (name : Text) : GuestM Unit := do
  if ((← get).special? target "__delattr__").isNone then deleteAttributeByDefault target name
  else discard (specially? "__delattr__" target [← GuestM.name name])

end ScriptHost.GuestM
