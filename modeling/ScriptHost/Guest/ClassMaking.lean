import ScriptHost.Guest.Changes

/-! Making classes: what they hold, and who is told that they were made. -/
namespace ScriptHost.GuestM

/-- The name of a class, which has to be written without surrogates and zeros. -/
def classNameOf (t : Text) : GuestM String := do
  let name ← liftExcept t.encode
  if name.toList.contains (Char.ofNat 0) then valueError "type name must not contain null characters"
  return name

def fullNameOf (attributes : Identity) (name : String) : GuestM String := do
  let g ← get
  match g.lookup attributes (.ofString "__qualname__") with
  | .none => return name
  | some id =>
    match g.text? id with
    | some t => return t.lossy
    | .none => typeError ("type __qualname__ must be a str, not " ++ g.classLabel id)

/-- Some functions of a class do not take one of its objects first. -/
def settleFunction (own : Identity) (name : String) (wrap : Identity → Body) : GuestM Unit := do
  let g ← get
  match g.lookup own (.ofString name) with
  | some function =>
    if let .function _ _ := g.body function then setName own (.ofString name) (← allocate (wrap function))
  | .none => return ()

/-- The attributes that the objects of a class have places for. -/
structure PlaceNames where
  names : List Text
  /-- Whether attributes of any name can be set. -/
  isOpen : Bool

/-- The names that a class lists for the attributes of its objects, unless it leaves them open. -/
def placeNames (base attributes : Identity) (hasOpenBase : Bool) : GuestM (Option PlaceNames) := do
  match (← get).lookup attributes (.ofString "__slots__") with
  | .none => return Option.none
  | some listed =>
    let listed ← if (← get).isText listed then pure [listed] else itemsOf listed
    let g ← get
    let layout := g.layoutOf base
    if !listed.isEmpty && ["int", "tuple", "bytes", "type"].contains layout then
      typeError ("nonempty __slots__ not supported for subtype of '" ++ g.nameOfClass base ++ "'")
    let named (id : Identity) : GuestM Text := do
      match g.text? id with
      | .none => typeError ("__slots__ items must be strings, not '" ++ g.classLabel id ++ "'")
      | some t => if CodePoint.formIdentifier t.points then return t else typeError "__slots__ must be identifiers"
    let names ← listed.mapM named
    let (open?, names) := names.partition (· == .ofString "__dict__")
    if hasOpenBase && !open?.isEmpty || 1 < open?.length then
      typeError "__dict__ slot disallowed: we already got one"
    let names := names.filter (· != .ofString "__weakref__")
    if let some t := names.find? fun t => (g.lookup attributes t).isSome then
      raise ⟨"ValueError", "ValueError", some (t.literal ++ .ofString " in __slots__ conflicts with class variable"), []⟩
    return some ⟨names, !open?.isEmpty⟩

/-- Adds what every class holds. -/
def complete (class? own base : Identity) (layout : String) (places : Option PlaceNames)
    (hasOpenBase : Bool) : GuestM Unit := do
  let addMissing (name : String) (value : GuestM Identity) : GuestM Unit := do
    if ((← get).lookup own (.ofString name)).isNone then setName own (.ofString name) (← value)
  let here ← place
  if let some module := (← get).lookup here.globals (.ofString "__name__") then addMissing "__module__" (return module)
  settleFunction own "__new__" .staticMethod
  settleFunction own "__init_subclass__" .classMethod
  settleFunction own "__class_getitem__" .classMethod
  eraseName own (.ofString "__qualname__")
  for name in (places.map (·.names)).getD [] do setName own name (← allocate (.place class? name .field))
  if places.isNone then
    let common (name : String) : GuestM Unit := addMissing name (allocate (.place class? (.ofString name) .data))
    unless hasOpenBase do common "__dict__"
    unless ["int", "tuple", "bytes", "type", "set", "frozenset"].contains layout do
      let isListed := ((← get).entryIn base (.ofString "__weakref__")).isSome
      if !isListed && (!hasOpenBase || Builtin.isException layout) then common "__weakref__"
  addMissing "__doc__" none
  let g ← get
  if (g.lookup own (.ofString "__eq__")).isSome then addMissing "__hash__" none

/-- Tells what a class holds under which name it does so. -/
def nameEntries (class? own : Identity) : GuestM Unit := do
  for entry in (← get).entries own do
    let g ← get
    match g.body entry.value, g.special? entry.value "__set_name__" with
    | .property getter setter deleter _, _ => setBody entry.value (.property getter setter deleter (g.text? entry.key))
    | _, some value =>
      tryCatch (discard (callFor value entry.value [class?, entry.key])) fun _ => do
        let g ← get
        raise ⟨"RuntimeError", "RuntimeError", some (.ofString ("Error calling __set_name__ on '" ++
          g.className entry.value ++ "' instance ") ++ (← represent entry.key) ++
          .ofString (" in '" ++ g.nameOfClass class? ++ "'")), []⟩
    | _, .none => pure ()

/-- Tells the classes behind a class that it extends them. -/
def announce (class? : Identity) (ancestors : List Identity) : GuestM Unit := do
  let g ← get
  match g.entryAmong ancestors (.ofString "__init_subclass__") with
  | some (.scripted value) =>
    match g.body value with
    | .classMethod function => discard (call function [class?])
    | .staticMethod function => discard (call function [])
    | _ => discard (call value [])
  | _ => return ()

/-- Makes a class from the classes that it extends and from what it holds. -/
def makeClass (maker : Identity) (name : Text) (bases : List Identity) (attributes : Identity) : GuestM Identity := do
  let bases ← if bases.isEmpty then pure [← builtin "object"] else pure bases
  for base in bases do
    if !(← get).isClassObject base then
      if (← attribute? base (.ofString "__mro_entries__")).isSome then
        typeError "type() doesn't support MRO entry resolution; use types.new_class()"
  let maker ← makerFor maker bases
  let base ← mainBase bases
  let hasOpenBase := bases.any (isOpenClass (← get))
  let places ← placeNames base attributes hasOpenBase
  let name ← classNameOf name
  let fullName ← fullNameOf attributes name
  let ancestors ← ancestorsOf bases
  let g ← get
  let layout := layoutOver g base ancestors
  let isUsual := match g.body maker with
    | .builtin own => own == "type"
    | _ => false
  let class? ← allocate (.classObject {
      name, fullName, bases, base, ancestors, layout
      addsPlaces := places.any fun listed => !listed.names.isEmpty
      isOpen := hasOpenBase || places.all (·.isOpen) })
    (if isUsual then Option.none else some maker)
  let own ← attributesOf class?
  setBody own (.dict (g.entries attributes))
  complete class? own base layout places hasOpenBase
  nameEntries class? own
  announce class? ancestors
  return class?

/-- Makes a class from the arguments of a call; the class that makes it may have a function for that. -/
def makeClassFrom (maker name bases attributes : Identity) : GuestM Identity := do
  let g ← get
  let t ← textArgument "type.__new__() argument 1" name
  match g.body bases, g.body attributes with
  | .tuple found, .dict _ => do
    let narrowest ← makerFor maker found.toList
    match (← get).entryIn narrowest (.ofString "__new__") with
    | some (.scripted _) =>
      if narrowest == maker then makeClass maker t found.toList attributes
      else call (← attributeOf narrowest "__new__") [narrowest, name, bases, attributes]
    | _ => makeClass maker t found.toList attributes
  | .tuple _, _ => typeError ("type.__new__() argument 3 must be dict, not " ++ g.classLabel attributes)
  | _, _ => typeError ("type.__new__() argument 2 must be tuple, not " ++ g.classLabel bases)

end ScriptHost.GuestM
