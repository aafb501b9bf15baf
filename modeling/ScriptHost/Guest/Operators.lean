import ScriptHost.Guest.Arithmetic

/-! Operators on objects: joining and repeating, the operators of sets, subscripts and the
assignment to them. -/
namespace ScriptHost.GuestM

def notSupported {α : Type} (op : Operation) (a b : Identity) : GuestM α := do
  let g ← get
  raise (.typeError ("unsupported operand type(s) for " ++ op.symbol ++ ": '" ++ g.classLabel a ++
    "' and '" ++ g.classLabel b ++ "'"))

/-- Whether an object is of one of the interpreter's own classes, and not of one that extends it. -/
def isExact (id : Identity) : GuestM Bool := return (← get).isExact id

def cannotJoin {α : Type} (kind : String) (b : Identity) : GuestM α := do
  raise (.typeError ("can only concatenate " ++ kind ++ " (not \"" ++ (← get).classLabel b ++ "\") to " ++ kind))

def cannotJoinBytes {α : Type} (a b : Identity) : GuestM α := do
  let g ← get
  raise (.typeError ("can't concat " ++ g.classLabel b ++ " to " ++ g.classLabel a))

/-- A sequence with another one behind it, if the first object is a sequence; an empty one leaves
the other as it is. -/
def join? (a b : Identity) : GuestM (Option Identity) := do
  let g ← get
  let exact := g.isExact a && g.isExact b
  match g.body a, g.body b with
  | .text s, .text t =>
    if exact && s.isEmpty then return some b
    else if exact && t.isEmpty then return some a
    else some <$> text (s ++ t)
  | .text _, _ => cannotJoin "str" b
  | .list xs, .list ys => some <$> allocate (.list (xs ++ ys))
  | .list _, _ => cannotJoin "list" b
  | .tuple xs, .tuple ys =>
    if exact && xs.isEmpty then return some b
    else if exact && ys.isEmpty then return some a
    else some <$> tuple (xs ++ ys).toList
  | .tuple _, _ => cannotJoin "tuple" b
  | .bytes xs, other =>
    match g.octets? b, other with
    | some ys, .bytes _ =>
      if exact && xs.isEmpty then return some b
      else if exact && ys.isEmpty then return some a
      else some <$> bytes (xs ++ ys)
    | some ys, _ => some <$> bytes (xs ++ ys)
    | .none, _ => cannotJoinBytes a b
  | .byteArray xs, _ =>
    match g.octets? b with
    | some ys => some <$> allocate (.byteArray (xs ++ ys))
    | .none => cannotJoinBytes a b
  | _, _ => return .none

def copies {α : Type} (n : Int) (items : List α) : List α :=
  (List.replicate n.toNat items).flatten

/-- A sequence repeated, if an object is one. -/
def repeated? (g : Guest) (sequence : Identity) (n : Int) : Option (GuestM Identity) :=
  let exact := g.isExact sequence
  let checked (size : Nat) (tooLong : Fault) (make : GuestM Identity) : GuestM Identity :=
    if 0x8000000000000000 ≤ n * size then raise tooLong
    else if mostItems < n.toNat * size then raise (.of "MemoryError" "")
    else make
  let outOfMemory : Fault := .of "MemoryError" ""
  let unchangedOr (size : Nat) (make : GuestM Identity) : GuestM Identity :=
    if exact && (n == 1 || size == 0) then return sequence else make
  match g.body sequence with
  | .text t => some (checked t.length (.of "OverflowError" "repeated string is too long")
      (unchangedOr t.length (text ⟨copies n t.points⟩)))
  | .list items => some (checked items.size outOfMemory (list (copies n items.toList)))
  | .tuple items =>
    some (checked items.size outOfMemory (unchangedOr items.size (tuple (copies n items.toList))))
  | .bytes data => some (checked data.length (.of "OverflowError" "repeated bytes are too long")
      (unchangedOr data.length (bytes (copies n data))))
  | .byteArray data => some (checked data.length outOfMemory (allocate (.byteArray (copies n data))))
  | _ => .none

/-- A sequence repeated as often as an object says. -/
def repeatSequence (sequence count : Identity) : GuestM Identity := do
  let g ← get
  if g.hasIndex count then
    let n ← wordOf "OverflowError" count
    (repeated? (← get) sequence n).getD none
  else raise (.typeError ("can't multiply sequence by non-int of type '" ++ g.classLabel count ++ "'"))

/-- Whether an object is a sequence that can be repeated. -/
def isRepeatable (g : Guest) (id : Identity) : Bool := (repeated? g id 0).isSome

/-- The members of a set object. -/
def membersOf? (g : Guest) (id : Identity) : Option MemberTable :=
  match g.body id with
  | .set members | .frozenSet members => some members
  | _ => .none

/-- A set like another one with members of its own. -/
def setLike (model : Identity) (members : MemberTable) : GuestM Identity := do
  match ← bodyOf model with
  | .frozenSet _ => allocate (.frozenSet members)
  | _ => allocate (.set members)

def combineSets (op : Operation) (s t : MemberTable) : Option MemberTable :=
  match op with
  | .subtract => some (s.difference t)
  | .both => some (s.intersection t)
  | .either => some (s.union t)
  | .different => some (s.symmetricDifference t)
  | _ => .none

def isView (g : Guest) (id : Identity) : Bool :=
  match g.body id with
  | .view part _ => part ≠ .values
  | _ => false

/-- An operation between sets, or between a view of a dictionary and any items. -/
def combine? (op : Operation) (a b : Identity) : GuestM (Option Identity) := do
  let g ← get
  match membersOf? g a, membersOf? g b with
  | some s, some t => (combineSets op s t).mapM (setLike a)
  | s?, t? =>
    if (isView g a || isView g b) && (combineSets op .empty .empty).isSome then
      let s ← match s? with
        | some s => pure s
        | .none => members (← itemsOf a)
      let t ← match t? with
        | some t => pure t
        | .none => members (← itemsOf b)
      (combineSets op s t).mapM fun made => allocate (.set made)
    else return .none

/-- The entries of a dictionary with those of another one on top. -/
def merge? (op : Operation) (a b : Identity) : GuestM (Option Identity) := do
  let g ← get
  match op, g.body a, g.body b with
  | .either, .dict s, .dict t =>
    some <$> allocate (.dict (t.foldl (fun made entry => made.insert entry.form entry.key entry.value) s))
  | _, _, _ => return .none

/-- An operation between the data of two objects, unless data of these kinds has no such operation. -/
def operateData? (op : Operation) (a b : Identity) : GuestM (Option Identity) := do
  let g ← get
  match g.number? a, g.number? b with
  | some x, some y =>
    match g.body a, g.body b, op with
    | .bool x, .bool y, .both => some <$> bool (x && y)
    | .bool x, .bool y, .either => some <$> bool (x || y)
    | .bool x, .bool y, .different => some <$> bool (x != y)
    | _, _, _ => calculate op x y
  | _, _ =>
    match ← combine? op a b with
    | some made => return some made
    | .none => merge? op a b

/-- Whether a script's class has a function behind an operation. -/
def decides (g : Guest) (op : Operation) (id : Identity) : Bool :=
  (g.special? id op.names.1).isSome || (g.special? id op.names.2).isSome

/-- What the class of an object has for an operation under one of its names. -/
def operateBy (name : String) (data : GuestM (Option Identity)) (a b : Identity) :
    GuestM (Option Identity) := do
  match (← get).entryOf a (.ofString name) with
  | some (.scripted value) => do applicable? (← callFor value a [b])
  | some (.own _ _ _) => data
  | _ => return .none

/-- An operation between two objects, unless their classes have no such operation for each other. -/
def operate? (op : Operation) (a b : Identity) : GuestM (Option Identity) := do
  let g ← get
  let data := operateData? op a b
  let (first, second) := (decides g op a, decides g op b)
  if !first && !second then data
  else
    let (name, reflected) := op.names
    let straight := if first then operateBy name data a b else data
    let class? ← classOf a
    let back := if second && class? != (← classOf b) then operateBy reflected data b a else return .none
    inTurn a b straight back

/-- An operation between two objects. -/
def operate (op : Operation) (a b : Identity) : GuestM Identity := do
  match ← operate? op a b with
  | some made => return made
  | .none =>
    let g ← get
    let joined ← if op = .add then join? a b else pure .none
    match joined with
    | some made => return made
    | .none =>
      if op = .multiply && isRepeatable g a then repeatSequence a b
      else if op = .multiply && isRepeatable g b then repeatSequence b a
      else notSupported op a b

/-- A key error that shows an object. -/
def missingKey {α : Type} (key : Identity) : GuestM α := do
  raise ⟨"KeyError", "KeyError", ← succeeded? (represent key), []⟩

/-- What a dictionary object holds under a key. -/
def valueAt (dict key : Identity) : GuestM Identity := do
  match ← find? ((← get).entries dict) key with
  | some value => return value
  | .none =>
    match ← specially? "__missing__" dict [key] with
    | some value => return value
    | .none => missingKey key

def outOfRange {α : Type} (what : String) : GuestM α :=
  raise (.of "IndexError" (what ++ " out of range"))

def indexed {α : Type} (items : Array α) (n : Int) (what : String) : GuestM α :=
  match (place? n items.size).bind fun place => items[place]? with
  | some item => return item
  | .none => outOfRange what

/-- Refuses the use of a view of bytes that was given back. -/
def refuseReleased {α : Type} : GuestM α :=
  raise (.valueError "operation forbidden on released memoryview object")

/-- What a sequence holds at a place. -/
def itemAt (target : Identity) (n : Int) : GuestM Identity := do
  let g ← get
  match g.body target with
  | .list items => indexed items n "list index"
  | .tuple items => indexed items n "tuple index"
  | .text t => do text ⟨[← indexed t.points.toArray n "string index"]⟩
  | .bytes data => do int (← indexed data.toArray n "index").toNat
  | .byteArray data => do int (← indexed data.toArray n "bytearray index").toNat
  | .memoryView _ _ _ count =>
    match (place? n count).bind (g.octetAt? target) with
    | some b => int b.toNat
    | .none => raise (.of "IndexError" "index out of bounds on dimension 1")
  | .range start stop step =>
    match place? n (rangeLength start stop step) with
    | some place => int (start + place * step)
    | .none => raise (.of "IndexError" "range object index out of range")
  | _ => raise (.typeError ("'" ++ g.classLabel target ++ "' object is not subscriptable"))

/-- The part of a sequence that a slice picks. -/
def sliceOf (target start stop step : Identity) : GuestM Identity := do
  let places ← placesOf start stop step (((← get).dataLength? target).getD 0)
  let g ← get
  let exact := g.isExact target
  let wholeOr (size : Nat) (make : GuestM Identity) : GuestM Identity :=
    if exact && places.isWhole size then return target else make
  match g.body target with
  | .list items => list (places.pick items)
  | .tuple items => wholeOr items.size (tuple (places.pick items))
  | .text t => wholeOr t.length (text ⟨places.pick t.points.toArray⟩)
  | .bytes data => wholeOr data.length (bytes (places.pick data.toArray))
  | .byteArray data => allocate (.byteArray (places.pick data.toArray))
  | .range start _ step =>
    allocate (.range (start + places.first * step) (start + places.stop * step) (step * places.step))
  | .memoryView source first step _ =>
    allocate (.memoryView source (first + places.first * step) (step * places.step) places.count)
  | _ => none

def wrongPlace {α : Type} (target key : Identity) : GuestM α := do
  let g ← get
  let found := g.classLabel key
  let indices (what : String) : GuestM α :=
    raise (.typeError (what ++ " indices must be integers or slices, not " ++ found))
  match g.body target with
  | .list _ => indices "list"
  | .tuple _ => indices "tuple"
  | .bytes _ => indices "byte"
  | .byteArray _ => indices "bytearray"
  | .range _ _ _ => indices "range"
  | .text _ => raise (.typeError ("string indices must be integers, not '" ++ found ++ "'"))
  | _ => raise (.typeError "memoryview: invalid slice key")

def isSequence : Body → Bool
  | .list _ | .tuple _ | .text _ | .bytes _ | .byteArray _ | .memoryView _ _ _ _ | .range _ _ _ => true
  | _ => false

private def genericClasses : List String := [
  "list", "tuple", "dict", "set", "frozenset", "type", "enumerate", "BaseExceptionGroup", "ExceptionGroup",
  "mappingproxy", "Iterable", "Container", "Collection", "Mapping"]

/-- A class with the types of its items. -/
def genericOf (class? key : Identity) : GuestM Identity := do
  let parameters ← match ← bodyOf key with
    | .tuple _ => pure key
    | _ => tuple [key]
  let id ← allocate (.plain "GenericAlias")
  let attributes ← attributesOf id
  setName attributes (.ofString "__origin__") class?
  setName attributes (.ofString "__args__") parameters
  return id

def notSubscriptable {α : Type} (class? : String) : GuestM α := do
  typeError ("type '" ++ class? ++ "' is not subscriptable")

/-- What a class makes of the types of its items. -/
def subscriptOfClass (class? key : Identity) : GuestM Identity := do
  let g ← get
  match g.entryIn class? (.ofString "__class_getitem__"), g.body class? with
  | some (.scripted value), _ =>
    match g.body value with
    | .none => notSubscriptable (g.nameOfClass class?)
    | .classMethod function => call function [class?, key]
    | .staticMethod function => call function [key]
    | _ => call value [key]
  | _, .builtin name =>
    if genericClasses.contains name then genericOf class? key
    else if Builtin.isClass name then notSubscriptable name
    else typeError "'builtin_function_or_method' object is not subscriptable"
  | _, .classObject made =>
    if genericClasses.any (g.extendsOwn class?) then genericOf class? key else notSubscriptable made.name
  | _, _ => notSubscriptable ""

/-- What a sequence holds at the place that an object stands for. -/
def itemAtKey (target key : Identity) : GuestM Identity := do
  if (← get).hasIndex key then itemAt target (← wordOf "IndexError" key) else wrongPlace target key

/-- What the data of an object holds under a key or at a place. -/
def subscriptData (target key : Identity) : GuestM Identity := do
  let g ← get
  match g.body target, g.body key with
  | .dict _, _ => valueAt target key
  | .proxy dict, _ => valueAt dict key
  | .builtin _, _ | .classObject _, _ => subscriptOfClass target key
  | .plain "memoryview", _ => refuseReleased
  | .plain "GenericAlias", _ =>
    raise ⟨"TypeError", "TypeError", some ((← represent target) ++ .ofString " is not a generic class"), []⟩
  | body, .slice start stop step =>
    if isSequence body then sliceOf target start stop step else itemAt target 0
  | .memoryView _ _ _ _, .tuple items =>
    match items.toList with
    | [place] => itemAt target (← wordOf "IndexError" place)
    | _ => itemAtKey target key
  | .range _ _ _, _ => if g.hasIndex key then itemAt target (← indexOf key) else wrongPlace target key
  | body, _ => if isSequence body then itemAtKey target key else itemAt target 0

/-- What an object holds under a key or at a place. -/
def subscript (target key : Identity) : GuestM Identity := do
  match ← specially? "__getitem__" target [key] with
  | some found => return found
  | .none => subscriptData target key

/-- Refuses to change the size of bytes while views of them are in use. -/
def refuseViewed (target : Identity) : GuestM Unit := do
  let isView (o : Object) : Bool := match o.body with
    | .memoryView source _ _ _ => source == target
    | _ => false
  if (← get).heap.any isView then
    raise (.of "BufferError" "Existing exports of data: object cannot be re-sized")

/-- The byte that an object stands for. -/
def byteOf (id : Identity) : GuestM UInt8 := do
  let n ← indexOf id
  if 0 ≤ n ∧ n < 256 then return n.toNat.toUInt8
  else raise (.valueError "byte must be in range(0, 256)")

/-- Items with those that a slice picks replaced by others. -/
def replaceSlice {α : Type} (items : Array α) (places : Places) (what : String) (values : List α) :
    GuestM (Array α) := do
  if places.step = 1 then
    let first := places.first.toNat
    let stop := max first places.stop.toNat
    return items.extract 0 first ++ values.toArray ++ items.extract stop items.size
  else if values.length ≠ places.count then
    raise (.valueError ("attempt to assign " ++ what ++ " of size " ++ toString values.length ++
      " to extended slice of size " ++ toString places.count))
  else
    return ((List.range places.count).zip values).foldl (fun made ((i : Nat), value) =>
      made.modify (places.first + i * places.step).toNat fun _ => value) items

def iterableItems (text : String) (value : Identity) : GuestM (List Identity) := do
  match ← itemsOf? value with
  | some items => return items
  | .none => typeError text

/-- The bytes that are assigned to a slice. -/
def assignedBytes (value : Identity) : GuestM (List UInt8) := do
  let g ← get
  let refused : Fault := .typeError "can assign only bytes, buffers, or iterables of ints in range(0, 256)"
  match g.octets? value with
  | some data => return data
  | .none =>
    if g.isText value || (g.number? value).isSome then raise refused
    match ← itemsOf? value with
    | some items => items.mapM byteOf
    | .none => raise refused

def setListSlice (target start stop step value : Identity) (items : Array Identity) : GuestM Unit := do
  let places ← placesOf start stop step items.size
  let values ← iterableItems
    (if places.step = 1 then "can only assign an iterable" else "must assign iterable to extended slice") value
  setBody target (.list (← replaceSlice items places "sequence" values))

def setByteSlice (target start stop step value : Identity) (data : List UInt8) : GuestM Unit := do
  let places ← placesOf start stop step data.length
  let values ← assignedBytes value
  let made ← replaceSlice data.toArray places "bytes" values
  if made.size ≠ data.length then refuseViewed target
  setBody target (.byteArray made.toList)

def setListItem (target key value : Identity) (items : Array Identity) : GuestM Unit := do
  match place? (← wordOf "IndexError" key) items.size with
  | some place => setBody target (.list (items.modify place fun _ => value))
  | .none => outOfRange "list assignment index"

def setByte (target : Identity) (place : Nat) (b : UInt8) : GuestM Unit := do
  match ← bodyOf target with
  | .byteArray data => setBody target (.byteArray (data.set place b))
  | _ => return ()

def setByteItem (target key value : Identity) (data : List UInt8) : GuestM Unit := do
  let n ← wordOf "IndexError" key
  let b ← byteOf value
  match place? n data.length with
  | some place => setByte target place b
  | .none => outOfRange "bytearray index"

def setViewItem (source key value : Identity) (first step : Int) (count : Nat) :
    GuestM Unit := do
  let g ← get
  match g.body source with
  | .byteArray _ =>
    match g.body key with
    | .slice start stop last =>
      let places ← placesOf start stop last count
      match g.octets? value with
      | .none => raise (.typeError ("a bytes-like object is required, not '" ++ g.classLabel value ++ "'"))
      | some data =>
        if data.length ≠ places.count then
          raise (.valueError "memoryview assignment: lvalue and rvalue have different structures")
        ((List.range places.count).zip data).forM fun ((i : Nat), b) =>
          setByte source (first + (places.first + i * places.step) * step).toNat b
    | _ =>
      if !g.hasIndex key then raise (.typeError "memoryview: invalid slice key")
      match place? (← wordOf "IndexError" key) count with
      | .none => raise (.of "IndexError" "index out of bounds on dimension 1")
      | some place =>
        if !g.hasIndex value then raise (.typeError "memoryview: invalid type for format 'B'")
        let n ← indexOf value
        if 0 ≤ n ∧ n < 256 then setByte source (first + place * step).toNat n.toNat.toUInt8
        else raise (.valueError "memoryview: invalid value for format 'B'")
  | _ => raise (.typeError "cannot modify read-only memory")

/-- Sets what the data of an object holds under a key or at a place. -/
def setItemData (target key value : Identity) : GuestM Unit := do
  let g ← get
  match g.body target, g.body key with
  | .dict _, _ => setEntry target key value
  | .list items, .slice start stop step => setListSlice target start stop step value items
  | .list items, _ =>
    if g.hasIndex key then setListItem target key value items else wrongPlace target key
  | .byteArray data, .slice start stop step => setByteSlice target start stop step value data
  | .byteArray data, _ =>
    if g.hasIndex key then setByteItem target key value data else wrongPlace target key
  | .memoryView source first step count, _ => setViewItem source key value first step count
  | .plain "memoryview", _ => refuseReleased
  | body, _ =>
    if (isSequence body || !g.isExact target) && g.hasIndex key then discard (wordOf "IndexError" key)
    raise (.typeError ("'" ++ g.classLabel target ++ "' object does not support item assignment"))

/-- Removes what a sequence holds at the places that a slice picks. -/
def withoutPlaces {α : Type} (items : Array α) (places : Places) : Array α :=
  let gone := (List.range places.count).map fun (i : Nat) => (places.first + i * places.step).toNat
  (((List.range items.size).zip items.toList).filter fun entry => !gone.contains entry.1).map (·.2) |>.toArray

/-- Sets what an object holds under a key or at a place. -/
def setItem (target key value : Identity) : GuestM Unit := do
  if (← specially? "__setitem__" target [key, value]).isNone then
    let g ← get
    if (g.special? target "__delitem__").isSome && !g.has target "__setitem__" then
      attributeErrorOf [.ofString "__setitem__"]
    setItemData target key value

/-- Removes what the data of an object holds under a key or at a place. -/
def deleteItemData (target key : Identity) : GuestM Unit := do
  let g ← get
  match g.body target, g.body key with
  | .dict entries, _ =>
    let form ← formIn entries key
    if entries.contains form then setBody target (.dict (entries.erase form)) else missingKey key
  | .list items, .slice start stop step =>
    setBody target (.list (withoutPlaces items (← placesOf start stop step items.size)))
  | .list items, _ =>
    if !g.hasIndex key then wrongPlace target key
    match place? (← wordOf "IndexError" key) items.size with
    | some place => setBody target (.list (items.extract 0 place ++ items.extract (place + 1) items.size))
    | .none => outOfRange "list assignment index"
  | .byteArray data, .slice start stop step =>
    let places ← placesOf start stop step data.length
    refuseViewed target
    setBody target (.byteArray (withoutPlaces data.toArray places).toList)
  | .byteArray data, _ =>
    if !g.hasIndex key then wrongPlace target key
    match place? (← wordOf "IndexError" key) data.length with
    | some place =>
      refuseViewed target
      setBody target (.byteArray (data.eraseIdx place))
    | .none => outOfRange "bytearray index"
  | .memoryView _ _ _ _, _ => raise (.typeError "cannot delete memory")
  | _, _ => raise (.typeError ("'" ++ g.classLabel target ++ "' object doesn't support item deletion"))

/-- Removes what an object holds under a key or at a place. -/
def deleteItem (target key : Identity) : GuestM Unit := do
  if (← specially? "__delitem__" target [key]).isNone then deleteItemData target key

end ScriptHost.GuestM
