import ScriptHost.Guest.Attributes

/-! The methods of lists, tuples, dictionaries, sets, ranges and slices. -/
namespace ScriptHost.GuestM

/-- The items that an iteration gives, and the exception that ends it, if one does. -/
def gather : Nat → Array Identity → Cursor → GuestM (Array Identity × Option Fault)
  | 0, found, _ => return (found, .none)
  | fuel + 1, found, c => do
    match ← tryCatch (Except.ok <$> advance c) fun f => return .error f with
    | .error f => return (found, some f)
    | .ok .none => return (found, .none)
    | .ok (some (item, c)) => gather fuel (found.push item) c

/-- Adds the items of an object at the end of a list; what came before an exception stays. -/
def extendList (target source : Identity) : GuestM Unit := do
  let (more, fault) ← match ← bodyOf source, (← get).isExact source with
    | .list items, true | .tuple items, true => pure (items, Option.none)
    | _, _ => do gather mostItems #[] (← cursor source)
  match ← bodyOf target with
  | .list items => setBody target (.list (items ++ more))
  | _ => return ()
  if let some f := fault then raise f

/-- Where an item that is equal to an object stands first. -/
def placeOf? (items : List Identity) (value : Identity) : GuestM (Option Nat) := do
  let rec find : Nat → List Identity → GuestM (Option Nat)
    | _, [] => return .none
    | place, item :: rest => do
      if ← same item value then return some place else find (place + 1) rest
  find 0 items

def countOf (items : List Identity) (value : Identity) : GuestM Nat := do
  return (← items.filterM fun item => same item value).length

/-- The bound of a search in a sequence. -/
def boundOf (default : Int) (id? : Option Identity) : GuestM Int := do
  match id? with
  | .none => return default
  | some id =>
    if (← get).hasIndex id then indexOf id
    else typeError "slice indices must be integers or have an __index__ method"

def sequenceIndex (items : List Identity) (arguments : List Identity) (missing : GuestM Fault) :
    GuestM Identity := do
  let size : Int := items.length
  let fromEnd (n : Int) : Nat := (if n < 0 then max 0 (n + size) else n).toNat
  let start := fromEnd (← boundOf 0 arguments[1]?)
  let stop := fromEnd (← boundOf size arguments[2]?)
  match ← placeOf? ((items.take stop).drop start) (arguments.headD default) with
  | some place => int (start + place)
  | .none => raise (← missing)

/-- The iterator over the data of an object from its last item to its first. -/
def reversedData (id : Identity) : GuestM Identity := do
  let g ← get
  let refused : GuestM Identity := typeError ("'" ++ g.classLabel id ++ "' object is not reversible")
  match g.body id with
  | .list items => allocate (.iterator "list_reverseiterator" (.backwards id items.size))
  | .tuple items => allocate (.iterator "reversed" (.backwards id items.size))
  | .text t => allocate (.iterator "reversed" (.backwards id t.length))
  | .bytes data | .byteArray data => allocate (.iterator "reversed" (.backwards id data.length))
  | .memoryView _ _ _ count => allocate (.iterator "reversed" (.backwards id count))
  | .range start stop step =>
    let count := rangeLength start stop step
    let last := start + (count - 1) * step
    iterator (← allocate (.range last (start - step) (-step)))
  | .dict entries =>
    allocate (.iterator (DictPart.iteratorName .keys true) (.entriesBack id .keys entries.length entries.length))
  | .view part dict =>
    let size := (g.entries dict).length
    allocate (.iterator (part.iteratorName true) (.entriesBack dict part size size))
  | .proxy dict =>
    let size := (g.entries dict).length
    allocate (.iterator (DictPart.iteratorName .keys true) (.entriesBack dict .keys size size))
  | _ => refused

/-- The iterator over an object from its last item to its first. -/
def reversed (id : Identity) : GuestM Identity := do
  let g ← get
  let refused : GuestM Identity := typeError ("'" ++ g.classLabel id ++ "' object is not reversible")
  match (g.home? id).map fun home => g.entryIn home (.ofString "__reversed__") with
  | .none | some (some (.own _ _ _)) => reversedData id
  | some (some .nothing) => refused
  | some (some (.scripted value)) => if g.isNone value then refused else callFor value id []
  | some .none =>
    if (g.special? id "__getitem__").isNone then reversedData id
    else if g.isInstance id "dict" then refused
    else match ← length? id with
      | some size => allocate (.iterator "reversed" (.backwards id size))
      | .none => typeError ("object of type '" ++ g.classLabel id ++ "' has no len()")

def checkFits (size : Nat) : GuestM Unit := do
  if mostItems < size then raise (.of "MemoryError" "")

/-- Calls a method of a list. -/
def listMethod (target : Identity) (items : Array Identity) (name : String) (arguments : List Identity) :
    GuestM Identity := do
  let first := arguments.headD default
  let put (items : Array Identity) : GuestM Identity := do
    setBody target (.list items)
    none
  match name with
  | "append" => put (items.push first)
  | "extend" =>
    extendList target first
    none
  | "insert" =>
    let n ← sizeOf first
    let place := (if n < 0 then max 0 (n + items.size) else min n items.size).toNat
    put (items.extract 0 place ++ #[arguments.getD 1 default] ++ items.extract place items.size)
  | "pop" =>
    let n ← sizeOr (-1) arguments[0]?
    if items.isEmpty then raise (.of "IndexError" "pop from empty list")
    match (place? n items.size).bind fun place => (items[place]?).map fun item => (place, item) with
    | .none => raise (.of "IndexError" "pop index out of range")
    | some (place, item) =>
      discard (put (items.extract 0 place ++ items.extract (place + 1) items.size))
      return item
  | "remove" =>
    match ← placeOf? items.toList first with
    | some place => put (items.extract 0 place ++ items.extract (place + 1) items.size)
    | .none => valueError "list.remove(x): x not in list"
  | "index" =>
    sequenceIndex items.toList arguments do
      let shown ← represent first
      return ⟨"ValueError", "ValueError", some (shown ++ .ofString " is not in list"), []⟩
  | "count" => do int (← countOf items.toList first)
  | "reverse" => put items.reverse
  | "clear" => put #[]
  | "copy" => allocate (.list items)
  | "sort" => do put (← sort items.toList).toArray
  | "__reversed__" => reversedData target
  | "__getitem__" => subscriptData target first
  | _ => int (56 + 8 * items.size)

/-- Calls a method of a tuple. -/
def tupleMethod (items : Array Identity) (name : String) (arguments : List Identity) : GuestM Identity := do
  match name with
  | "index" =>
    sequenceIndex items.toList arguments (return .valueError "tuple.index(x): x not in tuple")
  | "count" => do int (← countOf items.toList (arguments.headD default))
  | _ => do tuple [← tuple items.toList]

/-- Adds pairs to a dictionary, one after the other. -/
def addPairs (target : Identity) (place : Nat) (item : Identity) : GuestM Nat := do
  let some items ← itemsOf? item
    | typeError ("cannot convert dictionary update sequence element #" ++ toString place ++ " to a sequence")
  match items with
  | [key, value] =>
    setEntry target key value
    return place + 1
  | _ =>
    valueError ("dictionary update sequence element #" ++ toString place ++ " has length " ++
      toString items.length ++ "; 2 is required")

/-- The items of what a method of an object answers. -/
def answeredItems (target : Identity) (method : String) : GuestM (List Identity) := do
  let answer ← call (← attributeOf target method) []
  let iterator ← tryCatch (iterator answer) fun f => do
    if f.isA "TypeError" then
      typeError ((← classLabel target) ++ "." ++ method ++ "() returned a non-iterable (type " ++
        (← classLabel answer) ++ ")")
    else raise f
  itemsOf iterator

/-- Adds the entries of a mapping, or pairs, to a dictionary. -/
def updateDict (target source : Identity) : GuestM Unit := do
  let g ← get
  let isOwn := match g.entryOf source (.ofString "__iter__") with
    | some (.own "dict" _ _) => true
    | _ => false
  match isOwn, g.body source with
  | true, .dict entries =>
    let old := g.entries target
    setBody target (.dict (entries.foldl (fun made entry => made.insert entry.form entry.key entry.value) old))
  | _, _ =>
    if (← attribute? source (.ofString "keys")).isSome then
      for key in ← answeredItems source "keys" do
        setEntry target key (← subscript source key)
    else discard (foldItems source 0 (addPairs target))

/-- Calls a method of a dictionary. -/
def dictMethod (target : Identity) (entries : Dict) (name : String) (arguments : List Identity) :
    GuestM Identity := do
  let first := arguments.headD default
  let found? : GuestM (Option Identity) := find? entries first
  let orElse : GuestM Identity := match arguments[1]? with
    | some fallback => return fallback
    | .none => none
  match name with
  | "get" =>
    match ← found? with
    | some value => return value
    | .none => orElse
  | "setdefault" =>
    match ← found? with
    | some value => return value
    | .none =>
      let value ← orElse
      setEntry target first value
      return value
  | "pop" =>
    let missing : GuestM Identity := match arguments[1]? with
      | some fallback => return fallback
      | .none => missingKey first
    if entries.isEmpty then missing
    else match ← found? with
      | some value =>
        setBody target (.dict (entries.erase (← formIn entries first)))
        return value
      | .none => missing
  | "popitem" =>
    match entries.getLast? with
    | some entry =>
      setBody target (.dict entries.dropLast)
      tuple [entry.key, entry.value]
    | .none => raise (.missingKey (.ofString "popitem(): dictionary is empty"))
  | "keys" => allocate (.view .keys target)
  | "values" => allocate (.view .values target)
  | "items" => allocate (.view .items target)
  | "update" =>
    if let some source := arguments[0]? then updateDict target source
    none
  | "clear" =>
    setBody target (.dict [])
    none
  | "copy" => allocate (.dict entries)
  | "__contains__" => do bool (← found?).isSome
  | "__getitem__" => subscriptData target first
  | "__reversed__" => reversedData target
  | _ => int (64 + 24 * entries.length)

/-- Sets one value for all items of an object as keys. -/
def fillKeys (target source value : Identity) : GuestM Identity := do
  foldItems source () fun _ key => setItem target key value
  return target

/-- The form under which a set looks for an object; a set counts as one that cannot change. -/
def memberForm (table : MemberTable) (id : Identity) : GuestM Key := do
  match ← bodyOf id with
  | .set found => if (← get).isExact id then keyForm (← allocate (.frozenSet found)) else formOfMember table id
  | _ => formOfMember table id

/-- The members of an object's items. -/
def membersOf (id : Identity) : GuestM MemberTable := do
  match membersOf? (← get) id with
  | some found => return found.copy
  | .none => members (← itemsOf id)

/-- Adds the items of an object to the table of a set. -/
def addMembers (table : MemberTable) (source : Identity) : GuestM MemberTable := do
  let g ← get
  match membersOf? g source, g.body source with
  | some found, _ => return table.merge found
  | .none, .dict entries => entries.foldlM (fun made entry => addMember made entry.key) (table.reserve entries.length)
  | .none, _ => foldItems source table addMember

def common (table : MemberTable) (source : Identity) : GuestM MemberTable := do
  match membersOf? (← get) source with
  | some found => return table.intersection found
  | .none =>
    foldItems source .empty fun made item => do
      if table.contains (← formOfMember table item) then addMember made item else return made

def without (table : MemberTable) (source : Identity) : GuestM MemberTable := do
  match membersOf? (← get) source with
  | some found => return found.toList.foldl (fun made entry => made.erase entry.1) table
  | .none => foldItems source table fun made item => return made.erase (← formOfMember made item)

def lesser (table : MemberTable) (source : Identity) : GuestM MemberTable := do
  let g ← get
  match membersOf? g source, g.body source with
  | some found, _ => return table.difference found
  | .none, .dict entries =>
    if entries.length < table.size / 4 then without table.copy source
    else return table.filter fun form => !entries.contains form
  | .none, _ => without table.copy source

/-- Adds the items of an object that a set lacks and removes the others. -/
def toggled (table : MemberTable) (source : Identity) : GuestM MemberTable := do
  let others ← membersOf source
  return others.symmetricDifference table

def hasCommon (table : MemberTable) (source : Identity) : GuestM Bool := do
  match membersOf? (← get) source with
  | some found => return table.toList.any fun entry => found.contains entry.1
  | .none =>
    foldItemsUntil source false fun _ item => do
      let isCommon := table.contains (← formOfMember table item)
      return (isCommon, isCommon)

def holdsAll (table : MemberTable) (source : Identity) : GuestM Bool := do
  match membersOf? (← get) source with
  | some found => return found.isSubset table
  | .none =>
    foldItemsUntil source true fun _ item => do
      let isIn := table.contains (← formOfMember table item)
      return (isIn, !isIn)

/-- Calls a method of a set that leaves it as it is. -/
def setQuery (target : Identity) (table : MemberTable) (name : String) (arguments : List Identity) :
    GuestM Identity := do
  let first := arguments.headD default
  let like (made : MemberTable) : GuestM Identity := setLike target made
  match name with
  | "union" => do like (← arguments.foldlM addMembers table.copy)
  | "intersection" =>
    match arguments with
    | [] => like table.copy
    | _ => do like (← arguments.foldlM common table)
  | "difference" =>
    match arguments with
    | [] => like table.copy
    | source :: rest => do like (← rest.foldlM without (← lesser table source))
  | "symmetric_difference" => do like (table.symmetricDifference (← membersOf first))
  | "isdisjoint" => do bool !(← hasCommon table first)
  | "issubset" =>
    let other ← match membersOf? (← get) first with
      | some found => pure found
      | .none => membersOf first
    bool (table.isSubset other)
  | "issuperset" => do bool (← holdsAll table first)
  | "__contains__" => do bool (table.contains (← memberForm table first))
  | "copy" => do
    let g ← get
    match g.body target, g.isExact target with
    | .frozenSet _, true => return target
    | _, _ => like table.copy
  | _ => int 216

/-- Calls a method of a set. -/
def setMethod (target : Identity) (table : MemberTable) (name : String) (arguments : List Identity) :
    GuestM Identity := do
  let first := arguments.headD default
  let put (made : MemberTable) : GuestM Identity := do
    setBody target (.set made)
    none
  match name with
  | "add" => do put (← addMember table first)
  | "remove" =>
    let form ← memberForm table first
    if table.contains form then put (table.erase form) else missingKey first
  | "discard" => do put (table.erase (← memberForm table first))
  | "pop" =>
    match table.pop? with
    | some (item, rest) =>
      discard (put rest)
      return item
    | .none => raise (.missingKey (.ofString "pop from an empty set"))
  | "clear" => put .empty
  | "update" => do put (← arguments.foldlM addMembers table)
  | "intersection_update" => do
    put (← if arguments.isEmpty then pure table else arguments.foldlM common table)
  | "difference_update" => do put (← arguments.foldlM without table)
  | "symmetric_difference_update" => do put (← toggled table first)
  | _ => setQuery target table name arguments

/-- Calls a method of a set that cannot change. -/
def frozenSetMethod (target : Identity) (table : MemberTable) (name : String) (arguments : List Identity) :
    GuestM Identity := setQuery target table name arguments

def isInteger : Body → Option Int
  | .int n => some n
  | .bool b => some (if b then 1 else 0)
  | _ => Option.none

/-- Where a number stands in a range. -/
def rangePlace? (start stop step n : Int) : Option Int :=
  let place := (n - start) / step
  if (n - start) % step = 0 ∧ 0 ≤ place ∧ place < rangeLength start stop step then some place else Option.none

/-- Whether a range holds an object. -/
def rangeHolds (target : Identity) (start stop step : Int) (value : Identity) : GuestM Bool := do
  let g ← get
  match isInteger (g.body value), g.isExact value with
  | some n, true => return (rangePlace? start stop step n).isSome
  | _, _ =>
    foldItemsUntil target false fun _ item => do
      let isSame ← same item value
      return (isSame, isSame)

/-- Calls a method of a range. -/
def rangeMethod (target : Identity) (start stop step : Int) (name : String) (arguments : List Identity) :
    GuestM Identity := do
  let first := arguments.headD default
  let g ← get
  match name, isInteger (g.body first), g.isExact first with
  | "count", some n, true => int (if (rangePlace? start stop step n).isSome then 1 else 0)
  | "count", _, _ => do
    int (← foldItems target (0 : Int) fun n item => do
      return if ← same item first then n + 1 else n)
  | "index", some n, true =>
    match rangePlace? start stop step n with
    | some place => int place
    | .none =>
      let shown ← represent first
      raise ⟨"ValueError", "ValueError", some (shown ++ .ofString " is not in range"), []⟩
  | "index", _, _ =>
    let (place, isFound) ← foldItemsUntil target ((0 : Int), false) fun (place, _) item => do
      if ← same item first then return ((place, true), true)
      else return ((place + 1, false), false)
    if isFound then int place else valueError "sequence.index(x): x not in sequence"
  | "__reversed__", _, _ => reversedData target
  | _, _, _ => none

/-- Calls a method of a slice. -/
def sliceMethod (start stop step : Identity) (name : String) (arguments : List Identity) : GuestM Identity := do
  match name, arguments with
  | "indices", [length] =>
    let n ← indexOf length
    if n < 0 then valueError "length should not be negative"
    let places ← placesOf start stop step n.toNat
    let first ← int places.first
    let last ← int places.stop
    tuple [first, last, ← int places.step]
  | _, _ => none

/-- Calls a method of a view of a dictionary. -/
def viewOfDictMethod (target : Identity) (name : String) (arguments : List Identity) : GuestM Identity := do
  match name with
  | "isdisjoint" => do bool !(← hasCommon (← members (← itemsOf target)) (arguments.headD default))
  | _ => reversedData target

end ScriptHost.GuestM
