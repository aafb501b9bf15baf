import ScriptHost.Guest.Changes
import ScriptHost.Guest.Interpolation

/-! The functions behind operators, called by their names: where an operator would go on to ask the
other operand, they answer that they do not apply. -/
namespace ScriptHost.GuestM

def notApplicable : GuestM Identity := intern .notImplemented

private def operations : List (String × Operation) := [
  ("add", .add), ("sub", .subtract), ("mul", .multiply), ("truediv", .divide), ("floordiv", .floorDivide),
  ("mod", .remainder), ("divmod", .divideWithRest), ("pow", .power), ("lshift", .shiftLeft),
  ("rshift", .shiftRight), ("and", .both), ("or", .either), ("xor", .different)]

/-- The operation of a function behind an operator, and whether its operands change places. -/
private def operationOf? (name : String) : Option (Operation × Bool) :=
  operations.findSome? fun (word, op) =>
    if name = "__" ++ word ++ "__" then some (op, false)
    else if name = "__r" ++ word ++ "__" then some (op, true)
    else Option.none

private def comparisonOf? : String → Option Comparison
  | "__lt__" => some .less
  | "__le__" => some .lessEqual
  | "__gt__" => some .greater
  | "__ge__" => some .greaterEqual
  | _ => Option.none

def isKeysOrItems : Body → Bool
  | .view part _ => part ≠ .values
  | _ => false

/-- Whether an operator of a class takes an object as its other operand. -/
def takes (g : Guest) (owner : String) (other : Identity) : Bool :=
  match owner, g.body other with
  | "int", .int _ | "int", .bool _ | "bool", .int _ | "bool", .bool _ => true
  | "float", .int _ | "float", .bool _ | "float", .float _ => true
  | "complex", _ => (g.number? other).isSome
  | "set", .set _ | "set", .frozenSet _ | "frozenset", .set _ | "frozenset", .frozenSet _ => true
  | "dict", .dict _ => true
  | "dict_keys", _ | "dict_items", _ => true
  | _, _ => false

/-- Whether a comparison of a class takes an object as its other operand. -/
def compares (g : Guest) (owner : String) (isOrder : Bool) (other : Identity) : Bool :=
  match owner, g.body other with
  | "complex", _ => !isOrder && (g.number? other).isSome
  | "str", .text _ | "list", .list _ | "tuple", .tuple _ | "bytes", .bytes _ | "slice", .slice _ _ _ => true
  | "dict", .dict _ | "range", .range _ _ _ => !isOrder
  | "dict_keys", body | "dict_items", body => (membersOf? g other).isSome || isKeysOrItems body
  | "bytearray", _ => (g.octets? other).isSome
  | "memoryview", _ => !isOrder && (g.octets? other).isSome
  | "builtin_function_or_method", .bound _ _ _ _ | "method-wrapper", .bound _ _ _ _ => !isOrder
  | _, _ => takes g owner other

def compareSlot (target other : Identity) (owner name : String) : GuestM Identity := do
  let g ← get
  match owner, name, comparisonOf? name with
  | "object", "__eq__", _ => if target == other then bool true else notApplicable
  | "object", "__ne__", _ =>
    match ← specially? "__eq__" target [other] with
    | some answer => (← applicable? answer).elim notApplicable fun answer => do bool !(← truth answer)
    | .none =>
      if !compares g (g.family target) false other then if target == other then bool false else notApplicable
      else bool !((← sameData? target other).getD (target == other))
  | "object", _, _ => notApplicable
  | _, _, some c =>
    if compares g owner true other then (← orderData? c target other).elim notApplicable bool else notApplicable
  | _, _, .none =>
    if !compares g owner false other then notApplicable
    else do
      let isEqual := (← sameData? target other).getD (target == other)
      bool (if name = "__eq__" then isEqual else !isEqual)

def operationSlot (target other : Identity) (owner : String) (op : Operation) (turned : Bool) :
    GuestM Identity := do
  if !takes (← get) owner other then notApplicable
  else
    match ← if turned then operateData? op other target else operateData? op target other with
    | some made => return made
    | .none => notApplicable

/-- A power modulo a third number. -/
def powerSlot (target other modulus : Identity) (owner : String) (turned : Bool) : GuestM Identity := do
  let g ← get
  if g.isNone modulus then operationSlot target other owner .power turned
  else match owner, g.number? target, g.number? other, g.number? modulus with
    | "int", some (.int base), some (.int exponent), some (.int modulus) =>
      if turned then modularPower exponent base modulus else modularPower base exponent modulus
    | "float", _, _, _ => typeError "pow() 3rd argument not allowed unless all arguments are integers"
    | "complex", _, _, _ => valueError "complex modulo"
    | _, _, _, _ => notApplicable

def updatedSet (target other : Identity) (method : String) : GuestM Identity := do
  match ← bodyOf target, membersOf? (← get) other with
  | .set table, some _ =>
    discard (setMethod target table method [other])
    return target
  | _, _ => notApplicable

/-- The operators that change their first operand. -/
def changeSlot? (target other : Identity) (name : String) : Option (GuestM Identity) :=
  match name with
  | "__iadd__" => some do
    match ← bodyOf target with
    | .byteArray data =>
      match (← get).octets? other with
      | some more =>
        if !more.isEmpty then refuseViewed target
        setBody target (.byteArray (data ++ more))
      | .none => typeError ("can't concat " ++ (← classLabel other) ++ " to " ++ (← classLabel target))
    | _ => extendList target other
    return target
  | "__imul__" => some do
    discard (wordOf "OverflowError" other)
    let made ← repeatSequence target other
    setBody target (← bodyOf made)
    return target
  | "__isub__" => some (updatedSet target other "difference_update")
  | "__iand__" => some (updatedSet target other "intersection_update")
  | "__ixor__" => some (updatedSet target other "symmetric_difference_update")
  | "__ior__" => some do
    match ← bodyOf target with
    | .dict _ =>
      updateDict target other
      return target
    | _ => updatedSet target other "update"
  | _ => Option.none

/-- Whether a dictionary has an entry that is equal to a pair. -/
def hasEntry (dict pair : Identity) : GuestM Bool := do
  match ← bodyOf pair with
  | .tuple items =>
    match items.toList with
    | [key, value] =>
      match ← find? ((← get).entries dict) key with
      | some found => same found value
      | .none => return false
    | _ => return false
  | _ => return false

/-- Whether an object holds another one. -/
def holds (target item : Identity) : GuestM Bool := do
  let g ← get
  match g.body target with
  | .text t =>
    match g.text? item with
    | some part => return (Pieces.first? part.points t.points).isSome
    | .none => typeError ("'in <string>' requires string as left operand, not " ++ g.classLabel item)
  | .bytes data | .byteArray data =>
    if g.hasIndex item then return data.contains (← byteOf item)
    else
      let part ← octetsOf item
      return (Pieces.first? (part.map UInt8.toNat) (data.map UInt8.toNat)).isSome
  | .range start stop step => rangeHolds target start stop step item
  | .view .keys dict | .proxy dict => return (← find? (g.entries dict) item).isSome
  | .view .items dict => hasEntry dict item
  | .dict entries => return (← find? entries item).isSome
  | .list items | .tuple items => items.toList.anyM fun found => same found item
  | .set table => do
    truth (← setMethod target table "__contains__" [item])
  | .frozenSet table => do
    truth (← frozenSetMethod target table "__contains__" [item])
  | _ =>
    foldItemsUntil target false fun _ found => do
      let isSame ← same found item
      return (isSame, isSame)

def lengthSlot (target : Identity) : GuestM Identity := do
  match (← get).dataLength? target, ← bodyOf target with
  | some n, _ => int n
  | .none, .mappingView _ _ => do int ((← length? target).getD 0)
  | .none, _ => refuseReleased

def numberSlot (target : Identity) (number : Number) (owner name : String) : GuestM Identity := do
  let isOwn := (← isExact target) && !((← bodyOf target) matches .bool _)
  match name, number with
  | "__neg__", _ => negated number
  | "__abs__", _ => magnitude number
  | "__pos__", .int n | "__int__", .int n | "__index__", .int n => if isOwn then return target else int n
  | "__pos__", .float x => float x
  | "__pos__", .complex re im => allocate (.complex re im)
  | "__invert__", .int n => int (-n - 1)
  | "__float__", .int n => do float (← widened n)
  | "__float__", .float x => if isOwn then return target else float x
  | "__int__", .float x => do
    refuseUnbounded x
    int x.truncated
  | "__bool__", _ => do bool (← truthData target)
  | _, _ => typeError ("'" ++ owner ++ "' object has no " ++ name)

/-- The functions behind operators of one operand. -/
def unarySlot? (target : Identity) (owner name : String) : Option (GuestM Identity) :=
  match name with
  | "__repr__" => some do
    text (← if owner = "object" then representPlain target else representData target)
  | "__str__" => some do
    let g ← get
    match owner, g.body target with
    | "str", .text t => if ← isExact target then return target else text t
    | "object", _ => text (← represent target)
    | _, _ => text (← plainData owner target)
  | "__hash__" => some do
    if owner = "object" then int (Hash.signed (Hash.ofIdentity target))
    else int (Hash.signed (← hashOfBody hash target))
  | "__iter__" => some (iteratorOfData target)
  | "__next__" => some do
    match ← nextOfData target with
    | some item => return item
    | .none => raise (.of "StopIteration" "")
  | "__len__" => some (lengthSlot target)
  | "__del__" => some none
  | "__bool__" => some do bool (← truthData target)
  | _ => Option.none

def nameOf (id : Identity) : GuestM Text := do
  match (← get).text? id with
  | some t => return t
  | .none => typeError ("attribute name must be string, not '" ++ (← classLabel id) ++ "'")

/-- Calls a function behind an operator. -/
def slotMethod (target : Identity) (owner name : String) (arguments : List Identity) : GuestM Identity := do
  let first := arguments.headD default
  let g ← get
  match unarySlot? target owner name, g.number? target, operationOf? name with
  | some run, _, _ => run
  | .none, some number, .none =>
    if (comparisonOf? name).isSome || name = "__eq__" || name = "__ne__" then
      compareSlot target first owner name
    else if arguments.isEmpty && name ≠ "__init__" then numberSlot target number owner name
    else general
  | .none, _, some (op, turned) =>
    match g.body target, op with
    | .text t, .remainder =>
      if turned then
        match g.text? first with
        | some other => do text (← interpolated other target)
        | .none => notApplicable
      else do text (← interpolated t first)
    | _, .power => powerSlot target first ((arguments[1]?).getD (← none)) owner turned
    | _, _ =>
      if isRepeatable g target && op = .add then
        match ← join? target first with
        | some made => return made
        | .none => notApplicable
      else if isRepeatable g target && op = .multiply then
        discard (wordOf "OverflowError" first)
        repeatSequence target first
      else operationSlot target first owner op turned
  | .none, _, .none => general
where
  checkChangeable : GuestM Unit := do
    let g ← get
    if owner = "object" && g.isClassObject target then
      typeError ("can't apply this " ++ name ++ " to " ++ g.className target ++ " object")
  general : GuestM Identity := do
    let first := arguments.headD default
    let second := arguments.getD 1 default
    match changeSlot? target first name with
    | some run => run
    | .none =>
      match name with
      | "__eq__" | "__ne__" | "__lt__" | "__le__" | "__gt__" | "__ge__" => compareSlot target first owner name
      | "__getitem__" => subscriptData target first
      | "__setitem__" =>
        setItemData target first second
        none
      | "__delitem__" =>
        deleteItemData target first
        none
      | "__contains__" => do bool (← holds target first)
      | "__call__" => call target arguments
      | "__init__" =>
        startAs owner target arguments
        none
      | "__getattribute__" => do attributeByDefault target (← nameOf first)
      | "__setattr__" =>
        checkChangeable
        setAttributeByDefault target (← nameOf first) second
        none
      | "__delattr__" =>
        checkChangeable
        deleteAttributeByDefault target (← nameOf first)
        none
      | "__get__" =>
        match ← bodyOf target with
        | .member _ _ _ | .function _ _ | .property _ _ _ _ | .place _ _ _ =>
          if (← get).isNone first then return target else bound target first
        | .staticMethod function => return function
        | .classMethod function => do
          allocate (.method function (← if (← get).isNone first then pure second else classOf first))
        | _ => return target
      | "__set__" =>
        match ← bodyOf target with
        | .property _ (some setter) _ _ => do
          discard (call setter [first, second])
          none
        | .property _ .none _ shown => refuseProperty first shown "setter"
        | .place class? own kind =>
          keepIn target first class? own kind second
          none
        | _ => notApplicable
      | "__delete__" =>
        match ← bodyOf target with
        | .property _ _ (some deleter) _ => do
          discard (call deleter [first])
          none
        | .property _ _ .none shown => refuseProperty first shown "deleter"
        | .place class? own kind =>
          keepIn target first class? own kind Option.none
          none
        | _ => notApplicable
      | _ => notApplicable

end ScriptHost.GuestM
