import ScriptHost.Guest.Entries

/-! Iteration: how it starts on an object and how it goes on from item to item. -/
namespace ScriptHost

/-- The exception at the end of a generator: it must not look like the end of an iteration. -/
def Raise.ending (r : Raise) : Fault :=
  if r.fault.isA "StopIteration" then .of "RuntimeError" "generator raised StopIteration" else r.fault

/-- The most items that a collection may have. -/
def mostItems : Nat := 0x100000000

/-- The name of the class of iterators over a part of a dictionary. -/
def DictPart.iteratorName (part : DictPart) (reverse : Bool) : String :=
  let what := match part with
    | .keys => "keyiterator"
    | .values => "valueiterator"
    | .items => "itemiterator"
  (if reverse then "dict_reverse" else "dict_") ++ what

/-- The name of the class of iterators over a range: its numbers may need more than a word. -/
private def rangeIteratorName (start stop step : Int) : String :=
  let last := if 0 < step then stop + (step - 1) else stop + (step + 1)
  if FitsWord start ∧ FitsWord stop ∧ FitsWord step ∧ FitsWord last ∧
      FitsWord (rangeLength start stop step) then "range_iterator"
  else "longrange_iterator"

namespace Guest

/-- The class of the iterator over the data of an object, and where it starts. -/
def openBody (g : Guest) (id : Identity) : Option (String × Cursor) :=
  match g.body id with
  | .list _ => some ("list_iterator", .places id 0)
  | .tuple _ => some ("tuple_iterator", .places id 0)
  | .text t =>
    let isPlain := g.isExact id && t.points.all (· < 128)
    some (if isPlain then "str_ascii_iterator" else "str_iterator", .points t.points)
  | .bytes data => some ("bytes_iterator", .octets data)
  | .byteArray _ => some ("bytearray_iterator", .places id 0)
  | .memoryView _ _ _ _ => some ("memory_iterator", .places id 0)
  | .dict entries => some ("dict_keyiterator", .entries id .keys 0 entries.length)
  | .view part dict => some (part.iteratorName false, .entries dict part 0 (g.entries dict).length)
  | .proxy dict => some ("dict_keyiterator", .entries dict .keys 0 (g.entries dict).length)
  | .set members | .frozenSet members => some ("set_iterator", .members id 0 members.size)
  | .range start stop step =>
    some (rangeIteratorName start stop step, .progression start step (rangeLength start stop step))
  | .iterator type _ => some (type, .shared id)
  | .stream => some ("StringIO", .shared id)
  | _ => none

/-- The byte at a place of an object that holds or shows some. -/
def octetAt? (g : Guest) (id : Identity) (place : Nat) : Option UInt8 :=
  match g.body id with
  | .bytes data | .byteArray data => data[place]?
  | .memoryView source first step count =>
    if count ≤ place then none else
      match g.body source with
      | .bytes data | .byteArray data => data[(first + (place : Int) * step).toNat]?
      | _ => none
  | _ => none

/-- How many items an iteration has left, as far as it tells. -/
def hint? (g : Guest) : Cursor → Option Nat
  | .places source next =>
    match g.body source with
    | .list items | .tuple items => some (items.size - next)
    | _ => none
  | .progression _ _ left => some left
  | .octets rest => some rest.length
  | .points rest => some rest.length
  | .entries _ _ next size => some (size - next)
  | _ => none

end Guest

namespace GuestM

/-- Refuses to iterate over an object. -/
def notIterable {α : Type} (id : Identity) : GuestM α := do
  typeError ("'" ++ (← classLabel id) ++ "' object is not iterable")

/-- Whether an object is an iterator, as far as its class tells. -/
def isIteratorObject (g : Guest) (id : Identity) : Bool := g.isIterator id || g.has id "__next__"

/-- Where the iteration starts that a class answers with. -/
def answeredCursor (answer : Identity) : GuestM (String × Cursor) := do
  if isIteratorObject (← get) answer then return ("", .shared answer)
  else typeError ("iter() returned non-iterator of type '" ++ (← classLabel answer) ++ "'")

/-- The class of the iterator over the data of an object, and where it starts. -/
def openingOfData (id : Identity) : GuestM (String × Cursor) := do
  let g ← get
  match g.openBody id, g.body id with
  | some found, _ => return found
  | .none, .mappingView part mapping =>
    let answer ← match ← specially? "__iter__" mapping [] with
      | some answer => pure answer
      | .none => do allocate (.iterator "dict_keyiterator" (.entries mapping .keys 0 (g.entries mapping).length))
    return ("generator", .looked answer mapping part)
  | .none, _ => notIterable id

/-- The class of the iterator over an object, and where it starts. -/
def opening (id : Identity) : GuestM (String × Cursor) := do
  let g ← get
  let byPlace : GuestM (String × Cursor) :=
    if g.hasItems id then return ("iterator", .subscripts id 0) else notIterable id
  match (g.home? id).map fun home => g.entryIn home (.ofString "__iter__") with
  | .none | some (some (.own _ _ _)) => openingOfData id
  | some (some (.scripted value)) =>
    if g.isNone value then notIterable id
    match ← callIfGiven? value id [] with
    | some answer => answeredCursor answer
    | .none => byPlace
  | some _ => byPlace

def finished : Cursor := .items [] .none

/-- What the data of a sequence holds at a place, as it is by then. -/
def itemAtPlace (source : Identity) (place : Nat) : GuestM (Option Identity) := do
  let g ← get
  match g.body source with
  | .list items | .tuple items => return items[place]?
  | .text t => (t.points[place]?).mapM fun p => text ⟨[p]⟩
  | .range start _ step => return some (← int (start + place * step))
  | _ => (g.octetAt? source place).mapM fun b => int b.toNat

/-- What an object that is gone through from its end has at a place. -/
def itemFromEnd (source : Identity) (place : Nat) : GuestM (Option Identity) := do
  let g ← get
  match g.special? source "__getitem__", g.body source with
  | .none, _ | _, .list _ => itemAtPlace source place
  | some value, _ => do some <$> callFor value source [← int place]

/-- What a view of a dictionary shows of an entry. -/
def entryPart (part : DictPart) (entry : DictEntry) : GuestM Identity :=
  match part with
  | .keys => return entry.key
  | .values => return entry.value
  | .items => tuple [entry.key, entry.value]

/-- An answer that is nothing if a computation runs into the end of an iteration. -/
def untilStop {α : Type} (run : GuestM (Option α)) : GuestM (Option α) :=
  tryCatch run fun f => if f.isA "StopIteration" then return .none else raise f

/-- An answer that is nothing if a computation runs into the end of an iteration or of a sequence. -/
def untilEnd {α : Type} (run : GuestM (Option α)) : GuestM (Option α) :=
  tryCatch run fun f => if f.isA "StopIteration" || f.isA "IndexError" then return .none else raise f

/-- What a mapping shows under a key. -/
def looked (mapping : Identity) (part : DictPart) (key : Identity) : GuestM Identity := do
  let value : GuestM Identity := do
    match ← specially? "__getitem__" mapping [key] with
    | some value => return value
    | .none => return (← find? ((← get).entries mapping) key).getD key
  match part with
  | .keys => return key
  | .values => value
  | .items => do tuple [key, ← value]

/-- The next item of an iterator's cursor, which stays where the iterator keeps it. -/
def keep (cursor : Cursor) (item : Option Identity) : Option (Identity × Cursor) :=
  item.map fun item => (item, cursor)

/-- One item of each iterator in turn; nothing as soon as one has ended. -/
def oneOfEach (advance : Identity → GuestM (Option Identity)) :
    List Identity → GuestM (Option (List Identity))
  | [] => return some []
  | source :: sources => do
    match ← advance source with
    | .none => return .none
    | some item => return (← oneOfEach advance sources).map (item :: ·)

/-- Looks for an item that passes a test. -/
def firstPassing (advance : GuestM (Option Identity)) (passes : Identity → GuestM Bool) :
    Nat → GuestM (Option Identity)
  | 0 => return .none
  | fuel + 1 => do
    match ← advance with
    | .none => return .none
    | some item => if ← passes item then return some item else firstPassing advance passes fuel

/-- Whether an iteration that has ended stays ended. -/
def closes : Cursor → Bool
  | .numbered _ _ | .together _ | .mapped _ _ | .filtered _ _ => false
  | _ => true

def sizeChanged {α : Type} (what : String) : GuestM α :=
  raise (.of "RuntimeError" (what ++ " changed size during iteration"))

/-- The next item of an iterator, which keeps where the iteration of its data stands. -/
def stepped (iterator : Identity) (type : String) (cursor : Cursor)
    (advance : GuestM (Option (Identity × Cursor))) : GuestM (Option Identity) := do
  let step ← tryCatch advance fun f => do
    if type = "generator" then setBody iterator (.iterator type finished)
    raise f
  match step with
  | .none =>
    if closes cursor then setBody iterator (.iterator type finished)
    return .none
  | some (item, cursor) =>
    setBody iterator (.iterator type cursor)
    return some item

/-- The next item of an iteration and where it stands afterwards, looking through iterators to a
depth. -/
def advanceTo : Nat → Cursor → GuestM (Option (Identity × Cursor))
  | _, .places source next => return keep (.places source (next + 1)) (← itemAtPlace source next)
  | _, .backwards source left => do
    match left with
    | 0 => return .none
    | left + 1 => return keep (.backwards source left) (← untilEnd (itemFromEnd source left))
  | _, .items rest ending =>
    match rest, ending with
    | item :: rest, ending => return some (item, .items rest ending)
    | [], .none => return .none
    | [], some r => raise r.ending
  | _, .octets rest =>
    match rest with
    | [] => return .none
    | b :: rest => return some (← int b.toNat, .octets rest)
  | _, .points rest =>
    match rest with
    | [] => return .none
    | p :: rest => return some (← text ⟨[p]⟩, .points rest)
  | _, .progression next step left =>
    match left with
    | 0 => return .none
    | left + 1 => return some (← int next, .progression (next + step) step left)
  | _, .entries dict part next size => do
    let entries := (← get).entries dict
    if entries.length ≠ size then sizeChanged "dictionary"
    match entries[next]? with
    | some entry => return some (← entryPart part entry, .entries dict part (next + 1) size)
    | .none => return .none
  | _, .entriesBack dict part left size => do
    let entries := (← get).entries dict
    if entries.length ≠ size then sizeChanged "dictionary"
    match left with
    | 0 => return .none
    | left + 1 =>
      match entries[left]? with
      | some entry => return some (← entryPart part entry, .entriesBack dict part left size)
      | .none => return .none
  | _, .members set next size => do
    match ← bodyOf set with
    | .set members | .frozenSet members =>
      if members.size ≠ size then sizeChanged "Set"
      match members.nextFrom? next with
      | some (item, place) => return some (item, .members set (place + 1) size)
      | .none => return .none
    | _ => return .none
  | _, .subscripts source next => do
    let place ← int next
    let found ← untilEnd do
      match (← get).special? source "__getitem__" with
      | some value => some <$> callFor value source [place]
      | .none => return .none
    return keep (.subscripts source (next + 1)) found
  | 0, _ => raise .tooDeep
  | depth + 1, .looked keys mapping part => do
    match ← advanceTo depth (.shared keys) with
    | .none => return .none
    | some (key, _) => return some (← looked mapping part key, .looked keys mapping part)
  | depth + 1, .numbered source next => do
    match ← advanceTo depth (.shared source) with
    | .none => return .none
    | some (item, _) =>
      let number ← int next
      return some (← tuple [number, item], .numbered source (next + 1))
  | depth + 1, .together sources => do
    if sources.isEmpty then return .none
    let next (source : Identity) := return (← advanceTo depth (.shared source)).map (·.1)
    match ← oneOfEach next sources with
    | .none => return .none
    | some items => return some (← tuple items, .together sources)
  | depth + 1, .mapped function sources => do
    let next (source : Identity) := return (← advanceTo depth (.shared source)).map (·.1)
    match ← oneOfEach next sources with
    | .none => return .none
    | some items => untilStop (return some (← call function items, .mapped function sources))
  | depth + 1, .filtered function source => do
    let next : GuestM (Option Identity) := return (← advanceTo depth (.shared source)).map (·.1)
    let passes (item : Identity) : GuestM Bool :=
      match function with
      | some function => do truth (← call function [item])
      | .none => truth item
    return keep (.filtered function source) (← untilStop (firstPassing next passes mostItems))
  | _ + 1, .calls function sentinel => do
    match ← untilStop (some <$> call function []) with
    | .none => return .none
    | some item =>
      if ← same sentinel item then return .none
      else return some (item, .calls function sentinel)
  | depth + 1, .shared iterator => do
    let g ← get
    match g.special? iterator "__next__", g.body iterator with
    | some value, _ => do return keep (.shared iterator) (← untilStop (some <$> callFor value iterator []))
    | .none, .iterator type cursor =>
      return keep (.shared iterator) (← stepped iterator type cursor (advanceTo depth cursor))
    | .none, _ => return .none

/-- The next item of an iteration and where it stands afterwards. -/
def advance (c : Cursor) : GuestM (Option (Identity × Cursor)) := do
  advanceTo (2 * (← get).heap.size + 2) c

/-- The next item of an iterator of the interpreter's own, whatever its class says. -/
def nextOfData (iterator : Identity) : GuestM (Option Identity) := do
  match ← bodyOf iterator with
  | .iterator type cursor => stepped iterator type cursor (advance cursor)
  | _ => return .none

/-- Where iteration over an object starts. -/
def cursor (id : Identity) : GuestM Cursor := return (← opening id).2

/-- Where iteration over an object starts, unless its class is no fit for that. -/
def cursor? (id : Identity) : GuestM (Option Cursor) :=
  tryCatch (some <$> cursor id) fun f => if f.isA "TypeError" then return .none else raise f

/-- Goes through an iteration and combines its items with a state, until a step says it is enough. -/
def foldUntil {σ : Type} (step : σ → Identity → GuestM (σ × Bool)) : Nat → σ → Cursor → GuestM σ
  | 0, state, _ => return state
  | fuel + 1, state, c => do
    match ← advance c with
    | .none => return state
    | some (item, c) =>
      let (state, isEnough) ← step state item
      if isEnough then return state else foldUntil step fuel state c

/-- Combines the items of an object with a state, until a step says it is enough. -/
def foldItemsUntil {σ : Type} (id : Identity) (start : σ) (step : σ → Identity → GuestM (σ × Bool)) :
    GuestM σ := do
  foldUntil step mostItems start (← cursor id)

/-- Combines the items of an object with a state. -/
def foldItems {σ : Type} (id : Identity) (start : σ) (step : σ → Identity → GuestM σ) : GuestM σ :=
  foldItemsUntil id start fun state item => return (← step state item, false)

/-- The items that an iteration over the data of an object starts with, where they all are known. -/
def knownItems? (g : Guest) (id : Identity) : Option (Array Identity) :=
  match g.isExact id, g.body id with
  | true, .list items | true, .tuple items => some items
  | true, .dict entries => some (entries.map (·.key)).toArray
  | true, .set members | true, .frozenSet members => some members.ids.toArray
  | _, _ => .none

/-- The refusal of an integer where a number of items has to fit into a word. -/
def tooLargeForSize : Fault := .of "OverflowError" "Python int too large to convert to C ssize_t"

/-- Refuses to collect more items than a collection may have. -/
def checkHint (c : Cursor) : GuestM Unit := do
  let hint := ((← get).hint? c).getD 0
  if !decide (FitsWord hint) then raise tooLargeForSize
  else if mostItems ≤ hint then raise (.of "MemoryError" "")

/-- The items that an iteration still has, all of them. -/
def itemsFrom (c : Cursor) : GuestM (List Identity) := do
  checkHint c
  return (← foldUntil (fun found item => return (found.push item, false)) mostItems #[] c).toList

/-- The items of an object, all of them. -/
def itemsOf (id : Identity) : GuestM (List Identity) := do
  match knownItems? (← get) id with
  | some items => return items.toList
  | .none => do itemsFrom (← cursor id)

/-- The items of an object, unless its class is no fit for iteration. -/
def itemsOf? (id : Identity) : GuestM (Option (List Identity)) := do
  match knownItems? (← get) id with
  | some items => return some items.toList
  | .none => do (← cursor? id).mapM itemsFrom

def iteratorAt (start : String × Cursor) : GuestM Identity :=
  match start with
  | (_, .shared iterator) => return iterator
  | (type, c) => allocate (.iterator type c)

/-- The iterator of an object: itself if it is one already. -/
def iterator (id : Identity) : GuestM Identity := do iteratorAt (← opening id)

/-- The iterator over the data of an object. -/
def iteratorOfData (id : Identity) : GuestM Identity := do iteratorAt (← openingOfData id)

end GuestM
end ScriptHost
