import ScriptHost.Guest.Comparison

/-! Collections that find their items by keys: dictionaries and the tables of sets, with keys whose
classes decide what they are equal to. -/
namespace ScriptHost.GuestM

/-- Whether a class has a say in what a key with this form is equal to. -/
def isSpecial (form : Key) : Bool := form.any KeyPart.isSpecial

/-- The hash that a collection keeps of a key. -/
def keptHash (form : Key) (id : Identity) : GuestM UInt64 :=
  match form with
  | [.special known _] => return known
  | _ => hash id

/-- The form of the first key that has a hash and is equal to an object. -/
def equalForm? (wanted : UInt64) (id : Identity) : List (Key × Identity) → GuestM (Option Key)
  | [] => return .none
  | (form, key) :: rest => do
    if (← keptHash form key) == wanted then
      if ← same key id then return some form
    equalForm? wanted id rest

/-- The form under which a collection of keys holds an object, or would hold it. -/
def formAmong (held : List (Key × Identity)) (id : Identity) : GuestM Key := do
  let form ← keyForm id
  if !isSpecial form && !held.any (isSpecial ·.1) then return form
  else return (← equalForm? (← keptHash form id) id held).getD form

/-- The form under which a dictionary holds a key, or would hold it. -/
def formIn (entries : Dict) (key : Identity) : GuestM Key :=
  formAmong (entries.map fun entry => (entry.form, entry.key)) key

/-- What a dictionary holds under a key. -/
def find? (entries : Dict) (key : Identity) : GuestM (Option Identity) := do
  return entries.find? (← formIn entries key)

/-- Sets the value of a key. -/
def inserted (entries : Dict) (key value : Identity) : GuestM Dict := do
  return entries.insert (← formIn entries key) key value

/-- Sets an entry of a dictionary object. -/
def setEntry (dict key value : Identity) : GuestM Unit := do
  let form ← formIn ((← get).entries dict) key
  modify fun g => g.withBody dict (.dict ((g.entries dict).insert form key value))

/-- Makes a dictionary of entries, where a later value wins and the first key stays. -/
def dict (entries : List (Identity × Identity)) : GuestM Identity := do
  let mut found : Dict := []
  for (key, value) in entries do
    found ← inserted found key value
  allocate (.dict found)

/-- The form under which a set holds an object, or would hold it. -/
def formOfMember (table : MemberTable) (item : Identity) : GuestM Key := formAmong table.toList item

/-- Adds a member to the table of a set. -/
def addMember (table : MemberTable) (item : Identity) : GuestM MemberTable := do
  let form ← formOfMember table item
  return table.insert (← hash item) form item

/-- Makes the members of a set, where the first of equal objects stays. -/
def members (items : List Identity) : GuestM MemberTable := items.foldlM addMember .empty

end ScriptHost.GuestM
