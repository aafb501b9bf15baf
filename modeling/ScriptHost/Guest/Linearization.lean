import ScriptHost.Handle.Identity

/-! The order in which a class and those that it extends are asked for attributes: the orders of the
classes that it extends directly are merged, so that each of them is kept. -/
namespace ScriptHost.Linearization

/-- The first of the leading classes that comes behind none in any order. -/
def next? (orders : List (List Identity)) : Option Identity :=
  (orders.filterMap List.head?).find? fun class? => !orders.any fun order => (order.drop 1).contains class?

def without (class? : Identity) (orders : List (List Identity)) : List (List Identity) :=
  (orders.map fun order => if order.head? == some class? then order.drop 1 else order).filter (!·.isEmpty)

def mergeWithin : Nat → List (List Identity) → Except (List Identity) (List Identity)
  | 0, _ => .ok []
  | fuel + 1, orders =>
    match orders.filterMap List.head?, next? orders with
    | [], _ => .ok []
    | _, some class? => (mergeWithin fuel (without class? orders)).map (class? :: ·)
    | leading, none => .error leading.eraseDups

/-- The one order that keeps several orders, or the classes that stand in the way of each other. -/
def merge (orders : List (List Identity)) : Except (List Identity) (List Identity) :=
  mergeWithin (orders.flatten.length + 1) (orders.filter (!·.isEmpty))

end ScriptHost.Linearization
