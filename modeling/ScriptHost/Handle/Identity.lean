/-! Identities of interpreter objects: numbers that tell objects apart, and the
namespace keys under which handles keep their objects alive. -/
namespace ScriptHost

/-- The identity of an interpreter object, by its place in the heap. -/
structure Identity where
  index : Nat
  deriving DecidableEq, Hashable, Repr, Inhabited

namespace Identity

instance : Ord Identity := ⟨fun a b => compare a.index b.index⟩

instance : Std.TransOrd Identity where
  eq_swap := Std.OrientedOrd.eq_swap (α := Nat)
  isLE_trans := Std.TransOrd.isLE_trans (α := Nat)

instance : Std.LawfulEqOrd Identity where
  eq_of_compare {a b} h := by
    cases a; cases b; exact congrArg _ (Std.LawfulEqOrd.eq_of_compare (α := Nat) h)

/-- The number that stands for the identity in texts. -/
def number (id : Identity) : Nat := 140000000000000 + 16 * id.index

instance : ToString Identity := ⟨fun id => toString id.number⟩

/-- What the namespace keys of handles begin with. -/
def keyMark : String := "__pyhost_handle_"

/-- The namespace key that keeps an object alive for its handles. -/
def namespaceKey (id : Identity) : String := keyMark ++ toString id.number ++ "__"

end Identity
end ScriptHost
