import Std.Data.ExtTreeMap
import ScriptHost.Handle.Identity

/-! Counts of outstanding handles by identity: no identity has the count zero. -/
namespace ScriptHost

/-- The counts of the identities that have handles. -/
abbrev Counts := Std.ExtTreeMap Identity Nat compare

namespace Counts

/-- The number of outstanding handles of an identity. -/
def count (c : Counts) (id : Identity) : Nat := (c.get? id).getD 0

/-- The number of identities that have handles. -/
def live (c : Counts) : Nat := c.size

/-- One handle more. -/
def acquire (c : Counts) (id : Identity) : Counts := c.insert id (c.count id + 1)

/-- The text of the counts in diagnostics. -/
def inspect (c : Counts) : String :=
  let entries := c.toList.map fun (id, n) => "HandleId(" ++ toString id ++ "): " ++ toString n
  "HandleRegistry \x7b namespace: GlobalNamespace \x7b .. \x7d, counts: Mutex \x7b data: \x7b" ++
    ", ".intercalate entries ++ "\x7d, poisoned: false, .. \x7d \x7d"

end Counts

/-- What giving back a handle did. -/
inductive Release where
  /-- Other handles remain, so many of them. -/
  | decremented (left : Nat)
  /-- It was the last handle of its object. -/
  | destroyed
  /-- No handle of this identity is outstanding. -/
  | unknown
  deriving DecidableEq, Repr

/-- One handle less, and what that did. -/
def Counts.release (c : Counts) (id : Identity) : Release × Counts :=
  match c.get? id with
  | none => (.unknown, c)
  | some n =>
    if 1 < n then (.decremented (n - 1), c.insert id (n - 1)) else (.destroyed, c.erase id)

end ScriptHost
