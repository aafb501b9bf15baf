import ScriptHost.Guest.Calls
import ScriptHost.Proofs.Reach.Functions

/-! Calls of everything that is no function of a script stay within what a computation was given. -/
namespace ScriptHost
open GuestM (Spares)

variable {P : Identity → Prop} {α β : Type} [Refers α] [Refers β] {class? function id made target : Identity}
  {arguments : List Identity} {g : Guest}

instance : Inert Arity := ⟨⟩

instance : Inert MemberKind := ⟨⟩

namespace GuestM

@[grind ←] theorem spares_checkArity (arity : Arity) (fullName : String) (name : String) (given : Nat) :
    Spares P (checkArity arity fullName name given) := by
  unfold checkArity
  repeat' first | with_reducible refine .bind ?_ fun _ _ => ?_ | with_reducible refine .either ?_ ?_ | split
  all_goals grind

@[grind ←] theorem spares_start (hmade : P made) (harguments : Within P arguments) :
    Spares P (start made arguments) := by
  unfold start
  repeat' first | with_reducible refine .bind ?_ fun _ _ => ?_ | with_reducible refine .either ?_ ?_ | split
  all_goals grind

@[grind ←] theorem spares_newScripted (hclass : P class?) (harguments : Within P arguments) :
    Spares P (newScripted class? arguments) := by
  unfold newScripted
  repeat' first | with_reducible refine .bind ?_ fun _ _ => ?_ | with_reducible refine .either ?_ ?_ | split
  all_goals grind

@[grind ←] theorem spares_instantiate (hclass : P class?) (harguments : Within P arguments) :
    Spares P (instantiate class? arguments) := by
  unfold instantiate
  repeat' first | with_reducible refine .bind ?_ fun _ _ => ?_ | with_reducible refine .either ?_ ?_ | split
  all_goals grind

@[grind ←] theorem spares_callOwnClass (name : String) (harguments : Within P arguments) :
    Spares P (callOwnClass name arguments) := by
  unfold callOwnClass
  refine .either (spares_makeException name harguments) (.bind (spares_checkArity _ _ _ _) fun _ _ => ?_)
  refine .bind (spares_construct name harguments) fun made hmade => .either ?_ (.pure hmade)
  exact .bind (spares_start hmade harguments) fun _ _ => .pure hmade

@[grind ←] theorem spares_callClass (hclass : P class?) (harguments : Within P arguments) :
    Spares P (callClass class? arguments) := by
  unfold callClass
  refine .bind (spares_bodyOf hclass) fun body _ => ?_
  split
  · exact spares_callOwnClass _ harguments
  · exact spares_instantiate hclass harguments

@[grind ←] theorem spares_newObject (family : String) (harguments : Within P arguments) :
    Spares P (newObject family arguments) := by
  unfold newObject
  repeat' first | with_reducible refine .bind ?_ fun _ _ => ?_ | with_reducible refine .either ?_ ?_ | split
  all_goals grind

@[grind ←] theorem spares_systemFunction (name : String) (harguments : Within P arguments) :
    Spares P (systemFunction name arguments) := by
  unfold systemFunction
  repeat' first | with_reducible refine .bind ?_ fun _ _ => ?_ | with_reducible refine .either ?_ ?_ | split
  all_goals grind

@[grind ←] theorem spares_callBuiltin (name : String) (harguments : Within P arguments) :
    Spares P (callBuiltin name arguments) := by
  unfold callBuiltin
  refine .either (spares_callOwnClass name harguments) ?_
  split
  · exact .bind (spares_checkArity _ _ _ _) fun _ _ => spares_callMathematics _ harguments
  · exact spares_systemFunction _ harguments
  · exact spares_newObject _ harguments
  · exact .bind (spares_checkArity _ _ _ _) fun _ _ => spares_callFunction _ harguments

@[grind ←] theorem spares_callMemberAs (title : String) (owner : String) (name : String) (kind : MemberKind)
    (htarget : P target) (harguments : Within P arguments) :
    Spares P (callMemberAs title target owner name kind arguments) := by
  unfold callMemberAs
  repeat' first | with_reducible refine .bind ?_ fun _ _ => ?_ | with_reducible refine .either ?_ ?_ | split
  all_goals grind

@[grind ←] theorem spares_callBound (owner : String) (name : String) (kind : MemberKind) (htarget : P target)
    (harguments : Within P arguments) :
    Spares P (callBound target owner name kind arguments) :=
  .bind .get fun _ _ => spares_callMemberAs _ _ _ _ htarget harguments

@[grind ←] theorem spares_callMember (owner : String) (name : String) (kind : MemberKind)
    (harguments : Within P arguments) :
    Spares P (callMember owner name kind arguments) := by
  unfold callMember
  repeat' first | with_reducible refine .bind ?_ fun _ _ => ?_ | with_reducible refine .either ?_ ?_ | split
  all_goals grind

@[grind ←] theorem spares_callGeneric (hid : P id) (harguments : Within P arguments) :
    Spares P (callGeneric id arguments) := by
  unfold callGeneric
  repeat' first | with_reducible refine .bind ?_ fun _ _ => ?_ | with_reducible refine .either ?_ ?_ | split
  all_goals grind

@[grind ←] theorem spares_callObject (hid : P id) (harguments : Within P arguments) :
    Spares P (callObject id arguments) := by
  unfold callObject
  repeat' first | with_reducible refine .bind ?_ fun _ _ => ?_ | with_reducible refine .either ?_ ?_ | split
  all_goals grind

@[grind ←] theorem spares_callAttribute (htarget : P target) (hfunction : P function)
    (harguments : Within P arguments) :
    Spares P (callAttribute target function arguments) := by
  unfold callAttribute
  repeat' first | with_reducible refine .bind ?_ fun _ _ => ?_ | with_reducible refine .either ?_ ?_ | split
  all_goals grind

end GuestM

end ScriptHost
