import ScriptHost.Convert.Recognition
import ScriptHost.Proofs.Guest.Later

/-! Attributes where no code of a script decides about them: an object has what was set on it and what its
class holds, and to look that up makes no more than a function bound to the object. -/
namespace ScriptHost

theorem Text.toString?_ofString (s : String) : (Text.ofString s).toString? = some s := by
  have hpoints : (s.toList.map Char.toNat).map Char.ofNat = s.toList := by
    simp [Function.comp_def, Char.ofNat_toNat]
  have hnone : (s.toList.map Char.toNat).any isSurrogate = false := by
    rw [List.any_eq_false]
    intro p hp
    obtain ⟨c, _, rfl⟩ := List.mem_map.mp hp
    have hvalid := c.valid
    simp only [isSurrogate, Bool.and_eq_true, decide_eq_true_eq, not_and, not_lt]
    intro hlow
    change c.toNat < 0xd800 ∨ _ at hvalid
    rcases hvalid with h | h
    · omega
    · exact h.1
  rw [toString?, ofString, hnone]
  simp [hpoints]

theorem Text.encode_ofString (s : String) : (ofString s).encode = .ok s := by
  rw [encode, toString?_ofString]

namespace Guest

/-- Whether objects are given what their class holds as it is, or bound to them as a function. -/
def isPlainValue (g : Guest) (value : Identity) : Bool :=
  match g.body value with
  | .property _ _ _ _ | .place _ _ _ | .member _ _ _ => false
  | _ => (g.special? value "__get__").isNone && (g.special? value "__set__").isNone &&
      (g.special? value "__delete__").isNone

/-- What is found under a name in a class is nothing, or a value that objects are given plainly. -/
def IsPlainEntry (g : Guest) : Option ClassEntry → Prop
  | none => True
  | some (.scripted value) => g.isPlainValue value = true
  | some _ => False

/-- Whether no function of a script decides about the attributes of an object. -/
def isHookFree (g : Guest) (id : Identity) : Bool :=
  (g.special? id "__getattribute__").isNone && (g.special? id "__getattr__").isNone

end Guest

namespace GuestM
open Stepping
variable {g : Guest} {id value home : Identity} {name : String}

/-- A name that no object has an attribute under as a matter of course. -/
def IsUncommon (name : String) : Prop := name ∉ ["__dict__", "__new__", "__doc__", "__weakref__", "__module__"]

instance : DecidablePred IsUncommon := fun name =>
  inferInstanceAs (Decidable (name ∉ ["__dict__", "__new__", "__doc__", "__weakref__", "__module__"]))

private theorem classOf_run (hhome : g.home? id = some home) (context : Context) :
    classOf id context g = .ok home g := by
  simp [classOf, hhome]

/-- A plain value is given out without an exception. -/
private theorem bindFor_run (hvalue : g.isPlainValue value = true) (hhome : g.home? id = some home)
    (context : Context) : ∃ found g', bindFor value id context g = .ok found g' ∧ g.Adds g' := by
  unfold bindFor bindFunction
  unfold Guest.isPlainValue at hvalue
  simp only [reader_bind_run, reader_get_run]
  cases hb : g.body value with
  | property | place | member => simp [hb] at hvalue
  | function _ _ =>
    simp only [hb, Bool.and_eq_true, Option.isNone_iff_eq_none] at hvalue
    simp only [hvalue.1.1, reader_bind_run, reader_get_run, hb, allocate_run]
    exact ⟨_, _, rfl, .push g _⟩
  | classMethod _ =>
    simp only [hb, Bool.and_eq_true, Option.isNone_iff_eq_none] at hvalue
    simp only [hvalue.1.1, reader_bind_run, reader_get_run, hb, classOf_run hhome, allocate_run]
    exact ⟨_, _, rfl, .push g _⟩
  | _ =>
    simp only [hb, Bool.and_eq_true, Option.isNone_iff_eq_none] at hvalue
    simp only [hvalue.1.1, reader_bind_run, reader_get_run, hb]
    exact ⟨_, g, rfl, .refl g⟩

private theorem not_comesFirst (hvalue : g.isPlainValue value = true) : comesFirst g value = false := by
  unfold Guest.isPlainValue at hvalue
  unfold comesFirst
  cases hb : g.body value with
  | property | place | member => simp [hb] at hvalue
  | _ =>
    simp only [hb, Bool.and_eq_true, Option.isNone_iff_eq_none] at hvalue
    simp [hvalue]

private theorem bound_run (hvalue : g.isPlainValue value = true) (hhome : g.home? id = some home)
    (context : Context) : ∃ found g', bound value id context g = .ok found g' ∧ g.Adds g' := by
  obtain ⟨found, g', hrun, hadds⟩ := bindFor_run hvalue hhome context
  refine ⟨found, g', ?_, hadds⟩
  unfold bound
  unfold Guest.isPlainValue at hvalue
  simp only [reader_bind_run, reader_get_run]
  cases hb : g.body value with
  | property | place | member => simp [hb] at hvalue
  | _ => exact hrun

/-- An attribute is looked up as by default where there are no hooks, and missing ones are no more than that. -/
private theorem attribute?_run (hfree : g.isHookFree id = true) (t : Text) (context : Context) :
    attribute? id t context g = match attributeByDefault id t context g with
      | .ok found g => .ok (some found) g
      | .error f g => if f.isA "AttributeError" then .ok Option.none g else .error f g := by
  simp only [Guest.isHookFree, Bool.and_eq_true, Option.isNone_iff_eq_none] at hfree
  unfold attribute? attributeNamed
  simp only [reader_tryCatch_run, reader_map_run, reader_bind_run, reader_get_run, hfree.1, hfree.2]
  cases hrun : attributeByDefault id t context g with
  | ok found g' => rfl
  | error f g' =>
    dsimp only
    split <;> rfl

private theorem missingAttribute_run (id : Identity) (t : Text) (context : Context) (g : Guest) :
    ∃ f : Fault, f.isA "AttributeError" = true ∧
      (missingAttribute id t : GuestM Identity) context g = .error f g := by
  have hfamily : Builtin.descends "AttributeError" "AttributeError" = true := by decide
  exact ⟨⟨"AttributeError", "AttributeError", _, []⟩, hfamily, rfl⟩

private theorem key_eq (name : String) : ((Text.ofString name).toString?).getD "" = name := by
  rw [Text.toString?_ofString, Option.getD_some]

/-- An object of a script's class has what was set on it and what the class holds. -/
theorem attribute?_of_instance (hname : IsUncommon name) (hhome : g.home? id = some home)
    (hsettled : Guest.isSettled (g.body id) = true) (hobject : g.isClassObject id = false)
    (hfree : g.isHookFree id = true) (hentry : g.IsPlainEntry (g.entryIn home (.ofString name)))
    (context : Context) : ∃ found g', attribute? id (.ofString name) context g = .ok found g' ∧ g.Adds g' ∧
      found.isSome = ((g.ownAttribute? id (.ofString name)).isSome ||
        (g.entryIn home (.ofString name)).isSome) := by
  rw [attribute?_run hfree]
  have hdefault : attributeByDefault id (.ofString name) context g =
      objectAttribute id (.ofString name) context g := by
    unfold attributeByDefault
    simp only [reader_bind_run, reader_get_run, hobject, Bool.false_eq_true, ↓reduceIte]
    cases hb : g.body id with
    | module | ancestral => simp [hb, Guest.isSettled] at hsettled
    | _ => rfl
  rw [hdefault]
  unfold objectAttribute
  simp only [reader_bind_run, reader_get_run, key_eq, Guest.entryOf, hhome]
  cases he : g.entryIn home (.ofString name) with
  | some entry =>
    rw [he] at hentry
    obtain ⟨value, rfl⟩ : ∃ value, entry = .scripted value := by
      cases entry with
      | scripted value => exact ⟨value, rfl⟩
      | own | nothing => exact hentry.elim
    simp only [not_comesFirst hentry]
    cases ho : g.ownAttribute? id (.ofString name) with
    | some found => exact ⟨some found, g, rfl, .refl g, rfl⟩
    | none =>
      obtain ⟨found, g', hrun, hadds⟩ := bound_run hentry hhome context
      exact ⟨some found, g', by simp only [entryFor, hrun], hadds, rfl⟩
  | none =>
    cases ho : g.ownAttribute? id (.ofString name) with
    | some found => exact ⟨some found, g, rfl, .refl g, rfl⟩
    | none =>
      obtain ⟨f, hf, hmissing⟩ := missingAttribute_run id (.ofString name) context g
      simp only [IsUncommon, List.mem_cons, List.not_mem_nil, or_false, not_or] at hname
      refine ⟨Option.none, g, ?_, .refl g, rfl⟩
      cases hb : g.body id with
      | module | ancestral | method | staticMethod | classMethod => simp [hb, Guest.isSettled] at hsettled
      | _ => simp [hname, hmissing, hf]

/-- A class that holds nothing under a name, nor any class that it extends, has what its own class holds. -/
theorem attribute?_of_class {made : ScriptClass} {maker : Identity} (hname : IsUncommon name)
    (hbody : g.body id = .classObject made) (hhome : g.home? id = some maker)
    (hfree : g.isHookFree id = true) (hnone : g.entryIn id (.ofString name) = Option.none)
    (hentry : g.IsPlainEntry (g.entryIn maker (.ofString name))) (context : Context) :
    ∃ found g', attribute? id (.ofString name) context g = .ok found g' ∧ g.Adds g' ∧
      found.isSome = (g.entryIn maker (.ofString name)).isSome := by
  rw [attribute?_run hfree]
  have hdefault : attributeByDefault id (.ofString name) context g =
      classAttribute id (.ofString name) context g := by
    unfold attributeByDefault
    simp only [reader_bind_run, reader_get_run, Guest.isClassObject, hbody, ↓reduceIte]
  rw [hdefault]
  unfold classAttribute
  simp only [reader_bind_run, reader_get_run, key_eq, Guest.entryOf, hhome, hnone]
  cases he : g.entryIn maker (.ofString name) with
  | some entry =>
    rw [he] at hentry
    obtain ⟨value, rfl⟩ : ∃ value, entry = .scripted value := by
      cases entry with
      | scripted value => exact ⟨value, rfl⟩
      | own | nothing => exact hentry.elim
    obtain ⟨found, g', hrun, hadds⟩ := bound_run hentry hhome context
    simp only [not_comesFirst hentry, Bool.false_eq_true, ↓reduceIte, reader_bind_run, reader_pure_run,
      entryFor, hrun]
    exact ⟨some found, g', rfl, hadds, rfl⟩
  | none =>
    obtain ⟨f, hf, hmissing⟩ := missingAttribute_run id (.ofString name) context g
    simp only [IsUncommon, List.mem_cons, List.not_mem_nil, or_false, not_or] at hname
    refine ⟨Option.none, g, ?_, .refl g, rfl⟩
    simp [hname, hmissing, hf]

end GuestM
end ScriptHost
