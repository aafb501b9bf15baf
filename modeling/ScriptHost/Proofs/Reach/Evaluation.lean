import ScriptHost.Script.Evaluation
import ScriptHost.Proofs.Reach.Calls

/-! The evaluation of expressions stays within what a computation was given. -/
namespace ScriptHost
open GuestM (Spares)

variable {P : Identity → Prop} {α β : Type} [Refers α] [Refers β] {argument globals id own self : Identity}
  {initial value : Option Identity} {items : Option (List Identity)} {arguments : List Identity} {run : GuestM α}
  {does : Feature} {home : Place} {f : Function}

instance : Inert Raise := ⟨⟩

instance : Inert ClassShape := ⟨⟩

instance : Inert BinaryOperator := ⟨⟩

instance : Inert Expr := ⟨⟩

instance : Inert Frame := ⟨⟩

instance : Refers GuestM.ClassParts :=
  ⟨fun P parts => Within P parts.index ∧ Within P parts.items ∧ Within P parts.iteration ∧ Within P parts.mapping⟩

@[simp, grind =] theorem within_classParts (parts : GuestM.ClassParts) :
    Within P parts ↔
      Within P parts.index ∧ Within P parts.items ∧ Within P parts.iteration ∧ Within P parts.mapping := .rfl

namespace GuestM

@[grind ←] theorem spares_builtinsOf (hglobals : P globals) : Spares P (builtinsOf globals) := by
  unfold builtinsOf
  repeat' first | with_reducible refine .bind ?_ fun _ _ => ?_ | with_reducible refine .either ?_ ?_ | split
  all_goals grind

@[grind ←] theorem spares_definitionPlace : Spares P (definitionPlace) := by
  unfold definitionPlace
  repeat' first | with_reducible refine .bind ?_ fun _ _ => ?_ | with_reducible refine .either ?_ ?_ | split
  all_goals grind

@[grind ←] theorem spares_builtinNamed? (name : String) : Spares P (builtinNamed? name) := by
  unfold builtinNamed?
  repeat' first | with_reducible refine .bind ?_ fun _ _ => ?_ | with_reducible refine .either ?_ ?_ | split
  all_goals grind

@[grind ←] theorem spares_lookupName (name : String) : Spares P (lookupName name) := by
  unfold lookupName
  repeat' first | with_reducible refine .bind ?_ fun _ _ => ?_ | with_reducible refine .either ?_ ?_ | split
  all_goals grind

@[grind ←] theorem spares_lookupDotted (dotted : String) : Spares P (lookupDotted dotted) := by
  unfold lookupDotted
  repeat' first | with_reducible refine .bind ?_ fun _ _ => ?_ | with_reducible refine .either ?_ ?_ | split
  all_goals grind

@[grind ←] theorem spares_systemModule : Spares P (systemModule) := by
  unfold systemModule
  repeat' first | with_reducible refine .bind ?_ fun _ _ => ?_ | with_reducible refine .either ?_ ?_ | split
  all_goals grind

@[grind ←] theorem spares_sortedNames : Spares P (sortedNames) := by
  unfold sortedNames
  repeat' first | with_reducible refine .bind ?_ fun _ _ => ?_ | with_reducible refine .either ?_ ?_ | split
  all_goals grind

@[grind ←] theorem spares_dropHandles (dictionary : String) : Spares P (dropHandles dictionary) := by
  unfold dropHandles
  repeat' first | with_reducible refine .bind ?_ fun _ _ => ?_ | with_reducible refine .either ?_ ?_ | split
  all_goals grind

@[grind ←] theorem spares_countdown (count : Nat) : Spares P (countdown count) := by
  unfold countdown
  repeat' first | with_reducible refine .bind ?_ fun _ _ => ?_ | with_reducible refine .either ?_ ?_ | split
  all_goals grind

@[grind ←] theorem spares_nest (x1 : Nat) (hid : P id) : Spares P (nest id x1) := by
  induction x1 with
  | zero => exact .pure hid
  | succ depth ih => exact .bind ih fun _ h => spares_list (by simpa using h)

@[grind ←] theorem within_replying (exception : Option Raise) (hvalue : Within P value) :
    Within P (replying value exception) := by
  unfold replying
  refine (within_optionOr _ _).mpr ⟨?_, fun _ => ?_⟩
  · cases exception <;> simp
  · exact within_optionMap hvalue fun id hid => hid

grind_pattern within_replying => Within P value, replying value exception

@[grind ←] theorem spares_iterationOf (shape : ClassShape) (hitems : Within P items) :
    Spares P (iterationOf shape items) := by
  unfold iterationOf
  repeat' first | with_reducible refine .bind ?_ fun _ _ => ?_ | with_reducible refine .either ?_ ?_ | split
  all_goals first | grind | exact .pure (by simpa using ‹_›)

/-- Functions that are given a name. -/
private theorem within_named {does : Option Feature} (name : String) (count : Nat) (hdoes : Within P does) :
    Within P (does.toList.map fun does => (name, count, does)) :=
  within_map (within_optionToList hdoes) fun _ h => ⟨within_nowhere name, within_nowhere count, h⟩

@[grind ←] theorem spares_featuresOf {parts : ClassParts} (shape : ClassShape) (hparts : Within P parts) :
    Spares P (featuresOf shape parts) := by
  unfold featuresOf
  refine .bind (spares_string _) fun tag htag => .bind (spares_iterationOf shape hparts.2.2.1) fun found hfound => ?_
  have hentries : Within P (parts.mapping.getD []) := within_optionGetD hparts.2.2.2 (by simp)
  have hmissing : Within P ((shape.attributeRaise.map fun r => Feature.reply (.raises r)).or
      (if shape.skip = some .dynamic then some .mark else .none)) := by
    cases shape.attributeRaise <;> simp
    split <;> simp
  have hstr := within_named "__str__" 0 (within_replying shape.textRaise ((within_some tag).mpr htag))
  have hindex := within_named "__index__" 0 (within_replying shape.indexRaise hparts.1)
  have hitems := within_named "items" 0 (within_replying shape.itemsRaise hparts.2.1)
  refine .ite (fun _ => .bind (spares_list (within_optionGetD hparts.2.2.1 (by simp))) fun listed hlisted =>
    .bind (.pure (by simpa using hlisted)) fun byIndex hbyIndex => ?_) fun _ => .bind (.pure (by simp)) fun byIndex hbyIndex => ?_
  all_goals
    refine .ite (fun _ => .bind (spares_bool _) fun yes hyes => .bind (spares_int _) fun seven hseven =>
      .bind (.pure (by simpa using ⟨hyes, hseven⟩)) fun equality hequality => .pure ?_)
      fun _ => .bind (.pure (by simp)) fun equality hequality => .pure ?_
    all_goals
      simp only [within_append]
      refine ⟨⟨⟨⟨⟨⟨⟨⟨hstr, ?_⟩, within_named _ _ hmissing⟩, hindex⟩, ?_⟩, within_named _ _ hfound⟩, hbyIndex⟩, hitems⟩,
        hequality⟩
      · simpa using htag
      · split <;> simp [hentries]

@[grind ←] theorem spares_setMarks (shape : ClassShape) (hown : P own) : Spares P (setMarks own shape) := by
  unfold setMarks
  repeat' first | with_reducible refine .bind ?_ fun _ _ => ?_ | with_reducible refine .either ?_ ?_ | split
  all_goals grind

/-- A function of a class that is made. -/
private theorem spares_define (name : String) (arguments : Nat) (hdoes : Within P does) :
    Spares P (do allocate (.function (.feature name arguments does) (← definitionPlace))) :=
  .bind spares_definitionPlace fun place hplace => spares_allocate (by simpa using ⟨hdoes, hplace⟩) (by simp)

@[grind ←] theorem spares_makeObject {parts : ClassParts} (shape : ClassShape) (hinitial : Within P initial) (hparts : Within P parts) :
    Spares P (makeObject shape initial parts) := by
  unfold makeObject
  refine .bind (spares_allocate (by simp) (by simp)) fun own hown => .bind (spares_featuresOf shape hparts) fun features hfeatures => ?_
  refine .bind (.forIn hfeatures trivial fun feature _ hfeature _ => ?_) fun _ _ => ?_
  · exact .bind (spares_define _ _ hfeature.2.2) fun made hmade => .bind (spares_setName _ hown hmade) fun _ _ => .pure trivial
  repeat' first | with_reducible refine .bind ?_ fun _ _ => ?_ | with_reducible refine .either ?_ ?_ | split
  all_goals grind

@[grind ←] theorem spares_applyBinary {x1 : Identity} {x2 : Identity} (x0 : BinaryOperator) (hx1 : P x1)
    (hx2 : P x2) :
    Spares P (applyBinary x0 x1 x2) := by
  unfold applyBinary
  repeat' first | with_reducible refine .bind ?_ fun _ _ => ?_ | with_reducible refine .either ?_ ?_ | split
  all_goals grind

@[grind ←] theorem spares_shared (hid : P id) : Spares P (shared id) := by
  unfold shared
  repeat' first | with_reducible refine .bind ?_ fun _ _ => ?_ | with_reducible refine .either ?_ ?_ | split
  all_goals grind

theorem spares_evaluations :
    (∀ e, Spares P (evaluate e)) ∧ (∀ entries, Spares P (evaluateOptionalEntries entries)) ∧
      (∀ entries, Spares P (evaluateEntries entries)) ∧ (∀ entry, Spares P (evaluateEntry entry)) ∧
      (∀ items, Spares P (evaluateOptionalItems items)) ∧ (∀ items, Spares P (evaluateItems items)) ∧
      ∀ e, Spares P (evaluateOptional e) := by
  apply evaluate.mutual_induct
  all_goals intros
  all_goals simp only [evaluate, evaluateItems, evaluateEntries, evaluateEntry, evaluateOptional, evaluateOptionalItems,
    evaluateOptionalEntries]
  all_goals repeat' first | with_reducible refine .bind ?_ fun _ _ => ?_ | with_reducible refine .either ?_ ?_ | split
  all_goals grind

@[grind ←] theorem spares_evaluate (e : Expr) : Spares P (evaluate e) := spares_evaluations.1 e

@[grind ←] theorem spares_evaluateItems (items : List Expr) : Spares P (evaluateItems items) :=
  spares_evaluations.2.2.2.2.2.1 items

@[grind ←] theorem spares_raiseCall {arguments : GuestM (List Identity)} (type : String)
    (harguments : Spares P arguments) :
    Spares P (raiseCall type arguments : GuestM α) := by
  unfold raiseCall
  repeat' first | with_reducible refine .bind ?_ fun _ _ => ?_ | with_reducible refine .either ?_ ?_ | split
  all_goals grind

@[grind ←] theorem spares_inFrame (frame : Frame) (hrun : Spares P run) : Spares P (inFrame frame run : GuestM α) := by
  unfold inFrame
  grind

@[grind ←] theorem spares_tooMany (name : String) (takes : Nat) (given : Nat) :
    Spares P (tooMany name takes given : GuestM α) := by
  unfold tooMany
  repeat' first | with_reducible refine .bind ?_ fun _ _ => ?_ | with_reducible refine .either ?_ ?_ | split
  all_goals grind

@[grind ←] theorem spares_reply {x0 : Reply} (hx0 : Within P x0) : Spares P (reply x0) := by
  unfold reply
  repeat' first | with_reducible refine .bind ?_ fun _ _ => ?_ | with_reducible refine .either ?_ ?_ | split
  all_goals grind

@[grind ←] theorem spares_answer (hdoes : Within P does) (hself : P self) (hargument : P argument) :
    Spares P (answer does self argument) := by
  unfold answer
  repeat' first | with_reducible refine .bind ?_ fun _ _ => ?_ | with_reducible refine .either ?_ ?_ | split
  all_goals first | grind | exact spares_allocate (by simpa using hself) (by simp)

@[grind ←] theorem spares_runFunction_inside {run : GuestM Identity} (name : String) (hhome : Within P home)
    (hrun : Spares P run) :
    Spares P (runFunction.inside home name run) := by
  unfold runFunction.inside
  grind

@[grind ←] theorem spares_runFunction {x3 : Function} (title : String) (hhome : Within P home)
    (harguments : Within P arguments) (hx3 : Within P x3) :
    Spares P (runFunction title home arguments x3) := by
  refine .of_default fun hdefault => ?_
  induction x3 with
  | renamed _ _ f ih => exact ih hx3
  | increment =>
    simp only [runFunction]
    repeat' first | with_reducible refine .bind ?_ fun _ _ => ?_ | with_reducible refine .either ?_ ?_ | split
    all_goals grind
  | raising =>
    simp only [runFunction]
    repeat' first | with_reducible refine .bind ?_ fun _ _ => ?_ | with_reducible refine .either ?_ ?_ | split
    all_goals grind
  | feature =>
    simp only [runFunction]
    repeat' first | with_reducible refine .bind ?_ fun _ _ => ?_ | with_reducible refine .either ?_ ?_ | split
    all_goals grind

@[grind ←] theorem spares_callScripted (hf : Within P f) (hhome : Within P home) (harguments : Within P arguments) :
    Spares P (callScripted f home arguments) := by
  unfold callScripted
  grind

end GuestM

end ScriptHost
