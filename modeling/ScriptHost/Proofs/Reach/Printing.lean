import ScriptHost.Guest.Fields
import ScriptHost.Guest.Printing
import ScriptHost.Proofs.Reach.Attributes

/-! Formatting and printing stay within what a computation was given. -/
namespace ScriptHost
open GuestM (Spares)

variable {P : Identity → Prop} {α β : Type} [Refers α] [Refers β] {file id output value : Identity}
  {ending id? : Option Identity} {values : List Identity}

instance : Refers GuestM.FieldSource := ⟨fun P source => Within P source.positional ∧ Within P source.named⟩

@[simp, grind =] theorem within_fieldSource (source : GuestM.FieldSource) :
    Within P source ↔ Within P source.positional ∧ Within P source.named := .rfl

instance : Inert GuestM.Numbering := ⟨⟩

instance : Inert GuestM.FieldStep := ⟨⟩

namespace GuestM

@[grind ←] theorem spares_formattedData (spec : Text) (hid : P id) : Spares P (formattedData id spec) := by
  unfold formattedData
  repeat' first | with_reducible refine .bind ?_ fun _ _ => ?_ | with_reducible refine .either ?_ ?_ | split
  all_goals grind

@[grind ←] theorem spares_formatted (spec : Text) (hid : P id) : Spares P (formatted id spec) := by
  unfold formatted
  repeat' first | with_reducible refine .bind ?_ fun _ _ => ?_ | with_reducible refine .either ?_ ?_ | split
  all_goals grind

@[grind ←] theorem spares_itemKey (key : List Nat) : Spares P (itemKey key) := by
  unfold itemKey
  repeat' first | with_reducible refine .bind ?_ fun _ _ => ?_ | with_reducible refine .either ?_ ?_ | split
  all_goals grind

@[grind ←] theorem spares_fieldObject {source : FieldSource} (numbering : Numbering) (points : List Nat)
    (hs : Within P source) : Spares P (fieldObject source numbering points) := by
  unfold fieldObject
  extract_lets first rest positional
  have hpositional : ∀ place numbering, Spares P (positional place numbering) := fun place numbering => by
    simp only [positional]
    repeat' first | with_reducible refine .bind ?_ fun _ _ => ?_ | with_reducible refine .either ?_ ?_ | dsimp only | split
    all_goals grind
  clear_value first rest positional
  cases numbering
  all_goals repeat' first | with_reducible refine .bind ?_ fun _ _ => ?_ | with_reducible refine .either ?_ ?_ | dsimp only | split
  all_goals grind

@[grind ←] theorem spares_converted (conversion : Option Nat) (hid : P id) : Spares P (converted conversion id) := by
  unfold converted
  repeat' first | with_reducible refine .bind ?_ fun _ _ => ?_ | with_reducible refine .either ?_ ?_ | split
  all_goals grind

@[grind ←] theorem spares_fill {source : FieldSource} (fuel depth : Nat) (numbering : Numbering) (points : List Nat)
    (hs : Within P source) : Spares P (fill source fuel depth numbering points) := by
  fun_induction fill source fuel depth numbering points
  all_goals repeat' first | with_reducible refine .bind ?_ fun _ _ => ?_ | with_reducible refine .either ?_ ?_ | dsimp only | split
  all_goals grind

@[grind ←] theorem spares_fillFields {source : FieldSource} (t : Text) (hs : Within P source) : Spares P (fillFields source t) := by
  unfold fillFields
  repeat' first | with_reducible refine .bind ?_ fun _ _ => ?_ | with_reducible refine .either ?_ ?_ | split
  all_goals grind

@[grind ←] theorem spares_strike (made : LineWriter) (listeners : Nat) (stroke : LineWriter.Stroke) :
    Spares P (strike output made listeners stroke) := fun context g _ hg => by
  obtain ⟨g', hrun, hprints, hnotices, hsame⟩ := strike_tells output made listeners stroke context g
  refine .of_ok hrun ⟨Guest.changesWithin_of_same hg ?_ ?_ ?_ ?_ ?_ ?_ hprints hnotices, by simp⟩ <;> rw [hsame]

@[grind ←] theorem spares_writeLines (text : List Char) (houtput : P output) : Spares P (writeLines output text) := by
  unfold writeLines
  repeat' first | with_reducible refine .bind ?_ fun _ _ => ?_ | with_reducible refine .either ?_ ?_ | split
  all_goals grind

@[grind ←] theorem spares_flushLines (houtput : P output) : Spares P (flushLines output) := by
  unfold flushLines
  repeat' first | with_reducible refine .bind ?_ fun _ _ => ?_ | with_reducible refine .either ?_ ?_ | split
  all_goals grind

@[grind ←] theorem spares_writeTo (houtput : P output) : Spares P (writeTo output value) := by
  unfold writeTo
  refine .bind .get fun g hg => ?_
  split
  · grind
  · grind
  · refine .bind (.modify fun _ hg => ?_) fun _ _ => spares_int _
    exact Guest.changesWithin_of_same hg rfl rfl rfl rfl rfl rfl (.of_same (Nat.le_refl _) rfl rfl rfl) rfl
  · grind

@[grind ←] theorem spares_writeForm (hfile : P file) (hvalue : P value) : Spares P (writeForm file value) := by
  unfold writeForm
  repeat' first | with_reducible refine .bind ?_ fun _ _ => ?_ | with_reducible refine .either ?_ ?_ | split
  all_goals grind

@[grind ←] theorem spares_delimiter? (name : String) (hid : Within P id?) : Spares P (delimiter? name id?) := by
  unfold delimiter?
  repeat' first | with_reducible refine .bind ?_ fun _ _ => ?_ | with_reducible refine .either ?_ ?_ | split
  all_goals grind

@[grind ←] theorem spares_print (hvalues : Within P values) (hending : Within P ending) :
    Spares P (print values ending) := by
  unfold print
  repeat' first | with_reducible refine .bind ?_ fun _ _ => ?_ | with_reducible refine .either ?_ ?_ | dsimp only | split
  all_goals grind

end GuestM

end ScriptHost
