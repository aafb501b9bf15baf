import ScriptHost.Proofs.Evaluator.Confinement
import ScriptHost.Proofs.Evaluator.PathAtStart

/-! The namespace that a script starts in: what the session's names are bound to, the two names that every scope has, the
bindings of the call and what hooks inject, where a later binding of a name takes the place of an earlier one. -/
namespace ScriptHost
open Stepping

namespace Dict

/-- What the keys of a dictionary are bound to, in their order. -/
def bindings (d : Dict) : List (Key × Identity) := d.map fun entry => (entry.form, entry.value)

/-- A key is bound anew in its place, or behind all others. -/
def rebind (form : Key) (value : Identity) : List (Key × Identity) → List (Key × Identity)
  | [] => [(form, value)]
  | (other, old) :: rest =>
    if other = form then (form, value) :: rest else (other, old) :: rebind form value rest

/-- Names are bound one after the other. -/
def rebindAll (pairs : List (String × Identity)) (bound : List (Key × Identity)) : List (Key × Identity) :=
  pairs.foldl (fun bound pair => rebind [.text (.ofString pair.1)] pair.2 bound) bound

theorem bindings_insert (d : Dict) (form : Key) (key value : Identity) :
    (d.insert form key value).bindings = rebind form value d.bindings := by
  induction d with
  | nil => rfl
  | cons entry d ih =>
    unfold bindings at ih ⊢
    rw [insert, List.map_cons, rebind]
    split
    · next hform => rw [List.map_cons, ← hform]
    · rw [List.map_cons, ih]

private theorem lookup_cons_ite (form other : Key) (value : Identity) (bound : List (Key × Identity)) :
    ((form, value) :: bound).lookup other = if other = form then some value else bound.lookup other := by
  rw [List.lookup_cons]
  by_cases h : other = form
  · simp [h]
  · simp [h, beq_eq_false_iff_ne.mpr h]

theorem find?_eq_lookup (d : Dict) (form : Key) : d.find? form = d.bindings.lookup form := by
  induction d with
  | nil => rfl
  | cons entry d ih =>
    have hbindings : bindings (entry :: d) = (entry.form, entry.value) :: bindings d := rfl
    rw [find?_cons, ih, hbindings, lookup_cons_ite]
    exact if_congr eq_comm rfl rfl

theorem lookup_rebind (form other : Key) (value : Identity) (bound : List (Key × Identity)) :
    (rebind form value bound).lookup other = if other = form then some value else bound.lookup other := by
  induction bound with
  | nil => rw [rebind, lookup_cons_ite]
  | cons pair bound ih =>
    obtain ⟨first, old⟩ := pair
    rw [rebind, lookup_cons_ite]
    split
    · next hfirst =>
      rw [lookup_cons_ite, hfirst]
      split <;> rfl
    · next hfirst =>
      rw [lookup_cons_ite, ih]
      split
      · next hother => rw [if_neg fun h => hfirst (hother.symm.trans h)]
      · rfl

/-- Of equal names the last one counts. -/
theorem lookup_rebindAll (pairs : List (String × Identity)) (bound : List (Key × Identity)) (form : Key) :
    (rebindAll pairs bound).lookup form =
      ((pairs.reverse.find? fun pair => form = [.text (.ofString pair.1)]).map (·.2)).or (bound.lookup form) := by
  induction pairs generalizing bound with
  | nil => rfl
  | cons pair pairs ih =>
    rw [rebindAll, List.foldl_cons, ← rebindAll, ih, lookup_rebind, List.reverse_cons, List.find?_append]
    cases pairs.reverse.find? fun pair => form = [.text (.ofString pair.1)] with
    | some last => rfl
    | none => by_cases h : form = [.text (.ofString pair.1)] <;> simp [h]

theorem rebindAll_append (pairs later : List (String × Identity)) (bound : List (Key × Identity)) :
    rebindAll (pairs ++ later) bound = rebindAll later (rebindAll pairs bound) := List.foldl_append

end Dict

/-! ### A namespace that nothing refers to -/

namespace Guest
variable {d n key value : Identity} {bound : List (Key × Identity)} {g g' : Guest}

/-- A dictionary that nothing refers to, with what its keys are bound to. -/
structure HasGlobals (g : Guest) (d : Identity) (bound : List (Key × Identity)) : Prop where
  closed : g.IsClosed (· ≠ d)
  bindings : (g.entries d).bindings = bound

namespace HasGlobals

theorem crosses (h : g.HasGlobals d bound) (hcrosses : g.CrossesWithin (· ≠ d) n g') (hne : n ≠ d) :
    g'.HasGlobals d bound := by
  refine ⟨hcrosses.closed, ?_⟩
  rw [entries, body, hcrosses.object d (fun hd => hd rfl) hne.symm]
  exact h.bindings

theorem kept (h : g.HasGlobals d bound) (hne : n ≠ d) : Within (· ≠ d) (g.entries n) := within_entries h.closed hne

theorem changes (h : g.HasGlobals d bound) (hchanges : g.ChangesWithin (· ≠ d) g') : g'.HasGlobals d bound := by
  refine ⟨hchanges.closed, ?_⟩
  rw [hchanges.entries_eq fun hd => hd rfl]
  exact h.bindings

theorem unreported (h : g.HasGlobals d bound) : g.unreported.HasGlobals d bound := ⟨within_unreported h.closed, h.bindings⟩

theorem reporting (h : g'.HasGlobals d bound) (before : Guest) : (before.reporting g').HasGlobals d bound :=
  ⟨within_reporting before h.closed, h.bindings⟩

theorem lookup_eq (h : g.HasGlobals d bound) (t : Text) : g.lookup d t = bound.lookup [.text t] := by
  rw [lookup, Dict.find?_eq_lookup, h.bindings]

end HasGlobals
end Guest

namespace GuestM
variable {d : Identity} {bound : List (Key × Identity)} {g : Guest}

/-- A name of the dictionary is bound. -/
theorem setName_hasGlobals (h : g.HasGlobals d bound) (t : Text) (value : Identity) : ∃ g',
    atTop (setName d t value) g = .ok ⟨⟩ g' ∧ g'.HasGlobals d (Dict.rebind [.text t] value bound) ∧
      ∀ id, g.Holds id → id ≠ d → g'.body id = g.body id := by
  obtain ⟨key, g₁, hname, hadds, -⟩ := name_run t g.topContext g
  obtain ⟨hchanges, -⟩ := (atTop_spares (spares_name t) h.closed).at_ok hname
  have hnamed := h.changes hchanges
  have hheld := hnamed.closed.outside d fun hd => hd rfl
  refine ⟨g₁.withBody d (.dict ((g₁.entries d).insert [.text t] key value)), by simp [atTop_eq, setName, hname],
    ⟨Guest.closed_withDict hnamed.closed (fun hd => hd rfl) _, ?_⟩, fun id hid hne => ?_⟩
  · rw [Guest.entries_withBody hheld, Dict.bindings_insert, hnamed.bindings]
  · rw [Guest.body, Guest.object_withBody_of_ne g₁ hne, hadds.object_eq hid, Guest.body]

/-- Code that finds the built-in names in its namespace starts with its first statement. -/
theorem runScript_of_bound (h : (g.lookup d (.ofString "__builtins__")).isSome) (code : Script) :
    atTop (runScript d code) g =
      atTop (liftExcept (Reading.handedOver code) >>= executeAll d "<string>") g := by
  have hbound : (g.lookup d (.ofString "__builtins__")).isNone = false := by
    rw [Option.isNone_eq_false_iff]
    exact h
  simp only [atTop_eq, runScript, reader_bind_run, reader_get_run, hbound, Bool.false_eq_true, ↓reduceIte]

end GuestM

namespace Scope
variable {table : ConverterTable} {scope : Scope} {globals : Identity} {pairs : List (String × Value)}
  {given : List (String × Identity)} {bound : List (Key × Identity)} {t t' : Transfer}

/-- What names get while they are bound in a scope: the objects that their values are converted to. -/
inductive Gives (table : ConverterTable) (globals : Identity) :
    List (String × Value) → Transfer → List (String × Identity) → Transfer → Prop
  | nil (t : Transfer) : Gives table globals [] t [] t
  | cons {name : String} {v : Value} {rest : List (String × Value)} {obj : Identity} {given : List (String × Identity)}
    {t t₁ t₂ t' : Transfer}
    (hconvert : Inbound.marshalOrPassthrough table.inbound v { t with active := [], acquired := #[] } = .ok obj t₁)
    (hset : TransferM.guest (GuestM.setName globals (.ofString name) obj) t₁ = .ok ⟨⟩ t₂)
    (h : Gives table globals rest t₂ given t') : Gives table globals ((name, v) :: rest) t ((name, obj) :: given) t'

/-- To bind names never fails. -/
theorem bindAll_gives (table : ConverterTable) (scope : Scope) (pairs : List (String × Value)) (t : Transfer) :
    ∃ given t', Gives table scope.globals pairs t given t' ∧ bindAll table scope pairs t = .ok ⟨⟩ t' := by
  induction pairs generalizing t with
  | nil => exact ⟨[], t, .nil t, rfl⟩
  | cons pair pairs ih =>
    obtain ⟨name, v⟩ := pair
    obtain ⟨obj, t₁, hconvert⟩ : ∃ obj t₁,
        Inbound.marshalOrPassthrough table.inbound v { t with active := [], acquired := #[] } = .ok obj t₁ := by
      unfold Inbound.marshalOrPassthrough Inbound.orPassthrough
      rw [tryCatch_run]
      split
      · exact ⟨_, _, rfl⟩
      · exact ⟨_, _, rfl⟩
    obtain ⟨key, g, -, hname⟩ := GuestM.setName_run scope.globals (.ofString name) obj t₁.guest.topContext t₁.guest
    obtain ⟨t₂, hset⟩ : ∃ t₂, TransferM.guest (GuestM.setName scope.globals (.ofString name) obj) t₁ = .ok ⟨⟩ t₂ :=
      ⟨_, by rw [TransferM.guest_run, GuestM.atTop_eq, hname]⟩
    obtain ⟨given, t', hgives, hrest⟩ := ih t₂
    refine ⟨(name, obj) :: given, t', .cons hconvert hset hgives, ?_⟩
    have hbind : bind table scope name v t = .ok ⟨⟩ t₂ := by
      unfold bind TransferM.anew
      simp only [bind_run, modify_run, hconvert, hset]
    rw [bindAll, bind_run, hbind]
    exact hrest

/-- Each name is bound to the object of its value, and the conversions do not touch the namespace. -/
theorem Gives.hasGlobals (hfair : Inbound.Fair (· ≠ globals) table.inbound) (h : Gives table globals pairs t given t')
    (hne : t.namespaceDict ≠ globals) (hg : t.guest.HasGlobals globals bound) :
    t'.guest.HasGlobals globals (Dict.rebindAll given bound) ∧ t'.namespaceDict = t.namespaceDict := by
  induction h generalizing bound with
  | nil t => exact ⟨hg, rfl⟩
  | @cons name v rest obj given t t₁ t₂ t' hconvert hset h ih =>
    have hwithin : Within (· ≠ globals) { t with active := [], acquired := #[] } := ⟨hg.closed, hg.kept hne⟩
    obtain ⟨hcrosses, -⟩ := (Inbound.spares_marshalOrPassthrough hfair v _ hwithin).at_ok hconvert
    have hconverted : t₁.guest.HasGlobals globals bound := hg.crosses hcrosses.guest hne
    obtain ⟨g, hrun, hnamed, -⟩ := GuestM.setName_hasGlobals hconverted (.ofString name) obj
    rw [TransferM.guest_run, hrun] at hset
    cases hset
    have hsame : t₁.namespaceDict = t.namespaceDict := hcrosses.namespaceDict
    obtain ⟨hrest, hstill⟩ := ih (hsame ▸ hne) hnamed
    exact ⟨hrest, hstill.trans hsame⟩

/-- The names that a scope has when it is made: those of the session, and two of its own. -/
def layers (session : Dict) (builtins main : Identity) : List (Key × Identity) :=
  Dict.rebind [.text (.ofString "__name__")] main
    (Dict.rebind [.text (.ofString "__builtins__")] builtins (Dict.bindings session))

/-- A scope is made of the entries of the session that are not for handles, in which two names are bound. -/
theorem make_hasGlobals (hsound : t.guest.IsSound) (hmake : make t = .ok scope t') : ∃ builtins main g,
    GuestM.atTop (GuestM.hostImport "builtins") (t.guest.adding { body := .dict t.session }) = .ok builtins g ∧
      t'.guest.body main = .text (.ofString "__main__") ∧ ¬ t.guest.Holds scope.globals ∧
      t'.guest.HasGlobals scope.globals (layers t.session builtins main) := by
  obtain ⟨session, hsession⟩ : ∃ session, t.session = session := ⟨_, rfl⟩
  rw [hsession]
  obtain ⟨g, n, counts, active, acquired⟩ := t
  have hfilter : ((g.entries n).filter fun entry => !entry.isHandle g) = session := hsession
  have hclosed : (g.adding { body := .dict session }).IsClosed (· ≠ g.next) := hsound.closed_adding nofun
  have hbody : (g.adding { body := .dict session }).entries g.next = session := by
    rw [Guest.entries, Guest.body, Guest.object_adding]
  have hmade : (g.adding { body := .dict session }).HasGlobals g.next (Dict.bindings session) := ⟨hclosed, by rw [hbody]⟩
  have hallocated : TransferM.guest (GuestM.allocate (.dict session)) ⟨g, n, counts, active, acquired⟩ =
      .ok g.next ⟨g.adding { body := .dict session }, n, counts, active, acquired⟩ := rfl
  have himported := GuestM.atTop_spares (GuestM.spares_hostImport "builtins") hclosed
  unfold make at hmake
  simp only [bind_run, get_run, hfilter, hallocated] at hmake
  rw [TransferM.guest_run] at hmake
  cases himport : GuestM.atTop (GuestM.hostImport "builtins") (g.adding { body := .dict session }) with
  | error f g₁ =>
    rw [himport] at hmake
    cases hmake
  | ok builtins g₁ =>
    have hlayered := hmade.changes (himported.at_ok himport).1
    obtain ⟨g₂, hrun₂, hnamed₂, -⟩ := GuestM.setName_hasGlobals hlayered (.ofString "__builtins__") builtins
    obtain ⟨main, g₃, hrun₃, -, hheld, -, htext⟩ := GuestM.string_run "__main__" g₂.topContext g₂
    have hstring : GuestM.atTop (GuestM.string "__main__") g₂ = .ok main g₃ := hrun₃
    obtain ⟨hchanges, hmain⟩ := (GuestM.atTop_spares (GuestM.spares_string "__main__") hnamed₂.closed).at_ok hstring
    have hnamed₃ := hnamed₂.changes hchanges
    obtain ⟨g₄, hrun₄, hnamed₄, hkept⟩ := GuestM.setName_hasGlobals hnamed₃ (.ofString "__name__") main
    rw [himport] at hmake
    dsimp only at hmake
    rw [TransferM.guest_run] at hmake
    simp only [hrun₂] at hmake
    rw [TransferM.guest_run] at hmake
    simp only [hstring] at hmake
    rw [TransferM.guest_run] at hmake
    simp only [hrun₄] at hmake
    cases hmake
    refine ⟨builtins, main, g₁, rfl, ?_, Nat.lt_irrefl _, hnamed₄⟩
    rw [hkept main hheld ((within_ok main).mp hmain), htext]

end Scope

namespace WorldM
variable {i : Nat} {runtime : Runtime} {table : ConverterTable} {globals : Identity} {values : List Value}
  {hooks : List (Nat × Hook)} {injected : List (String × Identity)} {bound : List (Key × Identity)} {w w' : World}

/-- What names get while hooks are notified of a script: each hook binds what it injects, one hook after the other. -/
inductive Gives (i : Nat) (runtime : Runtime) (table : ConverterTable) (globals : Identity) (values : List Value) :
    List (Nat × Hook) → World → List (String × Identity) → World → Prop
  | nil (w : World) : Gives i runtime table globals values [] w [] w
  | cons {place : Nat} {hook : Hook} {rest : List (Nat × Hook)} {w w' : World} {t : Transfer}
    {given later : List (String × Identity)}
    (hgives : Scope.Gives table globals hook.inject ((notify (.started place values) w).2.crossing i runtime) given t)
    (h : Gives i runtime table globals values rest (carryOut (issue requestDepth) place hook.requests
      ((notify (.started place values) w).2.crossed i t)).2 later w') :
    Gives i runtime table globals values ((place, hook) :: rest) w (given ++ later) w'

theorem notifyStarted_gives (i : Nat) (runtime : Runtime) (table : ConverterTable) (scope : Scope) (values : List Value)
    (hooks : List (Nat × Hook)) (w : World) : ∃ injected, Gives i runtime table scope.globals values hooks w injected
      (notifyStarted (issue requestDepth) i runtime table scope values hooks w).2 := by
  induction hooks generalizing w with
  | nil => exact ⟨[], .nil w⟩
  | cons hook rest ih =>
    obtain ⟨place, hook⟩ := hook
    obtain ⟨given, t, hgives, hbound⟩ := Scope.bindAll_gives table scope hook.inject
      ((notify (.started place values) w).2.crossing i runtime)
    obtain ⟨later, hlater⟩ := ih (carryOut (issue requestDepth) place hook.requests
      ((notify (.started place values) w).2.crossed i t)).2
    refine ⟨given ++ later, ?_⟩
    have hcross : (discard (cross i runtime (Scope.bindAll table scope hook.inject) : WorldM (Except Fault Unit))
        (notify (.started place values) w).2).2 = (notify (.started place values) w).2.crossed i t := by
      show (cross i runtime (Scope.bindAll table scope hook.inject) (notify (.started place values) w).2).2 = _
      rw [cross_run, hbound]
    unfold notifyStarted
    rw [bind_run, bind_run, bind_run, hcross]
    exact .cons hgives hlater

/-- Each name that a hook injects is bound, and the conversions do not touch the namespace. -/
theorem Gives.hasGlobals (hfair : Inbound.Fair (· ≠ globals) table.inbound)
    (h : Gives i runtime table globals values hooks w injected w') (hheld : w.held = true)
    (hne : runtime.namespaceDict ≠ globals) (hg : w.guest.HasGlobals globals bound) :
    w'.guest.HasGlobals globals (Dict.rebindAll injected bound) := by
  induction h generalizing bound with
  | nil w => exact hg
  | @cons place hook rest w w' t given later hgives h ih =>
    have hsilent : (Event.started place values).isOutput = false := rfl
    obtain ⟨hnotified, -⟩ := Spares.notify (P := (· ≠ globals)) (n := runtime.namespaceDict) hsilent w hheld hg.closed
      (hg.kept hne)
    obtain ⟨hbound, -⟩ := hgives.hasGlobals hfair hne (hg.crosses hnotified.guest hne).unreported
    have hcrossed := hbound.reporting (notify (.started place values) w).2.guest
    have hheld' : ((notify (.started place values) w).2.crossed i t).held = true := hheld
    obtain ⟨hcarried, -⟩ := Spares.carryOut (P := (· ≠ globals)) (n := runtime.namespaceDict) requestDepth place
      hook.requests _ hheld' hcrossed.closed (hcrossed.kept hne)
    rw [Dict.rebindAll_append]
    exact ih (hcarried.held.trans hheld') (hcrossed.crosses hcarried.guest hne)

end WorldM

/-! ### The journal is not read -/

/-- A world without its journal. -/
def World.unreported (w : World) : World := { w with guest := w.guest.unreported }

theorem World.unreported_opened (w : World) (i : Nat) (names : List String) (values : List Value) :
    (w.opened i names values).2.unreported = World.unreported { w with held := true } := by
  have hnoted (records : List Record) (g : Guest) : (records.foldl Guest.noted g).unreported = g.unreported := by
    obtain ⟨noted, h⟩ := Guest.foldl_noted records g
    rw [h]
    rfl
  exact congrArg (fun g => ({ w with guest := g, held := true } : World)) (hnoted _ _)

namespace WorldM
variable {α β : Type} {i : Nat} {runtime : Runtime} {w w' : World}

/-- A computation whose answer does not depend on the journal, nor does anything that it changes. -/
def IgnoresJournal (run : WorldM α) : Prop :=
  ∀ w w', w.unreported = w'.unreported → (run w).1 = (run w').1 ∧ (run w).2.unreported = (run w').2.unreported

namespace IgnoresJournal

protected theorem pure (a : α) : IgnoresJournal (Pure.pure a) := fun _ _ h => ⟨rfl, h⟩

protected theorem bind {m : WorldM α} {f : α → WorldM β} (h : m.IgnoresJournal) (hf : ∀ a, (f a).IgnoresJournal) :
    IgnoresJournal (m >>= f) := fun w w' hw => by
  obtain ⟨hanswer, hafter⟩ := h w w' hw
  rw [bind_run, bind_run, ← hanswer]
  exact hf _ _ _ hafter

protected theorem get {f : World → WorldM β} (hf : ∀ w, f w = f w.unreported) (h : ∀ w, (f w).IgnoresJournal) :
    IgnoresJournal (get >>= f) := fun w w' hw => by
  rw [bind_run, bind_run, get_run, get_run]
  dsimp only
  rw [hf w', ← hw, ← hf]
  exact h w w w' hw

protected theorem modify {f : World → World} (hf : ∀ w, (f w).unreported = f w.unreported) :
    IgnoresJournal (modify f : WorldM PUnit) := fun w w' hw =>
  ⟨rfl, (hf w).trans ((congrArg f hw).trans (hf w').symm)⟩

protected theorem record (level : Level) (source : Source) (message : String) :
    IgnoresJournal (record level source message) := fun _ _ h => ⟨rfl, h⟩

protected theorem guest (run : GuestM α) : IgnoresJournal (guest run) := fun w w' hw => by
  have hguest : w.guest.unreported = w'.guest.unreported := congrArg World.guest hw
  rw [guest_run, guest_run, ← hguest]
  cases GuestM.atTop run w.guest.unreported with
  | ok a g => exact ⟨rfl, congrArg (fun w : World => { w with guest := g.unreported }) hw⟩
  | error f g => exact ⟨rfl, congrArg (fun w : World => { w with guest := g.unreported }) hw⟩

theorem crossing_eq (hw : w.unreported = w'.unreported) (i : Nat) (runtime : Runtime) :
    w.crossing i runtime = w'.crossing i runtime := by
  have hcrossing := congrArg (World.crossing · i runtime) hw
  exact hcrossing

theorem crossed_eq (hw : w.unreported = w'.unreported) (i : Nat) (t : Transfer) :
    (w.crossed i t).unreported = (w'.crossed i t).unreported :=
  congrArg (fun w : World => { w with guest := t.guest.unreported, evaluators := keepCounts w.evaluators i t.counts }) hw

protected theorem cross (i : Nat) (runtime : Runtime) (run : TransferM α) : IgnoresJournal (cross i runtime run) :=
  fun w w' hw => by
    rw [cross_run, cross_run, ← crossing_eq hw]
    cases run (w.crossing i runtime) with
    | ok a t => exact ⟨rfl, crossed_eq hw i t⟩
    | error f t => exact ⟨rfl, crossed_eq hw i t⟩

end IgnoresJournal

theorem ignoresJournal_interpreterPath : IgnoresJournal interpreterPath := by
  refine .get (fun _ => rfl) fun w => ?_
  split
  · exact .pure _
  · refine .bind (.guest _) fun answer => ?_
    split
    · exact .pure _
    · exact .bind (.modify fun _ => rfl) fun _ => .pure _

theorem ignoresJournal_ensureStarted (i : Nat) : IgnoresJournal (ensureStarted i) := by
  refine .get (fun _ => rfl) fun w => ?_
  dsimp only
  split
  · exact .pure _
  · refine .bind (.record _ _ _) fun _ => .bind ignoresJournal_interpreterPath fun answer => ?_
    split
    · exact .pure _
    · refine .get (fun _ => rfl) fun w => .bind (.guest _) fun answer => ?_
      split
      · exact .pure _
      · exact .bind (.modify fun _ => rfl) fun _ => .pure _

theorem ignoresJournal_resetPath (e : Evaluator) (runtime : Runtime) : IgnoresJournal (resetPath e runtime) := by
  unfold resetPath
  split
  · exact .guest _
  · exact .pure _

end WorldM
/-- How a call comes to the namespace of its script, from the world in which it puts the search path back: what the scope
is made with, and what the names of the call get. -/
inductive WorldM.Seeds (i : Nat) (runtime : Runtime) (e : Evaluator) (pairs : List (String × Value)) (begun : World)
    (scope : Scope) : List (Key × Identity) → List (String × Identity) → Prop
  | intro {w₁ w₂ : World} {builtins main : Identity} {given : List (String × Identity)} {t : Transfer} {g : Guest}
    (hreset : resetPath e runtime begun = (.ok ⟨⟩, w₁)) (hmake : cross i runtime Scope.make w₁ = (.ok scope, w₂))
    (hbuiltins : GuestM.atTop (GuestM.hostImport "builtins")
      (w₁.guest.unreported.adding { body := .dict (w₁.crossing i runtime).session }) = .ok builtins g)
    (hmain : w₂.guest.body main = .text (.ofString "__main__"))
    (hgives : Scope.Gives e.converters scope.globals pairs (w₂.crossing i runtime) given t) :
    Seeds i runtime e pairs begun scope (Scope.layers (w₁.crossing i runtime).session builtins main) given

namespace World
variable {i : Nat} {w w' : World} {names : List String} {values : List Value} {runtime : Runtime} {stage : Stage}

/-- A call binds its names to its values in order; a leading label is left out with its value. -/
theorem pairs_opened (w : World) (i : Nat) (names : List String) (values : List Value) :
    (w.opened i names values).1.pairs =
      if names.head? = some (w.evaluator i).config.labelBinding then names.tail.zip values.tail else names.zip values := by
  unfold opened Bindings.ofArguments Bindings.takeLabel
  cases names with
  | nil => rfl
  | cons name names =>
    by_cases hlabel : name = (w.evaluator i).config.labelBinding
    · cases values <;> simp [hlabel]
    · simp [hlabel]

/-- The start of an evaluator does not depend on what the call is given. -/
private theorem announced_eq {names' : List String} {values' : List Value} {runtime' : Runtime} {w₀ w₀' : World}
    (hstart : w.announced i names values = (.ok runtime, w₀))
    (hstart' : w.announced i names' values' = (.ok runtime', w₀')) :
    runtime' = runtime ∧ w₀.unreported = w₀'.unreported ∧ w₀'.held = true := by
  have hopened : (w.opened i names values).2.unreported = (w.opened i names' values').2.unreported := by
    rw [unreported_opened, unreported_opened]
  obtain ⟨hanswer, hafter⟩ := WorldM.ignoresJournal_ensureStarted i _ _ hopened
  obtain ⟨-, hheld, -⟩ := WorldM.ensureStarted_keeps (i := i) (w := (w.opened i names' values').2) rfl
  unfold announced at hstart hstart'
  rcases hrun : WorldM.ensureStarted i (w.opened i names values).2 with ⟨answer, w₁⟩
  rcases hrun' : WorldM.ensureStarted i (w.opened i names' values').2 with ⟨answer', w₁'⟩
  rw [hrun, hrun'] at hanswer hafter
  rw [hrun'] at hheld
  simp only [hrun] at hstart
  simp only [hrun'] at hstart'
  cases hstart
  cases hstart'
  exact ⟨(Except.ok.inj hanswer).symm, hafter, hheld⟩

/-- Standard output is redirected without a change to the namespace. -/
private theorem redirect_hasGlobals {bound : List (Key × Identity)} {d : Identity} {e : Evaluator} {w₁ w₂ : World}
    {label : String} (hheld : w₁.held = true) (hg : w₁.guest.HasGlobals d bound)
    (hend : e.config.redirectOutput = false ∧ w₂ = w₁ ∨ e.config.redirectOutput = true ∧ ∃ output,
      WorldM.guest (GuestM.redirectOutput label e.hooks.length) w₁ = (.ok output, w₂)) :
    w₂.held = true ∧ w₂.guest.HasGlobals d bound := by
  rcases hend with ⟨-, rfl⟩ | ⟨-, output, houtput⟩
  · exact ⟨hheld, hg⟩
  · obtain ⟨hcrosses, -⟩ := WorldM.Spares.guest (P := (· ≠ d)) (n := default)
      (GuestM.spares_redirectOutput label e.hooks.length) w₁ hheld hg.closed (hg.kept (Guest.within_default hg.closed))
    rw [houtput] at hcrosses
    exact ⟨hcrosses.held.trans hheld, hg.crosses hcrosses.guest (Guest.within_default hg.closed)⟩

/-- A preparation of the same bindings where only the journal differs makes the same scope, bound to the same objects. -/
private theorem prepared_alike {e : Evaluator} {bindings : Bindings} {w₀ w₀' w₁ w₃ : World} {scope : Scope}
    {t₂ t₃ : Transfer} {bound : List (Key × Identity)} (hreset : WorldM.resetPath e runtime w₀ = (.ok ⟨⟩, w₁))
    (hmake : WorldM.cross i runtime Scope.make w₁ = (.ok scope, w₁.crossed i t₂))
    (hbind : Scope.bindAll e.converters scope bindings.pairs ((w₁.crossed i t₂).crossing i runtime) = .ok ⟨⟩ t₃)
    (hglobals : t₃.guest.HasGlobals scope.globals bound) (hw₀ : w₀.unreported = w₀'.unreported) (hheld : w₀'.held = true)
    (hprepare : WorldM.prepare i runtime e bindings w₀' = (.ok stage, w₃)) :
    stage.scope = { scope with state := .seeded } ∧ w₃.held = true ∧ w₃.guest.HasGlobals scope.globals bound := by
  obtain ⟨w₁', w₂', scope', w₄', hreset', hmake', hbind', hscope', hend'⟩ := WorldM.prepare_ok hprepare
  -- up to standard output, the preparations differ in nothing but the journal
  have hw₁ := (WorldM.ignoresJournal_resetPath e runtime w₀ w₀' hw₀).2
  have hheld₁ := (WorldM.staysInside_resetPath e runtime w₀' hheld).2
  rw [hreset, hreset'] at hw₁
  rw [hreset'] at hheld₁
  obtain ⟨hsame, hw₂⟩ := WorldM.IgnoresJournal.cross i runtime Scope.make w₁ w₁' hw₁
  rw [hmake, hmake'] at hsame hw₂
  obtain rfl : scope = scope' := Except.ok.inj hsame
  obtain ⟨t₂', -, rfl⟩ := WorldM.cross_ok hmake'
  rw [WorldM.cross_run, ← WorldM.IgnoresJournal.crossing_eq hw₂, hbind] at hbind'
  cases hbind'
  have hheld₂ : ((w₁'.crossed i t₂').crossed i t₃).held = true := hheld₁
  exact ⟨hscope', redirect_hasGlobals hheld₂ (hglobals.reporting (w₁'.crossed i t₂').guest) hend'⟩

/-- A call of a started evaluator with one binding gets ready for its script where it can be staged. -/
theorem ready_of_canStage {label name : String} {v : Value} {absent : List String}
    (hstarted : (w.evaluator i).runtime = some runtime)
    (hbindings : Bindings.ofArguments (w.evaluator i).config names values = (⟨label, [(name, v)]⟩, []))
    (hw : w.guest.CanStage runtime (w.evaluator i) name v absent) :
    ∃ stage w', w.ready i names values = (.ok (runtime, stage), w') := by
  obtain ⟨stage, w', -, hbegin, -⟩ := WorldM.begin_of_canStage (w := { w with held := true }) i label rfl hw
  have hstart : WorldM.ensureStarted i { w with held := true } = (.ok runtime, { w with held := true }) :=
    WorldM.ensureStarted_run hstarted
  have hready : w.ready i names values =
      WorldM.getReady i (w.evaluator i) ⟨label, [(name, v)]⟩ { w with held := true } := by
    unfold ready
    simp only [hbindings]
    rfl
  refine ⟨stage, w', ?_⟩
  rw [hready, WorldM.getReady, WorldM.bind_run, hstart]
  dsimp only
  rw [WorldM.bind_run, hbegin]
  rfl

/-- What an evaluator is started with in the smallest interpreter. -/
private def started : Runtime := { namespaceDict := Guest.minimalNamespace, searchPath := [] }

/-- A started evaluator with a hook, in that interpreter. -/
private def hooked : World where
  guest := .minimal
  evaluators := #[{ config := { resetSearchPath := false }, converters := ConverterTable.standard.1
                    hooks := [{ inject := [("y", .bool false)] }], runtime := some started }]

private theorem canStage_hooked : Guest.minimal.CanStage started (hooked.evaluator 0) "x" (.bool true) [] where
  intact := Guest.isIntact_minimal
  output := fun _ => by decide +kernel
  value := Inbound.handsOver_of_delivered (.of_free rfl) (.inl (.of_leaf rfl rfl nofun))
  hooks := fun hook hhook pair hpair => by
    obtain rfl : hook = { inject := [("y", .bool false)] } := List.mem_singleton.mp hhook
    obtain rfl : pair = ("y", .bool false) := List.mem_singleton.mp hpair
    exact ⟨Inbound.takesUp_of_hasFreeKeys (.of_free rfl), by decide, List.not_mem_nil⟩
  session := fun h => absurd rfl h
  names := fun _ h => nomatch h

private theorem ready_hooked : ∃ stage w',
    hooked.ready 0 ["Name", "x"] [.string "run", .bool true] = (.ok (started, stage), w') :=
  ready_of_canStage (w := hooked) rfl rfl canStage_hooked

end World
end ScriptHost
