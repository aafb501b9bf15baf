import ScriptHost.Proofs.Convert.Conservation
import ScriptHost.Proofs.Convert.Return
import ScriptHost.Proofs.Evaluator.Answer
import ScriptHost.Proofs.Value.Extraction

/-! The handles of a call: an evaluation counts those of its answer and no others, and so does one whose answer is taken
as a type. An answer that cannot be taken is dropped as it is, and its handles stay counted. -/
namespace ScriptHost
open Stepping

/-! ### The registry between calls -/

/-- Of some objects, exactly the counted ones have an entry in the namespace, which is the object itself. -/
def Transfer.Parks (t : Transfer) (kept : Identity → Prop) : Prop :=
  ∀ id, kept id → t.guest.Holds t.namespaceDict ∧
    t.guest.lookup t.namespaceDict id.entryName = if t.counts.count id = 0 then none else some id

namespace World
variable {w w' : World} {i : Nat} {kept : Identity → Prop} {held : List Identity} {t : Transfer}

/-- The session of an evaluator has such a namespace, if it is started. -/
def Parks (w : World) (i : Nat) (kept : Identity → Prop) : Prop :=
  ∀ runtime, (w.evaluator i).runtime = some runtime → (w.crossing i runtime).Parks kept

theorem Parks.proceeds (h : w.Parks i kept) (hsame : w'.evaluators = w.evaluators)
    (hproceeds : w.guest.Proceeds (fun _ => False) w'.guest) : w'.Parks i kept := by
  have hevaluator : w'.evaluator i = w.evaluator i := by rw [evaluator, hsame, evaluator]
  intro runtime hruntime id hk
  rw [hevaluator] at hruntime
  obtain ⟨hholds, hentry⟩ := h runtime hruntime id hk
  refine ⟨hproceeds.holds hholds, ?_⟩
  have hcounts : (w'.crossing i runtime).counts = (w.crossing i runtime).counts := by
    rw [crossing, hevaluator, crossing]
  rw [hcounts]
  exact (hproceeds.lookup_eq hholds not_false _).trans hentry

theorem parks_of_entries (hcounts : (w.evaluator i).counts = t.counts) (hentries : w.EntriesOf i t)
    (ht : t.Parks kept) : w.Parks i kept := by
  intro runtime hruntime id hk
  obtain ⟨hholds, hentry⟩ := ht id hk
  obtain ⟨hnamespace, hholds', hsame⟩ := hentries runtime hruntime hholds
  rw [← hcounts] at hentry
  unfold crossing
  rw [hnamespace]
  exact ⟨hholds', (hsame id).trans hentry⟩

/-- An evaluator counts some handles more than before, its entries follow its counts, and other evaluators are as they
were. -/
structure Gains (w : World) (i : Nat) (kept : Identity → Prop) (held : List Identity) (w' : World) : Prop where
  count : ∀ id, (w'.evaluator i).refCount id = (w.evaluator i).refCount id + held.count id
  parks : w'.Parks i kept
  others : ∀ j, j ≠ i → w'.evaluator j = w.evaluator j

theorem Gains.perm {held' : List Identity} (h : w.Gains i kept held w') (hperm : held.Perm held') :
    w.Gains i kept held' w' :=
  ⟨fun id => by rw [h.count, hperm.count_eq], h.parks, h.others⟩

theorem gains_of_settled {counts : Counts} (h : w.Settled i counts w') (hparks : w'.Parks i kept)
    (hcount : ∀ id, counts.count id = (w.evaluator i).counts.count id + held.count id) : w.Gains i kept held w' where
  count id := by rw [Evaluator.refCount_eq, h.counts, hcount, ← Evaluator.refCount_eq]
  parks := hparks
  others := h.others

end World

/-! ### Reading back -/

/-- An object leads to nothing but objects of a graph that the converters keep to, where the registry is sound and keeps
the entries of some objects. What they make of the objects carries the handles that they acquire, which none of the
wrappers in the graph does. -/
structure Outbound.ReadsWithin (converters : List OutboundConverter) (kept : Identity → Prop) (t : Transfer)
    (obj : Identity) (G : ObjectGraph t.namespaceDict) : Prop where
  admits : G.Admits converters
  tallied : IsTallied G (fun held v => held = v.handles ∧ v.Built) converters
  sound : t.Sound G.toCustody
  object : G.object t.guest obj
  kept : ∀ id, kept id → G.kept id.entryName

/-- What is read of a name carries the handles that are counted for it, whether or not the name is set. -/
theorem Scope.get_gains {table : ConverterTable} {scope : Scope} {name : String} {t : Transfer}
    {kept : Identity → Prop} (ht : t.Parks kept)
    (hreads : ∀ obj, t.guest.lookup scope.globals (.ofString name) = some obj →
      ∃ G, Outbound.ReadsWithin table.outbound kept t obj G) :
    ∃ found t', get table scope name t = .ok found t' ∧ t'.namespaceDict = t.namespaceDict ∧ t'.Parks kept ∧
      (found.getD .null).Built ∧
      ∀ id, t'.counts.count id = t.counts.count id + (found.getD .null).handles.count id := by
  cases hlookup : t.guest.lookup scope.globals (.ofString name) with
  | none => exact ⟨none, t, get_of_unbound hlookup, rfl, ht, .leaf rfl, fun _ => rfl⟩
  | some obj =>
    obtain ⟨G, hadmits, htallied, hsound, hobject, hkept⟩ := hreads obj hlookup
    obtain ⟨v, t', hrun, held, hgains, rfl, hbuilt⟩ := Outbound.orHandle_settles
      (t := { t with active := [], acquired := #[] }) htallied.tally (Outbound.marshal_settles htallied hadmits) hobject
      (hsound.withLog [] #[])
    have hnamespace : t'.namespaceDict = t.namespaceDict := hgains.sound.namespaceDict
    refine ⟨some v, t', get_of_bound hlookup hrun, hnamespace, fun id hk => ?_, hbuilt, hgains.count⟩
    rw [hnamespace]
    exact ⟨G.holds hgains.sound.state (hkept id hk), hgains.sound.entry id (hkept id hk)⟩

/-! ### Calls -/

/-- A call of one of the evaluators of a world that leaves entries to the registry: it finds those of some objects in
order, and so they are wherever it stops short or its script ends. What the script leaves is read within a graph, and
hooks read nothing. -/
structure World.KeepsEntries (w : World) (i : Nat) (code : Script) (names : List String) (values : List Value)
    (kept : Identity → Prop) : Prop where
  mem : i < w.evaluators.size
  unread : ∀ hook ∈ (w.evaluator i).hooks, hook.read = []
  before : w.Parks i kept
  prevented : ∀ f w', w.ready i names values = (.error f, w') → w'.Parks i kept
  raised : ∀ scope f t, w.scriptRun i code names values = .ok (scope, .error f t) → t.Parks kept
  left : ∀ scope t, w.scriptRun i code names values = .ok (scope, .ok ⟨⟩ t) → t.Parks kept ∧
    ∀ obj, t.guest.lookup scope.globals (.ofString (w.evaluator i).config.outputBinding) = some obj →
      ∃ G, Outbound.ReadsWithin (w.evaluator i).converters.outbound kept t obj G

namespace WorldM
variable {w : World} {i : Nat} {code : Script} {names : List String} {values : List Value} {kept : Identity → Prop}

/-- An evaluation counts the handles of its answer, and none if it fails. -/
theorem evaluate_gains (h : w.KeepsEntries i code names values kept) : ∃ held,
    w.Gains i kept held (evaluate i code names values w).2 ∧
      (∀ err, (evaluate i code names values w).1 = .error err → held = []) ∧
      ∀ v, (evaluate i code names values w).1 = .ok v → held = v.handles ∧ v.Built := by
  have hnothing (id : Identity) : (w.evaluator i).counts.count id =
      (w.evaluator i).counts.count id + List.count id [] := rfl
  cases hopen : w.held with
  | true =>
    obtain ⟨w', hevaluate, hsame, hproceeds⟩ := evaluate_of_locked i code names values hopen
    rw [hevaluate]
    have hsettled := (World.Settled.refl w i).then_same hsame
    exact ⟨[], World.gains_of_settled hsettled (h.before.proceeds hsame hproceeds) hnothing, fun _ _ => rfl, nofun⟩
  | false =>
    rcases hran : w.scriptRun i code names values with f | ⟨scope, ⟨⟨⟩, t⟩ | ⟨f, t⟩⟩
    · obtain ⟨w₁, w', hready, hevaluate, hsettled, hsame, hproceeds⟩ := evaluate_of_prevented hopen hran
      rw [hevaluate]
      have hparks := (h.prevented f w₁ hready).proceeds hsame hproceeds
      refine ⟨[], World.gains_of_settled hsettled hparks hnothing, nofun, ?_⟩
      rintro v ⟨⟩
      exact ⟨rfl, .leaf rfl⟩
    · obtain ⟨hparks, hreads⟩ := h.left scope t hran
      obtain ⟨found, t', hget, hnamespace, hparks', hbuilt, hcount⟩ := Scope.get_gains hparks hreads
      obtain ⟨w', hevaluate, hends⟩ := evaluate_of_finished hopen hran hget
      obtain ⟨hcounts, hends⟩ := hends h.mem h.unread
      obtain ⟨hsettled, hentries⟩ := hends hnamespace
      rw [hevaluate]
      rw [hcounts] at hcount
      have hparked := World.parks_of_entries hsettled.counts hentries hparks'
      refine ⟨_, World.gains_of_settled hsettled hparked hcount, nofun, ?_⟩
      rintro v ⟨⟩
      exact ⟨rfl, hbuilt⟩
    · obtain ⟨w', hevaluate, hends⟩ := evaluate_of_raised hopen hran
      obtain ⟨hcounts, hsettled, hentries⟩ := hends h.mem h.unread
      rw [hevaluate]
      have hparked := World.parks_of_entries hsettled.counts hentries (h.raised scope f t hran)
      exact ⟨[], World.gains_of_settled hsettled hparked (hcounts ▸ hnothing), fun _ _ => rfl, nofun⟩

theorem evaluateAs_run (target : Target) (w : World) : evaluateAs target i code names values w =
    (match (evaluate i code names values w).1 with
      | .error err => .error err
      | .ok v => (target.extract v).mapError .conversion, (evaluate i code names values w).2) := by
  unfold evaluateAs
  rw [bind_run]
  cases (evaluate i code names values w).1 with
  | error err => rfl
  | ok v => cases hextract : target.extract v <;> simp only [hextract] <;> rfl

/-- A typed evaluation counts the handles of its result. If the evaluation itself fails it counts none, but an answer
that cannot be taken as the type is dropped with its handles counted: nobody gives them back. -/
theorem evaluateAs_leaves_untaken (target : Target) (h : w.KeepsEntries i code names values kept) :
    (∀ x, (evaluateAs target i code names values w).1 = .ok x →
      w.Gains i kept (target.handles x) (evaluateAs target i code names values w).2) ∧
    ∀ err, (evaluateAs target i code names values w).1 = .error err →
      ((evaluate i code names values w).1 = .error err ∧
        w.Gains i kept [] (evaluateAs target i code names values w).2) ∨
      ∃ v source, (evaluate i code names values w).1 = .ok v ∧ target.extract v = .error source ∧
        err = .conversion source ∧ w.Gains i kept v.handles (evaluateAs target i code names values w).2 := by
  obtain ⟨held, hgains, hfailed, hanswered⟩ := evaluate_gains h
  rw [evaluateAs_run]
  cases hanswer : (evaluate i code names values w).1 with
  | error err =>
    obtain rfl := hfailed err hanswer
    refine ⟨nofun, ?_⟩
    rintro _ ⟨⟩
    exact .inl ⟨rfl, hgains⟩
  | ok v =>
    obtain ⟨rfl, hbuilt⟩ := hanswered v hanswer
    dsimp only
    cases hextract : target.extract v with
    | ok x =>
      rw [Except.mapError]
      refine ⟨?_, nofun⟩
      rintro _ ⟨⟩
      exact hgains.perm (target.extract_handles hbuilt hextract).symm
    | error source =>
      rw [Except.mapError]
      refine ⟨nofun, ?_⟩
      rintro _ ⟨⟩
      exact .inr ⟨v, source, rfl, hextract, rfl, hgains⟩

end WorldM

/-! ### An evaluation whose answer cannot be taken -/

namespace Guest
variable {n id : Identity} {g g' : Guest}

/-- An untouched object that tells a value without handles. -/
private def TellsFree (n : Identity) (g : Guest) (id : Identity) : Prop :=
  g.IsUntouched (· = n) id ∧ ∃ v, (g.body id).Tells v ∧ v.handles = [] ∧ v.Built

private theorem TellsFree.proceeds (h : TellsFree n g id) (hg : g.Proceeds (· = n) g') : TellsFree n g' id :=
  ⟨h.1.proceeds hg, by rw [h.1.body_eq hg]; exact h.2⟩

private theorem TellsFree.chosen?_cases (h : TellsFree n g id) : Outbound.chosen? g id = some .integer ∨
    Outbound.chosen? g id = some .wrapped ∨ Outbound.chosen? g id = none ∧ ∃ v, g.scalar? id = some (.ok v) := by
  obtain ⟨huntouched, v, htells, _⟩ := h
  rcases huntouched.chosen?_of_tells htells with ⟨hchosen, _⟩ | ⟨hchosen, _⟩ | ⟨hchosen, hscalar⟩
  · exact .inl hchosen
  · exact .inr (.inl hchosen)
  · exact .inr (.inr ⟨hchosen, v, hscalar⟩)

private theorem TellsFree.of_wrapped {v : Value} (h : TellsFree n g id) (hv : g.wrapped? id = some v) :
    [] = v.handles ∧ v.Built := by
  obtain ⟨_, w, htells, hhandles, hbuilt⟩ := h
  rw [wrapped?] at hv
  generalize g.body id = body at htells hv
  cases htells with
  | wrapper =>
    cases hv
    exact ⟨hhandles.symm, hbuilt⟩
  | _ => cases hv

private theorem calm_of_same {α : Type} {K : Custody n} {run : GuestM α} {answer : Guest → α → Prop} {a : α}
    (hrun : GuestM.atTop run g = .ok a g) (ha : answer g a) : K.Calm g run answer :=
  .of_ok hrun ⟨K.refl g, fun _ _ => rfl, fun _ h => Except.ok.inj h ▸ ha⟩

/-- Such objects as a graph, in which no step leads from one to another. -/
private def freeGraph (n : Identity) : ObjectGraph n where
  state g := g.Holds n
  later g g' := g.Proceeds (· = n) g'
  kept _ := True
  refl g := .refl g
  trans h h' := h.trans h'
  state_later h hlater := hlater.holds h
  holds h _ := h
  noted r _ := proceeds_noted _ r
  parked id h := by
    obtain ⟨key, g', hadds, hparked⟩ := parked_eq _ n id
    rw [hparked]
    exact hadds.proceeds.trans (proceeds_withBody (hadds.holds h) _)
  dropped id h := by
    rw [dropped_eq]
    exact proceeds_withBody h _
  object := TellsFree n
  entry _ _ := False
  iteration _ _ := False
  object_later hlater h := h.proceeds hlater
  entry_later _ h := h
  mark _ h := by
    obtain ⟨huntouched, v, htells, _⟩ := h
    exact calm_of_same (huntouched.askForMark_run (isSettled_of_tells htells)) trivial
  mappingItems _ h hchosen _ := by
    rcases h.chosen?_cases with hother | hother | ⟨hother, _⟩ <;> rw [hother] at hchosen <;> cases hchosen
  pair _ h := h.elim
  cursor _ h hchosen _ := by
    rcases h.chosen?_cases with hother | hother | ⟨hother, _⟩ <;> rw [hother] at hchosen <;> cases hchosen
  advance _ h _ := h.elim
  unwrap _ h hchosen hlater := by
    have hbody := h.1.body_eq hlater
    rcases h.chosen?_cases with hother | hother | ⟨_, v, hscalar⟩
    · cases hother.symm.trans hchosen
    · cases hother.symm.trans hchosen
    · rw [scalar?, ← hbody, ← scalar?] at hscalar
      exact calm_of_same (by rw [GuestM.atTop_eq, GuestM.unwrap_of_scalar hscalar]) fun _ h => by cases h

end Guest

namespace WorldM

private theorem readsWithin_refused {t : Transfer} {obj : Identity} (ht : t.Parks fun _ => True)
    (hpositive : t.counts.Positive) (hobj : Guest.TellsFree t.namespaceDict t.guest obj) :
    Outbound.ReadsWithin (Outbound.refuser.insert Outbound.standard) (fun _ => True) t obj
      (Guest.freeGraph t.namespaceDict) where
  admits := (ObjectGraph.admits_standard _).insert rfl fun _ g' _ _ _ _ _ => .fail g' _
  tallied := by
    refine (Outbound.standard_tallied (tally_handles.and tally_built) fun _ hid hv => ?_).insert rfl ?_
    · exact Guest.TellsFree.of_wrapped hid hv
    · exact fun _ _ _ _ _ h _ => .of_error rfl (.of_error (.refl h.sound))
  sound := ⟨rfl, (ht obj trivial).1, hpositive, fun id _ => (ht id trivial).2⟩
  object := hobj
  kept _ _ := trivial

private theorem keepsEntries_refused {scope : Scope} {t : Transfer} {obj : Identity}
    (hleft : refused.left? 0 (.source "OUT = x") ["x"] [.bool true] = some (scope, t))
    (hstages : t.guest.Stages scope.globals "x" obj (.bool true) [])
    (hbound : t.guest.lookup scope.globals (.ofString "OUT") = some obj)
    (hproceeds : Guest.minimal.Proceeds (· = Guest.minimal.system) t.guest) :
    refused.KeepsEntries 0 (.source "OUT = x") ["x"] [.bool true] fun _ => True := by
  obtain ⟨scope', hglobals, hran⟩ := scriptRun_of_left (w := refused) rfl hleft
  obtain ⟨⟨hcounts, hnamespace⟩, _⟩ := evaluate_of_left (w := refused) rfl rfl hleft
  have hempty : t.guest.body t.namespaceDict = .dict [] := by
    rw [hnamespace]
    exact hproceeds.body_eq (by decide) (by decide)
  have hparks : t.Parks fun _ => True := fun id _ => by
    refine ⟨hnamespace ▸ hproceeds.holds (by decide), ?_⟩
    rw [hcounts, Guest.lookup, Guest.entries, hempty]
    rfl
  exact {
    mem := by decide
    unread := fun _ h => by cases h
    before := by
      rintro runtime ⟨⟩ id _
      exact ⟨by decide, rfl⟩
    prevented := fun f w' hready => by
      obtain ⟨_, _, _, hready', _⟩ := ready_of_ok hran
      cases hready.symm.trans hready'
    raised := fun _ _ _ h => by cases hran.symm.trans h
    left := fun _ _ h => by
      cases hran.symm.trans h
      refine ⟨hparks, fun found hfound => ?_⟩
      obtain rfl : obj = found := Option.some.inj (hbound.symm.trans (hglobals ▸ hfound))
      refine ⟨Guest.freeGraph _, readsWithin_refused hparks (hcounts ▸ Counts.positive_empty) ?_⟩
      cases hstages.represents.stands with
      | direct huntouched htells =>
        refine ⟨⟨huntouched.holds, ?_, huntouched.exact, huntouched.bare⟩, .bool true, htells, rfl, .leaf rfl⟩
        rintro rfl
        rw [hempty] at htells
        cases htells }

/-- A wrapper comes out as a handle, which is not an integer: the call fails and the handle stays. -/
theorem evaluateAs_leaves_untaken_of_refused : ∃ obj,
    (evaluateAs .int64 0 (.source "OUT = x") ["x"] [.bool true] refused).1 =
      .error (.conversion (.typeMismatch .int .handle)) ∧
    refused.Gains 0 (fun _ => True) [obj]
      (evaluateAs .int64 0 (.source "OUT = x") ["x"] [.bool true] refused).2 ∧
    ((evaluateAs .int64 0 (.source "OUT = x") ["x"] [.bool true] refused).2.evaluator 0).refCount obj = 1 := by
  obtain ⟨scope, t, obj, hleft, hstages, hbound, hproceeds⟩ := leaves_of_offers offers_refused List.not_mem_nil
  obtain ⟨scope', hglobals, hran⟩ := scriptRun_of_left (w := refused) rfl hleft
  obtain ⟨found, t', hget, _, hread⟩ := Scope.get_answers refusing scope' "OUT" t
  obtain ⟨t'', hrun⟩ := Outbound.marshal_of_refuser obj { t with active := [], acquired := #[] } rfl
  obtain rfl := (hread obj (hglobals ▸ hbound)).2 refusal t'' hrun
  obtain ⟨w', hevaluate, _⟩ := evaluate_of_finished (w := refused) rfl hran hget
  have hanswer : (evaluate 0 (.source "OUT = x") ["x"] [.bool true] refused).1 = .ok (.handle obj) := by
    rw [hevaluate]
    rfl
  have herror : (evaluateAs .int64 0 (.source "OUT = x") ["x"] [.bool true] refused).1 =
      .error (.conversion (.typeMismatch .int .handle)) := by
    rw [evaluateAs_run, hanswer]
    rfl
  refine ⟨obj, herror, ?_⟩
  rcases (evaluateAs_leaves_untaken .int64 (keepsEntries_refused hleft hstages hbound hproceeds)).2 _ herror with
    ⟨hfailed, _⟩ | ⟨v, _, hv, _, _, hgains⟩
  · cases hfailed.symm.trans hanswer
  · cases hv.symm.trans hanswer
    refine ⟨hgains, ?_⟩
    rw [hgains.count, Value.handles, List.count_singleton_self]
    rfl

end WorldM
end ScriptHost
