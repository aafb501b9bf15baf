import ScriptHost.Proofs.Evaluator.Carriage
import ScriptHost.Proofs.Evaluator.Reentry
import ScriptHost.Proofs.Handle.Releasing

/-! Guards of handles, in a program that takes some handles back and drops the other guards wherever it is: outside of any
call a dropped guard gives its reference back, and the last one takes the object's entry with it. -/
namespace ScriptHost
open Stepping

/-! ### Programs -/

/-- How a guard for a handle ends: it is dropped, or the handle is taken back out of it first. -/
inductive GuardEnd where
  | drop (id : Identity)
  | takeBack (id : Identity)

namespace GuardEnd

/-- The end of a guard that an evaluator made. -/
def run (i : Nat) : GuardEnd → WorldM Unit
  | drop id => HandleGuard.drop { evaluator := i, id }
  | takeBack id => HandleGuard.drop (HandleGuard.disarm { evaluator := i, id })

def isDrop : GuardEnd → Bool
  | drop _ => true
  | takeBack _ => false

def dropped : GuardEnd → List Identity
  | drop id => [id]
  | takeBack _ => []

end GuardEnd

/-- What a thread of the host does while it has guards for handles of an evaluator. To make a guard does nothing, so that
guards come up where they end: between calls, in the closure of a session of any evaluator, or in a hook of one, before a
call that it makes. -/
inductive GuardProgram where
  | done
  | works (step : World → World) (rest : GuardProgram)
  | ends (guard : GuardEnd) (rest : GuardProgram)
  | session (evaluator : Nat) (inner rest : GuardProgram)
  | evaluates (evaluator : Nat) (code : Script) (names : List String) (values : List Value)
    (hooked : Request → List GuardEnd) (rest : GuardProgram)

namespace WorldM

/-- Runs a closure of the host inside the lock, when the interpreter is started for an evaluator. -/
def inSession (i : Nat) (run : WorldM Unit) : WorldM Unit := do
  discard <| Lock.within do
    match ← ensureStarted i with
    | .error _ => return ()
    | .ok _ => run

/-- What a hook does for a call when it ends guards of an evaluator first. -/
def issueEnding (i : Nat) (hooked : Request → List GuardEnd) (request : Request) : WorldM (Option EvalError) := do
  (hooked request).forM (GuardEnd.run i)
  issue requestDepth request

end WorldM

namespace GuardProgram

def run (i : Nat) : GuardProgram → WorldM Unit
  | done => return ()
  | works step rest => do
    modify fun w => { step w with held := w.held }
    rest.run i
  | ends guard rest => do
    guard.run i
    rest.run i
  | session j inner rest => do
    WorldM.inSession j (inner.run i)
    rest.run i
  | evaluates j code names values hooked rest => do
    discard (WorldM.evaluateUsing (WorldM.issueEnding i hooked) j code names values)
    rest.run i

/-- The program without the guards whose handles are taken back. -/
def withoutTaken : GuardProgram → GuardProgram
  | done => done
  | works step rest => works step rest.withoutTaken
  | ends (.drop id) rest => ends (.drop id) rest.withoutTaken
  | ends (.takeBack _) rest => rest.withoutTaken
  | session j inner rest => session j inner.withoutTaken rest.withoutTaken
  | evaluates j code names values hooked rest =>
    evaluates j code names values (fun request => (hooked request).filter GuardEnd.isDrop) rest.withoutTaken

/-- The identities of the guards that are dropped between calls. -/
def droppedBetween : GuardProgram → List Identity
  | done => []
  | works _ rest | session _ _ rest | evaluates _ _ _ _ _ rest => rest.droppedBetween
  | ends guard rest => guard.dropped ++ rest.droppedBetween

/-- The identities of the guards that are dropped, between calls or in sessions. -/
def dropped : GuardProgram → List Identity
  | done => []
  | works _ rest | evaluates _ _ _ _ _ rest => rest.dropped
  | ends guard rest => guard.dropped ++ rest.dropped
  | session _ inner rest => inner.dropped ++ rest.dropped

/-- No guard for an identity is dropped in a session or by a hook. -/
def DropsOutside (id : Identity) : GuardProgram → Prop
  | done => True
  | works _ rest => rest.DropsOutside id
  | ends _ rest => rest.DropsOutside id
  | session _ inner rest => id ∉ inner.dropped ∧ rest.DropsOutside id
  | evaluates _ _ _ _ hooked rest => (∀ request, .drop id ∉ hooked request) ∧ rest.DropsOutside id

end GuardProgram

/-! ### The course of a run -/

/-- What may change counts in the run of a program: work that is not about guards, and a guard that is dropped outside of
any call. -/
inductive GuardMoment where
  | work (before after : World)
  | drop (before : World) (id : Identity)

namespace GuardMoment
variable (i : Nat)

/-- What work does to the count of an identity. -/
def gain (id : Identity) : GuardMoment → Int
  | work before after => (after.evaluator i).refCount id - (before.evaluator i).refCount id
  | drop _ _ => 0

/-- An evaluator stays started, and a dropped guard is one of a handle that is registered. -/
def IsSound : GuardMoment → Prop
  | work _ after => (after.evaluator i).isStarted
  | drop before id => (before.evaluator i).refCount id ≠ 0

/-- The closure of a session runs unless the lock is held or the interpreter cannot be started. -/
def ofSession (inside : World → List GuardMoment) (w : World) : List GuardMoment :=
  if w.held then [] else
    match WorldM.ensureStarted i { w with held := true } with
    | (.error _, _) => []
    | (.ok _, w') => inside w'

end GuardMoment

/-- Inside the lock a dropped guard is refused. -/
def GuardEnd.moments : GuardEnd → World → List GuardMoment
  | drop id, w => if w.held then [] else [.drop w id]
  | takeBack _, _ => []

/-- The moments of a run. -/
def GuardProgram.course (i : Nat) : GuardProgram → World → List GuardMoment
  | done, _ => []
  | works step rest, w =>
    let w' := { step w with held := w.held }
    .work w w' :: rest.course i w'
  | ends guard rest, w => guard.moments w ++ rest.course i (guard.run i w).2
  | session j inner rest, w =>
    GuardMoment.ofSession j (inner.course i) w ++ rest.course i (WorldM.inSession j (inner.run i) w).2
  | evaluates j code names values hooked rest, w =>
    .work w (WorldM.evaluate j code names values w).2 ::
      rest.course i (WorldM.evaluateUsing (WorldM.issueEnding i hooked) j code names values w).2

/-! ### Handles taken back -/

namespace GuardEnd
variable {i : Nat}

/-- Of several guards only those that are dropped do anything. -/
theorem forM_filter (ends : List GuardEnd) : (ends.filter isDrop).forM (run i) = ends.forM (run i) := by
  induction ends with
  | nil => rfl
  | cons guard ends ih =>
    cases guard with
    | drop id => exact congrArg (run i (.drop id) >>= fun _ => ·) ih
    | takeBack id => exact ih

end GuardEnd

theorem GuardProgram.run_withoutTaken (i : Nat) (P : GuardProgram) : P.withoutTaken.run i = P.run i := by
  induction P with
  | done => rfl
  | works step rest ih => exact congrArg (_ >>= fun _ => ·) ih
  | ends guard rest ih =>
    cases guard with
    | drop id => exact congrArg (_ >>= fun _ => ·) ih
    | takeBack id => exact ih
  | session j inner rest hinner hrest =>
    show (WorldM.inSession j (inner.withoutTaken.run i) >>= fun _ => rest.withoutTaken.run i) = _
    rw [hinner, hrest]
    rfl
  | evaluates j code names values hooked rest ih =>
    have hissue : WorldM.issueEnding i (fun request => (hooked request).filter GuardEnd.isDrop) =
        WorldM.issueEnding i hooked := by
      funext request
      unfold WorldM.issueEnding
      rw [GuardEnd.forM_filter]
    show (discard (WorldM.evaluateUsing _ j code names values) >>= fun _ => rest.withoutTaken.run i) = _
    rw [hissue, ih]
    rfl

/-! ### Accounts -/

namespace World
variable {w w' w'' : World} {i : Nat} {moments moments' : List GuardMoment} {dropped dropped' : List Identity}

private theorem runtime_alike (hw : w.withoutCalls = w'.withoutCalls) (i : Nat) :
    (w.evaluator i).runtime = (w'.evaluator i).runtime :=
  show (w.evaluator i).withoutCalls.runtime = (w'.evaluator i).withoutCalls.runtime from evaluator_alike hw i ▸ rfl

/-- What a part of a run leaves behind: its moments and the guards that it dropped account for the counts. -/
structure Accounts (w : World) (i : Nat) (moments : List GuardMoment) (dropped : List Identity) (w' : World) : Prop where
  held : w'.held = w.held
  started : (w'.evaluator i).isStarted
  count : ∀ id, ((w'.evaluator i).refCount id : Int) =
    (w.evaluator i).refCount id + (moments.map (GuardMoment.gain i id)).sum - dropped.count id

namespace Accounts

theorem same (h : (w.evaluator i).isStarted) (hheld : w'.held = w.held)
    (hruntime : (w'.evaluator i).runtime = (w.evaluator i).runtime) : w.Accounts i [] [] w' where
  held := hheld
  started := by
    rw [Evaluator.isStarted, hruntime]
    exact h
  count id := by
    rw [Evaluator.refCount, Evaluator.refCount, hruntime, List.map_nil, List.sum_nil, List.count_nil]
    omega

theorem refl (h : (w.evaluator i).isStarted) : w.Accounts i [] [] w := .same h rfl rfl

theorem append (h : w.Accounts i moments dropped w') (h' : w'.Accounts i moments' dropped' w'') :
    w.Accounts i (moments ++ moments') (dropped ++ dropped') w'' where
  held := h'.held.trans h.held
  started := h'.started
  count id := by
    have hfirst := h.count id
    have hsecond := h'.count id
    rw [List.map_append, List.sum_append, List.count_append]
    omega

theorem work (hheld : w'.held = w.held) (h : (w'.evaluator i).isStarted) : w.Accounts i [.work w w'] [] w' where
  held := hheld
  started := h
  count id := by
    rw [List.map_singleton, List.sum_singleton, GuardMoment.gain, List.count_nil]
    omega

/-- Inside the lock no guard gives anything back. -/
theorem outside (h : w.Accounts i moments (if w.held then [] else dropped) w')
    (h' : w'.Accounts i moments' (if w'.held then [] else dropped') w'') :
    w.Accounts i (moments ++ moments') (if w.held then [] else dropped ++ dropped') w'' := by
  have hboth := h.append h'
  rw [h.held] at hboth
  cases hheld : w.held <;> rw [hheld] at hboth <;> exact hboth

/-- The calls of hooks have nothing to do with handles. -/
theorem alike (h : w.Accounts i moments dropped w') (hw : w'.withoutCalls = w''.withoutCalls) :
    w.Accounts i moments dropped w'' where
  held := (show w'.withoutCalls.held = w''.withoutCalls.held from hw ▸ rfl) ▸ h.held
  started := by
    rw [Evaluator.isStarted, ← runtime_alike hw i]
    exact h.started
  count id := by
    rw [← h.count id, Evaluator.refCount, Evaluator.refCount, runtime_alike hw i]

end Accounts
end World

/-! ### One guard -/

/-- A handle is given back whatever else is registered, and the last one of an object takes the object's entry with it. -/
theorem TransferM.release_ends (t : Transfer) (id : Identity) : ∃ answer t', release id t = .ok answer t' ∧
    t'.counts = (t.counts.release id).2 ∧
    (t.counts.count id = 1 → t'.guest.lookup t.namespaceDict id.entryName = none) := by
  by_cases hdestroyed : (t.counts.release id).1 = .destroyed
  · by_cases hthere : t.guest.lookup t.namespaceDict id.entryName = none
    · obtain ⟨r, r', hrun⟩ := release_run_of_missing hdestroyed hthere
      exact ⟨_, _, hrun, rfl, fun _ => hthere⟩
    · obtain ⟨r, hrun⟩ := release_run_of_destroyed hdestroyed hthere
      refine ⟨_, _, hrun, rfl, fun _ => ?_⟩
      rw [Guest.lookup_noted, Guest.dropped_eq_without hthere, Guest.lookup_without, if_pos BEq.rfl]
  · obtain ⟨r, hrun⟩ := release_run_of_kept hdestroyed
    exact ⟨_, _, hrun, rfl, fun hone => absurd (Counts.release_of_one hone) hdestroyed⟩

namespace GuardEnd
variable {w : World} {i : Nat} {runtime : Runtime}

/-- Inside the lock a guard that ends adds to the journal, if it does anything. -/
theorem onlyRecords_run (i : Nat) (guard : GuardEnd) : (guard.run i).OnlyRecords := by
  cases guard with
  | drop id =>
    refine .bind (WorldM.onlyRecords_whenStarted i _) fun answer => ?_
    cases answer with
    | ok _ => exact .pure _
    | error err => exact .record _ _ _
  | takeBack id => exact .pure _

/-- Outside of any call a guard that is dropped gives its reference back. -/
theorem drop_run (hopen : w.held = false) (hstarted : (w.evaluator i).runtime = some runtime) (id : Identity) :
    (run i (.drop id) w).2.held = false ∧
    ((run i (.drop id) w).2.evaluator i).runtime = some { runtime with counts := (runtime.counts.release id).2 } ∧
    (runtime.counts.count id = 1 → (run i (.drop id) w).2.guest.lookup runtime.namespaceDict id.entryName = none) := by
  have hcounts := WorldM.crossing_counts hstarted
  obtain ⟨answer, t, hrun, hleft, hentry⟩ := TransferM.release_ends (w.crossing i runtime) id
  rw [hcounts] at hleft hentry
  have hdrop : (run i (.drop id) w).2 = { w.crossed i t with held := false } := by
    show (HandleGuard.drop { evaluator := i, id } w).2 = _
    unfold HandleGuard.drop
    rw [if_pos rfl, WorldM.bind_run, WorldM.release, WorldM.whenStarted_run hopen hstarted hrun]
    rfl
  rw [hdrop, ← hleft]
  exact ⟨rfl, congrArg Evaluator.runtime (WorldM.evaluator_keepCounts hstarted t.counts), hentry⟩

theorem moments_drop (id : Identity) : moments (.drop id) w = if w.held then [] else [.drop w id] := rfl

theorem accounts (guard : GuardEnd) (h : (w.evaluator i).isStarted) (hsound : ∀ m ∈ guard.moments w, m.IsSound i) :
    w.Accounts i (guard.moments w) (if w.held then [] else guard.dropped) (guard.run i w).2 := by
  cases guard with
  | takeBack id =>
    rw [dropped, ite_self]
    exact .refl h
  | drop id =>
    rw [moments_drop] at hsound ⊢
    cases hheld : w.held with
    | true =>
      obtain ⟨records, hrefused⟩ := onlyRecords_run i (.drop id) w hheld
      rw [hrefused]
      exact .same h rfl rfl
    | false =>
      rw [hheld] at hsound
      obtain ⟨runtime, hstarted⟩ := Option.isSome_iff_exists.mp h
      obtain ⟨hopen, hstarted', -⟩ := drop_run hheld hstarted id
      refine ⟨hopen.trans hheld.symm, Option.isSome_iff_exists.mpr ⟨_, hstarted'⟩, fun other => ?_⟩
      have hcounted : (w.evaluator i).refCount id ≠ 0 := hsound (.drop w id) (List.mem_singleton_self _)
      have hgain : (([GuardMoment.drop w id].map (GuardMoment.gain i other)).sum : Int) = 0 := rfl
      rw [WorldM.refCount_of_started hstarted] at hcounted ⊢
      rw [WorldM.refCount_of_started hstarted', Counts.count_release]
      simp only [Bool.false_eq_true, if_false, hgain, dropped]
      rw [List.count_singleton]
      by_cases hsame : id = other
      · subst hsame
        rw [if_pos BEq.rfl]
        omega
      · rw [if_neg (by simpa using hsame)]
        omega

end GuardEnd

/-! ### A run -/

namespace WorldM
variable {w : World} {i : Nat}

theorem evaluateUsing_held (nested : Request → WorldM (Option EvalError)) (i : Nat) (code : Script) (names : List String)
    (values : List Value) (w : World) : (evaluateUsing nested i code names values w).2.held = w.held := by
  cases hheld : w.held with
  | true =>
    obtain ⟨records, hrun⟩ := onlyRecords_evaluateUsing nested i code names values w hheld
    rw [hrun]
    exact hheld
  | false =>
    rcases hbindings : Bindings.ofArguments (w.evaluator i).config names values with ⟨bindings, records⟩
    rw [evaluateUsing_inside nested hheld hbindings]
    rfl

/-- An evaluation leaves the handles as it does when its hooks have no guards. -/
theorem evaluateUsing_issueEnding (hooked : Request → List GuardEnd) (j : Nat) (code : Script) (names : List String)
    (values : List Value) (w : World) : (evaluate j code names values w).2.withoutCalls =
      (evaluateUsing (issueEnding i hooked) j code names values w).2.withoutCalls :=
  (evaluateUsing_alike (onlyRecords_issue requestDepth)
    (fun request => .bind (.forM (hooked request) (GuardEnd.onlyRecords_run i)) fun _ => onlyRecords_issue requestDepth request)
    j code names values rfl).2

/-- To start the interpreter for an evaluator leaves one that is started alone. -/
theorem runtime_ensureStarted (hheld : w.held = true) (h : (w.evaluator i).isStarted) (j : Nat) :
    ((ensureStarted j w).2.evaluator i).runtime = (w.evaluator i).runtime := by
  obtain ⟨runtime, hstarted⟩ := Option.isSome_iff_exists.mp h
  by_cases hsame : i = j
  · rw [← hsame, ensureStarted_run hstarted]
  · rw [(ensureStarted_keeps hheld).1.others i hsame]

theorem inSession_of_open (hopen : w.held = false) (j : Nat) (run : WorldM Unit) : (inSession j run w).2 =
    { (match ensureStarted j { w with held := true } with
      | (.error _, w') => w'
      | (.ok _, w') => (run w').2) with held := false } := by
  show (Lock.within _ w).2 = _
  rw [within_run _ hopen, bind_run]
  rcases ensureStarted j { w with held := true } with ⟨f | runtime, w'⟩ <;> rfl

theorem inSession_of_held (hheld : w.held = true) (j : Nat) (run : WorldM Unit) :
    ∃ records, (inSession j run w).2 = { w with guest := { w.guest with records } } :=
  (OnlyRecords.within _).bind (fun _ => .pure _) w hheld

end WorldM

namespace GuardMoment
variable {w : World} {i : Nat}

/-- A session of an evaluator that is started begins with its closure. -/
theorem ofSession_of_started {runtime : Runtime} (hopen : w.held = false)
    (hstarted : (w.evaluator i).runtime = some runtime) (inside : World → List GuardMoment) :
    ofSession i inside w = inside { w with held := true } := by
  have hrun := WorldM.ensureStarted_run (w := { w with held := true }) hstarted
  unfold ofSession
  rw [hopen]
  simp only [Bool.false_eq_true, if_false, hrun]

end GuardMoment

namespace GuardProgram
variable {w : World} {i : Nat}

/-- A session accounts for what its closure does, if that runs. -/
private theorem session_accounts {run : WorldM Unit} {inside : World → List GuardMoment} (j : Nat)
    (hrun : ∀ w : World, w.held = true → (w.evaluator i).isStarted → (∀ m ∈ inside w, m.IsSound i) →
      w.Accounts i (inside w) [] (run w).2)
    (h : (w.evaluator i).isStarted) (hsound : ∀ m ∈ GuardMoment.ofSession j inside w, m.IsSound i) :
    w.Accounts i (GuardMoment.ofSession j inside w) [] (WorldM.inSession j run w).2 := by
  unfold GuardMoment.ofSession at hsound ⊢
  cases hheld : w.held with
  | true =>
    obtain ⟨records, hrefused⟩ := WorldM.inSession_of_held hheld j run
    rw [hrefused]
    exact .same h rfl rfl
  | false =>
    obtain ⟨-, hstill, -⟩ := WorldM.ensureStarted_keeps (i := j) (w := { w with held := true }) rfl
    have hbegun : World.Accounts { w with held := true } i [] [] (WorldM.ensureStarted j { w with held := true }).2 :=
      .same h hstill (WorldM.runtime_ensureStarted (w := { w with held := true }) rfl h j)
    rw [WorldM.inSession_of_open hheld]
    rw [hheld] at hsound
    rcases hstart : WorldM.ensureStarted j { w with held := true } with ⟨f | runtime, w'⟩
    all_goals
      rw [hstart] at hstill hbegun
      simp only [hstart, Bool.false_eq_true, if_false] at hsound ⊢
    · exact ⟨hheld.symm, hbegun.started, hbegun.count⟩
    · have hran := hbegun.append (hrun w' hstill hbegun.started hsound)
      exact ⟨hheld.symm, hran.started, hran.count⟩

/-- By induction on the program: each of its parts is accounted for by its own moments and, outside of the lock, by the
guards that it drops. -/
theorem run_accounts (P : GuardProgram) (h : (w.evaluator i).isStarted) (hsound : ∀ m ∈ P.course i w, m.IsSound i) :
    w.Accounts i (P.course i w) (if w.held then [] else P.droppedBetween) (P.run i w).2 := by
  induction P generalizing w with
  | done =>
    rw [droppedBetween, ite_self]
    exact .refl h
  | works step rest ih =>
    obtain ⟨hafter, hrest⟩ := List.forall_mem_cons.mp hsound
    have hstep : w.Accounts i [.work w { step w with held := w.held }] [] { step w with held := w.held } := .work rfl hafter
    exact hstep.append (ih hafter hrest)
  | ends guard rest ih =>
    obtain ⟨hfirst, hrest⟩ := List.forall_mem_append.mp hsound
    have hstep := guard.accounts h hfirst
    exact hstep.outside (ih hstep.started hrest)
  | session j inner rest hinner hrest =>
    obtain ⟨hinside, hlater⟩ := List.forall_mem_append.mp hsound
    have hstep := session_accounts j (fun w' hheld h' hsound' => by
      have hran := hinner h' hsound'
      rwa [if_pos hheld] at hran) h hinside
    have hran := hstep.append (hrest hstep.started hlater)
    rwa [hstep.held] at hran
  | evaluates j code names values hooked rest ih =>
    obtain ⟨hafter, hrest⟩ := List.forall_mem_cons.mp hsound
    have hstep : w.Accounts i [.work w (WorldM.evaluate j code names values w).2] []
        (WorldM.evaluateUsing (WorldM.issueEnding i hooked) j code names values w).2 :=
      (World.Accounts.work (WorldM.evaluateUsing_held _ j code names values w) hafter).alike
        (WorldM.evaluateUsing_issueEnding hooked j code names values w)
    have hran := hstep.append (ih hstep.started hrest)
    rwa [hstep.held] at hran

theorem count_droppedBetween {id : Identity} {P : GuardProgram} (h : P.DropsOutside id) :
    P.droppedBetween.count id = P.dropped.count id := by
  induction P with
  | done => rfl
  | works step rest ih => exact ih h
  | ends guard rest ih => rw [droppedBetween, dropped, List.count_append, List.count_append, ih h]
  | session j inner rest _ ih =>
    rw [droppedBetween, dropped, List.count_append, List.count_eq_zero_of_not_mem h.1, Nat.zero_add, ih h.2]
  | evaluates j code names values hooked rest ih => exact ih h.2

/-- Several guards for a handle that are dropped one after the other. -/
def drops (id : Identity) : Nat → GuardProgram
  | 0 => done
  | n + 1 => ends (.drop id) (drops id n)

/-- As many guards as there are references are those of a registered handle. -/
theorem sound_drops {runtime : Runtime} {id : Identity} {n : Nat} (hopen : w.held = false)
    (hstarted : (w.evaluator i).runtime = some runtime) (hcount : n ≤ runtime.counts.count id) :
    ∀ m ∈ (drops id n).course i w, m.IsSound i ∧ m.gain i id = 0 := by
  induction n generalizing w runtime with
  | zero => exact nofun
  | succ n ih =>
    obtain ⟨hopen', hstarted', -⟩ := GuardEnd.drop_run hopen hstarted id
    have hless : n ≤ ((runtime.counts.release id).2).count id := by
      rw [Counts.count_release, List.count_singleton_self]
      omega
    have hcourse : (drops id (n + 1)).course i w =
        .drop w id :: (drops id n).course i (GuardEnd.run i (.drop id) w).2 := by
      show GuardEnd.moments (.drop id) w ++ _ = _
      rw [GuardEnd.moments_drop, hopen]
      rfl
    rw [hcourse]
    refine List.forall_mem_cons.mpr ⟨⟨?_, rfl⟩, ih hopen' hstarted' hless⟩
    show (w.evaluator i).refCount id ≠ 0
    rw [WorldM.refCount_of_started hstarted]
    omega

private theorem mem_ofSession {j : Nat} {inside : World → List GuardMoment} {m : GuardMoment} :
    m ∈ GuardMoment.ofSession j inside w → ∃ w', m ∈ inside w' := by
  unfold GuardMoment.ofSession
  split
  · exact nofun
  · split
    · exact nofun
    · exact fun hm => ⟨_, hm⟩

/-- The moments at which a guard is dropped are outside of any call. -/
theorem open_of_mem_course {P : GuardProgram} {before : World} {id : Identity} (h : .drop before id ∈ P.course i w) :
    before.held = false := by
  induction P generalizing w with
  | done => cases h
  | works step rest ih => exact (List.mem_cons.mp h).elim nofun ih
  | ends guard rest ih =>
    rcases List.mem_append.mp h with hfirst | hlater
    · cases guard with
      | takeBack id => cases hfirst
      | drop id =>
        rw [GuardEnd.moments_drop] at hfirst
        split at hfirst
        · cases hfirst
        · next hopen =>
          cases List.mem_singleton.mp hfirst
          exact eq_false_of_ne_true hopen
    · exact ih hlater
  | session j inner rest hinner hrest =>
    rcases List.mem_append.mp h with hinside | hlater
    · exact (mem_ofSession hinside).elim fun _ => hinner
    · exact hrest hlater
  | evaluates j code names values hooked rest ih => exact (List.mem_cons.mp h).elim nofun ih

end GuardProgram

/-! ### What is given back -/

namespace World
variable {w : World} {i : Nat}

private def guarded : Runtime where
  namespaceDict := Guest.minimalNamespace
  counts := Counts.acquire ∅ ⟨7⟩
  searchPath := []

private def guarding : World where
  guest := (WorldM.carrying {}).guest
  evaluators := #[{ converters := ConverterTable.standard.1, hooks := [{ requests := [.session 0] }]
                    runtime := some guarded }]

private theorem isReady_guarding : guarding.IsReady 0 guarded := by
  refine ⟨rfl, rfl, rfl, rfl, by decide, fun hook hhook pair hpair => ?_, WorldM.isIntact_carrying {},
    fun _ => WorldM.stdout_carrying {}⟩
  rw [List.mem_singleton.mp hhook] at hpair
  cases hpair

private theorem backs_guarding : guarding.Backs guarded WorldM.carried :=
  let h := WorldM.backs_carrying {}
  ⟨h.holds, h.dict, h.apart, h.handles⟩

private theorem refCount_guarding : (guarding.evaluator 0).refCount ⟨7⟩ = 1 := by
  rw [WorldM.refCount_of_started isReady_guarding.started, guarded, Counts.count_acquire]
  rfl

/-- The script that answers with a value that has the handle twice leaves two references more. -/
private theorem evaluate_guarding : ∃ answer w' counts,
    WorldM.evaluate 0 (.source "OUT = x") ["x"] [WorldM.carried] guarding = (answer, w') ∧
    (w'.evaluator 0).runtime = some { guarded with counts } ∧ counts.count ⟨7⟩ = 3 := by
  obtain ⟨scope, t, t', hleft, hget, hcount⟩ :=
    WorldM.get_of_backs isReady_guarding backs_guarding WorldM.isListing_carried
  obtain ⟨w', hevaluate, hclosed⟩ :=
    (WorldM.evaluate_of_left isReady_guarding.unlocked isReady_guarding.started hleft).2 _ t' hget
  have hclosed := hclosed fun hook hhook name hname => by
    rw [List.mem_singleton.mp hhook] at hname
    cases hname
  refine ⟨_, w', t'.counts, hevaluate, by rw [hclosed.evaluator], ?_⟩
  have hlive : guarding.guest.registers guarded.namespaceDict ⟨7⟩ = true := WorldM.registers_carrying {}
  rw [hcount, WorldM.isListing_carried.count_handles_answered, hlive, guarded, Counts.count_acquire]
  rfl

private def answering (hooked : Request → List GuardEnd) (rest : GuardProgram) : GuardProgram :=
  .evaluates 0 (.source "OUT = x") ["x"] [WorldM.carried] hooked rest

private theorem course_answering (hooked : Request → List GuardEnd) (rest : GuardProgram)
    (hrest : ∀ w runtime, w.held = false → (w.evaluator 0).runtime = some runtime → runtime.counts.count ⟨7⟩ = 3 →
      ∀ m ∈ rest.course 0 w, m.IsSound 0 ∧ m.gain 0 ⟨7⟩ = 0) :
    (∀ m ∈ (answering hooked rest).course 0 guarding, m.IsSound 0) ∧
    (((answering hooked rest).course 0 guarding).map (GuardMoment.gain 0 ⟨7⟩)).sum = 2 := by
  obtain ⟨answer, w', counts, hevaluate, hruntime, hthree⟩ := evaluate_guarding
  have halike := WorldM.evaluateUsing_issueEnding (i := 0) hooked 0 (.source "OUT = x") ["x"] [WorldM.carried] guarding
  have hheld := WorldM.evaluateUsing_held (WorldM.issueEnding 0 hooked) 0 (.source "OUT = x") ["x"] [WorldM.carried]
    guarding
  have hcourse : (answering hooked rest).course 0 guarding =
      .work guarding (WorldM.evaluate 0 (.source "OUT = x") ["x"] [WorldM.carried] guarding).2 ::
        rest.course 0 (WorldM.evaluateUsing (WorldM.issueEnding 0 hooked) 0 (.source "OUT = x") ["x"] [WorldM.carried]
          guarding).2 := rfl
  rw [hevaluate] at halike hcourse
  have hlater := hrest _ _ (hheld.trans rfl) ((runtime_alike halike 0).symm.trans hruntime) hthree
  have hnone : ((rest.course 0 _).map (GuardMoment.gain 0 ⟨7⟩)).sum = 0 := List.sum_eq_zero fun gain hgain => by
    obtain ⟨m, hm, rfl⟩ := List.mem_map.mp hgain
    exact (hlater m hm).2
  rw [hcourse]
  refine ⟨List.forall_mem_cons.mpr ⟨Option.isSome_iff_exists.mpr ⟨_, hruntime⟩, fun m hm => (hlater m hm).1⟩, ?_⟩
  rw [List.map_cons, List.sum_cons, hnone, GuardMoment.gain, WorldM.refCount_of_started hruntime, hthree,
    refCount_guarding]
  rfl

/-- In a session one guard is taken back, and three more are dropped after it. -/
private def ending : GuardProgram :=
  .session 0 (.ends (.takeBack ⟨7⟩) .done) (.drops ⟨7⟩ 3)

private theorem sound_ending {runtime : Runtime} (hopen : w.held = false) (hstarted : (w.evaluator 0).runtime = some runtime)
    (hcount : runtime.counts.count ⟨7⟩ = 3) : ∀ m ∈ ending.course 0 w, m.IsSound 0 ∧ m.gain 0 ⟨7⟩ = 0 := by
  have hcourse : ending.course 0 w = (GuardProgram.drops ⟨7⟩ 3).course 0
      (WorldM.inSession 0 (GuardProgram.run 0 (.ends (.takeBack ⟨7⟩) .done)) w).2 := by
    show GuardMoment.ofSession 0 (GuardProgram.course 0 (.ends (.takeBack ⟨7⟩) .done)) w ++ _ = _
    rw [GuardMoment.ofSession_of_started hopen hstarted]
    rfl
  have hsession : (WorldM.inSession 0 (GuardProgram.run 0 (.ends (.takeBack ⟨7⟩) .done)) w).2 =
      { w with held := false } := by
    rw [WorldM.inSession_of_open hopen, WorldM.ensureStarted_run (w := { w with held := true }) hstarted]
    rfl
  rw [hcourse, hsession]
  exact GuardProgram.sound_drops (w := { w with held := false }) rfl hstarted hcount.ge

end World
end ScriptHost
