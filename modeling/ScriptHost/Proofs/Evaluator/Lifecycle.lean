import ScriptHost.Evaluator.ScopeCommand
import ScriptHost.Proofs.Handle.Registry

/-! The life of a scope through any sequence of commands: a script that raises tears it down, and what is read from it
then is nothing, until its bindings are seeded anew or another script runs to its end. -/
namespace ScriptHost
open Stepping

/-- A command has run a script that raised. -/
def ScopeCommand.Tears : ScopeCommand → ScopeAnswer → Prop
  | .execute _, .failed _ => True
  | _, _ => False

/-- A command has put its scope in use, whatever state that was in: it has seeded it, run a script in it to its end, or
made another one. -/
def ScopeCommand.Revives : ScopeCommand → ScopeAnswer → Prop
  | .seed _, .done => True
  | .execute _, .done => True
  | .renew, .renewed => True
  | _, _ => False

/-- A history of commands leaves a scope torn down: a script has raised, unless the scope was torn down before, and no
command since has put it in use. -/
def TornAfter (torn : Prop) (history : List (ScopeCommand × ScopeStep)) : Prop :=
  (torn ∧ ∀ entry ∈ history, ¬ entry.1.Revives entry.2.answer) ∨
    ∃ earlier entry later, history = earlier ++ entry :: later ∧ entry.1.Tears entry.2.answer ∧
      ∀ other ∈ later, ¬ other.1.Revives other.2.answer

section
variable {torn : Prop} {entry : ScopeCommand × ScopeStep} {history : List (ScopeCommand × ScopeStep)}

theorem tornAfter_nil : TornAfter torn [] ↔ torn := by
  simp [TornAfter]

/-- A history goes on from what its first command leaves. -/
theorem tornAfter_cons : TornAfter torn (entry :: history) ↔
    TornAfter (entry.1.Tears entry.2.answer ∨ torn ∧ ¬ entry.1.Revives entry.2.answer) history := by
  constructor
  · rintro (⟨htorn, hnever⟩ | ⟨earlier, other, later, hsplit, htears, hnever⟩)
    · rw [List.forall_mem_cons] at hnever
      exact .inl ⟨.inr ⟨htorn, hnever.1⟩, hnever.2⟩
    · cases earlier with
      | nil =>
        cases hsplit
        exact .inl ⟨.inl htears, hnever⟩
      | cons first earlier =>
        cases hsplit
        exact .inr ⟨earlier, other, later, rfl, htears, hnever⟩
  · rintro (⟨htears | ⟨htorn, hfirst⟩, hnever⟩ | ⟨earlier, other, later, rfl, htears, hnever⟩)
    · exact .inr ⟨[], entry, history, rfl, htears, hnever⟩
    · exact .inl ⟨htorn, List.forall_mem_cons.mpr ⟨hfirst, hnever⟩⟩
    · exact .inr ⟨entry :: earlier, other, later, rfl, htears, hnever⟩

end

namespace Scope
variable {table : ConverterTable} {scope : Scope} {t : Transfer}

/-- What a command answers and leaves: a scope is torn down exactly if the command's script has raised, or it was torn
down before and is not put in use. -/
structure Lives (scope : Scope) (command : ScopeCommand) (answer : ScopeAnswer) (scope' : Scope) : Prop where
  torn : scope'.state = .tornDown ↔ command.Tears answer ∨ scope.state = .tornDown ∧ ¬ command.Revives answer
  unread : ∀ name, command = .read name → scope.state = .tornDown → answer = .found none

/-- A scope that is made has not been used yet. -/
theorem state_make {t' : Transfer} (h : make t = .ok scope t') : scope.state = .uninitialized := by
  simp only [make, bind_run, pure_run] at h
  repeat' split at h
  all_goals cases h
  rfl

/-- Reading a scope that is torn down finds nothing, and does nothing. -/
theorem read_of_torn (htorn : scope.state = .tornDown) (name : String) (t : Transfer) :
    read table scope name t = .ok (none, scope) t := by
  unfold read
  rw [if_pos htorn]
  rfl

/-- What a command that is carried out makes of the state of its scope. -/
theorem perform_lives {command : ScopeCommand} {answer : ScopeAnswer} {scope' : Scope} {t' : Transfer}
    (h : perform table scope command t = .ok (answer, scope') t') : scope.Lives command answer scope' := by
  cases command with
  | seed pairs =>
    simp only [perform, seed, bind_run, pure_run] at h
    cases hbound : bindAll table scope pairs t <;> simp only [hbound] at h <;> cases h
    exact ⟨by simp [ScopeCommand.Tears, ScopeCommand.Revives], nofun⟩
  | bind name v =>
    simp only [perform, bind_run, pure_run] at h
    cases hbound : bind table scope name v t <;> simp only [hbound] at h <;> cases h
    exact ⟨by simp [ScopeCommand.Tears, ScopeCommand.Revives], nofun⟩
  | execute code =>
    simp only [perform, execute, bind_run, attempt_run] at h
    cases hran : TransferM.guest (GuestM.runScript scope.globals code) t <;>
      simp only [hran, bind_run, pure_run, TransferM.record_run] at h <;> cases h
    all_goals exact ⟨by simp [ScopeCommand.Tears, ScopeCommand.Revives], nofun⟩
  | read name =>
    simp only [perform, bind_run, pure_run] at h
    by_cases htorn : scope.state = .tornDown
    · rw [read_of_torn htorn] at h
      cases h
      exact ⟨by simp [ScopeCommand.Tears, ScopeCommand.Revives], fun _ _ _ => rfl⟩
    · simp only [read, if_neg htorn, bind_run, pure_run] at h
      cases hfound : get table scope name t <;> simp only [hfound] at h <;> cases h
      exact ⟨by simp [ScopeCommand.Tears, ScopeCommand.Revives, htorn], fun _ _ h => absurd h htorn⟩
  | get name =>
    simp only [perform, bind_run, pure_run] at h
    cases hfound : get table scope name t <;> simp only [hfound] at h <;> cases h
    exact ⟨by simp [ScopeCommand.Tears, ScopeCommand.Revives], nofun⟩
  | names =>
    simp only [perform, bind_run, pure_run] at h
    cases hfound : scope.names t <;> simp only [hfound] at h <;> cases h
    exact ⟨by simp [ScopeCommand.Tears, ScopeCommand.Revives], nofun⟩
  | renew =>
    simp only [perform, bind_run, pure_run] at h
    cases hmade : make t with
    | error f t₁ =>
      rw [hmade] at h
      cases h
    | ok made t₁ =>
      rw [hmade] at h
      cases h
      exact ⟨by simp [ScopeCommand.Tears, ScopeCommand.Revives, state_make hmade], nofun⟩

/-- A command is carried out, or else it raises and the scope stays as it was. -/
theorem perform_answered (table : ConverterTable) (scope : Scope) (command : ScopeCommand) (t : Transfer) :
    ∃ answer scope' t', (tryCatch (perform table scope command) fun f => return (.raised f, scope)) t =
      .ok (answer, scope') t' ∧ scope.Lives command answer scope' := by
  rw [tryCatch_run]
  cases hrun : perform table scope command t with
  | ok answered t' => exact ⟨answered.1, answered.2, t', rfl, perform_lives hrun⟩
  | error f t' =>
    refine ⟨.raised f, scope, t', rfl, by cases command <;> simp [ScopeCommand.Tears, ScopeCommand.Revives], ?_⟩
    rintro name rfl htorn
    simp only [perform, bind_run, read_of_torn htorn] at hrun
    cases hrun

/-- Whatever commands a scope is given, one after the other, each is answered, and a script has torn the scope down after
it exactly if one has raised and since then the scope has neither been seeded nor has another script run to its end in
it. Until then nothing can be read from it. -/
theorem tornDown_iff (table : ConverterTable) (scope : Scope) (commands : List ScopeCommand) (t : Transfer) :
    ∃ steps t', performAll table scope commands t = .ok steps t' ∧ steps.length = commands.length ∧
      ∀ before command step after, commands.zip steps = before ++ (command, step) :: after →
        (step.state = .tornDown ↔ TornAfter (scope.state = .tornDown) (before ++ [(command, step)])) ∧
        ∀ name, command = .read name → TornAfter (scope.state = .tornDown) before → step.answer = .found none := by
  induction commands generalizing scope t with
  | nil => exact ⟨[], t, rfl, rfl, fun before command step after h => by simp at h⟩
  | cons command commands ih =>
    obtain ⟨answer, scope', t₁, hanswered, hlives⟩ := perform_answered table scope command t
    obtain ⟨steps, t', hrun, hlength, hsteps⟩ := ih scope' t₁
    refine ⟨⟨answer, scope'.state, t₁.counts.live⟩ :: steps, t', ?_, by simp [hlength], ?_⟩
    · have hcounts : (EStateM.get : TransferM Transfer) t₁ = .ok t₁ t₁ := rfl
      simp only [performAll, bind_run, hanswered, hcounts, hrun, pure_run]
    · intro before other step after hsplit
      cases before with
      | nil =>
        cases hsplit
        rw [List.nil_append, tornAfter_cons, tornAfter_nil, tornAfter_nil]
        exact ⟨hlives.torn, hlives.unread⟩
      | cons first before =>
        obtain ⟨rfl, hrest⟩ := List.cons.inj hsplit
        obtain ⟨hstate, hread⟩ := hsteps before other step after hrest
        rw [List.cons_append, tornAfter_cons, tornAfter_cons, ← hlives.torn]
        exact ⟨hstate, hread⟩

end Scope
end ScriptHost
