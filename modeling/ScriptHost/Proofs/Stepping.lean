import ScriptHost.Convert.Plan

/-! Runs of computations with exceptions and a state, one step at a time: what each step does to the
state, and conditions that hold however a computation ends. -/
namespace ScriptHost.Stepping
variable {ε σ ρ α β : Type}

/-! ### With a state -/

@[simp] theorem pure_run (a : α) (s : σ) : (pure a : EStateM ε σ α) s = .ok a s := rfl

@[simp] theorem throw_run (e : ε) (s : σ) : (throw e : EStateM ε σ α) s = .error e s := rfl

@[simp] theorem get_run (s : σ) : (get : EStateM ε σ σ) s = .ok s s := rfl

@[simp] theorem modify_run (f : σ → σ) (s : σ) : (modify f : EStateM ε σ PUnit) s = .ok ⟨⟩ (f s) := rfl

@[simp] theorem bind_run (m : EStateM ε σ α) (f : α → EStateM ε σ β) (s : σ) :
    (m >>= f) s = match m s with
      | .ok a s => f a s
      | .error e s => .error e s := rfl

@[simp] theorem map_run (g : α → β) (m : EStateM ε σ α) (s : σ) :
    (g <$> m) s = match m s with
      | .ok a s => .ok (g a) s
      | .error e s => .error e s := rfl

@[simp] theorem discard_run (m : EStateM ε σ α) (s : σ) :
    (discard m) s = match m s with
      | .ok _ s => .ok ⟨⟩ s
      | .error e s => .error e s := rfl

@[simp] theorem tryCatch_run (m : EStateM ε σ α) (f : ε → EStateM ε σ α) (s : σ) :
    (tryCatch m f) s = match m s with
      | .ok a s => .ok a s
      | .error e s => f e s := by
  change EStateM.tryCatch m f s = _
  unfold EStateM.tryCatch
  cases m s <;> rfl

theorem attempt_run (m : TransferM α) (t : Transfer) :
    TransferM.attempt m t = match m t with
      | .ok a t => .ok (.ok a) t
      | .error f t => .ok (.error f) t := by
  simp only [TransferM.attempt, tryCatch_run, map_run]
  cases m t <;> rfl

/-! ### With a state and a context -/

@[simp] theorem reader_pure_run (a : α) (r : ρ) (s : σ) :
    (pure a : ReaderT ρ (EStateM ε σ) α) r s = .ok a s := rfl

@[simp] theorem reader_throw_run (e : ε) (r : ρ) (s : σ) :
    (throw e : ReaderT ρ (EStateM ε σ) α) r s = .error e s := rfl

@[simp] theorem reader_get_run (r : ρ) (s : σ) :
    (get : ReaderT ρ (EStateM ε σ) σ) r s = .ok s s := rfl

@[simp] theorem reader_modify_run (f : σ → σ) (r : ρ) (s : σ) :
    (modify f : ReaderT ρ (EStateM ε σ) PUnit) r s = .ok ⟨⟩ (f s) := rfl

@[simp] theorem reader_modifyGet_run (f : σ → α × σ) (r : ρ) (s : σ) :
    (modifyGet f : ReaderT ρ (EStateM ε σ) α) r s = .ok (f s).1 (f s).2 := rfl

@[simp] theorem reader_bind_run (m : ReaderT ρ (EStateM ε σ) α)
    (f : α → ReaderT ρ (EStateM ε σ) β) (r : ρ) (s : σ) :
    (m >>= f) r s = match m r s with
      | .ok a s => f a r s
      | .error e s => .error e s := rfl

/-- Where a sequence has ended, both of its parts have. -/
theorem reader_bind_ok {m : ReaderT ρ (EStateM ε σ) α} {f : α → ReaderT ρ (EStateM ε σ) β} {r : ρ} {s s' : σ} {b : β}
    (h : (m >>= f) r s = .ok b s') : ∃ a s₁, m r s = .ok a s₁ ∧ f a r s₁ = .ok b s' := by
  rw [reader_bind_run] at h
  cases hm : m r s with
  | ok a s₁ =>
    rw [hm] at h
    exact ⟨a, s₁, rfl, h⟩
  | error e s₁ =>
    rw [hm] at h
    cases h

@[simp] theorem reader_map_run (g : α → β) (m : ReaderT ρ (EStateM ε σ) α) (r : ρ) (s : σ) :
    (g <$> m) r s = match m r s with
      | .ok a s => .ok (g a) s
      | .error e s => .error e s := rfl

@[simp] theorem reader_discard_run (m : ReaderT ρ (EStateM ε σ) α) (r : ρ) (s : σ) :
    (discard m) r s = match m r s with
      | .ok _ s => .ok ⟨⟩ s
      | .error e s => .error e s := rfl

@[simp] theorem reader_tryCatch_run (m : ReaderT ρ (EStateM ε σ) α)
    (f : ε → ReaderT ρ (EStateM ε σ) α) (r : ρ) (s : σ) :
    (tryCatch m f) r s = match m r s with
      | .ok a s => .ok a s
      | .error e s => f e r s := by
  change EStateM.tryCatch (m r) (fun e => f e r) s = _
  unfold EStateM.tryCatch
  cases m r s <;> rfl

end Stepping

/-! ### Conditions on the end -/

/-- A computation from a state ends, with an answer or an exception, as a condition says. -/
def Ends {ε σ α : Type} (m : EStateM ε σ α) (s : σ) (post : Except ε α → σ → Prop) : Prop :=
  match m s with
  | .ok a s => post (.ok a) s
  | .error e s => post (.error e) s

namespace Ends
variable {ε σ α β : Type} {s : σ} {post : Except ε β → σ → Prop}

theorem of_ok {m : EStateM ε σ β} {b : β} {s' : σ} (h : m s = .ok b s') (hp : post (.ok b) s') :
    Ends m s post := by
  unfold Ends
  rw [h]
  exact hp

theorem of_error {m : EStateM ε σ β} {e : ε} {s' : σ} (h : m s = .error e s')
    (hp : post (.error e) s') : Ends m s post := by
  unfold Ends
  rw [h]
  exact hp

theorem at_ok {m : EStateM ε σ β} {b : β} {s' : σ} (h : Ends m s post) (hm : m s = .ok b s') :
    post (.ok b) s' := by
  unfold Ends at h
  rwa [hm] at h

theorem at_error {m : EStateM ε σ β} {e : ε} {s' : σ} (h : Ends m s post)
    (hm : m s = .error e s') : post (.error e) s' := by
  unfold Ends at h
  rwa [hm] at h

theorem mono {m : EStateM ε σ β} {pre : Except ε β → σ → Prop} (h : Ends m s pre)
    (hp : ∀ r s', pre r s' → post r s') : Ends m s post := by
  cases hm : m s with
  | ok b s' => exact of_ok hm (hp _ _ (h.at_ok hm))
  | error e s' => exact of_error hm (hp _ _ (h.at_error hm))

/-- What follows a computation starts where that ended, unless it raised. -/
theorem bind {m : EStateM ε σ α} {f : α → EStateM ε σ β} {mid : Except ε α → σ → Prop}
    (h : Ends m s mid) (answered : ∀ a s', mid (.ok a) s' → Ends (f a) s' post)
    (raised : ∀ e s', mid (.error e) s' → post (.error e) s') : Ends (m >>= f) s post := by
  cases hm : m s with
  | ok a s' =>
    have hf := answered a s' (h.at_ok hm)
    unfold Ends at hf ⊢
    simpa [hm] using hf
  | error e s' => exact of_error (by simp [hm]) (raised e s' (h.at_error hm))

theorem bind_of_ok {m : EStateM ε σ α} {f : α → EStateM ε σ β} {a : α} {s' : σ} (hm : m s = .ok a s')
    (h : Ends (f a) s' post) : Ends (m >>= f) s post := by
  unfold Ends at h ⊢
  simpa [hm] using h

/-- What follows a computation whose exception is kept starts where that ended, however it did. -/
theorem bind_attempt {m : TransferM α} {f : Except Fault α → TransferM β} {t : Transfer}
    {mid : Except Fault α → Transfer → Prop} {post : Except Fault β → Transfer → Prop}
    (h : Ends m t mid) (ended : ∀ r t', mid r t' → Ends (f r) t' post) :
    Ends (TransferM.attempt m >>= f) t post := by
  cases hm : m t with
  | ok a t' => exact bind_of_ok (by rw [Stepping.attempt_run, hm]) (ended _ _ (h.at_ok hm))
  | error e t' => exact bind_of_ok (by rw [Stepping.attempt_run, hm]) (ended _ _ (h.at_error hm))

end Ends
end ScriptHost
