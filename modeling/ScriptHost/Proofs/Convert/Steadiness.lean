import ScriptHost.Proofs.Convert.Ordinary
import ScriptHost.Proofs.Guest.Attributes

/-! Objects and classes that answer steadily because no function of a script decides what they answer. -/
namespace ScriptHost.Guest
variable {n id home value : Identity} {g g' : Guest} {name : String}

open GuestM Stepping

/-! ### Later states -/

theorem Later.isPlainValue_eq (h : g.Later n g') (hk : g.WellKept n) (hv : g.Holds value) :
    g'.isPlainValue value = g.isPlainValue value := by
  have hget : ∀ key : String, ¬ (Text.ofString key).IsEntryName → g'.special? value key = g.special? value key :=
    fun key hkey => h.special?_eq hk hv hkey
  unfold isPlainValue
  rw [hget "__get__" (by decide), hget "__set__" (by decide), hget "__delete__" (by decide)]
  rcases h.body_cases hk hv with he | ⟨d, d', hd, hd'⟩
  · rw [he]
  · rw [hd, hd']

theorem Later.isPlainEntry_iff (h : g.Later n g') (hk : g.WellKept n) (name : Text) :
    g'.IsPlainEntry (g.entryIn home name) ↔ g.IsPlainEntry (g.entryIn home name) := by
  cases he : g.entryIn home name with
  | none => rfl
  | some entry =>
    cases entry with
    | scripted value =>
      simp only [IsPlainEntry, h.isPlainValue_eq hk (hk.grounded.entryIn he)]
    | own | nothing => rfl

theorem Later.isHookFree_eq (h : g.Later n g') (hk : g.WellKept n) (hid : g.Holds id) :
    g'.isHookFree id = g.isHookFree id := by
  have hget : ∀ key : String, ¬ (Text.ofString key).IsEntryName → g'.special? id key = g.special? id key :=
    fun key hkey => h.special?_eq hk hid hkey
  rw [isHookFree, hget "__getattribute__" (by decide), hget "__getattr__" (by decide), isHookFree]

private theorem hasAttribute_of_run {found : Option Identity}
    (h : attribute? id (.ofString name) g.topContext g = .ok found g') :
    g.hasAttribute id name = found.isSome := by
  simp only [hasAttribute, atTop_eq, h]

/-! ### Marks -/

/-- An object of the interpreter's own class has the mark only if that was set on it. -/
theorem isSteadilyMarked_of_own (hid : g.Holds id) (hne : id ≠ n) (hc : g.home? id = Option.none)
    (hsettled : isSettled (g.body id) = true) (hattributes : ∀ d, g.ownAttributes? id = some d → g.Holds d) :
    g.IsSteadilyMarked n id := by
  have hmarked : ∀ g', g.Later n g' → g'.isMarked id = (g.ownAttribute? id (.ofString skipMark)).isSome := by
    intro g' h
    rw [isMarked, isExact, h.home?_eq hid, hc, h.body_eq hid hne, hsettled]
    have howned : g'.ownAttributes? id = g.ownAttributes? id := by
      rw [ownAttributes?, h.body_eq hid hne, h.object id hid hne, ownAttributes?]
    rw [Option.isNone_none, Bool.and_self, if_pos rfl, ownAttribute?, howned, ownAttribute?]
    cases hd : g.ownAttributes? id with
    | none => rfl
    | some d => rw [Option.bind_some, Option.bind_some, h.lookup_eq (hattributes d hd) (by decide)]
  intro g' h
  refine ⟨by rw [hmarked g' h, hmarked g (.refl n g)], g', ?_, .refl g'⟩
  simp [atTop_eq, askForMark, isExact, h.home?_eq hid, hc, h.body_eq hid hne, hsettled]

/-- An object of a script's class has the mark if that was set on it or its class holds it. -/
theorem isSteadilyMarked_of_instance (hk : g.WellKept n) (hid : g.Holds id) (hne : id ≠ n)
    (hc : g.home? id = some home) (hsettled : isSettled (g.body id) = true) (hobject : g.isClassObject id = false)
    (hfree : g.isHookFree id = true) (hmark : g.IsPlainEntry (g.entryIn home (.ofString skipMark))) :
    g.IsSteadilyMarked n id := by
  have hrun : ∀ g', g.Later n g' → g'.home? id = some home ∧ ∃ found g'',
      attribute? id (.ofString skipMark) g'.topContext g' = .ok found g'' ∧ g'.Adds g'' ∧
        found.isSome = ((g.ownAttribute? id (.ofString skipMark)).isSome ||
          (g.entryIn home (.ofString skipMark)).isSome) := by
    intro g' h
    have hc' : g'.home? id = some home := by rw [h.home?_eq hid, hc]
    have hentry : g'.entryIn home (.ofString skipMark) = g.entryIn home (.ofString skipMark) :=
      h.entryIn_eq hk (hk.grounded.home hc) (by decide)
    rw [← h.ownAttribute?_eq hk hid (by decide), ← hentry]
    refine ⟨hc', attribute?_of_instance (by decide) hc' ?_ ?_ ?_ ?_ g'.topContext⟩
    · rw [h.body_eq hid hne, hsettled]
    · rw [isClassObject, h.body_eq hid hne]
      exact hobject
    · rw [h.isHookFree_eq hk hid, hfree]
    · rw [hentry, h.isPlainEntry_iff hk]
      exact hmark
  have hmarked : ∀ g', g.Later n g' → g'.isMarked id = ((g.ownAttribute? id (.ofString skipMark)).isSome ||
      (g.entryIn home (.ofString skipMark)).isSome) := by
    intro g' h
    obtain ⟨hc', found, g'', hasked, _, hfound⟩ := hrun g' h
    simp [isMarked, isExact, hc', hasAttribute_of_run hasked, hfound]
  intro g' h
  obtain ⟨hc', found, g'', hasked, hadds, _⟩ := hrun g' h
  refine ⟨by rw [hmarked g' h, hmarked g (.refl n g)], g'', ?_, hadds.grows⟩
  simp [atTop_eq, askForMark, isExact, hc', hasked]

/-! ### Classes -/

/-- A class answers to a name that it holds, or that its own class holds. -/
theorem classAnswers_of_plain {made : ScriptClass} (hname : IsUncommon name)
    (hmade : g.body home = .classObject made) (hmaker : ∀ maker, g.home? home = some maker →
      g.isHookFree home = true ∧ g.IsPlainEntry (g.entryIn maker (.ofString name))) :
    g.classAnswers home name = ((g.entryIn home (.ofString name)).isSome ||
      (g.home? home).any fun maker => (g.entryIn maker (.ofString name)).isSome) := by
  unfold classAnswers
  cases he : g.entryIn home (.ofString name) with
  | some entry => rfl
  | none =>
    cases hm : g.home? home with
    | none => rfl
    | some maker =>
      obtain ⟨hfree, hplain⟩ := hmaker maker hm
      obtain ⟨found, g', hrun, _, hfound⟩ := attribute?_of_class hname hmade hm hfree he hplain g.topContext
      simp [hasAttribute_of_run hrun, hfound]

theorem answersSteadily_of_plain {made : ScriptClass} (hk : g.WellKept n) (hname : IsUncommon name)
    (hentry : ¬ (Text.ofString name).IsEntryName) (hhome : g.Holds home) (hmade : g.body home = .classObject made)
    (hmaker : ∀ maker, g.home? home = some maker →
      g.isHookFree home = true ∧ g.IsPlainEntry (g.entryIn maker (.ofString name))) :
    g.AnswersSteadily n home name := by
  intro g' h
  have hmade' : g'.body home = .classObject made := h.body_of_ne_dict hk hhome hmade nofun
  have hmaker' : ∀ maker, g'.home? home = some maker →
      g'.isHookFree home = true ∧ g'.IsPlainEntry (g'.entryIn maker (.ofString name)) := by
    intro maker hm
    rw [h.home?_eq hhome] at hm
    obtain ⟨hfree, hplain⟩ := hmaker maker hm
    rw [h.isHookFree_eq hk hhome, h.entryIn_eq hk (hk.grounded.home hm) hentry, h.isPlainEntry_iff hk]
    exact ⟨hfree, hplain⟩
  rw [classAnswers_of_plain hname hmade' hmaker', classAnswers_of_plain hname hmade hmaker,
    h.entryIn_eq hk hhome hentry, h.home?_eq hhome]
  cases hm : g.home? home with
  | none => rfl
  | some maker => rw [Option.any_some, Option.any_some, h.entryIn_eq hk (hk.grounded.home hm) hentry]

end ScriptHost.Guest
