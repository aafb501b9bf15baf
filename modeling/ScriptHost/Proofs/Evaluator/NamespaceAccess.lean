import ScriptHost.Proofs.Convert.Standing
import ScriptHost.Proofs.Evaluator.Handing
import ScriptHost.Proofs.Evaluator.SessionStart
import ScriptHost.Proofs.Guest.Naming

/-! Access of code to a namespace as an object: what gives it, and that an item that is set in it is a name. -/
namespace ScriptHost
open Stepping

namespace Guest
variable {g g' : Guest} {n module attributes f : Identity} {names : Text → Option Identity}

/-- A namespace is a dictionary. -/
theorem IsNamespace.body (h : g.IsNamespace n names) : g.body n = .dict (g.entries n) := by
  have hdict := h.dict
  rw [isDict] at hdict
  rw [Guest.entries]
  split at hdict
  · next entries hbody => rw [hbody]
  · cases hdict

/-- A module of built-in names in which the function that gives the namespace of the code that calls it stands under its
name. -/
structure NamesGlobals (g : Guest) (module attributes f : Identity) : Prop where
  filed : g.Holds module ∧ g.body module = .module attributes
  space : g.IsNamespace attributes (g.lookup attributes)
  found : g.lookup attributes (.ofString "globals") = some f
  function : g.Holds f ∧ g.body f = .builtin "globals" ∧ g.home? f = none

theorem NamesGlobals.kept (h : g.NamesGlobals module attributes f) (hproceeds : g.Proceeds (fun _ => False) g') :
    g'.NamesGlobals module attributes f where
  filed := ⟨hproceeds.holds h.filed.1, (hproceeds.body_eq h.filed.1 id).trans h.filed.2⟩
  space := by
    have hsame : g'.lookup attributes = g.lookup attributes := funext fun t => hproceeds.lookup_eq h.space.held id t
    rw [hsame]
    exact h.space.kept hproceeds
  found := (hproceeds.lookup_eq h.space.held id _).trans h.found
  function := by
    obtain ⟨hheld, hbody, hexact⟩ := h.function
    refine ⟨hproceeds.holds hheld, (hproceeds.body_eq hheld id).trans hbody, ?_⟩
    rw [home?, hproceeds.object f hheld id, ← home?, hexact]

end Guest

namespace GuestM
open Guest
variable {g : Guest} {n : Identity} {names : Text → Option Identity}

/-- An item under a text is a name of the namespace. -/
theorem setItem_isNamespace (h : g.IsNamespace n names) {name : String} {key : Identity}
    (hkey : g.body key = .text (.ofString name)) (hexact : g.home? key = Option.none) (value : Identity)
    (context : Context) : ∃ g', setItem n key value context g = .ok ⟨⟩ g' ∧ g.Proceeds (· = n) g' ∧
      g'.IsNamespace n fun other => if .ofString name = other then some value else names other := by
  have hform : formIn (g.entries n) key context g = .ok [.text (.ofString name)] g := by
    have htells : (g.body key).Tells (.string name) := hkey ▸ .text (Text.encode_ofString name)
    have hrun := keyForm_of_tells hexact htells context
    rw [hkey] at hrun
    refine formIn_of_open hrun rfl fun entry hentry => ?_
    obtain ⟨t, hform, -⟩ := h.keys entry hentry
    rw [hform]
    rfl
  have hnone (name : String) : g.special? n name = Option.none := by simp [special?, h.own]
  refine ⟨_, ?_, proceeds_withBody h.held _, h.insert hkey value⟩
  unfold setItem specially? setItemData setEntry
  simp only [reader_bind_run, reader_get_run, hnone, h.body, reader_pure_run, hform, reader_modify_run,
    Option.isNone_none, Option.isSome_none, Bool.false_and, if_true, if_false, Bool.false_eq_true]

private theorem splitOn_globals : "globals".splitOn "." = ["globals"] := splitOn_of_not_mem (c := '.') (by decide)

/-- The built-in function gives the namespace of the code that calls it. -/
private theorem callTo_globals {f : Identity} (hbody : g.body f = .builtin "globals") (hexact : g.home? f = Option.none)
    (depth : Nat) (place : Place) : callTo (depth + 1) place f [] g = .ok place.globals g := by
  have hnone : g.special? f "__call__" = Option.none := by simp [special?, hexact]
  have hfunction (context : Context) : callBuiltin "globals" [] context g = .ok context.place.globals g := by
    have hclass : Builtin.isClass "globals" = false := by decide +kernel
    have harity : Builtin.callArity "globals" = .none := by decide +kernel
    unfold callBuiltin
    simp only [hclass, Bool.false_eq_true, if_false, splitOn_globals, harity]
    rfl
  have hobject (context : Context) : callObject f [] context g = .ok context.place.globals g := by
    unfold callObject specially? bodyOf
    simp only [reader_bind_run, reader_get_run, reader_pure_run, hnone, hbody, hfunction]
  unfold callTo bodyOf
  simp only [reader_bind_run, reader_get_run, reader_pure_run, hbody]
  exact hobject { place, call := callTo depth }

/-- The name of that function leads to it, unless the namespace has a name like that. -/
private theorem lookupDotted_globals {context : Context} {module f : Identity}
    (h : g.NamesGlobals module context.place.builtins f)
    (hfree : g.lookup context.place.globals (.ofString "globals") = Option.none) :
    lookupDotted "globals" context g = .ok f g := by
  have hexact : g.isExact context.place.builtins = true := by simp [Guest.isExact, h.space.own]
  have hbuiltin : builtinNamed? "globals" context g = .ok (some f) g := by
    unfold builtinNamed?
    simp only [reader_bind_run, place_run, reader_get_run, h.space.body, hexact, reader_pure_run, ← h.found]
  simp only [lookupDotted, splitOn_globals, lookupName, reader_bind_run, reader_get_run, place_run, hfree, hbuiltin]
  rfl

/-- Code binds a name of its namespace to the namespace itself. -/
theorem runScript_globals {script : Script} {line depth : Nat} {target : String} {module attributes f : Identity}
    {context : Context} (hread : Reading.handedOver script = .ok [(line, .assign target (.call (.name "globals") []))])
    (htarget : splitLastDot target = ("", target)) (hcall : context.call = callTo (depth + 1))
    (hg : g.NamesGlobals module attributes f) (h : g.IsNamespace n names)
    (hfree : names (.ofString "globals") = Option.none) (hbuiltins : names (.ofString "__builtins__") = some module) :
    ∃ g', runScript n script context g = .ok ⟨⟩ g' ∧ g.Proceeds (· = n) g' ∧
      g'.IsNamespace n fun other => if .ofString target = other then some n else names other := by
  obtain ⟨builtins, g₁, hrun, -, -, hplace⟩ := runScript_single hread rfl h.held context
  obtain ⟨rfl, hkept⟩ := hplace module attributes ((h.lookup _).trans hbuiltins) hg.filed.2
  have h₁ := h.kept hkept
  have hg₁ := hg.kept hkept
  obtain ⟨here, hhere⟩ : ∃ here : Place, here = { globals := n, builtins, file := "<string>", line, script := g₁.scripts } :=
    ⟨_, rfl⟩
  have hcallee : lookupDotted "globals" { context with place := here } g₁ = .ok f g₁ := by
    subst hhere
    exact lookupDotted_globals hg₁ ((h₁.lookup _).trans hfree)
  have hown : context.call here f [] g₁ = .ok here.globals g₁ :=
    hcall ▸ callTo_globals hg₁.function.2.1 hg₁.function.2.2 depth here
  obtain ⟨g', hset, hproceeds, hnamed⟩ := setName_isNamespace h₁ (.ofString target) n { context with place := here }
  refine ⟨g', ?_, hkept.relax.trans hproceeds, hnamed⟩
  have hexecute : execute (.assign target (.call (.name "globals") [])) { context with place := here } g₁ = .ok ⟨⟩ g' := by
    subst hhere
    simp only [execute, evaluate, evaluateItems, assign, htarget, reader_bind_run, reader_pure_run, hcallee, call, hown,
      place_run, hset]
  rw [hrun, ← hhere]
  simp only [inFrame, reader_tryCatch_run, atPlace, hexecute]

/-- A text that stands in code is an object of its own class. -/
theorem literalText_run (t : Text) (context : Context) (g : Guest) : ∃ id g', literalText t context g = .ok id g' ∧
    g.Adds g' ∧ g'.home? id = Option.none ∧ g'.body id = .text t := by
  obtain ⟨script, hscript⟩ : ∃ script, literalText t context g = internIn script (.text t) context g := ⟨_, rfl⟩
  obtain ⟨id, g', hrun, hadds, -, hexact, hbody⟩ := internIn_run script (.text t) context g
  exact ⟨id, g', hscript.trans hrun, hadds, by simpa [Guest.isExact] using hexact, hbody⟩

/-- Code that has a name for a namespace binds a name there. -/
theorem runScript_setItem {script : Script} {line : Nat} {source name : String} {globals : Identity}
    (hread : Reading.handedOver script = .ok [(line, .setItem source (.text (.ofString name)) (.name source))])
    (hsource : source.splitOn "." = [source]) (hne : source ≠ "__builtins__") (hheld : g.Holds globals)
    (hdict : g.isDict globals = true) (hbound : g.lookup globals (.ofString source) = some n) (happart : n ≠ globals)
    (h : g.IsNamespace n names) (context : Context) : ∃ g', runScript globals script context g = .ok ⟨⟩ g' ∧
      g'.IsNamespace n (fun other => if .ofString name = other then some n else names other) ∧
      ∀ other, other ≠ "__builtins__" → g'.lookup globals (.ofString other) = g.lookup globals (.ofString other) := by
  obtain ⟨builtins, g₁, hrun, hbinds, hproceeds, -⟩ := runScript_single hread rfl hheld context
  have h₁ := h.beside hproceeds happart fun id hid => hid ▸ hdict
  have hbound₁ : g₁.lookup globals (.ofString source) = some n := (hbinds.kept source (by simpa using hne)).trans hbound
  obtain ⟨here, hhere⟩ : ∃ here : Context, here = { context with
    place := { globals, builtins, file := "<string>", line, script := g₁.scripts } } := ⟨_, rfl⟩
  have hscope : here.place.globals = globals := by rw [hhere]
  obtain ⟨key, g₂, hkeyed, hadds, hexact, hkey⟩ := literalText_run (.ofString name) here g₁
  obtain ⟨g', hset, hproceeds', hnamed⟩ := setItem_isNamespace (h₁.kept hadds.proceeds) hkey hexact n here
  refine ⟨g', ?_, hnamed, fun other hother => ?_⟩
  · have htarget : lookupDotted source here g₁ = .ok n g₁ := by
      subst hhere
      simp only [lookupDotted, hsource, lookupName, reader_bind_run, reader_get_run, place_run, hbound₁]
      rfl
    have hexecute : execute (.setItem source (.text (.ofString name)) (.name source)) here g₁ = .ok ⟨⟩ g' := by
      simp only [execute, evaluate, reader_bind_run, htarget, hkeyed, hset]
    rw [hrun]
    subst hhere
    simp only [inFrame, reader_tryCatch_run, atPlace, hexecute]
  · have hheld₁ := hproceeds.holds hheld
    rw [hproceeds'.lookup_eq (hadds.holds hheld₁) (Ne.symm happart),
      hadds.proceeds.lookup_eq (W := fun _ => False) hheld₁ not_false, hbinds.kept other (by simpa using hother)]

/-- A session whose statement does so has a name for its namespace. -/
theorem makeNamespace_globals {target : String} {module attributes f : Identity} {context : Context} {depth : Nat}
    (htarget : splitLastDot target = ("", target)) (hcall : context.call = callTo (depth + 1)) (hg : g.HasSystem)
    (hmodule : g.standardModules.lookup "builtins" = some module) (hnames : g.NamesGlobals module attributes f) :
    ∃ n g', ∃ names : Text → Option Identity,
      makeNamespace [.lines [.assign target (.call (.name "globals") [])]] context g = .ok n g' ∧
      g.Proceeds (fun _ => False) g' ∧ ¬ g.Holds n ∧
      g'.IsNamespace n (fun other => if .ofString target = other then some n else names other) ∧
      ∀ name ∉ ["__name__", "__doc__", "__package__", "__loader__", "__spec__", "__builtins__"],
        names (.ofString name) = Option.none := by
  obtain ⟨n, g₁, names, module', hmade, hproceeds, hnew, hspace, hmodule', hbuiltins, hother⟩ := makeNamespace_nil hg context
  rw [hmodule] at hmodule'
  cases hmodule'
  obtain ⟨r, hr⟩ : ∃ r : Record, ⟨.debug, .handle, "[Handles] Session import: " ++
    (Script.lines [.assign target (.call (.name "globals") [])]).written⟩ = r := ⟨_, rfl⟩
  have hnoted := hproceeds.trans (Guest.proceeds_noted g₁ r)
  obtain ⟨g', hrun, hproceeds', hnamed⟩ := runScript_globals (g := g₁.noted r)
    (show Reading.handedOver (.lines [.assign target (.call (.name "globals") [])]) =
      .ok [(1, .assign target (.call (.name "globals") []))] from rfl) htarget hcall (hnames.kept hnoted)
    (hspace.kept (Guest.proceeds_noted g₁ r)) (hother "globals" (by decide)) hbuiltins
  refine ⟨n, g', names, ?_, ?_, hnew, hnamed, hother⟩
  · have hstatements : sessionStatements n [.lines [.assign target (.call (.name "globals") [])]] context g₁ = .ok ⟨⟩ g' := by
      have hrecord : record .debug .handle ("[Handles] Session import: " ++
          (Script.lines [.assign target (.call (.name "globals") [])]).written) context g₁ = .ok ⟨⟩ (g₁.noted r) := by
        rw [← hr]
        rfl
      simp only [sessionStatements, List.forM_eq_forM, List.forM_cons, List.forM_nil, reader_bind_run, reader_pure_run,
        hrecord, hrun]
    rw [makeNamespace_run, hmade]
    dsimp only
    rw [hstatements]
  · exact (hnoted.relax.trans hproceeds').of_new fun id hid hheld => hnew (hid ▸ hheld)

end GuestM
end ScriptHost
