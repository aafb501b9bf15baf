import ScriptHost.Evaluator.Reload
import ScriptHost.Proofs.Guest.Proceeding
import ScriptHost.Proofs.Handle.Registry

/-! A reload pass: whatever the modules do when they run again, each one that the table had at the start is visited
once, and the report says what became of it. -/
namespace ScriptHost
open Stepping

namespace GuestM
variable {context : Context} {policy : ReloadPolicy} {directories : List String} {name : String} {module : Identity}
  {g g' : Guest}

/-! ### What a module says of itself -/

/-- An attribute of a module is read: what is found is a string, or nothing if the attribute is missing, raises or is no
string. -/
def Reads (context : Context) (module : Identity) (name : String) (g : Guest) (found : Option String) (g' : Guest) :
    Prop :=
  (∃ value, attributeOf module name context g = .ok value g' ∧ found = (g'.text? value).bind Text.toString?) ∨
    ∃ f, attributeOf module name context g = .error f g' ∧ found = .none

theorem Reads.run {found : Option String} (h : Reads context module name g found g') :
    stringAttribute module name context g = .ok found g' := by
  unfold stringAttribute
  rw [reader_bind_run, reader_tryCatch_run, reader_map_run]
  obtain ⟨value, hrun, rfl⟩ | ⟨f, hrun, rfl⟩ := h
  · simp only [hrun, bodyOf, reader_bind_run, reader_get_run, reader_pure_run, Guest.text?]
    cases g'.body value <;> rfl
  · simp only [hrun, reader_pure_run]

theorem reads_total (context : Context) (module : Identity) (name : String) (g : Guest) :
    ∃ found g', Reads context module name g found g' := by
  cases hrun : attributeOf module name context g with
  | ok value g' => exact ⟨_, g', .inl ⟨value, hrun, rfl⟩⟩
  | error f g' => exact ⟨.none, g', .inr ⟨f, hrun, rfl⟩⟩

/-- The interpreter is asked whether a file is the compiled form of a source file; it cannot tell if its own module for
that cannot be imported. -/
def FindsCached (context : Context) (file : String) (g : Guest) (found : Bool) (g' : Guest) : Prop :=
  (∃ util, hostImport "importlib.util" context g = .ok util g' ∧ found = Path.isCompiled file) ∨
    ∃ f, hostImport "importlib.util" context g = .error f g' ∧ found = false

theorem FindsCached.run {file : String} {found : Bool} (h : FindsCached context file g found g') :
    hasCachedSource file context g = .ok found g' := by
  unfold hasCachedSource
  rw [reader_bind_run, reader_tryCatch_run, reader_map_run]
  obtain ⟨util, hrun, rfl⟩ | ⟨f, hrun, rfl⟩ := h <;> simp only [hrun, reader_pure_run]

theorem findsCached_total (context : Context) (file : String) (g : Guest) :
    ∃ found g', FindsCached context file g found g' := by
  cases hrun : hostImport "importlib.util" context g with
  | ok util g' => exact ⟨_, g', .inl ⟨util, hrun, rfl⟩⟩
  | error f g' => exact ⟨false, g', .inr ⟨f, hrun, rfl⟩⟩

/-- A module names its file and has a name of its own. -/
def Names (context : Context) (module : Identity) (g : Guest) (file own : String) (g' : Guest) : Prop :=
  ∃ g₁, Reads context module "__file__" g (some file) g₁ ∧ Reads context module "__name__" g₁ (some own) g'

/-- A module is out of the question: one of its names is protected, or the path of its file begins with the steps of a
directory that is left out. -/
def IsBarred (policy : ReloadPolicy) (directories : List String) (name file own : String) : Prop :=
  own ∈ policy.protectedNames ∨ name ∈ policy.protectedNames ∨
    ∃ directory ∈ directories, Path.components directory <+: Path.components file

section
variable (policy : ReloadPolicy) (directories : List String) (context : Context) (name : String) (module : Identity)

/-- A pass leaves a module alone: that names no file or has no name of its own, is out of the question, or has neither a
source file nor a compiled form of one. -/
inductive LeavesAlone (g : Guest) : Guest → Prop
  | noFile {g' : Guest} (hfile : Reads context module "__file__" g .none g') : LeavesAlone g g'
  | noName {file : String} {g₁ g' : Guest} (hfile : Reads context module "__file__" g (some file) g₁)
      (hown : Reads context module "__name__" g₁ .none g') : LeavesAlone g g'
  | barred {file own : String} {g' : Guest} (hnames : Names context module g file own g')
      (hbarred : IsBarred policy directories name file own) : LeavesAlone g g'
  | noSource {file own : String} {g₁ g' : Guest} (hnames : Names context module g file own g₁)
      (hfree : ¬ IsBarred policy directories name file own) (hsource : Path.isSource file = false)
      (hcached : FindsCached context file g₁ false g') : LeavesAlone g g'

/-- A pass takes a module up: it is not out of the question, and there is a source file. -/
inductive TakesUp (g : Guest) : Guest → Prop
  | source {file own : String} {g' : Guest} (hnames : Names context module g file own g')
      (hfree : ¬ IsBarred policy directories name file own) (hsource : Path.isSource file = true) : TakesUp g g'
  | cached {file own : String} {g₁ g' : Guest} (hnames : Names context module g file own g₁)
      (hfree : ¬ IsBarred policy directories name file own) (hsource : Path.isSource file = false)
      (hcached : FindsCached context file g₁ true g') : TakesUp g g'

end

private theorem isReloadable_of_names {file own : String} {g₁ : Guest} (h : Names context module g file own g₁) :
    isReloadable policy directories name module context g =
      (if policy.protectedNames.contains own || policy.protectedNames.contains name then pure false
       else if directories.any (Path.startsWith file) then pure false
       else if Path.isSource file then pure true
       else hasCachedSource file : GuestM Bool) context g₁ := by
  obtain ⟨g₀, hfile, hown⟩ := h
  unfold isReloadable
  simp only [reader_bind_run, hfile.run, hown.run]

private theorem isBarred_iff {file own : String} : IsBarred policy directories name file own ↔
    (policy.protectedNames.contains own || policy.protectedNames.contains name) = true ∨
      directories.any (Path.startsWith file) = true := by
  simp [IsBarred, Path.startsWith, or_assoc]

theorem LeavesAlone.run (h : LeavesAlone policy directories context name module g g') :
    isReloadable policy directories name module context g = .ok false g' := by
  cases h with
  | noFile hfile => simp only [isReloadable, reader_bind_run, hfile.run, reader_pure_run]
  | noName hfile hown => simp only [isReloadable, reader_bind_run, hfile.run, hown.run, reader_pure_run]
  | barred hnames hbarred =>
    rw [isReloadable_of_names hnames]
    split
    · rfl
    · next hnot =>
      rw [if_pos ((isBarred_iff.mp hbarred).resolve_left hnot)]
      rfl
  | noSource hnames hfree hsource hcached =>
    rw [isBarred_iff, not_or] at hfree
    rw [isReloadable_of_names hnames, if_neg hfree.1, if_neg hfree.2, if_neg (Bool.eq_false_iff.mp hsource)]
    exact hcached.run

theorem TakesUp.run (h : TakesUp policy directories context name module g g') :
    isReloadable policy directories name module context g = .ok true g' := by
  cases h with
  | source hnames hfree hsource =>
    rw [isBarred_iff, not_or] at hfree
    rw [isReloadable_of_names hnames, if_neg hfree.1, if_neg hfree.2, if_pos hsource]
    rfl
  | cached hnames hfree hsource hcached =>
    rw [isBarred_iff, not_or] at hfree
    rw [isReloadable_of_names hnames, if_neg hfree.1, if_neg hfree.2, if_neg (Bool.eq_false_iff.mp hsource)]
    exact hcached.run

/-- A module is taken up or left alone, whatever it does when it is asked. -/
theorem takesUp_or_leavesAlone (policy : ReloadPolicy) (directories : List String) (context : Context) (name : String)
    (module : Identity) (g : Guest) :
    (∃ g', TakesUp policy directories context name module g g') ∨
      ∃ g', LeavesAlone policy directories context name module g g' := by
  obtain ⟨file?, g₁, hfile⟩ := reads_total context module "__file__" g
  rcases file? with _ | file
  · exact .inr ⟨g₁, .noFile hfile⟩
  obtain ⟨own?, g₂, hown⟩ := reads_total context module "__name__" g₁
  rcases own? with _ | own
  · exact .inr ⟨g₂, .noName hfile hown⟩
  have hnames : Names context module g file own g₂ := ⟨g₁, hfile, hown⟩
  by_cases hbarred : IsBarred policy directories name file own
  · exact .inr ⟨g₂, .barred hnames hbarred⟩
  cases hsource : Path.isSource file with
  | true => exact .inl ⟨g₂, .source hnames hbarred hsource⟩
  | false =>
    obtain ⟨found, g₃, hcached⟩ := findsCached_total context file g₂
    cases found with
    | true => exact .inl ⟨g₃, .cached hnames hbarred hsource hcached⟩
    | false => exact .inr ⟨g₃, .noSource hnames hbarred hsource hcached⟩

theorem LeavesAlone.not_takesUp {g'' : Guest} (h : LeavesAlone policy directories context name module g g') :
    ¬ TakesUp policy directories context name module g g'' := fun htakes => by
  cases h.run.symm.trans htakes.run

end GuestM

/-! ### Visits -/

namespace ReloadPass
open GuestM

/-- What became of a module in a pass. -/
inductive Fate where
  | skipped
  | reloaded
  | failed (message : String)
  deriving DecidableEq

/-- A visit of a pass to a module: its name, and the interpreter when the visit begins and when it is over. -/
structure Visit where
  target : ReloadTarget
  name : String
  before : Guest
  fate : Fate
  after : Guest

/-- The message of a module whose reload has raised, with its name. -/
def Visit.failure? (visit : Visit) : Option (String × String) :=
  match visit.fate with
  | .failed message => some (visit.name, message)
  | _ => none

/-- A module is left alone as it is found when it is visited, or it is taken up and run again, once, and its fate is
how that ends. -/
def Visit.IsDone (policy : ReloadPolicy) (directories : List String) (context : Context) (visit : Visit) : Prop :=
  match visit.fate with
  | .skipped => LeavesAlone policy directories context visit.name visit.target.module visit.before visit.after
  | .reloaded => ∃ g, TakesUp policy directories context visit.name visit.target.module visit.before g ∧
      reloadModule visit.target.module context
        (g.noted ⟨.debug, .reload, "[Reload] reloading " ++ visit.name⟩) = .ok ⟨⟩ visit.after
  | .failed message => ∃ g f g', TakesUp policy directories context visit.name visit.target.module visit.before g ∧
      reloadModule visit.target.module context
        (g.noted ⟨.debug, .reload, "[Reload] reloading " ++ visit.name⟩) = .error f g' ∧ message = f.message ∧
      visit.after = g'.noted ⟨.warn, .reload, "[Reload] failed to reload " ++ visit.name ++ ": " ++ message⟩

/-- A visit skips exactly the modules that are to be left alone when it begins. -/
theorem Visit.IsDone.skipped_iff {policy : ReloadPolicy} {directories : List String} {context : Context} {visit : Visit}
    (h : visit.IsDone policy directories context) : visit.fate = .skipped ↔
      ∃ g', LeavesAlone policy directories context visit.name visit.target.module visit.before g' := by
  unfold Visit.IsDone at h
  cases hfate : visit.fate with
  | skipped =>
    rw [hfate] at h
    exact iff_of_true rfl ⟨_, h⟩
  | reloaded =>
    rw [hfate] at h
    obtain ⟨g, htakes, -⟩ := h
    exact iff_of_false nofun fun ⟨_, hleaves⟩ => hleaves.not_takesUp htakes
  | failed message =>
    rw [hfate] at h
    obtain ⟨g, -, -, htakes, -⟩ := h
    exact iff_of_false nofun fun ⟨_, hleaves⟩ => hleaves.not_takesUp htakes

/-- Visits lead from an interpreter to another one, each beginning where the one before is over. -/
def Leads (g : Guest) : List Visit → Guest → Prop
  | [], g' => g = g'
  | visit :: visits, g' => visit.before = g ∧ Leads visit.after visits g'

/-- A report with one visit more. -/
def adding (report : ReloadReport) (visit : Visit) : ReloadReport :=
  let report := { report with considered := report.considered + 1 }
  match visit.fate with
  | .skipped => { report with skipped := report.skipped + 1 }
  | .reloaded => { report with reloaded := report.reloaded ++ [visit.name] }
  | .failed message => { report with failed := report.failed ++ [(visit.name, message)] }

/-- A report counts every visit once, under what became of the module. -/
theorem foldl_adding (visits : List Visit) (report : ReloadReport) :
    visits.foldl adding report =
      { considered := report.considered + visits.length
        reloaded := report.reloaded ++ (visits.filter (·.fate = .reloaded)).map (·.name)
        skipped := report.skipped + visits.countP (·.fate = .skipped)
        failed := report.failed ++ visits.filterMap Visit.failure? } := by
  induction visits generalizing report with
  | nil => simp
  | cons visit visits ih =>
    rw [List.foldl_cons, ih]
    cases hfate : visit.fate <;> simp [adding, hfate, Visit.failure?] <;> omega

theorem length_eq (visits : List Visit) :
    visits.length = ((visits.filter (·.fate = .reloaded)).map (·.name)).length +
      visits.countP (·.fate = .skipped) + (visits.filterMap Visit.failure?).length := by
  induction visits with
  | nil => rfl
  | cons visit visits ih =>
    cases hfate : visit.fate <;> simp [hfate, Visit.failure?] at ih ⊢ <;> omega

end ReloadPass

namespace GuestM
open ReloadPass
variable {policy : ReloadPolicy} {directories : List String}

private theorem record_eq (level : Level) (source : Source) (message : String) (context : Context) (g : Guest) :
    record level source message context g = .ok ⟨⟩ (g.noted ⟨level, source, message⟩) := rfl

/-- A module whose name is a string is visited, and the report gets the visit. -/
theorem reloadTarget_run {target : ReloadTarget} {text : Text} (hname : target.name? = some text)
    (report : ReloadReport) (context : Context) (g : Guest) : ∃ visit : Visit, visit.target = target ∧
      visit.name = text.lossy ∧ visit.before = g ∧ visit.IsDone policy directories context ∧
      reloadTarget policy directories report target context g = .ok (adding report visit) visit.after := by
  unfold reloadTarget
  simp only [hname, reader_bind_run, reader_pure_run]
  rcases takesUp_or_leavesAlone policy directories context text.lossy target.module g with
    ⟨g₁, htakes⟩ | ⟨g₁, hleaves⟩
  · simp only [htakes.run, if_true, record_eq, reader_bind_run, reader_tryCatch_run, reader_map_run]
    cases hrun : reloadModule target.module context
        (g₁.noted ⟨.debug, .reload, "[Reload] reloading " ++ text.lossy⟩) with
    | ok _ g₂ =>
      exact ⟨⟨target, text.lossy, g, .reloaded, g₂⟩, rfl, rfl, rfl, ⟨g₁, htakes, hrun⟩, rfl⟩
    | error f g₂ =>
      let told : Record := ⟨.warn, .reload, "[Reload] failed to reload " ++ text.lossy ++ ": " ++ f.message⟩
      exact ⟨⟨target, text.lossy, g, .failed f.message, g₂.noted told⟩, rfl, rfl, rfl,
        ⟨g₁, f, g₂, htakes, hrun, rfl, rfl⟩, rfl⟩
  · exact ⟨⟨target, text.lossy, g, .skipped, g₁⟩, rfl, rfl, rfl, hleaves, by simp only [hleaves.run]; rfl⟩

/-- The modules of a table are visited in its order, whatever happens on the way. -/
theorem reloadTargets_run (policy : ReloadPolicy) (directories : List String) {targets : List ReloadTarget}
    (hnames : ∀ target ∈ targets, target.name?.isSome) (report : ReloadReport) (context : Context) (g : Guest) :
    ∃ (visits : List Visit) (g' : Guest), visits.map (·.target) = targets ∧ Leads g visits g' ∧
      (∀ visit ∈ visits, visit.target.name?.map Text.lossy = some visit.name ∧
        visit.IsDone policy directories context) ∧
      targets.foldlM (reloadTarget policy directories) report context g = .ok (visits.foldl adding report) g' := by
  induction targets generalizing report g with
  | nil => exact ⟨[], g, rfl, rfl, List.forall_mem_nil _, rfl⟩
  | cons target targets ih =>
    obtain ⟨hname, hothers⟩ := List.forall_mem_cons.mp hnames
    obtain ⟨text, htext⟩ := Option.isSome_iff_exists.mp hname
    obtain ⟨visit, rfl, hvisit, rfl, hdone, hrun⟩ := reloadTarget_run htext report context g
    obtain ⟨visits, g', htargets, hleads, hall, hrest⟩ := ih hothers (adding report visit) visit.after
    refine ⟨visit :: visits, g', congrArg _ htargets, ⟨rfl, hleads⟩,
      List.forall_mem_cons.mpr ⟨⟨?_, hdone⟩, hall⟩, ?_⟩
    · rw [htext, hvisit, Option.map_some]
    · rw [List.foldlM_cons, reader_bind_run, hrun]
      exact hrest

/-- The texts of some attributes of an object, read one after the other. -/
def ReadsTexts (context : Context) (system : Identity) : List String → Guest → List String → Guest → Prop
  | [], g, texts, g' => texts = [] ∧ g = g'
  | name :: names, g, texts, g' => ∃ value t text g₁ rest, attributeOf system name context g = .ok value g₁ ∧
      g₁.text? value = some t ∧ t.encode = .ok text ∧ texts = text :: rest ∧
      ReadsTexts context system names g₁ rest g'

theorem requireString_ok {context : Context} {id : Identity} {text : String} {g g' : Guest}
    (h : requireString id context g = .ok text g') : g' = g ∧ ∃ t, g.text? id = some t ∧ t.encode = .ok text := by
  unfold requireString at h
  rw [reader_bind_run, reader_get_run] at h
  dsimp only at h
  generalize hbody : g.body id = body at h
  cases body with
  | text t =>
    have htext : g.text? id = some t := by rw [Guest.text?, hbody]
    cases hencode : t.encode with
    | ok s =>
      simp only [hencode] at h
      cases h
      exact ⟨rfl, t, htext, hencode⟩
    | error f =>
      simp only [hencode] at h
      cases h
  | _ => cases h

/-- No directory gets lost that a path could lie in: one that is not kept is empty or takes the steps of another one. -/
theorem exists_keepDirectory (found : List String) (directory : String) (path : List Path.Component) :
    (∃ other ∈ keepDirectory found directory, Path.components other <+: path) ↔
      (∃ other ∈ found, Path.components other <+: path) ∨
        directory ≠ "" ∧ Path.components directory <+: path := by
  unfold keepDirectory
  split
  · next hkept =>
    simp only [Bool.or_eq_true, decide_eq_true_eq, List.any_eq_true, Path.same, beq_iff_eq] at hkept
    rcases hkept with rfl | ⟨other, hother, hsame⟩
    · simp
    · rw [hsame]
      exact (or_iff_left_of_imp fun h => ⟨other, hother, h.2⟩).symm
  · next hkept =>
    simp only [Bool.or_eq_true, decide_eq_true_eq, not_or] at hkept
    simp [or_and_right, exists_or, hkept.1]

/-- The directories that a pass leaves out: none, or those that the interpreter is installed in, as its system module
says; an empty one stands for none. -/
def LeavesOut (policy : ReloadPolicy) (context : Context) (directories : List String) : Prop :=
  if policy.skipsInterpreter then
    ∃ system g texts g', ReadsTexts context system Standard.installationNames g texts g' ∧ ∀ path,
      (∃ directory ∈ directories, Path.components directory <+: path) ↔
        ∃ text ∈ texts, text ≠ "" ∧ Path.components text <+: path
  else directories = []

private theorem keepDirectories_ok {context : Context} {system : Identity} {names found : List String} {g g' : Guest}
    (h : names.foldlM (addDirectory system) found context g = .ok directories g') :
    ∃ texts, ReadsTexts context system names g texts g' ∧ ∀ path,
      (∃ directory ∈ directories, Path.components directory <+: path) ↔
        (∃ other ∈ found, Path.components other <+: path) ∨
          ∃ text ∈ texts, text ≠ "" ∧ Path.components text <+: path := by
  induction names generalizing found g with
  | nil =>
    cases h
    exact ⟨[], ⟨rfl, rfl⟩, by simp⟩
  | cons name names ih =>
    rw [List.foldlM_cons] at h
    obtain ⟨kept, g₁, hname, h⟩ := reader_bind_ok h
    obtain ⟨value, g₂, hvalue, hname⟩ := reader_bind_ok hname
    obtain ⟨text, g₃, htext, hname⟩ := reader_bind_ok hname
    cases hname
    obtain ⟨rfl, t, ht, hencode⟩ := requireString_ok htext
    obtain ⟨texts, hreads, hpaths⟩ := ih h
    refine ⟨text :: texts, ⟨value, t, text, _, texts, hvalue, ht, hencode, rfl, hreads⟩, fun path => ?_⟩
    rw [hpaths, exists_keepDirectory, or_assoc, List.exists_mem_cons_iff]

theorem leavesOut_of_skippedDirectories {context : Context} {g g' : Guest}
    (h : skippedDirectories policy context g = .ok directories g') : LeavesOut policy context directories := by
  unfold skippedDirectories at h
  unfold LeavesOut
  split
  · next hskips =>
    rw [if_pos hskips] at h
    obtain ⟨system, g₁, -, h⟩ := reader_bind_ok h
    obtain ⟨texts, hreads, hpaths⟩ := keepDirectories_ok h
    exact ⟨system, g₁, texts, g', hreads, by simpa using hpaths⟩
  · next hskips =>
    rw [if_neg hskips] at h
    cases h
    rfl

/-- The entries of the table that the system module shows, in order, as they are when it has been asked for. -/
def IsShown (context : Context) (targets : List ReloadTarget) (g : Guest) : Prop :=
  ∃ system before modules table, attributeOf system "modules" context before = .ok modules g ∧
    g.body modules = .dict table ∧ targets = g.reloadTargets table

/-- What a pass has opened is the table that is shown then. -/
theorem openReload_ok {context : Context} {g g₁ : Guest} {targets : List ReloadTarget}
    (h : openReload policy context g = .ok (targets, directories) g₁) :
    IsShown context targets g₁ ∧ LeavesOut policy context directories := by
  unfold openReload at h
  obtain ⟨system, g₂, -, h⟩ := reader_bind_ok h
  obtain ⟨-, g₃, -, h⟩ := reader_bind_ok h
  obtain ⟨found, g₄, hfound, h⟩ := reader_bind_ok h
  obtain ⟨modules, g₅, hmodules, h⟩ := reader_bind_ok h
  rw [reader_bind_run, reader_get_run] at h
  dsimp only at h
  generalize hbody : g₅.body modules = body at h
  cases body with
  | dict table =>
    cases h
    exact ⟨⟨system, g₄, modules, table, hmodules, hbody, rfl⟩, leavesOut_of_skippedDirectories hfound⟩
  | _ => cases h

private theorem reload_of_targets {context : Context} {g g₁ g₂ : Guest} {targets : List ReloadTarget}
    {report : ReloadReport} (hopen : openReload policy context g = .ok (targets, directories) g₁)
    (hrun : targets.foldlM (reloadTarget policy directories) {} context g₁ = .ok report g₂) :
    ∃ told, reload policy context g = .ok report (g₂.noted told) := by
  unfold reload
  simp only [reader_bind_run, hopen, hrun, record_eq, reader_pure_run]
  exact ⟨_, rfl⟩

/-- An interpreter with two modules, one of which is no module at all. -/
private def showing : Guest where
  heap := #[{ body := .dict [⟨[.text (.ofString "modules")], ⟨4⟩, ⟨7⟩⟩] }, { body := .module ⟨0⟩ },
    { body := .dict [] }, { body := .module ⟨2⟩ }, { body := .text (.ofString "modules") },
    { body := .text (.ofString "a") }, { body := .text (.ofString "b") },
    { body := .dict [⟨[.text (.ofString "a")], ⟨5⟩, ⟨3⟩⟩, ⟨[.text (.ofString "b")], ⟨6⟩, ⟨8⟩⟩] },
    { body := .plain "object" }]
  system := ⟨0⟩
  standardModules := [("sys", ⟨1⟩), ("importlib", ⟨3⟩)]

private theorem splitOn_importlib : "importlib".splitOn "." = ["importlib"] := splitOn_of_not_mem (c := '.') (by decide)

private theorem openReload_showing : openReload {} showing.topContext showing =
    .ok ([⟨⟨5⟩, some (.ofString "a"), ⟨3⟩⟩, ⟨⟨6⟩, some (.ofString "b"), ⟨8⟩⟩], []) showing := by
  have hsystem : hostImport "sys" showing.topContext showing = .ok ⟨1⟩ showing :=
    hostImport_run List.not_mem_nil List.not_mem_nil splitOn_system (by decide) rfl _
  have himportlib : hostImport "importlib" showing.topContext showing = .ok ⟨3⟩ showing :=
    hostImport_run List.not_mem_nil List.not_mem_nil splitOn_importlib (by decide) rfl _
  have hmodules : attributeOf ⟨1⟩ "modules" showing.topContext showing = .ok ⟨7⟩ showing :=
    attributeOf_of_module (d := ⟨0⟩) rfl rfl (by decide +kernel) (by decide) (by decide +kernel) _
  have hdirectories : skippedDirectories {} showing.topContext showing = .ok [] showing := rfl
  unfold openReload
  simp only [reader_bind_run, reader_discard_run, hsystem, himportlib, hdirectories, hmodules]
  rfl

end GuestM
end ScriptHost
