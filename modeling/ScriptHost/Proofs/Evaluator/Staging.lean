import ScriptHost.Proofs.Convert.Delivery
import ScriptHost.Proofs.Evaluator.Inside
import ScriptHost.Proofs.Guest.Naming
import ScriptHost.Proofs.Guest.SystemPath

/-! The stage of a script: where the interpreter's own modules are in place, a scope is made, values are bound in it
and the hooks are notified without an exception, and nothing of it touches what the names of the call stand for. -/
namespace ScriptHost
open Stepping

namespace Guest
variable {W : Identity → Prop} {g g' g'' : Guest} {d : Identity} {names names' : List String}

/-- The dictionaries that are written while a script is staged and run: its namespace and the attributes of the
system module. -/
def staged (g : Guest) (globals id : Identity) : Prop := id = globals ∨ id = g.system

/-- An interpreter that proceeds, where no names of a namespace but some have changed. -/
structure Binds (globals : Identity) (names : List String) (g g' : Guest) : Prop where
  proceeds : g.Proceeds (g.staged globals) g'
  kept : ∀ name, name ∉ names → g'.lookup globals (.ofString name) = g.lookup globals (.ofString name)

namespace Binds

theorem trans (h : g.Binds d names g') (h' : g'.Binds d names' g'') : g.Binds d (names ++ names') g'' where
  proceeds := h.proceeds.trans (h'.proceeds.mono fun id hid => by rwa [staged, h.proceeds.system] at hid)
  kept name hname := by
    rw [List.mem_append, not_or] at hname
    rw [h'.kept name hname.2, h.kept name hname.1]

theorem of_elsewhere (h : g.Proceeds W g') (hd : g.Holds d) (hw : ¬ W d) (hsystem : ∀ id, W id → id = g.system) :
    g.Binds d [] g' where
  proceeds := h.mono fun id hid => .inr (hsystem id hid)
  kept _ _ := h.lookup_eq hd hw _

theorem of_nothing (h : g.Proceeds (fun _ => False) g') (hd : g.Holds d) : g.Binds d [] g' :=
  of_elsewhere h hd id fun _ hid => hid.elim

theorem mono (h : g.Binds d names g') (hsubset : names ⊆ names') : g.Binds d names' g' :=
  ⟨h.proceeds, fun name hname => h.kept name fun hmem => hname (hsubset hmem)⟩

end Binds

theorem IsTidy.unreported (h : g.IsTidy W) : g.unreported.IsTidy W :=
  h.proceeds (V := fun _ => False) (proceeds_unreported g)

end Guest

open Guest

/-! ### Values on their way in -/

namespace Inbound
variable {converters : List InboundConverter} {v : Value}

/-- Some converters take a value up without a change to what was there. -/
def TakesUp (converters : List InboundConverter) (v : Value) : Prop :=
  ∀ (W : Identity → Prop) (t : Transfer), t.guest.IsTidy W → ∃ id t',
    marshalOrPassthrough converters v t = .ok id t' ∧ t.Proceeds (fun _ => False) t'

/-- Some converters hand a value over: they take it up as an object that represents it. -/
def HandsOver (converters : List InboundConverter) (v : Value) : Prop :=
  ∀ (W : Identity → Prop) (t : Transfer), t.guest.IsTidy W → ∃ id t',
    marshalOrPassthrough converters v t = .ok id t' ∧ t.Proceeds (fun _ => False) t' ∧ t'.guest.Represents W id v

theorem takesUp_of_hasFreeKeys (hv : v.HasFreeKeys) : TakesUp standard v := fun _ _ hg => by
  obtain ⟨id, t', hrun, hproceeds, _⟩ := marshalOrPassthrough_delivers hv hg
  exact ⟨id, t', hrun, hproceeds⟩

theorem handsOver_of_delivered (hv : v.HasFreeKeys) (h : v.IsPlain ∨ v.HasCollectionKey) : HandsOver standard v :=
  fun _ _ hg => by
    obtain ⟨id, t', hrun, hproceeds, hrepresents⟩ := marshalOrPassthrough_delivers hv hg
    exact ⟨id, t', hrun, hproceeds, hrepresents h⟩

/-- What is handed over is taken up. -/
theorem HandsOver.takesUp (h : HandsOver converters v) : TakesUp converters v := fun W t ht => by
  obtain ⟨obj, t', hrun, hproceeds, -⟩ := h W t ht
  exact ⟨obj, t', hrun, hproceeds⟩

/-- An object that a value was taken up as. Before that nothing was written but the attributes of the system module, and
since then nothing but some dictionaries. -/
inductive TookUp (converters : List InboundConverter) (v : Value) (namespaceDict : Identity) (start : Guest)
    (W : Identity → Prop) (obj : Identity) (g : Guest) : Prop
  | intro {t t' : Transfer} (hrun : marshalOrPassthrough converters v t = .ok obj t')
    (hnamespace : t.namespaceDict = namespaceDict) (hbefore : start.Proceeds (· = start.system) t.guest)
    (htidy : t.guest.IsTidy W) (hsince : t'.guest.Proceeds W g)

namespace TookUp
variable {n obj : Identity} {W : Identity → Prop} {start start' g g' : Guest}

theorem proceeds (h : TookUp converters v n start W obj g) (hg : g.Proceeds W g') :
    TookUp converters v n start W obj g' := by
  obtain ⟨hrun, hnamespace, hbefore, htidy, hsince⟩ := h
  exact .intro hrun hnamespace hbefore htidy (hsince.trans hg)

theorem after (h : TookUp converters v n start W obj g) (hstart : start'.Proceeds (· = start'.system) start) :
    TookUp converters v n start' W obj g := by
  obtain ⟨hrun, hnamespace, hbefore, htidy, hsince⟩ := h
  rw [hstart.system] at hbefore
  exact .intro hrun hnamespace (hstart.trans hbefore) htidy hsince

/-- What was handed over is represented by the object. -/
theorem represents (h : TookUp converters v n start W obj g) (hv : HandsOver converters v) : g.Represents W obj v := by
  obtain ⟨hrun, -, -, htidy, hsince⟩ := h
  obtain ⟨obj', t', hrun', -, hrepresents⟩ := hv W _ htidy
  cases hrun.symm.trans hrun'
  exact hrepresents.proceeds hsince

end TookUp

end Inbound

/-- What a crossing layers into a scope: the entries of its namespace that are not for handles. -/
def Transfer.session (t : Transfer) : Dict :=
  (t.guest.entries t.namespaceDict).filter fun entry => !entry.isHandle t.guest

/-- What the namespace does not hold is not layered. -/
theorem Transfer.session_of_unbound {t : Transfer} {name : Text} (h : t.guest.lookup t.namespaceDict name = none) :
    Dict.find? t.session [.text name] = none := by
  simp only [Guest.lookup, session, Dict.find?, Option.map_eq_none_iff, List.find?_eq_none, List.mem_filter] at h ⊢
  exact fun entry hentry => h entry hentry.1

/-- What the namespace holds under a name that is none of a handle's is layered. -/
theorem Transfer.session_of_named {t : Transfer} {name : String} (hkeys : t.guest.HasTextKeys t.namespaceDict)
    (hname : name.startsWith Identity.keyMark = false) :
    Dict.find? t.session [.text (.ofString name)] = t.guest.lookup t.namespaceDict (.ofString name) := by
  have hlayered (entry : DictEntry) (hentry : entry ∈ t.guest.entries t.namespaceDict)
      (hform : entry.form = [.text (.ofString name)]) : entry.isHandle t.guest = false := by
    obtain ⟨text, hform', hbody⟩ := hkeys entry hentry
    obtain rfl : text = .ofString name := by simpa [hform] using hform'.symm
    rw [DictEntry.isHandle, text?, hbody, Option.bind_some, Text.toString?_ofString, Option.any_some, hname]
  simp only [session, lookup, Dict.find?, ← List.head?_filter, List.filter_filter]
  rw [List.filter_congr fun entry hentry => ?_]
  by_cases hform : entry.form = [.text (.ofString name)]
  · simp [hform, hlayered entry hentry hform]
  · simp [hform]

namespace Scope
variable {W : Identity → Prop} {t : Transfer} {table : ConverterTable} {scope : Scope}

/-- A scope is a new dictionary, which has the names of the session and two more. -/
theorem make_of_hasBuiltins (hg : t.guest.HasBuiltins) : ∃ globals t', make t = .ok { globals } t' ∧
    t.guest.Proceeds (fun _ => False) t'.guest ∧ ¬ t.guest.Holds globals ∧ t'.guest.Holds globals ∧
    t'.guest.isDict globals = true ∧ ∀ name, name ∉ ["__builtins__", "__name__"] →
      t'.guest.lookup globals (.ofString name) = Dict.find? t.session [.text (.ofString name)] := by
  obtain ⟨layered, hlayered⟩ : ∃ layered, t.session = layered := ⟨_, rfl⟩
  rw [hlayered]
  obtain ⟨g, n, counts, active, acquired⟩ := t
  replace hlayered : (g.entries n).filter (fun entry => !entry.isHandle g) = layered := hlayered
  obtain ⟨himportable, module, hmodule⟩ := hg
  have hadds := Adds.push g (.dict layered)
  have hheld : (g.adding { body := .dict layered }).Holds g.next := by simp [Holds, next, adding]
  have hbuiltins : (g.adding { body := .dict layered }).HasBuiltins := ⟨himportable, module, hmodule⟩
  have himport (context : Context) := GuestM.hostImport_builtins hbuiltins hmodule context
  obtain ⟨g₁, hrun₁, hproceeds₁, hlookup₁⟩ :=
    GuestM.setName_proceeds hheld (.ofString "__builtins__") module (g.adding { body := .dict layered }).topContext
  obtain ⟨main, g₂, hrun₂, hadds₂, _⟩ := GuestM.string_run "__main__" g₁.topContext g₁
  have hheld₁ := hproceeds₁.holds hheld
  obtain ⟨g₃, hrun₃, hproceeds₃, hlookup₃⟩ :=
    GuestM.setName_proceeds (hadds₂.holds hheld₁) (.ofString "__name__") main g₂.topContext
  have hproceeds : (g.adding { body := .dict layered }).Proceeds (· = g.next) g₃ :=
    (hproceeds₁.trans hadds₂.proceeds).trans hproceeds₃
  have hdict : (g.adding { body := .dict layered }).isDict g.next = true := by rw [isDict, body_adding]
  refine ⟨g.next, ⟨g₃, n, counts, active, acquired⟩, ?_, ?_, Nat.lt_irrefl _, hproceeds.holds hheld,
    hproceeds.dict _ hheld hdict, fun name hname => ?_⟩
  · unfold make
    simp only [bind_run, get_run, hlayered, TransferM.guest_run, GuestM.atTop_eq, GuestM.allocate_run, himport, hrun₁,
      hrun₂, hrun₃, pure_run]
  · refine (hadds.proceeds.trans hproceeds).of_new ?_
    rintro id rfl
    exact Nat.lt_irrefl _
  · simp only [List.mem_cons, List.not_mem_nil, or_false, not_or] at hname
    have hne (other : String) (h : name ≠ other) : Text.ofString other ≠ Text.ofString name :=
      fun he => h (Text.ofString_injective he).symm
    have hentries : g₂.lookup g.next (.ofString name) = g₁.lookup g.next (.ofString name) :=
      hadds₂.proceeds.lookup_eq (W := fun _ => False) hheld₁ id _
    rw [hlookup₃, if_neg (hne _ hname.2), hentries, hlookup₁, if_neg (hne _ hname.1), lookup, entries, body_adding]

/-- A value is bound as the object that it is converted to. -/
theorem bind_of_converted {v : Value} {obj : Identity} {t₁ : Transfer} {g : Guest} (name : String)
    (hrun : Inbound.marshalOrPassthrough table.inbound v { t with active := [], acquired := #[] } = .ok obj t₁)
    (hset : GuestM.setName scope.globals (.ofString name) obj t₁.guest.topContext t₁.guest = .ok ⟨⟩ g) :
    bind table scope name v t = .ok ⟨⟩ { t₁ with guest := g } := by
  unfold bind TransferM.anew
  simp only [bind_run, modify_run, hrun, TransferM.guest_run, GuestM.atTop_eq, hset]

/-- A value that is taken up is bound as the object that comes of it. -/
theorem bind_of_takesUp {v : Value} (hv : Inbound.TakesUp table.inbound v) (name : String)
    (hg : t.guest.IsTidy W) (hglobals : W scope.globals) : ∃ obj t', bind table scope name v t = .ok ⟨⟩ t' ∧
      t.guest.Proceeds (· = scope.globals) t'.guest ∧
      Inbound.TookUp table.inbound v t.namespaceDict t.guest W obj t'.guest ∧
      ∀ other : String, t'.guest.lookup scope.globals (.ofString other) =
        if name = other then some obj else t.guest.lookup scope.globals (.ofString other) := by
  have hheld := (hg.dicts _ hglobals).1
  obtain ⟨obj, t₁, hrun₁, hproceeds₁⟩ := hv W { t with active := [], acquired := #[] } hg
  obtain ⟨g₂, hrun₂, hproceeds₂, hlookup₂⟩ :=
    GuestM.setName_proceeds (hproceeds₁.guest.holds hheld) (.ofString name) obj t₁.guest.topContext
  refine ⟨obj, { t₁ with guest := g₂ }, bind_of_converted name hrun₁ hrun₂, hproceeds₁.guest.relax.trans hproceeds₂,
    .intro hrun₁ rfl (.refl _) hg (hproceeds₂.mono fun id hid => hid ▸ hglobals), fun other => ?_⟩
  rw [hlookup₂, hproceeds₁.guest.lookup_eq hheld id]
  simp [Text.ofString_injective.eq_iff]

theorem bindAll_of_takesUp {pairs : List (String × Value)}
    (hpairs : ∀ pair ∈ pairs, Inbound.TakesUp table.inbound pair.2) (hg : t.guest.IsTidy W)
    (hglobals : W scope.globals) : ∃ t', bindAll table scope pairs t = .ok ⟨⟩ t' ∧
      t.guest.Proceeds (· = scope.globals) t'.guest ∧ ∀ other, other ∉ pairs.map (·.1) →
        t'.guest.lookup scope.globals (.ofString other) = t.guest.lookup scope.globals (.ofString other) := by
  induction pairs generalizing t with
  | nil => exact ⟨t, rfl, .refl _, fun _ _ => rfl⟩
  | cons pair pairs ih =>
    obtain ⟨hpair, hpairs⟩ := List.forall_mem_cons.mp hpairs
    obtain ⟨obj, t₁, hrun₁, hproceeds₁, -, hlookup₁⟩ := bind_of_takesUp hpair pair.1 hg hglobals
    obtain ⟨t₂, hrun₂, hproceeds₂, hlookup₂⟩ := ih hpairs (hg.proceeds hproceeds₁)
    refine ⟨t₂, ?_, hproceeds₁.trans hproceeds₂, fun other hother => ?_⟩
    · simp only [bindAll, bind_run, hrun₁, hrun₂]
    · rw [List.map_cons, List.mem_cons, not_or] at hother
      rw [hlookup₂ other hother.2, hlookup₁, if_neg (Ne.symm hother.1)]

end Scope

/-! ### The stage -/

/-- A scope in which a name holds an object, and some other names hold nothing. -/
structure Guest.Seeded (g : Guest) (globals : Identity) (name : String) (obj : Identity) (absent : List String) :
    Prop where
  tidy : g.IsTidy (g.staged globals)
  bound : g.lookup globals (.ofString name) = some obj
  unbound : ∀ other ∈ absent, g.lookup globals (.ofString other) = none

/-- A scope in which a name holds an object that represents a value, and some other names hold nothing. -/
structure Guest.Stages (g : Guest) (globals : Identity) (name : String) (obj : Identity) (v : Value)
    (absent : List String) : Prop where
  tidy : g.IsTidy (g.staged globals)
  bound : g.lookup globals (.ofString name) = some obj
  represents : g.Represents (g.staged globals) obj v
  unbound : ∀ other ∈ absent, g.lookup globals (.ofString other) = none

namespace Guest
variable {g g' : Guest} {globals obj : Identity} {name : String} {v : Value} {names absent : List String}

theorem Proceeds.staged_eq {W : Identity → Prop} (h : g.Proceeds W g') (globals : Identity) :
    g'.staged globals = g.staged globals := by
  funext id
  rw [staged, h.system, staged]

theorem Stages.seeded (h : g.Stages globals name obj v absent) : g.Seeded globals name obj absent :=
  ⟨h.tidy, h.bound, h.unbound⟩

theorem Seeded.stages (h : g.Seeded globals name obj absent) (hobj : g.Represents (g.staged globals) obj v) :
    g.Stages globals name obj v absent :=
  ⟨h.tidy, h.bound, hobj, h.unbound⟩

/-- A scope stays seeded while other names are bound. -/
theorem Seeded.binds (h : g.Seeded globals name obj absent) (hg : g.Binds globals names g') (hname : name ∉ names)
    (habsent : ∀ other ∈ absent, other ∉ names) : g'.Seeded globals name obj absent := by
  refine ⟨?_, by rw [hg.kept name hname, h.bound], fun other hother => ?_⟩
  · rw [hg.proceeds.staged_eq]
    exact h.tidy.proceeds hg.proceeds
  · rw [hg.kept other (habsent other hother), h.unbound other hother]

/-- A scope stays seeded while nothing that was there is written. -/
theorem Seeded.proceeds (h : g.Seeded globals name obj absent) (hg : g.Proceeds (fun _ => False) g') :
    g'.Seeded globals name obj absent :=
  h.binds (.of_nothing hg (h.tidy.dicts _ (.inl rfl)).1) List.not_mem_nil fun _ _ => List.not_mem_nil

/-- The stage stays as it is while other names are bound. -/
theorem Stages.binds (h : g.Stages globals name obj v absent) (hg : g.Binds globals names g') (hname : name ∉ names)
    (habsent : ∀ other ∈ absent, other ∉ names) : g'.Stages globals name obj v absent := by
  refine (h.seeded.binds hg hname habsent).stages ?_
  rw [hg.proceeds.staged_eq]
  exact h.represents.proceeds hg.proceeds

/-- The stage stays as it is while nothing that was there is written. -/
theorem Stages.proceeds (h : g.Stages globals name obj v absent) (hg : g.Proceeds (fun _ => False) g') :
    g'.Stages globals name obj v absent :=
  h.binds (.of_nothing hg (h.tidy.dicts _ (.inl rfl)).1) List.not_mem_nil fun _ _ => List.not_mem_nil

end Guest

/-- What it takes to seed a scope with one binding: the interpreter's own modules are in place, the standard output can
be read if it is redirected, the value is taken up, and so is what hooks bind under other names. The session has none
of the names that are to hold nothing. -/
structure Guest.CanSeed (g : Guest) (runtime : Runtime) (e : Evaluator) (name : String) (v : Value)
    (absent : List String) : Prop where
  intact : g.IsIntact
  output : e.config.redirectOutput = true → (g.lookup g.system (.ofString "stdout")).isSome
  value : Inbound.TakesUp e.converters.inbound v
  hooks : ∀ hook ∈ e.hooks, ∀ pair ∈ hook.inject,
    Inbound.TakesUp e.converters.inbound pair.2 ∧ pair.1 ≠ name ∧ pair.1 ∉ absent
  session : absent ≠ [] → g.Holds runtime.namespaceDict ∧ runtime.namespaceDict ≠ g.system
  names : ∀ other ∈ absent, other ∉ ["__builtins__", "__name__", name] ∧
    g.lookup runtime.namespaceDict (.ofString other) = none

/-- What it takes to stage a script with one binding: the interpreter's own modules are in place, the standard output
can be read if it is redirected, the value is handed over, and what hooks bind, under other names, is taken up. The
session has none of the names that are to hold nothing. -/
structure Guest.CanStage (g : Guest) (runtime : Runtime) (e : Evaluator) (name : String) (v : Value)
    (absent : List String) : Prop where
  intact : g.IsIntact
  output : e.config.redirectOutput = true → (g.lookup g.system (.ofString "stdout")).isSome
  value : Inbound.HandsOver e.converters.inbound v
  hooks : ∀ hook ∈ e.hooks, ∀ pair ∈ hook.inject,
    Inbound.TakesUp e.converters.inbound pair.2 ∧ pair.1 ≠ name ∧ pair.1 ∉ absent
  session : absent ≠ [] → g.Holds runtime.namespaceDict ∧ runtime.namespaceDict ≠ g.system
  names : ∀ other ∈ absent, other ∉ ["__builtins__", "__name__", name] ∧
    g.lookup runtime.namespaceDict (.ofString other) = none

namespace Guest
variable {g g' : Guest} {runtime : Runtime} {e : Evaluator} {name : String} {v : Value} {absent : List String}

theorem CanSeed.proceeds (h : g.CanSeed runtime e name v absent) (hg : g.Proceeds (fun _ => False) g') :
    g'.CanSeed runtime e name v absent where
  intact := h.intact.proceeds hg fun _ hid => hid.elim
  output hredirect := by
    rw [hg.system, hg.lookup_eq h.intact.system.1 id]
    exact h.output hredirect
  value := h.value
  hooks := h.hooks
  session hne := by
    rw [hg.system]
    exact ⟨hg.holds (h.session hne).1, (h.session hne).2⟩
  names other hother := by
    rw [hg.lookup_eq (h.session (List.ne_nil_of_mem hother)).1 id]
    exact h.names other hother

theorem CanStage.canSeed (h : g.CanStage runtime e name v absent) : g.CanSeed runtime e name v absent :=
  ⟨h.intact, h.output, h.value.takesUp, h.hooks, h.session, h.names⟩

theorem CanStage.proceeds (h : g.CanStage runtime e name v absent) (hg : g.Proceeds (fun _ => False) g') :
    g'.CanStage runtime e name v absent := by
  obtain ⟨hintact, houtput, -, hhooks, hsession, hnames⟩ := h.canSeed.proceeds hg
  exact ⟨hintact, houtput, h.value, hhooks, hsession, hnames⟩

end Guest

namespace WorldM
variable {i : Nat} {runtime : Runtime} {e : Evaluator} {w : World} {name : String} {v : Value}
  {absent : List String}

theorem resetPath_of_isIntact (e : Evaluator) (runtime : Runtime) (hg : w.guest.IsIntact) :
    ∃ w', resetPath e runtime w = (.ok ⟨⟩, w') ∧ w.guest.Proceeds (· = w.guest.system) w'.guest ∧
      ∀ name, name ≠ "path" →
        w'.guest.lookup w.guest.system (.ofString name) = w.guest.lookup w.guest.system (.ofString name) := by
  unfold resetPath
  split
  · obtain ⟨g', hrun, hproceeds, _, hlookup⟩ :=
      GuestM.resetSearchPath_of_hasSystem hg.unreported.hasSystem runtime.searchPath w.guest.unreported.topContext
    exact ⟨{ w with guest := w.guest.reporting g' }, by rw [guest_run, GuestM.atTop_eq, hrun], hproceeds.reported,
      hlookup⟩
  · exact ⟨w, rfl, .refl _, fun _ _ => rfl⟩

private theorem redirect_of_isIntact (hg : w.guest.IsIntact)
    (hstdout : (w.guest.lookup w.guest.system (.ofString "stdout")).isSome) (label : String) (listeners : Nat) :
    ∃ output w', guest (GuestM.redirectOutput label listeners) w = (.ok output, w') ∧
      w.guest.Proceeds (· = w.guest.system) w'.guest := by
  obtain ⟨found, hfound⟩ := Option.isSome_iff_exists.mp hstdout
  obtain ⟨g', hrun, hproceeds, _⟩ :=
    GuestM.redirectOutput_of_hasSystem hg.unreported.hasSystem hfound label listeners w.guest.unreported.topContext
  exact ⟨(found, w.guest.unreported.next), { w with guest := w.guest.reporting g' },
    by rw [guest_run, GuestM.atTop_eq, hrun], hproceeds.reported⟩

/-- The scope of a call with one binding is seeded. -/
private theorem seed_of_takesUp (i : Nat) (runtime : Runtime) (scope : Scope)
    (hv : Inbound.TakesUp e.converters.inbound v) (hg : w.guest.IsTidy (w.guest.staged scope.globals))
    (habsent : ∀ other ∈ absent, other ≠ name ∧ w.guest.lookup scope.globals (.ofString other) = none) :
    ∃ obj w', cross i runtime (Scope.seed e.converters scope [(name, v)]) w =
        (.ok { scope with state := .seeded }, w') ∧
      w.guest.Proceeds (· = scope.globals) w'.guest ∧ w'.guest.Seeded scope.globals name obj absent ∧
      Inbound.TookUp e.converters.inbound v runtime.namespaceDict w.guest (w.guest.staged scope.globals) obj
        w'.guest := by
  obtain ⟨obj, t, hrun, hproceeds, htook, hlookup⟩ :=
    Scope.bind_of_takesUp (t := w.crossing i runtime) hv name hg.unreported (.inl rfl)
  have hstaged : t.guest.staged scope.globals = w.guest.staged scope.globals :=
    hproceeds.staged_eq (g := w.guest.unreported) scope.globals
  have hseeded : t.guest.Seeded scope.globals name obj absent := by
    refine ⟨?_, (hlookup name).trans (if_pos rfl), fun other hother => ?_⟩
    · rw [hstaged]
      exact hg.unreported.proceeds hproceeds
    · obtain ⟨hne, hnone⟩ := habsent other hother
      exact (hlookup other).trans ((if_neg hne.symm).trans hnone)
  refine ⟨obj, w.crossed i t, ?_, hproceeds.reported, hseeded.proceeds (proceeds_reporting w.guest t.guest),
    (htook.after (proceeds_unreported w.guest)).proceeds (proceeds_reporting w.guest t.guest)⟩
  rw [cross_run]
  unfold Scope.seed Scope.bindAll Scope.bindAll
  simp only [Stepping.bind_run, hrun, Stepping.pure_run]

/-- A scope is made and the binding of the call is seeded in it; nothing that was there is written. -/
private theorem scope_of_isIntact (i : Nat) (runtime : Runtime) (hg : w.guest.IsIntact)
    (hv : Inbound.TakesUp e.converters.inbound v)
    (habsent : ∀ other ∈ absent, other ∉ ["__builtins__", "__name__", name] ∧
      w.guest.lookup runtime.namespaceDict (.ofString other) = none) :
    ∃ globals w₁ w' obj, cross i runtime Scope.make w = (.ok { globals }, w₁) ∧
      cross i runtime (Scope.seed e.converters { globals } [(name, v)]) w₁ =
        (.ok { globals, state := .seeded }, w') ∧
      w.guest.Proceeds (fun _ => False) w'.guest ∧ ¬ w.guest.Holds globals ∧ w'.guest.IsIntact ∧
      w'.guest.Seeded globals name obj absent ∧
      Inbound.TookUp e.converters.inbound v runtime.namespaceDict w.guest (w.guest.staged globals) obj w'.guest := by
  obtain ⟨globals, t, hrun₁, hproceeds₁, hnew, hheld, hglobals, hlookup⟩ :=
    Scope.make_of_hasBuiltins (t := w.crossing i runtime) hg.unreported.hasSystem.hasBuiltins
  have hscoped : w.guest.Proceeds (fun _ => False) (w.crossed i t).guest := hproceeds₁.reported
  have hg₁ := hg.proceeds hscoped fun _ hid => hid.elim
  have htidy : (w.crossed i t).guest.IsTidy ((w.crossed i t).guest.staged globals) := ⟨fun id hid => by
    rcases hid with rfl | rfl
    · exact ⟨hheld, hglobals⟩
    · exact hg₁.system, hg₁.bare⟩
  have hfree : ∀ other ∈ absent, other ≠ name ∧ (w.crossed i t).guest.lookup globals (.ofString other) = none := by
    intro other hother
    obtain ⟨hnames, hnone⟩ := habsent other hother
    simp only [List.mem_cons, List.not_mem_nil, or_false, not_or] at hnames
    exact ⟨hnames.2.2, (hlookup other (by simp [hnames])).trans (Transfer.session_of_unbound hnone)⟩
  obtain ⟨obj, w', hrun₂, hproceeds₂, hseeded, htook⟩ :=
    seed_of_takesUp (w := w.crossed i t) i runtime { globals } hv htidy hfree
  rw [hscoped.staged_eq] at htook
  refine ⟨globals, w.crossed i t, w', obj, ?_, hrun₂, ?_, hnew, ?_, hseeded, htook.after hscoped.relax⟩
  · rw [cross_run, hrun₁]
  · refine (hscoped.relax.trans hproceeds₂).of_new ?_
    rintro id rfl
    exact hnew
  · exact hg₁.proceeds hproceeds₂ fun id hid => hid ▸ hglobals

/-- A scope is new, and of what was there nothing but the attributes of the system module is written. -/
theorem prepare_of_canSeed (i : Nat) (label : String) (hw : w.guest.CanSeed runtime e name v absent) :
    ∃ stage w' obj, prepare i runtime e ⟨label, [(name, v)]⟩ w = (.ok stage, w') ∧
      w'.guest.Seeded stage.scope.globals name obj absent ∧
      Inbound.TookUp e.converters.inbound v runtime.namespaceDict w.guest (w.guest.staged stage.scope.globals) obj
        w'.guest ∧
      ¬ w.guest.Holds stage.scope.globals ∧ w.guest.Proceeds (· = w.guest.system) w'.guest := by
  obtain ⟨hg, hstdout, hv, -, hnamespace, habsent⟩ := hw
  obtain ⟨w₁, hrun₁, hproceeds₁, hkept₁⟩ := resetPath_of_isIntact e runtime hg
  have hg₁ := hg.proceeds hproceeds₁ fun id hid => hid ▸ hg.system.2
  have habsent₁ : ∀ other ∈ absent, other ∉ ["__builtins__", "__name__", name] ∧
      w₁.guest.lookup runtime.namespaceDict (.ofString other) = none := by
    intro other hother
    obtain ⟨hheld, hne⟩ := hnamespace (List.ne_nil_of_mem hother)
    exact ⟨(habsent other hother).1, (hproceeds₁.lookup_eq hheld hne _).trans (habsent other hother).2⟩
  obtain ⟨globals, w₂, w₃, obj, hrun₂, hrun₃, hproceeds₃, hnew, hg₃, hseeded, htook₁⟩ :=
    scope_of_isIntact i runtime hg₁ hv habsent₁
  have htook := htook₁.after hproceeds₁
  rw [hproceeds₁.staged_eq] at htook
  have hnew₀ : ¬ w.guest.Holds globals := fun hholds => hnew (hproceeds₁.holds hholds)
  have hscope : w.guest.Proceeds (· = w.guest.system) w₃.guest := hproceeds₁.trans hproceeds₃.relax
  unfold prepare
  simp only [bind_run, hrun₁, hrun₂, hrun₃]
  by_cases hredirect : e.config.redirectOutput = true
  · have hsystem : w₃.guest.system = w.guest.system := hproceeds₃.system.trans hproceeds₁.system
    have hfound : (w₃.guest.lookup w₃.guest.system (.ofString "stdout")).isSome := by
      rw [hproceeds₃.system, hproceeds₃.lookup_eq hg₁.system.1 id, hproceeds₁.system, hkept₁ "stdout" (by decide)]
      exact hstdout hredirect
    obtain ⟨output, w₄, hrun₄, hproceeds₄⟩ := redirect_of_isIntact hg₃ hfound label e.hooks.length
    refine ⟨⟨{ globals, state := .seeded }, some output⟩, w₄, obj, ?_, ?_, ?_, hnew₀, ?_⟩
    · rw [if_pos hredirect, bind_run, hrun₄]
      rfl
    · have hne : globals ≠ w₃.guest.system := fun he => hnew (he ▸ hproceeds₃.system ▸ hg₁.system.1)
      refine hseeded.binds (.of_elsewhere hproceeds₄ (hseeded.tidy.dicts _ (.inl rfl)).1 hne fun id hid => hid) ?_ ?_
      · exact List.not_mem_nil
      · exact fun _ _ => List.not_mem_nil
    · rw [hsystem] at hproceeds₄
      exact htook.proceeds (hproceeds₄.mono fun id hid => .inr hid)
    · rw [hsystem] at hproceeds₄
      exact hscope.trans hproceeds₄
  · refine ⟨⟨{ globals, state := .seeded }, none⟩, w₃, obj, ?_, hseeded, htook, hnew₀, hscope⟩
    rw [if_neg hredirect]
    rfl

/-- A value that is handed over is represented by the object that the scope is seeded with. -/
theorem prepare_of_canStage (i : Nat) (label : String) (hw : w.guest.CanStage runtime e name v absent) :
    ∃ stage w' obj, prepare i runtime e ⟨label, [(name, v)]⟩ w = (.ok stage, w') ∧
      w'.guest.Stages stage.scope.globals name obj v absent ∧ ¬ w.guest.Holds stage.scope.globals ∧
      w.guest.Proceeds (· = w.guest.system) w'.guest := by
  obtain ⟨stage, w', obj, hrun, hseeded, htook, hnew, hproceeds⟩ := prepare_of_canSeed i label hw.canSeed
  refine ⟨stage, w', obj, hrun, hseeded.stages ?_, hnew, hproceeds⟩
  rw [hproceeds.staged_eq]
  exact htook.represents hw.value

/-- Inside the lock with a seeded scope, where nothing has been written since but the names of the scope. -/
private structure StandsReady (start : Guest) (scope : Scope) (name : String) (obj : Identity) (absent : List String)
    (w : World) : Prop where
  held : w.held = true
  seeded : w.guest.Seeded scope.globals name obj absent
  since : start.Proceeds (· = scope.globals) w.guest

section
variable {depth : Nat} {table : ConverterTable} {scope : Scope} {obj : Identity} {start : Guest}

private theorem StandsReady.notify (h : StandsReady start scope name obj absent w) (event : Event) :
    StandsReady start scope name obj absent (notify event w).2 :=
  ⟨h.held, h.seeded.proceeds (proceeds_of_same rfl rfl rfl rfl), h.since.trans (proceeds_of_same rfl rfl rfl rfl)⟩

private theorem StandsReady.carryOut (h : StandsReady start scope name obj absent w) (depth place : Nat)
    (requests : List Request) :
    StandsReady start scope name obj absent (carryOut (issue depth) place requests w).2 where
  held := (StaysInside.carryOut depth place requests w h.held).2
  seeded := h.seeded.proceeds (carryOut_proceeds depth place requests h.held)
  since := h.since.trans (carryOut_proceeds depth place requests h.held).relax

private theorem StandsReady.bindAll (i : Nat) (runtime : Runtime) {pairs : List (String × Value)}
    (h : StandsReady start scope name obj absent w)
    (hpairs : ∀ pair ∈ pairs, Inbound.TakesUp table.inbound pair.2 ∧ pair.1 ≠ name ∧ pair.1 ∉ absent) :
    StandsReady start scope name obj absent (cross i runtime (Scope.bindAll table scope pairs) w).2 := by
  have hvalues : ∀ pair ∈ pairs, Inbound.TakesUp table.inbound pair.2 := fun pair hpair => (hpairs pair hpair).1
  obtain ⟨t, hrun, hproceeds, hkept⟩ := Scope.bindAll_of_takesUp (t := w.crossing i runtime) hvalues
    h.seeded.tidy.unreported (.inl rfl)
  have hnames {other : String} (hother : other = name ∨ other ∈ absent) : other ∉ pairs.map (·.1) := by
    intro hmem
    obtain ⟨pair, hpair, rfl⟩ := List.mem_map.mp hmem
    obtain ⟨_, hne, hnot⟩ := hpairs pair hpair
    exact hother.elim hne hnot
  have hreported : w.guest.Proceeds (· = scope.globals) (w.guest.reporting t.guest) := hproceeds.reported
  have hseeded := h.seeded.binds ⟨hreported.mono fun id hid => .inl hid, hkept⟩ (hnames (.inl rfl))
    fun other hother => hnames (.inr hother)
  rw [cross_run, hrun]
  exact ⟨h.held, hseeded, h.since.trans hreported⟩

/-- The hooks are notified; what they bind and call does not touch other names. -/
theorem notifyStarted_of_seeded (depth i : Nat) (runtime : Runtime) (table : ConverterTable) (values : List Value)
    {hooks : List (Nat × Hook)} (hheld : w.held = true) (hg : w.guest.Seeded scope.globals name obj absent)
    (hhooks : ∀ hook ∈ hooks, ∀ pair ∈ hook.2.inject, Inbound.TakesUp table.inbound pair.2 ∧
      pair.1 ≠ name ∧ pair.1 ∉ absent) :
    (notifyStarted (issue depth) i runtime table scope values hooks w).2.guest.Seeded
        scope.globals name obj absent ∧
      w.guest.Proceeds (· = scope.globals)
        (notifyStarted (issue depth) i runtime table scope values hooks w).2.guest := by
  suffices h : StandsReady w.guest scope name obj absent
      (notifyStarted (issue depth) i runtime table scope values hooks w).2 from ⟨h.seeded, h.since⟩
  obtain ⟨start, hstart⟩ : ∃ start, w.guest = start := ⟨_, rfl⟩
  have hready : StandsReady start scope name obj absent w := ⟨hheld, hg, hstart ▸ .refl _⟩
  rw [hstart]
  clear hheld hg hstart
  induction hooks generalizing w with
  | nil => exact hready
  | cons hook hooks ih =>
    obtain ⟨hhook, hhooks⟩ := List.forall_mem_cons.mp hhooks
    unfold notifyStarted
    rw [bind_run, bind_run]
    have hbound := (hready.notify (.started hook.1 values)).bindAll i runtime hhook
    exact ih hhooks (hbound.carryOut depth hook.1 hook.2.requests)

/-- The stage stays as it is while the hooks are notified. -/
theorem notifyStarted_of_takesUp (depth i : Nat) (runtime : Runtime) (table : ConverterTable) (values : List Value)
    {hooks : List (Nat × Hook)} (hheld : w.held = true)
    (hg : w.guest.Stages scope.globals name obj v absent)
    (hhooks : ∀ hook ∈ hooks, ∀ pair ∈ hook.2.inject, Inbound.TakesUp table.inbound pair.2 ∧
      pair.1 ≠ name ∧ pair.1 ∉ absent) :
    (notifyStarted (issue depth) i runtime table scope values hooks w).2.guest.Stages
        scope.globals name obj v absent ∧
      w.guest.Proceeds (· = scope.globals)
        (notifyStarted (issue depth) i runtime table scope values hooks w).2.guest := by
  obtain ⟨hseeded, hproceeds⟩ := notifyStarted_of_seeded depth i runtime table values hheld hg.seeded hhooks
  refine ⟨hseeded.stages ?_, hproceeds⟩
  rw [hproceeds.staged_eq]
  exact hg.represents.proceeds (hproceeds.mono fun id hid => .inl hid)

end

/-- A call with one binding begins: its scope is new, and of what was there nothing but the attributes of the system
module is written. -/
theorem begin_of_canSeed (i : Nat) (label : String) (hheld : w.held = true)
    (hw : w.guest.CanSeed runtime e name v absent) :
    ∃ stage w' obj, begin (issue requestDepth) i runtime e ⟨label, [(name, v)]⟩ w = (.ok stage, w') ∧
      w'.guest.Seeded stage.scope.globals name obj absent ∧
      Inbound.TookUp e.converters.inbound v runtime.namespaceDict w.guest (w.guest.staged stage.scope.globals) obj
        w'.guest ∧
      ¬ w.guest.Holds stage.scope.globals ∧ w.guest.Proceeds (· = w.guest.system) w'.guest := by
  unfold begin
  simp only [bind_run, record_run]
  generalize (⟨.debug, .evaluator, _⟩ : Record) = r
  have hnoted : w.guest.Proceeds (fun _ => False) (w.guest.noted r) := proceeds_noted w.guest r
  obtain ⟨stage, w₁, obj, hprepare, hseeded, htook, hnew, hproceeds⟩ := prepare_of_canSeed i label
    (w := { w with guest := w.guest.noted r }) (hw.proceeds hnoted)
  have hheld₁ := (staysInside_prepare i runtime e ⟨label, [(name, v)]⟩ { w with guest := w.guest.noted r } hheld).2
  rw [hprepare] at hheld₁ ⊢
  obtain ⟨hseeded₂, hproceeds₂⟩ := notifyStarted_of_seeded requestDepth i runtime e.converters [v] hheld₁ hseeded
    fun hook hhook => hw.hooks _ (hook_of_mem_numbered hhook)
  have hbound := hproceeds₂.mono (V := w.guest.staged stage.scope.globals) fun id hid => .inl hid
  have hsince : w.guest.Proceeds (w.guest.staged stage.scope.globals) w₁.guest :=
    hnoted.relax.trans (hproceeds.mono fun id hid => .inr hid)
  refine ⟨stage, _, obj, rfl, hseeded₂, (htook.after hnoted.relax).proceeds hbound, hnew,
    (hsince.trans hbound).of_new ?_⟩
  rintro id (rfl | hid) hholds
  · exact absurd hholds hnew
  · exact hid

/-- A value that is handed over is represented by the object that the call begins with. -/
theorem begin_of_canStage (i : Nat) (label : String) (hheld : w.held = true)
    (hw : w.guest.CanStage runtime e name v absent) :
    ∃ stage w' obj, begin (issue requestDepth) i runtime e ⟨label, [(name, v)]⟩ w = (.ok stage, w') ∧
      w'.guest.Stages stage.scope.globals name obj v absent ∧ ¬ w.guest.Holds stage.scope.globals ∧
      w.guest.Proceeds (· = w.guest.system) w'.guest := by
  obtain ⟨stage, w', obj, hrun, hseeded, htook, hnew, hproceeds⟩ := begin_of_canSeed i label hheld hw.canSeed
  refine ⟨stage, w', obj, hrun, hseeded.stages ?_, hnew, hproceeds⟩
  rw [hproceeds.staged_eq]
  exact htook.represents hw.value

end WorldM
end ScriptHost
