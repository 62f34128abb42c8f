import DocRunner.Proofs.Run.Calls
import DocRunner.Proofs.Settings.Layers

/-!
# What a shell shows of a run

Two things of a shell do not count for what is done in it: the log level, and a variable that nothing looks at.
A run is compared with the run in the shell that has neither.

* `Shell.plain sh keep` : the shell that shows everything and has only the variables to keep;
* `Shell.shown sh events` : of some events, those that the log level does not leave out;
* `Shell.Shows sh keep full events` : the events are those that the shell shows of `full`, up
  to the variables of calls;
* `Shell.Hides sh keep` : nothing looks at the variables that are not kept;
* `Target.run_shows`, `runAll_shows`, `Settings.resolve_shows` : what is done in a shell is what is done in the
  plain one, and the shell shows of it what its log level does not leave out.
-/

namespace DocRunner

/-! ## Variables and events -/

namespace Variables

variable {keep : String → Bool} {vars news : Variables}

/-- The variables whose names are to be kept. -/
def restrict (keep : String → Bool) (vars : Variables) : Variables := vars.filter fun v => keep v.1

theorem get?_restrict {name : String} (h : keep name = true) (vars : Variables) :
    (vars.restrict keep).get? name = vars.get? name := by
  have hlookup := Tree.lookup_filter_fst keep vars name
  rwa [if_pos h] at hlookup

theorem restrict_set {name : String} (h : keep name = true) (vars : Variables) (value : String) :
    (vars.set name value).restrict keep = (vars.restrict keep).set name value := by
  unfold restrict set
  rw [List.filter_cons_of_pos (p := fun v : String × String => keep v.1) h, List.filter_filter,
    List.filter_filter]
  congr 1
  apply List.filter_congr
  intro v _
  exact Bool.and_comm _ _

theorem restrict_setAll (h : ∀ v ∈ news, keep v.1 = true) (vars : Variables) :
    (vars.setAll news).restrict keep = (vars.restrict keep).setAll news := by
  induction news generalizing vars with
  | nil => rfl
  | cons v news ih =>
    obtain ⟨hv, hnews⟩ := List.forall_mem_cons.1 h
    have hrest := ih hnews (vars.set v.1 v.2)
    rwa [restrict_set hv] at hrest

theorem mem_setAll {v : String × String} (h : v ∈ vars.setAll news) : v ∈ vars ∨ v ∈ news := by
  induction news generalizing vars with
  | nil => exact Or.inl h
  | cons w news ih =>
    rcases ih h with hset | hnews
    · rcases List.mem_cons.1 hset with rfl | hold
      · exact Or.inr List.mem_cons_self
      · exact Or.inl (List.mem_filter.1 hold).1
    · exact Or.inr (List.mem_cons_of_mem w hnews)

end Variables

/-- A call with the variables to be kept. -/
def Call.restrict (keep : String → Bool) (call : Call) : Call := { call with vars := call.vars.restrict keep }

/-- An event with the variables to be kept. -/
def Event.restrict (keep : String → Bool) : Event → Event
  | .call c => .call (c.restrict keep)
  | e => e

namespace Shell

variable {sh : Shell} {keep : String → Bool} {full full' events events' : List Event}

/-- The shell that shows everything and has only the variables to be kept. -/
def plain (sh : Shell) (keep : String → Bool) : Shell := ⟨sh.directory, sh.vars.restrict keep, none⟩

@[simp] theorem path_plain (sh : Shell) (keep : String → Bool) (p : String) :
    (sh.plain keep).path p = sh.path p := rfl

/-- Of some events, those that the log level does not leave out. -/
def shown (sh : Shell) (events : List Event) : List Event :=
  if sh.isQuiet then events.filter (!·.isInformational) else events

/-- The events are those that a shell shows of all that is done, up to the variables of calls. -/
def Shows (sh : Shell) (keep : String → Bool) (full events : List Event) : Prop :=
  events.map (Event.restrict keep) = sh.shown full

theorem Shows.nil (sh : Shell) (keep : String → Bool) : sh.Shows keep [] [] := by
  unfold Shows shown
  split <;> rfl

theorem Shows.append (h : sh.Shows keep full events) (h' : sh.Shows keep full' events') :
    sh.Shows keep (full ++ full') (events ++ events') := by
  unfold Shows shown at *
  rw [List.map_append, h, h']
  split
  · rw [List.filter_append]
  · rfl

theorem Shows.flatMap {α : Type} {f g : α → List Event} (h : ∀ x, sh.Shows keep (f x) (g x)) (xs : List α) :
    sh.Shows keep (xs.flatMap f) (xs.flatMap g) := by
  induction xs with
  | nil => exact Shows.nil sh keep
  | cons x xs ih => exact (h x).append ih

/-- What is said aloud is shown as it is. -/
theorem Shows.aloud (sh : Shell) {e : Event} (h : e.isInformational = false) (hsame : e.restrict keep = e) :
    sh.Shows keep [e] [e] := by
  unfold Shows shown
  rw [List.map_singleton, hsame]
  split
  · rw [List.filter_singleton, h]
    rfl
  · rfl

theorem Shows.note (sh : Shell) (keep : String → Bool) (line : String) :
    sh.Shows keep ((sh.plain keep).note line) (sh.note line) := by
  unfold Shows shown Shell.note
  cases sh.isQuiet <;> rfl

theorem Shows.echo (sh : Shell) (keep : String → Bool) (command : String) :
    sh.Shows keep ((sh.plain keep).echo command) (sh.echo command) := by
  unfold Shows shown Shell.echo
  cases sh.isQuiet <;> rfl

theorem Shows.tool (sh : Shell) (keep : String → Bool) (tool : Tool) (d : Location) (vars : Variables)
    (arguments : List String) :
    sh.Shows keep (tool.events d (vars.restrict keep) arguments) (tool.events d vars arguments) := by
  unfold Shows shown Tool.events
  cases sh.isQuiet <;> rfl

/-! ## Finding and running a command -/

/-- The variables that are looked at. -/
def readVariables : List String := "PATH" :: Settings.layerVariables

/-- Nothing looks at the variables that are not kept, and they hold no NUL. -/
structure Hides (sh : Shell) (keep : String → Bool) : Prop where
  read : ∀ name ∈ readVariables, keep name = true
  nul : ∀ v ∈ sh.vars, keep v.1 = false → '\x00' ∉ v.1.toList ∧ '\x00' ∉ v.2.toList

variable {c : Command} {t : Tree}

theorem varsFor_plain (hc : ∀ v ∈ c.vars, keep v.1 = true) (sh : Shell) :
    (sh.plain keep).varsFor c = (sh.varsFor c).restrict keep := (Variables.restrict_setAll hc sh.vars).symm

/-- No NUL stands in what is not kept. -/
theorem Hides.nul_varsFor (h : sh.Hides keep) (hc : ∀ v ∈ c.vars, keep v.1 = true) :
    ∀ v ∈ sh.varsFor c, keep v.1 = false → [v.1, v.2].any (·.toList.contains '\x00') = false := by
  intro v hv hkeep
  rcases Variables.mem_setAll hv with hold | hnew
  · obtain ⟨hname, hvalue⟩ := h.nul v hold hkeep
    simp [hname, hvalue]
  · rw [hc v hnew] at hkeep
    cases hkeep

theorem hasNul_plain (h : sh.Hides keep) (hc : ∀ v ∈ c.vars, keep v.1 = true) :
    (sh.plain keep).hasNul c ((sh.varsFor c).restrict keep) = sh.hasNul c (sh.varsFor c) := by
  have hhidden := h.nul_varsFor hc
  unfold hasNul Variables.restrict
  rw [List.any_append, List.any_append, List.any_flatMap, List.any_flatMap, List.any_filter]
  congr 1
  rw [Bool.eq_iff_iff, List.any_eq_true, List.any_eq_true]
  constructor
  · rintro ⟨v, hv, hboth⟩
    exact ⟨v, hv, (Bool.and_eq_true_iff.1 hboth).2⟩
  · rintro ⟨v, hv, hnul⟩
    refine ⟨v, hv, Bool.and_eq_true_iff.2 ⟨?_, hnul⟩⟩
    by_contra hkeep
    rw [hhidden v hv (Bool.not_eq_true _ ▸ hkeep)] at hnul
    cases hnul

theorem searchPath_restrict (h : sh.Hides keep) (vars : Variables) :
    searchPath (vars.restrict keep) = searchPath vars := by
  unfold searchPath
  rw [Variables.get?_restrict (h.read "PATH" (by decide))]

/-- What is not kept has no influence on which tool is found. -/
theorem find_plain (h : sh.Hides keep) (hc : ∀ v ∈ c.vars, keep v.1 = true) (t : Tree) :
    (sh.plain keep).find t c = sh.find t c := by
  unfold find
  rw [varsFor_plain hc]
  dsimp only
  rw [hasNul_plain h hc, searchPath_restrict h]
  rfl

theorem write_restrict (h : sh.Hides keep) (tool : Tool) (d : Location) (vars : Variables)
    (arguments : List String) (t : Tree) :
    tool.write d (vars.restrict keep) arguments t = tool.write d vars arguments t := by
  unfold Tool.write
  rw [Variables.get?_restrict (h.read "BUILDDIR" (by decide))]

end Shell

/-! ## Tasks -/

/-- What a task leaves in a shell: the same, and the shell shows what it does. -/
structure Outcome.Shows (sh : Shell) (keep : String → Bool) (full o : Outcome) : Prop where
  result : o.result = full.result
  events : sh.Shows keep full.events o.events
  tree : o.tree = full.tree

section Tasks

variable {sh : Shell} {keep : String → Bool} {full o : Outcome} {full' events : List Event} {c : Command}
  {s : Settings}

namespace Outcome.Shows

/-- A task that does nothing that can be seen. -/
theorem silent (sh : Shell) (keep : String → Bool) (h : o.events = []) : Outcome.Shows sh keep o o :=
  ⟨rfl, h ▸ Shell.Shows.nil sh keep, rfl⟩

theorem done (h : sh.Shows keep full' events) (t : Tree) :
    Outcome.Shows sh keep (Outcome.done full' t) (Outcome.done events t) := ⟨rfl, h, rfl⟩

theorem after (h : Outcome.Shows sh keep full o) (hevents : sh.Shows keep full' events) :
    Outcome.Shows sh keep (full.after full') (o.after events) := ⟨h.result, hevents.append h.events, h.tree⟩

theorem andThen (h : Outcome.Shows sh keep full o) {next next' : Tree → Outcome}
    (hnext : ∀ t, Outcome.Shows sh keep (next t) (next' t)) :
    Outcome.Shows sh keep (full.andThen next) (o.andThen next') := by
  unfold Outcome.andThen
  rw [h.result, h.tree]
  cases full.result with
  | error why => exact h
  | ok _ => exact (hnext _).after h.events

end Outcome.Shows

theorem Shell.run_shows (h : sh.Hides keep) (hc : ∀ v ∈ c.vars, keep v.1 = true) (t : Tree) :
    Outcome.Shows sh keep ((sh.plain keep).run c t) (sh.run c t) := by
  have hfind := find_plain h hc t
  cases hfound : sh.find t c with
  | error why =>
    rw [run_of_not_found hfound, run_of_not_found (hfind.trans hfound)]
    exact ⟨rfl, Shows.echo sh keep _, rfl⟩
  | ok found =>
    obtain ⟨d, tool⟩ := found
    rw [run_of_found hfound, run_of_found (hfind.trans hfound), varsFor_plain hc, write_restrict h]
    exact ⟨rfl, (Shows.echo sh keep _).append (Shows.tool sh keep tool d _ _), rfl⟩

theorem LinkReport.summarize_shows (sh : Shell) (keep : String → Bool) (path report : String) :
    sh.Shows keep (summarize (sh.plain keep) path report) (summarize sh path report) := by
  refine Shell.Shows.append (Shell.Shows.flatMap (fun line => ?_) _) (Shell.Shows.aloud sh rfl rfl)
  cases Entry.ofLine? line with
  | ok entry => exact Shell.Shows.nil sh keep
  | error why => exact Shell.Shows.note sh keep _

namespace Recipe

theorem clean_shows (sh : Shell) (keep : String → Bool) (s : Settings) (t : Tree) :
    Outcome.Shows sh keep (clean (sh.plain keep) s t) (clean sh s t) := by
  unfold clean
  rw [Shell.path_plain]
  split
  · exact (Outcome.Shows.silent sh keep (emptyDirectory_events _ t)).after (Shell.Shows.note sh keep _)
  · exact Outcome.Shows.done (Shell.Shows.note sh keep _) t

theorem reportPath_plain (sh : Shell) (keep : String → Bool) (s : Settings) :
    reportPath (sh.plain keep) s = reportPath sh s := rfl

theorem removeReport_shows (sh : Shell) (keep : String → Bool) (s : Settings) (t : Tree) :
    Outcome.Shows sh keep (removeReport (sh.plain keep) s t) (removeReport sh s t) := by
  have hsilent := removeReport_events sh s t
  unfold removeReport at hsilent ⊢
  rw [reportPath_plain]
  exact Outcome.Shows.silent sh keep hsilent

theorem showReport_shows (sh : Shell) (keep : String → Bool) (s : Settings) (t : Tree) :
    Outcome.Shows sh keep (showReport (sh.plain keep) s t) (showReport sh s t) := by
  unfold showReport
  rw [reportPath_plain]
  split
  · cases t.readText [] (reportPath sh s) with
    | error why => exact Outcome.Shows.silent sh keep rfl
    | ok report => exact Outcome.Shows.done (LinkReport.summarize_shows sh keep _ report) t
  · exact Outcome.Shows.silent sh keep rfl

end Recipe

namespace Target

theorem prepare_shows (sh : Shell) (keep : String → Bool) (s : Settings) (target : Target) (t : Tree) :
    Outcome.Shows sh keep (target.prepare (sh.plain keep) s t) (target.prepare sh s t) := by
  cases target with
  | help => exact Outcome.Shows.done (Shell.Shows.aloud sh rfl rfl) t
  | clean => exact Recipe.clean_shows sh keep s t
  | stricthtml => exact Recipe.clean_shows sh keep s t
  | linkcheck => exact Recipe.removeReport_shows sh keep s t
  | livehtml => exact Outcome.Shows.done (Shell.Shows.note sh keep _) t
  | html => exact Outcome.Shows.silent sh keep rfl
  | spellcheck => exact Outcome.Shows.silent sh keep rfl

theorem conclude_shows (sh : Shell) (keep : String → Bool) (s : Settings) (target : Target) (t : Tree) :
    Outcome.Shows sh keep (target.conclude (sh.plain keep) s t) (target.conclude sh s t) := by
  cases target with
  | html => exact Outcome.Shows.done (Shell.Shows.aloud sh rfl rfl) t
  | stricthtml => exact Outcome.Shows.done (Shell.Shows.aloud sh rfl rfl) t
  | spellcheck => exact Outcome.Shows.done (Shell.Shows.aloud sh rfl rfl) t
  | linkcheck => exact (Recipe.showReport_shows sh keep s t).after (Shell.Shows.aloud sh rfl rfl)
  | help => exact Outcome.Shows.silent sh keep rfl
  | clean => exact Outcome.Shows.silent sh keep rfl
  | livehtml => exact Outcome.Shows.silent sh keep rfl

theorem command?_plain (sh : Shell) (keep : String → Bool) (s : Settings) (target : Target) :
    target.command? (sh.plain keep) s = target.command? sh s := by
  cases target <;> rfl

/-- A command sets only variables that are looked at. -/
theorem command?_vars_kept (h : sh.Hides keep) {target : Target} (hc : target.command? sh s = some c) :
    ∀ v ∈ c.vars, keep v.1 = true := by
  by_cases hlink : target = .linkcheck
  · subst hlink
    cases hc
    have hbuild := h.read "BUILDDIR" (by decide)
    have hsource := h.read "SOURCEDIR" (by decide)
    exact List.forall_mem_cons.2 ⟨hbuild, List.forall_mem_singleton.2 hsource⟩
  · rw [command?_vars hc hlink]
    exact fun v hv => absurd hv List.not_mem_nil

/-- A target does in a shell what it does in the plain one. -/
theorem run_shows (h : sh.Hides keep) (s : Settings) (target : Target) (t : Tree) :
    Outcome.Shows sh keep (target.run (sh.plain keep) s t) (target.run sh s t) := by
  rw [run_eq, run_eq]
  apply (prepare_shows sh keep s target t).andThen
  intro t'
  unfold carryOut
  rw [command?_plain]
  cases hc : target.command? sh s with
  | none => exact Outcome.Shows.silent sh keep rfl
  | some c => exact (Shell.run_shows h (command?_vars_kept h hc) t').andThen (conclude_shows sh keep s target)

end Target

/-- A run of targets does in a shell what it does in the plain one. -/
theorem runAll_shows (h : sh.Hides keep) (s : Settings) (targets : List Target) (t : Tree) :
    (runAll sh s targets t).result = (runAll (sh.plain keep) s targets t).result ∧
      sh.Shows keep (runAll (sh.plain keep) s targets t).events (runAll sh s targets t).events ∧
      (runAll sh s targets t).tree = (runAll (sh.plain keep) s targets t).tree := by
  induction targets generalizing t with
  | nil => exact ⟨rfl, Shell.Shows.nil sh keep, rfl⟩
  | cons target targets ih =>
    have hfirst := target.run_shows h s t
    cases hr : (target.run (sh.plain keep) s t).result with
    | error why =>
      rw [runAll_of_failed hr, runAll_of_failed (hfirst.result.trans hr)]
      exact ⟨rfl, hfirst.events, hfirst.tree⟩
    | ok _ =>
      rw [runAll_of_passed hr, runAll_of_passed (hfirst.result.trans hr), hfirst.tree]
      obtain ⟨hresult, hevents, htree⟩ := ih (target.run (sh.plain keep) s t).tree
      exact ⟨hresult, hfirst.events.append hevents, htree⟩

/-- Settling the settings comes to the same in a shell and in the plain one. -/
theorem Settings.resolve_shows (h : sh.Hides keep) (t : Tree) (config : Option String) (flags : Flags) :
    (resolve sh t config flags).result = (resolve (sh.plain keep) t config flags).result ∧
      sh.Shows keep (resolve (sh.plain keep) t config flags).events (resolve sh t config flags).events := by
  constructor
  · have hdir : sh.directory = (sh.plain keep).directory := rfl
    apply resolve_congr hdir
    intro name hname
    exact (Variables.get?_restrict (h.read name (List.mem_cons_of_mem _ hname)) sh.vars).symm
  · show sh.Shows keep (fileNote (sh.plain keep) t config) (fileNote sh t config)
    unfold fileNote
    dsimp only
    rw [Shell.path_plain]
    split
    · exact Shell.Shows.note sh keep _
    · exact Shell.Shows.nil sh keep

end Tasks

end DocRunner
