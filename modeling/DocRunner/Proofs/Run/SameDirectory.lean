import DocRunner.Proofs.LinkCheck.Report
import DocRunner.Proofs.Run.Calls
import DocRunner.Proofs.Run.SameBut
import DocRunner.Proofs.Tree.SameDirectory

/-!
# Runs in one directory

A run knows its working directory by a text. Under another text for the same directory it does the same, as long
as both lead there and the limits tell them apart in nothing that it looks up.

* `runLookups sh s targets t` : what a run looks up in its working directory, each path
  with the tree at that time;
* `WithinLimits dir dir' xs` : the limits tell the two texts apart in none of the lookups;
* `Tree.SameThroughout dir dir' t w` : the texts lead to the same directory from one tree to another;
* `Shell.find_movedTo`, `Shell.run_movedTo` : the same tool is found for a command, and
  run in the same directory;
* `Target.run_movedTo`, `runAll_movedTo` : a target, and a run of targets, comes to the same under both texts.
-/

namespace DocRunner

open DocRunner.Tree

/-! ## What a run looks up -/

/-- What is looked up behind a task that has succeeded, in the tree that it has left. -/
def Outcome.thenLookups (o : Outcome) (next : Tree → List (Tree × String)) : List (Tree × String) :=
  match o.result with
  | .ok () => next o.tree
  | .error _ => []

namespace Recipe

/-- What is looked up when entries of a directory are removed, one by one. -/
def removalLookups (sh : Shell) (dir : String) : List String → Tree → List (Tree × String)
  | [], _ => []
  | name :: names, t =>
    (t, Path.join dir name) :: (removeEntries (sh.path dir) [name] t).thenLookups (removalLookups sh dir names)

/-- What cleaning looks up. -/
def cleanLookups (sh : Shell) (s : Settings) (t : Tree) : List (Tree × String) :=
  (t, s.buildDir) ::
    match t.readDirectory [] (sh.path s.buildDir) with
    | .error _ => []
    | .ok names => removalLookups sh s.buildDir names t

end Recipe

namespace Target

/-- What is looked up before the tool of a target is started. -/
def prepareLookups (sh : Shell) (s : Settings) (target : Target) (t : Tree) : List (Tree × String) :=
  match target with
  | .clean => Recipe.cleanLookups sh s t
  | .stricthtml => Recipe.cleanLookups sh s t
  | .linkcheck => [(t, s.reportFile)]
  | _ => []

/-- What is looked up to start the tool of a target and behind it. -/
def carryOutLookups (sh : Shell) (s : Settings) (target : Target) (t : Tree) : List (Tree × String) :=
  match target with
  | .linkcheck =>
    (t, s.linkcheckScript) :: (sh.run (s.linkcheckCommand sh) t).thenLookups fun t => [(t, s.reportFile)]
  | _ => []

/-- What a target looks up. -/
def lookups (sh : Shell) (s : Settings) (target : Target) (t : Tree) : List (Tree × String) :=
  target.prepareLookups sh s t ++ (target.prepare sh s t).thenLookups (target.carryOutLookups sh s)

end Target

/-- What a run of targets looks up: paths that are joined to the working directory, each with the tree
that it is looked up in. -/
def runLookups (sh : Shell) (s : Settings) : List Target → Tree → List (Tree × String)
  | [], _ => []
  | target :: targets, t => target.lookups sh s t ++ (target.run sh s t).thenLookups (runLookups sh s targets)

/-- The limits tell two texts for the working directory apart in none of the lookups. -/
def WithinLimits (dir dir' : String) (xs : List (Tree × String)) : Prop :=
  ∀ x ∈ xs, x.1.SameLimits dir dir' x.2

/-- From one tree to another both texts lead to the same directory, all the time. -/
def Tree.SameThroughout (dir dir' : String) (t w : Tree) : Prop :=
  ∀ u, Evolves dir t u → Evolves dir u w → u.SameDirectory dir dir'

/-- The shell in another directory. -/
def Shell.movedTo (sh : Shell) (dir : String) : Shell := { sh with directory := dir }

section Lookups

variable {dir dir' : String} {x : Tree × String} {xs ys : List (Tree × String)} {t t' w w' : Tree} {o : Outcome}

theorem withinLimits_cons : WithinLimits dir dir' (x :: xs) ↔
    x.1.SameLimits dir dir' x.2 ∧ WithinLimits dir dir' xs :=
  List.forall_mem_cons

theorem withinLimits_append :
    WithinLimits dir dir' (xs ++ ys) ↔ WithinLimits dir dir' xs ∧ WithinLimits dir dir' ys :=
  List.forall_mem_append

theorem Outcome.thenLookups_of_ok (h : o.result = .ok ()) (next : Tree → List (Tree × String)) :
    o.thenLookups next = next o.tree := by
  rw [thenLookups, h]

theorem Tree.SameThroughout.mono (h : SameThroughout dir dir' t w) (ht : Evolves dir t t')
    (hw : Evolves dir w' w) : SameThroughout dir dir' t' w' := fun u hu hu' => h u (ht.trans hu) (hu'.trans hw)

theorem Tree.SameThroughout.start (h : SameThroughout dir dir' t w) (hw : Evolves dir t w) :
    t.SameDirectory dir dir' :=
  h t (.refl t) hw

end Lookups

/-! ## Starting a command -/

section Simulation

variable {sh : Shell} {dir' : String} {t : Tree} {s : Settings}

/-- A step that fails does so for the same reason, told of the same command. -/
theorem Ending.result_sameBut {dir : String} {c c' : Command} (h : Text.SameBut dir dir' c.text c'.text)
    (ending : Ending) : SameResult (Failure.SameBut dir dir') (ending.result c) (ending.result c') := by
  have hquoted := Text.SameBut.append (.same "`") h
  rcases ending with ⟨_ | code⟩ | _
  · exact .ok ()
  · have hcode := Text.SameBut.append hquoted (.same "` exited with code ")
    exact .error ⟨rfl, .append hcode (.same (toString ((code + 1 : Nat) : Int)))⟩
  · exact .error ⟨rfl, .append hquoted (.same "` was terminated by a signal")⟩

namespace Shell

theorem note_movedTo {line line' : String} (h : Text.SameBut sh.directory dir' line line') :
    SameEvents sh.directory dir' (sh.note line) ((sh.movedTo dir').note line') := by
  show SameEvents _ _ (if sh.isQuiet then [] else _) (if sh.isQuiet then [] else _)
  split
  · exact .nil
  · exact .one (.note h)

theorem echo_movedTo {command command' : String} (h : Text.SameBut sh.directory dir' command command') :
    SameEvents sh.directory dir' (sh.echo command) ((sh.movedTo dir').echo command') := by
  show SameEvents _ _ (if sh.isQuiet then [] else _) (if sh.isQuiet then [] else _)
  split
  · exact .nil
  · exact .one (.echo h)

/-- Two commands differ at most in their program, which is read in the working directory. -/
inductive SameProgram (sh : Shell) (dir' : String) (t : Tree) : Command → Command → Prop
  | same (c : Command) : SameProgram sh dir' t c c
  | script {q : String} (arguments : List String) (vars : Variables) : t.SameLimits sh.directory dir' q →
      SameProgram sh dir' t ⟨sh.path q, arguments, vars⟩ ⟨Path.join dir' q, arguments, vars⟩

namespace SameProgram

variable {c c' : Command}

theorem varsFor_eq (h : sh.SameProgram dir' t c c') : (sh.movedTo dir').varsFor c' = sh.varsFor c := by
  cases h <;> rfl

theorem arguments_eq (h : sh.SameProgram dir' t c c') : c'.arguments = c.arguments := by
  cases h <;> rfl

theorem text (h : sh.SameProgram dir' t c c') : Text.SameBut sh.directory dir' c.text c'.text := by
  cases h with
  | same => exact .same _
  | script arguments vars => exact .append (.path _) (.same _)

end SameProgram

variable {c c' : Command}

theorem hasNul_movedTo (h : t.SameDirectory sh.directory dir') (hc : sh.SameProgram dir' t c c')
    (vars : Variables) : (sh.movedTo dir').hasNul c' vars = sh.hasNul c vars := by
  obtain ⟨hnul, -⟩ := checkPath_eq_ok.1 h.checkPath_eq.1
  obtain ⟨hnul', -⟩ := checkPath_eq_ok.1 h.checkPath_eq.2
  have hprogram : c'.program.toList.contains '\x00' = c.program.toList.contains '\x00' := by
    cases hc with
    | same => rfl
    | script arguments vars hlimits =>
      rw [Bool.eq_iff_iff, List.contains_iff_mem, List.contains_iff_mem]
      exact (Path.nul_mem_join_iff hnul').trans (Path.nul_mem_join_iff hnul).symm
  have hdirectory : dir'.toList.contains '\x00' = sh.directory.toList.contains '\x00' := by
    rw [Bool.eq_iff_iff, List.contains_iff_mem, List.contains_iff_mem]
    exact iff_of_false hnul' hnul
  show (dir' :: c'.program :: c'.arguments ++ _).any _ = _
  rw [hasNul, List.any_append, List.any_append, List.any_cons, List.any_cons, List.any_cons, List.any_cons,
    hprogram, hdirectory, hc.arguments_eq]

theorem toolAt_join (h : t.SameDirectory sh.directory dir') {q : String}
    (hlimits : t.SameLimits sh.directory dir' q) (d : Location) :
    toolAt t d (Path.join dir' q) = toolAt t d (sh.path q) := by
  rw [toolAt, toolAt, path, resolve_of_absolute (Path.isAbsolute_join_of_absolute h.absolute q),
    resolve_of_absolute (Path.isAbsolute_join_of_absolute h.absolute' q), h.resolve_join hlimits]

/-- The same tool is found, in the same directory. -/
theorem find_movedTo (h : t.SameDirectory sh.directory dir') (hc : sh.SameProgram dir' t c c') :
    (sh.movedTo dir').find t c' = sh.find t c := by
  unfold find
  dsimp only
  rw [hc.varsFor_eq, hasNul_movedTo h hc]
  split
  · rfl
  · have hdirectory : t.resolveDirectory [] (sh.movedTo dir').directory = t.resolveDirectory [] sh.directory :=
      h.resolveDirectory_eq.symm
    rw [hdirectory]
    cases t.resolveDirectory [] sh.directory with
    | error why => rfl
    | ok d =>
      cases hc with
      | same => rfl
      | @script q arguments vars hlimits =>
        -- an absolute program is not looked for in the search path
        have habs : Path.isAbsolute (sh.path q) = true := Path.isAbsolute_join_of_absolute h.absolute q
        have habs' : Path.isAbsolute (Path.join dir' q) = true := Path.isAbsolute_join_of_absolute h.absolute' q
        have hslash := List.contains_iff_mem.2 (Path.slash_mem_of_isAbsolute habs)
        have hslash' := List.contains_iff_mem.2 (Path.slash_mem_of_isAbsolute habs')
        dsimp only
        rw [if_neg (Path.ne_empty_of_isAbsolute habs), if_pos hslash, if_neg (Path.ne_empty_of_isAbsolute habs'),
          if_pos hslash', toolAt_join h hlimits]

theorem run_movedTo (h : t.SameDirectory sh.directory dir') (hc : sh.SameProgram dir' t c c') :
    (sh.run c t).SameBut sh.directory dir' ((sh.movedTo dir').run c' t) := by
  have hfind := find_movedTo h hc
  cases hfound : sh.find t c with
  | error why =>
    rw [run_of_not_found hfound, run_of_not_found (hfind.trans hfound)]
    have hmessage := Text.SameBut.append (.append (.append (.same "Failed to start `") hc.text) (.same "`: "))
      (.same why.message)
    exact ⟨.error ⟨rfl, hmessage⟩, echo_movedTo hc.text, rfl⟩
  | ok found =>
    obtain ⟨d, tool⟩ := found
    rw [run_of_found hfound, run_of_found (hfind.trans hfound), hc.varsFor_eq, hc.arguments_eq]
    exact ⟨tool.ending.result_sameBut hc.text, (echo_movedTo hc.text).append (SameEvents.refl _ _ _), rfl⟩

end Shell

/-! ## Cleaning and reports -/

namespace Recipe

theorem removeEntries_movedTo {dir : String} {names : List String}
    (hnames : ∀ name ∈ names, Path.isName name = true)
    (hsame : SameThroughout sh.directory dir' t (removeEntries (sh.path dir) names t).tree)
    (hlimits : WithinLimits sh.directory dir' (removalLookups sh dir names t)) :
    (removeEntries (sh.path dir) names t).SameBut sh.directory dir'
      (removeEntries (Path.join dir' dir) names t) := by
  induction names generalizing t with
  | nil => exact Outcome.SameBut.refl _ _ _
  | cons name names ih =>
    obtain ⟨hname, hnames⟩ := List.forall_mem_cons.1 hnames
    have hjoin : Path.join (sh.path dir) name = Path.join sh.directory (Path.join dir name) :=
      Path.join_assoc sh.directory dir name
    have hjoin' := Path.join_assoc dir' dir name
    have hstart := hsame.start (.of_shrinks (removeEntries_shrinks _ _ t))
    rw [removalLookups, withinLimits_cons] at hlimits
    obtain ⟨hfirst, hrest⟩ := hlimits
    have hremove := hstart.removePath_join hfirst (Path.join_ne_empty dir hname)
    rw [← hjoin, ← hjoin'] at hremove
    cases hr : t.removePath [] (Path.join (sh.path dir) name) with
    | error why =>
      rw [removeEntries_of_error hr, removeEntries_of_error (hremove.symm.trans hr), hjoin, hjoin']
      exact Outcome.SameBut.fail (Failure.notRemoved_sameBut _ _ _ why) t
    | ok t' =>
      rw [removeEntries_of_ok hr] at hsame hrest ⊢
      rw [removeEntries_of_ok (hremove.symm.trans hr)]
      exact ih hnames (hsame.mono (.of_shrinks (Shrinks.removePath hr)) (.refl _)) hrest

theorem isName_of_readDirectory {path : String} {names : List String} (h : t.readDirectory [] path = .ok names) :
    ∀ name ∈ names, Path.isName name = true := by
  intro name hname
  unfold Tree.readDirectory at h
  split at h
  · cases h
  · cases h
    obtain ⟨e, he⟩ := mem_names.1 hname
    exact isName_of_lookup he

theorem clean_movedTo (hsame : SameThroughout sh.directory dir' t (clean sh s t).tree)
    (hlimits : WithinLimits sh.directory dir' (cleanLookups sh s t)) :
    (clean sh s t).SameBut sh.directory dir' (clean (sh.movedTo dir') s t) := by
  have hstart := hsame.start (.of_shrinks (clean_shrinks sh s t))
  rw [cleanLookups, withinLimits_cons] at hlimits
  obtain ⟨hfirst, hrest⟩ := hlimits
  have hresolve : t.resolve [] (sh.path s.buildDir) = t.resolve [] ((sh.movedTo dir').path s.buildDir) :=
    hstart.resolve_join hfirst
  have hread := readDirectory_congr hresolve
  unfold clean at hsame ⊢
  rw [← isThere_congr hresolve]
  split
  · rename_i hthere
    rw [if_pos hthere] at hsame
    refine Outcome.SameBut.after ?_ (Shell.note_movedTo (.same _))
    rw [Outcome.tree_after] at hsame
    unfold emptyDirectory at hsame ⊢
    rw [← hread]
    cases hr : t.readDirectory [] (sh.path s.buildDir) with
    | error why => exact Outcome.SameBut.fail (Failure.unreadableDirectory_sameBut _ _ _ why) t
    | ok names =>
      rw [hr] at hsame hrest
      exact removeEntries_movedTo (isName_of_readDirectory hr) hsame hrest
  · exact Outcome.SameBut.done (Shell.note_movedTo (.same _)) t

/-! ## The report of the link check -/

theorem removeReport_movedTo (h : t.SameDirectory sh.directory dir')
    (hlimits : t.SameLimits sh.directory dir' s.reportFile) :
    (removeReport sh s t).SameBut sh.directory dir' (removeReport (sh.movedTo dir') s t) := by
  have hremove : t.removePath [] (sh.path s.reportFile) = t.removePath [] ((sh.movedTo dir').path s.reportFile) :=
    h.removePath_join hlimits (Path.join_ne_empty s.linkcheckDir (by decide))
  unfold removeReport
  rw [reportPath_eq, reportPath_eq, ← hremove]
  cases t.removePath [] (sh.path s.reportFile) with
  | error why => exact Outcome.SameBut.fail (Failure.notRemoved_sameBut _ _ _ why) t
  | ok t' => exact Outcome.SameBut.refl _ _ _

theorem summary_sameBut (dir dir' q : String) (broken : List LinkReport.Entry) :
    Text.SameBut dir dir' (LinkReport.summary (Path.join dir q) broken)
      (LinkReport.summary (Path.join dir' q) broken) := by
  unfold LinkReport.summary
  split
  · exact .between "No broken links reported in " q ".\n"
  · exact .same _

theorem showReport_movedTo (h : t.SameDirectory sh.directory dir')
    (hlimits : t.SameLimits sh.directory dir' s.reportFile) :
    (showReport sh s t).SameBut sh.directory dir' (showReport (sh.movedTo dir') s t) := by
  have hresolve : t.resolve [] (sh.path s.reportFile) = t.resolve [] ((sh.movedTo dir').path s.reportFile) :=
    h.resolve_join hlimits
  unfold showReport
  rw [reportPath_eq, reportPath_eq, ← isThere_congr hresolve, ← readText_congr hresolve]
  split
  · cases t.readText [] (sh.path s.reportFile) with
    | error why => exact Outcome.SameBut.refl _ _ _
    | ok report =>
      have hsummary :=
        Event.SameBut.print (summary_sameBut sh.directory dir' s.reportFile (LinkReport.broken report))
      exact Outcome.SameBut.done
        ((SameEvents.refl _ _ (LinkReport.complaints sh report)).append (.one hsummary)) t
  · exact Outcome.SameBut.refl _ _ _

end Recipe

/-! ## Targets -/

namespace Target

theorem prepare_movedTo {target : Target}
    (hsame : SameThroughout sh.directory dir' t (target.prepare sh s t).tree)
    (hlimits : WithinLimits sh.directory dir' (target.prepareLookups sh s t)) :
    (target.prepare sh s t).SameBut sh.directory dir' (target.prepare (sh.movedTo dir') s t) := by
  cases target with
  | clean => exact Recipe.clean_movedTo hsame hlimits
  | stricthtml => exact Recipe.clean_movedTo hsame hlimits
  | linkcheck =>
    exact Recipe.removeReport_movedTo (hsame.start (prepare_evolves sh s .linkcheck t))
      (withinLimits_cons.1 hlimits).1
  | help => exact Outcome.SameBut.refl _ _ _
  | html => exact Outcome.SameBut.refl _ _ _
  | spellcheck => exact Outcome.SameBut.refl _ _ _
  | livehtml => exact Outcome.SameBut.done (Shell.note_movedTo (.same _)) t

theorem conclude_movedTo {target : Target} (h : t.SameDirectory sh.directory dir')
    (hlimits : target = .linkcheck → t.SameLimits sh.directory dir' s.reportFile) :
    (target.conclude sh s t).SameBut sh.directory dir' (target.conclude (sh.movedTo dir') s t) := by
  cases target with
  | linkcheck => exact (Recipe.showReport_movedTo h (hlimits rfl)).after (SameEvents.refl _ _ _)
  | _ => exact Outcome.SameBut.refl _ _ _

theorem command?_movedTo {target : Target}
    (hlimits : WithinLimits sh.directory dir' (target.carryOutLookups sh s t)) :
    Option.Rel (sh.SameProgram dir' t) (target.command? sh s) (target.command? (sh.movedTo dir') s) := by
  cases target with
  | linkcheck => exact .some (.script [] _ (withinLimits_cons.1 hlimits).1)
  | help => exact .none
  | clean => exact .none
  | _ => exact .some (.same _)

/-- A conclusion leaves the tree that the tool has left. -/
theorem carryOut_tree {target : Target} {c : Command} (hc : target.command? sh s = some c) :
    (target.carryOut sh s t).tree = (sh.run c t).tree := by
  unfold carryOut
  rw [hc]
  dsimp only
  unfold Outcome.andThen
  split
  · rw [Outcome.tree_after, conclude_tree]
  · rfl

theorem carryOut_movedTo {target : Target}
    (hsame : SameThroughout sh.directory dir' t (target.carryOut sh s t).tree)
    (hlimits : WithinLimits sh.directory dir' (target.carryOutLookups sh s t)) :
    (target.carryOut sh s t).SameBut sh.directory dir' (target.carryOut (sh.movedTo dir') s t) := by
  have hstart := hsame.start (carryOut_evolves sh s target t)
  have hcommand := command?_movedTo hlimits
  generalize hc : target.command? sh s = found, hc' : target.command? (sh.movedTo dir') s = found' at hcommand
  cases hcommand with
  | none =>
    unfold carryOut
    rw [hc, hc']
    exact Outcome.SameBut.refl _ _ _
  | @some c c' hprogram =>
    have hran : (sh.run c t).tree.SameDirectory sh.directory dir' :=
      hsame _ (sh.run_evolves c t) (carryOut_tree hc ▸ .refl _)
    unfold carryOut
    rw [hc, hc']
    apply (Shell.run_movedTo hstart hprogram).andThen
    intro hok
    apply conclude_movedTo hran
    intro hlink
    subst hlink
    cases hc
    rw [carryOutLookups, withinLimits_cons, Outcome.thenLookups_of_ok hok] at hlimits
    exact (withinLimits_cons.1 hlimits.2).1

/-- A target does the same under both texts. -/
theorem run_movedTo {target : Target} (hsame : SameThroughout sh.directory dir' t (target.run sh s t).tree)
    (hlimits : WithinLimits sh.directory dir' (target.lookups sh s t)) :
    (target.run sh s t).SameBut sh.directory dir' (target.run (sh.movedTo dir') s t) := by
  obtain ⟨hfirst, hrest⟩ := withinLimits_append.1 hlimits
  rw [run_eq] at hsame ⊢
  rw [run_eq]
  have hbehind : Evolves sh.directory (target.prepare sh s t).tree
      ((target.prepare sh s t).andThen (target.carryOut sh s)).tree :=
    Evolves.andThen (.refl _) (carryOut_evolves sh s target)
  apply (prepare_movedTo (hsame.mono (.refl t) hbehind) hfirst).andThen
  intro hok
  rw [Outcome.thenLookups_of_ok hok] at hrest
  rw [Outcome.andThen_of_ok hok, Outcome.tree_after] at hsame
  exact carryOut_movedTo (hsame.mono (prepare_evolves sh s target t) (.refl _)) hrest

end Target

/-- What two runs of targets leave differs only in what they show of the working directory. -/
structure RunOutcome.SameBut (dir dir' : String) (o o' : RunOutcome) : Prop where
  result :
    SameResult (fun failed failed' => failed'.1 = failed.1 ∧ failed.2.SameBut dir dir' failed'.2)
      o.result o'.result
  events : SameEvents dir dir' o.events o'.events
  tree : o'.tree = o.tree

theorem runAll_evolves (sh : Shell) (s : Settings) (targets : List Target) (t : Tree) :
    Evolves sh.directory t (runAll sh s targets t).tree := by
  induction targets generalizing t with
  | nil => exact .refl t
  | cons target targets ih =>
    have hfirst := target.run_evolves sh s t
    cases hr : (target.run sh s t).result with
    | error why =>
      rw [runAll_of_failed hr]
      exact hfirst
    | ok _ =>
      rw [runAll_of_passed hr]
      exact hfirst.trans (ih _)

/-- A run of targets does the same under both texts. -/
theorem runAll_movedTo {targets : List Target}
    (hsame : SameThroughout sh.directory dir' t (runAll sh s targets t).tree)
    (hlimits : WithinLimits sh.directory dir' (runLookups sh s targets t)) :
    (runAll sh s targets t).SameBut sh.directory dir' (runAll (sh.movedTo dir') s targets t) := by
  induction targets generalizing t with
  | nil => exact ⟨.ok (), .nil, rfl⟩
  | cons target targets ih =>
    obtain ⟨hfirst, hrest⟩ := withinLimits_append.1 hlimits
    have hran := target.run_evolves sh s t
    cases hr : (target.run sh s t).result with
    | error why =>
      rw [runAll_of_failed hr] at hsame ⊢
      have htarget := Target.run_movedTo hsame hfirst
      obtain ⟨why', hr', hwhy⟩ := htarget.result.of_error hr
      rw [runAll_of_failed hr']
      exact ⟨.error ⟨rfl, hwhy⟩, htarget.events, htarget.tree⟩
    | ok _ =>
      rw [runAll_of_passed hr] at hsame ⊢
      rw [Outcome.thenLookups_of_ok hr] at hrest
      have hbehind := runAll_evolves sh s targets (target.run sh s t).tree
      have htarget := Target.run_movedTo (hsame.mono (.refl t) hbehind) hfirst
      rw [runAll_of_passed (htarget.result.ok_iff.1 hr), htarget.tree]
      obtain ⟨hresult, hevents, htree⟩ := ih (hsame.mono hran (.refl _)) hrest
      exact ⟨hresult, htarget.events.append hevents, htree⟩

end Simulation

end DocRunner
