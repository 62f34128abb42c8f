import DocRunner.Proofs.Run.Composition
import DocRunner.Proofs.Run.FromScratch
import DocRunner.Proofs.Tree.Below

/-!
# Builds leave no trace behind a cleaning

* `Settings.buildPlace s d` : the build directory, seen from a working directory;
* `Settings.Placed sh s t d` : the build directory can be found, in a tree without links on
  the way to it or below it;
* `Settings.ReachedFromAbove sh s t d` : it is found by a way that passes nothing below it, and so also when it
  is empty (`Settings.Placed.found_emptied`). A working directory that is known by its own path is no obstacle
  to that (`Settings.Placed.reachedFromAbove`);
* `Settings.Placed.clean_outside`, `Settings.Placed.clean_below` : a cleaning takes nothing that does not stand
  below the build directory, and if it succeeds, and that is reached from above, all that does;
* `Tool.WritesBelowLast tool` : a tool writes below its last argument only;
* `Settings.Placed.run`, `Settings.Placed.runAll` : a target, and so a run of targets, with such a tool changes
  the tree below the build directory only;
* `builds_then_clean` : behind such a run and a cleaning the tree is what it was outside the build
  directory, and nothing stands below that if it is reached from above. If not, something may be left
  there (`page_left_behind`).
-/

namespace DocRunner

open DocRunner.Tree

variable {sh : Shell} {s : Settings} {t t' : Tree} {d : Location}

/-! ## The build directory -/

/-- The build directory, seen from a working directory. -/
def Settings.buildPlace (s : Settings) (d : Location) : Location :=
  (origin s.buildDir d).along (Path.components s.buildDir)

/-- The build directory can be found from a working directory. Its path leads down, none of its names is too
long, and no link stands on the way to it or below it. -/
structure Settings.Placed (sh : Shell) (s : Settings) (t : Tree) (d : Location) : Prop where
  started : t.resolveDirectory [] sh.directory = .ok d
  down : ".." ∉ Path.components s.buildDir
  fits : (sh.path s.buildDir).utf8ByteSize ≤ pathLimit
  short : ∀ name ∈ Path.components s.buildDir, name.utf8ByteSize ≤ nameLimit
  unlinked : t.Unlinked (s.buildPlace d)
  linkFree : t.LinkFree (s.buildPlace d)

/-- The build directory is found by a way that passes nothing below it. Either its own path is absolute, or the
path of the working directory, which it is joined to, passes nothing there. -/
def Settings.ReachedFromAbove (sh : Shell) (s : Settings) (t : Tree) (d : Location) : Prop :=
  Path.isAbsolute s.buildDir = true ∨ ∀ q, t.OnWay sh.directory q → ¬ q.IsBelow (s.buildPlace d)

namespace Settings

/-- The path of the build directory is walked from the working directory, or from the root. -/
theorem resolve_buildDir (hd : Path.isAbsolute s.buildDir = false → t.resolveDirectory [] sh.directory = .ok d)
    (hcheck : checkPath (sh.path s.buildDir) = .ok ()) :
    ∃ left, t.resolve [] (sh.path s.buildDir) =
      t.follow left (origin s.buildDir d) (Path.components s.buildDir) := by
  rw [Shell.path] at hcheck ⊢
  by_cases habs : Path.isAbsolute s.buildDir = true
  · rw [Path.join_of_absolute _ habs] at hcheck ⊢
    refine ⟨linkLimit, ?_⟩
    rw [resolve, hcheck, origin, origin, if_pos habs, if_pos habs]
  · rw [Bool.not_eq_true] at habs
    have horigin : origin s.buildDir d = d := if_neg (by simp [habs])
    rw [horigin]
    exact resolve_join_of_relative (hd habs) habs hcheck

namespace Placed

/-- The path of the build directory is fit, if something stands there. -/
theorem checkPath (h : Placed sh s t d) {e : Entry} (he : t.lookup (s.buildPlace d) = some e) :
    Tree.checkPath (sh.path s.buildDir) = .ok () := by
  have hbuild : '\x00' ∉ s.buildDir.toList := by
    intro hnul
    obtain ⟨name, hname, hmem⟩ := Path.exists_name_of_mem hnul (by decide)
    have hdot : name ≠ "." := by
      rintro rfl
      revert hmem
      decide
    -- each name of the path but `.` is the name of a directory on the way
    have hway : name ∈ s.buildPlace d := by
      rw [buildPlace, Location.along_components]
      simp [Location.along, hname, hdot]
    exact Path.nul_notMem_of_isName (isName_of_mem he name hway) hmem
  obtain ⟨hnul, hne, -⟩ := checkPath_eq_ok.1 (checkPath_of_resolve (resolveDirectory_eq_ok.1 h.started).1)
  exact checkPath_eq_ok.2
    ⟨Path.nul_notMem_join hnul hbuild, Path.join_ne_empty_of_left hne _, not_lt.2 h.fits⟩

theorem eq_of_found (h : Placed sh s t d) {place : Location}
    (hfound : t.resolveDirectory [] (sh.path s.buildDir) = .ok place) : place = s.buildPlace d := by
  obtain ⟨hres, -⟩ := resolveDirectory_eq_ok.1 hfound
  obtain ⟨left, hleft⟩ := resolve_buildDir (fun _ => h.started) (checkPath_of_resolve hres)
  rw [hleft] at hres
  exact follow_along h.down h.unlinked hres

/-- From a working directory that is known by its own path, the build directory is reached from above. -/
theorem reachedFromAbove (h : Placed sh s t d) (hphysical : sh.directory = d.path) :
    ReachedFromAbove sh s t d := by
  by_cases habs : Path.isAbsolute s.buildDir = true
  · exact Or.inl habs
  · have hway : d <:+ s.buildPlace d := by
      rw [buildPlace, origin, if_neg habs]
      exact Location.suffix_along d _
    have hempty := resolveDirectory_emptied (hphysical ▸ h.started) hway
    exact Or.inr ((resolveDirectory_emptied_iff h.started).1 (hphysical ▸ hempty))

/-- What is reached from above is found also when it is empty. -/
theorem found_emptied (h : Placed sh s t d) (habove : ReachedFromAbove sh s t d)
    (hdir : t.lookup (s.buildPlace d) = some .directory) :
    (t.emptied (s.buildPlace d)).resolveDirectory [] (sh.path s.buildDir) = .ok (s.buildPlace d) := by
  have hstarted : Path.isAbsolute s.buildDir = false →
      (t.emptied (s.buildPlace d)).resolveDirectory [] sh.directory = .ok d := by
    intro hrelative
    rcases habove with habs | hway
    · rw [hrelative] at habs
      cases habs
    · exact (resolveDirectory_emptied_iff h.started).2 hway
  have hkept : (t.emptied (s.buildPlace d)).lookup (s.buildPlace d) = some .directory :=
    (lookup_emptied_of_not_isBelow t fun hbelow => hbelow.2 rfl).trans hdir
  obtain ⟨left, hleft⟩ := resolve_buildDir hstarted (h.checkPath hdir)
  refine resolveDirectory_eq_ok.2 ⟨?_, hkept⟩
  rw [hleft]
  exact follow_of_arrived (advance_directory hkept h.down h.short)

/-- A cleaning takes nothing that does not stand below the build directory. -/
theorem clean_outside (h : Placed sh s t d) {l : Location} (hl : ¬ l.IsBelow (s.buildPlace d)) :
    (Recipe.clean sh s t).tree.lookup l = t.lookup l := by
  by_cases hfound : ∃ place, t.resolveDirectory [] (sh.path s.buildDir) = .ok place
  · obtain ⟨place, hplace⟩ := hfound
    rw [h.eq_of_found hplace] at hplace
    obtain ⟨done, rest, -, hswept, -⟩ := Recipe.clean_swept hplace
    exact hswept.lookup_of_not_isBelow hl
  · rw [Recipe.clean_of_no_directory (not_exists.1 hfound)]

/-- A cleaning that succeeds takes all that stands below a build directory that is reached from above. -/
theorem clean_below (h : Placed sh s t d) (habove : ReachedFromAbove sh s t d)
    (hok : (Recipe.clean sh s t).result = .ok ()) {l : Location} (hl : l.IsBelow (s.buildPlace d)) :
    (Recipe.clean sh s t).tree.lookup l = none := by
  by_cases hdir : t.lookup (s.buildPlace d) = some .directory
  · have halike := Recipe.clean_alike_emptied h.linkFree (h.found_emptied habove hdir) hok
    exact (halike l).trans (lookup_emptied_of_isBelow t hl)
  · -- where no directory is, nothing stands below it, and cleaning brings nothing
    cases he : (Recipe.clean sh s t).tree.lookup l with
    | none => rfl
    | some e => exact absurd (lookup_of_suffix (Recipe.clean_shrinks sh s t _ _ he) hl) hdir

/-- The build directory can still be found in a tree that has changed below it only, if the
working directory can. -/
theorem changed (h : Placed sh s t d) (hchange : ChangesBelow (s.buildPlace d) t t')
    (hstarted : t'.resolveDirectory [] sh.directory = .ok d) : Placed sh s t' d where
  started := hstarted
  down := h.down
  fits := h.fits
  short := h.short
  unlinked := hchange.unlinked h.unlinked
  linkFree l hl target hlink := h.linkFree l hl target (hchange.links l target hlink)

/-- In such a tree it is also still reached from above. -/
theorem reachedFromAbove_of_changed (h : Placed sh s t d) (habove : ReachedFromAbove sh s t d)
    (hchange : ChangesBelow (s.buildPlace d) t t') (h' : Placed sh s t' d) : ReachedFromAbove sh s t' d := by
  refine habove.imp_right fun hway => (resolveDirectory_emptied_iff h'.started).1 ?_
  exact hchange.grows_emptied.resolveDirectory ((resolveDirectory_emptied_iff h.started).2 hway)

end Placed

end Settings

/-! ## Tools that write below their last argument -/

/-- A tool writes below its last argument only. -/
def Tool.WritesBelowLast (tool : Tool) : Prop :=
  ∀ w ∈ tool.writes, ∃ p, w.path = "\x7blast\x7d/" ++ p ∧ ".." ∉ Path.components p

/-- A target starts one tool only, so that what is known of one is known of all. -/
theorem Target.Starts.writesBelowLast {target : Target} {c c' : Command} {there there' : Location}
    {tool tool' : Tool} (h : Target.Starts sh s target t c there tool) (htool : tool.WritesBelowLast)
    (h' : Target.Starts sh s target t c' there' tool') : tool'.WritesBelowLast := by
  obtain ⟨-, -, rfl⟩ := h.unique h'
  exact htool

theorem Write.target_of_last {w : Write} {p : String} (h : w.path = "\x7blast\x7d/" ++ p) (last b : String) :
    w.target last b = last ++ "/" ++ p := by
  have hpath : w.path.toList = "\x7blast\x7d".toList ++ ("/" ++ p).toList := by
    rw [h, String.toList_append, String.toList_append]
    rfl
  dsimp only [target]
  rw [hpath, if_pos (List.isPrefixOf_iff_prefix.2 (List.prefix_append _ _)),
    List.drop_left' (String.length_toList), String.ofList_toList, String.append_assoc]

namespace Settings.Placed

/-- Where no link stands on the way to the build directory or below it, none stands on the
way to what is below it. -/
theorem unlinked_of_suffix (h : Placed sh s t d) {l : Location} (hl : s.buildPlace d <:+ l) : t.Unlinked l := by
  intro m hm target
  rcases List.suffix_or_suffix_of_suffix hm hl with hway | hbelow
  · exact h.unlinked m hway target
  · by_cases heq : m = s.buildPlace d
    · exact h.unlinked m (heq ▸ List.suffix_refl m) target
    · exact h.linkFree m ⟨hbelow, heq⟩ target

/-- Writing a file below an entry of the build directory. -/
theorem writeFile (h : Placed sh s t d) {sub p : String} (hsub : Path.isName sub = true)
    (hp : ".." ∉ Path.components p) (bytes : ByteArray) :
    ChangesBelow (s.buildPlace d) t (t.writeFile d (Path.join s.buildDir sub ++ "/" ++ p) bytes) := by
  obtain ⟨rest, hnames, hrest⟩ : ∃ rest, ".." ∉ sub :: rest ∧
      Path.components (Path.join s.buildDir sub ++ "/" ++ p) = Path.stem s.buildDir ++ sub :: rest := by
    rw [Path.components_eq, Path.stem_append_slash, Path.stem_join _ hsub, List.append_assoc, List.append_assoc,
      List.singleton_append]
    refine ⟨_, ?_, rfl⟩
    rw [Path.components_eq, List.mem_append, not_or] at hp
    have hdots : ".." ≠ sub := fun heq => (Path.ne_of_isName hsub).2.2 heq.symm
    rw [List.mem_cons, List.mem_append, not_or, not_or]
    refine ⟨hdots, hp.1, ?_⟩
    split <;> simp
  have hplace : (origin (Path.join s.buildDir sub ++ "/" ++ p) d).along (Path.stem s.buildDir) =
      s.buildPlace d := by
    rw [origin, Path.isAbsolute_append (by simp), Path.isAbsolute_append (Path.join_ne_empty _ hsub),
      Path.isAbsolute_join _ hsub, buildPlace, Location.along_components, origin]
  have hdown := h.down
  rw [Path.components_eq, List.mem_append, not_or] at hdown
  refine ChangesBelow.writeFile ?_ ?_ ?_
  · rw [hrest, List.mem_append, not_or]
    exact ⟨hdown.1, hnames⟩
  · rw [hrest, Location.along_append, hplace]
    exact h.unlinked_of_suffix (Location.suffix_along _ _)
  · rw [hrest, List.dropLast_append_of_ne_nil (List.cons_ne_nil _ _), Location.along_append, hplace]
    exact Location.suffix_along _ _

/-- What a tool does that writes below its last argument, if that is an entry of the build directory. -/
theorem write (h : Placed sh s t d) {tool : Tool} (htool : tool.WritesBelowLast) {sub : String}
    (hsub : Path.isName sub = true) {arguments : List String}
    (hlast : arguments.getLast? = some (Path.join s.buildDir sub)) (vars : Variables) :
    ChangesBelow (s.buildPlace d) t (tool.write d vars arguments t) := by
  rw [Tool.write, hlast, Option.getD_some]
  unfold Tool.WritesBelowLast at htool
  generalize tool.writes = writes at htool ⊢
  induction writes generalizing t with
  | nil => exact .refl _ t
  | cons w writes ih =>
    obtain ⟨⟨p, hpath, hp⟩, hwrites⟩ := List.forall_mem_cons.1 htool
    rw [List.foldl_cons, Write.target_of_last hpath]
    have hfirst := h.writeFile hsub hp w.bytes
    exact hfirst.trans (ih (h.changed hfirst ((Grows.writeFile t d _ _).resolveDirectory h.started)) hwrites)

end Settings.Placed

/-! ## Targets and runs -/

/-- The targets that build, and `help`. -/
def Target.IsBuild (target : Target) : Prop :=
  target = .help ∨ target = .html ∨ target = .stricthtml ∨ target = .spellcheck

/-- A build names an entry of the build directory as the last argument of its tool. -/
theorem Target.IsBuild.getLast?_arguments {target : Target} (h : target.IsBuild) {c : Command}
    (hc : target.command? sh s = some c) :
    ∃ sub, Path.isName sub = true ∧ c.arguments.getLast? = some (Path.join s.buildDir sub) := by
  rcases h with rfl | rfl | rfl | rfl
  · cases hc
  · cases hc
    exact ⟨"html", by decide, by simp [Settings.htmlCommand, Settings.htmlDir]⟩
  · cases hc
    exact ⟨"html", by decide, by simp [Settings.htmlCommand, Settings.htmlDir]⟩
  · cases hc
    exact ⟨"spelling", by decide, by simp [Settings.spellCommand, Settings.spellingDir]⟩

namespace Settings.Placed

/-- What comes before the tool of a build changes the tree below the build directory only. -/
theorem prepare (h : Placed sh s t d) {target : Target} (htarget : target.IsBuild) :
    ChangesBelow (s.buildPlace d) t (target.prepare sh s t).tree := by
  rcases htarget with rfl | rfl | rfl | rfl
  · exact .refl _ t
  · exact .refl _ t
  · exact .of_shrinks (Recipe.clean_shrinks sh s t) fun _ => h.clean_outside
  · exact .refl _ t

/-- A build that succeeds, with a tool that writes below its last argument, changes the tree below the build
directory only, and the build directory can be found behind it as before. -/
theorem run (h : Placed sh s t d) {target : Target} (htarget : target.IsBuild)
    (htool : ∀ c there tool, Target.Starts sh s target t c there tool → tool.WritesBelowLast)
    (hok : (target.run sh s t).result = .ok ()) :
    ChangesBelow (s.buildPlace d) t (target.run sh s t).tree ∧ Placed sh s (target.run sh s t).tree d := by
  have hcourse := target.course sh s t
  generalize target.run sh s t = o at hok hcourse ⊢
  cases hcourse with
  | unprepared hfail =>
    rw [hfail] at hok
    cases hok
  | unstarted => cases hok
  | stopped => cases hok
  | toolless _ hnone =>
    -- only `help` has no tool
    rcases htarget with rfl | rfl | rfl | rfl
    · exact ⟨.refl _ t, h⟩
    · cases hnone
    · cases hnone
    · cases hnone
  | @concluded c there tool hstarts _ =>
    have hprepared := h.prepare htarget
    -- the tool starts in the working directory, which is where it was
    have hfound := Shell.resolveDirectory_of_find hstarts.found
    have hthere := (Target.prepare_shrinks sh s target t).leadsAsBefore _ there hfound
    rw [h.started] at hthere
    cases hthere
    have hplaced := h.changed hprepared hfound
    obtain ⟨sub, hsub, hlast⟩ := htarget.getLast?_arguments hstarts.command
    have hwritten := hplaced.write (htool c d tool hstarts) hsub hlast (sh.varsFor c)
    have hstill := (Grows.write tool d (sh.varsFor c) c.arguments _).resolveDirectory hfound
    rw [Outcome.tree_after, Target.conclude_tree]
    exact ⟨hprepared.trans hwritten, hplaced.changed hwritten hstill⟩

/-- A run of builds that succeeds changes the tree below the build directory only. -/
theorem runAll (h : Placed sh s t d) {targets : List Target} {visits : List Visit}
    (hvisits : Visits sh s targets t visits) (htargets : ∀ target ∈ targets, target.IsBuild)
    (htools : ∀ v ∈ visits, ∀ c there tool, Target.Starts sh s v.target v.tree c there tool →
      tool.WritesBelowLast)
    (hok : (DocRunner.runAll sh s targets t).result = .ok ()) :
    ChangesBelow (s.buildPlace d) t (DocRunner.runAll sh s targets t).tree ∧
      Placed sh s (DocRunner.runAll sh s targets t).tree d := by
  induction hvisits with
  | nil t => exact ⟨.refl _ t, h⟩
  | failed targets hfail =>
    rw [runAll_of_failed hfail] at hok
    cases hok
  | passed hpassed _ ih =>
    obtain ⟨htarget, htargets⟩ := List.forall_mem_cons.1 htargets
    obtain ⟨htool, htools⟩ := List.forall_mem_cons.1 htools
    rw [runAll_of_passed hpassed] at hok ⊢
    obtain ⟨hfirst, hplaced⟩ := h.run htarget htool hpassed
    obtain ⟨hrest, hlast⟩ := ih hplaced htargets htools hok
    exact ⟨hfirst.trans hrest, hlast⟩

end Settings.Placed

theorem runAll_clean (h : (runAll sh s [.clean] t).result = .ok ()) :
    (Recipe.clean sh s t).result = .ok () ∧ (runAll sh s [.clean] t).tree = (Recipe.clean sh s t).tree := by
  cases hclean : (Target.clean.run sh s t).result with
  | error why =>
    rw [runAll_of_failed hclean] at h
    cases h
  | ok _ =>
    rw [runAll_of_passed hclean]
    exact ⟨hclean, rfl⟩

/-- Behind a run of builds and a cleaning that all succeed, with tools that write below their last argument,
everything outside the build directory is what it was, but that this directory and those on the way to it may
have been made. Below the build directory nothing stands, if it is reached from above. It always is where the
working directory is known by its own path. -/
theorem builds_then_clean {targets : List Target} (hplaced : s.Placed sh t d)
    (htargets : ∀ target ∈ targets, target.IsBuild)
    (htools : ∀ visits, Visits sh s targets t visits → ∀ v ∈ visits, ∀ c there tool,
      Target.Starts sh s v.target v.tree c there tool → tool.WritesBelowLast)
    (hok : (runAll sh s (targets ++ [.clean]) t).result = .ok ()) (l : Location) :
    (sh.directory = d.path ∨ s.ReachedFromAbove sh t d → l.IsBelow (s.buildPlace d) →
        (runAll sh s (targets ++ [.clean]) t).tree.lookup l = none) ∧
      (¬ l.IsBelow (s.buildPlace d) →
        (runAll sh s (targets ++ [.clean]) t).tree.lookup l = t.lookup l ∨
          l <:+ s.buildPlace d ∧ t.lookup l = none ∧
            (runAll sh s (targets ++ [.clean]) t).tree.lookup l = some .directory) := by
  obtain ⟨visits, hvisits⟩ := Visits.exist sh s targets t
  rw [runAll_append] at hok ⊢
  cases hbuilt : (runAll sh s targets t).result with
  | error failing =>
    rw [RunOutcome.andThen_of_error hbuilt, hbuilt] at hok
    cases hok
  | ok _ =>
    obtain ⟨hchange, hstill⟩ := hplaced.runAll hvisits htargets (htools visits hvisits) hbuilt
    rw [RunOutcome.andThen_of_ok hbuilt] at hok ⊢
    obtain ⟨hcleaned, htree⟩ := runAll_clean hok
    dsimp only
    rw [htree]
    refine ⟨fun hway hl => ?_, fun hl => ?_⟩
    · have habove := hway.elim hplaced.reachedFromAbove id
      exact hstill.clean_below (hplaced.reachedFromAbove_of_changed habove hchange hstill) hcleaned hl
    · rw [hstill.clean_outside hl]
      exact hchange.outside l hl

/-! ### A sample -/

/-- The builder that the workspace holds. -/
def pageBuilder : Tool := ⟨"sphinx-build", [⟨"\x7blast\x7d/index.html", .empty⟩], "", "", .exited 0⟩

theorem writesBelowLast_pageBuilder : pageBuilder.WritesBelowLast := by
  intro w hw
  cases List.mem_singleton.1 hw
  exact ⟨"index.html", rfl, by decide⟩

/-- The shell of a workspace. -/
def pageShell : Shell := ⟨"/ws", [], none⟩

theorem buildPlace_default : Settings.default.buildPlace ["ws"] = ["build", "ws"] := by decide

theorem placed_pageTreeWith : Settings.default.Placed pageShell (Recipe.pageTreeWith "old.html") ["ws"] := by
  refine ⟨by rfl, by decide, by decide, by decide, ?_, ?_⟩
  · rw [buildPlace_default]
    exact .of_directory (by rfl)
  · rw [buildPlace_default]
    exact Recipe.linkFree_pageTreeWith "old.html"

/-- The builder that is started writes below its last argument. -/
theorem writesBelowLast_of_visits {visits : List Visit}
    (hvisits : Visits pageShell Settings.default [.help, .html] (Recipe.pageTreeWith "old.html") visits) :
    ∀ v ∈ visits, ∀ c there tool,
      Target.Starts pageShell Settings.default v.target v.tree c there tool → tool.WritesBelowLast := by
  have hstarts : Target.Starts pageShell Settings.default .html (Recipe.pageTreeWith "old.html")
      (Settings.default.htmlCommand false) ["ws"] pageBuilder := ⟨rfl, rfl, by rfl⟩
  have hnames : ∀ v ∈ visits, v.target = .help ∨ v = ⟨.html, Recipe.pageTreeWith "old.html"⟩ := by
    cases hvisits with
    | failed _ hfail => cases hfail
    | passed _ hrest =>
      cases hrest with
      | failed => simp [Target.run, Outcome.done]
      | passed _ hnil =>
        cases hnil
        simp [Target.run, Outcome.done]
  intro v hv c there tool hs
  rcases hnames v hv with hhelp | rfl
  · exact absurd hs (Target.not_starts_of_no_command (by rw [hhelp]; rfl))
  · exact hstarts.writesBelowLast writesBelowLast_pageBuilder hs

/-- A page that is left over goes, and so does the page that is built. -/
theorem builds_then_clean_sample :
    (runAll pageShell Settings.default [.help, .html, .clean] (Recipe.pageTreeWith "old.html")).result = .ok () ∧
      ∀ l : Location, l.IsBelow ["build", "ws"] →
        (runAll pageShell Settings.default [.help, .html, .clean] (Recipe.pageTreeWith "old.html")).tree.lookup
          l = none := by
  have hok : (runAll pageShell Settings.default ([.help, .html] ++ [.clean])
      (Recipe.pageTreeWith "old.html")).result = .ok () := by decide +kernel
  have htargets : ∀ target ∈ [Target.help, .html], target.IsBuild := by simp [Target.IsBuild]
  refine ⟨hok, fun l hl => ?_⟩
  rw [← buildPlace_default] at hl
  have hphysical : pageShell.directory = Location.path ["ws"] := by decide
  exact (builds_then_clean placed_pageTreeWith htargets (fun _ => writesBelowLast_of_visits) hok l).1
    (.inl hphysical) hl

/-! ### A way through the build directory -/

/-- The workspace with a directory in its build directory. -/
def detourTree : Tree := Recipe.pageTree.put ["a", "build", "ws"] .directory

/-- The shell of the workspace, when this is known by a path through that directory. -/
def detourShell : Shell := ⟨"/ws/build/a/../..", [], none⟩

theorem placed_detourTree : Settings.default.Placed detourShell detourTree ["ws"] := by
  refine ⟨by rfl, by decide, by decide, by decide, ?_, ?_⟩
  · rw [buildPlace_default]
    exact .of_directory (by rfl)
  · rw [buildPlace_default]
    exact Recipe.linkFree_put_pageTree (by simp)

/-- All that `builds_then_clean` asks for holds of a workspace that is entered by a path through its build
directory, and yet the page that is built is left behind. The directory on that path is the first that goes, and
nothing else is found without it. -/
theorem page_left_behind :
    pageShell.changeDirectory detourTree "build/a/../.." = .ok detourShell ∧
      Settings.default.Placed detourShell detourTree ["ws"] ∧
      (∀ target ∈ [Target.html], target.IsBuild) ∧
      (∀ visits, Visits detourShell Settings.default [.html] detourTree visits → ∀ v ∈ visits, ∀ c there tool,
        Target.Starts detourShell Settings.default v.target v.tree c there tool → tool.WritesBelowLast) ∧
      (runAll detourShell Settings.default ([.html] ++ [.clean]) detourTree).result = .ok () ∧
      Location.IsBelow ["index.html", "html", "build", "ws"] (Settings.default.buildPlace ["ws"]) ∧
      (runAll detourShell Settings.default ([.html] ++ [.clean]) detourTree).tree.lookup
        ["index.html", "html", "build", "ws"] ≠ none := by
  refine ⟨by rfl, placed_detourTree, by simp [Target.IsBuild], ?_, by decide +kernel, ?_, by decide +kernel⟩
  · have hstarts : Target.Starts detourShell Settings.default .html detourTree
        (Settings.default.htmlCommand false) ["ws"] pageBuilder := ⟨rfl, rfl, by rfl⟩
    intro visits hvisits v hv c there tool hs
    have hv' : v = ⟨.html, detourTree⟩ := by
      cases hvisits with
      | failed => exact List.mem_singleton.1 hv
      | passed _ hnil =>
        cases hnil
        exact List.mem_singleton.1 hv
    subst hv'
    exact hstarts.writesBelowLast writesBelowLast_pageBuilder hs
  · rw [buildPlace_default]
    exact ⟨by decide, by decide⟩

end DocRunner
