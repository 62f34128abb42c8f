import DocRunner.Proofs.Clean.Sweep
import DocRunner.Proofs.CommandLine.Reading
import DocRunner.Proofs.Settings.Layers
import DocRunner.Program

/-!
# Directories with an empty path

* `Sources.value_eq_empty_iff` : an empty value counts in the settings file alone;
* `Path.samePlace_slash_iff` : what a script finds below the build directory that it is told is what the
  settings mean, unless that is empty: then the script looks below the root;
* `Recipe.clean_of_empty` : cleaning takes the working directory for an empty build directory;
* `Settings.resolve_empty_iff` : when the settings of a run have an empty build or source
  directory, and what follows.
-/

namespace DocRunner

/-! ## Where an empty value counts -/

/-- A variable or a flag that is empty says nothing, so that an empty value comes from the settings file. -/
theorem Sources.value_eq_empty_iff {default : String} {flag var file : Option String} (hdefault : default ≠ "")
    (hflag : flag ≠ some "") :
    Sources.value default ⟨flag, var.filter (· ≠ ""), file⟩ = "" ↔
      flag = none ∧ var.getD "" = "" ∧ file = some "" := by
  cases flag with
  | some a =>
    have ha : a ≠ "" := fun h => hflag (congrArg some h)
    simp [Sources.value, ha]
  | none =>
    rcases Option.eq_none_or_eq_some (var.filter (· ≠ "")) with hvar | ⟨a, hvar⟩
    · have hempty : var.getD "" = "" := by
        cases var with
        | none => rfl
        | some v => simpa [Option.filter_eq_none_iff] using hvar
      rw [hvar]
      cases file with
      | none => simp [Sources.value, hdefault]
      | some b => simp [Sources.value, hempty]
    · obtain ⟨hset, hne⟩ := Option.filter_eq_some_iff.1 hvar
      rw [hvar, hset]
      simp only [decide_eq_true_eq] at hne
      simp [Sources.value, hne]

namespace CommandLine

variable {cl : CommandLine} {words : List String}

/-- Command lines with an empty directory are not read. -/
theorem flags_ne_empty (h : read words = .ok cl) :
    cl.flags.buildDir ≠ some "" ∧ cl.flags.sourceDir ≠ some "" := by
  obtain ⟨items, -, -, hmeaning⟩ := read_eq_ok_iff.1 h
  constructor
  · intro hempty
    obtain ⟨v, -, hne, rfl⟩ := (hmeaning.get .buildDir "").1 hempty
    exact hne rfl
  · intro hempty
    obtain ⟨v, -, hne, rfl⟩ := (hmeaning.get .sourceDir "").1 hempty
    exact hne rfl

end CommandLine

/-! ## What follows from an empty build directory -/

namespace Path

/-- Two paths lead to the same place, from any directory. -/
def SamePlace (p q : String) : Prop := isAbsolute p = isAbsolute q ∧ components p = components q

theorem samePlace_slash_iff (b : String) {name : String} (h : isName name = true) :
    SamePlace (b ++ "/" ++ name) (join b name) ↔ b ≠ "" := by
  have hcomponents : components (b ++ "/" ++ name) = components (join b name) := by
    rw [components_join b h, components_eq, stem_append_slash, stem_of_isName h,
      endsWithSlash_append_name (b ++ "/") h]
    exact List.append_nil _
  rw [SamePlace, and_iff_left hcomponents, isAbsolute_join b h]
  by_cases hb : b = ""
  · subst hb
    simp [isAbsolute]
  · rw [String.append_assoc, isAbsolute_append hb]
    simp [hb]

end Path

namespace Tree

variable {t : Tree} {d : Location} {p : String}

/-- A slash at its end does not change where the path of a directory leads. -/
theorem resolveDirectory_join_empty (h : t.resolveDirectory [] p = .ok d) (hlen : p.utf8ByteSize < pathLimit) :
    t.resolveDirectory [] (Path.join p "") = .ok d := by
  obtain ⟨hp, hstem⟩ := follow_stem h
  obtain ⟨hnul, hne, -⟩ := checkPath_eq_ok.1 hp
  have hsize : (Path.join p "").utf8ByteSize ≤ p.utf8ByteSize + 1 := by
    rw [Path.join_of_relative p rfl, String.append_empty, Path.lead]
    split
    · exact Nat.le_succ _
    · rw [String.utf8ByteSize_append]
      exact Nat.le_refl _
  have hcheck : checkPath (Path.join p "") = .ok () :=
    checkPath_eq_ok.2 ⟨Path.nul_notMem_join hnul (by simp), Path.join_ne_empty_of_left hne "", by omega⟩
  refine resolveDirectory_eq_ok.2 ⟨?_, (follow_dot.1 hstem).2⟩
  rw [resolve, hcheck, Path.components_join_empty hne]
  dsimp only
  rw [origin_root] at hstem ⊢
  exact hstem

end Tree

namespace Recipe

variable {sh : Shell} {s : Settings} {t : Tree} {d : Location}

/-- Cleaning takes the working directory for an empty build directory, and leaves
nothing in it that is found. -/
theorem clean_of_empty (hs : s.buildDir = "") (hd : t.resolveDirectory [] sh.directory = .ok d)
    (hlen : sh.directory.utf8ByteSize < pathLimit) :
    t.resolveDirectory [] (sh.path s.buildDir) = .ok d ∧
      ((clean sh s t).result = .ok () → ∀ name ∈ t.names d, (clean sh s t).tree.lookup (name :: d) = none ∨
        (clean sh s t).tree.resolve [] (Path.join (sh.path s.buildDir) name) = .error .notFound) := by
  have hbuild : t.resolveDirectory [] (sh.path s.buildDir) = .ok d := by
    rw [hs]
    exact Tree.resolveDirectory_join_empty hd hlen
  refine ⟨hbuild, fun hok name hname => ?_⟩
  obtain ⟨done, rest, hsplit, hswept, hend⟩ := clean_swept hbuild
  cases hend with
  | all =>
    rw [List.append_nil] at hsplit
    exact hswept.settled name (hsplit ▸ hname)
  | stuck rest hfail =>
    rw [hok] at hfail
    cases hfail

end Recipe

/-! ## The settings of a run -/

namespace Settings

variable {sh : Shell} {t : Tree} {words : List String} {cl : CommandLine} {s : Settings}

/-- The directories that follow from the build directory, by their names in it. -/
def derivedDirectories (s : Settings) : List (String × String) :=
  [("doctrees", s.doctreeDir), ("html", s.htmlDir), ("spelling", s.spellingDir), ("linkcheck", s.linkcheckDir)]

theorem eq_join_of_mem_derivedDirectories {name place : String} (h : (name, place) ∈ s.derivedDirectories) :
    place = Path.join s.buildDir name ∧ Path.isName name = true := by
  simp only [derivedDirectories, List.mem_cons, Prod.mk.injEq, List.not_mem_nil, or_false] at h
  rcases h with ⟨rfl, rfl⟩ | ⟨rfl, rfl⟩ | ⟨rfl, rfl⟩ | ⟨rfl, rfl⟩
  all_goals exact ⟨rfl, by decide⟩

/-- The settings of a run have an empty build or source directory exactly if the settings file says so and
neither a variable nor a flag says anything else. With an empty build directory, and with no other,
scripts are told of directories that are not those of the run, and cleaning takes the working directory
for the build directory. -/
theorem resolve_empty_iff (hread : CommandLine.read words = .ok cl)
    (h : (resolve sh t cl.config cl.flags).result = .ok s) :
    ∃ file, FileGives sh t cl.config file ∧
      (s.buildDir = "" ↔
        cl.flags.buildDir = none ∧ (sh.vars.get? "BUILDDIR").getD "" = "" ∧ file.buildDir = some "") ∧
      (s.sourceDir = "" ↔
        cl.flags.sourceDir = none ∧ (sh.vars.get? "SOURCEDIR").getD "" = "" ∧ file.sourceDir = some "") ∧
      (∀ b, (s.linkcheckCommand sh).vars.get? "BUILDDIR" = some b →
        ∀ name place, (name, place) ∈ s.derivedDirectories →
        (Path.SamePlace (b ++ "/" ++ name) place ↔ s.buildDir ≠ "")) ∧
      (s.buildDir = "" → ∀ d, t.resolveDirectory [] sh.directory = .ok d →
        sh.directory.utf8ByteSize < pathLimit → t.resolveDirectory [] (sh.path s.buildDir) = .ok d ∧
          ((Recipe.clean sh s t).result = .ok () →
            ∀ name ∈ t.names d, (Recipe.clean sh s t).tree.lookup (name :: d) = none ∨
              (Recipe.clean sh s t).tree.resolve [] (Path.join (sh.path s.buildDir) name) =
                .error .notFound)) := by
  obtain ⟨file, l, hfile, -, -⟩ := resolve_eq_ok.1 h
  obtain ⟨hbuildFlag, hsourceFlag⟩ := CommandLine.flags_ne_empty hread
  have hbuild : s.buildDir = Sources.value default.buildDir
      ⟨cl.flags.buildDir, (sh.vars.get? "BUILDDIR").filter (· ≠ ""), file.buildDir⟩ :=
    resolve_get hfile h .buildDir
  have hsource : s.sourceDir = Sources.value default.sourceDir
      ⟨cl.flags.sourceDir, (sh.vars.get? "SOURCEDIR").filter (· ≠ ""), file.sourceDir⟩ :=
    resolve_get hfile h .sourceDir
  refine ⟨file, fileGives_of_fileLayer hfile, ?_, ?_, ?_, fun hs d hd hlen => Recipe.clean_of_empty hs hd hlen⟩
  · rw [hbuild]
    exact Sources.value_eq_empty_iff (by decide) hbuildFlag
  · rw [hsource]
    exact Sources.value_eq_empty_iff (by decide) hsourceFlag
  · intro b hb name place hplace
    obtain ⟨rfl, hname⟩ := eq_join_of_mem_derivedDirectories hplace
    cases hb
    exact Path.samePlace_slash_iff s.buildDir hname

/-! ### A sample -/

/-- The settings that the settings file of a workspace, with an empty build directory, leaves. -/
def emptiedSettings : Settings := { default with sourceDir := "docs", buildDir := "", port := 9100 }

theorem resolve_emptied : (resolve layeredShell layeredTree none {}).result = .ok emptiedSettings := by
  have hvars : Layer.ofVariables? layeredShell.vars = .ok { options := some "", port := some 9100 } := by cbv
  exact resolve_eq_ok.2 ⟨_, _, fileLayer_layeredTree, hvars, rfl⟩

theorem read_clean : CommandLine.read ["clean"] = .ok { targets := [.clean] } := by rfl

/-- In the sample cleaning succeeds and removes the settings file, since that stands in
the working directory. -/
theorem resolve_empty_sample :
    emptiedSettings.buildDir = "" ∧
      layeredTree.resolveDirectory [] (layeredShell.path emptiedSettings.buildDir) = .ok ["ws"] ∧
      (Program.run layeredShell layeredTree ["clean"]).verdict = .succeeded ∧
      (Program.run layeredShell layeredTree ["clean"]).tree.lookup ["doctasks.toml", "ws"] = none := by
  obtain ⟨file, -, -, -, -, hclean⟩ := resolve_empty_iff read_clean resolve_emptied
  have hrun : Program.run layeredShell layeredTree ["clean"] =
      { Program.perform layeredShell emptiedSettings [.clean] layeredTree with
        events := (resolve layeredShell layeredTree none {}).events ++
          (Program.perform layeredShell emptiedSettings [.clean] layeredTree).events } := by
    rw [Program.run, Program.launch, read_clean]
    dsimp only [Program.serveCommandLine, Program.workThere, Program.enter, Program.work]
    rw [resolve_emptied]
    rfl
  refine ⟨rfl, (hclean rfl ["ws"] (by rfl) (by decide)).1, ?_, ?_⟩
  · rw [hrun]
    rfl
  · rw [hrun]
    rfl

/-- So it is not true that no run has an empty build directory. -/
theorem resolve_empty_build_directory :
    ¬ ∀ (sh : Shell) (t : Tree) (words : List String) (cl : CommandLine) (s : Settings),
      CommandLine.read words = .ok cl → (resolve sh t cl.config cl.flags).result = .ok s →
        s.buildDir ≠ "" ∧ s.sourceDir ≠ "" := by
  intro h
  exact (h layeredShell layeredTree ["clean"] _ emptiedSettings read_clean resolve_emptied).1 rfl

end Settings

end DocRunner
