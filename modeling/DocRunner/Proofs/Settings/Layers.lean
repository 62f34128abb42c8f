import DocRunner.Proofs.Settings.Document
import Mathlib

/-!
# The layers of the settings

* `Sources.value default o` : of what flag, variable and file say about a setting, the highest counts;
* `Settings.sources flags vars file x` : what they say about the setting `x`. It is the table of which variable
  belongs to which setting, and of what cannot be set in which layer;
* `Settings.resolve_layers` : each setting of a run is the value of its sources, and nothing
  else has an influence on it.
-/

namespace DocRunner

/-- What the layers above the defaults say about a setting. -/
structure Sources (α : Type) where
  flag : Option α
  var : Option α
  file : Option α

/-- The highest layer that says something counts. -/
def Sources.value {α : Type} (default : α) : Sources α → α
  | ⟨some a, _, _⟩ => a
  | ⟨none, some a, _⟩ => a
  | ⟨none, none, some a⟩ => a
  | ⟨none, none, none⟩ => default

namespace Settings

/-- The value of a setting. -/
def get (s : Settings) : (x : Setting) → x.Content
  | .builder => s.builder
  | .options => s.options
  | .strictOptions => s.strictOptions
  | .sourceDir => s.sourceDir
  | .buildDir => s.buildDir
  | .liveServer => s.liveServer
  | .port => s.port
  | .linkcheckScript => s.linkcheckScript

/-- What flags, variables and file say about each setting. A variable that is empty says nothing,
but empty options count. -/
def sources (flags : Flags) (vars : Variables) (file : Layer) : (x : Setting) → Sources x.Content
  | .builder => ⟨flags.builder, (vars.get? "SPHINXBUILD").filter (· ≠ ""), file.builder⟩
  | .options => ⟨flags.options, vars.get? "SPHINXOPTS", file.options⟩
  | .strictOptions => ⟨none, none, file.strictOptions⟩
  | .sourceDir => ⟨flags.sourceDir, (vars.get? "SOURCEDIR").filter (· ≠ ""), file.sourceDir⟩
  | .buildDir => ⟨flags.buildDir, (vars.get? "BUILDDIR").filter (· ≠ ""), file.buildDir⟩
  | .liveServer => ⟨none, (vars.get? "SPHINXAUTOBUILD").filter (· ≠ ""), file.liveServer⟩
  | .port =>
    ⟨flags.port,
      ((vars.get? "PORT").filter (· ≠ "")).bind fun value =>
        Text.readPort? (Text.trimChars value.toList), file.port⟩
  | .linkcheckScript => ⟨none, none, file.linkcheckScript⟩

/-- The variables that say something about settings. -/
def layerVariables : List String :=
  ["SPHINXBUILD", "SPHINXOPTS", "SOURCEDIR", "BUILDDIR", "SPHINXAUTOBUILD", "PORT"]

variable {sh sh' : Shell} {t : Tree} {config : Option String} {flags : Flags} {vars vars' : Variables}
  {s : Settings} {file l : Layer}

/-! ## One layer on another -/

@[simp] theorem get_overlay (s : Settings) (l : Layer) (x : Setting) :
    (s.overlay l).get x = (l.get x).getD (s.get x) := by
  cases x <;> rfl

theorem get_stack (file l : Layer) (flags : Flags) (x : Setting) :
    (stack file l flags).get x = Sources.value (default.get x) ⟨flags.layer.get x, l.get x, file.get x⟩ := by
  rw [stack, get_overlay, get_overlay, get_overlay]
  cases flags.layer.get x with
  | some a => rfl
  | none =>
    cases l.get x with
    | some a => rfl
    | none =>
      cases file.get x with
      | some a => rfl
      | none => rfl

/-! ## The layer of the variables -/

theorem portVariable?_eq_ok {port : Option UInt16} (h : Layer.portVariable? vars = .ok port) :
    port = ((vars.get? "PORT").filter (· ≠ "")).bind (fun value => Text.readPort? (Text.trimChars value.toList)) ∧
      ∀ value, vars.get? "PORT" = some value → value ≠ "" →
        ∃ p, Text.readPort? (Text.trimChars value.toList) = some p := by
  rw [Layer.portVariable?, Layer.nonempty?] at h
  split at h
  · rename_i hempty
    cases h
    rw [hempty]
    refine ⟨rfl, fun value hvalue hne => ?_⟩
    rw [hvalue, Option.filter_some, if_pos (decide_eq_true hne)] at hempty
    cases hempty
  · rename_i value hvalue
    split at h
    · rename_i p hp
      cases h
      rw [hvalue]
      refine ⟨hp.symm, fun other hother hne => ?_⟩
      rw [hother, Option.filter_some, if_pos (decide_eq_true hne)] at hvalue
      cases hvalue
      exact ⟨p, hp⟩
    · cases h

theorem port_of_ofVariables? (h : Layer.ofVariables? vars = .ok l) :
    ∀ value, vars.get? "PORT" = some value → value ≠ "" →
      ∃ p, Text.readPort? (Text.trimChars value.toList) = some p := by
  rw [Layer.ofVariables?] at h
  cases hport : Layer.portVariable? vars with
  | error why =>
    rw [hport] at h
    cases h
  | ok port => exact (portVariable?_eq_ok hport).2

theorem get_ofVariables? (h : Layer.ofVariables? vars = .ok l) (flags : Flags) (file : Layer) (x : Setting) :
    l.get x = (sources flags vars file x).var := by
  rw [Layer.ofVariables?] at h
  cases hport : Layer.portVariable? vars with
  | error why =>
    rw [hport] at h
    cases h
  | ok port =>
    rw [hport] at h
    cases h
    cases x with
    | port => exact (portVariable?_eq_ok hport).1
    | _ => rfl

/-- Only the variables of the settings have an influence on their layer. -/
theorem ofVariables?_congr (h : ∀ name ∈ layerVariables, vars'.get? name = vars.get? name) :
    Layer.ofVariables? vars' = Layer.ofVariables? vars := by
  simp only [layerVariables, List.forall_mem_cons, List.not_mem_nil, false_implies, implies_true, and_true] at h
  obtain ⟨hbuilder, hoptions, hsource, hbuild, hserver, hport⟩ := h
  simp only [Layer.ofVariables?, Layer.portVariable?, Layer.nonempty?, hbuilder, hoptions, hsource,
    hbuild, hserver, hport]

/-! ## All layers -/

theorem resolve_eq_ok :
    (resolve sh t config flags).result = .ok s ↔
      ∃ file l, fileLayer sh t config = .ok file ∧ Layer.ofVariables? sh.vars = .ok l ∧
        stack file l flags = s := by
  rw [resolve]
  cases fileLayer sh t config with
  | error why => simp
  | ok file =>
    cases Layer.ofVariables? sh.vars with
    | error why => simp
    | ok l => simp

theorem fileLayer_congr (h : sh'.directory = sh.directory) (t : Tree) (config : Option String) :
    fileLayer sh' t config = fileLayer sh t config := by
  rw [fileLayer, fileLayer, Shell.path, Shell.path, h]

/-- The working directory and the variables of the settings are all that a shell contributes. -/
theorem resolve_congr (hdir : sh'.directory = sh.directory)
    (hvars : ∀ name ∈ layerVariables, sh'.vars.get? name = sh.vars.get? name) (t : Tree) (config : Option String)
    (flags : Flags) : (resolve sh' t config flags).result = (resolve sh t config flags).result := by
  rw [resolve, resolve, fileLayer_congr hdir, ofVariables?_congr hvars]

theorem resolve_get (hfile : fileLayer sh t config = .ok file) (h : (resolve sh t config flags).result = .ok s)
    (x : Setting) : s.get x = (sources flags sh.vars file x).value (default.get x) := by
  obtain ⟨file', l, hfile', hl, rfl⟩ := resolve_eq_ok.1 h
  rw [hfile] at hfile'
  cases hfile'
  rw [get_stack, get_ofVariables? hl flags file x]
  cases x <;> rfl

/-- Each setting is the value of its highest source, whatever the others are, and variables that belong to no
setting have no influence. -/
theorem resolve_layers (h : (resolve sh t config flags).result = .ok s) :
    ∃ file, FileGives sh t config file ∧
      (∀ x, s.get x = (sources flags sh.vars file x).value (default.get x)) ∧
      (∀ value, sh.vars.get? "PORT" = some value → value ≠ "" →
        ∃ p, Text.readPort? (Text.trimChars value.toList) = some p) ∧
      (∀ sh' t' config' flags' s' file', (resolve sh' t' config' flags').result = .ok s' →
        FileGives sh' t' config' file' →
        ∀ x, sources flags' sh'.vars file' x = sources flags sh.vars file x → s'.get x = s.get x) ∧
      ∀ sh' : Shell, sh'.directory = sh.directory →
        (∀ name ∈ layerVariables, sh'.vars.get? name = sh.vars.get? name) →
        (resolve sh' t config flags).result = .ok s := by
  obtain ⟨file, l, hfile, hl, -⟩ := resolve_eq_ok.1 h
  refine ⟨file, fileGives_of_fileLayer hfile, resolve_get hfile h, port_of_ofVariables? hl, ?_, ?_⟩
  · intro sh' t' config' flags' s' file' h' hgives' x hsame
    obtain ⟨file'', l', hfile', -, -⟩ := resolve_eq_ok.1 h'
    cases hgives'.unique (fileGives_of_fileLayer hfile')
    rw [resolve_get hfile h, resolve_get hfile' h', hsame]
  · intro sh' hdir hvars
    rw [resolve_congr hdir hvars, h]

/-! ## A sample -/

/-- The text of a settings file. -/
def layeredText : String := "[build]\nsource-dir = \"docs\"\nbuild-dir = \"\"\n"

/-- A workspace with that file. -/
def layeredTree : Tree :=
  ⟨[(["ws"], .directory), (["doctasks.toml", "ws"], .file layeredText.toUTF8)]⟩

/-- A shell with variables, of which one is empty and does not count, and one is empty and counts. -/
def layeredShell : Shell := ⟨"/ws", [("SOURCEDIR", ""), ("SPHINXOPTS", ""), ("PORT", " 9100 ")], none⟩

/-- What comes of it with a port from the command line. -/
def layeredSettings : Settings := { default with sourceDir := "docs", buildDir := "", port := 9200 }

theorem ofFile?_layeredText :
    Layer.ofFile? layeredText = .ok { sourceDir := some "docs", buildDir := some "" } := by
  have hread : Toml.read? layeredText =
      some [("build", .table [("source-dir", .string "docs"), ("build-dir", .string "")])] := by cbv
  rw [Layer.ofFile?, hread]
  rfl

theorem fileLayer_layeredTree :
    fileLayer layeredShell layeredTree none = .ok { sourceDir := some "docs", buildDir := some "" } := by
  have hplace : layeredTree.resolve [] (layeredShell.path fileName) = .ok ["doctasks.toml", "ws"] := by rfl
  have hfile : layeredTree.lookup ["doctasks.toml", "ws"] = some (.file layeredText.toUTF8) := by rfl
  have htext : String.fromUTF8? layeredText.toUTF8 = some layeredText := dif_pos layeredText.isValidUTF8
  have hread : layeredTree.readText [] (layeredShell.path fileName) = .ok layeredText := by
    rw [Tree.readText, hplace]
    dsimp only
    rw [hfile]
    dsimp only
    rw [htext]
  rw [fileLayer, Option.getD_none, if_pos (Tree.isThere_of_ok hplace), hread, layerOf, ofFile?_layeredText]

theorem resolve_layeredShell :
    (resolve layeredShell layeredTree none { port := some 9200 }).result = .ok layeredSettings := by
  have hvars : Layer.ofVariables? layeredShell.vars = .ok { options := some "", port := some 9100 } := by cbv
  exact resolve_eq_ok.2 ⟨_, _, fileLayer_layeredTree, hvars, rfl⟩

/-- In the sample each setting is the value of its highest source. -/
theorem resolve_layers_sample :
    ∃ file, FileGives layeredShell layeredTree none file ∧
      ∀ x, layeredSettings.get x =
        (sources { port := some 9200 } layeredShell.vars file x).value (default.get x) := by
  obtain ⟨file, hgives, hget, -⟩ := resolve_layers resolve_layeredShell
  exact ⟨file, hgives, hget⟩

end Settings

end DocRunner
