import DocRunner.Proofs.Failing
import DocRunner.Settings.Resolve

/-!
# What a settings file gives

* `Setting.Content x`, `Setting.content? x v` : what the setting `x` is, and what a value
  of a document is for it;
* `Layer.get l x` : what a layer gives for a setting;
* `Document.given entries`, `Document.content? entries x` : the settings that a document names, each with the
  value that stands there, and what it says about the setting `x`;
* `Layer.Takes l l' given` : from `l` to `l'` the settings that are given have got their last
  values, and no other has changed (`Layer.give_takes` for one value, `Layer.Takes.append` for one
  row of values after another);
* `Settings.FileGives sh t config l` : the settings file of a run gives the layer `l`, and no other
  (`Settings.FileGives.unique`), which is the one that the run takes (`Settings.fileGives_of_fileLayer`).
-/

namespace DocRunner

/-- What a setting is: the port is a number, any other setting a text. -/
abbrev Setting.Content : Setting → Type
  | .port => UInt16
  | _ => String

/-- What a value is as a text. -/
def Toml.Value.text? : Toml.Value → Option String
  | .string text => some text
  | _ => none

/-- What a value is as a port: an integer from 0 to 65535. -/
def Toml.Value.port? : Toml.Value → Option UInt16
  | .integer n => if 0 ≤ n ∧ n ≤ 65535 then some (UInt16.ofNat n.toNat) else none
  | _ => none

/-- What a value of a document is for a setting. -/
def Setting.content? : (x : Setting) → Toml.Value → Option x.Content
  | .builder => Toml.Value.text?
  | .options => Toml.Value.text?
  | .strictOptions => Toml.Value.text?
  | .sourceDir => Toml.Value.text?
  | .buildDir => Toml.Value.text?
  | .liveServer => Toml.Value.text?
  | .port => Toml.Value.port?
  | .linkcheckScript => Toml.Value.text?

/-- What a layer gives for a setting. -/
def Layer.get (l : Layer) : (x : Setting) → Option x.Content
  | .builder => l.builder
  | .options => l.options
  | .strictOptions => l.strictOptions
  | .sourceDir => l.sourceDir
  | .buildDir => l.buildDir
  | .liveServer => l.liveServer
  | .port => l.port
  | .linkcheckScript => l.linkcheckScript

/-! ## What a document names -/

/-- The settings that a section names, each with its value. -/
def Section.given (sec : Section) : Toml.Value → List (Setting × Toml.Value)
  | .table entries => entries.filterMap fun e => (sec.settings.find? (·.key = e.1)).map fun x => (x, e.2)
  | .array elements => sec.settings.zip elements
  | _ => []

/-- The settings that a document names, each with its value. -/
def Document.given (entries : List (String × Toml.Value)) : List (Setting × Toml.Value) :=
  entries.flatMap fun e => ((Section.all.find? (·.key = e.1)).map fun sec => sec.given e.2).getD []

/-- What a document says about a setting. -/
def Document.content? (entries : List (String × Toml.Value)) (x : Setting) : Option x.Content :=
  ((given entries).reverse.lookup x).bind x.content?

namespace Layer

variable {l l' l'' : Layer} {given given' : List (Setting × Toml.Value)}

theorem get_empty (x : Setting) : Layer.get {} x = none := by
  cases x <;> rfl

theorem ext_get (h : ∀ x, l.get x = l'.get x) : l = l' := by
  cases l
  cases l'
  rw [Layer.mk.injEq]
  exact ⟨h .builder, h .options, h .strictOptions, h .sourceDir, h .buildDir, h .liveServer, h .port,
    h .linkcheckScript⟩

/-! ## Taking values -/

/-- The settings that are given have got their last values, and no other has changed. -/
def Takes (l l' : Layer) (given : List (Setting × Toml.Value)) : Prop :=
  ∀ x, l'.get x = (given.reverse.lookup x).elim (l.get x) x.content?

theorem Takes.nil (l : Layer) : Takes l l [] := fun _ => rfl

theorem Takes.append (h : Takes l l' given) (h' : Takes l' l'' given') : Takes l l'' (given ++ given') := by
  intro x
  rw [h' x, h x, List.reverse_append, List.lookup_append]
  cases given'.reverse.lookup x with
  | none => rfl
  | some v => rfl

theorem textOf?_eq_ok {expected text : String} {v : Toml.Value} (h : textOf? expected v = .ok text) :
    v.text? = some text := by
  cases v with
  | string _ =>
    cases h
    rfl
  | _ => cases h

theorem portOf?_eq_ok {port : UInt16} {v : Toml.Value} (h : portOf? v = .ok port) : v.port? = some port := by
  cases v with
  | integer n =>
    rw [portOf?] at h
    rw [Toml.Value.port?]
    by_cases hn : 0 ≤ n ∧ n ≤ 65535
    · have hle : n.toNat ≤ Text.maxPort := Int.toNat_le.2 hn.2
      rw [if_pos hn.1, Text.toPort?, if_pos hle] at h
      cases h
      rw [if_pos hn]
    · -- an integer that is no port is refused, by its sign or by its size
      split at h
      · rename_i p hp
        split at hp
        · rename_i hpos
          have hle : ¬ n.toNat ≤ Text.maxPort := fun hle => hn ⟨hpos, Int.toNat_le.1 hle⟩
          rw [Text.toPort?, if_neg hle] at hp
          cases hp
        · cases hp
      · cases h
  | _ => cases h

/-- One value: the setting has got it, and no other has changed. -/
theorem give_takes {x : Setting} {v : Toml.Value} (h : l.give x v = .ok l') : Takes l l' [(x, v)] := by
  have hset : l'.get x = x.content? v ∧ ∀ y, y ≠ x → l'.get y = l.get y := by
    cases x with
    | port =>
      obtain ⟨a, ha, rfl⟩ := map_eq_ok h
      exact ⟨(portOf?_eq_ok ha).symm, fun y hy => by cases y <;> first | rfl | exact absurd rfl hy⟩
    | _ =>
      obtain ⟨a, ha, rfl⟩ := map_eq_ok h
      exact ⟨(textOf?_eq_ok ha).symm, fun y hy => by cases y <;> first | rfl | exact absurd rfl hy⟩
  intro y
  rw [List.reverse_singleton, List.lookup_cons]
  by_cases hy : y = x
  · subst hy
    rw [beq_self_eq_true]
    exact hset.1
  · rw [beq_false_of_ne hy]
    exact hset.2 y hy

theorem giveEntries_takes {sec : Section} {entries : List (String × Toml.Value)}
    (h : giveEntries sec l entries = .ok l') : Takes l l' (sec.given (.table entries)) := by
  induction entries generalizing l with
  | nil =>
    cases h
    exact Takes.nil _
  | cons e entries ih =>
    obtain ⟨key, v⟩ := e
    rw [giveEntries] at h
    cases hx : sec.settings.find? (·.key = key) with
    | none =>
      rw [hx] at h
      cases h
    | some x =>
      rw [hx] at h
      obtain ⟨mid, hgive, hrest⟩ := bind_eq_ok h
      have hcons : sec.given (.table ((key, v) :: entries)) = [(x, v)] ++ sec.given (.table entries) := by
        rw [Section.given, List.filterMap_cons]
        simp only [hx, Option.map_some]
        rfl
      rw [hcons]
      exact (give_takes hgive).append (ih hrest)

theorem giveElements_takes {settings : List Setting} {values : List Toml.Value}
    (h : giveElements l settings values = .ok l') : Takes l l' (settings.zip values) := by
  induction settings generalizing l values with
  | nil =>
    cases h
    exact Takes.nil _
  | cons x settings ih =>
    cases values with
    | nil =>
      cases h
      exact Takes.nil _
    | cons v values =>
      obtain ⟨mid, hgive, hrest⟩ := bind_eq_ok h
      exact (give_takes hgive).append (ih hrest)

theorem giveSection_takes {sec : Section} {v : Toml.Value} (h : l.giveSection sec v = .ok l') :
    Takes l l' (sec.given v) := by
  cases v with
  | table entries => exact giveEntries_takes h
  | array elements => exact giveElements_takes h
  | _ => cases h

theorem giveDocument_takes {entries : List (String × Toml.Value)} (h : giveDocument l entries = .ok l') :
    Takes l l' (Document.given entries) := by
  induction entries generalizing l with
  | nil =>
    cases h
    exact Takes.nil _
  | cons e entries ih =>
    obtain ⟨key, v⟩ := e
    rw [giveDocument] at h
    cases hsec : Section.all.find? (·.key = key) with
    | none =>
      rw [hsec] at h
      cases h
    | some sec =>
      rw [hsec] at h
      obtain ⟨mid, hgive, hrest⟩ := bind_eq_ok h
      have hcons : Document.given ((key, v) :: entries) = sec.given v ++ Document.given entries := by
        rw [Document.given, List.flatMap_cons]
        simp only [hsec, Option.map_some, Option.getD_some]
        rfl
      rw [hcons]
      exact (giveSection_takes hgive).append (ih hrest)

/-- What a text gives is what its document says. -/
theorem ofFile?_get {text : String} (h : ofFile? text = .ok l) :
    ∃ entries, Toml.read? text = some entries ∧ ∀ x, l.get x = Document.content? entries x := by
  unfold ofFile? at h
  cases hread : Toml.read? text with
  | none =>
    rw [hread] at h
    cases h
  | some entries =>
    rw [hread] at h
    dsimp only at h
    cases hdoc : ofDocument? entries with
    | error why =>
      rw [hdoc] at h
      cases h
    | ok l₀ =>
      rw [hdoc] at h
      cases h
      refine ⟨entries, rfl, fun x => ?_⟩
      rw [giveDocument_takes hdoc x, Document.content?, get_empty]
      cases (Document.given entries).reverse.lookup x with
      | none => rfl
      | some v => rfl

end Layer

/-! ## The settings file of a run -/

/-- The settings file of a run gives a layer: nothing, if it is missing and was not asked for; otherwise what
the document in it says. -/
inductive Settings.FileGives (sh : Shell) (t : Tree) (config : Option String) : Layer → Prop
  | missing : t.isThere [] (sh.path (config.getD fileName)) = false → config = none → FileGives sh t config {}
  | read {text : String} {entries : List (String × Toml.Value)} {l : Layer} :
      t.readText [] (sh.path (config.getD fileName)) = .ok text → Toml.read? text = some entries →
      (∀ x, l.get x = Document.content? entries x) → FileGives sh t config l

variable {sh : Shell} {t : Tree} {config : Option String} {l l' : Layer}

theorem Settings.fileGives_of_fileLayer (h : fileLayer sh t config = .ok l) : FileGives sh t config l := by
  rw [fileLayer] at h
  split at h
  · unfold layerOf at h
    split at h
    · cases h
    · rename_i text hread
      split at h
      · cases h
      · rename_i l₀ hfile
        cases h
        obtain ⟨entries, hentries, hget⟩ := Layer.ofFile?_get hfile
        exact .read hread hentries hget
  · rename_i hthere
    cases config with
    | none =>
      cases h
      exact .missing (Bool.eq_false_iff.2 hthere) rfl
    | some path => cases h

theorem Tree.isThere_of_readText {start : Location} {path text : String} (h : t.readText start path = .ok text) :
    t.isThere start path = true := by
  rw [readText] at h
  cases hr : t.resolve start path with
  | error why =>
    rw [hr] at h
    cases h
  | ok place => exact isThere_of_ok hr

/-- A settings file gives one layer only. -/
theorem Settings.FileGives.unique (h : FileGives sh t config l) (h' : FileGives sh t config l') : l = l' := by
  cases h with
  | missing hthere _ =>
    cases h' with
    | missing => rfl
    | read hread =>
      rw [Tree.isThere_of_readText hread] at hthere
      cases hthere
  | read hread hentries hget =>
    cases h' with
    | missing hthere _ =>
      rw [Tree.isThere_of_readText hread] at hthere
      cases hthere
    | read hread' hentries' hget' =>
      rw [hread] at hread'
      cases hread'
      rw [hentries] at hentries'
      cases hentries'
      exact Layer.ext_get fun x => (hget x).trans (hget' x).symm

end DocRunner
