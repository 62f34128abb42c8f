import DocRunner.Proofs.Settings.Obstacles
import DocRunner.Proofs.Toml.Written

/-!
# Settings written to a file and settled again

* `Setting.value x a` : the value that stands for `a` in a document, from which `a` is taken
  (`Setting.content?_value`);
* `Layer.Arranged l blocks` : `blocks` puts the settings that `l` gives in some order, below
  their sections in some order;
* `Layer.IsWritten l blocks text` : `text` is a document with a table for each section and an
  assignment for each setting;
* `Layer.ofFile?_of_isWritten` : such a text gives the layer, and nothing else;
* `Settings.resolve_written` : a run that finds the text, no variables and no flags has the settings of the
  layer, and the defaults where it gives none.
-/

namespace DocRunner

/-- The value that stands for the content of a setting. -/
def Setting.value : (x : Setting) → x.Content → Toml.Value
  | .builder, text => .string text
  | .options, text => .string text
  | .strictOptions, text => .string text
  | .sourceDir, text => .string text
  | .buildDir, text => .string text
  | .liveServer, text => .string text
  | .port, n => .integer n.toNat
  | .linkcheckScript, text => .string text

namespace Layer

/-- The settings that a layer gives, each once below its section. -/
structure Arranged (l : Layer) (blocks : List (Section × List Setting)) : Prop where
  sections : (blocks.map Prod.fst).Nodup
  once : ∀ b ∈ blocks, b.2.Nodup
  given : ∀ b ∈ blocks, ∀ x ∈ b.2, x ∈ b.1.settings ∧ ∃ a, l.get x = some a
  complete : ∀ x a, l.get x = some a → ∃ b ∈ blocks, x ∈ b.2

/-- The table of a section with some settings. -/
def tableOf (l : Layer) (b : Section × List Setting) : Toml.NamedTable :=
  (b.1.key, b.2.filterMap fun x => (l.get x).map fun a => (x.key, x.value a))

/-- A text with the settings of a layer, arranged in blocks. -/
def IsWritten (l : Layer) (blocks : List (Section × List Setting)) (text : String) : Prop :=
  Toml.IsDocument (Toml.linesOf (blocks.map l.tableOf)) text.toList

end Layer

variable {l : Layer} {blocks : List (Section × List Setting)} {x : Setting} {text : String}

/-! ## Values -/

theorem Setting.content?_value (x : Setting) (a : x.Content) : x.content? (x.value a) = some a := by
  cases x with
  | port =>
    have hle : (a.toNat : Int) ≤ 65535 := by
      have := a.toNat_lt
      omega
    rw [content?, value, Toml.Value.port?, if_pos ⟨Int.natCast_nonneg _, hle⟩, Int.toNat_natCast,
      UInt16.ofNat_toNat]
  | _ => rfl

theorem Setting.exists_writes (x : Setting) (a : x.Content) : ∃ cs, (x.value a).Writes cs := by
  cases x with
  | port =>
    have hlt : a.toNat < Text.int64Bound := by
      have := a.toNat_lt
      simp only [Text.int64Bound]
      omega
    exact ⟨_, .integer hlt⟩
  | _ =>
    obtain ⟨cs, hcs⟩ := Toml.exists_quoted a
    exact ⟨cs, .string hcs⟩

/-! ## The document -/

theorem Section.mem_all (sec : Section) : sec ∈ all := by
  cases sec <;> decide

namespace Layer

/-- The settings of a block, each with the value that stands for what the layer gives. -/
def values (l : Layer) (b : Section × List Setting) : List (Setting × Toml.Value) :=
  b.2.filterMap fun x => (l.get x).map fun a => (x, x.value a)

theorem tableOf_eq (l : Layer) (b : Section × List Setting) :
    l.tableOf b = (b.1.key, (l.values b).map fun p => (p.1.key, p.2)) := by
  rw [tableOf, values, List.map_filterMap]
  simp only [Option.map_map]
  rfl

theorem mem_values_iff {b : Section × List Setting} {p : Setting × Toml.Value} :
    p ∈ l.values b ↔ p.1 ∈ b.2 ∧ ∃ a, l.get p.1 = some a ∧ p.2 = p.1.value a := by
  obtain ⟨x, v⟩ := p
  simp only [values, List.mem_filterMap, Option.map_eq_some_iff, Prod.mk.injEq]
  constructor
  · rintro ⟨x', hx', a, ha, rfl, rfl⟩
    exact ⟨hx', a, ha, rfl⟩
  · rintro ⟨hx, a, ha, rfl⟩
    exact ⟨x, hx, a, ha, rfl, rfl⟩

/-- The values of a block are what its table gives for its section. -/
theorem given_tableOf (h : l.Arranged blocks) {b : Section × List Setting} (hb : b ∈ blocks) :
    b.1.given (.table (l.tableOf b).2) = l.values b := by
  have hfind : ∀ p ∈ l.values b, (b.1.settings.find? (·.key = p.1.key)).map (fun x => (x, p.2)) = some p := by
    intro p hp
    obtain ⟨hx, -⟩ := mem_values_iff.1 hp
    rw [(find?_key_eq_some_iff b.1.settings_key_inj).2 ⟨(h.given b hb p.1 hx).1, rfl⟩, Option.map_some]
  rw [Section.given, tableOf_eq, List.filterMap_map]
  exact (List.filterMap_congr hfind).trans List.filterMap_some

/-- The entries of a document with a table for each block. -/
def entriesOf (l : Layer) (blocks : List (Section × List Setting)) : List (String × Toml.Value) :=
  (blocks.map l.tableOf).map fun t => (t.1, .table t.2)

theorem given_entriesOf (h : l.Arranged blocks) :
    Document.given (l.entriesOf blocks) = blocks.flatMap l.values := by
  have hgiven : ∀ b ∈ blocks, ((Section.all.find? (·.key = b.1.key)).map fun sec =>
      sec.given (.table (l.tableOf b).2)).getD [] = l.values b := by
    intro b hb
    rw [(find?_key_eq_some_iff Section.all_key_inj).2 ⟨b.1.mem_all, rfl⟩, Option.map_some, Option.getD_some,
      given_tableOf h hb]
  rw [Document.given, entriesOf, List.map_map, List.flatMap_map]
  exact List.flatMap_congr hgiven

/-- What the document says about a setting is what the layer gives. -/
theorem content?_entriesOf (h : l.Arranged blocks) (x : Setting) :
    Document.content? (l.entriesOf blocks) x = l.get x := by
  have hmem : ∀ p, p ∈ (blocks.flatMap l.values).reverse ↔
      ∃ b ∈ blocks, p.1 ∈ b.2 ∧ ∃ a, l.get p.1 = some a ∧ p.2 = p.1.value a := by
    intro p
    simp only [List.mem_reverse, List.mem_flatMap, mem_values_iff]
  rw [Document.content?, given_entriesOf h]
  cases hlookup : (blocks.flatMap l.values).reverse.lookup x with
  | none =>
    rw [Option.bind_none]
    cases hget : l.get x with
    | none => rfl
    | some a =>
      obtain ⟨b, hb, hx⟩ := h.complete x a hget
      have hnot := List.lookup_eq_none_iff.1 hlookup (x, x.value a) ((hmem _).2 ⟨b, hb, hx, a, hget, rfl⟩)
      exact absurd rfl (bne_iff_ne.1 hnot)
  | some v =>
    obtain ⟨front, back, hsplit, -⟩ := List.lookup_eq_some_iff.1 hlookup
    have hin : (x, v) ∈ (blocks.flatMap l.values).reverse := by
      rw [hsplit]
      exact List.mem_append_right _ List.mem_cons_self
    obtain ⟨b, -, -, a, hget, hv⟩ := (hmem _).1 hin
    rw [show v = x.value a from hv, Option.bind_some, Setting.content?_value]
    exact hget.symm

theorem fits_entriesOf (h : l.Arranged blocks) : Document.Fits (l.entriesOf blocks) := by
  intro e he
  rw [entriesOf, List.map_map] at he
  obtain ⟨b, hb, rfl⟩ := List.mem_map.1 he
  refine ⟨b.1, b.1.mem_all, rfl, fun e he => ?_⟩
  rw [tableOf_eq] at he
  obtain ⟨p, hp, rfl⟩ := List.mem_map.1 he
  obtain ⟨hx, a, -, hv⟩ := mem_values_iff.1 hp
  exact ⟨p.1, (h.given b hb p.1 hx).1, rfl, a, by rw [hv, Setting.content?_value]⟩

/-! ## The text -/

/-- The keys of a table are different, since the settings of its section have different ones. -/
theorem nodup_keys (h : l.Arranged blocks) {b : Section × List Setting} (hb : b ∈ blocks) :
    ((l.tableOf b).2.map Prod.fst).Nodup := by
  have hvalues : (l.values b).map Prod.fst = b.2 := by
    have hgiven : ∀ x ∈ b.2, ((l.get x).map fun a => (x, x.value a)).map Prod.fst = some x := by
      intro x hx
      obtain ⟨-, a, ha⟩ := h.given b hb x hx
      rw [ha, Option.map_some, Option.map_some]
    rw [values, List.map_filterMap]
    exact (List.filterMap_congr hgiven).trans List.filterMap_some
  have hmap : (l.tableOf b).2.map Prod.fst = b.2.map Setting.key := by
    rw [tableOf_eq, ← hvalues, List.map_map, List.map_map]
    rfl
  rw [hmap]
  exact (h.once b hb).map_on fun x hx y hy =>
    b.1.settings_key_inj x (h.given b hb x hx).1 y (h.given b hb y hy).1

theorem read?_of_isWritten (h : l.Arranged blocks) (hwritten : l.IsWritten blocks text) :
    Toml.read? text = some (l.entriesOf blocks) := by
  have hnames : ((blocks.map l.tableOf).map Prod.fst).Nodup := by
    have hmap : (blocks.map l.tableOf).map Prod.fst = (blocks.map Prod.fst).map Section.key := by
      rw [List.map_map, List.map_map]
      rfl
    rw [hmap]
    exact h.sections.map fun sec sec' => Section.all_key_inj sec sec.mem_all sec' sec'.mem_all
  have hkeys : ∀ t ∈ blocks.map l.tableOf, (t.2.map Prod.fst).Nodup := by
    intro t ht
    obtain ⟨b, hb, rfl⟩ := List.mem_map.1 ht
    exact nodup_keys h hb
  exact Toml.read?_of_isDocument hwritten hnames hkeys

/-- A text with the settings of a layer gives the layer. -/
theorem ofFile?_of_isWritten (h : l.Arranged blocks) (hwritten : l.IsWritten blocks text) :
    ofFile? text = .ok l := by
  have hread := read?_of_isWritten h hwritten
  obtain ⟨l', hl'⟩ := ofFile?_succeeds_iff.2 ⟨_, hread, fits_entriesOf h⟩
  obtain ⟨entries, hentries, hget⟩ := ofFile?_get hl'
  rw [hread] at hentries
  cases hentries
  have hsame : l' = l := ext_get fun x => (hget x).trans (content?_entriesOf h x)
  rw [hl', hsame]

end Layer

/-! ## All settings can be written -/

namespace Layer

theorem exists_arranged (l : Layer) : ∃ blocks, l.Arranged blocks := by
  refine ⟨Section.all.map fun sec => (sec, sec.settings.filter fun x => (l.get x).isSome), ?_, ?_, ?_, ?_⟩
  · rw [List.map_map]
    exact (by decide : (Section.all.map id).Nodup)
  · intro b hb
    obtain ⟨sec, -, rfl⟩ := List.mem_map.1 hb
    exact sec.settings_nodup.filter _
  · intro b hb x hx
    obtain ⟨sec, -, rfl⟩ := List.mem_map.1 hb
    obtain ⟨hin, hsome⟩ := List.mem_filter.1 hx
    exact ⟨hin, Option.isSome_iff_exists.1 hsome⟩
  · intro x a ha
    have hsection : ∃ sec ∈ Section.all, x ∈ sec.settings := by cases x <;> decide
    obtain ⟨sec, hsec, hx⟩ := hsection
    exact ⟨_, List.mem_map_of_mem hsec, List.mem_filter.2 ⟨hx, by rw [ha]; rfl⟩⟩

theorem exists_isWritten (l : Layer) (blocks : List (Section × List Setting)) :
    ∃ text, l.IsWritten blocks text := by
  have hwrites : ∀ t ∈ blocks.map l.tableOf, ∀ e ∈ t.2, ∃ cs, e.2.Writes cs := by
    intro t ht e he
    obtain ⟨b, -, rfl⟩ := List.mem_map.1 ht
    rw [tableOf_eq] at he
    obtain ⟨p, hp, rfl⟩ := List.mem_map.1 he
    obtain ⟨-, a, -, hv⟩ := mem_values_iff.1 hp
    dsimp only
    rw [hv]
    exact p.1.exists_writes a
  obtain ⟨cs, hcs⟩ := Toml.exists_isDocument hwrites
  exact ⟨String.ofList cs, by rwa [IsWritten, String.toList_ofList]⟩

end Layer

/-! ## A run -/

namespace Settings

variable {sh : Shell} {t : Tree} {place : Location}

/-- Without variables the layer of the variables gives nothing. -/
theorem ofVariables?_of_none (h : ∀ name ∈ layerVariables, sh.vars.get? name = none) :
    Layer.ofVariables? sh.vars = .ok {} := by
  have hnone : Layer.ofVariables? [] = .ok {} := by rfl
  rw [← hnone]
  exact ofVariables?_congr h

theorem fileLayer_of_isWritten (h : l.Arranged blocks) (hwritten : l.IsWritten blocks text)
    (hplace : t.resolve [] (sh.path fileName) = .ok place) (hfile : t.lookup place = some (.file text.toUTF8)) :
    fileLayer sh t none = .ok l := by
  have hplace : t.resolve [] (filePath sh none) = .ok place := hplace
  rw [fileLayer_of_resolved hplace, Tree.readText_of_toUTF8 hplace hfile, layerOf,
    Layer.ofFile?_of_isWritten h hwritten]

/-- All settings can be written, with the sections and the settings of each in any order. A run that finds them,
no variables and no flags has each setting as it was written, and as it is by default if it was not. -/
theorem resolve_written (l : Layer) :
    (∃ blocks, l.Arranged blocks) ∧
      ∀ blocks, l.Arranged blocks →
        (∃ text, l.IsWritten blocks text) ∧
          ∀ (sh : Shell) (t : Tree) (place : Location) (text : String),
            (∀ name ∈ layerVariables, sh.vars.get? name = none) → l.IsWritten blocks text →
            t.resolve [] (sh.path fileName) = .ok place → t.lookup place = some (.file text.toUTF8) →
            ∃ s, (resolve sh t none {}).result = .ok s ∧ ∀ x, s.get x = (l.get x).getD (default.get x) := by
  refine ⟨l.exists_arranged, fun blocks h => ⟨l.exists_isWritten blocks, ?_⟩⟩
  intro sh t place text hvars hwritten hplace hfile
  have hlayer := fileLayer_of_isWritten h hwritten hplace hfile
  refine ⟨_, resolve_eq_ok.2 ⟨l, {}, hlayer, ofVariables?_of_none hvars, rfl⟩, fun x => ?_⟩
  have hflags : ({} : Flags).layer = {} := by rfl
  rw [get_stack, hflags, Layer.get_empty]
  cases l.get x <;> rfl

/-! ### A sample -/

/-- A port, a directory with characters that need escapes, and no strict options. -/
def writtenLayer : Layer := { port := some 65535, buildDir := some "\"\x00𝄞", strictOptions := some "" }

/-- They are written with the sections out of order. -/
def writtenBlocks : List (Section × List Setting) :=
  [(.live, [.port]), (.build, [.buildDir, .strictOptions]), (.linkcheck, [])]

/-- A text for it, with blanks, a comment, line breaks of both kinds, and none at the end. -/
def writtenText : String :=
  "[ live ] # served\r\nport=65535\n\n[build]\nbuild-dir = \"\\\"\\u0000\\U0001D11e\"\n" ++
    "strict-options = \"\"\n[linkcheck]"

theorem arranged_writtenLayer : writtenLayer.Arranged writtenBlocks where
  sections := by decide
  once := by decide
  given := by
    intro b hb x hx
    simp only [writtenBlocks, List.mem_cons, List.not_mem_nil, or_false] at hb
    rcases hb with rfl | rfl | rfl
    · cases List.mem_singleton.1 hx
      exact ⟨by decide, _, rfl⟩
    · simp only [List.mem_cons, List.not_mem_nil, or_false] at hx
      rcases hx with rfl | rfl <;> exact ⟨by decide, _, rfl⟩
    · exact absurd hx List.not_mem_nil
  complete := by
    intro x a hx
    cases x with
    | port => exact ⟨_, List.mem_cons_self, by decide⟩
    | buildDir => exact ⟨(.build, [.buildDir, .strictOptions]), by decide, by decide⟩
    | strictOptions => exact ⟨(.build, [.buildDir, .strictOptions]), by decide, by decide⟩
    | _ => cases hx

theorem isWritten_writtenText : writtenLayer.IsWritten writtenBlocks writtenText := by
  have hspace : Toml.Blanks [' '] := by simp [Toml.Blanks, Toml.isSpace]
  have hnone : Toml.IsTail [] := .blanks Toml.blanks_nil
  have hbare : ∀ name : String, name ≠ "" → (name.toList.all Toml.isNameChar) = true →
      Toml.IsKey name name.toList :=
    fun name hne hall => .bare hne (List.all_eq_true.1 hall)
  have hlive : Toml.IsLine (.table ([], "live")) "[ live ] # served".toList := by
    have htail : Toml.IsTail " # served".toList := .comment hspace (List.all_eq_true.1 rfl)
    exact .table Toml.blanks_nil hspace (hbare "live" (by decide) rfl) hspace htail
  have hport : Toml.IsLine (.assignment ([], "port") (.integer 65535)) "port=65535".toList := by
    have hvalue : (Toml.Value.integer (65535 : Nat)).Writes "65535".toList := .integer (by decide)
    exact .assignment Toml.blanks_nil (hbare "port" (by decide) rfl) Toml.blanks_nil Toml.blanks_nil hvalue hnone
  have hbuild : Toml.IsLine (.table ([], "build")) "[build]".toList :=
    .table Toml.blanks_nil Toml.blanks_nil (hbare "build" (by decide) rfl) Toml.blanks_nil hnone
  have hbuildDir : Toml.IsLine (.assignment ([], "build-dir") (.string "\"\x00𝄞"))
      "build-dir = \"\\\"\\u0000\\U0001D11e\"".toList := by
    have hclef : '𝄞'.toNat = 0x1D11E := by rfl
    have hhigh : Json.IsHexCode ('𝄞'.toNat / 0x10000) "0001".toList := by
      rw [hclef]
      exact ⟨by decide, .cons (Or.inl rfl) (.cons (Or.inl rfl) (.cons (Or.inl rfl) (.cons (Or.inl rfl) .nil)))⟩
    have hlow : Json.IsHexCode ('𝄞'.toNat % 0x10000) "D11e".toList := by
      rw [hclef]
      exact ⟨by decide, .cons (Or.inr rfl) (.cons (Or.inl rfl) (.cons (Or.inl rfl) (.cons (Or.inl rfl) .nil)))⟩
    have hnul : Json.IsHexCode '\x00'.toNat "0000".toList :=
      ⟨by decide, .cons (Or.inl rfl) (.cons (Or.inl rfl) (.cons (Or.inl rfl) (.cons (Or.inl rfl) .nil)))⟩
    have hquote : ('\x22', '\x22') ∈ Toml.escapes := by simp [Toml.escapes]
    have hquotes : Toml.Quotes "\"\x00𝄞".toList "\\\"\\u0000\\U0001D11e".toList :=
      .short hquote (.code hnul (.longCode hhigh hlow .nil))
    exact .assignment Toml.blanks_nil (hbare "build-dir" (by decide) rfl) hspace hspace
      (.string ⟨_, hquotes, rfl⟩) hnone
  have hstrict :
      Toml.IsLine (.assignment ([], "strict-options") (.string "")) "strict-options = \"\"".toList := by
    have hempty : Toml.Quoted "" "\"\"".toList := ⟨[], .nil, rfl⟩
    exact .assignment Toml.blanks_nil (hbare "strict-options" (by decide) rfl) hspace hspace
      (.string hempty) hnone
  have hlinkcheck : Toml.IsLine (.table ([], "linkcheck")) "[linkcheck]".toList :=
    .table Toml.blanks_nil Toml.blanks_nil (hbare "linkcheck" (by decide) rfl) Toml.blanks_nil hnone
  have hlast := Toml.IsDocument.line hlinkcheck .text .nil
  have hlines := Toml.IsDocument.line hbuild (.lineFeed _)
    (.line hbuildDir (.lineFeed _) (.line hstrict (.lineFeed _) hlast))
  exact .line hlive (.carriageReturn _) (.line hport (.lineFeed _) (.blank hnone (.lineFeed _) hlines))

/-- A workspace with that text. -/
def writtenTree : Tree :=
  ⟨[(["ws"], .directory), (["doctasks.toml", "ws"], .file writtenText.toUTF8)]⟩

/-- The sample is settled as it was written. -/
theorem resolve_writtenText :
    ∃ s, (resolve ⟨"/ws", [], none⟩ writtenTree none {}).result = .ok s ∧ s.port = 65535 ∧
      s.buildDir = "\"\x00𝄞" ∧ s.strictOptions = "" ∧ s.builder = "sphinx-build" := by
  have hplace : writtenTree.resolve [] (Shell.path ⟨"/ws", [], none⟩ fileName) =
      .ok ["doctasks.toml", "ws"] := by rfl
  have hfile : writtenTree.lookup ["doctasks.toml", "ws"] = some (.file writtenText.toUTF8) := by rfl
  have hvars : ∀ name ∈ layerVariables, Variables.get? [] name = none := fun _ _ => rfl
  obtain ⟨s, hs, hget⟩ := ((resolve_written writtenLayer).2 writtenBlocks arranged_writtenLayer).2
    ⟨"/ws", [], none⟩ writtenTree _ writtenText hvars isWritten_writtenText hplace hfile
  exact ⟨s, hs, hget .port, hget .buildDir, hget .strictOptions, hget .builder⟩

end Settings

end DocRunner
