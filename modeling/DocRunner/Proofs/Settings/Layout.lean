import DocRunner.Proofs.Settings.Document

/-!
# The layout of a settings file

* `Setting.Accepts x v` : the value `v` is one for the setting `x`;
* `Section.Fits sec v`, `Document.Fits entries` : what a section and a whole document may hold: known keys with
  values for them, or the values alone, in order;
* `Layer.ofDocument?_succeeds_iff` : the documents that are taken are those that fit;
* `Layer.IsSettingsText text` : `text` is TOML and fits, which is when it is taken
  (`Layer.ofFile?_succeeds_iff`).
-/

namespace DocRunner

/-- A value is one for a setting. -/
def Setting.Accepts (x : Setting) (v : Toml.Value) : Prop := ∃ a, x.content? v = some a

/-- A section is a table of its settings, or an array with values for the first of them. Further
elements do not count. -/
def Section.Fits (sec : Section) : Toml.Value → Prop
  | .table entries => ∀ e ∈ entries, ∃ x ∈ sec.settings, x.key = e.1 ∧ x.Accepts e.2
  | .array elements => ∀ p ∈ sec.settings.zip elements, p.1.Accepts p.2
  | _ => False

/-- A document holds sections only. -/
def Document.Fits (entries : List (String × Toml.Value)) : Prop :=
  ∀ e ∈ entries, ∃ sec ∈ Section.all, sec.key = e.1 ∧ sec.Fits e.2

/-- A text is a TOML document that holds settings. -/
def Layer.IsSettingsText (text : String) : Prop :=
  ∃ entries, Toml.read? text = some entries ∧ Document.Fits entries

variable {l : Layer} {x : Setting} {sec : Section} {v : Toml.Value} {entries : List (String × Toml.Value)}
  {key : String}

/-! ## Keys -/

section

variable {α : Type} {xs : List α} {keyOf : α → String}

theorem find?_key_eq_some_iff (hkeys : ∀ x ∈ xs, ∀ y ∈ xs, keyOf x = keyOf y → x = y) {x : α} :
    xs.find? (keyOf · = key) = some x ↔ x ∈ xs ∧ keyOf x = key := by
  constructor
  · intro h
    exact ⟨List.mem_of_find?_eq_some h, by simpa using List.find?_some h⟩
  · rintro ⟨hmem, rfl⟩
    cases hfind : xs.find? (keyOf · = keyOf x) with
    | none => exact absurd (decide_eq_true rfl) (List.find?_eq_none.1 hfind x hmem)
    | some y =>
      have hy : keyOf y = keyOf x := by simpa using List.find?_some hfind
      rw [hkeys y (List.mem_of_find?_eq_some hfind) x hmem hy]

/-- Of things with different keys, the one that is found is the only one to ask. -/
theorem exists_key_iff (hkeys : ∀ x ∈ xs, ∀ y ∈ xs, keyOf x = keyOf y → x = y) {P : α → Prop} :
    (∃ x ∈ xs, keyOf x = key ∧ P x) ↔ ∃ x, xs.find? (keyOf · = key) = some x ∧ P x := by
  simp only [find?_key_eq_some_iff hkeys, and_assoc]

end

theorem Section.settings_key_inj (sec : Section) :
    ∀ x ∈ sec.settings, ∀ y ∈ sec.settings, x.key = y.key → x = y := by
  cases sec <;> decide

theorem Section.settings_nodup (sec : Section) : sec.settings.Nodup := by
  cases sec <;> decide

theorem Section.all_key_inj : ∀ x ∈ Section.all, ∀ y ∈ Section.all, x.key = y.key → x = y := by decide

namespace Layer

/-! ## Values -/

theorem textOf?_of_text? {expected text : String} (h : v.text? = some text) : textOf? expected v = .ok text := by
  cases v with
  | string _ =>
    cases h
    rfl
  | _ => cases h

theorem portOf?_of_port? {port : UInt16} (h : v.port? = some port) : portOf? v = .ok port := by
  cases v with
  | integer n =>
    rw [Toml.Value.port?] at h
    split at h
    · rename_i hn
      have hport : Text.toPort? n.toNat = some port := by
        rw [Text.toPort?, if_pos (show n.toNat ≤ Text.maxPort by simp only [Text.maxPort]; omega)]
        exact h
      rw [portOf?, if_pos hn.1, hport]
    · cases h
  | _ => cases h

/-- Which values a setting takes does not depend on the others. -/
theorem give_succeeds_iff (l : Layer) : (∃ l', l.give x v = .ok l') ↔ x.Accepts v := by
  constructor
  · rintro ⟨l', h⟩
    cases x with
    | port =>
      obtain ⟨a, ha, -⟩ := map_eq_ok h
      exact ⟨a, portOf?_eq_ok ha⟩
    | _ =>
      obtain ⟨a, ha, -⟩ := map_eq_ok h
      exact ⟨a, textOf?_eq_ok ha⟩
  · rintro ⟨a, h⟩
    cases x with
    | port => exact exists_map_eq_ok_iff.2 ⟨a, portOf?_of_port? h⟩
    | _ => exact exists_map_eq_ok_iff.2 ⟨a, textOf?_of_text? h⟩

/-! ## Sections and documents -/

theorem giveEntries_succeeds_iff (l : Layer) :
    (∃ l', giveEntries sec l entries = .ok l') ↔ sec.Fits (.table entries) := by
  induction entries generalizing l with
  | nil => exact ⟨fun _ e he => absurd he List.not_mem_nil, fun _ => ⟨l, rfl⟩⟩
  | cons e entries ih =>
    obtain ⟨key, v⟩ := e
    have hcons : sec.Fits (.table ((key, v) :: entries)) ↔
        (∃ x ∈ sec.settings, x.key = key ∧ x.Accepts v) ∧ sec.Fits (.table entries) := List.forall_mem_cons
    rw [giveEntries, hcons, exists_key_iff sec.settings_key_inj]
    cases sec.settings.find? (·.key = key) with
    | none => simp
    | some x =>
      simp only [Option.some.injEq, exists_eq_left']
      rw [exists_bind_eq_ok_iff ih, give_succeeds_iff]

theorem giveElements_succeeds_iff (l : Layer) {settings : List Setting} {values : List Toml.Value} :
    (∃ l', giveElements l settings values = .ok l') ↔ ∀ p ∈ settings.zip values, p.1.Accepts p.2 := by
  induction settings generalizing l values with
  | nil => exact ⟨fun _ p hp => absurd hp List.not_mem_nil, fun _ => ⟨l, rfl⟩⟩
  | cons x settings ih =>
    cases values with
    | nil => exact ⟨fun _ p hp => absurd hp List.not_mem_nil, fun _ => ⟨l, rfl⟩⟩
    | cons v values =>
      rw [giveElements, exists_bind_eq_ok_iff fun l => ih l, give_succeeds_iff, List.zip_cons_cons,
        List.forall_mem_cons]

theorem giveSection_succeeds_iff (l : Layer) : (∃ l', l.giveSection sec v = .ok l') ↔ sec.Fits v := by
  cases v with
  | table entries => exact giveEntries_succeeds_iff l
  | array elements => exact giveElements_succeeds_iff l
  | _ =>
    refine iff_of_false ?_ id
    rintro ⟨_, h⟩
    cases h

theorem giveDocument_succeeds_iff (l : Layer) :
    (∃ l', giveDocument l entries = .ok l') ↔ Document.Fits entries := by
  induction entries generalizing l with
  | nil => exact ⟨fun _ e he => absurd he List.not_mem_nil, fun _ => ⟨l, rfl⟩⟩
  | cons e entries ih =>
    obtain ⟨key, v⟩ := e
    have hcons : Document.Fits ((key, v) :: entries) ↔
        (∃ sec ∈ Section.all, sec.key = key ∧ sec.Fits v) ∧ Document.Fits entries := List.forall_mem_cons
    rw [giveDocument, hcons, exists_key_iff Section.all_key_inj]
    cases Section.all.find? (·.key = key) with
    | none => simp
    | some sec =>
      simp only [Option.some.injEq, exists_eq_left']
      rw [exists_bind_eq_ok_iff ih, giveSection_succeeds_iff]

/-- The documents that are taken are those that fit. -/
theorem ofDocument?_succeeds_iff : (∃ l, ofDocument? entries = .ok l) ↔ Document.Fits entries :=
  giveDocument_succeeds_iff {}

/-- The texts that are taken are those of documents that fit. -/
theorem ofFile?_succeeds_iff {text : String} : (∃ l, ofFile? text = .ok l) ↔ IsSettingsText text := by
  rw [ofFile?, IsSettingsText]
  cases Toml.read? text with
  | none => simp
  | some entries =>
    simp only [Option.some.injEq, exists_eq_left']
    rw [← ofDocument?_succeeds_iff]
    cases ofDocument? entries with
    | ok l => simp
    | error m => simp

end Layer

end DocRunner
