import DocRunner.Proofs.Settings.Layout

/-!
# Where a document does not fit

* `FirstFault Fits Faulty xs m` : the first of `xs` that does not fit is at fault in the way `m`;
* `Setting.mismatch x v` : what is wrong with the value `v`, which is none for the setting `x`;
* `Section.EntryFault`, `Section.Misfits`, `Document.EntryFault`, `Document.Misfits` : what is wrong with
  an entry of a section, with a section, with an entry of a document and with a document: the fault that
  comes first, depth first;
* `Layer.ofDocument?_eq_error_iff` : a document is refused with what is wrong with it.
-/

namespace DocRunner

open Toml (Value)

/-- All things up to some one fit, and that one is at fault. -/
def FirstFault {α β : Type} (Fits : α → Prop) (Faulty : α → β → Prop) (xs : List α) (m : β) : Prop :=
  ∃ before x after, xs = before ++ x :: after ∧ (∀ y ∈ before, Fits y) ∧ Faulty x m

section

variable {α β : Type} {Fits : α → Prop} {Faulty : α → β → Prop} {x : α} {xs : List α} {m : β}

theorem not_firstFault_nil : ¬ FirstFault Fits Faulty [] m := by
  rintro ⟨before, x, after, hxs, -⟩
  exact List.append_ne_nil_of_right_ne_nil before (List.cons_ne_nil x after) hxs.symm

theorem firstFault_cons_iff : FirstFault Fits Faulty (x :: xs) m ↔
    Faulty x m ∨ Fits x ∧ FirstFault Fits Faulty xs m := by
  constructor
  · rintro ⟨before, y, after, hxs, hbefore, hy⟩
    cases before with
    | nil =>
      cases hxs
      exact Or.inl hy
    | cons z before =>
      cases hxs
      obtain ⟨hz, hbefore⟩ := List.forall_mem_cons.1 hbefore
      exact Or.inr ⟨hz, before, y, after, rfl, hbefore, hy⟩
  · rintro (hx | ⟨hx, before, y, after, rfl, hbefore, hy⟩)
    · exact ⟨[], x, xs, rfl, fun y hy => absurd hy List.not_mem_nil, hx⟩
    · exact ⟨x :: before, y, after, rfl, List.forall_mem_cons.2 ⟨hx, hbefore⟩, hy⟩

end

/-! ## Faults -/

/-- What a message expects in the place of a setting. -/
def Setting.typeName : Setting → String
  | .sourceDir => "path string"
  | .buildDir => "path string"
  | .linkcheckScript => "path string"
  | .port => "u16"
  | _ => "a string"

/-- What is wrong with a value that is none for a setting: an integer that is no port is out of range, anything
else has the wrong type. -/
def Setting.mismatch : Setting → Value → Mismatch
  | .port, .integer n => .outOfRange n "u16"
  | x, v => .wrongType v.shape x.typeName

/-- What is wrong with an entry of a section that is a table. -/
inductive Section.EntryFault (sec : Section) : String × Value → Mismatch → Prop
  | unknown {key : String} {v : Value} (h : ∀ x ∈ sec.settings, x.key ≠ key) :
      EntryFault sec (key, v) (.unknownField key (sec.settings.map Setting.key))
  | value {x : Setting} {v : Value} (hx : x ∈ sec.settings) (hv : ¬ x.Accepts v) :
      EntryFault sec (x.key, v) (x.mismatch v)

/-- What is wrong with a section. A date or time counts as a table of one entry, which no section has. -/
inductive Section.Misfits (sec : Section) : Value → Mismatch → Prop
  | table {entries : List (String × Value)} {m : Mismatch}
      (h : FirstFault (fun e => ∃ x ∈ sec.settings, x.key = e.1 ∧ x.Accepts e.2) sec.EntryFault entries m) :
      Misfits sec (.table entries) m
  | array {elements : List Value} {m : Mismatch}
      (h : FirstFault (fun p => p.1.Accepts p.2) (fun p m => ¬ p.1.Accepts p.2 ∧ m = p.1.mismatch p.2)
        (sec.settings.zip elements) m) : Misfits sec (.array elements) m
  | datetime (literal : String) :
      Misfits sec (.datetime literal) (.unknownField Layer.datetimeKey (sec.settings.map Setting.key))
  | string (text : String) : Misfits sec (.string text) (.wrongType (.text text) sec.typeName)
  | integer (n : Int) : Misfits sec (.integer n) (.wrongType (.integer n) sec.typeName)
  | float (literal : String) : Misfits sec (.float literal) (.wrongType .float sec.typeName)
  | boolean (b : Bool) : Misfits sec (.boolean b) (.wrongType (.boolean b) sec.typeName)

/-- What is wrong with a top level entry of a document. -/
inductive Document.EntryFault : String × Value → Mismatch → Prop
  | unknown {key : String} {v : Value} (h : ∀ sec ∈ Section.all, sec.key ≠ key) :
      EntryFault (key, v) (.unknownField key (Section.all.map Section.key))
  | misfit {sec : Section} {v : Value} {m : Mismatch} (hsec : sec ∈ Section.all) (hv : sec.Misfits v m) :
      EntryFault (sec.key, v) m

/-- What is wrong with a document. -/
def Document.Misfits (entries : List (String × Value)) (m : Mismatch) : Prop :=
  FirstFault (fun e => ∃ sec ∈ Section.all, sec.key = e.1 ∧ sec.Fits e.2) Document.EntryFault entries m

variable {x : Setting} {sec : Section} {v : Value} {entries : List (String × Value)} {key : String} {m : Mismatch}

/-! ## Faults of entries, by the key that is looked up -/

theorem find?_key_eq_none_iff {α : Type} {xs : List α} {keyOf : α → String} :
    xs.find? (keyOf · = key) = none ↔ ∀ x ∈ xs, keyOf x ≠ key := by
  simp

theorem Section.entryFault_of_none (h : sec.settings.find? (·.key = key) = none) :
    sec.EntryFault (key, v) m ↔ m = .unknownField key (sec.settings.map Setting.key) := by
  rw [find?_key_eq_none_iff] at h
  constructor
  · intro hfault
    cases hfault with
    | unknown => rfl
    | value hx => exact absurd rfl (h _ hx)
  · rintro rfl
    exact .unknown h

theorem Section.entryFault_of_some (h : sec.settings.find? (·.key = key) = some x) :
    sec.EntryFault (key, v) m ↔ ¬ x.Accepts v ∧ m = x.mismatch v := by
  obtain ⟨hx, rfl⟩ := (find?_key_eq_some_iff sec.settings_key_inj).1 h
  constructor
  · intro hfault
    generalize hkey : x.key = key at hfault
    cases hfault with
    | unknown hno => exact absurd hkey (hno x hx)
    | @value y _ hy hv =>
      rw [sec.settings_key_inj x hx y hy hkey]
      exact ⟨hv, rfl⟩
  · rintro ⟨hv, rfl⟩
    exact .value hx hv

theorem Document.entryFault_of_none (h : Section.all.find? (·.key = key) = none) :
    Document.EntryFault (key, v) m ↔ m = .unknownField key (Section.all.map Section.key) := by
  rw [find?_key_eq_none_iff] at h
  constructor
  · intro hfault
    cases hfault with
    | unknown => rfl
    | misfit hsec => exact absurd rfl (h _ hsec)
  · rintro rfl
    exact .unknown h

theorem Document.entryFault_of_some (h : Section.all.find? (·.key = key) = some sec) :
    Document.EntryFault (key, v) m ↔ sec.Misfits v m := by
  obtain ⟨hsec, rfl⟩ := (find?_key_eq_some_iff Section.all_key_inj).1 h
  constructor
  · intro hfault
    generalize hkey : sec.key = key at hfault
    cases hfault with
    | unknown hno => exact absurd hkey (hno sec hsec)
    | @misfit sec' _ _ hsec' hv =>
      rw [Section.all_key_inj sec hsec sec' hsec' hkey]
      exact hv
  · exact .misfit hsec

namespace Layer

/-! ## Values -/

theorem textOf?_eq_error_iff {expected : String} :
    textOf? expected v = .error m ↔ (¬ ∃ text, v.text? = some text) ∧ m = .wrongType v.shape expected := by
  cases v <;> simp [textOf?, Value.text?, eq_comm]

theorem portOf?_eq_error_iff :
    portOf? v = .error m ↔ (¬ ∃ port, v.port? = some port) ∧ m = Setting.port.mismatch v := by
  cases v with
  | integer n =>
    by_cases hport : ∃ port, Value.port? (.integer n) = some port
    · obtain ⟨port, hp⟩ := hport
      simp [portOf?_of_port? hp, hp]
    · -- such an integer is no port, whichever bound it misses
      have hfail : portOf? (.integer n) = .error (.outOfRange n "u16") := by
        cases hp : portOf? (.integer n) with
        | ok port => exact absurd ⟨port, portOf?_eq_ok hp⟩ hport
        | error why =>
          rw [portOf?] at hp
          split at hp
          · cases hp
          · exact hp.symm
      rw [hfail, and_iff_right hport]
      simp [Setting.mismatch, eq_comm]
  | _ => simp [portOf?, Value.port?, Setting.mismatch, Setting.typeName, eq_comm]

/-- A value is refused if it is none for the setting, with what is wrong with it. -/
theorem give_eq_error_iff (l : Layer) : l.give x v = .error m ↔ ¬ x.Accepts v ∧ m = x.mismatch v := by
  cases x with
  | port => exact map_eq_error_iff.trans portOf?_eq_error_iff
  | _ => exact map_eq_error_iff.trans textOf?_eq_error_iff

/-! ## Sections and documents -/

theorem giveEntries_eq_error_iff (l : Layer) :
    giveEntries sec l entries = .error m ↔ sec.Misfits (.table entries) m := by
  have htable : sec.Misfits (.table entries) m ↔
      FirstFault (fun e => ∃ x ∈ sec.settings, x.key = e.1 ∧ x.Accepts e.2) sec.EntryFault entries m :=
    ⟨fun | .table h => h, .table⟩
  rw [htable]
  clear htable
  induction entries generalizing l with
  | nil => exact iff_of_false nofun not_firstFault_nil
  | cons e entries ih =>
    obtain ⟨key, v⟩ := e
    rw [giveEntries, firstFault_cons_iff, exists_key_iff sec.settings_key_inj]
    cases hfind : sec.settings.find? (·.key = key) with
    | none => simp [Section.entryFault_of_none hfind, eq_comm]
    | some x =>
      rw [Section.entryFault_of_some hfind]
      simp only [Option.some.injEq, exists_eq_left']
      rw [bind_eq_error_iff ih, give_eq_error_iff, give_succeeds_iff]

theorem giveElements_eq_error_iff (l : Layer) {settings : List Setting} {values : List Value} :
    giveElements l settings values = .error m ↔
      FirstFault (fun p => p.1.Accepts p.2) (fun p m => ¬ p.1.Accepts p.2 ∧ m = p.1.mismatch p.2)
        (settings.zip values) m := by
  induction settings generalizing l values with
  | nil => exact iff_of_false nofun not_firstFault_nil
  | cons x settings ih =>
    cases values with
    | nil => exact iff_of_false nofun not_firstFault_nil
    | cons v values =>
      rw [giveElements, List.zip_cons_cons, firstFault_cons_iff, bind_eq_error_iff fun l => ih l,
        give_eq_error_iff, give_succeeds_iff]

theorem giveSection_eq_error_iff (l : Layer) : l.giveSection sec v = .error m ↔ sec.Misfits v m := by
  cases v with
  | table entries => exact giveEntries_eq_error_iff l
  | array elements =>
    rw [giveSection, giveElements_eq_error_iff]
    exact ⟨.array, fun | .array h => h⟩
  | _ =>
    constructor
    · rintro ⟨⟩
      constructor
    · rintro ⟨⟩
      rfl

theorem giveDocument_eq_error_iff (l : Layer) : giveDocument l entries = .error m ↔
    Document.Misfits entries m := by
  induction entries generalizing l with
  | nil => exact iff_of_false nofun not_firstFault_nil
  | cons e entries ih =>
    obtain ⟨key, v⟩ := e
    rw [giveDocument, Document.Misfits, firstFault_cons_iff, exists_key_iff Section.all_key_inj]
    cases hfind : Section.all.find? (·.key = key) with
    | none => simp [Document.entryFault_of_none hfind, eq_comm]
    | some sec =>
      rw [Document.entryFault_of_some hfind]
      simp only [Option.some.injEq, exists_eq_left']
      rw [bind_eq_error_iff ih, giveSection_eq_error_iff, giveSection_succeeds_iff, Document.Misfits]

/-- A document is refused with what is wrong with it. -/
theorem ofDocument?_eq_error_iff : ofDocument? entries = .error m ↔ Document.Misfits entries m :=
  giveDocument_eq_error_iff {}

end Layer

end DocRunner
