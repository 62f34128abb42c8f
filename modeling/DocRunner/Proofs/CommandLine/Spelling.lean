import DocRunner.CommandLine.Reader
import Mathlib.Data.String.Basic

/-!
# How command lines are written

* `CommandLine.Item` : one thing that a command line says, a target or a value for a parameter;
* `CommandLine.Spells items words` : the words write the items, one after the other. An option has its value
  behind an equals sign or as the next word, which must not look like an option unless it is for `--opts`;
* `Word.ofString_cases` : a word is of the kind that its first characters tell;
* `CommandLine.spells_cons_iff` : what the first word says about the items, by its kind;
* `CommandLine.Spells.unique` : words write one row of items at most.
-/

namespace DocRunner

/-- A word that starts with a hyphen, and is not that alone, is never taken for a value. -/
def LooksLikeOption (word : String) : Prop := word.toList.head? = some '-' ∧ word ≠ "-"

namespace CommandLine

/-- One thing that a command line says. -/
inductive Item
  | target (t : Target)
  | option (p : Parameter) (value : String)
  deriving DecidableEq, Repr

/-- The words write the items. Behind `--` there are only targets. -/
inductive Spells : List Item → List String → Prop
  | nil : Spells [] []
  | target (t : Target) {items : List Item} {words : List String} :
      Spells items words → Spells (.target t :: items) (t.name :: words)
  | attached (p : Parameter) (v : String) {items : List Item} {words : List String} :
      Spells items words → Spells (.option p v :: items) (("--" ++ p.name ++ "=" ++ v) :: words)
  | detached (p : Parameter) {v : String} (hv : p = .opts ∨ ¬ LooksLikeOption v) {items : List Item}
      {words : List String} : Spells items words → Spells (.option p v :: items) (("--" ++ p.name) :: v :: words)
  | letterEquals (v : String) {items : List Item} {words : List String} :
      Spells items words → Spells (.option .directory v :: items) (("-C=" ++ v) :: words)
  /-- The value may follow the letter at once, if it does not itself start with an equals sign. -/
  | letterAttached {v : String} (hne : v ≠ "") (hv : v.toList.head? ≠ some '=') {items : List Item}
      {words : List String} : Spells items words → Spells (.option .directory v :: items) (("-C" ++ v) :: words)
  | letterDetached {v : String} (hv : ¬ LooksLikeOption v) {items : List Item} {words : List String} :
      Spells items words → Spells (.option .directory v :: items) ("-C" :: v :: words)
  | separator (ts : List Target) : Spells (ts.map .target) ("--" :: ts.map Target.name)

end CommandLine

/-! ## Names -/

theorem Target.ofName?_eq_some_iff {name : String} {t : Target} : Target.ofName? name = some t ↔
    name = t.name := by
  constructor
  · intro h
    have := List.find?_some h
    simpa [eq_comm] using this
  · rintro rfl
    cases t <;> rfl

theorem Parameter.ofName?_eq_some_iff {name : String} {p : Parameter} :
    Parameter.ofName? name = some p ↔ name = p.name := by
  constructor
  · intro h
    have := List.find?_some h
    simpa [eq_comm] using this
  · rintro rfl
    cases p <;> rfl

theorem Parameter.equals_notMem_name (p : Parameter) : '=' ∉ p.name.toList := by
  cases p <;> decide

theorem Parameter.name_ne_empty (p : Parameter) : p.name.toList ≠ [] := by
  cases p <;> decide

theorem Target.not_looksLikeOption (t : Target) : ¬ LooksLikeOption t.name := by
  rintro ⟨h, -⟩
  cases t <;> exact absurd h (by decide)

/-! ## Kinds of words -/

namespace Word

variable {word name v : String} {c : Char} {cs ds : List Char}

theorem splitAtEquals_append (h : '=' ∉ cs) (ds : List Char) :
    splitAtEquals (cs ++ '=' :: ds) = (cs, some ds) := by
  induction cs with
  | nil => rfl
  | cons c cs ih =>
    obtain ⟨hc, hcs⟩ := List.ne_and_not_mem_of_not_mem_cons h
    rw [List.cons_append, splitAtEquals, if_neg (fun he => hc he.symm), ih hcs]

theorem splitAtEquals_of_notMem (h : '=' ∉ cs) : splitAtEquals cs = (cs, none) := by
  induction cs with
  | nil => rfl
  | cons c cs ih =>
    obtain ⟨hc, hcs⟩ := List.ne_and_not_mem_of_not_mem_cons h
    rw [splitAtEquals, if_neg (fun he => hc he.symm), ih hcs]

/-- The two parts and the equals sign between them make up the whole. -/
theorem eq_of_splitAtEquals (cs : List Char) :
    cs = (splitAtEquals cs).1 ++ (splitAtEquals cs).2.elim [] ('=' :: ·) := by
  induction cs with
  | nil => rfl
  | cons c cs ih =>
    rw [splitAtEquals]
    split
    · rename_i hc
      rw [hc]
      rfl
    · exact congrArg (c :: ·) ih

/-- The kinds of words, by their first characters. -/
theorem ofString_cases (word : String) :
    (word = "--" ∧ ofString word = separator) ∨
      (∃ cs, cs ≠ [] ∧ word.toList = '-' :: '-' :: cs ∧
        ofString word = long (String.ofList (splitAtEquals cs).1) ((splitAtEquals cs).2.map String.ofList)) ∨
      (∃ c cs, c ≠ '-' ∧ word.toList = '-' :: c :: cs ∧ ofString word = short c (attached cs)) ∨
      (¬ LooksLikeOption word ∧ ofString word = plain) := by
  unfold ofString LooksLikeOption
  split
  · rename_i h
    exact Or.inl ⟨String.toList_inj.1 h, rfl⟩
  · rename_i cs hne h
    exact Or.inr (Or.inl ⟨cs, hne, h, rfl⟩)
  · rename_i c cs _ hne h
    exact Or.inr (Or.inr (Or.inl ⟨c, cs, hne, h, rfl⟩))
  · rename_i _ _ hno
    refine Or.inr (Or.inr (Or.inr ⟨fun ⟨hhead, hne⟩ => ?_, rfl⟩))
    obtain ⟨rest, h⟩ := List.head?_eq_some_iff.1 hhead
    cases rest with
    | nil => exact hne (String.toList_inj.1 h)
    | cons c cs => exact hno c cs h

theorem attached_of_ne (hc : c ≠ '=') (cs : List Char) : attached (c :: cs) = some (String.ofList (c :: cs)) := by
  unfold attached
  split <;> simp_all

theorem ofString_long (h : word.toList = '-' :: '-' :: cs) (hne : cs ≠ []) :
    ofString word = long (String.ofList (splitAtEquals cs).1) ((splitAtEquals cs).2.map String.ofList) := by
  obtain ⟨c, cs, rfl⟩ := List.exists_cons_of_ne_nil hne
  rw [ofString, h]
  rfl

theorem ofString_short (h : word.toList = '-' :: c :: cs) (hc : c ≠ '-') :
    ofString word = short c (attached cs) := by
  rcases ofString_cases word with ⟨rfl, -⟩ | ⟨ds, -, hds, -⟩ | ⟨d, ds, -, hds, hkind⟩ | ⟨hno, -⟩
  · rw [show "--".toList = ['-', '-'] from rfl] at h
    simp only [List.cons.injEq, true_and] at h
    exact absurd h.1.symm hc
  · rw [h] at hds
    simp only [List.cons.injEq, true_and] at hds
    exact absurd hds.1 hc
  · rw [h] at hds
    simp only [List.cons.injEq, true_and] at hds
    obtain ⟨rfl, rfl⟩ := hds
    exact hkind
  · refine absurd ⟨by rw [h]; rfl, fun heq => ?_⟩ hno
    rw [heq] at h
    cases h

theorem ofString_plain (h : ¬ LooksLikeOption word) : ofString word = plain := by
  rcases ofString_cases word with ⟨rfl, -⟩ | ⟨cs, -, hcs, -⟩ | ⟨c, cs, -, hcs, -⟩ | ⟨-, hkind⟩
  · exact absurd ⟨rfl, by decide⟩ h
  · refine absurd ⟨by rw [hcs]; rfl, fun heq => ?_⟩ h
    rw [heq] at hcs
    cases hcs
  · refine absurd ⟨by rw [hcs]; rfl, fun heq => ?_⟩ h
    rw [heq] at hcs
    cases hcs
  · exact hkind

/-! ### The words of an option -/

theorem ofString_attached (h : '=' ∉ name.toList) (v : String) :
    ofString ("--" ++ name ++ "=" ++ v) = long name (some v) := by
  have hlist : ("--" ++ name ++ "=" ++ v).toList = '-' :: '-' :: (name.toList ++ '=' :: v.toList) := by
    simp [String.toList_append]
  rw [ofString_long hlist (by simp), splitAtEquals_append h]
  simp

theorem ofString_detached (h : '=' ∉ name.toList) (hne : name.toList ≠ []) :
    ofString ("--" ++ name) = long name none := by
  have hlist : ("--" ++ name).toList = '-' :: '-' :: name.toList := by simp [String.toList_append]
  rw [ofString_long hlist hne, splitAtEquals_of_notMem h]
  simp

theorem ofString_letterEquals (v : String) : ofString ("-C=" ++ v) = short 'C' (some v) := by
  have hlist : ("-C=" ++ v).toList = '-' :: 'C' :: '=' :: v.toList := by simp [String.toList_append]
  rw [ofString_short hlist (by decide), attached]
  simp

theorem ofString_letterAttached (hne : v ≠ "") (hv : v.toList.head? ≠ some '=') :
    ofString ("-C" ++ v) = short 'C' (some v) := by
  have hlist : ("-C" ++ v).toList = '-' :: 'C' :: v.toList := by simp [String.toList_append]
  rw [ofString_short hlist (by decide)]
  cases hl : v.toList with
  | nil => exact absurd (String.toList_eq_nil_iff.1 hl) hne
  | cons c cs =>
    rw [hl] at hv
    have hc : c ≠ '=' := fun heq => hv (congrArg some heq)
    rw [attached_of_ne hc, ← hl, String.ofList_toList]

/-! ### What a word of a kind is -/

theorem eq_of_separator (h : ofString word = separator) : word = "--" := by
  rcases ofString_cases word with ⟨rfl, -⟩ | ⟨_, -, -, hkind⟩ | ⟨_, _, -, -, hkind⟩ | ⟨-, hkind⟩
  · rfl
  all_goals
    rw [hkind] at h
    cases h

theorem eq_of_long {value : Option String} (h : ofString word = long name value) :
    word = "--" ++ name ++ value.elim "" ("=" ++ ·) := by
  rcases ofString_cases word with ⟨-, hkind⟩ | ⟨cs, -, hcs, hkind⟩ | ⟨_, _, -, -, hkind⟩ | ⟨-, hkind⟩
  · rw [hkind] at h
    cases h
  · rw [hkind] at h
    cases h
    apply String.toList_inj.1
    rw [hcs, String.toList_append, String.toList_append, String.toList_ofList]
    have hparts := eq_of_splitAtEquals cs
    cases hvalue : (splitAtEquals cs).2 with
    | none =>
      rw [hvalue] at hparts
      simpa using hparts
    | some ds =>
      rw [hvalue] at hparts
      simpa using hparts
  all_goals
    rw [hkind] at h
    cases h

theorem eq_of_short {value : Option String} (h : ofString word = short c value) :
    ∃ cs, word.toList = '-' :: c :: cs ∧ attached cs = value := by
  rcases ofString_cases word with ⟨-, hkind⟩ | ⟨_, -, -, hkind⟩ | ⟨d, cs, -, hcs, hkind⟩ | ⟨-, hkind⟩
  · rw [hkind] at h
    cases h
  · rw [hkind] at h
    cases h
  · rw [hkind] at h
    cases h
    exact ⟨cs, hcs, rfl⟩
  · rw [hkind] at h
    cases h

theorem not_looksLikeOption_of_plain (h : ofString word = plain) : ¬ LooksLikeOption word := by
  rcases ofString_cases word with ⟨-, hkind⟩ | ⟨_, -, -, hkind⟩ | ⟨_, _, -, -, hkind⟩ | ⟨hno, -⟩
  · rw [hkind] at h
    cases h
  · rw [hkind] at h
    cases h
  · rw [hkind] at h
    cases h
  · exact hno

/-- A letter with a value has it behind an equals sign, or at once. -/
theorem eq_of_short_value (h : ofString word = short 'C' (some v)) :
    word = "-C=" ++ v ∨ (word = "-C" ++ v ∧ v ≠ "" ∧ v.toList.head? ≠ some '=') := by
  obtain ⟨cs, hcs, hvalue⟩ := eq_of_short h
  cases cs with
  | nil => cases hvalue
  | cons c cs =>
    by_cases hc : c = '='
    · subst hc
      cases hvalue
      exact Or.inl (String.toList_inj.1 (by simp [hcs, String.toList_append]))
    · rw [attached_of_ne hc] at hvalue
      cases hvalue
      refine Or.inr ⟨String.toList_inj.1 (by simp [hcs, String.toList_append]), ?_, ?_⟩
      · intro hempty
        have := congrArg String.toList hempty
        simp at this
      · simpa using hc

theorem eq_of_short_bare (h : ofString word = short c none) : word.toList = ['-', c] := by
  obtain ⟨cs, hcs, hvalue⟩ := eq_of_short h
  cases cs with
  | nil => exact hcs
  | cons d ds =>
    by_cases hd : d = '='
    · subst hd
      cases hvalue
    · rw [attached_of_ne hd] at hvalue
      cases hvalue

end Word

/-! ## The first word -/

namespace CommandLine

variable {items items' : List Item} {word : String} {rest : List String}

/-- What the first word says about the items, by its kind. -/
def FirstWord (items : List Item) (word : String) (rest : List String) : Word → Prop
  | .separator => ∃ ts : List Target, rest = ts.map Target.name ∧ items = ts.map .target
  | .long name (some v) =>
    ∃ p items', Parameter.ofName? name = some p ∧ items = .option p v :: items' ∧ Spells items' rest
  | .long name none =>
    ∃ p v rest' items', Parameter.ofName? name = some p ∧ rest = v :: rest' ∧
      (p = .opts ∨ ¬ LooksLikeOption v) ∧ items = .option p v :: items' ∧ Spells items' rest'
  | .short c (some v) => c = 'C' ∧ ∃ items', items = .option .directory v :: items' ∧ Spells items' rest
  | .short c none =>
    c = 'C' ∧ ∃ v rest' items', rest = v :: rest' ∧ ¬ LooksLikeOption v ∧
      items = .option .directory v :: items' ∧ Spells items' rest'
  | .plain => ∃ t items', Target.ofName? word = some t ∧ items = .target t :: items' ∧ Spells items' rest

theorem spells_cons_iff : Spells items (word :: rest) ↔ FirstWord items word rest (Word.ofString word) := by
  constructor
  · intro h
    cases h with
    | target t h =>
      rw [Word.ofString_plain t.not_looksLikeOption]
      exact ⟨t, _, Target.ofName?_eq_some_iff.2 rfl, rfl, h⟩
    | attached p v h =>
      rw [Word.ofString_attached p.equals_notMem_name]
      exact ⟨p, _, Parameter.ofName?_eq_some_iff.2 rfl, rfl, h⟩
    | detached p hv h =>
      rw [Word.ofString_detached p.equals_notMem_name p.name_ne_empty]
      exact ⟨p, _, _, _, Parameter.ofName?_eq_some_iff.2 rfl, rfl, hv, rfl, h⟩
    | letterEquals v h =>
      rw [Word.ofString_letterEquals]
      exact ⟨rfl, _, rfl, h⟩
    | letterAttached hne hv h =>
      rw [Word.ofString_letterAttached hne hv]
      exact ⟨rfl, _, rfl, h⟩
    | letterDetached hv h => exact ⟨rfl, _, _, _, rfl, hv, rfl, h⟩
    | separator ts => exact ⟨ts, rfl, rfl⟩
  · intro h
    cases hword : Word.ofString word with
    | separator =>
      rw [hword] at h
      obtain ⟨ts, rfl, rfl⟩ := h
      rw [Word.eq_of_separator hword]
      exact .separator ts
    | long name value =>
      rw [hword] at h
      rw [Word.eq_of_long hword]
      cases value with
      | none =>
        obtain ⟨p, v, rest', items', hp, rfl, hv, rfl, hrest⟩ := h
        rw [Parameter.ofName?_eq_some_iff.1 hp, Option.elim_none, String.append_empty]
        exact .detached p hv hrest
      | some v =>
        obtain ⟨p, items', hp, rfl, hrest⟩ := h
        rw [Parameter.ofName?_eq_some_iff.1 hp, Option.elim_some, ← String.append_assoc]
        exact .attached p v hrest
    | short c value =>
      rw [hword] at h
      cases value with
      | none =>
        obtain ⟨rfl, v, rest', items', rfl, hv, rfl, hrest⟩ := h
        rw [show word = "-C" from String.toList_inj.1 (Word.eq_of_short_bare hword)]
        exact .letterDetached hv hrest
      | some v =>
        obtain ⟨rfl, items', rfl, hrest⟩ := h
        rcases Word.eq_of_short_value hword with rfl | ⟨rfl, hne, hv⟩
        · exact .letterEquals v hrest
        · exact .letterAttached hne hv hrest
    | plain =>
      rw [hword] at h
      obtain ⟨t, items', ht, rfl, hrest⟩ := h
      rw [Target.ofName?_eq_some_iff.1 ht]
      exact .target t hrest

theorem Target.map_name_injective : Function.Injective (List.map Target.name) := by
  apply List.map_injective_iff.2
  intro t t' h
  cases t <;> cases t' <;> first | rfl | exact absurd h (by decide)

/-- Words write one row of items at most. -/
theorem Spells.unique {words : List String} (h : Spells items words) (h' : Spells items' words) :
    items = items' := by
  induction h generalizing items' with
  | nil =>
    cases h'
    rfl
  | target t h ih =>
    rw [spells_cons_iff, Word.ofString_plain t.not_looksLikeOption] at h'
    obtain ⟨t', items', ht, rfl, hrest⟩ := h'
    rw [Target.ofName?_eq_some_iff.2 rfl] at ht
    cases ht
    rw [ih hrest]
  | attached p v h ih =>
    rw [spells_cons_iff, Word.ofString_attached p.equals_notMem_name] at h'
    obtain ⟨p', items', hp, rfl, hrest⟩ := h'
    rw [Parameter.ofName?_eq_some_iff.2 rfl] at hp
    cases hp
    rw [ih hrest]
  | detached p hv h ih =>
    rw [spells_cons_iff, Word.ofString_detached p.equals_notMem_name p.name_ne_empty] at h'
    obtain ⟨p', v', rest', items', hp, hwords, -, rfl, hrest⟩ := h'
    rw [Parameter.ofName?_eq_some_iff.2 rfl] at hp
    cases hp
    cases hwords
    rw [ih hrest]
  | letterEquals v h ih =>
    rw [spells_cons_iff, Word.ofString_letterEquals] at h'
    obtain ⟨-, items', rfl, hrest⟩ := h'
    rw [ih hrest]
  | letterAttached hne hv h ih =>
    rw [spells_cons_iff, Word.ofString_letterAttached hne hv] at h'
    obtain ⟨-, items', rfl, hrest⟩ := h'
    rw [ih hrest]
  | letterDetached hv h ih =>
    rw [spells_cons_iff] at h'
    obtain ⟨-, v', rest', items', hwords, -, rfl, hrest⟩ := h'
    cases hwords
    rw [ih hrest]
  | separator ts =>
    rw [spells_cons_iff] at h'
    obtain ⟨ts', hnames, rfl⟩ := h'
    rw [Target.map_name_injective hnames]

end CommandLine

end DocRunner
