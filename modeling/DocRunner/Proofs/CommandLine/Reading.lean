import DocRunner.Proofs.CommandLine.Values

/-!
# What reading a command line accepts

* `CommandLine.SpellsAfter pending items words` : the words write the items, with what is
  pending in front of them;
* `CommandLine.readWords_eq_ok_iff` : from any words on, reading gives what the items that the words write give;
* `CommandLine.read_accepts_iff` : a command line is accepted if it writes items that are, and
  says then what they say.
-/

namespace DocRunner.CommandLine

variable {cl cl' : CommandLine} {pending : Pending} {items : List Item} {word : String} {rest words : List String}

/-! ## What is pending -/

/-- The items that are pending, where no value is awaited. -/
inductive Owes : Pending → List Item → Prop
  | nothing : Owes .nothing []
  | targets (ts : List Target) : Owes (.targets (ts.map Target.name)) (ts.map .target)
  | option (p : Parameter) (v : String) : Owes (.option p (some v)) [.option p v]

theorem addTarget_eq_ok_iff {name : String} :
    cl.addTarget name = .ok cl' ↔
      ∃ t, Target.ofName? name = some t ∧ cl' = { cl with targets := cl.targets ++ [t] } := by
  rw [addTarget]
  cases Target.ofName? name with
  | none => simp
  | some t => simp [eq_comm]

theorem addTargets_eq_ok_iff {names : List String} :
    cl.addTargets names = .ok cl' ↔
      ∃ ts : List Target, names = ts.map Target.name ∧ cl.giveItems (ts.map .target) = .ok cl' := by
  induction names generalizing cl with
  | nil =>
    rw [addTargets]
    constructor
    · exact fun h => ⟨[], rfl, h⟩
    · rintro ⟨ts, hts, h⟩
      rw [List.map_eq_nil_iff.1 hts.symm] at h
      exact h
  | cons name names ih =>
    rw [addTargets]
    constructor
    · intro h
      obtain ⟨cl₁, h₁, h₂⟩ := bind_eq_ok h
      obtain ⟨t, ht, rfl⟩ := addTarget_eq_ok_iff.1 h₁
      obtain ⟨ts, rfl, hts⟩ := ih.1 h₂
      exact ⟨t :: ts, by rw [Target.ofName?_eq_some_iff.1 ht, List.map_cons], hts⟩
    · rintro ⟨ts, hts, h⟩
      cases ts with
      | nil => cases hts
      | cons t ts =>
        cases hts
        rw [addTarget_eq_ok_iff.2 ⟨t, Target.ofName?_eq_some_iff.2 rfl, rfl⟩]
        exact ih.2 ⟨ts, rfl, h⟩

/-- What is pending is taken as the items that it is. -/
theorem settle_eq_ok_iff : cl.settle pending = .ok cl' ↔
    ∃ owed, Owes pending owed ∧ cl.giveItems owed = .ok cl' := by
  constructor
  · intro h
    rcases pending with _ | names | ⟨p, _ | v⟩
    · exact ⟨[], .nothing, h⟩
    · obtain ⟨ts, rfl, hts⟩ := addTargets_eq_ok_iff.1 h
      exact ⟨_, .targets ts, hts⟩
    · cases h
    · obtain ⟨hnone, a, ha, rfl⟩ := give_eq_ok_iff.1 h
      exact ⟨_, .option p v, giveItems_option_eq_ok_iff.2 ⟨hnone, a, ha, rfl⟩⟩
  · rintro ⟨owed, howed, h⟩
    cases howed with
    | nothing => exact h
    | targets ts => exact addTargets_eq_ok_iff.2 ⟨ts, rfl, h⟩
    | option p v =>
      obtain ⟨hnone, a, ha, hcl⟩ := giveItems_option_eq_ok_iff.1 h
      cases hcl
      exact give_eq_ok_iff.2 ⟨hnone, a, ha, rfl⟩

/-! ## Words behind what is pending -/

/-- The words write the items, with what is pending in front of them. An option that awaits its value has
it in the first word. -/
inductive SpellsAfter : Pending → List Item → List String → Prop
  | owed {pending : Pending} {owed items : List Item} {words : List String} (howed : Owes pending owed)
      (h : Spells items words) : SpellsAfter pending (owed ++ items) words
  | value (p : Parameter) {v : String} (hv : p = .opts ∨ ¬ LooksLikeOption v) {items : List Item}
      {words : List String} (h : Spells items words) :
      SpellsAfter (.option p none) (.option p v :: items) (v :: words)

theorem spellsAfter_nothing_iff : SpellsAfter .nothing items words ↔ Spells items words := by
  constructor
  · intro h
    cases h with
    | owed howed h =>
      cases howed
      exact h
  · intro h
    exact .owed .nothing h

theorem spellsAfter_nil_iff : SpellsAfter pending items [] ↔ Owes pending items := by
  constructor
  · intro h
    cases h with
    | owed howed h =>
      cases h
      rw [List.append_nil]
      exact howed
  · intro h
    rw [← List.append_nil items]
    exact .owed h .nil

theorem spellsAfter_option_iff {p : Parameter} {v : String} :
    SpellsAfter (.option p (some v)) items words ↔
      ∃ items', items = .option p v :: items' ∧ Spells items' words := by
  constructor
  · intro h
    cases h with
    | owed howed h =>
      cases howed
      exact ⟨_, rfl, h⟩
  · rintro ⟨items', rfl, h⟩
    exact .owed (.option p v) h

theorem spellsAfter_awaited_iff {p : Parameter} :
    SpellsAfter (.option p none) items words ↔
      ∃ v rest items', words = v :: rest ∧ (p = .opts ∨ ¬ LooksLikeOption v) ∧
        items = .option p v :: items' ∧ Spells items' rest := by
  constructor
  · intro h
    cases h with
    | owed howed h => cases howed
    | value p hv h => exact ⟨_, _, _, rfl, hv, rfl, h⟩
  · rintro ⟨v, rest, items', rfl, hv, rfl, h⟩
    exact .value p hv h

/-- A word that the option awaits may as well be read already. -/
theorem spellsAfter_value_iff {p : Parameter} (hv : p = .opts ∨ ¬ LooksLikeOption word) :
    SpellsAfter (.option p none) items (word :: rest) ↔ SpellsAfter (.option p (some word)) items rest := by
  rw [spellsAfter_option_iff, spellsAfter_awaited_iff]
  constructor
  · rintro ⟨v, rest', items', hwords, -, rfl, h⟩
    cases hwords
    exact ⟨items', rfl, h⟩
  · rintro ⟨items', rfl, h⟩
    exact ⟨word, rest, items', rfl, hv, rfl, h⟩

/-- A target that follows pending targets may as well be pending with them. -/
theorem spellsAfter_targets_iff {names : List String} (hplain : ¬ LooksLikeOption word) :
    SpellsAfter (.targets names) items (word :: rest) ↔ SpellsAfter (.targets (names ++ [word])) items rest := by
  constructor
  · intro h
    generalize hpending : Pending.targets names = pending at h
    cases h with
    | value p hv h => cases hpending
    | owed howed h =>
      subst hpending
      cases howed with
      | targets ts =>
        rw [spells_cons_iff, Word.ofString_plain hplain] at h
        obtain ⟨t, items', ht, rfl, h⟩ := h
        rw [Target.ofName?_eq_some_iff.1 ht]
        have hspells := SpellsAfter.owed (.targets (ts ++ [t])) h
        simpa using hspells
  · intro h
    generalize hpending : Pending.targets (names ++ [word]) = pending at h
    cases h with
    | value p hv h => cases hpending
    | owed howed h =>
      subst hpending
      generalize hnames : names ++ [word] = names' at howed
      cases howed with
      | targets ts =>
        obtain ⟨ts₁, ts₂, rfl, rfl, hword⟩ := List.map_eq_append_iff.1 hnames.symm
        obtain ⟨t, rfl, rfl⟩ := List.map_eq_singleton_iff.1 hword
        have hspells := SpellsAfter.owed (.targets ts₁) (.target t h)
        simpa using hspells

/-- A word that starts the items anew is where what is pending ends. -/
theorem settle_bind_eq_ok_iff {f : CommandLine → Except UsageError CommandLine}
    (hno : ∀ p, pending = .option p none → p ≠ .opts ∧ LooksLikeOption word)
    (hf : ∀ cl, f cl = .ok cl' ↔ ∃ items, Spells items (word :: rest) ∧ cl.giveItems items = .ok cl') :
    (cl.settle pending).bind f = .ok cl' ↔
      ∃ items, SpellsAfter pending items (word :: rest) ∧ cl.giveItems items = .ok cl' := by
  constructor
  · intro h
    obtain ⟨cl₁, h₁, h₂⟩ := bind_eq_ok h
    obtain ⟨owed, howed, hgive⟩ := settle_eq_ok_iff.1 h₁
    obtain ⟨items, hitems, hgive'⟩ := (hf cl₁).1 h₂
    refine ⟨owed ++ items, .owed howed hitems, ?_⟩
    rw [giveItems_append, hgive]
    exact hgive'
  · rintro ⟨items, hitems, hgive⟩
    generalize hwords : word :: rest = words at hitems
    cases hitems with
    | value p hv h =>
      cases hwords
      obtain ⟨hp, hword⟩ := hno p rfl
      exact absurd hv (by simp [hp, hword])
    | owed howed h =>
      subst hwords
      rw [giveItems_append] at hgive
      obtain ⟨cl₁, h₁, h₂⟩ := bind_eq_ok hgive
      rw [settle_eq_ok_iff.2 ⟨_, howed, h₁⟩]
      exact (hf cl₁).2 ⟨_, h, h₂⟩

/-- A word that writes nothing is refused, whatever is pending. -/
theorem not_spellsAfter (hno : ∀ p, pending = .option p none → p ≠ .opts ∧ LooksLikeOption word)
    (hword : ∀ items, ¬ Spells items (word :: rest)) : ¬ SpellsAfter pending items (word :: rest) := by
  intro h
  generalize hwords : word :: rest = words at h
  cases h with
  | value p hv h =>
    cases hwords
    obtain ⟨hp, hlooks⟩ := hno p rfl
    exact absurd hv (by simp [hp, hlooks])
  | owed howed h =>
    subst hwords
    exact hword _ h

/-! ## The first word -/

theorem spells_separator_iff (hword : Word.ofString word = .separator) :
    Spells items (word :: rest) ↔ ∃ ts : List Target, rest = ts.map Target.name ∧ items = ts.map .target := by
  rw [spells_cons_iff, hword]
  rfl

/-- The word of an option leaves the option pending, with its value if the word has that too. -/
theorem spells_long_iff {name : String} {value : Option String} {p : Parameter}
    (hword : Word.ofString word = .long name value) (hp : Parameter.ofName? name = some p) :
    Spells items (word :: rest) ↔ SpellsAfter (.option p value) items rest := by
  rw [spells_cons_iff, hword]
  cases value with
  | none =>
    simp only [FirstWord, hp, Option.some.injEq, spellsAfter_awaited_iff]
    constructor
    · rintro ⟨_, v, rest', items', rfl, h⟩
      exact ⟨v, rest', items', h⟩
    · rintro ⟨v, rest', items', h⟩
      exact ⟨p, v, rest', items', rfl, h⟩
  | some v =>
    simp only [FirstWord, hp, Option.some.injEq, spellsAfter_option_iff]
    constructor
    · rintro ⟨_, items', rfl, h⟩
      exact ⟨items', h⟩
    · rintro ⟨items', h⟩
      exact ⟨p, items', rfl, h⟩

theorem spells_letter_iff {value : Option String} (hword : Word.ofString word = .short 'C' value) :
    Spells items (word :: rest) ↔ SpellsAfter (.option .directory value) items rest := by
  rw [spells_cons_iff, hword]
  cases value with
  | none => simp [FirstWord, spellsAfter_awaited_iff]
  | some v => simp [FirstWord, spellsAfter_option_iff]

theorem spells_plain_iff (hword : Word.ofString word = .plain) :
    Spells items (word :: rest) ↔ SpellsAfter (.targets [word]) items rest := by
  rw [← List.nil_append [word], ← spellsAfter_targets_iff (Word.not_looksLikeOption_of_plain hword)]
  constructor
  · intro h
    exact .owed (.targets []) h
  · intro h
    generalize hpending : Pending.targets [] = pending at h
    generalize hwords : word :: rest = words at h ⊢
    cases h with
    | value p hv h => cases hpending
    | owed howed h =>
      subst hpending
      generalize hnames : ([] : List String) = names at howed
      cases howed with
      | targets ts =>
        rw [List.map_eq_nil_iff.1 hnames.symm]
        exact h

theorem not_spells_of_long {name : String} {value : Option String} (hword : Word.ofString word = .long name value)
    (hname : Parameter.ofName? name = none) (items : List Item) : ¬ Spells items (word :: rest) := by
  rw [spells_cons_iff, hword]
  cases value <;> simp [FirstWord, hname]

theorem not_spells_of_short {c : Char} {value : Option String} (hword : Word.ofString word = .short c value)
    (hc : c ≠ 'C') (items : List Item) : ¬ Spells items (word :: rest) := by
  rw [spells_cons_iff, hword]
  cases value <;> simp [FirstWord, hc]

/-! ## Reading -/

/-- An error is right where no items are written. -/
theorem error_eq_ok_iff {e : UsageError} {P : List Item → Prop} (h : ∀ items, ¬ P items) :
    Except.error e = .ok cl' ↔ ∃ items, P items ∧ cl.giveItems items = .ok cl' := by
  constructor
  · intro h
    cases h
  · rintro ⟨items, hitems, -⟩
    exact absurd hitems (h items)

/-- Reading behind the word of an option, if the words behind it are read as they are written. -/
theorem readOption_eq_ok_iff {p : Parameter} {value : Option String}
    (hrest : ∀ (cl : CommandLine) (pending : Pending), cl.readWords pending rest = .ok cl' ↔
      ∃ items, SpellsAfter pending items rest ∧ cl.giveItems items = .ok cl') (cl : CommandLine) :
    (match value with
      | none => cl.readWords (.option p none) rest
      | some v => (cl.give p v).bind fun cl => cl.readWords .nothing rest) = .ok cl' ↔
      ∃ items, SpellsAfter (.option p value) items rest ∧ cl.giveItems items = .ok cl' := by
  cases value with
  | none => exact hrest cl _
  | some v =>
    simp only [spellsAfter_option_iff]
    constructor
    · intro h
      obtain ⟨cl₁, h₁, h₂⟩ := bind_eq_ok h
      obtain ⟨items, hitems, hgive⟩ := (hrest cl₁ _).1 h₂
      refine ⟨_, ⟨items, rfl, spellsAfter_nothing_iff.1 hitems⟩, ?_⟩
      rw [giveItems, giveItem, h₁]
      exact hgive
    · rintro ⟨_, ⟨items, rfl, hitems⟩, hgive⟩
      rw [giveItems, giveItem] at hgive
      obtain ⟨cl₁, h₁, h₂⟩ := bind_eq_ok hgive
      rw [h₁]
      exact (hrest cl₁ _).2 ⟨items, spellsAfter_nothing_iff.2 hitems, h₂⟩

/-- From any words on, reading gives what the items give that the words write behind what is pending. -/
theorem readWords_eq_ok_iff :
    cl.readWords pending words = .ok cl' ↔
      ∃ items, SpellsAfter pending items words ∧ cl.giveItems items = .ok cl' := by
  induction words generalizing cl pending with
  | nil =>
    simp only [spellsAfter_nil_iff]
    exact settle_eq_ok_iff
  | cons word rest ih =>
    have hrest : ∀ (cl : CommandLine) (pending : Pending), cl.readWords pending rest = .ok cl' ↔
        ∃ items, SpellsAfter pending items rest ∧ cl.giveItems items = .ok cl' := fun _ _ => ih
    unfold readWords
    split
    · rename_i hopts
      rw [ih, hopts]
      simp only [spellsAfter_value_iff (Or.inl rfl)]
    · rename_i hopts
      -- Only a plain word can be the value that an option awaits.
      have hno : Word.ofString word ≠ .plain →
          ∀ p, pending = .option p none → p ≠ .opts ∧ LooksLikeOption word := by
        intro hword p hp
        refine ⟨fun heq => hopts (heq ▸ hp), ?_⟩
        by_contra hplain
        exact hword (Word.ofString_plain hplain)
      split
      · rename_i hword
        refine settle_bind_eq_ok_iff (hno (by simp [hword])) fun cl => ?_
        rw [addTargets_eq_ok_iff]
        simp only [spells_separator_iff hword]
        constructor
        · rintro ⟨ts, hts, hgive⟩
          exact ⟨_, ⟨ts, hts, rfl⟩, hgive⟩
        · rintro ⟨_, ⟨ts, hts, rfl⟩, hgive⟩
          exact ⟨ts, hts, hgive⟩
      · rename_i hword
        exact settle_bind_eq_ok_iff (hno (by simp [hword])) fun cl =>
          error_eq_ok_iff (not_spells_of_long hword rfl)
      · rename_i hword
        exact error_eq_ok_iff fun _ => not_spellsAfter (hno (by simp [hword])) (not_spells_of_long hword rfl)
      · rename_i name value _ _ hword
        cases hp : Parameter.ofName? name with
        | none => exact error_eq_ok_iff fun _ =>
          not_spellsAfter (hno (by simp [hword])) (not_spells_of_long hword hp)
        | some p =>
          refine settle_bind_eq_ok_iff (hno (by simp [hword])) fun cl => ?_
          simp only [spells_long_iff hword hp]
          exact readOption_eq_ok_iff hrest cl
      · rename_i hword
        exact settle_bind_eq_ok_iff (hno (by simp [hword])) fun cl =>
          error_eq_ok_iff (not_spells_of_short hword (by decide))
      · rename_i hword
        refine settle_bind_eq_ok_iff (hno (by simp [hword])) fun cl => ?_
        simp only [spells_letter_iff hword]
        exact readOption_eq_ok_iff hrest cl
      · rename_i hc hword
        exact error_eq_ok_iff fun _ => not_spellsAfter (hno (by simp [hword])) (not_spells_of_short hword hc)
      · rename_i hword
        have hplain := Word.not_looksLikeOption_of_plain hword
        have hanew : (∀ p, pending ≠ .option p none) →
            (((cl.settle pending).bind fun cl => cl.readWords (.targets [word]) rest) = .ok cl' ↔
              ∃ items, SpellsAfter pending items (word :: rest) ∧ cl.giveItems items = .ok cl') := by
          intro hpending
          refine settle_bind_eq_ok_iff (fun p hp => absurd hp (hpending p)) fun cl => ?_
          simp only [spells_plain_iff hword]
          exact hrest cl _
        rcases pending with _ | names | ⟨p, _ | v⟩
        · exact hanew (by simp)
        · simp only [spellsAfter_targets_iff hplain]
          exact hrest cl _
        · simp only [spellsAfter_value_iff (Or.inr hplain)]
          exact hrest cl _
        · exact hanew (by simp)

theorem read_eq_ok_iff : read words = .ok cl ↔
    ∃ items, Spells items words ∧ Accepted items ∧ Says cl items := by
  rw [read, readWords_eq_ok_iff]
  simp only [spellsAfter_nothing_iff, giveItems_empty_eq_ok_iff]

/-- A command line is read if and only if its words write items that are accepted. It then has the
targets in order and the value of each option, and nothing else; and there are no other items that
the words could write. -/
theorem read_accepts_iff (words : List String) :
    ((∃ cl, read words = .ok cl) ↔ ∃ items, Spells items words ∧ Accepted items) ∧
      ∀ cl, read words = .ok cl → ∃ items, Spells items words ∧ Accepted items ∧ Says cl items ∧
        ∀ items', Spells items' words → items' = items := by
  refine ⟨⟨?_, ?_⟩, ?_⟩
  · rintro ⟨cl, hcl⟩
    obtain ⟨items, hwords, haccepted, -⟩ := read_eq_ok_iff.1 hcl
    exact ⟨items, hwords, haccepted⟩
  · rintro ⟨items, hwords, haccepted⟩
    obtain ⟨cl, hmeaning⟩ := haccepted.exists_commandLine
    exact ⟨cl, read_eq_ok_iff.2 ⟨items, hwords, haccepted, hmeaning⟩⟩
  · intro cl hcl
    obtain ⟨items, hwords, haccepted, hmeaning⟩ := read_eq_ok_iff.1 hcl
    exact ⟨items, hwords, haccepted, hmeaning, fun items' hwords' => hwords'.unique hwords⟩

/-- `--opts` takes any word, also one that is an option itself. -/
example : read ["html", "--opts", "--port", "--port=-0", "--", "clean"] =
    .ok { targets := [.html, .clean], flags := { options := some "--port", port := some 0 } } := by
  cbv

end DocRunner.CommandLine
