import DocRunner.Proofs.Text.Trim

/-!
# The words of a text

* `IsWord w` : `w` is not empty and holds no blank;
* `Holds cs ws` : the text `cs` is the words `ws` in order, with blanks around them and
  at least one between two;
* `words_of_holds`, `holds_words` : a text holds its words, and no other row of words;
* `existsUnique_holds` : so each text comes apart into words in one way.
-/

namespace DocRunner.Text

/-- Not empty and without blanks. -/
def IsWord (w : String) : Prop := w ≠ "" ∧ ∀ c ∈ w.toList, isBlank c = false

/-- A text is some words in order, with any blanks around them and at least one blank between two. -/
inductive Holds : List Char → List String → Prop
  | blanks {gap : List Char} : AllBlank gap → Holds gap []
  | word {gap rest : List Char} {w : String} {ws : List String} :
      AllBlank gap → IsWord w → Holds rest ws → (∀ c ∈ rest.head?, isBlank c = true) →
      Holds (gap ++ w.toList ++ rest) (w :: ws)

variable {c : Char} {cs gap rest : List Char} {w : String} {ws : List String}

/-! ## The words that a text holds -/

theorem wordChars_blanks (h : AllBlank gap) (cs : List Char) : wordChars (gap ++ cs) = wordChars cs := by
  induction gap with
  | nil => rfl
  | cons c gap ih =>
    obtain ⟨hc, hgap⟩ := List.forall_mem_cons.1 h
    rw [List.cons_append, wordChars, if_pos hc, ih hgap]

/-- Whether a text goes on with a word, told by its first character. -/
theorem head?_any_iff : (cs.head?.any fun d => !isBlank d) = true ↔ ∃ d ∈ cs.head?, isBlank d = false := by
  cases cs <;> simp

/-- A word at the start of a text ends in front of the next blank. -/
theorem wordChars_word {w : List Char} (hne : w ≠ []) (hw : ∀ c ∈ w, isBlank c = false)
    (hrest : ∀ c ∈ rest.head?, isBlank c = true) : wordChars (w ++ rest) = w :: wordChars rest := by
  induction w with
  | nil => exact absurd rfl hne
  | cons c w ih =>
    obtain ⟨hc, hw⟩ := List.forall_mem_cons.1 hw
    have hopen : ¬ isBlank c = true := by simp [hc]
    rw [List.cons_append, wordChars, if_neg hopen]
    cases w with
    | nil =>
      have hend : ¬ (rest.head?.any fun d => !isBlank d) = true := by
        rw [head?_any_iff]
        rintro ⟨d, hd, hopen⟩
        simp [hrest d hd] at hopen
      rw [List.nil_append, if_neg hend]
    | cons d w =>
      have hgo : ((d :: w ++ rest).head?.any fun d => !isBlank d) = true := by
        simp [hw d List.mem_cons_self]
      rw [if_pos hgo, ih (List.cons_ne_nil d w) hw, consFirst]

theorem IsWord.toList_ne_nil (h : IsWord w) : w.toList ≠ [] := fun hnil => h.1 (String.toList_eq_nil_iff.1 hnil)

/-- The words that a text holds are those that it is split into. -/
theorem words_of_holds (h : Holds cs ws) : (wordChars cs).map String.ofList = ws := by
  induction h with
  | @blanks gap hgap =>
    have hnone := wordChars_blanks hgap []
    rw [List.append_nil] at hnone
    rw [hnone]
    rfl
  | @word gap rest w ws hgap hw _ hnext ih =>
    rw [List.append_assoc, wordChars_blanks hgap, wordChars_word hw.toList_ne_nil hw.2 hnext, List.map_cons, ih,
      String.ofList_toList]

/-! ## Each text holds its words -/

theorem Holds.cons_blank (hc : isBlank c = true) (h : Holds cs ws) : Holds (c :: cs) ws := by
  cases h with
  | blanks hgap => exact .blanks (List.forall_mem_cons.2 ⟨hc, hgap⟩)
  | @word gap rest w ws hgap hw hrest hnext =>
    exact @Holds.word (c :: gap) _ _ _ (List.forall_mem_cons.2 ⟨hc, hgap⟩) hw hrest hnext

/-- In front of a text that starts with a word, a character that is no blank makes that word longer. -/
theorem Holds.cons_letter (hc : isBlank c = false) (h : Holds cs ws)
    (hfirst : ∃ d ∈ cs.head?, isBlank d = false) :
    ∃ first others, ws = first :: others ∧ Holds (c :: cs) (String.ofList (c :: first.toList) :: others) := by
  obtain ⟨d, hd, hopen⟩ := hfirst
  cases h with
  | blanks hgap =>
    have hblank := hgap d (List.mem_of_mem_head? hd)
    rw [hopen] at hblank
    cases hblank
  | @word gap rest w ws hgap hw hrest hnext =>
    cases gap with
    | cons g gap =>
      have hblank := hgap g List.mem_cons_self
      cases hd
      rw [hopen] at hblank
      cases hblank
    | nil =>
      refine ⟨w, ws, rfl, ?_⟩
      have hlonger : IsWord (String.ofList (c :: w.toList)) := by
        constructor
        · simp
        · rw [String.toList_ofList]
          exact List.forall_mem_cons.2 ⟨hc, hw.2⟩
      have hholds := @Holds.word [] _ _ _ hgap hlonger hrest hnext
      rwa [String.toList_ofList] at hholds

theorem holds_wordChars (cs : List Char) : Holds cs ((wordChars cs).map String.ofList) := by
  induction cs with
  | nil => exact .blanks fun c hc => absurd hc List.not_mem_nil
  | cons c cs ih =>
    rw [wordChars]
    split_ifs with hblank hgo
    · exact ih.cons_blank hblank
    · -- the character belongs to the word that the rest starts with
      have hc : isBlank c = false := by simpa using hblank
      obtain ⟨first, others, hws, hholds⟩ := ih.cons_letter hc (head?_any_iff.1 hgo)
      cases hsplit : wordChars cs with
      | nil =>
        rw [hsplit] at hws
        cases hws
      | cons piece pieces =>
        rw [hsplit] at hws
        cases hws
        rwa [String.toList_ofList] at hholds
    · have hc : isBlank c = false := by simpa using hblank
      have hnext : ∀ d ∈ cs.head?, isBlank d = true := by
        intro d hd
        by_contra hopen
        exact hgo (head?_any_iff.2 ⟨d, hd, by simpa using hopen⟩)
      have hword : IsWord (String.ofList [c]) := by
        constructor
        · simp
        · simpa using hc
      have hholds := @Holds.word [] _ _ _ (fun d hd => absurd hd List.not_mem_nil) hword ih hnext
      rwa [String.toList_ofList] at hholds

theorem holds_words (s : String) : Holds s.toList (words s) := holds_wordChars s.toList

/-- Each text comes apart into words in one way. -/
theorem existsUnique_holds (s : String) : ∃! ws, Holds s.toList ws :=
  ⟨words s, holds_words s, fun _ h => (words_of_holds h).symm⟩

end DocRunner.Text
