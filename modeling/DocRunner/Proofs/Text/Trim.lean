import DocRunner.Proofs.Text.Digits
import DocRunner.Text.Blank
import Mathlib.Data.List.TakeWhile

/-!
# What trimming leaves

* `trimChars_append` : blanks around a text without blanks are left out, and nothing else;
* `exists_eq_append_trimChars` : a text is what trimming leaves of it, between blanks;
* `IsPortText cs port` : `cs` is the numeral of a port between blanks, which is what reading a port behind
  trimming takes (`readPort?_trimChars_eq_some_iff`).
-/

namespace DocRunner.Text

/-- Nothing but blanks. -/
def AllBlank (cs : List Char) : Prop := ∀ c ∈ cs, isBlank c = true

/-- Digits for a port behind an optional plus sign, between blanks. -/
def IsPortText (cs : List Char) (port : UInt16) : Prop :=
  ∃ pre numeral post ds, cs = pre ++ numeral ++ post ∧ AllBlank pre ∧ AllBlank post ∧
    (numeral = ds ∨ numeral = '+' :: ds) ∧ IsDigits ds ∧ Nat.ofDigitChars 10 ds 0 = port.toNat

variable {c : Char} {cs ds pre post : List Char}

/-! ## Trimming -/

theorem AllBlank.reverse (h : AllBlank cs) : AllBlank cs.reverse := fun c hc => h c (List.mem_reverse.1 hc)

theorem dropWhile_isBlank_append (hpre : AllBlank pre) (hcs : ∀ c ∈ cs, isBlank c = false)
    (hpost : AllBlank post) :
    (pre ++ (cs ++ post)).dropWhile isBlank = if cs = [] then [] else cs ++ post := by
  rw [List.dropWhile_append_of_pos hpre]
  cases cs with
  | nil =>
    rw [List.nil_append, if_pos rfl, List.dropWhile_eq_nil_iff]
    exact hpost
  | cons c cs =>
    rw [List.cons_append, List.dropWhile_cons, hcs c List.mem_cons_self, if_neg (List.cons_ne_nil c cs)]
    rfl

theorem trimChars_append (hpre : AllBlank pre) (hcs : ∀ c ∈ cs, isBlank c = false) (hpost : AllBlank post) :
    trimChars (pre ++ cs ++ post) = cs := by
  rw [trimChars, List.append_assoc, dropWhile_isBlank_append hpre hcs hpost]
  split
  · rename_i hnil
    rw [hnil]
    rfl
  · rename_i hne
    -- the same once more from the other end
    have hreverse : ∀ c ∈ cs.reverse, isBlank c = false := fun c hc => hcs c (List.mem_reverse.1 hc)
    have hnone : AllBlank [] := fun c hc => absurd hc List.not_mem_nil
    have hrest := dropWhile_isBlank_append hpost.reverse hreverse hnone
    rw [List.append_nil, if_neg (fun h => hne (List.reverse_eq_nil_iff.1 h))] at hrest
    rw [List.reverse_append, hrest, List.reverse_reverse]

theorem exists_eq_append_trimChars (cs : List Char) :
    ∃ pre post, cs = pre ++ trimChars cs ++ post ∧ AllBlank pre ∧ AllBlank post := by
  refine ⟨cs.takeWhile isBlank, ((cs.dropWhile isBlank).reverse.takeWhile isBlank).reverse, ?_, ?_, ?_⟩
  · rw [trimChars, List.append_assoc, ← List.reverse_append, List.takeWhile_append_dropWhile,
      List.reverse_reverse, List.takeWhile_append_dropWhile]
  · intro c hc
    exact List.mem_takeWhile_imp hc
  · intro c hc
    exact List.mem_takeWhile_imp (List.mem_reverse.1 hc)

/-! ## Ports between blanks -/

theorem isBlank_of_isDigit (h : c.isDigit = true) : isBlank c = false := by
  simp only [Char.isDigit, Bool.and_eq_true, decide_eq_true_eq, ge_iff_le, UInt32.le_iff_toNat_le] at h
  have hlow : 48 ≤ c.toNat := h.1
  have hhigh : c.toNat ≤ 57 := h.2
  simp only [isBlank, Bool.or_eq_false_iff, Bool.and_eq_false_iff, decide_eq_false_iff_not, beq_eq_false_iff_ne]
  omega

theorem isBlank_of_numeral {numeral : List Char} (hds : IsDigits ds) (h : numeral = ds ∨ numeral = '+' :: ds) :
    ∀ c ∈ numeral, isBlank c = false := by
  intro c hc
  rcases h with rfl | rfl
  · exact isBlank_of_isDigit (hds.2 c hc)
  · rcases List.mem_cons.1 hc with rfl | hc
    · decide
    · exact isBlank_of_isDigit (hds.2 c hc)

/-- Behind trimming, a port is read exactly from its numeral between blanks. -/
theorem readPort?_trimChars_eq_some_iff {port : UInt16} :
    readPort? (trimChars cs) = some port ↔ IsPortText cs port := by
  rw [readPort?_eq_some_iff]
  constructor
  · rintro ⟨ds, hnumeral, hds, hvalue⟩
    obtain ⟨pre, post, hcs, hpre, hpost⟩ := exists_eq_append_trimChars cs
    exact ⟨pre, trimChars cs, post, ds, hcs, hpre, hpost, hnumeral, hds, hvalue⟩
  · rintro ⟨pre, numeral, post, ds, rfl, hpre, hpost, hnumeral, hds, hvalue⟩
    rw [trimChars_append hpre (isBlank_of_numeral hds hnumeral) hpost]
    exact ⟨ds, hnumeral, hds, hvalue⟩

/-- Digits between blanks are for the port that is their value. -/
theorem isPortText_append_iff {port : UInt16} (hpre : AllBlank pre) (hds : IsDigits ds) (hpost : AllBlank post) :
    IsPortText (pre ++ ds ++ post) port ↔ Nat.ofDigitChars 10 ds 0 = port.toNat := by
  rw [← readPort?_trimChars_eq_some_iff, trimChars_append hpre (isBlank_of_numeral hds (Or.inl rfl)) hpost,
    readPort?_eq_some_iff]
  constructor
  · rintro ⟨ds', rfl | rfl, -, hvalue⟩
    · exact hvalue
    · exact absurd rfl hds.ne_sign.1
  · exact fun hvalue => ⟨ds, Or.inl rfl, hds, hvalue⟩

end DocRunner.Text
