import DocRunner.Json.Numeral
import DocRunner.Proofs.Text.Digits
import Mathlib.Data.String.Basic

/-!
# How JSON numerals are written

* `IsNumeral cs` : `cs` is a numeral: digits without a leading zero, with a minus sign in front, a fraction and
  an exponent behind if it likes;
* `EndsNumeral rest` : `rest` does not go on with a numeral that stands in front of it;
* `readNumeral_of_isNumeral` : a numeral is read as a whole, and nothing else;
* `readNumeral_toDigits`, `integer?_toDigits` : an integer of 64 bits is read from its decimal digits.
-/

namespace DocRunner.Json

open Text (IsDigits)

/-- Digits without a leading zero. -/
def IsWhole (ds : List Char) : Prop := IsDigits ds ∧ (ds = ['0'] ∨ ds.head? ≠ some '0')

/-- A fraction, which may be missing. -/
def IsFraction (cs : List Char) : Prop := cs = [] ∨ ∃ ds, IsDigits ds ∧ cs = '.' :: ds

/-- An exponent, which may be missing. -/
def IsExponent (cs : List Char) : Prop :=
  cs = [] ∨ ∃ mark sign ds, (mark = 'e' ∨ mark = 'E') ∧ (sign = [] ∨ sign = ['+'] ∨ sign = ['-']) ∧
    IsDigits ds ∧ cs = mark :: (sign ++ ds)

/-- A numeral. -/
inductive IsNumeral : List Char → Prop
  | mk {sign whole fraction exponent : List Char} (hsign : sign = [] ∨ sign = ['-']) (hwhole : IsWhole whole)
      (hfraction : IsFraction fraction) (hexponent : IsExponent exponent) :
      IsNumeral (sign ++ (whole ++ (fraction ++ exponent)))

/-- A text does not go on with a numeral in front of it. -/
def EndsNumeral (rest : List Char) : Prop :=
  ∀ c ∈ rest.head?, c.isDigit = false ∧ c ≠ '.' ∧ c ≠ 'e' ∧ c ≠ 'E'

variable {cs ds rest whole fraction exponent : List Char}

/-! ## Digits -/

/-- A text does not go on with digits in front of it. -/
def EndsDigits (rest : List Char) : Prop := ∀ c ∈ rest.head?, c.isDigit = false

theorem EndsNumeral.endsDigits (h : EndsNumeral rest) : EndsDigits rest := fun c hc => (h c hc).1

theorem readDigits_append (hds : IsDigits ds) (hrest : EndsDigits rest) :
    readDigits (ds ++ rest) = some (ds, rest) := by
  obtain ⟨htake, hdrop⟩ := Text.takeWhile_row hds.2 hrest
  rw [readDigits, htake, hdrop]
  cases ds with
  | nil => exact absurd rfl hds.1
  | cons d ds => rfl

theorem readWhole_append (hds : IsWhole ds) (hrest : EndsDigits rest) :
    readWhole (ds ++ rest) = some (ds, rest) := by
  obtain ⟨hdigits, hzero⟩ := hds
  obtain ⟨htake, hdrop⟩ := Text.takeWhile_row hdigits.2 hrest
  rw [readWhole, htake, hdrop]
  split
  · exact absurd rfl hdigits.1
  · simp at hzero
  · rfl

/-! ## The parts of a numeral -/

/-- What starts with an exponent, or with what ends a numeral, is no digit and no decimal point. -/
theorem head_exponent_append (hexponent : IsExponent exponent) (hrest : EndsNumeral rest) :
    ∀ c ∈ (exponent ++ rest).head?, c.isDigit = false ∧ c ≠ '.' := by
  rcases hexponent with rfl | ⟨mark, sign, ds, hmark, -, -, rfl⟩
  · exact fun c hc => ⟨(hrest c hc).1, (hrest c hc).2.1⟩
  · intro c hc
    cases hc
    rcases hmark with rfl | rfl <;> decide

theorem head_fraction_append (hfraction : IsFraction fraction) (hexponent : IsExponent exponent)
    (hrest : EndsNumeral rest) : EndsDigits (fraction ++ (exponent ++ rest)) := by
  rcases hfraction with rfl | ⟨ds, -, rfl⟩
  · exact fun c hc => (head_exponent_append hexponent hrest c hc).1
  · intro c hc
    cases hc
    decide

theorem readFraction_append (hfraction : IsFraction fraction)
    (hrest : ∀ c ∈ rest.head?, c.isDigit = false ∧ c ≠ '.') :
    ∃ read, readFraction (fraction ++ rest) = some (read, rest) := by
  rcases hfraction with rfl | ⟨ds, hds, rfl⟩
  · refine ⟨none, ?_⟩
    rw [List.nil_append]
    unfold readFraction
    split
    · exact absurd rfl (hrest '.' rfl).2
    · rfl
  · exact ⟨some ds, by rw [List.cons_append, readFraction, readDigits_append hds fun c hc => (hrest c hc).1]; rfl⟩

theorem readSigned_append {sign : List Char} (hsign : sign = [] ∨ sign = ['+'] ∨ sign = ['-']) (hds : IsDigits ds)
    (hrest : EndsDigits rest) : ∃ read, readSigned (sign ++ ds ++ rest) = some (read, rest) := by
  have hread := readDigits_append hds hrest
  rcases hsign with rfl | rfl | rfl
  · obtain ⟨d, ds, rfl⟩ := List.exists_cons_of_ne_nil hds.1
    refine ⟨some (false, d :: ds), ?_⟩
    rw [List.nil_append, List.cons_append] at *
    rw [readSigned, hread]
    · rfl
    all_goals
      rintro cs h
      cases h
      exact absurd hds.ne_sign (by simp)
  · exact ⟨some (false, ds), by rw [List.append_assoc, List.singleton_append, readSigned, hread]; rfl⟩
  · exact ⟨some (true, ds), by rw [List.append_assoc, List.singleton_append, readSigned, hread]; rfl⟩

theorem readExponent_append (hexponent : IsExponent exponent) (hrest : EndsNumeral rest) :
    ∃ read, readExponent (exponent ++ rest) = some (read, rest) := by
  rcases hexponent with rfl | ⟨mark, sign, ds, hmark, hsign, hds, rfl⟩
  · refine ⟨none, ?_⟩
    rw [List.nil_append]
    unfold readExponent
    split
    · exact absurd rfl (hrest 'e' rfl).2.2.1
    · exact absurd rfl (hrest 'E' rfl).2.2.2
    · rfl
  · obtain ⟨read, hread⟩ := readSigned_append hsign hds hrest.endsDigits
    refine ⟨read, ?_⟩
    rcases hmark with rfl | rfl <;> exact hread

/-! ## Numerals -/

theorem readUnsigned_append (negative : Bool) (hwhole : IsWhole whole) (hfraction : IsFraction fraction)
    (hexponent : IsExponent exponent) (hrest : EndsNumeral rest) :
    ∃ fractionRead exponentRead, readUnsigned negative (whole ++ (fraction ++ (exponent ++ rest))) =
      some (⟨negative, whole, fractionRead, exponentRead⟩, rest) := by
  obtain ⟨fractionRead, hfractionRead⟩ := readFraction_append hfraction (head_exponent_append hexponent hrest)
  obtain ⟨exponentRead, hexponentRead⟩ := readExponent_append hexponent hrest
  refine ⟨fractionRead, exponentRead, ?_⟩
  rw [readUnsigned, readWhole_append hwhole (head_fraction_append hfraction hexponent hrest), Option.bind_some,
    hfractionRead, Option.bind_some, hexponentRead]
  rfl

theorem readNumeral_of_isDigits (hds : IsDigits ds) (rest : List Char) :
    readNumeral (ds ++ rest) = readUnsigned false (ds ++ rest) := by
  obtain ⟨d, ds, rfl⟩ := List.exists_cons_of_ne_nil hds.1
  rw [List.cons_append]
  unfold readNumeral
  split
  · rename_i h
    cases h
    exact absurd rfl hds.ne_sign.2
  · rfl

/-- A numeral starts with a minus sign or a digit. -/
theorem IsNumeral.exists_start (h : IsNumeral cs) : ∃ c tail, cs = c :: tail ∧ (c = '-' ∨ c.isDigit = true) := by
  cases h with
  | @mk sign whole fraction exponent hsign hwhole =>
    rcases hsign with rfl | rfl
    · obtain ⟨d, ds, rfl⟩ := List.exists_cons_of_ne_nil hwhole.1.1
      exact ⟨d, _, rfl, Or.inr (hwhole.1.2 d List.mem_cons_self)⟩
    · exact ⟨'-', _, rfl, Or.inl rfl⟩

/-- A numeral is read as a whole, and nothing that follows. -/
theorem readNumeral_of_isNumeral (h : IsNumeral cs) (hrest : EndsNumeral rest) :
    ∃ numeral, readNumeral (cs ++ rest) = some (numeral, rest) := by
  obtain ⟨hsign, hwhole, hfraction, hexponent⟩ := h
  simp only [List.append_assoc]
  rcases hsign with rfl | rfl
  · obtain ⟨fractionRead, exponentRead, hread⟩ := readUnsigned_append false hwhole hfraction hexponent hrest
    exact ⟨_, (readNumeral_of_isDigits hwhole.1 _).trans hread⟩
  · obtain ⟨fractionRead, exponentRead, hread⟩ := readUnsigned_append true hwhole hfraction hexponent hrest
    exact ⟨_, hread⟩

/-! ## Integers -/

theorem isDigits_toDigits (n : Nat) : IsDigits (Nat.toDigits 10 n) :=
  ⟨Nat.toDigits_ne_nil, fun _ hc => Nat.isDigit_of_mem_toDigits (by decide) (by decide) hc⟩

/-- The decimal digits of a number have no leading zero. -/
theorem isWhole_toDigits (n : Nat) : IsWhole (Nat.toDigits 10 n) := by
  refine ⟨isDigits_toDigits n, ?_⟩
  induction n using Nat.strongRecOn with
  | ind n ih =>
    by_cases hlt : n < 10
    · have hall : ∀ n < 10, Nat.toDigits 10 n = ['0'] ∨ (Nat.toDigits 10 n).head? ≠ some '0' := by decide
      exact hall n hlt
    · rw [Nat.toDigits_of_base_le (by decide) (by omega), List.head?_append_of_ne_nil _ Nat.toDigits_ne_nil]
      rcases ih (n / 10) (by omega) with hzero | hhead
      · have hvalue := Nat.ofDigitChars_toDigits (b := 10) (n := n / 10) (by decide) (by decide)
        rw [hzero] at hvalue
        have hnone : Nat.ofDigitChars 10 ['0'] 0 = 0 := by decide
        omega
      · exact Or.inr hhead

theorem readNumeral_toDigits (n : Nat) (hrest : EndsNumeral rest) :
    readNumeral (Nat.toDigits 10 n ++ rest) = some (⟨false, Nat.toDigits 10 n, none, none⟩, rest) := by
  have hfraction : readFraction rest = some (none, rest) := by
    unfold readFraction
    split
    · exact absurd rfl (hrest '.' rfl).2.1
    · rfl
  have hexponent : readExponent rest = some (none, rest) := by
    unfold readExponent
    split
    · exact absurd rfl (hrest 'e' rfl).2.2.1
    · exact absurd rfl (hrest 'E' rfl).2.2.2
    · rfl
  rw [readNumeral_of_isDigits (isDigits_toDigits n), readUnsigned,
    readWhole_append (isWhole_toDigits n) hrest.endsDigits, Option.bind_some, hfraction,
      Option.bind_some, hexponent]
  rfl

/-- The decimal digits of a number of 64 bits are an integer. -/
theorem integer?_toDigits {n : Nat} (hn : n < Text.uint64Bound) :
    Numeral.integer? ⟨false, Nat.toDigits 10 n, none, none⟩ = some (n : Int) := by
  have hvalue : digitsNat (Nat.toDigits 10 n) = n := by
    have hdigits : Text.digitsAfter? 0 (Nat.toDigits 10 n) = some n :=
      Text.digitsAfter?_eq_some_iff.2 ⟨(isDigits_toDigits n).2, Nat.ofDigitChars_toDigits (by decide) (by decide)⟩
    rw [digitsNat, hdigits]
    rfl
  rw [Numeral.integer?]
  simp only [hvalue, Option.isSome_none, Bool.or_self, Bool.false_eq_true, if_false, if_pos hn]

end DocRunner.Json
