import DocRunner.Text.Numeral

/-!
# The value of decimal numerals

`IsDigits cs` says that `cs` is a nonempty row of ASCII digits, of which `Nat.ofDigitChars 10 cs 0` is the
value, however many there are. `IsSigned cs n` says that `cs` is such a row for the integer `n`, behind a sign
if it likes. The readers of numerals take exactly these, within their bounds:

* `digitsValue?_eq_some_iff`, `digitsWithin_eq_ok_iff` : rows of digits;
* `readPort?_eq_some_iff` : a port behind an optional plus sign;
* `readInt64_eq_ok_iff` : a signed integer of 64 bits.
-/

namespace DocRunner.Text

/-- A nonempty row of ASCII digits. -/
def IsDigits (cs : List Char) : Prop :=
  cs ≠ [] ∧ ∀ c ∈ cs, c.isDigit = true

/-- A row of digits for a number, behind a sign if it likes. -/
inductive IsSigned : List Char → Int → Prop
  | unsigned {ds : List Char} : IsDigits ds → IsSigned ds (Nat.ofDigitChars 10 ds 0)
  | plus {ds : List Char} : IsDigits ds → IsSigned ('+' :: ds) (Nat.ofDigitChars 10 ds 0)
  | minus {ds : List Char} : IsDigits ds → IsSigned ('-' :: ds) (-(Nat.ofDigitChars 10 ds 0 : Int))

variable {c : Char} {cs ds : List Char} {n m limit : Nat}

/-! ## Rows of characters -/

/-- A row of characters ends where the first other one stands. -/
theorem takeWhile_row {p : Char → Bool} {row rest : List Char} (hrow : ∀ c ∈ row, p c = true)
    (hrest : ∀ c ∈ rest.head?, p c = false) :
    (row ++ rest).takeWhile p = row ∧ (row ++ rest).dropWhile p = rest := by
  rw [List.takeWhile_append_of_pos hrow, List.dropWhile_append_of_pos hrow]
  cases rest with
  | nil => simp
  | cons c rest =>
    have hc : p c = false := hrest c rfl
    simp [hc]

/-! ## Digits -/

theorem digitValue?_of_isDigit (h : c.isDigit = true) : digitValue? c = some (c.toNat - '0'.toNat) := by
  rw [digitValue?, if_pos]
  simpa [Char.isDigit, Char.le_def] using h

theorem digitValue?_of_not_isDigit (h : ¬ c.isDigit = true) : digitValue? c = none := by
  rw [digitValue?, if_neg]
  simpa [Char.isDigit, Char.le_def] using h

/-- More digits never make a value smaller. -/
theorem le_ofDigitChars (n : Nat) (cs : List Char) : n ≤ Nat.ofDigitChars 10 cs n := by
  induction cs generalizing n with
  | nil => simp
  | cons c cs ih =>
    rw [Nat.ofDigitChars_cons]
    have := ih (10 * n + (c.toNat - '0'.toNat))
    omega

theorem digitsAfter?_eq_some_iff :
    digitsAfter? n cs = some m ↔ (∀ c ∈ cs, c.isDigit = true) ∧ Nat.ofDigitChars 10 cs n = m := by
  induction cs generalizing n with
  | nil => simp [digitsAfter?]
  | cons c cs ih =>
    rw [digitsAfter?]
    by_cases hc : c.isDigit = true
    · rw [digitValue?_of_isDigit hc, Nat.ofDigitChars_cons]
      simp [ih, hc]
    · rw [digitValue?_of_not_isDigit hc]
      simp [hc]

theorem digitsValue?_eq_some_iff : digitsValue? cs = some m ↔ IsDigits cs ∧ Nat.ofDigitChars 10 cs 0 = m := by
  cases cs with
  | nil => simp [digitsValue?, IsDigits]
  | cons c cs =>
    rw [digitsValue?, digitsAfter?_eq_some_iff, IsDigits]
    simp

/-- Digits are read up to a limit exactly if their value is within it, since a value only grows on the way. -/
theorem digitsWithin_eq_ok_iff {excess : NumeralError} (hn : n ≤ limit) :
    digitsWithin limit excess n cs = .ok m ↔
      (∀ c ∈ cs, c.isDigit = true) ∧ Nat.ofDigitChars 10 cs n = m ∧ m ≤ limit := by
  induction cs generalizing n with
  | nil =>
    simp only [digitsWithin, Except.ok.injEq, List.not_mem_nil, false_implies, implies_true,
      Nat.ofDigitChars_nil, true_and]
    omega
  | cons c cs ih =>
    rw [digitsWithin, Nat.ofDigitChars_cons]
    by_cases hc : c.isDigit = true
    · rw [digitValue?_of_isDigit hc]
      dsimp only
      have hgrow := le_ofDigitChars (10 * n + (c.toNat - '0'.toNat)) cs
      split
      · rename_i hover
        simp only [reduceCtorEq, false_iff]
        omega
      · rename_i hwithin
        rw [ih (by omega)]
        simp [hc]
    · rw [digitValue?_of_not_isDigit hc]
      simp [hc]

theorem IsDigits.ne_sign (h : IsDigits (c :: cs)) : c ≠ '+' ∧ c ≠ '-' := by
  have hc : c.isDigit = true := h.2 c List.mem_cons_self
  constructor <;> rintro rfl <;> exact absurd hc (by decide)

/-! ## Ports -/

theorem toPort?_eq_some_iff {port : UInt16} : toPort? n = some port ↔ n = port.toNat := by
  rw [toPort?]
  split
  · rename_i hle
    rw [Option.some.injEq]
    constructor
    · rintro rfl
      rw [UInt16.toNat_ofNat']
      simp only [maxPort] at hle
      omega
    · rintro rfl
      exact UInt16.ofNat_toNat
  · rename_i hlt
    simp only [reduceCtorEq, false_iff]
    rintro rfl
    exact hlt (Nat.le_of_lt_succ port.toNat_lt)

theorem exists_port_iff : (∃ port : UInt16, n = port.toNat) ↔ n ≤ 65535 := by
  constructor
  · rintro ⟨port, rfl⟩
    exact Nat.le_of_lt_succ port.toNat_lt
  · intro hn
    exact ⟨UInt16.ofNat n, toPort?_eq_some_iff.1 (if_pos hn)⟩

/-- A port is read from digits of its value, behind an optional plus sign. -/
theorem readPort?_eq_some_iff {port : UInt16} :
    readPort? cs = some port ↔
      ∃ ds, (cs = ds ∨ cs = '+' :: ds) ∧ IsDigits ds ∧ Nat.ofDigitChars 10 ds 0 = port.toNat := by
  have hdigits : ∀ ds, (digitsValue? ds).bind toPort? = some port ↔
      IsDigits ds ∧ Nat.ofDigitChars 10 ds 0 = port.toNat := by
    intro ds
    simp only [Option.bind_eq_some_iff, digitsValue?_eq_some_iff, toPort?_eq_some_iff]
    constructor
    · rintro ⟨n, ⟨hds, rfl⟩, hn⟩
      exact ⟨hds, hn⟩
    · rintro ⟨hds, hn⟩
      exact ⟨_, ⟨hds, rfl⟩, hn⟩
  unfold readPort?
  split
  · rename_i rest
    rw [hdigits]
    constructor
    · exact fun h => ⟨rest, Or.inr rfl, h⟩
    · rintro ⟨ds, rfl | hds, h⟩
      · exact absurd rfl h.1.ne_sign.1
      · cases hds
        exact h
  · rename_i hsign
    rw [hdigits]
    constructor
    · exact fun h => ⟨cs, Or.inl rfl, h⟩
    · rintro ⟨ds, rfl | rfl, h⟩
      · exact h
      · exact absurd rfl (hsign ds)

/-! ## Signed integers -/

theorem map_digitsWithin_eq_ok_iff {excess : NumeralError} {f : Nat → Int} {z : Int} (ds : List Char) :
    (digitsWithin limit excess 0 ds).map f = .ok z ↔
      (∀ c ∈ ds, c.isDigit = true) ∧ f (Nat.ofDigitChars 10 ds 0) = z ∧ Nat.ofDigitChars 10 ds 0 ≤ limit := by
  constructor
  · intro h
    cases hread : digitsWithin limit excess 0 ds with
    | error why =>
      rw [hread] at h
      cases h
    | ok n =>
      rw [hread] at h
      obtain ⟨hds, rfl, hle⟩ := (digitsWithin_eq_ok_iff (Nat.zero_le _)).1 hread
      exact ⟨hds, Except.ok.inj h, hle⟩
  · rintro ⟨hds, rfl, hle⟩
    rw [(digitsWithin_eq_ok_iff (Nat.zero_le _)).2 ⟨hds, rfl, hle⟩]
    rfl

theorem isSigned_plus_iff {z : Int} :
    IsSigned ('+' :: ds) z ↔ IsDigits ds ∧ (Nat.ofDigitChars 10 ds 0 : Int) = z := by
  constructor
  · intro h
    cases h with
    | unsigned hds => exact absurd rfl hds.ne_sign.1
    | plus hds => exact ⟨hds, rfl⟩
  · rintro ⟨hds, rfl⟩
    exact .plus hds

theorem isSigned_minus_iff {z : Int} :
    IsSigned ('-' :: ds) z ↔ IsDigits ds ∧ -(Nat.ofDigitChars 10 ds 0 : Int) = z := by
  constructor
  · intro h
    cases h with
    | unsigned hds => exact absurd rfl hds.ne_sign.2
    | minus hds => exact ⟨hds, rfl⟩
  · rintro ⟨hds, rfl⟩
    exact .minus hds

theorem isSigned_unsigned_iff {z : Int} (hplus : ∀ ds, cs ≠ '+' :: ds) (hminus : ∀ ds, cs ≠ '-' :: ds) :
    IsSigned cs z ↔ IsDigits cs ∧ (Nat.ofDigitChars 10 cs 0 : Int) = z := by
  constructor
  · intro h
    cases h with
    | unsigned hds => exact ⟨hds, rfl⟩
    | plus _ => exact absurd rfl (hplus _)
    | minus _ => exact absurd rfl (hminus _)
  · rintro ⟨hds, rfl⟩
    exact .unsigned hds

theorem isSigned_natCast_iff (h : IsDigits ds) : IsSigned ds m ↔ Nat.ofDigitChars 10 ds 0 = m := by
  obtain ⟨c, cs, rfl⟩ := List.exists_cons_of_ne_nil h.1
  rw [isSigned_unsigned_iff, and_iff_right h, Int.natCast_inj]
  · exact fun ds hds => h.ne_sign.1 (List.cons.inj hds).1
  · exact fun ds hds => h.ne_sign.2 (List.cons.inj hds).1

theorem map_digitsWithin_ofNat_iff {excess : NumeralError} {z : Int} (hne : ds ≠ []) :
    (digitsWithin (int64Bound - 1) excess 0 ds).map Int.ofNat = .ok z ↔
      (IsDigits ds ∧ (Nat.ofDigitChars 10 ds 0 : Int) = z) ∧ -(int64Bound : Int) ≤ z ∧ z < int64Bound := by
  have hlimit : ((int64Bound - 1 : Nat) : Int) = int64Bound - 1 := by decide
  have hpos : (0 : Int) < int64Bound := by decide
  rw [map_digitsWithin_eq_ok_iff, IsDigits]
  simp only [Int.ofNat_eq_natCast]
  constructor
  · rintro ⟨hds, rfl, hle⟩
    exact ⟨⟨⟨hne, hds⟩, rfl⟩, by omega, by omega⟩
  · rintro ⟨⟨⟨-, hds⟩, rfl⟩, -, hlt⟩
    exact ⟨hds, rfl, by omega⟩

/-- A signed integer is read from its numeral, within the range of 64 bits. -/
theorem readInt64_eq_ok_iff {z : Int} :
    readInt64 cs = .ok z ↔ IsSigned cs z ∧ -(int64Bound : Int) ≤ z ∧ z < int64Bound := by
  unfold readInt64
  split
  · simp [isSigned_unsigned_iff, IsDigits]
  · simp [isSigned_plus_iff, IsDigits]
  · simp [isSigned_minus_iff, IsDigits]
  · rename_i ds hne
    rw [isSigned_plus_iff, map_digitsWithin_ofNat_iff fun h => hne h]
  · rename_i ds hne
    have hpos : (0 : Int) < int64Bound := by decide
    rw [map_digitsWithin_eq_ok_iff, isSigned_minus_iff, IsDigits]
    simp only [Int.ofNat_eq_natCast]
    constructor
    · rintro ⟨hds, rfl, hle⟩
      exact ⟨⟨⟨fun h => hne h, hds⟩, rfl⟩, by omega, by omega⟩
    · rintro ⟨⟨⟨-, hds⟩, rfl⟩, hge, -⟩
      exact ⟨hds, rfl, by omega⟩
  · rename_i hne _ _ hplus hminus
    rw [isSigned_unsigned_iff hplus hminus, map_digitsWithin_ofNat_iff hne]

end DocRunner.Text
