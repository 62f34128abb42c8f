import DocRunner.Proofs.Json.Numeral
import DocRunner.Toml.Reader
import Mathlib.Data.List.TakeWhile

/-!
# TOML integers

* `IsDecimal z cs` : `cs` are the decimal digits of `z` without a leading zero, behind a
  minus sign if there is one;
* `isDecimal_toString` : so integers are written;
* `IsDecimal.scalar?_eq` : as a token, they stand for `z` if it takes no more than 64
  bits, and else for nothing;
* `IsDecimal.readValue_eq` : where a value stands they are read so, whatever follows
  that cannot go on with them.
-/

namespace DocRunner.Toml

/-- The decimal digits of an integer without a leading zero, behind a minus sign if there is one. -/
inductive IsDecimal : Int → List Char → Prop
  | unsigned (n : Nat) : IsDecimal n (Nat.toDigits 10 n)
  | minus (n : Nat) : IsDecimal (-n) ('-' :: Nat.toDigits 10 n)

variable {z : Int} {cs ds rest : List Char} {negative : Bool}

/-- Integers are written with their decimal digits. -/
theorem isDecimal_toString (z : Int) : IsDecimal z (toString z).toList := by
  cases z with
  | ofNat n =>
    have htext : (toString (Int.ofNat n)).toList = Nat.toDigits 10 n := Nat.toList_repr
    rw [htext]
    exact .unsigned n
  | negSucc n =>
    have htext : (toString (Int.negSucc n)).toList = '-' :: Nat.toDigits 10 (n + 1) := by
      rw [← Nat.toList_repr]
      exact String.toList_append
    rw [htext]
    exact .minus (n + 1)

theorem int64?_of_nonneg (hz : 0 ≤ z) (hlt : z < Text.int64Bound) : int64? z = some z :=
  if_pos ⟨by omega, hlt⟩

theorem eq_of_int64? {n : Int} (h : int64? z = some n) : n = z := by
  unfold int64? at h
  split_ifs at h
  exact (Option.some.inj h).symm

/-! ## Digits -/

/-- Digits without a mark between them are all that is read. -/
theorem digits?_of_all {isDigit : Char → Bool} (hne : ds ≠ []) (hds : ∀ c ∈ ds, isDigit c = true)
    (hmark : '_' ∉ ds) : digits? isDigit ds = some ds := by
  induction ds with
  | nil => exact absurd rfl hne
  | cons c ds ih =>
    obtain ⟨hc, hds⟩ := List.forall_mem_cons.1 hds
    obtain ⟨-, hmark⟩ := List.ne_and_not_mem_of_not_mem_cons hmark
    cases ds with
    | nil => rw [digits?, if_pos hc]
    | cons d ds =>
      rw [digits?, if_pos hc, ih (List.cons_ne_nil d ds) hds hmark]
      · rfl
      · exact fun h => nomatch h
      · rintro cs hd
        cases hd
        exact hmark List.mem_cons_self

theorem hexValue?_of_isDigit {c : Char} (h : c.isDigit = true) : hexValue? c = some (c.toNat - '0'.toNat) := by
  rw [hexValue?, if_pos]
  simpa [Char.isDigit, Char.le_def] using h

theorem notMem_of_isDigits {d : Char} (hd : d.isDigit = false) (h : Text.IsDigits ds) : d ∉ ds := by
  intro hin
  rw [h.2 d hin] at hd
  cases hd

theorem valueInBase?_of_isDigits (h : Text.IsDigits ds) :
    valueInBase? 10 ds = some (Nat.ofDigitChars 10 ds 0) := by
  have hall : ∀ c ∈ ds, ((hexValue? c).any (· < 10)) = true := by
    intro c hc
    have hnine : c.toNat - '0'.toNat < 10 := by
      have := (Char.isDigit_iff_toNat.1 (h.2 c hc)).2
      simp only [Char.reduceToNat] at this ⊢
      omega
    rw [hexValue?_of_isDigit (h.2 c hc), Option.any_some, decide_eq_true hnine]
  rw [valueInBase?, digits?_of_all h.1 hall (notMem_of_isDigits (by decide) h), Option.map_some, Nat.ofDigitChars]
  refine congrArg some (List.foldl_ext _ _ 0 fun n c hc => ?_)
  rw [hexValue?_of_isDigit (h.2 c hc), Option.getD_some]

theorem decimal?_toDigits (n : Nat) : decimal? (Nat.toDigits 10 n) = some n := by
  have hvalue : valueInBase? 10 (Nat.toDigits 10 n) = some n := by
    rw [valueInBase?_of_isDigits (Json.isDigits_toDigits n), Nat.ofDigitChars_toDigits (by decide) (by decide)]
  obtain ⟨-, hzero⟩ := Json.isWhole_toDigits n
  unfold decimal?
  split
  · rename_i hds
    rw [hds] at hvalue
    exact hvalue
  · rename_i hne hds
    rw [hds] at hzero
    rcases hzero with hzero | hzero
    · exact absurd (List.cons.inj hzero).2 hne
    · exact absurd rfl hzero
  · exact hvalue

theorem sign_of_isDigits (h : Text.IsDigits ds) : sign ds = (false, ds) := by
  obtain ⟨c, cs, rfl⟩ := List.exists_cons_of_ne_nil h.1
  have hne := h.ne_sign
  unfold sign
  split
  · rename_i hplus
    exact absurd (List.cons.inj hplus).1 hne.1
  · rename_i hminus
    exact absurd (List.cons.inj hminus).1 hne.2
  · rfl

/-! ## What signed digits are none of -/

theorem isFloat_of_sign (hsign : sign cs = (negative, ds)) (h : Text.IsDigits ds) : isFloat cs = false := by
  have hmantissa : ds.takeWhile (!isExponentMark ·) = ds ∧ ds.dropWhile (!isExponentMark ·) = [] := by
    have hall : ∀ c ∈ ds, (!isExponentMark c) = true := by
      intro c hc
      have hlower : c ≠ 'e' := fun he => notMem_of_isDigits (by decide) h (he ▸ hc)
      have hupper : c ≠ 'E' := fun he => notMem_of_isDigits (by decide) h (he ▸ hc)
      simp [isExponentMark, hlower, hupper]
    exact ⟨List.takeWhile_eq_self_iff.2 hall, List.dropWhile_eq_nil_iff.2 hall⟩
  have hpoint : ds.dropWhile (· != '.') = [] := by
    refine List.dropWhile_eq_nil_iff.2 fun c hc => bne_iff_ne.2 ?_
    exact fun he => notMem_of_isDigits (by decide) h (he ▸ hc)
  have hinfinite : ds ≠ ['i', 'n', 'f'] := fun he => notMem_of_isDigits (d := 'i') (by decide) h (by simp [he])
  have hnone : ds ≠ ['n', 'a', 'n'] := fun he => notMem_of_isDigits (d := 'n') (by decide) h (by simp [he])
  simp [isFloat, hsign, hmantissa, hpoint, hinfinite, hnone]

/-- A date has a hyphen behind its first character. -/
theorem date?_of_notMem (h : '-' ∉ cs.tail) : date? cs = none := by
  unfold date?
  split
  · exact absurd (by simp) h
  · rfl

/-- A time has a colon. -/
theorem time?_of_notMem (h : ':' ∉ cs) : time? cs = none := by
  have hclock : hourMinute? cs = none := by
    unfold hourMinute?
    split
    · exact absurd (by simp) h
    · rfl
  rw [time?, hclock]

/-! ## Integers as tokens -/

namespace IsDecimal

theorem exists_sign (h : IsDecimal z cs) :
    ∃ negative n, sign cs = (negative, Nat.toDigits 10 n) ∧ z = if negative then -(n : Int) else n := by
  cases h with
  | unsigned n => exact ⟨false, n, sign_of_isDigits (Json.isDigits_toDigits n), rfl⟩
  | minus n => exact ⟨true, n, rfl, rfl⟩

/-- All that stands in a numeral are digits, and a minus sign in front of them. -/
theorem isDigit_or (h : IsDecimal z cs) : cs ≠ [] ∧ ∀ c ∈ cs, c.isDigit = true ∨ c = '-' := by
  cases h with
  | unsigned n => exact ⟨Nat.toDigits_ne_nil, fun c hc => Or.inl ((Json.isDigits_toDigits n).2 c hc)⟩
  | minus n =>
    refine ⟨List.cons_ne_nil _ _, fun c hc => ?_⟩
    rcases List.mem_cons.1 hc with rfl | hc
    · exact Or.inr rfl
    · exact Or.inl ((Json.isDigits_toDigits n).2 c hc)

theorem notMem {d : Char} (h : IsDecimal z cs) (hd : d.isDigit = false) (hsign : d ≠ '-') : d ∉ cs := by
  intro hin
  rcases h.isDigit_or.2 d hin with hdigit | rfl
  · rw [hd] at hdigit
    cases hdigit
  · exact hsign rfl

theorem hyphen_notMem_tail (h : IsDecimal z cs) : '-' ∉ cs.tail := by
  cases h with
  | unsigned n =>
    exact fun hin => notMem_of_isDigits (by decide) (Json.isDigits_toDigits n) (List.mem_of_mem_tail hin)
  | minus n => exact notMem_of_isDigits (by decide) (Json.isDigits_toDigits n)

theorem isTokenChar_eq (h : IsDecimal z cs) : ∀ c ∈ cs, isTokenChar c = true := by
  intro c hc
  rcases h.isDigit_or.2 c hc with hdigit | rfl
  · simp [isTokenChar, Char.isAlphanum, hdigit]
  · decide

/-- A decimal numeral is none in another base, and so it is an integer if it takes no more than 64 bits. -/
theorem integer?_eq (h : IsDecimal z cs) : integer? cs = int64? z := by
  have hbase : ∀ mark : Char, mark.isDigit = false → mark ≠ '-' → ∀ tail, cs ≠ '0' :: mark :: tail := by
    rintro mark hdigit hsign tail rfl
    exact h.notMem hdigit hsign (by simp)
  obtain ⟨negative, n, hsign, rfl⟩ := h.exists_sign
  unfold integer?
  split
  · exact absurd rfl (hbase 'x' (by decide) (by decide) _)
  · exact absurd rfl (hbase 'o' (by decide) (by decide) _)
  · exact absurd rfl (hbase 'b' (by decide) (by decide) _)
  · rw [hsign, decimal?_toDigits, Option.bind_some]

/-- A decimal numeral stands for its integer, or for nothing if that takes more than 64 bits. -/
theorem scalar?_eq (h : IsDecimal z cs) : scalar? cs = (int64? z).map .integer := by
  have hword : ∀ c : Char, c.isDigit = false → c ≠ '-' → ∀ tail, cs ≠ c :: tail := by
    rintro c hdigit hsign tail rfl
    exact h.notMem hdigit hsign List.mem_cons_self
  have hfloat : isFloat cs = false := by
    obtain ⟨negative, n, hsign, -⟩ := h.exists_sign
    exact isFloat_of_sign hsign (Json.isDigits_toDigits n)
  have htime : isDateTime cs = false := by
    simp [isDateTime, date?_of_notMem h.hyphen_notMem_tail, time?_of_notMem (h.notMem (by decide) (by decide))]
  rw [scalar?, if_neg (hword 't' (by decide) (by decide) _), if_neg (hword 'f' (by decide) (by decide) _),
    h.integer?_eq]
  cases int64? z with
  | some n => rfl
  | none => simp [hfloat, htime]

/-- A decimal numeral is a token, unless more of one follows. -/
theorem token_eq (h : IsDecimal z cs) (hrest : ∀ c ∈ rest.head?, isTokenChar c = false) :
    token (cs ++ rest) = (cs, rest) := by
  obtain ⟨htake, hdrop⟩ := Text.takeWhile_row h.isTokenChar_eq hrest
  simp only [token, htake, hdrop, date?_of_notMem h.hyphen_notMem_tail]

/-- Where a value stands, a decimal numeral is read as its integer, unless that takes more than 64 bits. -/
theorem readValue_eq (h : IsDecimal z cs) (hrest : ∀ c ∈ rest.head?, isTokenChar c = false) (depth : Nat) :
    readValue depth (cs ++ rest) = (int64? z).map fun n => (.integer n, rest) := by
  have hne : ∀ d : Char, isTokenChar d = false → ∀ tail, cs ++ rest ≠ d :: tail := by
    intro d hd tail heq
    obtain ⟨c, cs, rfl⟩ := List.exists_cons_of_ne_nil h.isDigit_or.1
    rw [← (List.cons.inj heq).1, h.isTokenChar_eq c List.mem_cons_self] at hd
    cases hd
  unfold readValue
  split
  · exact absurd ‹_› (hne _ (by decide) _)
  · exact absurd ‹_› (hne _ (by decide) _)
  · exact absurd ‹_› (hne _ (by decide) _)
  · exact absurd ‹_› (hne _ (by decide) _)
  · rw [h.token_eq hrest, h.scalar?_eq, Option.map_map]
    rfl

end IsDecimal

end DocRunner.Toml
