import DocRunner.Proofs.Json.Text
import DocRunner.Proofs.Toml.Integer

/-!
# How TOML values are written

* `Quotes cs text` : between double quotes, `text` stands for the characters `cs`. Each may be written as
  it is, unless it is a control, a quote or a backslash, or with an escape, by a letter or by its code in
  four or in eight digits;
* `Quoted s cs` : `cs` is such a text for `s` with its quotes;
* `Value.Writes v cs` : `cs` is a text in quotes or a decimal integer for `v`;
* `readValue_of_writes` : what is written is read back, and nothing that follows.
-/

namespace DocRunner.Toml

open Json (IsHexCode)

/-- The letters of the short escapes, with the characters that they stand for. -/
def escapes : List (Char × Char) :=
  [('b', '\x08'), ('t', '\t'), ('n', '\n'), ('f', '\x0c'), ('r', '\r'), ('\x22', '\x22'), ('\\', '\\')]

/-- Whether a character may stand between double quotes as it is. -/
def IsPlain (c : Char) : Prop := 0x20 ≤ c.toNat ∧ c.toNat ≠ 0x7F ∧ c ≠ '\x22' ∧ c ≠ '\\'

/-- A text stands for characters. -/
inductive Quotes : List Char → List Char → Prop
  | nil : Quotes [] []
  | plain {c : Char} {cs text : List Char} (hplain : IsPlain c) (h : Quotes cs text) :
      Quotes (c :: cs) (c :: text)
  | short {letter c : Char} {cs text : List Char} (hletter : (letter, c) ∈ escapes) (h : Quotes cs text) :
      Quotes (c :: cs) ('\\' :: letter :: text)
  | code {c : Char} {code cs text : List Char} (hcode : IsHexCode c.toNat code) (h : Quotes cs text) :
      Quotes (c :: cs) ('\\' :: 'u' :: (code ++ text))
  | longCode {c : Char} {high low cs text : List Char} (hhigh : IsHexCode (c.toNat / 0x10000) high)
      (hlow : IsHexCode (c.toNat % 0x10000) low) (h : Quotes cs text) :
      Quotes (c :: cs) ('\\' :: 'U' :: (high ++ (low ++ text)))

/-- A text in double quotes stands for a string. -/
def Quoted (s : String) (cs : List Char) : Prop :=
  ∃ text, Quotes s.toList text ∧ cs = '\x22' :: (text ++ ['\x22'])

/-- How texts and integers are written. -/
inductive Value.Writes : Value → List Char → Prop
  | string {s : String} {cs : List Char} (h : Quoted s cs) : Writes (.string s) cs
  | integer {n : Nat} (h : n < Text.int64Bound) : Writes (.integer n) (Nat.toDigits 10 n)

/-- A text does not go on with a value in front of it. -/
def EndsValue (rest : List Char) : Prop := ∀ c ∈ rest.head?, isTokenChar c = false ∧ c ≠ '\x22'

variable {c letter : Char} {code cs rest text : List Char}

/-! ## Characters -/

theorem isTextChar_of_isPlain (h : IsPlain c) : isTextChar c = true := by
  simp [isTextChar, h.1, h.2.1]

theorem shortEscape?_of_mem (h : (letter, c) ∈ escapes) :
    shortEscape? letter = some c ∧ letter ≠ 'u' ∧ letter ≠ 'U' := by
  simp only [escapes, List.mem_cons, Prod.mk.injEq, List.not_mem_nil, or_false] at h
  rcases h with ⟨rfl, rfl⟩ | ⟨rfl, rfl⟩ | ⟨rfl, rfl⟩ | ⟨rfl, rfl⟩ | ⟨rfl, rfl⟩ |
    ⟨rfl, rfl⟩ | ⟨rfl, rfl⟩
  all_goals decide

/-- Digits in front of others count by the place that those leave them. -/
theorem hexValueAfter?_add (m n : Nat) (cs : List Char) :
    hexValueAfter? (m + n) cs = (hexValueAfter? n cs).map (m * 16 ^ cs.length + ·) := by
  induction cs generalizing m n with
  | nil => simp [hexValueAfter?]
  | cons c cs ih =>
    rw [hexValueAfter?, hexValueAfter?]
    cases hexValue? c with
    | none => rfl
    | some d =>
      have hsplit : 16 * (m + n) + d = 16 * m + (16 * n + d) := by omega
      rw [Option.bind_some, Option.bind_some, hsplit, ih, List.length_cons, Nat.pow_succ]
      congr 2
      rw [Nat.mul_comm 16 m, Nat.mul_assoc, Nat.mul_comm 16]

theorem hexValueAfter?_append (n : Nat) (cs ds : List Char) :
    hexValueAfter? n (cs ++ ds) = (hexValueAfter? n cs).bind fun m => hexValueAfter? m ds := by
  induction cs generalizing n with
  | nil => rfl
  | cons c cs ih =>
    rw [List.cons_append, hexValueAfter?, hexValueAfter?, Option.bind_assoc]
    exact congrArg _ (funext fun d => ih _)

/-- Two codes one behind the other are the code of the character whose halves they are. -/
theorem charOfHex?_append {high low : List Char} (hhigh : IsHexCode (c.toNat / 0x10000) high)
    (hlow : IsHexCode (c.toNat % 0x10000) low) : charOfHex? (high ++ low) = some c := by
  obtain ⟨x, y, z, w, rfl, hhighValue⟩ := Json.hexValueAfter?_of_isHexCode hhigh
  obtain ⟨x', y', z', w', rfl, hlowValue⟩ := Json.hexValueAfter?_of_isHexCode hlow
  have hplace := hexValueAfter?_add (c.toNat / 0x10000) 0 [x', y', z', w']
  have hwhole : c.toNat / 0x10000 * 16 ^ 4 + c.toNat % 0x10000 = c.toNat := by omega
  rw [Nat.add_zero, hlowValue, Option.map_some, List.length_cons, List.length_cons, List.length_cons,
    List.length_cons, List.length_nil, hwhole] at hplace
  rw [charOfHex?, hexValueAfter?_append, hhighValue, Option.bind_some, hplace, Option.bind_some,
    Json.charOfCode?_toNat]

/-! ## Texts -/

theorem basicText_code (h : IsHexCode c.toNat code) (text : List Char) :
    basicText ('\\' :: 'u' :: (code ++ text)) = consChar c (basicText text) := by
  obtain ⟨x, y, z, w, rfl, hvalue⟩ := Json.hexValueAfter?_of_isHexCode h
  simp only [List.cons_append, List.nil_append, basicText, charOfHex?, hvalue, Option.bind_some,
    Json.charOfCode?_toNat]

theorem basicText_longCode {high low : List Char} (hhigh : IsHexCode (c.toNat / 0x10000) high)
    (hlow : IsHexCode (c.toNat % 0x10000) low) (text : List Char) :
    basicText ('\\' :: 'U' :: (high ++ (low ++ text))) = consChar c (basicText text) := by
  have hvalue := charOfHex?_append hhigh hlow
  obtain ⟨x, y, z, w, rfl, -⟩ := Json.hexValueAfter?_of_isHexCode hhigh
  obtain ⟨x', y', z', w', rfl, -⟩ := Json.hexValueAfter?_of_isHexCode hlow
  rw [List.cons_append, List.cons_append, List.cons_append, List.cons_append, List.nil_append] at hvalue
  simp only [List.cons_append, List.nil_append, basicText, hvalue, Option.bind_some]

/-- What is written is read back. -/
theorem basicText_of_quotes (h : Quotes cs text) (rest : List Char) :
    basicText (text ++ '\x22' :: rest) = some (cs, rest) := by
  induction h with
  | nil => rfl
  | @plain c cs text hplain h ih =>
    have hchar : (isTextChar c && c != '\\') = true := by simp [isTextChar_of_isPlain hplain, hplain.2.2.2]
    rw [List.cons_append, basicText, if_pos hchar, ih]
    · rfl
    · exact hplain.2.2.1
    all_goals
      intros
      exact absurd ‹c = '\\'› hplain.2.2.2
  | short hletter h ih =>
    obtain ⟨hvalue, hu, hU⟩ := shortEscape?_of_mem hletter
    rw [List.cons_append, List.cons_append, basicText, hvalue, Option.bind_some, ih]
    · rfl
    · intros
      exact absurd ‹_› hu
    · intros
      exact absurd ‹_› hU
  | code hcode h ih =>
    rw [List.cons_append, List.cons_append, List.append_assoc, basicText_code hcode, ih]
    rfl
  | longCode hhigh hlow h ih =>
    rw [List.cons_append, List.cons_append, List.append_assoc, List.append_assoc,
      basicText_longCode hhigh hlow, ih]
    rfl

/-- No text starts with a quote. -/
theorem Quotes.head_ne (h : Quotes cs text) : text.head? ≠ some '\x22' := by
  cases h with
  | nil => exact fun hc => nomatch hc
  | plain hplain h => exact fun hc => hplain.2.2.1 (Option.some.inj hc)
  | _ => exact fun hc => absurd (Option.some.inj hc) (by decide)

/-- A text in quotes is read back, unless a further quote makes it start a text over lines. -/
theorem quotedText_of_quoted {s : String} (h : Quoted s cs) (hrest : rest.head? ≠ some '\x22') :
    quotedText (cs ++ rest) = some (s.toList, rest) := by
  obtain ⟨text, htext, rfl⟩ := h
  rw [List.cons_append, List.append_assoc, List.singleton_append, quotedText, basicText_of_quotes htext]
  intro ds hds
  cases text with
  | nil =>
    cases hds
    exact hrest rfl
  | cons c text => exact htext.head_ne (congrArg some (List.cons.inj hds).1)

/-! ## Values -/

/-- What is written is read back, and nothing that follows. -/
theorem readValue_of_writes {v : Value} (h : v.Writes cs) (hrest : EndsValue rest) (depth : Nat) :
    readValue depth (cs ++ rest) = some (v, rest) := by
  cases h with
  | @string s cs h =>
    have hquote : rest.head? ≠ some '\x22' := fun hc => (hrest _ hc).2 rfl
    have hread := quotedText_of_quoted h hquote
    obtain ⟨text, -, rfl⟩ := h
    rw [List.cons_append] at hread ⊢
    unfold readValue
    rw [hread, Option.map_some, String.ofList_toList]
    rfl
  | @integer n h =>
    rw [(IsDecimal.unsigned n).readValue_eq (fun c hc => (hrest c hc).1),
      int64?_of_nonneg (Int.natCast_nonneg n) (by omega)]
    rfl

/-! ## All texts can be written -/

/-- Any string can be written. -/
theorem exists_quoted (s : String) : ∃ cs, Quoted s cs := by
  suffices h : ∃ text, Quotes s.toList text by
    obtain ⟨text, htext⟩ := h
    exact ⟨_, text, htext, rfl⟩
  induction s.toList with
  | nil => exact ⟨[], .nil⟩
  | cons c cs ih =>
    obtain ⟨text, htext⟩ := ih
    have hmax : c.toNat < 0x110000 := by
      have hc : c.toNat.isValidChar := c.valid
      rcases hc with hlt | ⟨-, hlt⟩ <;> omega
    obtain ⟨high, hhigh⟩ := Json.exists_isHexCode (show c.toNat / 0x10000 < 0x10000 by omega)
    obtain ⟨low, hlow⟩ := Json.exists_isHexCode (show c.toNat % 0x10000 < 0x10000 by omega)
    exact ⟨_, .longCode hhigh hlow htext⟩

end DocRunner.Toml
