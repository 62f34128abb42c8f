import DocRunner.Json.Text
import Mathlib.Data.List.Forall2

/-!
# How JSON texts are written

* `IsHexCode n code` : `code` is four hexadecimal digits for `n`, in upper or lower case;
* `Quotes cs text` : between quotes, `text` stands for the characters `cs`. Each may be written as it is,
  unless it is a control, a quote or a backslash, or with an escape; one beyond the first 65536 has an escape
  for each half of its pair;
* `Quoted s cs` : `cs` is such a text for `s` with its quotes;
* `IsBody text` : `text` may stand between quotes, whether or not it stands for characters;
* `readText_of_quotes`, `skipText_of_isBody` : what is written is read back, and passed over as a whole.
-/

namespace DocRunner.Json

open Toml (hexValue? hexValueAfter? charOfCode? consChar)

/-- The letters of the short escapes, with the characters that they stand for. -/
def escapes : List (Char × Char) :=
  [('\x22', '\x22'), ('\\', '\\'), ('/', '/'), ('b', '\x08'), ('f', '\x0c'), ('n', '\n'), ('r', '\r'),
    ('t', '\t')]

/-- A hexadecimal digit of a value, in upper or lower case. -/
def IsHexDigit (d : Nat) (c : Char) : Prop := c = d.digitChar ∨ c = d.digitChar.toUpper

/-- Four hexadecimal digits for a number. -/
def IsHexCode (n : Nat) (code : List Char) : Prop :=
  n < 0x10000 ∧ List.Forall₂ IsHexDigit [n / 0x1000, n / 0x100 % 0x10, n / 0x10 % 0x10, n % 0x10] code

/-- A text stands for characters. -/
inductive Quotes : List Char → List Char → Prop
  | nil : Quotes [] []
  | plain {c : Char} {cs text : List Char} (hcontrol : 0x20 ≤ c.toNat) (hquote : c ≠ '\x22') (hback : c ≠ '\\')
      (h : Quotes cs text) : Quotes (c :: cs) (c :: text)
  | short {letter c : Char} {cs text : List Char} (hletter : (letter, c) ∈ escapes) (h : Quotes cs text) :
      Quotes (c :: cs) ('\\' :: letter :: text)
  | code {c : Char} {code cs text : List Char} (hcode : IsHexCode c.toNat code) (h : Quotes cs text) :
      Quotes (c :: cs) ('\\' :: 'u' :: (code ++ text))
  | pair {c : Char} {high low cs text : List Char} (hwide : 0x10000 ≤ c.toNat)
      (hhigh : IsHexCode (0xD800 + (c.toNat - 0x10000) / 0x400) high)
      (hlow : IsHexCode (0xDC00 + (c.toNat - 0x10000) % 0x400) low) (h : Quotes cs text) :
      Quotes (c :: cs) ('\\' :: 'u' :: (high ++ '\\' :: 'u' :: (low ++ text)))

/-- A text may stand between quotes. -/
inductive IsBody : List Char → Prop
  | nil : IsBody []
  | plain {c : Char} {text : List Char} (hcontrol : 0x20 ≤ c.toNat) (hquote : c ≠ '\x22') (hback : c ≠ '\\')
      (h : IsBody text) : IsBody (c :: text)
  | short {letter c : Char} {text : List Char} (hletter : (letter, c) ∈ escapes) (h : IsBody text) :
      IsBody ('\\' :: letter :: text)
  | code {n : Nat} {code text : List Char} (hcode : IsHexCode n code) (h : IsBody text) :
      IsBody ('\\' :: 'u' :: (code ++ text))

/-- A text in quotes stands for a string. -/
def Quoted (s : String) (cs : List Char) : Prop :=
  ∃ text, Quotes s.toList text ∧ cs = '\x22' :: (text ++ ['\x22'])

variable {c letter : Char} {n : Nat} {code cs text : List Char}

/-! ## Characters -/

theorem isPlain_of (hcontrol : 0x20 ≤ c.toNat) (hquote : c ≠ '\x22') (hback : c ≠ '\\') : isPlain c = true := by
  simp [isPlain, hcontrol, hquote, hback]

theorem shortEscape?_of_mem (h : (letter, c) ∈ escapes) : shortEscape? letter = some c ∧ letter ≠ 'u' := by
  simp only [escapes, List.mem_cons, Prod.mk.injEq, List.not_mem_nil, or_false] at h
  rcases h with ⟨rfl, rfl⟩ | ⟨rfl, rfl⟩ | ⟨rfl, rfl⟩ | ⟨rfl, rfl⟩ | ⟨rfl, rfl⟩ | ⟨rfl, rfl⟩ |
    ⟨rfl, rfl⟩ | ⟨rfl, rfl⟩
  all_goals decide

theorem hexValue?_of_isHexDigit {d : Nat} (hd : d < 0x10) (h : IsHexDigit d c) : hexValue? c = some d := by
  have hall : ∀ d < 0x10, hexValue? (Nat.digitChar d) = some d ∧
      hexValue? (Nat.digitChar d).toUpper = some d := by decide
  rcases h with rfl | rfl
  · exact (hall d hd).1
  · exact (hall d hd).2

theorem hexValueAfter?_of_isHexCode (h : IsHexCode n code) :
    ∃ a b c d, code = [a, b, c, d] ∧ hexValueAfter? 0 [a, b, c, d] = some n := by
  obtain ⟨hn, h⟩ := h
  rcases h with _ | ⟨ha, _ | ⟨hb, _ | ⟨hc, _ | ⟨hd, _ | _⟩⟩⟩⟩
  refine ⟨_, _, _, _, rfl, ?_⟩
  simp only [hexValueAfter?, hexValue?_of_isHexDigit (by omega) ha, hexValue?_of_isHexDigit (by omega) hb,
    hexValue?_of_isHexDigit (by omega) hc, hexValue?_of_isHexDigit (by omega) hd, Option.bind_some,
      Option.some.injEq]
  omega

theorem charOfCode?_toNat (c : Char) : charOfCode? c.toNat = some c := by
  rw [charOfCode?, dif_pos (show c.toNat.isValidChar from c.valid)]
  rfl

/-- A character is no half of a pair. -/
theorem isHighSurrogate_toNat (c : Char) : isHighSurrogate c.toNat = false := by
  have hc : c.toNat.isValidChar := c.valid
  simp only [isHighSurrogate, Bool.and_eq_false_iff, decide_eq_false_iff_not]
  rcases hc with hlt | ⟨hgt, -⟩ <;> omega

/-! ## Reading and passing over -/

theorem readText_code (h : IsHexCode c.toNat code) (text : List Char) :
    readText ('\\' :: 'u' :: (code ++ text)) = consChar c (readText text) := by
  obtain ⟨x, y, z, w, rfl, hvalue⟩ := hexValueAfter?_of_isHexCode h
  simp only [List.cons_append, List.nil_append, readText, hvalue, isHighSurrogate_toNat, charOfCode?_toNat]
  rfl

/-- The halves of a pair give the character back. -/
theorem isHighSurrogate_and_pairCode? {high low : Nat} (hwide : 0x10000 ≤ c.toNat)
    (hhigh : high = 0xD800 + (c.toNat - 0x10000) / 0x400) (hlow : low = 0xDC00 + (c.toNat - 0x10000) % 0x400) :
    isHighSurrogate high = true ∧ pairCode? high low = some c.toNat := by
  have hmax : c.toNat < 0x110000 := by
    have hc : c.toNat.isValidChar := c.valid
    rcases hc with hlt | ⟨-, hlt⟩ <;> omega
  constructor
  · simp only [isHighSurrogate, Bool.and_eq_true, decide_eq_true_eq]
    omega
  · rw [pairCode?, if_pos (by omega), Option.some.injEq]
    omega

theorem readText_pair {high low : List Char} (hwide : 0x10000 ≤ c.toNat)
    (hhigh : IsHexCode (0xD800 + (c.toNat - 0x10000) / 0x400) high)
    (hlow : IsHexCode (0xDC00 + (c.toNat - 0x10000) % 0x400) low) (text : List Char) :
    readText ('\\' :: 'u' :: (high ++ '\\' :: 'u' :: (low ++ text))) = consChar c (readText text) := by
  obtain ⟨n, hn⟩ : ∃ n, n = 0xD800 + (c.toNat - 0x10000) / 0x400 := ⟨_, rfl⟩
  obtain ⟨m, hm⟩ : ∃ m, m = 0xDC00 + (c.toNat - 0x10000) % 0x400 := ⟨_, rfl⟩
  rw [← hn] at hhigh
  rw [← hm] at hlow
  obtain ⟨x, y, z, w, rfl, hhighValue⟩ := hexValueAfter?_of_isHexCode hhigh
  obtain ⟨x', y', z', w', rfl, hlowValue⟩ := hexValueAfter?_of_isHexCode hlow
  obtain ⟨hsurrogate, hcode⟩ := isHighSurrogate_and_pairCode? hwide hn hm
  simp only [List.cons_append, List.nil_append, readText, hhighValue, hlowValue, hsurrogate, hcode,
    Option.bind_some, charOfCode?_toNat, if_true]

/-- What is written is read back. -/
theorem readText_of_quotes (h : Quotes cs text) (rest : List Char) :
    readText (text ++ '\x22' :: rest) = some (cs, rest) := by
  induction h with
  | nil => rfl
  | plain hcontrol hquote hback h ih =>
    rw [List.cons_append, readText, if_pos (isPlain_of hcontrol hquote hback), ih]
    · rfl
    all_goals simp_all
  | short hletter h ih =>
    obtain ⟨hvalue, hne⟩ := shortEscape?_of_mem hletter
    rw [List.cons_append, List.cons_append, readText, hvalue, Option.bind_some, ih]
    · rfl
    all_goals simp_all
  | code hcode h ih =>
    rw [List.cons_append, List.cons_append, List.append_assoc, readText_code hcode, ih]
    rfl
  | pair hwide hhigh hlow h ih =>
    rw [List.cons_append, List.cons_append, List.append_assoc, List.cons_append, List.cons_append,
      List.append_assoc, readText_pair hwide hhigh hlow, ih]
    rfl

theorem readText_of_quoted {s : String} (h : Quoted s cs) (rest : List Char) :
    ∃ tail, cs ++ rest = '\x22' :: tail ∧ readText tail = some (s.toList, rest) := by
  obtain ⟨text, htext, rfl⟩ := h
  refine ⟨text ++ '\x22' :: rest, ?_, readText_of_quotes htext rest⟩
  rw [List.cons_append, List.append_assoc]
  rfl

/-- What stands for characters may stand between quotes. -/
theorem Quotes.isBody (h : Quotes cs text) : IsBody text := by
  induction h with
  | nil => exact .nil
  | plain hcontrol hquote hback h ih => exact .plain hcontrol hquote hback ih
  | short hletter h ih => exact .short hletter ih
  | code hcode h ih => exact .code hcode ih
  | pair hwide hhigh hlow h ih => exact .code hhigh (.code hlow ih)

theorem skipText_of_isBody (h : IsBody text) (rest : List Char) :
    skipText (text ++ '\x22' :: rest) = some rest := by
  induction h with
  | nil => rfl
  | plain hcontrol hquote hback h ih =>
    rw [List.cons_append, skipText, if_pos (isPlain_of hcontrol hquote hback), ih]
    all_goals simp_all
  | short hletter h ih =>
    obtain ⟨hvalue, hne⟩ := shortEscape?_of_mem hletter
    rw [List.cons_append, List.cons_append, skipText, if_pos (by rw [hvalue]; rfl), ih]
    all_goals simp_all
  | code hcode h ih =>
    obtain ⟨a, b, c, d, rfl, hvalue⟩ := hexValueAfter?_of_isHexCode hcode
    simp only [List.cons_append, List.nil_append, skipText, hvalue, Option.isSome_some, if_true, ih]

/-! ## All characters can be written -/

theorem exists_isHexCode (h : n < 0x10000) : ∃ code, IsHexCode n code :=
  ⟨[_, _, _, _], h, .cons (Or.inl rfl) (.cons (Or.inl rfl) (.cons (Or.inl rfl) (.cons (Or.inl rfl) .nil)))⟩

theorem lineFeed_notMem_of_isHexCode (h : IsHexCode n code) : '\n' ∉ code := by
  have hall : ∀ d < 0x10, Nat.digitChar d ≠ '\n' ∧ (Nat.digitChar d).toUpper ≠ '\n' := by decide
  have hdigit : ∀ {d c}, d < 0x10 → IsHexDigit d c → '\n' ≠ c := by
    rintro d c hd (rfl | rfl)
    · exact (hall d hd).1.symm
    · exact (hall d hd).2.symm
  obtain ⟨hn, h⟩ := h
  rcases h with _ | ⟨ha, _ | ⟨hb, _ | ⟨hc, _ | ⟨hd, _ | _⟩⟩⟩⟩
  simp only [List.mem_cons, List.not_mem_nil, or_false, not_or]
  exact ⟨hdigit (by omega) ha, hdigit (by omega) hb, hdigit (by omega) hc, hdigit (by omega) hd⟩

/-- Any characters can be written, and on one line. -/
theorem exists_quotes (cs : List Char) : ∃ text, Quotes cs text ∧ '\n' ∉ text := by
  induction cs with
  | nil => exact ⟨[], .nil, List.not_mem_nil⟩
  | cons c cs ih =>
    obtain ⟨text, htext, hline⟩ := ih
    by_cases hplain : 0x20 ≤ c.toNat ∧ c ≠ '\x22' ∧ c ≠ '\\'
    · obtain ⟨hcontrol, hquote, hback⟩ := hplain
      have hc : c ≠ '\n' := by
        rintro rfl
        exact absurd hcontrol (by decide)
      exact ⟨_, .plain hcontrol hquote hback htext, List.not_mem_cons_of_ne_of_not_mem hc.symm hline⟩
    · have hsmall : c.toNat < 0x10000 := by
        by_contra hlarge
        refine hplain ⟨by omega, ?_, ?_⟩
        · rintro rfl
          exact hlarge (by decide)
        · rintro rfl
          exact hlarge (by decide)
      obtain ⟨code, hcode⟩ := exists_isHexCode hsmall
      refine ⟨_, .code hcode htext, ?_⟩
      simp [lineFeed_notMem_of_isHexCode hcode, hline]

/-- A string of plain characters may be written as it is. -/
theorem quoted_of_plain {s : String} (h : s.toList.all isPlain = true) :
    Quoted s ('\x22' :: (s.toList ++ ['\x22'])) := by
  refine ⟨s.toList, ?_, rfl⟩
  generalize s.toList = cs at h
  induction cs with
  | nil => exact .nil
  | cons c cs ih =>
    simp only [List.all_cons, Bool.and_eq_true, isPlain, decide_eq_true_eq, bne_iff_ne] at h
    exact .plain h.1.1.1 h.1.1.2 h.1.2 (ih h.2)

theorem exists_quoted (s : String) : ∃ cs, Quoted s cs ∧ '\n' ∉ cs := by
  obtain ⟨text, htext, hline⟩ := exists_quotes s.toList
  exact ⟨_, ⟨text, htext, rfl⟩, by simp [hline]⟩

end DocRunner.Json
