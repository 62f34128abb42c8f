import DocRunner.Json.Skip
import DocRunner.Proofs.Json.Numeral
import DocRunner.Proofs.Json.Text
import Mathlib.Tactic.Tauto

/-!
# How JSON values are written

* `Spaces sp` : `sp` is white space, which may be missing;
* `IsJson .value cs` : `cs` is a value, without white space around it. `IsJson (.items b) cs` : `cs` is what
  stands between the brackets `b` of an array or object that is not empty, the white space around it included;
* `skipFrom_of_isJson` : from the start of a value or of items, the skipper gets behind them, in at most as many
  steps as they have characters;
* `skipValue_of_isJson` : a value is passed over as a whole.
-/

namespace DocRunner.Json

/-- White space, which may be missing. -/
def Spaces (sp : List Char) : Prop := ∀ c ∈ sp, c ∈ [' ', '\n', '\t', '\r']

namespace Bracket

/-- The bracket that opens. -/
def opening : Bracket → Char
  | array => '['
  | object => '\x7b'

/-- The bracket that closes. -/
def closing : Bracket → Char
  | array => ']'
  | object => '\x7d'

end Bracket

/-- What stands in front of a value between brackets: white space, and in an object a key and a colon. -/
inductive Lead : Bracket → List Char → Prop
  | array {sp : List Char} (hsp : Spaces sp) : Lead .array sp
  | object {sp₁ body sp₂ sp₃ : List Char} (h₁ : Spaces sp₁) (hbody : IsBody body) (h₂ : Spaces sp₂)
      (h₃ : Spaces sp₃) : Lead .object (sp₁ ++ '\x22' :: (body ++ '\x22' :: (sp₂ ++ ':' :: sp₃)))

/-- What a piece of a text is: a value, or all that stands between brackets that are not empty. -/
inductive Part
  | value
  | items (b : Bracket)

/-- A piece of a text is well formed. -/
inductive IsJson : Part → List Char → Prop
  | word {word : String} (h : word = "null" ∨ word = "true" ∨ word = "false") : IsJson .value word.toList
  | numeral {cs : List Char} (h : IsNumeral cs) : IsJson .value cs
  | text {body : List Char} (h : IsBody body) : IsJson .value ('\x22' :: (body ++ ['\x22']))
  | empty (b : Bracket) {sp : List Char} (hsp : Spaces sp) : IsJson .value (b.opening :: (sp ++ [b.closing]))
  | filled {b : Bracket} {cs : List Char} (h : IsJson (.items b) cs) :
      IsJson .value (b.opening :: (cs ++ [b.closing]))
  | last {b : Bracket} {lead cs sp : List Char} (hlead : Lead b lead) (h : IsJson .value cs) (hsp : Spaces sp) :
      IsJson (.items b) (lead ++ (cs ++ sp))
  | more {b : Bracket} {lead cs sp ds : List Char} (hlead : Lead b lead) (h : IsJson .value cs) (hsp : Spaces sp)
      (hmore : IsJson (.items b) ds) : IsJson (.items b) (lead ++ (cs ++ (sp ++ ',' :: ds)))

variable {b : Bracket} {part : Part} {c : Char} {cs lead rest sp : List Char} {stack : List Bracket} {n : Nat}

/-! ## White space -/

theorem skipSpaces_append (hsp : Spaces sp) (rest : List Char) : skipSpaces (sp ++ rest) = skipSpaces rest := by
  refine List.dropWhile_append_of_pos fun c hc => ?_
  simpa [or_assoc] using hsp c hc

theorem skipSpaces_cons (hc : c ∉ [' ', '\n', '\t', '\r']) (cs : List Char) : skipSpaces (c :: cs) = c :: cs := by
  rw [skipSpaces, List.dropWhile_cons_of_neg]
  simpa [or_assoc] using hc

/-- What follows a value: white space, a comma or a bracket that closes. -/
def EndsValue (rest : List Char) : Prop := ∀ c ∈ rest.head?, c ∈ [' ', '\n', '\t', '\r', ',', ']', '\x7d']

theorem EndsValue.endsNumeral (h : EndsValue rest) : EndsNumeral rest := by
  intro c hc
  have hend := h c hc
  simp only [List.mem_cons, List.not_mem_nil, or_false] at hend
  rcases hend with rfl | rfl | rfl | rfl | rfl | rfl | rfl <;> decide

theorem endsValue_spaces_append (hsp : Spaces sp) (hc : c ∈ [',', ']', '\x7d']) (rest : List Char) :
    EndsValue (sp ++ c :: rest) := by
  intro d hd
  cases sp with
  | nil =>
    cases hd
    simp only [List.mem_cons, List.not_mem_nil, or_false] at hc ⊢
    tauto
  | cons _ sp =>
    cases hd
    have hs := hsp d List.mem_cons_self
    simp only [List.mem_cons, List.not_mem_nil, or_false] at hs ⊢
    tauto

theorem closing_mem (b : Bracket) : b.closing ∈ [',', ']', '\x7d'] := by
  cases b <;> decide

/-! ## The start of a value -/

theorem numeralStart_ne (h : c = '-' ∨ c.isDigit = true) :
    c ∉ [' ', '\n', '\t', '\r'] ∧ c ≠ ']' ∧ c ≠ '\x7d' ∧ c ∉ ['[', '\x7b', '\x22', 't', 'f', 'n'] := by
  have hne : ∀ d : Char, d ≠ '-' → d.isDigit = false → c ≠ d := by
    rintro d hminus hdigit rfl
    rcases h with rfl | hc
    · exact hminus rfl
    · rw [hdigit] at hc
      cases hc
  simp only [List.mem_cons, List.not_mem_nil, or_false, not_or]
  refine ⟨⟨?_, ?_, ?_, ?_⟩, ?_, ?_, ?_, ?_, ?_, ?_, ?_, ?_⟩ <;> exact hne _ (by decide) (by decide)

/-- A value starts with a character that is no white space and closes nothing. -/
theorem IsJson.exists_start (h : IsJson .value cs) :
    ∃ c tail, cs = c :: tail ∧ c ∉ [' ', '\n', '\t', '\r'] ∧ c ≠ ']' ∧ c ≠ '\x7d' := by
  cases h with
  | word hword =>
    rcases hword with rfl | rfl | rfl
    · exact ⟨'n', "ull".toList, rfl, by decide⟩
    · exact ⟨'t', "rue".toList, rfl, by decide⟩
    · exact ⟨'f', "alse".toList, rfl, by decide⟩
  | text hbody => exact ⟨_, _, rfl, by decide⟩
  | empty b hsp => cases b <;> exact ⟨_, _, rfl, by decide⟩
  | @filled b cs hitems => cases b <;> exact ⟨_, _, rfl, by decide⟩
  | numeral hnumeral =>
    obtain ⟨c, tail, rfl, hc⟩ := hnumeral.exists_start
    exact ⟨c, tail, rfl, (numeralStart_ne hc).1, (numeralStart_ne hc).2.1, (numeralStart_ne hc).2.2.1⟩

/-! ## Steps of the skipper -/

/-- The skipper behind an opening bracket or behind a comma. -/
def enter (n : Nat) (stack : List Bracket) : Bracket → List Char → Option (List Char)
  | .array, cs => skipFrom n false (.array :: stack) cs
  | .object, cs => (skipKey cs).bind (skipFrom n false (.object :: stack))

theorem skipFrom_spaces (hsp : Spaces sp) : skipFrom n false stack (sp ++ cs) = skipFrom n false stack cs := by
  cases n with
  | zero => rfl
  | succ n => rw [skipFrom, skipFrom, skipSpaces_append hsp]

theorem skipFrom_comma (b : Bracket) (hsp : Spaces sp) :
    skipFrom (n + 1) true (b :: stack) (sp ++ ',' :: rest) = enter n stack b rest := by
  have hcomma : skipSpaces (sp ++ ',' :: rest) = ',' :: rest := by
    rw [skipSpaces_append hsp, skipSpaces_cons (by decide)]
  cases b <;> rw [skipFrom, hcomma] <;> rfl

theorem skipFrom_closing (b : Bracket) (hsp : Spaces sp) :
    skipFrom (n + 1) true (b :: stack) (sp ++ b.closing :: rest) = skipFrom n true stack rest := by
  have hclosing : skipSpaces (sp ++ b.closing :: rest) = b.closing :: rest := by
    rw [skipSpaces_append hsp, skipSpaces_cons (by cases b <;> decide)]
  cases b <;> rw [skipFrom, hclosing] <;> rfl

theorem skipFrom_array : skipFrom (n + 1) false stack ('[' :: rest) =
    match skipSpaces rest with
    | ']' :: rest => skipFrom n true stack rest
    | _ => skipFrom n false (.array :: stack) rest := by rfl

theorem skipFrom_object : skipFrom (n + 1) false stack ('\x7b' :: rest) =
    match skipSpaces rest with
    | '\x7d' :: rest => skipFrom n true stack rest
    | _ => (skipKey rest).bind (skipFrom n false (.object :: stack)) := by rfl

theorem skipFrom_empty (b : Bracket) (hsp : Spaces sp) :
    skipFrom (n + 1) false stack (b.opening :: (sp ++ b.closing :: rest)) = skipFrom n true stack rest := by
  have hclosing : skipSpaces (sp ++ b.closing :: rest) = b.closing :: rest := by
    rw [skipSpaces_append hsp, skipSpaces_cons (by cases b <;> decide)]
  cases b with
  | array => rw [Bracket.opening, skipFrom_array, hclosing]; rfl
  | object => rw [Bracket.opening, skipFrom_object, hclosing]; rfl

theorem skipFrom_opening (b : Bracket)
    (hrest : ∃ c tail, skipSpaces rest = c :: tail ∧ c ≠ ']' ∧ c ≠ '\x7d') :
    skipFrom (n + 1) false stack (b.opening :: rest) = enter n stack b rest := by
  obtain ⟨c, tail, hc, harray, hobject⟩ := hrest
  cases b with
  | array =>
    rw [Bracket.opening, skipFrom_array, hc]
    split
    · rename_i h
      cases h
      exact absurd rfl harray
    · rfl
  | object =>
    rw [Bracket.opening, skipFrom_object, hc]
    split
    · rename_i h
      cases h
      exact absurd rfl hobject
    · rfl

theorem skipColon_append {sp₁ sp₂ : List Char} (h₁ : Spaces sp₁) (h₂ : Spaces sp₂) (rest : List Char) :
    skipColon (sp₁ ++ ':' :: (sp₂ ++ rest)) = some (skipSpaces rest) := by
  rw [skipColon, skipSpaces_append h₁, skipSpaces_cons (by decide)]
  exact congrArg some (skipSpaces_append h₂ rest)

theorem skipKey_lead {sp₁ body sp₂ sp₃ : List Char} (h₁ : Spaces sp₁) (hbody : IsBody body)
    (h₂ : Spaces sp₂) (h₃ : Spaces sp₃) (rest : List Char) :
    skipKey (sp₁ ++ '\x22' :: (body ++ '\x22' :: (sp₂ ++ ':' :: (sp₃ ++ rest)))) = some (skipSpaces rest) := by
  rw [skipKey, skipSpaces_append h₁, skipSpaces_cons (by decide)]
  show (skipText _).bind skipColon = _
  rw [skipText_of_isBody hbody, Option.bind_some, skipColon_append h₂ h₃]

theorem IsJson.skipSpaces_eq (h : IsJson .value cs) (rest : List Char) :
    skipSpaces (cs ++ rest) = cs ++ rest := by
  obtain ⟨c, tail, rfl, hc, -⟩ := h.exists_start
  exact skipSpaces_cons hc _

/-- What stands in front of a value is passed over. -/
theorem enter_lead (hlead : Lead b lead) (hcs : IsJson .value cs) (rest : List Char) :
    enter n stack b (lead ++ (cs ++ rest)) = skipFrom n false (b :: stack) (cs ++ rest) := by
  cases hlead with
  | array hsp => exact skipFrom_spaces hsp
  | object h₁ hbody h₂ h₃ =>
    simp only [enter, List.append_assoc, List.cons_append, skipKey_lead h₁ hbody h₂ h₃, hcs.skipSpaces_eq,
      Option.bind_some]

/-- Items do not start with a bracket that closes. -/
theorem IsJson.items_start (h : IsJson (.items b) cs) (rest : List Char) :
    ∃ c tail, skipSpaces (cs ++ rest) = c :: tail ∧ c ≠ ']' ∧ c ≠ '\x7d' := by
  have hstart : ∀ {lead value : List Char} (rest : List Char), Lead b lead → IsJson .value value →
      ∃ c tail, skipSpaces (lead ++ (value ++ rest)) = c :: tail ∧ c ≠ ']' ∧ c ≠ '\x7d' := by
    intro lead value rest hlead hvalue
    cases hlead with
    | array hsp =>
      obtain ⟨c, tail, rfl, hc, hne⟩ := hvalue.exists_start
      exact ⟨c, tail ++ rest, by rw [skipSpaces_append hsp, List.cons_append, skipSpaces_cons hc], hne⟩
    | object h₁ =>
      rw [List.append_assoc, skipSpaces_append h₁, List.cons_append, skipSpaces_cons (by decide)]
      exact ⟨_, _, rfl, by decide⟩
  cases h with
  | last hlead hvalue =>
    rw [List.append_assoc, List.append_assoc]
    exact hstart _ hlead hvalue
  | more hlead hvalue =>
    rw [List.append_assoc, List.append_assoc]
    exact hstart _ hlead hvalue

/-! ## Passing over a value -/

theorem afterWord?_append (word rest : List Char) : afterWord? word (word ++ rest) = some rest := by
  induction word with
  | nil => rfl
  | cons c word ih => rw [List.cons_append, afterWord?, if_pos rfl, ih]

theorem skipFrom_scalar {tail : List Char} (hc : c ∉ [' ', '\n', '\t', '\r']) (harray : c ≠ '[')
    (hobject : c ≠ '\x7b') (htext : c ≠ '\x22') (hscalar : skipScalar (c :: tail) = some rest) :
    skipFrom (n + 1) false stack (c :: tail) = skipFrom n true stack rest := by
  rw [skipFrom, skipSpaces_cons hc]
  split
  · rename_i h
    cases h
    exact absurd rfl harray
  · rename_i h
    cases h
    exact absurd rfl hobject
  · rename_i h
    cases h
    exact absurd rfl htext
  · rw [hscalar]
    rfl

theorem skipFrom_word {word : String} (h : word = "null" ∨ word = "true" ∨ word = "false") (rest : List Char) :
    skipFrom (n + 1) false stack (word.toList ++ rest) = skipFrom n true stack rest := by
  have hword := afterWord?_append word.toList rest
  rcases h with rfl | rfl | rfl
  all_goals exact skipFrom_scalar (by decide) (by decide) (by decide) (by decide) hword

theorem skipScalar_numeral {tail : List Char} (hc : c ∉ ['[', '\x7b', '\x22', 't', 'f', 'n']) :
    skipScalar (c :: tail) = (readNumeral (c :: tail)).map (·.2) := by
  unfold skipScalar
  split <;> simp_all

theorem skipFrom_numeral (h : IsNumeral cs) (hrest : EndsValue rest) :
    skipFrom (n + 1) false stack (cs ++ rest) = skipFrom n true stack rest := by
  obtain ⟨numeral, hread⟩ := readNumeral_of_isNumeral h hrest.endsNumeral
  obtain ⟨c, tail, rfl, hc⟩ := h.exists_start
  obtain ⟨hspace, -, -, hother⟩ := numeralStart_ne hc
  have hscalar : skipScalar (c :: (tail ++ rest)) = some rest := by
    rw [skipScalar_numeral hother, ← List.cons_append, hread]
    rfl
  simp only [List.mem_cons, not_or] at hother
  exact skipFrom_scalar hspace hother.1 hother.2.1 hother.2.2.1 hscalar

theorem skipFrom_text {body : List Char} (h : IsBody body) (rest : List Char) :
    skipFrom (n + 1) false stack ('\x22' :: (body ++ '\x22' :: rest)) = skipFrom n true stack rest := by
  have hread := skipText_of_isBody h rest
  rw [skipFrom, skipSpaces_cons (by decide)]
  show (skipText _).bind _ = _
  rw [hread]
  rfl

/-- What the skipper does at the start of a part: it gets behind it, in some steps that are counted apart.
Behind items it has closed the brackets, too. -/
def Skipped : Part → List Char → Prop
  | .value, cs => ∃ k ≤ cs.length, ∀ n stack rest, EndsValue rest →
      skipFrom (n + k) false stack (cs ++ rest) = skipFrom n true stack rest
  | .items b, cs => ∃ k ≤ cs.length + 1, ∀ n stack rest,
      enter (n + k) stack b (cs ++ b.closing :: rest) = skipFrom n true stack rest

/-- The induction is on how the part is built: brackets take a step to open and one to close, commas and all
values without brackets take one step each. -/
theorem skipped_of_isJson (h : IsJson part cs) : Skipped part cs := by
  induction h with
  | word hword =>
    refine ⟨1, ?_, fun n stack rest _ => skipFrom_word hword rest⟩
    rcases hword with rfl | rfl | rfl <;> decide
  | numeral hnumeral =>
    refine ⟨1, ?_, fun n stack rest hrest => skipFrom_numeral hnumeral hrest⟩
    obtain ⟨c, tail, rfl, -⟩ := hnumeral.exists_start
    simp
  | text hbody =>
    refine ⟨1, by simp, fun n stack rest _ => ?_⟩
    rw [List.cons_append, List.append_assoc]
    exact skipFrom_text hbody rest
  | empty b hsp =>
    refine ⟨1, by simp, fun n stack rest _ => ?_⟩
    rw [List.cons_append, List.append_assoc]
    exact skipFrom_empty b hsp
  | @filled b cs hitems ih =>
    obtain ⟨k, hk, hskip⟩ := ih
    refine ⟨k + 1, by simp; omega, fun n stack rest _ => ?_⟩
    rw [List.cons_append, List.append_assoc, ← Nat.add_assoc, skipFrom_opening b (hitems.items_start _)]
    exact hskip n stack rest
  | @last b lead cs sp hlead hvalue hsp ih =>
    obtain ⟨k, hk, hskip⟩ := ih
    refine ⟨k + 1, by simp; omega, fun n stack rest => ?_⟩
    have hend := endsValue_spaces_append hsp (closing_mem b) rest
    rw [List.append_assoc, List.append_assoc, enter_lead hlead hvalue, Nat.add_comm k 1, ← Nat.add_assoc,
      hskip _ _ _ hend, skipFrom_closing b hsp]
  | @more b lead cs sp ds hlead hvalue hsp hmore ih ihmore =>
    obtain ⟨k, hk, hskip⟩ := ih
    obtain ⟨k', hk', hskip'⟩ := ihmore
    refine ⟨k' + 1 + k, by simp; omega, fun n stack rest => ?_⟩
    have hend := endsValue_spaces_append hsp (by simp : ',' ∈ [',', ']', '\x7d']) (ds ++ b.closing :: rest)
    rw [List.append_assoc, List.append_assoc, List.append_assoc, List.cons_append, enter_lead hlead hvalue,
      ← Nat.add_assoc, hskip _ _ _ hend, ← Nat.add_assoc, skipFrom_comma b hsp]
    exact hskip' n stack rest

/-- A value is passed over as a whole. -/
theorem skipValue_of_isJson (h : IsJson .value cs) (hrest : EndsValue rest) :
    skipValue (cs ++ rest) = some rest := by
  obtain ⟨k, hk, hskip⟩ := skipped_of_isJson h
  have hsteps : (cs ++ rest).length + 1 = ((cs ++ rest).length - k) + 1 + k := by
    rw [List.length_append]
    omega
  rw [skipValue, hsteps, hskip _ _ _ hrest]
  rfl

end DocRunner.Json
