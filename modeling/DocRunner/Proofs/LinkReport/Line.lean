import DocRunner.LinkReport
import DocRunner.Proofs.Json.Value
import Mathlib.Data.List.Nodup

/-!
# The line of a link

* `Entry.Writes e f cs` : `cs` is the value of the field `f` of `e`;
* `Member e f cs`, `Members e fs cs` : `cs` is a key with its value, or a row of them. A key is that of a field,
  which is named then, or any other;
* `Entry.IsComplete e fields` : the fields are each once among `fields`, except that a missing line number and
  an empty information may be left out;
* `Entry.IsLine e cs` : `cs` is an object with these members, and is read as the entry
  (`Entry.ofLine?_of_isLine`).

The invariant of reading is `Draft.of e fields`, which has exactly these fields of the entry.
-/

namespace DocRunner.LinkReport

open Json

/-- How the value of a field is written. -/
def Entry.Writes (e : Entry) : Field → List Char → Prop
  | .filename, cs => Quoted e.filename cs
  | .lineno, cs => cs = (e.lineno.elim "null" fun n => toString n.toNat).toList
  | .status, cs => Quoted e.status cs
  | .uri, cs => Quoted e.uri cs
  | .info, cs => Quoted e.info cs

/-- A member of an object: a field of the entry, or any value for a key that is no field. -/
inductive Member (e : Entry) : Option Field → List Char → Prop
  | field (f : Field) {key sp₁ sp₂ value : List Char} (hkey : Quoted f.name key) (h₁ : Spaces sp₁)
      (h₂ : Spaces sp₂) (hvalue : e.Writes f value) : Member e (some f) (key ++ (sp₁ ++ ':' :: (sp₂ ++ value)))
  | other {name : String} {key sp₁ sp₂ value : List Char} (hname : ∀ f : Field, f.name ≠ name)
      (hkey : Quoted name key) (h₁ : Spaces sp₁) (h₂ : Spaces sp₂) (hvalue : IsJson .value value) :
      Member e none (key ++ (sp₁ ++ ':' :: (sp₂ ++ value)))

/-- A row of members, with commas between them. -/
inductive Members (e : Entry) : List (Option Field) → List Char → Prop
  | last {f : Option Field} {cs sp : List Char} (h : Member e f cs) (hsp : Spaces sp) : Members e [f] (cs ++ sp)
  | more {f : Option Field} {fs : List (Option Field)} {cs sp₁ sp₂ ds : List Char} (h : Member e f cs)
      (h₁ : Spaces sp₁) (h₂ : Spaces sp₂) (hmore : Members e fs ds) :
      Members e (f :: fs) (cs ++ (sp₁ ++ ',' :: (sp₂ ++ ds)))

namespace Entry

/-- No field comes twice, and those that are left out are as they are by default. -/
structure IsComplete (e : Entry) (fields : List Field) : Prop where
  once : fields.Nodup
  filename : .filename ∈ fields
  lineno : .lineno ∉ fields → e.lineno = none
  status : .status ∈ fields
  uri : .uri ∈ fields
  info : .info ∉ fields → e.info = ""

/-- An object with the fields of an entry, in any order and among any others. -/
inductive IsLine (e : Entry) : List Char → Prop
  | mk {sp₁ sp₂ sp₃ members : List Char} {fs : List (Option Field)} (h₁ : Spaces sp₁) (h₂ : Spaces sp₂)
      (hmembers : Members e fs members) (hcomplete : e.IsComplete (fs.filterMap id)) (h₃ : Spaces sp₃) :
      IsLine e (sp₁ ++ '\x7b' :: (sp₂ ++ (members ++ '\x7d' :: sp₃)))

end Entry

/-- The draft with some fields of an entry. -/
def Draft.of (e : Entry) (fields : List Field) : Draft where
  filename := if .filename ∈ fields then some e.filename else none
  lineno := if .lineno ∈ fields then some e.lineno else none
  status := if .status ∈ fields then some e.status else none
  uri := if .uri ∈ fields then some e.uri else none
  info := if .info ∈ fields then some e.info else none

variable {e : Entry} {f : Field} {fs : List (Option Field)} {fields : List Field} {cs rest value : List Char}

/-! ## Drafts -/

theorem Draft.has_of (e : Entry) (fields : List Field) (f : Field) :
    (of e fields).has f = decide (f ∈ fields) := by
  cases f <;> simp only [Draft.has, Draft.of] <;> split <;> simp_all

theorem Draft.entry_of (h : e.IsComplete fields) : (of e fields).entry = .ok e := by
  have hlineno : ((of e fields).lineno.getD none) = e.lineno := by
    by_cases hin : Field.lineno ∈ fields
    · simp [of, hin]
    · simp [of, hin, h.lineno hin]
  have hinfo : ((of e fields).info.getD "") = e.info := by
    by_cases hin : Field.info ∈ fields
    · simp [of, hin]
    · simp [of, hin, h.info hin]
  have hfilename : (of e fields).filename = some e.filename := if_pos h.filename
  have hstatus : (of e fields).status = some e.status := if_pos h.status
  have huri : (of e fields).uri = some e.uri := if_pos h.uri
  simp only [Draft.entry, hfilename, hstatus, huri, hlineno, hinfo]

/-! ## The value of a field -/

theorem readString_of_quoted {s : String} (h : Quoted s cs) (rest : List Char) :
    readString (cs ++ rest) = .ok (s, rest) := by
  obtain ⟨tail, htail, hread⟩ := readText_of_quoted h rest
  rw [htail]
  simp only [readString, hread, String.ofList_toList]

theorem readLineno_null (rest : List Char) : readLineno ("null".toList ++ rest) = .ok (none, rest) := by rfl

theorem toList_toString (n : Nat) : (toString n).toList = Nat.toDigits 10 n := Nat.toList_repr

theorem readLineno_toString (n : UInt64) (hrest : EndsValue rest) :
    readLineno ((toString n.toNat).toList ++ rest) = .ok (some n, rest) := by
  have hread := readNumeral_toDigits n.toNat hrest.endsNumeral
  have hinteger := integer?_toDigits (n := n.toNat) n.toNat_lt
  rw [toList_toString]
  unfold readLineno
  split
  · rename_i tail hn
    have hdigit : 'n' ∈ Nat.toDigits 10 n.toNat := by
      obtain ⟨d, ds, hds⟩ := List.exists_cons_of_ne_nil (@Nat.toDigits_ne_nil n.toNat 10)
      rw [hds] at hn ⊢
      cases hn
      exact List.mem_cons_self
    exact absurd ((isDigits_toDigits n.toNat).2 'n' hdigit) (by decide)
  · simp [hread, hinteger]

theorem isJson_of_quoted {s : String} (h : Quoted s cs) : IsJson .value cs := by
  obtain ⟨text, htext, rfl⟩ := h
  exact .text htext.isBody

theorem Entry.Writes.isJson (h : e.Writes f value) : IsJson .value value := by
  cases f with
  | lineno =>
    rw [show value = _ from h]
    cases e.lineno with
    | none => exact .word (Or.inl rfl)
    | some n =>
      have hnumeral : IsNumeral ([] ++ (Nat.toDigits 10 n.toNat ++ ([] ++ []))) :=
        .mk (Or.inl rfl) (isWhole_toDigits n.toNat) (Or.inl rfl) (Or.inl rfl)
      rw [Option.elim_some, toList_toString]
      exact .numeral (by simpa using hnumeral)
  | _ => exact isJson_of_quoted h

/-- A field is read into the draft. -/
theorem readField_of_writes (h : e.Writes f value) (hrest : EndsValue rest) :
    readField (.of e fields) f (value ++ rest) = .ok (.of e (f :: fields), rest) := by
  cases f with
  | lineno =>
    have hread : readLineno (value ++ rest) = .ok (e.lineno, rest) := by
      rw [show value = _ from h]
      cases e.lineno with
      | none => exact readLineno_null rest
      | some n => exact readLineno_toString n hrest
    rw [readField, hread]
    simp [Except.map, Draft.of]
  | _ =>
    rw [readField, readString_of_quoted h]
    simp [Except.map, Draft.of]

/-! ## Members -/

/-- A member is read behind its quote: a field into the draft, where it must not be yet, and any
other is passed over. -/
theorem Member.read {f : Option Field} (h : Member e f cs) (hfresh : ∀ g, f = some g → g ∉ fields)
    (hrest : EndsValue rest) :
    ∃ tail key, cs ++ rest = '\x22' :: tail ∧ readText tail = some key ∧
      readMember (.of e fields) (String.ofList key.1) key.2 = .ok (.of e (f.toList ++ fields), rest) := by
  cases h with
  | @field f key sp₁ sp₂ value hkey h₁ h₂ hvalue =>
    obtain ⟨tail, htail, hread⟩ := readText_of_quoted hkey (sp₁ ++ ':' :: (sp₂ ++ (value ++ rest)))
    refine ⟨tail, _, by simpa using htail, hread, ?_⟩
    have hfind : Field.all.find? (·.name = f.name) = some f := by cases f <;> rfl
    have hhas : (Draft.of e fields).has f = false := by
      rw [Draft.has_of]
      exact decide_eq_false (hfresh f rfl)
    have hcolon := skipColon_append h₁ h₂ (value ++ rest)
    rw [hvalue.isJson.skipSpaces_eq] at hcolon
    simp only [readMember, String.ofList_toList, hfind, hhas, hcolon, Bool.false_eq_true, if_false]
    exact readField_of_writes hvalue hrest
  | @other name key sp₁ sp₂ value hname hkey h₁ h₂ hvalue =>
    obtain ⟨tail, htail, hread⟩ := readText_of_quoted hkey (sp₁ ++ ':' :: (sp₂ ++ (value ++ rest)))
    refine ⟨tail, _, by simpa using htail, hread, ?_⟩
    have hfind : Field.all.find? (·.name = name) = none := by
      rw [List.find?_eq_none]
      intro f _
      simpa using hname f
    have hcolon := skipColon_append h₁ h₂ (value ++ rest)
    rw [hvalue.skipSpaces_eq] at hcolon
    simp only [readMember, String.ofList_toList, hfind, hcolon, Option.bind_some,
      skipValue_of_isJson hvalue hrest]
    rfl

section

variable {n : Nat} {d d' : Draft} {tail rest' : List Char} {key : List Char × List Char}

theorem readMembers_comma (hkey : readText tail = some key)
    (hmember : readMember d (String.ofList key.1) key.2 = .ok (d', rest))
    (hcomma : skipSpaces rest = ',' :: rest') :
    readMembers (n + 1) d ('\x22' :: tail) = readMembers n d' (skipSpaces rest') := by
  simp only [readMembers, hkey, hmember, hcomma]

theorem readMembers_closing (hkey : readText tail = some key)
    (hmember : readMember d (String.ofList key.1) key.2 = .ok (d', rest))
    (hclosing : skipSpaces rest = '\x7d' :: rest') :
    readMembers (n + 1) d ('\x22' :: tail) = .ok (d', rest') := by
  simp only [readMembers, hkey, hmember, hclosing]

end

theorem Members.exists_start (h : Members e fs cs) : ∃ tail, cs = '\x22' :: tail := by
  have hmember : ∀ {f : Option Field} {cs : List Char}, Member e f cs → ∃ tail, cs = '\x22' :: tail := by
    intro f cs h
    cases h with
    | field f hkey =>
      obtain ⟨text, -, rfl⟩ := hkey
      exact ⟨_, rfl⟩
    | other hname hkey =>
      obtain ⟨text, -, rfl⟩ := hkey
      exact ⟨_, rfl⟩
  cases h with
  | last h =>
    obtain ⟨tail, rfl⟩ := hmember h
    exact ⟨_, rfl⟩
  | more h =>
    obtain ⟨tail, rfl⟩ := hmember h
    exact ⟨_, rfl⟩

theorem Members.skipSpaces_eq (h : Members e fs cs) (rest : List Char) :
    skipSpaces (cs ++ rest) = cs ++ rest := by
  obtain ⟨tail, rfl⟩ := h.exists_start
  exact skipSpaces_cons (by decide) _

theorem Members.length_le (h : Members e fs cs) : fs.length ≤ cs.length := by
  induction h with
  | last h hsp =>
    obtain ⟨tail, htail⟩ := (Members.last h hsp).exists_start
    rw [htail]
    simp
  | more h h₁ h₂ hmore ih =>
    simp only [List.length_cons, List.length_append]
    omega

theorem reverse_fields_cons (f : Option Field) (fs : List (Option Field)) (fields : List Field) :
    ((f :: fs).filterMap id).reverse ++ fields = (fs.filterMap id).reverse ++ (f.toList ++ fields) := by
  cases f <;> simp

theorem notMem_of_nodup {f : Option Field} (h : ((fs.filterMap id).reverse ++ (f.toList ++ fields)).Nodup) :
    ∀ g, f = some g → g ∉ fields := by
  rintro g rfl
  have hfields := (List.nodup_append.1 h).2.1
  exact (List.nodup_cons.1 hfields).1

/-- Members are read into the draft, up to the closing brace. The induction carries the fields that were read
before, since none of them may come again. -/
theorem readMembers_of_members (h : Members e fs cs) {n : Nat} (hn : fs.length ≤ n)
    (honce : ((fs.filterMap id).reverse ++ fields).Nodup) (rest : List Char) :
    readMembers n (.of e fields) (cs ++ '\x7d' :: rest) =
      .ok (.of e ((fs.filterMap id).reverse ++ fields), rest) := by
  induction h generalizing n fields with
  | @last f cs sp h hsp =>
    obtain ⟨n, rfl⟩ := Nat.exists_eq_add_of_le' hn
    rw [reverse_fields_cons] at honce ⊢
    have hend := endsValue_spaces_append hsp (by simp : '\x7d' ∈ [',', ']', '\x7d']) rest
    obtain ⟨tail, key, htail, hkey, hmember⟩ := h.read (notMem_of_nodup honce) hend
    have hclosing : skipSpaces (sp ++ '\x7d' :: rest) = '\x7d' :: rest := by
      rw [skipSpaces_append hsp, skipSpaces_cons (by decide)]
    rw [List.append_assoc, htail]
    exact readMembers_closing hkey hmember hclosing
  | @more f fs cs sp₁ sp₂ ds h h₁ h₂ hmore ih =>
    obtain ⟨n, rfl⟩ := Nat.exists_eq_add_of_le' hn
    rw [reverse_fields_cons] at honce ⊢
    have hend := endsValue_spaces_append h₁ (by simp : ',' ∈ [',', ']', '\x7d']) (sp₂ ++ (ds ++ '\x7d' :: rest))
    obtain ⟨tail, key, htail, hkey, hmember⟩ := h.read (notMem_of_nodup honce) hend
    have hcomma : skipSpaces (sp₁ ++ ',' :: (sp₂ ++ (ds ++ '\x7d' :: rest))) =
        ',' :: (sp₂ ++ (ds ++ '\x7d' :: rest)) := by
      rw [skipSpaces_append h₁, skipSpaces_cons (by decide)]
    have hnext : skipSpaces (sp₂ ++ (ds ++ '\x7d' :: rest)) = ds ++ '\x7d' :: rest := by
      rw [skipSpaces_append h₂, hmore.skipSpaces_eq]
    simp only [List.append_assoc, List.cons_append]
    rw [htail, List.length_cons, ← Nat.add_assoc]
    rw [readMembers_comma hkey hmember hcomma, hnext]
    exact ih (by omega) honce

/-! ## Lines -/

theorem Entry.IsComplete.reverse (h : e.IsComplete fields) : e.IsComplete fields.reverse where
  once := List.nodup_reverse.2 h.once
  filename := List.mem_reverse.2 h.filename
  lineno hnot := h.lineno fun hin => hnot (List.mem_reverse.2 hin)
  status := List.mem_reverse.2 h.status
  uri := List.mem_reverse.2 h.uri
  info hnot := h.info fun hin => hnot (List.mem_reverse.2 hin)

theorem readObject_of_members {sp : List Char} (hsp : Spaces sp) (h : Members e fs cs)
    (hcomplete : e.IsComplete (fs.filterMap id)) (rest : List Char) :
    readObject (sp ++ (cs ++ '\x7d' :: rest)) = .ok (e, rest) := by
  have hlength : fs.length ≤ (sp ++ (cs ++ '\x7d' :: rest)).length := by
    have := h.length_le
    simp only [List.length_append]
    omega
  have honce : ((fs.filterMap id).reverse ++ []).Nodup := by
    rw [List.append_nil]
    exact hcomplete.reverse.once
  have hread := readMembers_of_members h hlength honce rest
  rw [List.append_nil] at hread
  have hstart : skipSpaces (sp ++ (cs ++ '\x7d' :: rest)) = cs ++ '\x7d' :: rest := by
    rw [skipSpaces_append hsp, h.skipSpaces_eq]
  have hempty : Draft.of e [] = {} := by rfl
  rw [hempty] at hread
  unfold readObject
  rw [hstart]
  split
  · rename_i hclosing
    obtain ⟨tail, rfl⟩ := h.exists_start
    cases hclosing
  · rw [hread]
    dsimp only
    rw [Draft.entry_of hcomplete.reverse]
    rfl

/-- The line of an entry is read as the entry. -/
theorem Entry.ofLine?_of_isLine (h : e.IsLine cs) : Entry.ofLine? (String.ofList cs) = .ok e := by
  cases h with
  | @mk sp₁ sp₂ sp₃ members fs h₁ h₂ hmembers hcomplete h₃ =>
    have hread := readObject_of_members h₂ hmembers hcomplete sp₃
    have hstart : skipSpaces (sp₁ ++ '\x7b' :: (sp₂ ++ (members ++ '\x7d' :: sp₃))) =
        '\x7b' :: (sp₂ ++ (members ++ '\x7d' :: sp₃)) := by
      rw [skipSpaces_append h₁, skipSpaces_cons (by decide)]
    have hend : skipSpaces sp₃ = [] := by
      rw [← List.append_nil sp₃, skipSpaces_append h₃]
      rfl
    simp only [ofLine?, String.toList_ofList, hstart, hread, hend, if_true]

end DocRunner.LinkReport
