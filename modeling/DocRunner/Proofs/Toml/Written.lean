import DocRunner.Proofs.Toml.Text

/-!
# Documents of tables

* `IsKey name cs` : `cs` is a name, without quotes or in them;
* `IsTail cs` : `cs` is what may stand behind anything else on a line: blanks and a comment;
* `IsLine line cs` : `cs` is a line with the header of a table, or with an assignment to one name;
* `EndsLine cs rest` : `cs` starts with a line break, behind which `rest` stands, or both are empty;
* `IsDocument lines cs` : `cs` has these lines in order, and blank lines wherever it likes;
* `linesOf tables` : the lines of some tables, each with its header and an assignment for each of its entries;
* `read?_of_isDocument` : the document of tables of different names, each with different keys,
  is read as these tables.
-/

namespace DocRunner.Toml

/-- Spaces and tabs. -/
def Blanks (sp : List Char) : Prop := ∀ c ∈ sp, isSpace c = true

/-- A name is written without quotes or in them. -/
inductive IsKey (name : String) : List Char → Prop
  | bare (hne : name ≠ "") (h : ∀ c ∈ name.toList, isNameChar c = true) : IsKey name name.toList
  | quoted {cs : List Char} (h : Quoted name cs) : IsKey name cs

/-- What may stand behind anything else on a line. -/
inductive IsTail : List Char → Prop
  | blanks {sp : List Char} (h : Blanks sp) : IsTail sp
  | comment {sp text : List Char} (h : Blanks sp) (htext : ∀ c ∈ text, isTextChar c = true) :
      IsTail (sp ++ '#' :: text)

/-- A line with a header, or with an assignment. -/
inductive IsLine : Line → List Char → Prop
  | table {name : String} {sp₁ sp₂ sp₃ key tail : List Char} (h₁ : Blanks sp₁) (h₂ : Blanks sp₂)
      (hkey : IsKey name key) (h₃ : Blanks sp₃) (htail : IsTail tail) :
      IsLine (.table ([], name)) (sp₁ ++ '[' :: (sp₂ ++ (key ++ (sp₃ ++ ']' :: tail))))
  | assignment {name : String} {v : Value} {sp₁ sp₂ sp₃ key value tail : List Char} (h₁ : Blanks sp₁)
      (hkey : IsKey name key) (h₂ : Blanks sp₂) (h₃ : Blanks sp₃) (hvalue : v.Writes value)
      (htail : IsTail tail) :
      IsLine (.assignment ([], name) v) (sp₁ ++ (key ++ (sp₂ ++ '=' :: (sp₃ ++ (value ++ tail)))))

/-- A line ends with a line break or with the text. -/
inductive EndsLine : List Char → List Char → Prop
  | text : EndsLine [] []
  | lineFeed (rest : List Char) : EndsLine ('\n' :: rest) rest
  | carriageReturn (rest : List Char) : EndsLine ('\r' :: '\n' :: rest) rest

/-- A text has some lines in order, and blank lines wherever it likes. -/
inductive IsDocument : List Line → List Char → Prop
  | nil : IsDocument [] []
  | blank {lines : List Line} {tail cs rest : List Char} (h : IsTail tail) (hend : EndsLine cs rest)
      (hmore : IsDocument lines rest) : IsDocument lines (tail ++ cs)
  | line {line : Line} {lines : List Line} {ds cs rest : List Char} (h : IsLine line ds) (hend : EndsLine cs rest)
      (hmore : IsDocument lines rest) : IsDocument (line :: lines) (ds ++ cs)

/-- A table: its name and its entries. -/
abbrev NamedTable := String × List (String × Value)

/-- The lines of a table: its header, and an assignment for each entry. -/
def linesOfTable (table : NamedTable) : List Line :=
  .table ([], table.1) :: table.2.map fun e => .assignment ([], e.1) e.2

/-- The lines of tables. -/
def linesOf (tables : List NamedTable) : List Line := tables.flatMap linesOfTable

variable {c mark : Char} {cs ds rest sp tail : List Char} {name : String} {line : Line} {lines : List Line}

/-! ## Blanks -/

theorem blanks_nil : Blanks [] := fun _ hc => nomatch hc

theorem skipSpaces_append (h : Blanks sp) (cs : List Char) : skipSpaces (sp ++ cs) = skipSpaces cs := by
  rw [skipSpaces, List.dropWhile_append_of_pos h, skipSpaces]

theorem skipSpaces_cons (h : isSpace c = false) (cs : List Char) : skipSpaces (c :: cs) = c :: cs := by
  rw [skipSpaces, List.dropWhile_cons_of_neg (by simp [h])]

theorem isNameChar_of_isSpace (h : isSpace c = true) : isNameChar c = false := by
  simp only [isSpace, Bool.or_eq_true, beq_iff_eq] at h
  rcases h with rfl | rfl <;> decide

/-- What follows a name and blanks is none of its characters. -/
theorem head_blanks_append (h : Blanks sp) (hmark : isNameChar mark = false) (cs : List Char) :
    ∀ c ∈ (sp ++ mark :: cs).head?, isNameChar c = false := by
  intro c hc
  cases sp with
  | nil =>
    cases hc
    exact hmark
  | cons d sp =>
    cases hc
    exact isNameChar_of_isSpace (h c List.mem_cons_self)

/-! ## Names -/

/-- How a name may start. -/
def StartsName (c : Char) : Prop := isNameChar c = true ∨ c = '\x22'

theorem StartsName.ne (h : StartsName c) (hmark : isNameChar mark = false) (hquote : mark ≠ '\x22') :
    c ≠ mark := by
  rintro rfl
  rcases h with h | h
  · rw [hmark] at h
    cases h
  · exact hquote h

theorem StartsName.isSpace_eq (h : StartsName c) : isSpace c = false := by
  rw [isSpace, Bool.or_eq_false_iff, beq_eq_false_iff_ne, beq_eq_false_iff_ne]
  exact ⟨h.ne (by decide) (by decide), h.ne (by decide) (by decide)⟩

theorem IsKey.exists_start (h : IsKey name cs) : ∃ c tail, cs = c :: tail ∧ StartsName c := by
  cases h with
  | bare hne h =>
    cases hcs : name.toList with
    | nil => exact absurd (String.toList_eq_nil_iff.1 hcs) hne
    | cons c tail => exact ⟨c, tail, rfl, Or.inl (h c (hcs ▸ List.mem_cons_self))⟩
  | quoted h =>
    obtain ⟨text, -, rfl⟩ := h
    exact ⟨_, _, rfl, Or.inr rfl⟩

theorem readName_of_isKey (h : IsKey name cs) (hrest : ∀ c ∈ rest.head?, isNameChar c = false) :
    readName (cs ++ rest) = some (name, rest) := by
  cases h with
  | bare hne h =>
    obtain ⟨htake, hdrop⟩ := Text.takeWhile_row h hrest
    obtain ⟨c, tail, hcs, hc⟩ : ∃ c tail, name.toList = c :: tail ∧ isNameChar c = true := by
      obtain ⟨c, tail, hcs⟩ := List.exists_cons_of_ne_nil fun hnil => hne (String.toList_eq_nil_iff.1 hnil)
      exact ⟨c, tail, hcs, h c (hcs ▸ List.mem_cons_self)⟩
    unfold readName
    split
    · rename_i hquote
      rw [hcs] at hquote
      cases hquote
      exact absurd hc (by decide)
    · rename_i hquote
      rw [hcs] at hquote
      cases hquote
      exact absurd hc (by decide)
    · rw [htake, hdrop, hcs]
      dsimp only
      rw [← hcs, String.ofList_toList]
  | quoted h =>
    obtain ⟨text, htext, rfl⟩ := h
    rw [List.cons_append, List.append_assoc, List.singleton_append, readName, basicText_of_quotes htext,
      Option.map_some, String.ofList_toList]

/-- A name with blanks around it is a key of its own, up to a mark that makes it no longer one. -/
theorem readKey_of_isKey {sp₁ sp₂ key : List Char} (h₁ : Blanks sp₁) (h : IsKey name key) (h₂ : Blanks sp₂)
    (mark : Char) (hmark : isNameChar mark = false ∧ isSpace mark = false ∧ mark ≠ '.') (rest : List Char) :
    readKey (sp₁ ++ (key ++ (sp₂ ++ mark :: rest))) = some (([], name), mark :: rest) := by
  have hstart : skipSpaces (sp₁ ++ (key ++ (sp₂ ++ mark :: rest))) = key ++ (sp₂ ++ mark :: rest) := by
    obtain ⟨c, tail, rfl, hc⟩ := h.exists_start
    rw [skipSpaces_append h₁, List.cons_append, skipSpaces_cons hc.isSpace_eq]
  have hend : skipSpaces (sp₂ ++ mark :: rest) = mark :: rest := by
    rw [skipSpaces_append h₂, skipSpaces_cons hmark.2.1]
  have hnames : readNames nestingLimit (sp₁ ++ (key ++ (sp₂ ++ mark :: rest))) = some ([name], mark :: rest) := by
    rw [nestingLimit, readNames, hstart, readName_of_isKey h (head_blanks_append h₂ hmark.1 rest)]
    dsimp only
    rw [hend]
    split
    · rename_i hdot
      cases hdot
      exact absurd rfl hmark.2.2
    · rfl
  rw [readKey, hnames]
  rfl

/-! ## The end of a line -/

theorem isTokenChar_of_isSpace (h : isSpace c = true) : isTokenChar c = false ∧ c ≠ '\x22' := by
  simp only [isSpace, Bool.or_eq_true, beq_iff_eq] at h
  rcases h with rfl | rfl <;> decide

theorem EndsLine.endsValue (h : EndsLine cs rest) : EndsValue cs := by
  cases h with
  | text => exact fun c hc => nomatch hc
  | _ =>
    intro c hc
    cases hc
    decide

/-- No value goes on behind its line's tail. -/
theorem IsTail.endsValue (h : IsTail tail) (hend : EndsLine cs rest) : EndsValue (tail ++ cs) := by
  have hblanks : ∀ {sp ds : List Char}, Blanks sp → EndsValue ds → EndsValue (sp ++ ds) := by
    intro sp ds hsp hds
    cases sp with
    | nil => exact hds
    | cons d sp =>
      intro c hc
      cases hc
      exact isTokenChar_of_isSpace (hsp d List.mem_cons_self)
  cases h with
  | blanks hsp => exact hblanks hsp hend.endsValue
  | comment hsp htext =>
    rw [List.append_assoc]
    refine hblanks hsp fun c hc => ?_
    cases hc
    decide

/-- The break behind the tail of a line is passed over with it. -/
theorem lineEnd?_append (h : IsTail tail) (hend : EndsLine cs rest) : lineEnd? (tail ++ cs) = some rest := by
  cases h with
  | blanks hsp =>
    rw [lineEnd?, skipSpaces_append hsp]
    cases hend <;> rfl
  | @comment sp text hsp htext =>
    have hdrop : (text ++ cs).dropWhile isTextChar = cs := by
      rw [List.dropWhile_append_of_pos htext]
      cases hend <;> rfl
    rw [lineEnd?, List.append_assoc, skipSpaces_append hsp, List.cons_append, skipSpaces_cons (by decide)]
    simp only [hdrop]
    cases hend <;> rfl

theorem lineEnd?_of_startsName (h : StartsName c) (cs : List Char) : lineEnd? (c :: cs) = none := by
  have hcomment : c ≠ '#' := h.ne (by decide) (by decide)
  have hfeed : c ≠ '\n' := h.ne (by decide) (by decide)
  have hreturn : c ≠ '\r' := h.ne (by decide) (by decide)
  simp [lineEnd?, skipSpaces_cons h.isSpace_eq, hcomment, hfeed, hreturn]

/-! ## Lines -/

theorem IsDecimal.skipSpaces_eq {z : Int} (h : IsDecimal z cs) (rest : List Char) :
    skipSpaces (cs ++ rest) = cs ++ rest := by
  obtain ⟨c, cs, rfl⟩ := List.exists_cons_of_ne_nil h.isDigit_or.1
  refine skipSpaces_cons (Bool.eq_false_iff.2 fun hspace => ?_) (cs ++ rest)
  have htoken := h.isTokenChar_eq c List.mem_cons_self
  rw [(isTokenChar_of_isSpace hspace).1] at htoken
  cases htoken

theorem Value.Writes.skipSpaces_eq {v : Value} (h : v.Writes cs) (rest : List Char) :
    skipSpaces (cs ++ rest) = cs ++ rest := by
  cases h with
  | string h =>
    obtain ⟨text, -, rfl⟩ := h
    exact skipSpaces_cons (by decide) _
  | @integer n h => exact (IsDecimal.unsigned n).skipSpaces_eq rest

theorem readLine_table {sp₁ sp₂ sp₃ key : List Char} (h₁ : Blanks sp₁) (h₂ : Blanks sp₂)
    (hkey : IsKey name key) (h₃ : Blanks sp₃) (htail : IsTail tail) (hend : EndsLine cs rest) :
    readLine (sp₁ ++ '[' :: (sp₂ ++ (key ++ (sp₃ ++ ']' :: (tail ++ cs))))) = some (.table ([], name), rest) := by
  have hread := readKey_of_isKey h₂ hkey h₃ ']' (by decide) (tail ++ cs)
  rw [readLine, skipSpaces_append h₁, skipSpaces_cons (by decide)]
  split
  · -- a second bracket would be part of the name
    rename_i hbracket
    obtain ⟨c, key, rfl, hc⟩ := hkey.exists_start
    cases sp₂ with
    | nil => exact absurd (List.cons.inj (List.cons.inj hbracket).2).1 (hc.ne (by decide) (by decide))
    | cons d sp₂ =>
      have hd := h₂ d List.mem_cons_self
      rw [(List.cons.inj (List.cons.inj hbracket).2).1] at hd
      exact absurd hd (by decide)
  · rename_i hbracket
    cases hbracket
    simp only [hread, lineEnd?_append htail hend, Option.map_some]
  · rename_i hbracket
    exact absurd rfl (hbracket _)

/-- A line that starts with a name and an equals sign is an assignment, or it is none at all. -/
theorem readLine_of_isKey {sp₁ sp₂ key : List Char} (h₁ : Blanks sp₁) (hkey : IsKey name key)
    (h₂ : Blanks sp₂) (ds : List Char) :
    readLine (sp₁ ++ (key ++ (sp₂ ++ '=' :: ds))) =
      (readValue nestingLimit (skipSpaces ds)).bind fun r =>
        (lineEnd? r.2).map fun rest => (.assignment ([], name) r.1, rest) := by
  obtain ⟨c, key', hstart, hc⟩ := hkey.exists_start
  have hread := readKey_of_isKey blanks_nil hkey h₂ '=' (by decide) ds
  have hassigned : readAssignment (readValue nestingLimit) (key ++ (sp₂ ++ '=' :: ds)) =
      (readValue nestingLimit (skipSpaces ds)).map fun r => (([], name), r.1, r.2) := by
    rw [List.nil_append] at hread
    simp only [readAssignment, hread]
  have hskip : skipSpaces (sp₁ ++ (key ++ (sp₂ ++ '=' :: ds))) = key ++ (sp₂ ++ '=' :: ds) := by
    rw [skipSpaces_append h₁, hstart, List.cons_append, skipSpaces_cons hc.isSpace_eq]
  have hnone : lineEnd? (key ++ (sp₂ ++ '=' :: ds)) = none := by
    rw [hstart, List.cons_append, lineEnd?_of_startsName hc]
  have hbracket : c ≠ '[' := hc.ne (by decide) (by decide)
  rw [readLine, hskip]
  split
  · rename_i h
    rw [hstart] at h
    exact absurd (List.cons.inj h).1 hbracket
  · rename_i h
    rw [hstart] at h
    exact absurd (List.cons.inj h).1 hbracket
  · simp only [hnone, hassigned]
    cases readValue nestingLimit (skipSpaces ds) with
    | none => rfl
    | some r => rfl

theorem readLine_assignment {v : Value} {sp₁ sp₂ sp₃ key value : List Char} (h₁ : Blanks sp₁)
    (hkey : IsKey name key) (h₂ : Blanks sp₂) (h₃ : Blanks sp₃) (hvalue : v.Writes value) (htail : IsTail tail)
    (hend : EndsLine cs rest) :
    readLine (sp₁ ++ (key ++ (sp₂ ++ '=' :: (sp₃ ++ (value ++ (tail ++ cs)))))) =
      some (.assignment ([], name) v, rest) := by
  rw [readLine_of_isKey h₁ hkey h₂, skipSpaces_append h₃, hvalue.skipSpaces_eq,
    readValue_of_writes hvalue (htail.endsValue hend), Option.bind_some, lineEnd?_append htail hend,
      Option.map_some]

/-- A line is read as what it says. -/
theorem readLine_of_isLine (h : IsLine line ds) (hend : EndsLine cs rest) :
    readLine (ds ++ cs) = some (line, rest) := by
  cases h with
  | table h₁ h₂ hkey h₃ htail =>
    simp only [List.append_assoc, List.cons_append]
    exact readLine_table h₁ h₂ hkey h₃ htail hend
  | assignment h₁ hkey h₂ h₃ hvalue htail =>
    simp only [List.append_assoc, List.cons_append]
    exact readLine_assignment h₁ hkey h₂ h₃ hvalue htail hend

/-! ## Documents -/

theorem IsLine.length_pos (h : IsLine line ds) : 0 < ds.length := by
  cases h <;> simp

theorem EndsLine.length_le (h : EndsLine cs rest) : rest.length ≤ cs.length - 1 := by
  cases h <;> simp

/-- A tail without its blanks is one still, and starts no header. -/
theorem IsTail.skipSpaces_eq (h : IsTail tail) (hend : EndsLine cs rest) :
    ∃ tail', skipSpaces (tail ++ cs) = tail' ++ cs ∧ IsTail tail' ∧ (tail' ++ cs).head? ≠ some '[' := by
  cases h with
  | blanks hsp =>
    refine ⟨[], ?_, .blanks blanks_nil, ?_⟩
    · rw [skipSpaces_append hsp]
      cases hend <;> rfl
    · cases hend <;> simp
  | @comment sp text hsp htext =>
    have hcomment : IsTail ([] ++ '#' :: text) := .comment blanks_nil htext
    refine ⟨'#' :: text, ?_, hcomment, by simp⟩
    rw [List.append_assoc, skipSpaces_append hsp, List.cons_append, skipSpaces_cons (by decide)]

theorem readLine_of_isTail (h : IsTail tail) (hend : EndsLine cs rest) :
    readLine (tail ++ cs) = some (.blank, rest) := by
  obtain ⟨tail', hskip, htail', hhead⟩ := h.skipSpaces_eq hend
  rw [readLine, hskip]
  split
  · rename_i hbracket
    exact absurd (congrArg List.head? hbracket) hhead
  · rename_i hbracket
    exact absurd (congrArg List.head? hbracket) hhead
  · rw [lineEnd?_append htail' hend]

/-- Lines that build the same behind any others build the same behind one more. -/
theorem build_cons_congr {read : List Line} (h : ∀ header es, build header es read = build header es lines)
    (line : Line) (header : List String) (es : Entries) :
    build header es (line :: read) = build header es (line :: lines) := by
  cases line <;> simp only [build, h]

/-- A line is read in front of the lines behind it, for which the budget is still large enough. -/
theorem readLines_cons (hne : ds ++ cs ≠ []) (hend : EndsLine cs rest)
    (hline : readLine (ds ++ cs) = some (line, rest)) {n : Nat} (hn : (ds ++ cs).length ≤ n) :
    ∃ m, rest.length ≤ m ∧ readLines n (ds ++ cs) = (readLines m rest).map (line :: ·) := by
  have hpos := List.length_pos_of_ne_nil hne
  have hle := hend.length_le
  rw [List.length_append] at hn hpos
  obtain ⟨n, rfl⟩ := Nat.exists_eq_succ_of_ne_zero (show n ≠ 0 by omega)
  refine ⟨n, by omega, ?_⟩
  rw [readLines, hline]
  exact hne

/-- The lines of a document are read in order, and blank ones build nothing. -/
theorem readLines_of_isDocument (h : IsDocument lines cs) {n : Nat} (hn : cs.length ≤ n) :
    ∃ read, readLines n cs = some read ∧ ∀ header es, build header es read = build header es lines := by
  induction h generalizing n with
  | nil => exact ⟨[], by rw [readLines], fun _ _ => rfl⟩
  | @blank lines tail cs rest h hend hmore ih =>
    by_cases hnil : tail ++ cs = []
    · obtain ⟨rfl, rfl⟩ := List.append_eq_nil_iff.1 hnil
      cases hend
      exact ih hn
    · obtain ⟨m, hm, hcons⟩ := readLines_cons hnil hend (readLine_of_isTail h hend) hn
      obtain ⟨read, hread, hbuild⟩ := ih hm
      exact ⟨.blank :: read, by rw [hcons, hread, Option.map_some], hbuild⟩
  | @line line lines ds cs rest h hend hmore ih =>
    have hne : ds ++ cs ≠ [] := List.append_ne_nil_of_left_ne_nil (List.ne_nil_of_length_pos h.length_pos) cs
    obtain ⟨m, hm, hcons⟩ := readLines_cons hne hend (readLine_of_isLine h hend) hn
    obtain ⟨read, hread, hbuild⟩ := ih hm
    exact ⟨line :: read, by rw [hcons, hread, Option.map_some], build_cons_congr hbuild line⟩

/-! ## Building the tables -/

/-- The item that a table becomes. -/
def itemOfTable (entries : List (String × Value)) : Item :=
  .table .header (entries.map fun e => (e.1, .value e.2))

section

variable {es : Entries} {key k : String} {item item' : Item} {given more : List (String × Value)} {v : Value}

/-- Of things with different names, none in front of one has its name. -/
theorem notMem_of_nodup_map {α : Type} {x : α} {xs ys : List α} {f : α → String}
    (h : ((xs ++ x :: ys).map f).Nodup) : f x ∉ xs.map f := by
  rw [List.map_append, List.map_cons] at h
  exact fun hin => (List.nodup_append.1 h).2.2 _ hin _ List.mem_cons_self rfl

theorem lookup_of_notMem (h : key ∉ es.map Prod.fst) : es.lookup key = none := by
  rw [List.lookup_eq_none_iff]
  intro e he
  rw [bne_iff_ne]
  rintro rfl
  exact h (List.mem_map_of_mem he)

theorem lookup_concat (h : key ∉ es.map Prod.fst) : (es ++ [(key, item)]).lookup key = some item := by
  rw [List.lookup_append, lookup_of_notMem h, Option.none_or, List.lookup_cons, beq_self_eq_true]

theorem replace_concat (h : key ∉ es.map Prod.fst) :
    Entries.replace (es ++ [(key, item)]) key item' = es ++ [(key, item')] := by
  have hkeep : ∀ e ∈ es, (if e.1 = key then (key, item') else e) = e := by
    intro e he
    rw [if_neg]
    rintro rfl
    exact h (List.mem_map_of_mem he)
  rw [Entries.replace, List.map_append, List.map_congr_left hkeep, List.map_id', List.map_singleton, if_pos rfl]

/-- The header of a table that is not there opens it, behind the others. -/
theorem openTable_of_notMem (h : key ∉ es.map Prod.fst) :
    Entries.openTable [] key es = some (es ++ [(key, itemOfTable [])]) := by
  rw [Entries.openTable, Entries.under, lookup_of_notMem h]
  rfl

/-- A key that a table does not have yet is assigned in it. -/
theorem assign_of_notMem (h : key ∉ es.map Prod.fst) (hk : k ∉ given.map Prod.fst) :
    Entries.assign [key] [] k v (es ++ [(key, itemOfTable given)]) =
      some (es ++ [(key, itemOfTable (given ++ [(k, v)]))]) := by
  have hadd : Entries.add (given.map fun e => (e.1, Item.value e.2)) k (.value v) =
      some ((given ++ [(k, v)]).map fun e => (e.1, Item.value e.2)) := by
    have hmap : (given.map fun e => (e.1, Item.value e.2)).map Prod.fst = given.map Prod.fst := by
      rw [List.map_map]
      rfl
    rw [Entries.add, lookup_of_notMem (hmap ▸ hk), List.map_append]
    rfl
  have hempty : ¬ (false == ([] : List String).isEmpty) = true := by decide
  simp only [Entries.assign, Entries.under, lookup_concat h, itemOfTable, Bool.false_and,
    Bool.false_eq_true, if_false, if_neg hempty, hadd, Option.map_some, replace_concat h]

/-- Assignments behind a header go into its table. -/
theorem build_assignments (h : key ∉ es.map Prod.fst) (hkeys : ((given ++ more).map Prod.fst).Nodup)
    (lines : List Line) :
    build [key] (es ++ [(key, itemOfTable given)]) ((more.map fun e => .assignment ([], e.1) e.2) ++ lines) =
      build [key] (es ++ [(key, itemOfTable (given ++ more))]) lines := by
  induction more generalizing given with
  | nil =>
    rw [List.append_nil]
    rfl
  | cons e more ih =>
    have hk := notMem_of_nodup_map hkeys
    have hsplit : given ++ e :: more = given ++ [e] ++ more := by simp
    rw [hsplit] at hkeys ⊢
    rw [List.map_cons, List.cons_append, build, assign_of_notMem h hk, Option.bind_some]
    exact ih hkeys

end

/-- Tables behind others are built behind them. -/
theorem build_linesOf {tables before : List NamedTable} (hnames : ((before ++ tables).map Prod.fst).Nodup)
    (hkeys : ∀ t ∈ tables, (t.2.map Prod.fst).Nodup) (header : List String) :
    build header (before.map fun t => (t.1, itemOfTable t.2)) (linesOf tables) =
      some ((before ++ tables).map fun t => (t.1, itemOfTable t.2)) := by
  induction tables generalizing before header with
  | nil =>
    rw [List.append_nil]
    rfl
  | cons t tables ih =>
    obtain ⟨hk, hkeys⟩ := List.forall_mem_cons.1 hkeys
    have ht : t.1 ∉ (before.map fun t => (t.1, itemOfTable t.2)).map Prod.fst := by
      rw [List.map_map]
      exact notMem_of_nodup_map hnames
    have hsplit : before ++ t :: tables = before ++ [t] ++ tables := by simp
    rw [hsplit] at hnames ⊢
    rw [linesOf, List.flatMap_cons, linesOfTable, List.cons_append, build, openTable_of_notMem ht,
      Option.bind_some, List.nil_append, build_assignments ht (by simpa using hk)]
    have hrest := ih hnames hkeys [t.1]
    rw [List.map_append] at hrest
    exact hrest

theorem entriesToValues_tables (tables : List NamedTable) :
    entriesToValues (tables.map fun t => (t.1, itemOfTable t.2)) = tables.map fun t => (t.1, .table t.2) := by
  have hentries : ∀ entries : List (String × Value),
      entriesToValues (entries.map fun e => (e.1, Item.value e.2)) = entries := by
    intro entries
    induction entries with
    | nil => rw [List.map_nil, entriesToValues]
    | cons e entries ih => rw [List.map_cons, entriesToValues, ih, Item.toValue]
  induction tables with
  | nil => rw [List.map_nil, entriesToValues, List.map_nil]
  | cons t tables ih => rw [List.map_cons, entriesToValues, ih, itemOfTable, Item.toValue, hentries,
      List.map_cons]

/-! ## Reading the tables -/

/-- No document starts with a byte order mark. -/
theorem dropMark_of_isDocument (h : IsDocument lines cs) : dropMark cs = cs := by
  unfold dropMark
  split
  · rename_i rest
    have hnone : readLine ('\uFEFF' :: rest) = none := by rfl
    obtain ⟨read, hread, -⟩ := readLines_of_isDocument h (Nat.le_refl _)
    rw [List.length_cons, readLines, hnone] at hread
    · cases hread
    · exact List.cons_ne_nil _ _
  · rfl

/-- A document of tables of different names, each with different keys, is read as these tables. -/
theorem read?_of_isDocument {tables : List NamedTable} {text : String}
    (h : IsDocument (linesOf tables) text.toList) (hnames : (tables.map Prod.fst).Nodup)
    (hkeys : ∀ t ∈ tables, (t.2.map Prod.fst).Nodup) :
    read? text = some (tables.map fun t => (t.1, .table t.2)) := by
  obtain ⟨read, hread, hbuild⟩ := readLines_of_isDocument h (Nat.le_refl _)
  have htables := @build_linesOf tables [] hnames hkeys []
  rw [read?, dropMark_of_isDocument h, hread, Option.bind_some, hbuild]
  rw [List.map_nil] at htables
  rw [htables, Option.map_some, List.nil_append, entriesToValues_tables]

/-! ## All tables can be written -/

theorem exists_isLine_table (name : String) : ∃ cs, IsLine (.table ([], name)) cs := by
  obtain ⟨key, hkey⟩ := exists_quoted name
  exact ⟨_, .table blanks_nil blanks_nil (.quoted hkey) blanks_nil (.blanks blanks_nil)⟩

theorem exists_isLine_assignment (name : String) {v : Value} (h : ∃ cs, v.Writes cs) :
    ∃ cs, IsLine (.assignment ([], name) v) cs := by
  obtain ⟨key, hkey⟩ := exists_quoted name
  obtain ⟨value, hvalue⟩ := h
  exact ⟨_, .assignment blanks_nil (.quoted hkey) blanks_nil blanks_nil hvalue (.blanks blanks_nil)⟩

theorem exists_isDocument {tables : List NamedTable} (h : ∀ t ∈ tables, ∀ e ∈ t.2, ∃ cs, e.2.Writes cs) :
    ∃ cs, IsDocument (linesOf tables) cs := by
  have hlines : ∀ line ∈ linesOf tables, ∃ cs, IsLine line cs := by
    intro line hline
    obtain ⟨t, ht, hline⟩ := List.mem_flatMap.1 hline
    rcases List.mem_cons.1 hline with rfl | hline
    · exact exists_isLine_table t.1
    · obtain ⟨e, he, rfl⟩ := List.mem_map.1 hline
      exact exists_isLine_assignment e.1 (h t ht e he)
  generalize linesOf tables = lines at hlines
  induction lines with
  | nil => exact ⟨[], .nil⟩
  | cons line lines ih =>
    obtain ⟨hline, hlines⟩ := List.forall_mem_cons.1 hlines
    obtain ⟨ds, hds⟩ := hline
    obtain ⟨cs, hcs⟩ := ih hlines
    exact ⟨_, .line hds (.lineFeed cs) hcs⟩

end DocRunner.Toml
