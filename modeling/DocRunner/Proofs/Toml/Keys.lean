import DocRunner.Toml.Reader
import Mathlib.Data.List.Nodup
import Mathlib.Tactic.SplitIfs

/-!
# The keys of a document

* `Value.Keyed v` : in `v`, and in all that it holds, no key of a table stands twice;
* `Item.Keyed`, `Entries.Keyed` : the same for what a document is built from;
* `Entries.Keyed.under` : a change at the end of a path keeps the keys apart, if it does so in
  the table that it changes;
* `build_keyed` : so do the lines of a document, whatever they say;
* `read?_keyed` : a text that is read as a document has distinct keys in each of its tables.
-/

namespace DocRunner.Toml

/-- No key of a table stands twice, at any depth. -/
inductive Value.Keyed : Value → Prop
  | string (text : String) : Keyed (.string text)
  | integer (value : Int) : Keyed (.integer value)
  | float (literal : String) : Keyed (.float literal)
  | boolean (value : Bool) : Keyed (.boolean value)
  | datetime (literal : String) : Keyed (.datetime literal)
  | array {elements : List Value} (each : ∀ v ∈ elements, Keyed v) : Keyed (.array elements)
  | table {entries : List (String × Value)} (differ : (entries.map Prod.fst).Nodup)
      (each : ∀ e ∈ entries, Keyed e.2) : Keyed (.table entries)

/-- No key of a table that is built stands twice, at any depth. -/
inductive Item.Keyed : Item → Prop
  | value {v : Value} (h : v.Keyed) : Keyed (.value v)
  | table {origin : Origin} {es : Entries} (differ : (es.map Prod.fst).Nodup) (each : ∀ e ∈ es, Keyed e.2) :
      Keyed (.table origin es)
  | tables {elements : List Entries} (differ : ∀ es ∈ elements, (es.map Prod.fst).Nodup)
      (each : ∀ es ∈ elements, ∀ e ∈ es, Keyed e.2) : Keyed (.tables elements)

/-- No key stands twice, at any depth. -/
structure Entries.Keyed (es : Entries) : Prop where
  differ : (es.map Prod.fst).Nodup
  each : ∀ e ∈ es, e.2.Keyed

variable {es es' : Entries} {key : String} {item : Item} {dotted isDotted : Bool}
  {path header : List String} {v : Value}

/-! ## Changes of a table -/

namespace Entries

theorem Keyed.nil : Keyed [] := ⟨List.nodup_nil, fun _ he => absurd he List.not_mem_nil⟩

/-- What stands for a key is one of the entries. -/
theorem Keyed.of_lookup (h : es.Keyed) (hitem : es.lookup key = some item) : item.Keyed := by
  obtain ⟨before, after, hes, -⟩ := List.lookup_eq_some_iff.1 hitem
  exact h.each (key, item) (by rw [hes]; simp)

theorem notMem_of_lookup (h : es.lookup key = none) : key ∉ es.map Prod.fst := by
  rw [List.lookup_eq_none_iff] at h
  intro hmem
  obtain ⟨e, he, hkey⟩ := List.mem_map.1 hmem
  simpa [hkey] using h e he

theorem Keyed.concat (h : es.Keyed) (hkey : key ∉ es.map Prod.fst) (hitem : item.Keyed) :
    Keyed (es ++ [(key, item)]) := by
  refine ⟨?_, fun e he => ?_⟩
  · rw [List.map_append, List.nodup_append]
    refine ⟨h.differ, List.pairwise_singleton _ _, ?_⟩
    rintro a ha b hb rfl
    rw [List.mem_singleton.1 hb] at ha
    exact hkey ha
  · rcases List.mem_append.1 he with hold | hnew
    · exact h.each e hold
    · rw [List.mem_singleton.1 hnew]
      exact hitem

theorem map_fst_replace (es : Entries) (key : String) (item : Item) :
    (replace es key item).map Prod.fst = es.map Prod.fst := by
  rw [replace, List.map_map]
  apply List.map_congr_left
  intro e _
  show (if e.1 = key then (key, item) else e).1 = e.1
  split_ifs with hkey
  · exact hkey.symm
  · rfl

theorem Keyed.replace (h : es.Keyed) (hitem : item.Keyed) : Keyed (replace es key item) := by
  refine ⟨by rw [map_fst_replace]; exact h.differ, fun e he => ?_⟩
  obtain ⟨old, hold, rfl⟩ := List.mem_map.1 he
  split_ifs
  · exact hitem
  · exact h.each old hold

theorem Keyed.erase (h : es.Keyed) (key : String) : Keyed (es.filter (·.1 ≠ key)) where
  differ := h.differ.sublist (List.filter_sublist.map Prod.fst)
  each e he := h.each e (List.mem_of_mem_filter he)

theorem notMem_erase (es : Entries) (key : String) : key ∉ (es.filter (·.1 ≠ key)).map Prod.fst := by
  intro hmem
  obtain ⟨e, he, hkey⟩ := List.mem_map.1 hmem
  simpa [hkey] using (List.mem_filter.1 he).2

theorem Keyed.table (h : es.Keyed) (origin : Origin) : (Item.table origin es).Keyed := .table h.differ h.each

/-- The last of some tables, or an empty one if there is none. -/
theorem keyed_getLastD {elements : List Entries} (h : (Item.tables elements).Keyed) :
    Keyed (elements.getLast?.getD []) := by
  cases h with
  | tables differ each =>
    cases hlast : elements.getLast? with
    | none => exact Keyed.nil
    | some es => exact ⟨differ es (List.mem_of_getLast? hlast), each es (List.mem_of_getLast? hlast)⟩

/-- Tables of which another one is the last, in the place of the last of them or behind it. -/
theorem keyed_tables_concat {elements kept : List Entries} (h : (Item.tables elements).Keyed)
    (hkept : kept ⊆ elements) (hes : es.Keyed) : (Item.tables (kept ++ [es])).Keyed := by
  cases h with
  | tables differ each =>
    have hcases : ∀ es' ∈ kept ++ [es], es' ∈ elements ∨ es' = es := by
      intro es' hmem
      rcases List.mem_append.1 hmem with hold | hnew
      · exact Or.inl (hkept hold)
      · exact Or.inr (List.mem_singleton.1 hnew)
    refine .tables (fun es' hmem => ?_) (fun es' hmem => ?_)
    · rcases hcases es' hmem with hold | rfl
      · exact differ es' hold
      · exact hes.differ
    · rcases hcases es' hmem with hold | rfl
      · exact each es' hold
      · exact hes.each

/-- A change keeps the keys of the table that it changes apart. -/
def KeepsKeys (change : Bool → Entries → Option Entries) : Prop :=
  ∀ isDotted es es', Keyed es → change isDotted es = some es' → Keyed es'

variable {change : Bool → Entries → Option Entries}

/-- A change at the end of a path keeps all keys apart, if it does so in the table at the end. -/
theorem Keyed.under (hchange : KeepsKeys change) (h : es.Keyed)
    (hes : under dotted change path isDotted es = some es') : es'.Keyed := by
  induction path generalizing isDotted es es' with
  | nil => exact hchange isDotted es es' h hes
  | cons key path ih =>
    rw [Entries.under] at hes
    split at hes
    · rename_i hnone
      obtain ⟨sub, hsub, rfl⟩ := Option.map_eq_some_iff.1 hes
      exact h.concat (notMem_of_lookup hnone) ((ih Keyed.nil hsub).table _)
    · cases hes
    · rename_i origin sub hsome
      split at hes
      · cases hes
      · obtain ⟨sub', hsub, rfl⟩ := Option.map_eq_some_iff.1 hes
        cases h.of_lookup hsome with
        | table differ each => exact h.replace ((ih ⟨differ, each⟩ hsub).table origin)
    · rename_i elements hsome
      obtain ⟨sub', hsub, rfl⟩ := Option.map_eq_some_iff.1 hes
      have htables := h.of_lookup hsome
      exact h.replace
        (keyed_tables_concat htables (List.dropLast_subset elements) (ih (keyed_getLastD htables) hsub))

theorem Keyed.add (h : es.Keyed) (hitem : item.Keyed) (hes : add es key item = some es') : es'.Keyed := by
  rw [Entries.add] at hes
  split at hes
  · cases hes
  · rename_i hnone
    cases hes
    rw [Bool.not_eq_true, Option.isSome_eq_false_iff, Option.isNone_iff_eq_none] at hnone
    exact h.concat (notMem_of_lookup hnone) hitem

theorem Keyed.assign (h : es.Keyed) (hv : v.Keyed) (hes : assign header path key v es = some es') :
    es'.Keyed := by
  refine h.under (fun _ target target' htarget hunder => ?_) hes
  refine htarget.under (fun isDotted inner inner' hinner hadd => ?_) hunder
  split at hadd
  · cases hadd
  · exact hinner.add (.value hv) hadd

theorem Keyed.openTable (h : es.Keyed) (hes : openTable path key es = some es') : es'.Keyed := by
  refine h.under (fun _ target target' htarget hopen => ?_) hes
  split at hopen
  · rename_i hnone
    cases hopen
    exact htarget.concat (notMem_of_lookup hnone) (Keyed.nil.table .header)
  · rename_i sub hsome
    cases hopen
    refine (htarget.erase key).concat (notMem_erase target key) ?_
    cases htarget.of_lookup hsome with
    | table differ each => exact .table differ each
  · cases hopen

theorem Keyed.openElement (h : es.Keyed) (hes : openElement path key es = some es') : es'.Keyed := by
  refine h.under (fun _ target target' htarget hopen => ?_) hes
  split at hopen
  · rename_i hnone
    cases hopen
    refine htarget.concat (notMem_of_lookup hnone) ?_
    exact keyed_tables_concat (.tables (by simp) (by simp)) (List.nil_subset []) Keyed.nil
  · rename_i elements hsome
    cases hopen
    exact htarget.replace (keyed_tables_concat (htarget.of_lookup hsome) (List.Subset.refl elements) Keyed.nil)
  · cases hopen

end Entries

/-! ## What has been built -/

theorem entriesToValues_eq_map (es : Entries) : entriesToValues es = es.map fun e => (e.1, e.2.toValue) := by
  induction es with
  | nil => rw [entriesToValues, List.map_nil]
  | cons e es ih => rw [entriesToValues, ih, List.map_cons]

theorem elementsToValues_eq_map (elements : List Entries) :
    elementsToValues elements = elements.map fun es => .table (entriesToValues es) := by
  induction elements with
  | nil => rw [elementsToValues, List.map_nil]
  | cons es elements ih => rw [elementsToValues, ih, List.map_cons]

theorem map_fst_entriesToValues (es : Entries) : (entriesToValues es).map Prod.fst = es.map Prod.fst := by
  rw [entriesToValues_eq_map, List.map_map]
  rfl

/-- The entries of a table become a table, if each of them becomes a value with keys apart. -/
theorem keyed_entriesToValues (differ : (es.map Prod.fst).Nodup) (each : ∀ e ∈ es, e.2.toValue.Keyed) :
    (Value.table (entriesToValues es)).Keyed := by
  refine .table (by rwa [map_fst_entriesToValues]) fun e he => ?_
  rw [entriesToValues_eq_map] at he
  obtain ⟨old, hold, rfl⟩ := List.mem_map.1 he
  exact each old hold

theorem Item.Keyed.toValue (h : item.Keyed) : item.toValue.Keyed := by
  induction h with
  | value h =>
    rw [Item.toValue]
    exact h
  | table differ _ ih =>
    rw [Item.toValue]
    exact keyed_entriesToValues differ ih
  | tables differ _ ih =>
    rw [Item.toValue, elementsToValues_eq_map]
    refine .array fun v hv => ?_
    obtain ⟨es, hes, rfl⟩ := List.mem_map.1 hv
    exact keyed_entriesToValues (differ es hes) (ih es hes)

theorem Entries.Keyed.toValue (h : es.Keyed) : (Value.table (entriesToValues es)).Keyed :=
  keyed_entriesToValues h.differ fun e he => (h.each e he).toValue

/-! ## Values that are read -/

theorem scalar?_keyed {token : List Char} (h : scalar? token = some v) : v.Keyed := by
  rw [scalar?] at h
  split at h
  · cases h
    exact .boolean true
  split at h
  · cases h
    exact .boolean false
  split at h
  · cases h
    exact .integer _
  split_ifs at h
  · cases h
    exact .float _
  · cases h
    exact .datetime _

section

variable {value : List Char → Option (Value × List Char)} {n : Nat} {cs rest : List Char}

theorem readElements_keyed (hvalue : ∀ cs v rest, value cs = some (v, rest) → v.Keyed) {elements : List Value}
    (h : readElements value n cs = some (elements, rest)) : ∀ v ∈ elements, v.Keyed := by
  induction n generalizing cs elements rest with
  | zero => cases h
  | succ n ih =>
    rw [readElements] at h
    split at h
    · cases h
      exact fun v hv => absurd hv List.not_mem_nil
    · split at h
      · cases h
      · rename_i v behind hv
        have hkeyed := hvalue _ _ _ hv
        split at h
        · cases h
          exact List.forall_mem_singleton.2 hkeyed
        · obtain ⟨r, hr, heq⟩ := Option.map_eq_some_iff.1 h
          cases heq
          exact List.forall_mem_cons.2 ⟨hkeyed, ih hr⟩
        · cases h
    · cases h

theorem readAssignment_keyed (hvalue : ∀ cs v rest, value cs = some (v, rest) → v.Keyed) {name : Key}
    (h : readAssignment value cs = some (name, v, rest)) : v.Keyed := by
  rw [readAssignment] at h
  split at h
  · obtain ⟨r, hr, heq⟩ := Option.map_eq_some_iff.1 h
    cases heq
    exact hvalue _ _ _ hr
  · cases h

theorem readInline_keyed (hvalue : ∀ cs v rest, value cs = some (v, rest) → v.Keyed) (hes : es.Keyed)
    (h : readInline value n es cs = some (es', rest)) : es'.Keyed := by
  induction n generalizing es cs with
  | zero => cases h
  | succ n ih =>
    rw [readInline] at h
    split at h
    · cases h
    · rename_i hread
      split at h
      · cases h
      · rename_i hassign
        have hnext := hes.assign (readAssignment_keyed hvalue hread) hassign
        split at h
        · cases h
          exact hnext
        · exact ih hnext h
        · cases h

end

theorem readValue_keyed {depth : Nat} {cs rest : List Char} (h : readValue depth cs = some (v, rest)) :
    v.Keyed := by
  induction depth generalizing cs v rest with
  | zero =>
    unfold readValue at h
    split at h
    · obtain ⟨r, -, heq⟩ := Option.map_eq_some_iff.1 h
      cases heq
      exact .string _
    · obtain ⟨r, -, heq⟩ := Option.map_eq_some_iff.1 h
      cases heq
      exact .string _
    · cases h
    · cases h
    · obtain ⟨r, hr, heq⟩ := Option.map_eq_some_iff.1 h
      cases heq
      exact scalar?_keyed hr
  | succ depth ih =>
    unfold readValue at h
    split at h
    · obtain ⟨r, -, heq⟩ := Option.map_eq_some_iff.1 h
      cases heq
      exact .string _
    · obtain ⟨r, -, heq⟩ := Option.map_eq_some_iff.1 h
      cases heq
      exact .string _
    · obtain ⟨r, hr, heq⟩ := Option.map_eq_some_iff.1 h
      cases heq
      exact .array (readElements_keyed (fun _ _ _ => ih) hr)
    · dsimp only at h
      split at h
      · cases h
        exact .table List.nodup_nil fun e he => absurd he List.not_mem_nil
      · obtain ⟨r, hr, heq⟩ := Option.map_eq_some_iff.1 h
        cases heq
        exact (readInline_keyed (fun _ _ _ => ih) Entries.Keyed.nil hr).toValue
    · obtain ⟨r, hr, heq⟩ := Option.map_eq_some_iff.1 h
      cases heq
      exact scalar?_keyed hr

/-! ## Documents that are read -/

/-- The value of an assignment has its keys apart. -/
def Line.Keyed (line : Line) : Prop := ∀ key v, line = .assignment key v → v.Keyed

theorem readLine_keyed {line : Line} {cs rest : List Char} (h : readLine cs = some (line, rest)) :
    line.Keyed := by
  rintro key v rfl
  rw [readLine] at h
  split at h
  · split at h
    · obtain ⟨r, -, heq⟩ := Option.map_eq_some_iff.1 h
      cases heq
    · cases h
  · split at h
    · obtain ⟨r, -, heq⟩ := Option.map_eq_some_iff.1 h
      cases heq
    · cases h
  · split at h
    · cases h
    · split at h
      · rename_i hread
        obtain ⟨r, -, heq⟩ := Option.map_eq_some_iff.1 h
        cases heq
        exact readAssignment_keyed (fun _ _ _ => readValue_keyed) hread
      · cases h

theorem readLines_keyed {n : Nat} {cs : List Char} {lines : List Line} (h : readLines n cs = some lines) :
    ∀ line ∈ lines, line.Keyed := by
  induction n generalizing cs lines with
  | zero =>
    cases cs with
    | nil =>
      cases h
      exact fun line hline => absurd hline List.not_mem_nil
    | cons c cs => cases h
  | succ n ih =>
    cases cs with
    | nil =>
      cases h
      exact fun line hline => absurd hline List.not_mem_nil
    | cons c cs =>
      rw [readLines] at h
      · split at h
        · rename_i hline
          obtain ⟨more, hmore, rfl⟩ := Option.map_eq_some_iff.1 h
          exact List.forall_mem_cons.2 ⟨readLine_keyed hline, ih hmore⟩
        · cases h
      · exact List.cons_ne_nil c cs

/-- Lines keep the keys of the document apart that they add to. -/
theorem build_keyed {lines : List Line} (hlines : ∀ line ∈ lines, line.Keyed) (h : es.Keyed)
    (hbuild : build header es lines = some es') : es'.Keyed := by
  induction lines generalizing header es with
  | nil =>
    cases hbuild
    exact h
  | cons line lines ih =>
    obtain ⟨hline, hmore⟩ := List.forall_mem_cons.1 hlines
    cases line with
    | blank => exact ih hmore h hbuild
    | assignment key v =>
      obtain ⟨mid, hmid, hrest⟩ := Option.bind_eq_some_iff.1 hbuild
      exact ih hmore (h.assign (hline key v rfl) hmid) hrest
    | table key =>
      obtain ⟨mid, hmid, hrest⟩ := Option.bind_eq_some_iff.1 hbuild
      exact ih hmore (h.openTable hmid) hrest
    | element key =>
      obtain ⟨mid, hmid, hrest⟩ := Option.bind_eq_some_iff.1 hbuild
      exact ih hmore (h.openElement hmid) hrest

/-- A text that is a document has distinct keys in each of its tables. -/
theorem read?_keyed {text : String} {entries : List (String × Value)} (h : read? text = some entries) :
    (Value.table entries).Keyed := by
  obtain ⟨lines, hlines, hentries⟩ := Option.bind_eq_some_iff.1 h
  obtain ⟨es, hes, rfl⟩ := Option.map_eq_some_iff.1 hentries
  exact (build_keyed (readLines_keyed hlines) Entries.Keyed.nil hes).toValue

end DocRunner.Toml
