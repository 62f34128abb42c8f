import DocRunner.Tree.Basic
import Mathlib.Data.List.Sort
import Mathlib.Data.String.Basic

/-!
# What erasing leaves of a tree

* `Location.IsBelow l d` : `l` stands properly below `d`;
* `Tree.lookup_of_suffix` : above an entry there are only directories;
* `Tree.lookup_erase_of_suffix`, `Tree.lookup_erase_of_not_suffix` : `erase` takes an entry with all below it,
  and takes nothing else; `Tree.eraseNames t d names` takes several entries of a directory;
* `Tree.Shrinks t t'` : from `t` to `t'` entries have only gone (`Shrinks.refl`,
  `Shrinks.trans`, `Shrinks.erase`);
* `Tree.mem_names`, `Tree.names_pairwise` : the names in a directory are those of its entries, strictly rising;
* `Tree.Shrinks.names_eq` : the names in a directory of a shrunk tree are the old ones that still have an entry.
-/

namespace DocRunner

/-- A location stands below a directory, at any depth. -/
def Location.IsBelow (l d : Location) : Prop := d <:+ l ∧ l ≠ d

namespace Tree

/-! ## Looking up -/

@[simp] theorem lookup_nil (t : Tree) : t.lookup [] = some .directory := rfl

theorem lookup_cons_eq_some {t : Tree} {name : String} {up : Location} {e : Entry} :
    t.lookup (name :: up) = some e ↔
      t.lookup up = some .directory ∧ Path.isName name = true ∧ t.records.lookup (name :: up) = some e := by
  rw [lookup]
  split
  · rename_i h
    simp [h]
  · rename_i h
    simp only [reduceCtorEq, false_iff, not_and]
    intro hup
    exact absurd hup h

theorem lookup_up {t : Tree} {name : String} {up : Location} {e : Entry} (h : t.lookup (name :: up) = some e) :
    t.lookup up = some .directory := (lookup_cons_eq_some.1 h).1

theorem isName_of_lookup {t : Tree} {name : String} {up : Location} {e : Entry}
    (h : t.lookup (name :: up) = some e) : Path.isName name = true := (lookup_cons_eq_some.1 h).2.1

theorem lookup_tail {t : Tree} {l : Location} (h : t.lookup l = some .directory) :
    t.lookup l.tail = some .directory := by
  cases l with
  | nil => rfl
  | cons name up => exact lookup_up h

/-- Above an entry there are only directories. -/
theorem lookup_of_suffix {t : Tree} {d l : Location} {e : Entry} (hl : t.lookup l = some e) (h : l.IsBelow d) :
    t.lookup d = some .directory := by
  obtain ⟨hs, hne⟩ := h
  induction l generalizing e with
  | nil => exact absurd (List.suffix_nil.1 hs).symm hne
  | cons name up ih =>
    have hup := lookup_up hl
    rcases List.suffix_cons_iff.1 hs with rfl | hs
    · exact absurd rfl hne
    · by_cases hd : up = d
      · rw [← hd, hup]
      · exact ih hup hs hd

/-- Where nothing stands, nothing stands below. -/
theorem lookup_eq_none_of_suffix {t : Tree} {d l : Location} (hd : t.lookup d = none) (h : d <:+ l) :
    t.lookup l = none := by
  by_cases hne : l = d
  · rw [hne, hd]
  · cases hl : t.lookup l with
    | none => rfl
    | some e =>
      rw [lookup_of_suffix hl ⟨h, hne⟩] at hd
      cases hd

/-! ## Erasing -/

theorem lookup_filter_fst {α β : Type} [BEq α] [LawfulBEq α] (keep : α → Bool) (rs : List (α × β)) (k : α) :
    (rs.filter fun r => keep r.1).lookup k = if keep k then rs.lookup k else none := by
  induction rs with
  | nil => simp
  | cons r rs ih =>
    obtain ⟨key, value⟩ := r
    rw [List.filter_cons]
    by_cases hk : k = key
    · subst hk
      by_cases hkeep : keep k = true
      · rw [if_pos hkeep, if_pos hkeep, List.lookup_cons_self, List.lookup_cons_self]
      · rw [if_neg hkeep, ih, if_neg hkeep, if_neg hkeep]
    · have hbeq : (k == key) = false := beq_false_of_ne hk
      by_cases hkeep : keep key = true
      · rw [if_pos hkeep, List.lookup_cons, List.lookup_cons, hbeq]
        exact ih
      · rw [if_neg hkeep, ih, List.lookup_cons, hbeq]

theorem records_lookup_erase (t : Tree) (l m : Location) :
    (t.erase l).records.lookup m = if l <:+ m then none else t.records.lookup m := by
  rw [erase, lookup_filter_fst (fun k : Location => !l.isSuffixOf k)]
  by_cases hs : l <:+ m
  · rw [if_pos hs, List.isSuffixOf_iff_suffix.2 hs]
    rfl
  · have hfalse : l.isSuffixOf m = false := by rwa [← Bool.not_eq_true, List.isSuffixOf_iff_suffix]
    rw [if_neg hs, hfalse]
    rfl

/-- Erasing an entry takes all that stands below it. -/
theorem lookup_erase_of_suffix (t : Tree) {name : String} {up m : Location} (h : name :: up <:+ m) :
    (t.erase (name :: up)).lookup m = none := by
  cases m with
  | nil => simp at h
  | cons other rest =>
    cases hm : (t.erase (name :: up)).lookup (other :: rest) with
    | none => rfl
    | some e =>
      have hrec := (lookup_cons_eq_some.1 hm).2.2
      rw [records_lookup_erase, if_pos h] at hrec
      cases hrec

/-- Erasing an entry changes nothing but what stands at or below it. -/
theorem lookup_erase_of_not_suffix (t : Tree) {l m : Location} (h : ¬ l <:+ m) :
    (t.erase l).lookup m = t.lookup m := by
  induction m with
  | nil => rfl
  | cons other rest ih =>
    have hrest : ¬ l <:+ rest := fun hs => h (hs.trans (List.suffix_cons other rest))
    rw [lookup, lookup, ih hrest, records_lookup_erase, if_neg h]

/-- Of two entries of a directory, neither stands at or below the other. -/
theorem not_suffix_of_ne {name other : String} {d : Location} (h : name ≠ other) :
    ¬ name :: d <:+ other :: d := by
  intro hs
  have he := hs.eq_of_length rfl
  cases he
  exact h rfl

/-- A location stands at or below at most one entry of a directory. -/
theorem eq_of_suffix_of_suffix {name other : String} {d l : Location} (h : name :: d <:+ l)
    (h' : other :: d <:+ l) : name = other := by
  by_contra hne
  exact not_suffix_of_ne hne (List.suffix_of_suffix_length_le h h' (by simp))

/-- What stands below a directory stands at or below one of its entries. -/
theorem exists_name_of_isBelow {l d : Location} (h : l.IsBelow d) : ∃ name, name :: d <:+ l := by
  obtain ⟨⟨front, rfl⟩, hne⟩ := h
  rcases List.eq_nil_or_concat front with rfl | ⟨front, name, rfl⟩
  · exact absurd rfl hne
  · exact ⟨name, front, by simp⟩

/-- What stands at or below an entry of a directory stands below the directory. -/
theorem isBelow_of_suffix {name : String} {l d : Location} (h : name :: d <:+ l) : l.IsBelow d := by
  refine ⟨(List.suffix_cons name d).trans h, ?_⟩
  rintro rfl
  exact absurd h.length_le (by simp)

/-- A tree without some of the entries of a directory. -/
def eraseNames (t : Tree) (d : Location) (names : List String) : Tree :=
  names.foldl (fun t name => t.erase (name :: d)) t

/-! ## Shrinking -/

/-- Entries have only gone. -/
def Shrinks (t t' : Tree) : Prop := ∀ l e, t'.lookup l = some e → t.lookup l = some e

theorem Shrinks.refl (t : Tree) : Shrinks t t := fun _ _ h => h

theorem Shrinks.trans {t t' t'' : Tree} (h : Shrinks t t') (h' : Shrinks t' t'') : Shrinks t t'' :=
  fun l e hl => h l e (h' l e hl)

theorem Shrinks.erase (t : Tree) (name : String) (up : Location) : Shrinks t (t.erase (name :: up)) := by
  intro l e hl
  by_cases hs : name :: up <:+ l
  · rw [lookup_erase_of_suffix t hs] at hl
    cases hl
  · rwa [lookup_erase_of_not_suffix t hs] at hl

theorem Shrinks.lookup_eq_none {t t' : Tree} (h : Shrinks t t') {l : Location} (hl : t.lookup l = none) :
    t'.lookup l = none := by
  cases hl' : t'.lookup l with
  | none => rfl
  | some e =>
    rw [h l e hl'] at hl
    cases hl

/-! ## The names in a directory -/

theorem mem_insertName {name other : String} {ns : List String} :
    other ∈ insertName name ns ↔ other = name ∨ other ∈ ns := by
  induction ns with
  | nil => simp [insertName]
  | cons n ns ih =>
    rw [insertName]
    split_ifs with hlt heq
    · simp
    · simp [heq]
    · simp only [List.mem_cons, ih]
      tauto

theorem mem_sortNames {name : String} {ns : List String} : name ∈ sortNames ns ↔ name ∈ ns := by
  induction ns with
  | nil => rfl
  | cons n ns ih => rw [sortNames, List.foldr_cons, mem_insertName, List.mem_cons, ← ih, sortNames]

theorem pairwise_insertName {name : String} {ns : List String} (h : ns.Pairwise (· < ·)) :
    (insertName name ns).Pairwise (· < ·) := by
  induction ns with
  | nil => exact List.pairwise_singleton _ _
  | cons n ns ih =>
    obtain ⟨hn, hns⟩ := List.pairwise_cons.1 h
    rw [insertName]
    split_ifs with hlt heq
    · refine List.pairwise_cons.2 ⟨fun m hm => ?_, h⟩
      rcases List.mem_cons.1 hm with rfl | hm
      · exact hlt
      · exact hlt.trans (hn m hm)
    · exact h
    · have hgt : n < name := lt_of_le_of_ne (not_lt.1 hlt) (fun e => heq e.symm)
      refine List.pairwise_cons.2 ⟨fun m hm => ?_, ih hns⟩
      rcases mem_insertName.1 hm with rfl | hm
      · exact hgt
      · exact hn m hm

theorem pairwise_sortNames (ns : List String) : (sortNames ns).Pairwise (· < ·) := by
  induction ns with
  | nil => exact List.Pairwise.nil
  | cons n ns ih => exact pairwise_insertName ih

theorem nameBelow_eq_some {d l : Location} {name : String} :
    nameBelow d l = some name ↔ l = name :: d ∧ Path.isName name = true := by
  cases l with
  | nil => simp [nameBelow]
  | cons other up =>
    simp only [nameBelow, Option.ite_none_right_eq_some, Bool.and_eq_true, decide_eq_true_eq, Option.some.injEq,
      List.cons.injEq]
    constructor
    · rintro ⟨⟨rfl, hn⟩, rfl⟩
      exact ⟨⟨rfl, rfl⟩, hn⟩
    · rintro ⟨⟨rfl, rfl⟩, hn⟩
      exact ⟨⟨rfl, hn⟩, rfl⟩

/-- The names in a directory are those that an entry stands at. -/
theorem mem_names {t : Tree} {d : Location} {name : String} :
    name ∈ t.names d ↔ ∃ e, t.lookup (name :: d) = some e := by
  simp only [lookup_cons_eq_some, exists_and_left]
  rw [names]
  split
  · rename_i hd
    rw [mem_sortNames, List.mem_filterMap]
    simp only [nameBelow_eq_some, hd, true_and]
    constructor
    · rintro ⟨r, hr, hl, hn⟩
      refine ⟨hn, Option.isSome_iff_exists.1 (List.lookup_isSome_iff.2 ⟨r, hr, ?_⟩)⟩
      simp [hl]
    · rintro ⟨hn, e, he⟩
      obtain ⟨r, hr, hl⟩ := List.lookup_isSome_iff.1 (Option.isSome_iff_exists.2 ⟨e, he⟩)
      exact ⟨r, hr, (by simpa using hl : name :: d = r.1).symm, hn⟩
  · rename_i hd
    simp only [List.not_mem_nil, false_iff, not_and]
    intro h
    exact absurd h hd

theorem names_pairwise (t : Tree) (d : Location) : (t.names d).Pairwise (· < ·) := by
  rw [names]
  split
  · exact pairwise_sortNames _
  · exact List.Pairwise.nil

/-- The names before one name are the smaller ones. -/
theorem mem_before_iff {t : Tree} {d : Location} {before after : List String} {name other : String}
    (h : t.names d = before ++ name :: after) (ho : other ∈ t.names d) : other ∈ before ↔ other < name := by
  have hsorted := names_pairwise t d
  rw [h, List.pairwise_append, List.pairwise_cons] at hsorted
  obtain ⟨-, ⟨hafter, -⟩, hbefore⟩ := hsorted
  constructor
  · exact fun hb => hbefore other hb name List.mem_cons_self
  · intro hlt
    rw [h, List.mem_append, List.mem_cons] at ho
    rcases ho with hb | rfl | ha
    · exact hb
    · exact absurd hlt (lt_irrefl other)
    · exact absurd (hafter other ha) hlt.asymm

/-- What a shrunk tree has in a directory: the old names that still have an entry, in their old order. -/
theorem Shrinks.names_eq {t t' : Tree} (h : Shrinks t t') (d : Location) :
    t'.names d = (t.names d).filter fun name => (t'.lookup (name :: d)).isSome := by
  refine (names_pairwise t' d).eq_of_mem_iff ((names_pairwise t d).filter _) fun name => ?_
  rw [List.mem_filter, mem_names, mem_names, Option.isSome_iff_exists]
  constructor
  · rintro ⟨e, he⟩
    exact ⟨⟨e, h _ _ he⟩, e, he⟩
  · exact fun hn => hn.2

end Tree

end DocRunner
