import DocRunner.Proofs.Tree.Grow

/-!
# Trees that look alike

The records of a tree may hold more than can be seen: what stands at no location counts for nothing. Two trees
are alike if every location shows the same in both.

* `Tree.Alike t t'` : the same stands everywhere (`Alike.symm`, `Alike.trans`);
* `Tree.Alike.resolve`, `Tree.Alike.resolveDirectory` : every path leads to the same place;
* `Tree.Alike.put`, `Tree.Alike.writeFile` : trees that are alike stay so when the same is written;
* `Tree.emptied t d` : a tree without anything below `d`; trees that differ only there are then
  alike (`Tree.Alike.emptied`).
-/

namespace DocRunner.Tree

variable {t t' t'' : Tree} {d here start : Location} {names : List String} {path : String}

/-- The same stands at every location. -/
def Alike (t t' : Tree) : Prop := ∀ l, t.lookup l = t'.lookup l

theorem Alike.symm (h : Alike t t') : Alike t' t := fun l => (h l).symm

theorem Alike.trans (h : Alike t t') (h' : Alike t' t'') : Alike t t'' := fun l => (h l).trans (h' l)

/-! ## Walking -/

theorem Alike.advance (h : Alike t t') (here : Location) (names : List String) :
    t.advance here names = t'.advance here names := by
  induction names generalizing here with
  | nil => rfl
  | cons name names ih =>
    rw [advance_cons, advance_cons, h here, h (name :: here), ih here, ih here.tail, ih (name :: here)]

theorem Alike.follow (h : Alike t t') (budget : Nat) (here : Location) (names : List String) :
    t.follow budget here names = t'.follow budget here names := by
  induction budget generalizing here names with
  | zero => rw [follow_eq, follow_eq t', h.advance]
  | succ budget ih =>
    rw [follow_eq, follow_eq t', h.advance]
    cases t'.advance here names with
    | arrived place => rfl
    | refused why => rfl
    | linked target base rest => exact ih _ _

theorem Alike.resolve (h : Alike t t') (start : Location) (path : String) :
    t.resolve start path = t'.resolve start path := by
  unfold Tree.resolve
  rw [h.follow]

theorem Alike.resolveDirectory (h : Alike t t') (start : Location) (path : String) :
    t.resolveDirectory start path = t'.resolveDirectory start path := by
  unfold Tree.resolveDirectory
  rw [h.resolve]
  cases t'.resolve start path with
  | error why => rfl
  | ok place =>
    dsimp only
    rw [h place]

/-! ## Writing -/

theorem Alike.put (h : Alike t t') (l : Location) (e : Entry) : Alike (t.put l e) (t'.put l e) := by
  intro m
  by_cases hs : l <:+ m
  · induction m with
    | nil => rfl
    | cons name up ih =>
      -- at or below the new entry the old records do not count any more
      have hup : (t.put l e).lookup up = (t'.put l e).lookup up := by
        by_cases hl : l <:+ up
        · exact ih hl
        · rw [lookup_put_of_not_suffix t e hl, lookup_put_of_not_suffix t' e hl, h up]
      rw [lookup, lookup, hup, records_lookup_put, records_lookup_put, records_lookup_erase, records_lookup_erase,
        if_pos hs, if_pos hs]
  · rw [lookup_put_of_not_suffix t e hs, lookup_put_of_not_suffix t' e hs, h m]

theorem Alike.makeDirectories (h : Alike t t') (here : Location) (names : List String) :
    Alike (t.makeDirectories here names).1 (t'.makeDirectories here names).1 ∧
      (t.makeDirectories here names).2 = (t'.makeDirectories here names).2 := by
  induction names generalizing t t' here with
  | nil => exact ⟨h, rfl⟩
  | cons name names ih =>
    unfold Tree.makeDirectories
    split_ifs
    · exact ih h here
    · exact ih h here.tail
    · exact ⟨h, rfl⟩
    · rw [h (name :: here), h.follow]
      cases t'.lookup (name :: here) with
      | none => exact ih (h.put _ _) _
      | some e =>
        dsimp only
        cases t'.follow linkLimit here [name, "."] with
        | error why => exact ⟨h, rfl⟩
        | ok place => exact ih h place

theorem Alike.writeIn (h : Alike t t') (budget : Nat) (parent : Location) (name : String) (bytes : ByteArray) :
    Alike (t.writeIn budget parent name bytes) (t'.writeIn budget parent name bytes) := by
  induction budget generalizing parent name with
  | zero =>
    rw [writeIn.eq_def, writeIn.eq_def t', h (name :: parent)]
    split_ifs
    · exact h
    · split
      · exact h
      · exact h
      · exact h.put _ _
  | succ budget ih =>
    rw [writeIn.eq_def, writeIn.eq_def t', h (name :: parent)]
    split_ifs
    · exact h
    · split
      · exact h
      · dsimp only
        split
        · exact h
        · rw [h.follow]
          split
          · exact h
          · exact ih _ _
      · exact h.put _ _

theorem Alike.writeFile (h : Alike t t') (start : Location) (path : String) (bytes : ByteArray) :
    Alike (t.writeFile start path bytes) (t'.writeFile start path bytes) := by
  unfold Tree.writeFile
  cases checkPath path with
  | error why => exact h
  | ok _ =>
    cases (Path.components path).getLast? with
    | none => exact h
    | some last =>
      have hmade := h.makeDirectories (origin path start) (Path.components path).dropLast
      dsimp only
      generalize t.makeDirectories (origin path start) (Path.components path).dropLast = way at hmade
      generalize t'.makeDirectories (origin path start) (Path.components path).dropLast = way' at hmade
      obtain ⟨made, reached⟩ := way
      obtain ⟨made', reached'⟩ := way'
      obtain ⟨halike, rfl⟩ : Alike made made' ∧ reached = reached' := hmade
      cases reached with
      | error why => exact halike
      | ok parent => exact halike.writeIn linkLimit parent last bytes

/-! ## Emptying a directory -/

/-- A tree without anything below a directory. -/
def emptied (t : Tree) (d : Location) : Tree := t.eraseNames d (t.names d)

theorem Shrinks.eraseNames (t : Tree) (d : Location) (names : List String) :
    Shrinks t (t.eraseNames d names) := by
  induction names generalizing t with
  | nil => exact Shrinks.refl t
  | cons name names ih => exact (Shrinks.erase t name d).trans (ih _)

theorem lookup_eraseNames_of_mem {name : String} {l : Location} (hname : name ∈ names) (hs : name :: d <:+ l) :
    (t.eraseNames d names).lookup l = none := by
  induction names generalizing t with
  | nil => cases hname
  | cons first names ih =>
    rcases List.mem_cons.1 hname with rfl | hname
    · exact (Shrinks.eraseNames _ d names).lookup_eq_none (lookup_erase_of_suffix t hs)
    · exact ih hname

theorem lookup_eraseNames_of_not_isBelow {l : Location} (hl : ¬ l.IsBelow d) :
    (t.eraseNames d names).lookup l = t.lookup l := by
  induction names generalizing t with
  | nil => rfl
  | cons name names ih =>
    have hs : ¬ name :: d <:+ l := fun hs => hl (isBelow_of_suffix hs)
    exact ih.trans (lookup_erase_of_not_suffix t hs)

theorem lookup_emptied_of_isBelow (t : Tree) {l : Location} (hl : l.IsBelow d) :
    (t.emptied d).lookup l = none := by
  obtain ⟨name, hs⟩ := exists_name_of_isBelow hl
  by_cases hname : name ∈ t.names d
  · exact lookup_eraseNames_of_mem hname hs
  · have hnone : t.lookup (name :: d) = none := by
      rw [mem_names, not_exists] at hname
      exact Option.eq_none_iff_forall_ne_some.2 hname
    exact (Shrinks.eraseNames t d _).lookup_eq_none (lookup_eq_none_of_suffix hnone hs)

theorem lookup_emptied_of_not_isBelow (t : Tree) {l : Location} (hl : ¬ l.IsBelow d) :
    (t.emptied d).lookup l = t.lookup l := lookup_eraseNames_of_not_isBelow hl

/-- A tree with nothing below a directory, and the same elsewhere, is alike the emptied one. -/
theorem alike_emptied (hgone : ∀ l : Location, l.IsBelow d → t'.lookup l = none)
    (hkept : ∀ l : Location, ¬ l.IsBelow d → t'.lookup l = t.lookup l) : Alike t' (t.emptied d) := by
  intro l
  by_cases hl : l.IsBelow d
  · rw [hgone l hl, lookup_emptied_of_isBelow t hl]
  · rw [hkept l hl, lookup_emptied_of_not_isBelow t hl]

/-- Trees that differ below a directory only are alike when it is emptied. -/
theorem Alike.emptied (h : ∀ l : Location, ¬ l.IsBelow d → t.lookup l = t'.lookup l) :
    Alike (t.emptied d) (t'.emptied d) :=
  alike_emptied (fun _ => lookup_emptied_of_isBelow t) fun l hl =>
    (lookup_emptied_of_not_isBelow t hl).trans (h l hl)

end DocRunner.Tree
