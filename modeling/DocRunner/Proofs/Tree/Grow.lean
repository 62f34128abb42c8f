import DocRunner.Proofs.Tree.Walk
import DocRunner.Tree.Access

/-!
# What writing leaves of a tree

* `Tree.lookup_put_self`, `Tree.lookup_put_of_not_suffix` : `put` changes an entry and what stands below it;
* `Tree.Grows t t'` : from `t` to `t'` nothing has gone, but files may have been written over
  (`Grows.refl`, `Grows.trans`);
* `Tree.Grows.writeFile` : writing a file, with the directories on the way to it, lets a tree grow;
* `Tree.Grows.resolveDirectory` : in a grown tree a path that led to a directory leads to the same one;
* `Tree.LeadsAsBefore start path t t'` : if the path leads to a directory in `t'`, it led to the same one in
  `t`. This is so whenever entries have only gone (`Shrinks.leadsAsBefore`), and when a tree has grown in which
  the path led to a directory (`Grows.leadsAsBefore`).
-/

namespace DocRunner

/-- Files and tools are what a write may put a file in the place of. -/
def Entry.IsPlain (e : Entry) : Prop := e ≠ .directory ∧ ∀ target, e ≠ .link target

namespace Tree

variable {t t' : Tree}

/-! ## Putting an entry -/

theorem records_lookup_put (t : Tree) (l m : Location) (e : Entry) :
    (t.put l e).records.lookup m = if m = l then some e else (t.erase l).records.lookup m := by
  rw [put, List.lookup_cons]
  by_cases h : m = l
  · rw [if_pos h, beq_iff_eq.2 h]
  · rw [if_neg h, beq_eq_false_iff_ne.2 h]

/-- Putting an entry changes nothing but what stands at or below it. -/
theorem lookup_put_of_not_suffix (t : Tree) {l m : Location} (e : Entry) (h : ¬ l <:+ m) :
    (t.put l e).lookup m = t.lookup m := by
  induction m with
  | nil => rfl
  | cons name up ih =>
    have hup : ¬ l <:+ up := fun hs => h (hs.trans (List.suffix_cons name up))
    have hne : name :: up ≠ l := fun heq => h (heq ▸ List.suffix_refl _)
    rw [lookup, lookup, ih hup, records_lookup_put, if_neg hne, records_lookup_erase, if_neg h]

theorem lookup_put_self {name : String} {up : Location} (hup : t.lookup up = some .directory)
    (hn : Path.isName name = true) (e : Entry) : (t.put (name :: up) e).lookup (name :: up) = some e := by
  have hput : (t.put (name :: up) e).lookup up = some .directory := by
    rw [lookup_put_of_not_suffix t e fun hs => absurd hs.length_le (by simp), hup]
  rw [lookup_cons_eq_some]
  exact ⟨hput, hn, by rw [records_lookup_put, if_pos rfl]⟩

/-! ## Growing -/

/-- Nothing has gone, but files may have been written over. -/
def Grows (t t' : Tree) : Prop :=
  ∀ l e, t.lookup l = some e →
    t'.lookup l = some e ∨ e.IsPlain ∧ ∃ bytes, t'.lookup l = some (.file bytes)

theorem Grows.refl (t : Tree) : Grows t t := fun _ _ h => Or.inl h

theorem Grows.trans {t'' : Tree} (h : Grows t t') (h' : Grows t' t'') : Grows t t'' := by
  intro l e he
  rcases h l e he with hsame | ⟨hplain, bytes, hfile⟩
  · exact h' l e hsame
  · rcases h' l _ hfile with hsame | ⟨-, hover⟩
    · exact Or.inr ⟨hplain, bytes, hsame⟩
    · exact Or.inr ⟨hplain, hover⟩

theorem Grows.directory (h : Grows t t') {l : Location} (hl : t.lookup l = some .directory) :
    t'.lookup l = some .directory := by
  rcases h l _ hl with hsame | ⟨hplain, -⟩
  · exact hsame
  · exact absurd rfl hplain.1

theorem Grows.link (h : Grows t t') {l : Location} {target : String} (hl : t.lookup l = some (.link target)) :
    t'.lookup l = some (.link target) := by
  rcases h l _ hl with hsame | ⟨hplain, -⟩
  · exact hsame
  · exact absurd rfl (hplain.2 target)

/-- Putting an entry where nothing stands. -/
theorem Grows.put_new {l : Location} (hl : t.lookup l = none) (e : Entry) : Grows t (t.put l e) := by
  intro m old hm
  have hnot : ¬ l <:+ m := fun hs => by
    rw [lookup_eq_none_of_suffix hl hs] at hm
    cases hm
  rw [lookup_put_of_not_suffix t e hnot]
  exact Or.inl hm

/-- Putting a file in the place of another, or of a tool. -/
theorem Grows.put_over {name : String} {up : Location} {old : Entry} (hl : t.lookup (name :: up) = some old)
    (hold : old.IsPlain) (bytes : ByteArray) : Grows t (t.put (name :: up) (.file bytes)) := by
  intro m e hm
  by_cases hs : name :: up <:+ m
  · by_cases heq : m = name :: up
    · subst heq
      rw [hl] at hm
      cases hm
      exact Or.inr ⟨hold, bytes, lookup_put_self (lookup_up hl) (isName_of_lookup hl) _⟩
    · -- below an entry something stands only if the entry is a directory
      have hdir := lookup_of_suffix hm ⟨hs, heq⟩
      rw [hl] at hdir
      cases hdir
      exact absurd rfl hold.1
  · rw [lookup_put_of_not_suffix t _ hs]
    exact Or.inl hm

/-! ## Writing -/

theorem Grows.makeDirectories (here : Location) (names : List String) :
    Grows t (t.makeDirectories here names).1 := by
  fun_induction Tree.makeDirectories t here names with
  | case1 t here => exact Grows.refl t
  | case2 t here rest ih => exact ih
  | case3 t here rest _ ih => exact ih
  | case4 => exact Grows.refl _
  | case5 t here name rest _ _ _ hnone ih => exact (Grows.put_new hnone .directory).trans ih
  | case6 => exact Grows.refl _
  | case7 t here name rest _ _ _ _ _ place _ ih => exact ih

theorem Grows.writeIn (budget : Nat) (parent : Location) (name : String) (bytes : ByteArray) :
    Grows t (t.writeIn budget parent name bytes) := by
  fun_induction Tree.writeIn t budget parent name bytes with
  | case1 => exact Grows.refl t
  | case2 => exact Grows.refl t
  | case3 => exact Grows.refl t
  | case4 => exact Grows.refl t
  | case5 => exact Grows.refl t
  | case6 budget parent name _ target _ last _ next _ ih => exact ih
  | case7 budget parent name _ hdir hlink =>
    cases hl : t.lookup (name :: parent) with
    | none => exact Grows.put_new hl _
    | some old =>
      refine Grows.put_over hl ⟨?_, fun target => ?_⟩ bytes
      · rintro rfl
        exact hdir hl
      · rintro rfl
        exact hlink target hl

/-- Writing a file lets a tree grow, whether or not it can be done. -/
theorem Grows.writeFile (t : Tree) (start : Location) (path : String) (bytes : ByteArray) :
    Grows t (t.writeFile start path bytes) := by
  unfold Tree.writeFile
  cases checkPath path with
  | error why => exact Grows.refl t
  | ok _ =>
    cases (Path.components path).getLast? with
    | none => exact Grows.refl t
    | some last =>
      have hmade := Grows.makeDirectories (t := t) (origin path start) (Path.components path).dropLast
      dsimp only
      split
      · rename_i made why hm
        rwa [hm] at hmade
      · rename_i made parent hm
        rw [hm] at hmade
        exact hmade.trans (Grows.writeIn linkLimit parent last bytes)

/-! ## Walks in a grown tree -/

/-- The walk ends in a directory, or at a link in one. -/
def EndsInDirectory (t : Tree) : Walk → Prop
  | .arrived place => t.lookup place = some .directory
  | .refused _ => False
  | .linked _ base _ => t.lookup base = some .directory

variable {here place : Location} {names : List String}

/-- As far as the first link, a walk that does not end at a file goes as before. -/
theorem Grows.advance (h : Grows t t') (hw : t.EndsInDirectory (t.advance here names)) :
    t'.advance here names = t.advance here names := by
  induction names generalizing here with
  | nil => rw [advance_nil, advance_nil]
  | cons name names ih =>
    rcases advance_cases t here name with hd | ⟨hd, rfl | rfl | ⟨h₁, h₂, h₃ | h₃⟩⟩
    · rw [advance_of_not_directory hd] at hw
      exact hw.elim
    · rw [advance_dot hd] at hw ⊢
      rw [advance_dot (h.directory hd), ih hw]
    · rw [advance_dotdot hd] at hw ⊢
      rw [advance_dotdot (h.directory hd), ih hw]
    · rw [advance_long hd h₁ h₂ h₃] at hw
      exact hw.elim
    · rw [advance_name hd h₁ h₂ h₃] at hw ⊢
      rw [advance_name (h.directory hd) h₁ h₂ h₃]
      cases hl : t.lookup (name :: here) with
      | none =>
        rw [hl] at hw
        exact hw.elim
      | some e =>
        rw [hl] at hw
        rcases h _ _ hl with hl' | ⟨hplain, -⟩
        · rw [hl']
          cases e with
          | link target => rfl
          | directory => exact ih hw
          | file bytes => exact ih hw
          | tool program => exact ih hw
        · -- a walk does not go on behind a file, and it must not end there
          have hend : ¬ t.EndsInDirectory (t.advance (name :: here) names) := by
            intro hgo
            have hnot : t.lookup (name :: here) ≠ some .directory := fun hdir => by
              rw [hl] at hdir
              cases hdir
              exact hplain.1 rfl
            cases names with
            | nil => exact hnot hgo
            | cons next names =>
              rw [advance_of_not_directory hnot] at hgo
              exact hgo
          cases e with
          | link target => exact absurd rfl (hplain.2 target)
          | directory => exact absurd rfl hplain.1
          | file bytes => exact absurd hw hend
          | tool program => exact absurd hw hend

/-- A walk to a directory ends there in a grown tree as well. -/
theorem Grows.follow (h : Grows t t') {budget : Nat} (hf : t.follow budget here names = .ok place)
    (hd : t.lookup place = some .directory) : t'.follow budget here names = .ok place := by
  fun_induction Tree.follow t budget here names with
  | case1 budget here names p hx =>
    cases hf
    exact follow_of_arrived (by rw [h.advance (by rwa [hx]), hx])
  | case2 => cases hf
  | case3 => cases hf
  | case4 here names target base rest hx budget ih =>
    have hbase : t.EndsInDirectory (t.advance here names) := by
      rw [hx]
      exact lookup_of_advance_linked hx
    rw [follow_of_linked (by rw [h.advance hbase, hx])]
    exact ih hf

/-- A path that led to a directory leads to the same one in a grown tree. -/
theorem Grows.resolveDirectory (h : Grows t t') {start d : Location} {path : String}
    (hd : t.resolveDirectory start path = .ok d) : t'.resolveDirectory start path = .ok d := by
  obtain ⟨hr, hdir⟩ := resolveDirectory_eq_ok.1 hd
  refine resolveDirectory_eq_ok.2 ⟨?_, h.directory hdir⟩
  unfold Tree.resolve at hr ⊢
  cases hc : checkPath path with
  | error why =>
    rw [hc] at hr
    cases hr
  | ok _ =>
    rw [hc] at hr
    exact h.follow hr hdir

/-! ## Where a path leads in a changed tree -/

/-- If a path leads to a directory in the later tree, it led to the same one in the earlier. -/
def LeadsAsBefore (start : Location) (path : String) (t t' : Tree) : Prop :=
  ∀ d, t'.resolveDirectory start path = .ok d → t.resolveDirectory start path = .ok d

theorem LeadsAsBefore.refl (start : Location) (path : String) (t : Tree) :
    LeadsAsBefore start path t t := fun _ h => h

theorem LeadsAsBefore.trans {start : Location} {path : String} {t t' t'' : Tree}
    (h : LeadsAsBefore start path t t') (h' : LeadsAsBefore start path t' t'') :
    LeadsAsBefore start path t t'' := fun d hd => h d (h' d hd)

theorem Shrinks.leadsAsBefore (h : Shrinks t t') (path : String) : LeadsAsBefore [] path t t' := by
  intro d hd
  obtain ⟨hr, hdir⟩ := resolveDirectory_eq_ok.1 hd
  have hroot : t'.lookup [] = t.lookup [] := rfl
  rcases h.resolve hroot path with heq | hn
  · exact resolveDirectory_eq_ok.2 ⟨heq ▸ hr, h _ _ hdir⟩
  · rw [hn] at hr
    cases hr

theorem Grows.leadsAsBefore (h : Grows t t') {start d : Location} {path : String}
    (hd : t.resolveDirectory start path = .ok d) : LeadsAsBefore start path t t' := by
  intro there hthere
  rw [h.resolveDirectory hd] at hthere
  rw [hd, hthere]

end Tree

end DocRunner
