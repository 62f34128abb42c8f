import DocRunner.Proofs.Tree.Alike
import DocRunner.Proofs.Tree.Physical
import DocRunner.Proofs.Tree.Way

/-!
# Changes below a directory

* `Location.along here names` : where names without `..` lead from a directory, if no link stands on the way;
* `Tree.Unlinked t l` : no link stands at a location or on the way to it;
* `Tree.advance_along` : a walk on such a way arrives there, or not at all; down to a directory it arrives
  (`Tree.advance_directory`);
* `Tree.resolve_join_of_relative` : a relative path that is joined to the path of a
  directory is walked from there;
* `Tree.resolveDirectory_emptied_iff` : a path leads to its directory also without what stands below a place
  exactly if it passes nothing there;
* `Tree.ChangesBelow d t t'` : from `t` to `t'` only what stands below `d` has changed, but for directories that
  were missing on the way to it, and no link has been made (`ChangesBelow.refl`, `ChangesBelow.trans`);
* `Tree.ChangesBelow.writeFile` : writing to a path that leads down through `d` changes a tree in this way only.
-/

namespace DocRunner

/-- Where names without `..` lead from a directory, if no link stands on the way. -/
def Location.along (here : Location) (names : List String) : Location := (names.filter (· ≠ ".")).reverse ++ here

namespace Location

variable {here d l m : Location} {name : String} {names : List String}

theorem along_nil (here : Location) : here.along [] = here := rfl

theorem along_dot (here : Location) (names : List String) : here.along ("." :: names) = here.along names := rfl

theorem along_cons (h : name ≠ ".") (here : Location) (names : List String) :
    here.along (name :: names) = Location.along (name :: here) names := by
  rw [along, along, List.filter_cons_of_pos (by simpa using h), List.reverse_cons, List.append_assoc,
    List.singleton_append]

theorem along_append (here : Location) (xs ys : List String) :
    here.along (xs ++ ys) = (here.along xs).along ys := by
  rw [along, along, along, List.filter_append, List.reverse_append, List.append_assoc]

theorem suffix_along (here : Location) (names : List String) : here <:+ here.along names := List.suffix_append _ _

/-- A slash at the end of a path does not matter. -/
theorem along_components (here : Location) (path : String) :
    here.along (Path.components path) = here.along (Path.stem path) := by
  rw [Path.components_eq, along_append]
  split <;> rfl

/-- What stands below a directory stands below those around it. -/
theorem IsBelow.of_suffix (h : l.IsBelow here) (hd : d <:+ here) : l.IsBelow d := by
  obtain ⟨hs, hne⟩ := h
  refine ⟨hd.trans hs, ?_⟩
  rintro rfl
  exact hne (hd.eq_of_length_le hs.length_le)

/-- What stands at or above a location, and not below another one above it, stands at or above that. -/
theorem suffix_of_not_isBelow (hd : d <:+ l) (hm : m <:+ l) (h : ¬ m.IsBelow d) : m <:+ d := by
  rcases List.suffix_or_suffix_of_suffix hm hd with hmd | hdm
  · exact hmd
  · by_cases heq : m = d
    · exact heq ▸ List.suffix_refl m
    · exact absurd ⟨hdm, heq⟩ h

end Location

namespace Tree

variable {t t' t'' : Tree} {here place d l : Location} {name : String} {names : List String}

/-- No link stands at a location or on the way to it. -/
def Unlinked (t : Tree) (l : Location) : Prop :=
  ∀ m : Location, m <:+ l → ∀ target, t.lookup m ≠ some (.link target)

theorem Unlinked.of_suffix {m : Location} (h : t.Unlinked l) (hm : m <:+ l) : t.Unlinked m :=
  fun k hk => h k (hk.trans hm)

/-- On the way to a directory there are only directories. -/
theorem Unlinked.of_directory (h : t.lookup l = some .directory) : t.Unlinked l := by
  intro m hm target hlink
  by_cases heq : l = m
  · rw [← heq, h] at hlink
    cases hlink
  · rw [lookup_of_suffix h ⟨hm, heq⟩] at hlink
    cases hlink

/-! ## Walking where no link stands -/

/-- A walk on a way without links arrives where its names lead, or not at all. -/
theorem advance_along (hup : ".." ∉ names) (h : t.Unlinked (here.along names)) :
    t.advance here names = .arrived (here.along names) ∨ ∃ why, t.advance here names = .refused why := by
  induction names generalizing here with
  | nil => exact Or.inl (advance_nil t here)
  | cons name names ih =>
    obtain ⟨hname, hnames⟩ := List.ne_and_not_mem_of_not_mem_cons hup
    rcases advance_cases t here name with hd | ⟨hd, rfl | rfl | ⟨h₁, h₂, h₃ | h₃⟩⟩
    · exact Or.inr ⟨_, advance_of_not_directory hd⟩
    · rw [advance_dot hd]
      exact ih hnames h
    · exact absurd rfl hname
    · exact Or.inr ⟨_, advance_long hd h₁ h₂ h₃⟩
    · rw [Location.along_cons h₁] at h ⊢
      rw [advance_name hd h₁ h₂ h₃]
      cases hl : t.lookup (name :: here) with
      | none => exact Or.inr ⟨_, rfl⟩
      | some e =>
        cases e with
        | link target => exact absurd hl (h _ (Location.suffix_along _ _) target)
        | directory => exact ih hnames h
        | file bytes => exact ih hnames h
        | tool program => exact ih hnames h

theorem follow_along {budget : Nat} (hup : ".." ∉ names) (h : t.Unlinked (here.along names))
    (hf : t.follow budget here names = .ok place) : place = here.along names := by
  rcases advance_along hup h with harr | ⟨why, hrefused⟩
  · rw [follow_of_arrived harr] at hf
    cases hf
    rfl
  · rw [follow_of_refused hrefused] at hf
    cases hf

/-- A walk down to a directory along names that are not too long arrives. -/
theorem advance_directory (hdir : t.lookup (here.along names) = some .directory) (hup : ".." ∉ names)
    (hlen : ∀ name ∈ names, name.utf8ByteSize ≤ nameLimit) :
    t.advance here names = .arrived (here.along names) := by
  induction names generalizing here with
  | nil => exact advance_nil t here
  | cons name names ih =>
    obtain ⟨hname, hnames⟩ := List.ne_and_not_mem_of_not_mem_cons hup
    obtain ⟨hfit, hrest⟩ := List.forall_mem_cons.1 hlen
    have habove : ∀ {l : Location}, l <:+ here.along (name :: names) → t.lookup l = some .directory := by
      intro l hl
      by_cases heq : here.along (name :: names) = l
      · rwa [heq] at hdir
      · exact lookup_of_suffix hdir ⟨hl, heq⟩
    by_cases hdot : name = "."
    · subst hdot
      rw [advance_dot (habove (Location.suffix_along here _))]
      exact ih hdir hnames hrest
    · have hentry : t.lookup (name :: here) = some .directory := by
        rw [Location.along_cons hdot] at habove
        exact habove (Location.suffix_along _ _)
      rw [Location.along_cons hdot] at hdir ⊢
      rw [advance_name (lookup_up hentry) hdot (Ne.symm hname) (not_lt.2 hfit), hentry]
      exact ih hdir hnames hrest

/-! ## Paths read in a working directory -/

variable {p q : String}

/-- A relative path that is joined to the path of a directory is walked from that directory. -/
theorem resolve_join_of_relative (h : t.resolveDirectory [] p = .ok d) (hq : Path.isAbsolute q = false)
    (hcheck : checkPath (Path.join p q) = .ok ()) :
    ∃ left, t.resolve [] (Path.join p q) = t.follow left d (Path.components q) := by
  obtain ⟨hp, hstem⟩ := follow_stem h
  obtain ⟨hfollow, hdir⟩ := follow_dot.1 hstem
  obtain ⟨left, -, hleft⟩ := follow_append_ok hfollow
  refine ⟨left, ?_⟩
  rw [resolve, hcheck]
  dsimp only
  rw [origin_root] at hleft ⊢
  by_cases hempty : q = ""
  · -- an empty path asks for the directory itself
    subst hempty
    have hdot : t.follow left d ["."] = .ok d := follow_of_arrived (advance_dot hdir)
    rw [Path.components_join_empty (checkPath_eq_ok.1 hp).2.1, hleft, hdot]
    exact (follow_of_arrived (advance_nil t d)).symm
  · rw [Path.components_join_of_relative p hempty hq, hleft]

/-- A path leads to its directory also without what stands below a place exactly if it passes nothing there. -/
theorem resolveDirectory_emptied_iff (hp : t.resolveDirectory [] p = .ok d) :
    (t.emptied l).resolveDirectory [] p = .ok d ↔ ∀ q, t.OnWay p q → ¬ q.IsBelow l := by
  have hshrinks : Shrinks t (t.emptied l) := Shrinks.eraseNames t l _
  constructor
  · intro hempty q hq hbelow
    -- where more stands, the path still passes only what it passes in the emptied tree
    have hgrows : Grows (t.emptied l) t := fun m e he => Or.inl (hshrinks m e he)
    exact (hgrows.onWay hempty hq).2 (lookup_emptied_of_isBelow t hbelow)
  · intro hway
    rcases hshrinks.leads_or_lost hp with hsame | ⟨-, q, hq, hgone⟩
    · exact hsame
    · rw [lookup_emptied_of_not_isBelow t (hway q hq)] at hgone
      exact absurd hgone hq.2

/-- A directory that its own path leads to is found also without what stands below a directory in it. -/
theorem resolveDirectory_emptied (h : t.resolveDirectory [] d.path = .ok d) (hd : d <:+ l) :
    (t.emptied l).resolveDirectory [] d.path = .ok d := by
  obtain ⟨hres, hdir⟩ := resolveDirectory_eq_ok.1 h
  have hnot : ¬ d.IsBelow l := fun hbelow => hbelow.2 (hd.eq_of_length_le hbelow.1.length_le)
  have hkept : (t.emptied l).lookup d = some .directory := (lookup_emptied_of_not_isBelow t hnot).trans hdir
  have hdown : (t.emptied l).lookup (d.reverse.reverse ++ []) = some .directory := by
    rwa [List.append_nil, List.reverse_reverse]
  have harrived : (t.emptied l).advance [] d.reverse = .arrived d := by
    rcases advance_down hdown with harrived | ⟨hlong, -⟩
    · rwa [List.append_nil, List.reverse_reverse] at harrived
    · -- a name that is too long now would have been so before
      have hshrinks : Shrinks t (t.emptied l) := Shrinks.eraseNames t l _
      have hroot : (t.emptied l).lookup [] = t.lookup [] := rfl
      rcases hshrinks.advance hroot d.reverse with hsame | ⟨hlost, -⟩
      · exact hsame.trans (advance_reverse_of_path h)
      · rw [hlost] at hlong
        cases hlong
  refine resolveDirectory_of_follow_stem (checkPath_of_resolve hres) ?_
  rw [origin, Path.isAbsolute_path, if_pos rfl, Path.stem_path (isName_of_mem hdir)]
  exact follow_dot.2 ⟨follow_of_arrived harrived, hkept⟩

/-! ## Changes below a directory -/

/-- Only what stands below a directory has changed, but for directories that were missing on the way to it, and
no link has been made. -/
structure ChangesBelow (d : Location) (t t' : Tree) : Prop where
  outside : ∀ l : Location, ¬ l.IsBelow d →
    t'.lookup l = t.lookup l ∨ l <:+ d ∧ t.lookup l = none ∧ t'.lookup l = some .directory
  links : ∀ l target, t'.lookup l = some (.link target) → t.lookup l = some (.link target)

theorem ChangesBelow.refl (d : Location) (t : Tree) : ChangesBelow d t t :=
  ⟨fun _ _ => Or.inl rfl, fun _ _ h => h⟩

theorem ChangesBelow.trans (h : ChangesBelow d t t') (h' : ChangesBelow d t' t'') : ChangesBelow d t t'' where
  outside := by
    intro l hl
    rcases h.outside l hl with hsame | ⟨hway, hnone, hdir⟩
    · rcases h'.outside l hl with hsame' | ⟨hway, hnone', hdir'⟩
      · exact Or.inl (hsame'.trans hsame)
      · exact Or.inr ⟨hway, hsame ▸ hnone', hdir'⟩
    · rcases h'.outside l hl with hsame' | ⟨-, hnone', -⟩
      · exact Or.inr ⟨hway, hnone, hsame'.trans hdir⟩
      · rw [hdir] at hnone'
        cases hnone'
  links l target hl := h.links l target (h'.links l target hl)

theorem ChangesBelow.unlinked (h : ChangesBelow d t t') (hl : t.Unlinked l) : t'.Unlinked l :=
  fun m hm target hlink => hl m hm target (h.links m target hlink)

/-- What only takes entries away below a directory. -/
theorem ChangesBelow.of_shrinks (h : Shrinks t t')
    (hkept : ∀ l : Location, ¬ l.IsBelow d → t'.lookup l = t.lookup l) :
    ChangesBelow d t t' := ⟨fun l hl => Or.inl (hkept l hl), fun l _ hl => h l _ hl⟩

/-- Without what stands below the directory, nothing has gone. -/
theorem ChangesBelow.grows_emptied (h : ChangesBelow d t t') : Grows (t.emptied d) (t'.emptied d) := by
  intro l e he
  by_cases hl : l.IsBelow d
  · rw [lookup_emptied_of_isBelow t hl] at he
    cases he
  · rw [lookup_emptied_of_not_isBelow t hl] at he
    rw [lookup_emptied_of_not_isBelow t' hl]
    rcases h.outside l hl with hsame | ⟨-, hnone, -⟩
    · exact Or.inl (hsame.trans he)
    · rw [he] at hnone
      cases hnone

/-- At the place of an entry that is put, only that stands, and below it nothing. -/
theorem eq_of_lookup_put {up : Location} {e e' : Entry} (hs : name :: up <:+ l)
    (h : (t.put (name :: up) e).lookup l = some e') : l = name :: up ∧ e' = e := by
  cases l with
  | nil => simp at hs
  | cons other rest =>
    have hrecord := (lookup_cons_eq_some.1 h).2.2
    rw [records_lookup_put] at hrecord
    split at hrecord
    · rename_i heq
      exact ⟨heq, (Option.some.inj hrecord).symm⟩
    · rw [records_lookup_erase, if_pos hs] at hrecord
      cases hrecord

theorem links_put {up : Location} {e : Entry} {target : String} (he : ∀ target, e ≠ .link target)
    (h : (t.put (name :: up) e).lookup l = some (.link target)) : t.lookup l = some (.link target) := by
  by_cases hs : name :: up <:+ l
  · exact absurd (eq_of_lookup_put hs h).2.symm (he target)
  · rwa [lookup_put_of_not_suffix t e hs] at h

/-- Putting an entry below a directory. -/
theorem ChangesBelow.put {e : Entry} (hd : d <:+ here) (he : ∀ target, e ≠ .link target) :
    ChangesBelow d t (t.put (name :: here) e) where
  outside _ hl := Or.inl (lookup_put_of_not_suffix t e fun hs => hl ((isBelow_of_suffix hs).of_suffix hd))
  links _ _ h := links_put he h

/-- Making a directory where nothing stands, on the way to a location at or below the directory. -/
theorem ChangesBelow.put_directory (hd : d <:+ place) (hway : name :: here <:+ place)
    (hnone : t.lookup (name :: here) = none) : ChangesBelow d t (t.put (name :: here) .directory) where
  outside l hl := by
    by_cases hs : name :: here <:+ l
    · have hold := lookup_eq_none_of_suffix hnone hs
      cases hnew : (t.put (name :: here) .directory).lookup l with
      | none => exact Or.inl hold.symm
      | some e =>
        obtain ⟨rfl, rfl⟩ := eq_of_lookup_put hs hnew
        exact Or.inr ⟨Location.suffix_of_not_isBelow hd hway hl, hold, rfl⟩
    · exact Or.inl (lookup_put_of_not_suffix t _ hs)
  links _ _ h := links_put (by simp) h

/-! ## Writing below a directory -/

/-- Making the way to a location at or below a directory, where no link stands. -/
theorem ChangesBelow.makeDirectories (hup : ".." ∉ names) (hfree : t.Unlinked (here.along names))
    (hd : d <:+ here.along names) :
    ChangesBelow d t (t.makeDirectories here names).1 ∧
      ∀ parent, (t.makeDirectories here names).2 = .ok parent → parent = here.along names := by
  fun_induction Tree.makeDirectories t here names with
  | case1 t here =>
    refine ⟨.refl d t, fun parent h => ?_⟩
    cases h
    rfl
  | case2 t here rest ih => exact ih (List.ne_and_not_mem_of_not_mem_cons hup).2 hfree hd
  | case3 => exact absurd List.mem_cons_self hup
  | case4 t here => exact ⟨.refl d _, fun parent h => by cases h⟩
  | case5 t here name rest h₁ h₂ h₃ hnone ih =>
    rw [Location.along_cons h₁] at hfree hd ⊢
    have hmade := put_directory hd (Location.suffix_along _ _) hnone
    obtain ⟨hrest, hparent⟩ := ih (List.ne_and_not_mem_of_not_mem_cons hup).2 (hmade.unlinked hfree) hd
    exact ⟨hmade.trans hrest, hparent⟩
  | case6 t here => exact ⟨.refl d _, fun parent h => by cases h⟩
  | case7 t here name rest h₁ h₂ h₃ _ hentry there hthere ih =>
    rw [Location.along_cons h₁] at hfree hd ⊢
    have hplace : there = name :: here := by
      have hnames : ".." ∉ [name, "."] := by simp [Ne.symm h₂]
      have halong : here.along [name, "."] = name :: here := by
        rw [Location.along_cons h₁, Location.along_dot, Location.along_nil]
      rw [← halong] at hfree ⊢
      exact follow_along hnames (hfree.of_suffix (Location.suffix_along _ _)) hthere
    subst hplace
    exact ih (List.ne_and_not_mem_of_not_mem_cons hup).2 hfree hd

/-- Writing a file in a directory at or below another one, where no link stands. -/
theorem ChangesBelow.writeIn {budget : Nat} {bytes : ByteArray} (hd : d <:+ here)
    (hfree : t.Unlinked (here.along [name])) : ChangesBelow d t (t.writeIn budget here name bytes) := by
  rw [writeIn.eq_def]
  split
  · exact .refl d t
  · rename_i hname
    have hdot : name ≠ "." := by
      rintro rfl
      exact hname rfl
    rw [Location.along_cons hdot, Location.along_nil] at hfree
    split
    · exact .refl d t
    · rename_i target hlink
      exact absurd hlink (hfree _ (List.suffix_refl _) target)
    · exact .put hd (by simp)

/-- Writing to a path that leads down through a directory, where no link stands. -/
theorem ChangesBelow.writeFile {start : Location} {path : String} {bytes : ByteArray}
    (hup : ".." ∉ Path.components path) (hfree : t.Unlinked ((origin path start).along (Path.components path)))
    (hd : d <:+ (origin path start).along (Path.components path).dropLast) :
    ChangesBelow d t (t.writeFile start path bytes) := by
  unfold Tree.writeFile
  cases checkPath path with
  | error why => exact .refl d t
  | ok _ =>
    cases hlast : (Path.components path).getLast? with
    | none => exact .refl d t
    | some last =>
      rw [← List.dropLast_append_getLast? last hlast, Location.along_append] at hfree
      have hway := hfree.of_suffix (Location.suffix_along _ _)
      obtain ⟨hmade, hparent⟩ := makeDirectories (fun h => hup (List.dropLast_subset _ h)) hway hd
      dsimp only
      split
      · rename_i made why hm
        rwa [hm] at hmade
      · rename_i made parent hm
        rw [hm] at hmade hparent
        cases hparent parent rfl
        exact hmade.trans (.writeIn hd (hmade.unlinked hfree))

end Tree

end DocRunner
