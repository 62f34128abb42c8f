import DocRunner.Proofs.Tree.Physical
import DocRunner.Proofs.Tree.Way

/-!
# Two texts for one directory

What is joined to a directory's text leads where it leads from that directory, whatever the text is, short of
the limits on the length of a path and on the links that it runs through.

* `Tree.SameDirectory t dir dir'` : in the tree both texts lead to one directory, or neither leads anywhere;
* `Tree.SameLimits t dir dir' q` : the limits do not tell the two apart when `q` is looked up;
* `Tree.SameDirectory.resolve_join`, `Tree.SameDirectory.removePath_join` : what is looked up
  and removed is the same;
* `Tree.resolveDirectory_path` : where a path leads to a directory, the path of that directory does so as well;
* `Tree.Evolves.sameDirectory` : both stay texts for one directory in a tree that changes under the first, as
  long as nothing goes that this one passes before it.
-/

namespace DocRunner

namespace Tree

/-- Two absolute texts lead to one directory, or there is nothing where they lead. -/
structure SameDirectory (t : Tree) (dir dir' : String) : Prop where
  absolute : Path.isAbsolute dir = true
  absolute' : Path.isAbsolute dir' = true
  leads : (∃ d, t.resolveDirectory [] dir = .ok d ∧ t.resolveDirectory [] dir' = .ok d) ∨
    t.resolve [] dir = .error .notFound ∧ t.resolve [] dir' = .error .notFound

/-- The limits do not tell two texts apart when a path is looked up that is joined to them: either both paths
are too long or none is, and either both run through too many links or none does. -/
structure SameLimits (t : Tree) (dir dir' q : String) : Prop where
  size : pathLimit < (Path.join dir q).utf8ByteSize ↔ pathLimit < (Path.join dir' q).utf8ByteSize
  links : t.resolve [] (Path.join dir q) = .error .linkLoop ↔ t.resolve [] (Path.join dir' q) = .error .linkLoop

variable {t : Tree} {d here : Location} {names : List String} {p q : String}

theorem isThere_congr (h : t.resolve [] p = t.resolve [] q) : t.isThere [] p = t.isThere [] q := by
  rw [isThere, isThere, h]

theorem readDirectory_congr (h : t.resolve [] p = t.resolve [] q) :
    t.readDirectory [] p = t.readDirectory [] q := by
  rw [readDirectory, readDirectory, resolveDirectory, resolveDirectory, h]

theorem readText_congr (h : t.resolve [] p = t.resolve [] q) : t.readText [] p = t.readText [] q := by
  rw [readText, readText, h]

theorem resolve_of_absolute (h : Path.isAbsolute q = true) (start : Location) :
    t.resolve start q = t.resolve [] q := by
  rw [resolve, resolve, origin, origin, if_pos h, if_pos h]

/-- Two walks that differ in the links they may run through end alike, if both run through
too many or none does. -/
theorem follow_eq_of_loop_iff {budget more : Nat}
    (h : t.follow budget here names = .error .linkLoop ↔ t.follow more here names = .error .linkLoop) :
    t.follow budget here names = t.follow more here names := by
  by_cases hloop : t.follow budget here names = .error .linkLoop
  · rw [hloop, h.1 hloop]
  · rcases Nat.le_total budget more with hle | hle
    · exact (follow_mono rfl hloop hle).symm
    · exact follow_mono rfl (mt h.2 hloop) hle

/-- A path that is joined to a directory's text is read there, with the links that are left. -/
theorem follow_stem_append (hd : t.resolveDirectory [] p = .ok d) :
    ∃ left, ∀ names, t.follow linkLimit [] (Path.stem p ++ names) = t.follow left d names := by
  obtain ⟨-, hstem⟩ := follow_stem hd
  rw [origin_root] at hstem
  obtain ⟨left, -, hleft⟩ := follow_append_ok (follow_dot.1 hstem).1
  exact ⟨left, hleft⟩

/-- Behind a text that leads to nothing, no name is reached. -/
theorem follow_stem_append_of_notFound (hp : p ≠ "") (h : t.resolve [] p = .error .notFound)
    (names : List String) : t.follow linkLimit [] (Path.stem p ++ names) = .error .notFound := by
  apply follow_append_error
  rw [resolve, checkPath_of_notFound hp h, origin_root, Path.components_eq] at h
  dsimp only at h
  split_ifs at h
  · exact notFound_of_follow_dot h
  · rwa [List.append_nil] at h

/-- What the check of a joined path says depends on the text in front only by its length. -/
theorem resolve_join_eq (hp : checkPath p = .ok ()) (q : String) :
    t.resolve [] (Path.join p q) =
      if '\x00' ∈ q.toList then .error .nulInPath
      else if pathLimit < (Path.join p q).utf8ByteSize then .error .nameTooLong
      else t.follow linkLimit [] (Path.components (Path.join p q)) := by
  obtain ⟨hnul, hne, -⟩ := checkPath_eq_ok.1 hp
  have hcontains : (Path.join p q).toList.contains '\x00' = true ↔ '\x00' ∈ q.toList := by
    rw [List.contains_iff_mem, Path.nul_mem_join_iff hnul]
  rw [resolve, checkPath, if_congr hcontains rfl rfl, if_neg (Path.join_ne_empty_of_left hne q), origin_root]
  split_ifs <;> rfl

/-- The entry that a joined path names stands where all names but its last lead to from
the directory in front. -/
theorem exists_resolveEntry_join {place : Location} (hd : t.resolveDirectory [] p = .ok d) (hne : q ≠ "")
    (hq : Path.isAbsolute q = false) (hplace : t.resolve [] (Path.join p q) = .ok place) :
    ∃ left parent last, (Path.components q).getLast? = some last ∧
      t.follow left d ((Path.components q).dropLast ++ ["."]) = .ok parent ∧
      t.resolveEntry [] (Path.join p q) = .ok (last :: parent) := by
  obtain ⟨left, hleft⟩ := follow_stem_append hd
  obtain ⟨names, last, hlast⟩ : ∃ names last, Path.components q = names ++ [last] := by
    rcases List.eq_nil_or_concat (Path.components q) with hnil | ⟨names, last, hlast⟩
    · exact absurd hnil (Path.components_ne_nil hne hq)
    · exact ⟨names, last, by rwa [List.concat_eq_append] at hlast⟩
  have hcheck := checkPath_of_resolve hplace
  have hjoin := Path.components_join_of_relative p hne hq
  rw [resolve, hcheck, origin_root, hjoin] at hplace
  dsimp only at hplace
  rw [hleft, hlast] at hplace
  obtain ⟨parent, hparent⟩ := follow_parent hplace
  refine ⟨left, parent, last, by rw [hlast, List.getLast?_concat], by rwa [hlast, List.dropLast_concat], ?_⟩
  rw [resolveEntry, hcheck, origin_root, hjoin, hlast, ← List.append_assoc]
  simp only [List.getLast?_concat, List.dropLast_concat]
  rw [List.append_assoc, hleft, hparent]

namespace SameDirectory

variable {dir dir' : String}

theorem ne_empty (h : t.SameDirectory dir dir') : dir ≠ "" := Path.ne_empty_of_isAbsolute h.absolute

theorem ne_empty' (h : t.SameDirectory dir dir') : dir' ≠ "" := Path.ne_empty_of_isAbsolute h.absolute'

theorem checkPath_eq (h : t.SameDirectory dir dir') : checkPath dir = .ok () ∧ checkPath dir' = .ok () := by
  rcases h.leads with ⟨d, hd, hd'⟩ | ⟨hgone, hgone'⟩
  · exact ⟨(follow_stem hd).1, (follow_stem hd').1⟩
  · exact ⟨checkPath_of_notFound h.ne_empty hgone, checkPath_of_notFound h.ne_empty' hgone'⟩

theorem resolveDirectory_eq (h : t.SameDirectory dir dir') :
    t.resolveDirectory [] dir = t.resolveDirectory [] dir' := by
  rcases h.leads with ⟨d, hd, hd'⟩ | ⟨hgone, hgone'⟩
  · rw [hd, hd']
  · rw [resolveDirectory, resolveDirectory, hgone, hgone']

/-- A path leads to the same place from both texts. -/
theorem resolve_join (h : t.SameDirectory dir dir') (hlimits : t.SameLimits dir dir' q) :
    t.resolve [] (Path.join dir q) = t.resolve [] (Path.join dir' q) := by
  by_cases hq : Path.isAbsolute q = true
  · rw [Path.join_of_absolute dir hq, Path.join_of_absolute dir' hq]
  · rw [Bool.not_eq_true] at hq
    obtain ⟨hsize, hlinks⟩ := hlimits
    obtain ⟨names, hnames⟩ := Path.exists_components_join hq
    rw [resolve_join_eq h.checkPath_eq.1, resolve_join_eq h.checkPath_eq.2, hnames dir h.ne_empty,
      hnames dir' h.ne_empty'] at hlinks ⊢
    split_ifs at hlinks ⊢ with hnul hlong hlong' hlong'
    · rfl
    · rfl
    · exact absurd (hsize.1 hlong) hlong'
    · exact absurd (hsize.2 hlong') hlong
    · rcases h.leads with ⟨d, hd, hd'⟩ | ⟨hgone, hgone'⟩
      · obtain ⟨left, hleft⟩ := follow_stem_append hd
        obtain ⟨left', hleft'⟩ := follow_stem_append hd'
        rw [hleft, hleft'] at hlinks ⊢
        exact follow_eq_of_loop_iff hlinks
      · rw [follow_stem_append_of_notFound h.ne_empty hgone, follow_stem_append_of_notFound h.ne_empty' hgone']

/-- Removing by a path does the same from both texts. -/
theorem removePath_join (h : t.SameDirectory dir dir') (hlimits : t.SameLimits dir dir' q) (hne : q ≠ "") :
    t.removePath [] (Path.join dir q) = t.removePath [] (Path.join dir' q) := by
  have hsame := h.resolve_join hlimits
  by_cases hq : Path.isAbsolute q = true
  · rw [Path.join_of_absolute dir hq, Path.join_of_absolute dir' hq]
  · rw [Bool.not_eq_true] at hq
    rw [removePath, removePath, ← hsame]
    cases hplace : t.resolve [] (Path.join dir q) with
    | error why => cases why <;> rfl
    | ok place =>
      have hplace' := hsame ▸ hplace
      rcases h.leads with ⟨d, hd, hd'⟩ | ⟨hgone, -⟩
      · -- both paths lead somewhere, so neither walk to the directory around that runs out of links
        obtain ⟨left, parent, last, hlast, hparent, hentry⟩ := exists_resolveEntry_join hd hne hq hplace
        obtain ⟨left', parent', last', hlast', hparent', hentry'⟩ := exists_resolveEntry_join hd' hne hq hplace'
        rw [hlast] at hlast'
        cases hlast'
        have hfollow : t.follow left d ((Path.components q).dropLast ++ ["."]) =
            t.follow left' d ((Path.components q).dropLast ++ ["."]) :=
          follow_eq_of_loop_iff (by rw [hparent, hparent']; simp)
        rw [hparent, hparent'] at hfollow
        cases hfollow
        rw [hentry, hentry']
      · obtain ⟨names, hnames⟩ := Path.exists_components_join hq
        rw [resolve, checkPath_of_resolve hplace, origin_root, hnames dir h.ne_empty] at hplace
        dsimp only at hplace
        rw [follow_stem_append_of_notFound h.ne_empty hgone] at hplace
        cases hplace

end SameDirectory

end Tree

/-! ## The path of a directory -/

/-- No name in a location is too long. -/
def Location.Fits (l : Location) : Prop := ∀ name ∈ l, name.utf8ByteSize ≤ nameLimit

/-- The walk ends where no name is too long, or at a link there. -/
def Walk.Fits : Walk → Prop
  | arrived place => place.Fits
  | refused _ => True
  | linked _ base _ => base.Fits

namespace Tree

variable {t : Tree} {d here : Location} {names : List String} {p : String}

theorem advance_fits (h : here.Fits) : (t.advance here names).Fits := by
  induction names generalizing here with
  | nil => exact h
  | cons name names ih =>
    rcases advance_cases t here name with hd | ⟨hd, rfl | rfl | ⟨h₁, h₂, h₃ | h₃⟩⟩
    · rw [advance_of_not_directory hd]
      trivial
    · rw [advance_dot hd]
      exact ih h
    · rw [advance_dotdot hd]
      exact ih fun name hname => h name (List.mem_of_mem_tail hname)
    · rw [advance_long hd h₁ h₂ h₃]
      trivial
    · rw [advance_name hd h₁ h₂ h₃]
      have hnext : Location.Fits (name :: here) := List.forall_mem_cons.2 ⟨by omega, h⟩
      split
      · trivial
      · exact h
      · exact ih hnext

/-- A walk passes no name that is too long. -/
theorem follow_fits {budget : Nat} (h : here.Fits) (hf : t.follow budget here names = .ok d) : d.Fits := by
  have hwalk : (t.advance here names).Fits := advance_fits h
  fun_induction Tree.follow t budget here names with
  | case1 budget here names place hx =>
    cases hf
    rwa [hx] at hwalk
  | case2 => cases hf
  | case3 => cases hf
  | case4 here names target base rest hx budget ih =>
    rw [hx] at hwalk
    have horigin : (origin target base).Fits := by
      unfold origin
      split
      · exact fun name hname => absurd hname List.not_mem_nil
      · exact hwalk
    exact ih horigin hf (advance_fits horigin)

theorem nul_notMem_path (h : t.lookup d = some .directory) : '\x00' ∉ d.path.toList := by
  intro hmem
  obtain ⟨name, hname, hnul⟩ := Path.exists_name_of_mem hmem (by decide)
  rw [Path.stem_path (isName_of_mem h), List.mem_reverse] at hname
  exact Path.nul_notMem_of_isName (isName_of_mem h name hname) hnul

/-- Where some path leads to a directory, so does the path of that directory. -/
theorem resolveDirectory_path (hd : t.resolveDirectory [] p = .ok d) (hsize : d.path.utf8ByteSize ≤ pathLimit) :
    t.resolveDirectory [] d.path = .ok d := by
  obtain ⟨hresolve, hdir⟩ := resolveDirectory_eq_ok.1 hd
  have hcheck : checkPath d.path = .ok () :=
    checkPath_eq_ok.2 ⟨nul_notMem_path hdir, Path.path_ne_empty d, not_lt.2 hsize⟩
  have hfits : d.Fits := by
    rw [resolve, checkPath_of_resolve hresolve, origin_root] at hresolve
    exact follow_fits (fun name hname => absurd hname List.not_mem_nil) hresolve
  have hdown : t.lookup (d.reverse.reverse ++ []) = some .directory := by
    rwa [List.append_nil, List.reverse_reverse]
  have harrived : t.advance [] d.reverse = .arrived d := by
    rcases advance_down hdown with harrived | ⟨-, name, hname, hlong⟩
    · rwa [List.append_nil, List.reverse_reverse] at harrived
    · exact absurd hlong (not_lt.2 (hfits name (List.mem_reverse.1 hname)))
  apply resolveDirectory_of_follow_stem hcheck
  rw [origin_root, Path.stem_path (isName_of_mem hdir)]
  exact follow_dot.2 ⟨follow_of_arrived harrived, hdir⟩

/-- As long as nothing goes that a path passes before its directory, the path of the directory is
a second text for it. -/
theorem Evolves.sameDirectory {u w : Tree} (h : Evolves p t u) (hon : Evolves p u w)
    (hp : Path.isAbsolute p = true) (hd : t.resolveDirectory [] p = .ok d)
    (hsize : d.path.utf8ByteSize ≤ pathLimit) (hkept : ∀ q, t.OnWay p q → q ≠ d → w.lookup q ≠ none) :
    u.SameDirectory p d.path := by
  refine ⟨hp, Path.isAbsolute_path d, ?_⟩
  rcases h.leads_or_gone hon hd hkept with hu | ⟨hgone, hlost, before, hbefore, hshrinks⟩
  · exact Or.inl ⟨d, hu, resolveDirectory_path hu hsize⟩
  · -- where the directory has gone, its own path leads nowhere either
    obtain ⟨hpath, -⟩ := resolveDirectory_eq_ok.1 (resolveDirectory_path hbefore hsize)
    have hroot : u.lookup [] = before.lookup [] := rfl
    rcases hshrinks.resolve hroot d.path with hsame | hlost'
    · obtain ⟨e, he, -⟩ := lookup_of_resolve hroot (hsame.trans hpath)
      rw [hgone] at he
      cases he
    · exact Or.inr ⟨hlost, hlost'⟩

end Tree

end DocRunner
