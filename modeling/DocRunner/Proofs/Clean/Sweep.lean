import DocRunner.Proofs.Tree.Entry
import DocRunner.Recipe.Clean

/-!
# Sweeping the entries of a directory

`Recipe.removeEntries p names t` visits names in order. Each visit resolves the path of the entry anew, in the
tree that the visits before have left.

* `Swept p d done t t'` : `t'` is left of `t` when the names `done` in the directory `d` at the path `p` have
  been visited: nothing else has changed, and each of them is gone or is not found by its path;
* `removeEntries_swept` : every sweep comes to its end, or to an entry that it cannot remove;
* `removeEntries_skip` : names that are not found are passed over;
* `Tree.eraseNames`, `removeEntries_clears_iff` : a sweep takes all its entries exactly if each one is still
  found when those before it have gone;
* `clean_of_directory`, `clean_of_no_directory`, `clean_of_missing`, `clean_swept` : what
  `clean` does, in these terms.
-/

namespace DocRunner

namespace Recipe

open DocRunner.Tree

variable {t t' t₀ : Tree} {d : Location} {p name : String} {names : List String}

/-! ## One visit -/

/-- A visit erases the entry, passes it over, or fails. -/
theorem removePath_cases (h₀ : t₀.resolveDirectory [] p = .ok d) (h : Shrinks t₀ t)
    (hn : Path.isName name = true) :
    (t.isThere [] (Path.join p name) = true ∧ t.removePath [] (Path.join p name) = .ok (t.erase (name :: d))) ∨
      (t.resolve [] (Path.join p name) = .error .notFound ∧ t.removePath [] (Path.join p name) = .ok t) ∨
      ∃ why, why ≠ .notFound ∧ t.resolve [] (Path.join p name) = .error why ∧
        t.removePath [] (Path.join p name) = .error why := by
  have hrm := removePath_join h₀ h rfl hn
  cases hr : t.resolve [] (Path.join p name) with
  | ok place =>
    rw [hr] at hrm
    refine Or.inl ⟨?_, hrm⟩
    rw [isThere, hr]
    rfl
  | error why =>
    rw [hr] at hrm
    by_cases hw : why = .notFound
    · subst hw
      exact Or.inr (Or.inl ⟨rfl, hrm⟩)
    · refine Or.inr (Or.inr ⟨why, hw, rfl, ?_⟩)
      rw [hrm]
      cases why <;> first | rfl | exact absurd rfl hw

theorem removeEntries_cons (p name : String) (names : List String) (t : Tree) :
    removeEntries p (name :: names) t =
      match t.removePath [] (Path.join p name) with
      | .error why => .fail (.notRemoved (Path.join p name) why) t
      | .ok t' => removeEntries p names t' := by rfl

theorem removeEntries_of_ok (h : t.removePath [] (Path.join p name) = .ok t') (names : List String) :
    removeEntries p (name :: names) t = removeEntries p names t' := by
  rw [removeEntries_cons, h]

theorem removeEntries_of_error {why : Refusal} (h : t.removePath [] (Path.join p name) = .error why)
    (names : List String) :
    removeEntries p (name :: names) t = .fail (.notRemoved (Path.join p name) why) t := by
  rw [removeEntries_cons, h]

/-! ## A whole sweep -/

/-- What is left when some names in a directory have been visited. -/
structure Swept (p : String) (d : Location) (done : List String) (t t' : Tree) : Prop where
  shrinks : Shrinks t t'
  outside : ∀ l, (∀ name ∈ done, ¬ name :: d <:+ l) → t'.lookup l = t.lookup l
  settled : ∀ name ∈ done, t'.lookup (name :: d) = none ∨ t'.resolve [] (Path.join p name) = .error .notFound

theorem Swept.nil (p : String) (d : Location) (t : Tree) : Swept p d [] t t :=
  ⟨Shrinks.refl t, fun _ _ => rfl, fun _ h => absurd h List.not_mem_nil⟩

theorem Swept.erased {done : List String} (h : Swept p d done (t.erase (name :: d)) t') :
    Swept p d (name :: done) t t' := by
  refine ⟨(Shrinks.erase t name d).trans h.shrinks, fun l hl => ?_, fun other ho => ?_⟩
  · obtain ⟨hname, hdone⟩ := List.forall_mem_cons.1 hl
    rw [h.outside l hdone, lookup_erase_of_not_suffix t hname]
  · rcases List.mem_cons.1 ho with rfl | ho
    · exact Or.inl (h.shrinks.lookup_eq_none (lookup_erase_of_suffix t (List.suffix_refl _)))
    · exact h.settled other ho

theorem Swept.skipped {done : List String} (hr : t.resolve [] (Path.join p name) = .error .notFound)
    (h : Swept p d done t t') : Swept p d (name :: done) t t' := by
  refine ⟨h.shrinks, fun l hl => h.outside l (List.forall_mem_cons.1 hl).2, fun other ho => ?_⟩
  rcases List.mem_cons.1 ho with rfl | ho
  · exact Or.inr (h.shrinks.resolve_notFound rfl hr)
  · exact h.settled other ho

/-- A sweep leaves what does not stand below the directory. -/
theorem Swept.lookup_of_not_isBelow {done : List String} (h : Swept p d done t t') {l : Location}
    (hl : ¬ l.IsBelow d) : t'.lookup l = t.lookup l := h.outside l fun _ _ hs => hl (isBelow_of_suffix hs)

/-- A sweep leaves the directory itself. -/
theorem Swept.lookup_directory {done : List String} (h : Swept p d done t t') : t'.lookup d = t.lookup d :=
  h.lookup_of_not_isBelow fun hbelow => hbelow.2 rfl

/-- After a sweep the directory is found as before, or nothing is found at its path. -/
theorem Swept.directory_or_notFound {done : List String} (h : Swept p d done t t')
    (hd : t.resolveDirectory [] p = .ok d) :
    t'.resolveDirectory [] p = .ok d ∨ t'.resolve [] p = .error .notFound := by
  obtain ⟨hp, hdir⟩ := resolveDirectory_eq_ok.1 hd
  have hroot : t'.lookup [] = t.lookup [] := rfl
  rcases h.shrinks.resolve hroot p with heq | hn
  · exact Or.inl (resolveDirectory_eq_ok.2 ⟨heq.trans hp, h.lookup_directory.trans hdir⟩)
  · exact Or.inr hn

/-- How a sweep ends: with all names visited, or at a name that cannot be removed, with those
behind it not visited. -/
inductive SweepEnd (p : String) : List String → Outcome → Prop
  | all {o : Outcome} : o.result = .ok () → SweepEnd p [] o
  | stuck {o : Outcome} {name : String} (rest : List String) {why : Refusal} :
      o.result = .error (.notRemoved (Path.join p name) why) → o.tree.resolve [] (Path.join p name) = .error why →
      o.tree.removePath [] (Path.join p name) = .error why → why ≠ .notFound → SweepEnd p (name :: rest) o

/-- Every sweep comes to its end, or to an entry that it cannot remove. -/
theorem removeEntries_swept (h₀ : t₀.resolveDirectory [] p = .ok d) (h : Shrinks t₀ t)
    (hn : ∀ name ∈ names, Path.isName name = true) :
    ∃ done rest, names = done ++ rest ∧ Swept p d done t (removeEntries p names t).tree ∧
      SweepEnd p rest (removeEntries p names t) := by
  induction names generalizing t with
  | nil => exact ⟨[], [], rfl, Swept.nil p d t, SweepEnd.all rfl⟩
  | cons name names ih =>
    obtain ⟨hname, hnames⟩ := List.forall_mem_cons.1 hn
    rcases removePath_cases h₀ h hname with ⟨-, hrm⟩ | ⟨hr, hrm⟩ | ⟨why, hw, hr, hrm⟩
    · obtain ⟨done, rest, hsplit, hswept, hend⟩ := ih (h.trans (Shrinks.erase t name d)) hnames
      rw [removeEntries_of_ok hrm]
      exact ⟨name :: done, rest, by rw [hsplit, List.cons_append], hswept.erased, hend⟩
    · obtain ⟨done, rest, hsplit, hswept, hend⟩ := ih h hnames
      rw [removeEntries_of_ok hrm]
      exact ⟨name :: done, rest, by rw [hsplit, List.cons_append], hswept.skipped hr, hend⟩
    · rw [removeEntries_of_error hrm]
      exact ⟨[], name :: names, rfl, Swept.nil p d t, SweepEnd.stuck names rfl hr hrm hw⟩

/-- Names that are not found are passed over. -/
theorem removeEntries_skip (h : ∀ name ∈ names, t.resolve [] (Path.join p name) = .error .notFound)
    (rest : List String) : removeEntries p (names ++ rest) t = removeEntries p rest t := by
  induction names with
  | nil => rfl
  | cons name names ih =>
    obtain ⟨hname, hnames⟩ := List.forall_mem_cons.1 h
    have hrm : t.removePath [] (Path.join p name) = .ok t := by rw [removePath, hname]
    rw [List.cons_append, removeEntries_of_ok hrm, ih hnames]

/-- What holds of all ways to split a list holds of the first name, and of all ways to split the others. -/
theorem forall_split_cons {P : List String → String → Prop} :
    (∀ before other after, name :: names = before ++ other :: after → P before other) ↔
      P [] name ∧ ∀ before other after, names = before ++ other :: after → P (name :: before) other := by
  constructor
  · intro h
    exact ⟨h [] name names rfl,
      fun before other after hsplit => h (name :: before) other after (by rw [hsplit]; rfl)⟩
  · rintro ⟨hname, hnames⟩ before other after hsplit
    cases before with
    | nil =>
      cases hsplit
      exact hname
    | cons first before =>
      cases hsplit
      exact hnames before other after rfl

/-- A sweep takes all its entries exactly if each one is still found when those before it have gone. -/
theorem removeEntries_clears_iff (h₀ : t₀.resolveDirectory [] p = .ok d) (h : Shrinks t₀ t)
    (hn : ∀ name ∈ names, ∃ e, t.lookup (name :: d) = some e) (hnd : names.Nodup) :
    ((removeEntries p names t).result = .ok () ∧
        ∀ name ∈ names, (removeEntries p names t).tree.lookup (name :: d) = none) ↔
      ∀ before name after, names = before ++ name :: after →
        (t.eraseNames d before).isThere [] (Path.join p name) = true := by
  induction names generalizing t with
  | nil =>
    constructor
    · intro _ before name after hsplit
      simp at hsplit
    · exact fun _ => ⟨rfl, fun _ hname => absurd hname List.not_mem_nil⟩
  | cons name names ih =>
    obtain ⟨⟨e, he⟩, hnames⟩ := List.forall_mem_cons.1 hn
    obtain ⟨hnot, hnd⟩ := List.nodup_cons.1 hnd
    have hisName : ∀ other ∈ names, Path.isName other = true := fun other ho =>
      (hnames other ho).elim fun _ => isName_of_lookup
    rw [forall_split_cons]
    rcases removePath_cases h₀ h (isName_of_lookup he) with ⟨hthere, hrm⟩ | ⟨hr, hrm⟩ | ⟨why, hw, hr, hrm⟩
    · have hstep := h.trans (Shrinks.erase t name d)
      have hleft : ∀ other ∈ names, ∃ e, (t.erase (name :: d)).lookup (other :: d) = some e := by
        intro other ho
        have hne : name ≠ other := fun heq => hnot (heq ▸ ho)
        rw [lookup_erase_of_not_suffix t (not_suffix_of_ne hne)]
        exact hnames other ho
      obtain ⟨done, rest, -, hswept, -⟩ := removeEntries_swept h₀ hstep hisName
      have hgone := hswept.shrinks.lookup_eq_none (lookup_erase_of_suffix t (List.suffix_refl (name :: d)))
      rw [removeEntries_of_ok hrm, List.forall_mem_cons, and_iff_right hgone, ih hstep hleft hnd]
      exact (and_iff_right hthere).symm
    · refine iff_of_false ?_ ?_
      · rintro ⟨-, hall⟩
        obtain ⟨done, rest, hsplit, hswept, -⟩ := removeEntries_swept h₀ h hisName
        have hne : ∀ other ∈ done, other ≠ name := fun other ho heq =>
          hnot (hsplit ▸ List.mem_append_left rest (heq ▸ ho))
        have hkept := hswept.outside (name :: d) fun other ho => not_suffix_of_ne (hne other ho)
        have hgone := hall name List.mem_cons_self
        rw [removeEntries_of_ok hrm, hkept, he] at hgone
        cases hgone
      · rintro ⟨hthere, -⟩
        rw [isThere, eraseNames, List.foldl_nil, hr] at hthere
        cases hthere
    · refine iff_of_false ?_ ?_
      · rintro ⟨hok, -⟩
        rw [removeEntries_of_error hrm] at hok
        cases hok
      · rintro ⟨hthere, -⟩
        rw [isThere, eraseNames, List.foldl_nil, hr] at hthere
        cases hthere

/-! ## Cleaning -/

variable {sh : Shell} {s : Settings}

/-- Where the build directory is there, cleaning is a sweep over the names in it. -/
theorem clean_of_directory (h : t.resolveDirectory [] (sh.path s.buildDir) = .ok d) :
    (clean sh s t).tree = (removeEntries (sh.path s.buildDir) (t.names d) t).tree ∧
      (clean sh s t).result = (removeEntries (sh.path s.buildDir) (t.names d) t).result := by
  rw [clean, if_pos (isThere_of_ok (resolveDirectory_eq_ok.1 h).1), emptyDirectory, readDirectory, h]
  exact ⟨rfl, rfl⟩

/-- Where there is no directory, cleaning changes nothing. -/
theorem clean_of_no_directory (h : ∀ d, t.resolveDirectory [] (sh.path s.buildDir) ≠ .ok d) :
    (clean sh s t).tree = t := by
  rw [clean]
  split
  · rw [Outcome.tree_after, emptyDirectory, readDirectory]
    cases hd : t.resolveDirectory [] (sh.path s.buildDir) with
    | error why => rfl
    | ok d => exact absurd hd (h d)
  · rfl

/-- Where nothing is found, cleaning succeeds. -/
theorem clean_of_missing {why : Refusal} (h : t.resolve [] (sh.path s.buildDir) = .error why) :
    (clean sh s t).tree = t ∧ (clean sh s t).result = .ok () := by
  rw [clean, isThere_of_error h]
  exact ⟨rfl, rfl⟩

/-- The sweep that cleaning an existing directory is. -/
theorem clean_swept (h : t.resolveDirectory [] (sh.path s.buildDir) = .ok d) :
    ∃ done rest, t.names d = done ++ rest ∧ Swept (sh.path s.buildDir) d done t (clean sh s t).tree ∧
      SweepEnd (sh.path s.buildDir) rest (clean sh s t) := by
  obtain ⟨htree, hresult⟩ := clean_of_directory h
  have hn : ∀ name ∈ t.names d, Path.isName name = true := fun name hname =>
    (mem_names.1 hname).elim fun _ => isName_of_lookup
  obtain ⟨done, rest, hsplit, hswept, hend⟩ := removeEntries_swept h (Shrinks.refl t) hn
  refine ⟨done, rest, hsplit, htree ▸ hswept, ?_⟩
  cases hend with
  | all hok => exact SweepEnd.all (hresult.trans hok)
  | stuck rest hfail hres hrm hw =>
    refine SweepEnd.stuck rest (hresult.trans hfail) ?_ ?_ hw
    · rw [htree, hres]
    · rw [htree, hrm]

end Recipe

end DocRunner
