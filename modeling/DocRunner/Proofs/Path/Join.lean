import DocRunner.Path
import Mathlib.Data.String.Basic

/-!
# Joining paths

* `Path.stem p` : the names that `p` walks through, whether or not a slash ends it;
* `Path.lead p` : a path with the slash that it needs in front of what is joined to it; `Path.join_of_relative`
  and `Path.components_join_of_relative` say what joining any relative path gives;
* `Path.join_assoc` : it does not matter which of three paths are joined first;
* `Path.components_join` : the path of an entry walks through the stem of its directory's
  path, then through its name;
* `Path.isAbsolute_join_of_absolute` : what is joined to an absolute path is absolute;
* `Path.exists_components_join` : a relative path walks through the same names behind the stem of any path;
* `Path.isAbsolute_join`, `Path.join_ne_empty` : the path of an entry starts where its directory's path
  starts, and is not empty.
-/

namespace DocRunner.Path

/-! ## Names -/

theorem ne_of_isName {name : String} (h : isName name = true) : name ≠ "" ∧ name ≠ "." ∧ name ≠ ".." := by
  simp only [isName, Bool.and_eq_true, decide_eq_true_eq] at h
  exact ⟨h.1.1.1.1, h.1.1.1.2, h.1.1.2⟩

theorem slash_notMem_of_isName {name : String} (h : isName name = true) : '/' ∉ name.toList := by
  simp only [isName, Bool.and_eq_true, Bool.not_eq_true'] at h
  simpa using h.1.2

theorem nul_notMem_of_isName {name : String} (h : isName name = true) : '\x00' ∉ name.toList := by
  simp only [isName, Bool.and_eq_true, Bool.not_eq_true'] at h
  simpa using h.2

theorem toList_ne_nil_of_isName {name : String} (h : isName name = true) : name.toList ≠ [] := by
  rw [Ne, String.toList_eq_nil_iff]
  exact (ne_of_isName h).1

/-! ## Pieces -/

theorem consFirst_append (c : Char) {xs : List (List Char)} (h : xs ≠ []) (ys : List (List Char)) :
    Text.consFirst c (xs ++ ys) = Text.consFirst c xs ++ ys := by
  cases xs with
  | nil => exact absurd rfl h
  | cons x xs => rfl

theorem piecesAt_ne_nil (sep : Char) (cs : List Char) : piecesAt sep cs ≠ [] := by
  cases cs with
  | nil => simp [piecesAt]
  | cons c cs =>
    rw [piecesAt]
    split
    · simp
    · cases piecesAt sep cs <;> simp [Text.consFirst]

theorem piecesAt_append (sep : Char) (xs ys : List Char) :
    piecesAt sep (xs ++ sep :: ys) = piecesAt sep xs ++ piecesAt sep ys := by
  induction xs with
  | nil => simp [piecesAt]
  | cons x xs ih =>
    rw [List.cons_append, piecesAt, piecesAt, ih]
    split
    · rfl
    · exact consFirst_append x (piecesAt_ne_nil sep xs) _

theorem piecesAt_of_notMem {sep : Char} {cs : List Char} (h : sep ∉ cs) : piecesAt sep cs = [cs] := by
  induction cs with
  | nil => rfl
  | cons c cs ih =>
    obtain ⟨hc, hcs⟩ := List.ne_and_not_mem_of_not_mem_cons h
    rw [piecesAt, if_neg (fun he => hc he.symm), ih hcs, Text.consFirst]

theorem exists_piece_of_mem {sep c : Char} {cs : List Char} (hc : c ∈ cs) (hne : c ≠ sep) :
    ∃ piece ∈ piecesAt sep cs, c ∈ piece := by
  induction cs with
  | nil => cases hc
  | cons first cs ih =>
    rw [piecesAt]
    split
    · rename_i hsep
      rcases List.mem_cons.1 hc with rfl | hc
      · exact absurd hsep hne
      · obtain ⟨piece, hpiece, hmem⟩ := ih hc
        exact ⟨piece, List.mem_cons_of_mem _ hpiece, hmem⟩
    · obtain ⟨head, pieces, hsplit⟩ := List.exists_cons_of_ne_nil (piecesAt_ne_nil sep cs)
      rw [hsplit] at ih ⊢
      rw [Text.consFirst]
      rcases List.mem_cons.1 hc with rfl | hc
      · exact ⟨_, List.mem_cons_self, List.mem_cons_self⟩
      · obtain ⟨piece, hpiece, hmem⟩ := ih hc
        rcases List.mem_cons.1 hpiece with rfl | hpiece
        · exact ⟨_, List.mem_cons_self, List.mem_cons_of_mem _ hmem⟩
        · exact ⟨piece, List.mem_cons_of_mem _ hpiece, hmem⟩

/-! ## The names on a path -/

/-- The names that a path walks through, whether or not a slash ends it. -/
def stem (p : String) : List String := ((piecesAt '/' p.toList).filter (· ≠ [])).map String.ofList

theorem components_eq (p : String) : components p = stem p ++ if endsWithSlash p then ["."] else [] := rfl

theorem stem_of_isName {name : String} (h : isName name = true) : stem name = [name] := by
  rw [stem, piecesAt_of_notMem (slash_notMem_of_isName h)]
  simp [toList_ne_nil_of_isName h]

/-- What stands on a path, but for its slashes, stands in a name of it. -/
theorem exists_name_of_mem {p : String} {c : Char} (hc : c ∈ p.toList) (hne : c ≠ '/') :
    ∃ name ∈ stem p, c ∈ name.toList := by
  obtain ⟨piece, hpiece, hmem⟩ := exists_piece_of_mem hc hne
  have hkept : piece ∈ (piecesAt '/' p.toList).filter (· ≠ []) :=
    List.mem_filter.2 ⟨hpiece, by simpa using List.ne_nil_of_mem hmem⟩
  exact ⟨String.ofList piece, List.mem_map_of_mem hkept, by rwa [String.toList_ofList]⟩

theorem stem_append_slash (p q : String) : stem (p ++ "/" ++ q) = stem p ++ stem q := by
  have hl : (p ++ "/" ++ q).toList = p.toList ++ '/' :: q.toList := by simp [String.toList_append]
  rw [stem, hl, piecesAt_append, List.filter_append, List.map_append, stem, stem]

theorem eq_append_slash_of_endsWithSlash {p : String} (h : endsWithSlash p = true) : ∃ q, p = q ++ "/" := by
  simp only [endsWithSlash, beq_iff_eq] at h
  obtain ⟨cs, hcs⟩ := List.getLast?_eq_some_iff.1 h
  exact ⟨String.ofList cs, String.toList_inj.1 (by simp [String.toList_append, hcs])⟩

theorem isAbsolute_append {p : String} (hp : p ≠ "") (q : String) : isAbsolute (p ++ q) = isAbsolute p := by
  rw [isAbsolute, isAbsolute, String.toList_append, List.head?_append_of_ne_nil]
  rwa [Ne, String.toList_eq_nil_iff]

/-! ## Absolute paths -/

theorem ne_empty_of_isAbsolute {p : String} (h : isAbsolute p = true) : p ≠ "" := by
  rintro rfl
  cases h

theorem slash_mem_of_isAbsolute {p : String} (h : isAbsolute p = true) : '/' ∈ p.toList := by
  rw [isAbsolute, beq_iff_eq] at h
  exact List.mem_of_mem_head? h

/-! ## Joining any path -/

/-- A path with the slash that it needs in front of what is joined to it. -/
def lead (p : String) : String :=
  if p = "" || endsWithSlash p then p else p ++ "/"

theorem join_of_absolute (p : String) {q : String} (h : isAbsolute q = true) : join p q = q := by
  rw [join, if_pos h]

theorem join_of_relative (p : String) {q : String} (h : isAbsolute q = false) : join p q = lead p ++ q := by
  rw [join, h, lead]
  by_cases hp : (p = "" || endsWithSlash p) = true <;> simp_all

theorem nul_notMem_join {p q : String} (hp : '\x00' ∉ p.toList) (hq : '\x00' ∉ q.toList) :
    '\x00' ∉ (join p q).toList := by
  by_cases habs : isAbsolute q = true
  · rwa [join_of_absolute p habs]
  · rw [join_of_relative p (Bool.not_eq_true _ ▸ habs), lead]
    split <;> simp [String.toList_append, hp, hq]

/-- A joined path holds both its parts. -/
theorem exists_join_eq (p : String) {q : String} (h : isAbsolute q = false) :
    ∃ slash, join p q = p ++ slash ++ q := by
  rw [join_of_relative p h, lead]
  split
  · exact ⟨"", by rw [String.append_empty]⟩
  · exact ⟨"/", rfl⟩

theorem nul_mem_join_iff {p q : String} (hp : '\x00' ∉ p.toList) : '\x00' ∈ (join p q).toList ↔
    '\x00' ∈ q.toList := by
  by_cases hq : isAbsolute q = true
  · rw [join_of_absolute p hq]
  · constructor
    · intro hjoin
      by_contra hnot
      exact nul_notMem_join hp hnot hjoin
    · intro hmem
      obtain ⟨slash, hjoin⟩ := exists_join_eq p (Bool.not_eq_true _ ▸ hq)
      rw [hjoin, String.toList_append]
      exact List.mem_append_right _ hmem

theorem lead_ne_empty {p : String} (hp : p ≠ "") : lead p ≠ "" := by
  unfold lead
  split <;> simp [hp]

theorem join_ne_empty_of_left {p : String} (hp : p ≠ "") (q : String) : join p q ≠ "" := by
  by_cases habs : isAbsolute q = true
  · rw [join_of_absolute p habs]
    exact ne_empty_of_isAbsolute habs
  · rw [join_of_relative p (Bool.not_eq_true _ ▸ habs)]
    simp [lead_ne_empty hp]

theorem endsWithSlash_append (p : String) {q : String} (hq : q ≠ "") :
    endsWithSlash (p ++ q) = endsWithSlash q := by
  have hne : q.toList ≠ [] := by rwa [Ne, String.toList_eq_nil_iff]
  rw [endsWithSlash, endsWithSlash, String.toList_append, List.getLast?_append_of_ne_nil _ hne]

theorem lead_append (p : String) {q : String} (hq : q ≠ "") : lead (p ++ q) = p ++ lead q := by
  have hne : p ++ q ≠ "" := by simp [hq]
  rw [lead, lead, endsWithSlash_append p hq]
  by_cases hs : endsWithSlash q = true
  · simp [hs]
  · simp [hs, hq, hne, String.append_assoc]

theorem endsWithSlash_lead {p : String} (hp : p ≠ "") : endsWithSlash (lead p) = true := by
  unfold lead
  split
  · simp_all
  · exact endsWithSlash_append p (by decide)

theorem lead_lead (p : String) : lead (lead p) = lead p := by
  by_cases hp : p = ""
  · subst hp
    rfl
  · rw [lead, endsWithSlash_lead hp, Bool.or_true, if_pos rfl]

theorem isAbsolute_lead_append {p : String} (hp : p ≠ "") (q : String) :
    isAbsolute (lead p ++ q) = isAbsolute p := by
  rw [isAbsolute_append (lead_ne_empty hp)]
  unfold lead
  split
  · rfl
  · exact isAbsolute_append hp "/"

theorem isAbsolute_join_of_absolute {p : String} (h : isAbsolute p = true) (q : String) :
    isAbsolute (join p q) = true := by
  by_cases hq : isAbsolute q = true
  · rwa [join_of_absolute p hq]
  · rw [join_of_relative p (Bool.not_eq_true _ ▸ hq), isAbsolute_lead_append (ne_empty_of_isAbsolute h), h]

theorem stem_lead_append (p q : String) : stem (lead p ++ q) = stem p ++ stem q := by
  unfold lead
  by_cases hp : p = ""
  · subst hp
    simp [stem, piecesAt]
  · by_cases hs : endsWithSlash p = true
    · obtain ⟨r, rfl⟩ := eq_append_slash_of_endsWithSlash hs
      have hr := stem_append_slash r ""
      rw [String.append_empty] at hr
      rw [if_pos (by simp [hs]), stem_append_slash, hr]
      simp [stem, piecesAt]
    · rw [if_neg (by simp [hp, hs]), stem_append_slash]

/-- A relative path walks on where the path before it has led. -/
theorem components_join_of_relative (p : String) {q : String} (hq : q ≠ "") (h : isAbsolute q = false) :
    components (join p q) = stem p ++ components q := by
  rw [join_of_relative p h, components_eq, components_eq, stem_lead_append, endsWithSlash_append (lead p) hq,
    List.append_assoc]

/-- Joined to the empty path, a path asks for a directory. -/
theorem components_join_empty {p : String} (hp : p ≠ "") : components (join p "") = stem p ++ ["."] := by
  have hstem := stem_lead_append p ""
  rw [String.append_empty] at hstem
  rw [join_of_relative p rfl, String.append_empty, components_eq, hstem, endsWithSlash_lead hp, if_pos rfl]
  simp [stem, piecesAt]

/-- A relative path that is not empty has a name in it. -/
theorem components_ne_nil {q : String} (hne : q ≠ "") (hq : isAbsolute q = false) : components q ≠ [] := by
  obtain ⟨c, cs, hcs⟩ := List.exists_cons_of_ne_nil (mt String.toList_eq_nil_iff.1 hne)
  have hc : c ≠ '/' := by
    rintro rfl
    simp [isAbsolute, hcs] at hq
  obtain ⟨name, hname, -⟩ := exists_name_of_mem (p := q) (by rw [hcs]; exact List.mem_cons_self) hc
  rw [components_eq]
  exact List.append_ne_nil_of_left_ne_nil (List.ne_nil_of_mem hname) _

/-- Behind the names of a directory's text, a relative path walks through the same names,
whatever that text is. -/
theorem exists_components_join {q : String} (hq : isAbsolute q = false) :
    ∃ names, ∀ p, p ≠ "" → components (join p q) = stem p ++ names := by
  by_cases hne : q = ""
  · subst hne
    exact ⟨["."], fun p hp => components_join_empty hp⟩
  · exact ⟨components q, fun p _ => components_join_of_relative p hne hq⟩

/-- It does not matter which of three paths are joined first. -/
theorem join_assoc (p q r : String) : join (join p q) r = join p (join q r) := by
  by_cases hr : isAbsolute r = true
  · rw [join_of_absolute _ hr, join_of_absolute _ hr, join_of_absolute _ hr]
  · rw [Bool.not_eq_true] at hr
    by_cases hq : isAbsolute q = true
    · rw [join_of_absolute p hq, join_of_absolute p (isAbsolute_join_of_absolute hq r)]
    · rw [Bool.not_eq_true] at hq
      rw [join_of_relative p hq, join_of_relative _ hr, join_of_relative q hr]
      by_cases hempty : q = ""
      · subst hempty
        have hlead : lead "" ++ r = r := String.empty_append
        rw [String.append_empty, lead_lead, hlead, join_of_relative p hr]
      · have hrel : isAbsolute (lead q ++ r) = false := by rw [isAbsolute_lead_append hempty, hq]
        rw [lead_append _ hempty, String.append_assoc, join_of_relative p hrel]

/-! ## Joining a name -/

theorem isAbsolute_of_isName {name : String} (h : isName name = true) : isAbsolute name = false := by
  have hs := slash_notMem_of_isName h
  unfold isAbsolute
  cases hl : name.toList with
  | nil => rfl
  | cons c cs =>
    rw [hl] at hs
    simpa using fun hc => hs (by simp [hc])

theorem endsWithSlash_of_isName {name : String} (h : isName name = true) : endsWithSlash name = false := by
  have hs := slash_notMem_of_isName h
  rw [endsWithSlash, beq_eq_false_iff_ne]
  exact fun hlast => hs (List.mem_of_getLast? hlast)

theorem join_of_isName (p : String) {name : String} (h : isName name = true) : join p name = lead p ++ name :=
  join_of_relative p (isAbsolute_of_isName h)

theorem endsWithSlash_append_name (p : String) {name : String} (h : isName name = true) :
    endsWithSlash (p ++ name) = false := by
  rw [endsWithSlash_append p (ne_of_isName h).1, endsWithSlash_of_isName h]

/-- The path of an entry walks through the names of its directory's path, then through its own. -/
theorem components_join (p : String) {name : String} (h : isName name = true) :
    components (join p name) = stem p ++ [name] := by
  rw [components_join_of_relative p (ne_of_isName h).1 (isAbsolute_of_isName h), components_eq, stem_of_isName h,
    endsWithSlash_of_isName h]
  rfl

theorem stem_join (p : String) {name : String} (h : isName name = true) :
    stem (join p name) = stem p ++ [name] := by
  rw [join_of_isName p h, stem_lead_append, stem_of_isName h]

theorem join_ne_empty (p : String) {name : String} (h : isName name = true) : join p name ≠ "" := by
  rw [join_of_isName p h]
  simp [(ne_of_isName h).1]

theorem isAbsolute_join (p : String) {name : String} (h : isName name = true) :
    isAbsolute (join p name) = isAbsolute p := by
  rw [join_of_isName p h]
  by_cases hp : p = ""
  · subst hp
    exact (congrArg isAbsolute String.empty_append).trans (isAbsolute_of_isName h)
  · exact isAbsolute_lead_append hp name

end DocRunner.Path
