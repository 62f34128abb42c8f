import DocRunner.Proofs.Path.Join
import DocRunner.Proofs.Tree.Walk
import DocRunner.Tree.Access

/-!
# The entries of a directory by their paths

An entry of the directory at a path is named by that path with its name joined. The path is resolved anew each
time, in a tree that may have shrunk since.

* `Tree.resolve_join`, `Tree.resolveEntry_join` : what the path of an entry resolves to, if it is not too long;
* `Tree.removePath_join` : removing by the path of an entry erases that very entry of the directory that was
  there at first, or does nothing;
* `Tree.IsDangling t d name` : a link stands at `name` in `d`, and following it meets nothing;
* `Tree.isDangling_of_resolve_join` : an entry that its path does not find is a dangling link.
-/

namespace DocRunner

namespace Tree

variable {t t₀ : Tree} {start d : Location} {p name : String}

/-! ## Resolving the path of an entry -/

theorem checkPath_eq_ok {path : String} :
    checkPath path = .ok () ↔ '\x00' ∉ path.toList ∧ path ≠ "" ∧ ¬ pathLimit < path.utf8ByteSize := by
  unfold checkPath
  split_ifs with h₁ h₂ h₃ <;> simp_all

theorem checkPath_join (hp : checkPath p = .ok ()) (hn : Path.isName name = true) :
    checkPath (Path.join p name) =
      if pathLimit < (Path.join p name).utf8ByteSize then .error .nameTooLong else .ok () := by
  have hnul := Path.nul_notMem_join (checkPath_eq_ok.1 hp).1 (Path.nul_notMem_of_isName hn)
  rw [checkPath, if_neg (by simpa using hnul), if_neg (Path.join_ne_empty p hn)]

theorem origin_join (hn : Path.isName name = true) : origin (Path.join p name) start = origin p start := by
  rw [origin, origin, Path.isAbsolute_join p hn]

theorem resolve_join (hp : checkPath p = .ok ()) (hn : Path.isName name = true) :
    t.resolve start (Path.join p name) =
      if pathLimit < (Path.join p name).utf8ByteSize then .error .nameTooLong
      else t.follow linkLimit (origin p start) (Path.stem p ++ [name]) := by
  rw [resolve, checkPath_join hp hn, origin_join hn, Path.components_join p hn]
  split_ifs <;> rfl

theorem resolveEntry_join (hp : checkPath p = .ok ()) (hn : Path.isName name = true) :
    t.resolveEntry start (Path.join p name) =
      if pathLimit < (Path.join p name).utf8ByteSize then .error .nameTooLong
      else (t.follow linkLimit (origin p start) (Path.stem p ++ ["."])).map (name :: ·) := by
  rw [resolveEntry, checkPath_join hp hn, origin_join hn, Path.components_join p hn]
  split_ifs
  · rfl
  · simp only [List.getLast?_concat, List.dropLast_concat]
    cases t.follow linkLimit (origin p start) (Path.stem p ++ ["."]) <;> rfl

/-- The causes for which the path of an entry leads nowhere. -/
theorem resolve_join_error {why : Refusal} (hp : checkPath p = .ok ()) (hn : Path.isName name = true)
    (h : t.resolve start (Path.join p name) = .error why) :
    why = .notFound ∨ why = .notDirectory ∨ why = .nameTooLong ∨ why = .linkLoop := by
  rw [resolve_join hp hn] at h
  split_ifs at h
  · cases h
    simp
  · exact follow_error h

/-- The path of a directory leads there without the slash that may end it. -/
theorem follow_stem (h : t.resolveDirectory start p = .ok d) :
    checkPath p = .ok () ∧ t.follow linkLimit (origin p start) (Path.stem p ++ ["."]) = .ok d := by
  obtain ⟨hr, hd⟩ := resolveDirectory_eq_ok.1 h
  unfold resolve at hr
  split at hr
  · cases hr
  · rename_i hp
    refine ⟨hp, ?_⟩
    rw [Path.components_eq] at hr
    split_ifs at hr
    · exact hr
    · rw [List.append_nil] at hr
      exact follow_dot.2 ⟨hr, hd⟩

/-- Where the directory is not found, neither are its entries. -/
theorem resolve_join_notFound (hp : checkPath p = .ok ()) (hn : Path.isName name = true)
    (hlen : ¬ pathLimit < (Path.join p name).utf8ByteSize) (h : t.resolve start p = .error .notFound) :
    t.resolve start (Path.join p name) = .error .notFound := by
  rw [resolve_join hp hn, if_neg hlen]
  rw [resolve, hp] at h
  refine follow_append_error ?_ [name]
  rw [Path.components_eq] at h
  split_ifs at h
  · exact notFound_of_follow_dot h
  · rwa [List.append_nil] at h

/-- Where an entry is found, so is the directory around it. -/
theorem follow_parent {budget : Nat} {here place : Location} {xs : List String}
    (h : t.follow budget here (xs ++ [name]) = .ok place) :
    ∃ parent, t.follow budget here (xs ++ ["."]) = .ok parent := by
  cases hx : t.follow budget here xs with
  | error why =>
    rw [follow_append_error hx] at h
    cases h
  | ok parent =>
    refine ⟨parent, follow_dot.2 ⟨hx, ?_⟩⟩
    obtain ⟨left, -, hys⟩ := follow_append_ok hx
    rw [hys] at h
    by_contra hd
    rw [follow_of_refused (advance_of_not_directory hd)] at h
    cases h

/-- From the directory at a path, its entries are found with the links that are left. -/
theorem resolve_join_of_directory (h : t.resolveDirectory start p = .ok d) :
    ∃ left ≤ linkLimit, ∀ name, Path.isName name = true → ¬ pathLimit < (Path.join p name).utf8ByteSize →
      t.resolve start (Path.join p name) = t.follow left d [name] := by
  obtain ⟨hp, hd⟩ := follow_stem h
  obtain ⟨left, hle, hys⟩ := follow_append_ok (follow_dot.1 hd).1
  refine ⟨left, hle, fun name hn hlen => ?_⟩
  rw [resolve_join hp hn, if_neg hlen, hys]

/-! ## Removing by the path of an entry -/

/-- The directory `d` at a path in an earlier tree is the only one whose entries the path can remove later. -/
theorem removePath_join (h₀ : t₀.resolveDirectory start p = .ok d) (h : Shrinks t₀ t)
    (hs : t.lookup start = t₀.lookup start) (hn : Path.isName name = true) :
    t.removePath start (Path.join p name) =
      match t.resolve start (Path.join p name) with
      | .ok _ => .ok (t.erase (name :: d))
      | .error .notFound => .ok t
      | .error why => .error why := by
  obtain ⟨hp, hd⟩ := follow_stem h₀
  unfold removePath
  cases hr : t.resolve start (Path.join p name) with
  | error why => cases why <;> rfl
  | ok place =>
    rw [resolve_join hp hn] at hr
    split_ifs at hr with hlen
    obtain ⟨parent, hparent⟩ := follow_parent hr
    have hpd : parent = d := by
      have he := h.follow_ok (lookup_origin p hs) hparent
      rw [hd] at he
      cases he
      rfl
    dsimp only
    rw [resolveEntry_join hp hn, if_neg hlen, hparent, hpd]
    rfl

/-! ## Dangling links -/

/-- A link stands at a name in a directory, and following it meets nothing. -/
def IsDangling (t : Tree) (d : Location) (name : String) : Prop :=
  (∃ target, t.lookup (name :: d) = some (.link target)) ∧ t.follow linkLimit d [name] = .error .notFound

/-- An entry that a walk to its name does not find is a dangling link. -/
theorem isDangling_of_follow {budget : Nat} {e : Entry} (hle : budget ≤ linkLimit)
    (hl : t.lookup (name :: d) = some e) (h : t.follow budget d [name] = .error .notFound) :
    t.IsDangling d name := by
  refine ⟨?_, follow_mono h (by simp) hle⟩
  have hd := lookup_up hl
  obtain ⟨-, h₁, h₂⟩ := Path.ne_of_isName (isName_of_lookup hl)
  by_cases h₃ : nameLimit < name.utf8ByteSize
  · rw [follow_of_refused (advance_long hd h₁ h₂ h₃)] at h
    cases h
  · cases e with
    | link target => exact ⟨target, hl⟩
    | _ =>
      have harr : t.advance d [name] = .arrived (name :: d) := by
        rw [advance_name hd h₁ h₂ h₃, hl]
        rfl
      rw [follow_of_arrived harr] at h
      cases h

/-- An entry of the directory at a path that its own path does not find is a dangling link. -/
theorem isDangling_of_resolve_join {e : Entry} (h : t.resolveDirectory start p = .ok d)
    (hl : t.lookup (name :: d) = some e) (hr : t.resolve start (Path.join p name) = .error .notFound) :
    t.IsDangling d name := by
  have hn := isName_of_lookup hl
  obtain ⟨left, hle, hleft⟩ := resolve_join_of_directory h
  by_cases hlen : pathLimit < (Path.join p name).utf8ByteSize
  · rw [resolve_join (follow_stem h).1 hn, if_pos hlen] at hr
    cases hr
  · rw [hleft name hn hlen] at hr
    exact isDangling_of_follow hle hl hr

end Tree

end DocRunner
