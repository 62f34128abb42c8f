import DocRunner.Proofs.Path.Join
import DocRunner.Proofs.Tree.Entry
import DocRunner.Proofs.Tree.Grow

/-!
# Reading back what is written

* `Path.mem_components` : what a path walks through are names, `.` and `..`;
* `Tree.follow_append_add` : a walk and one behind it are one walk, with the links of both;
* `Tree.makeDirectories_leads` : the directories that are made on a way lead along it;
* `Tree.Opens t budget parent name` : a file of that name can be written in a directory,
  behind links if need be;
* `Tree.Writes t start path bytes` : a write is done, to its end;
* `Tree.Writes.leads` : where a write is done, its path leads to a file with its bytes.
-/

namespace DocRunner

namespace Path

/-- A piece holds some of the characters, and not the one at which they are cut. -/
theorem mem_piecesAt {sep : Char} {cs piece : List Char} (h : piece ∈ piecesAt sep cs) :
    sep ∉ piece ∧ piece ⊆ cs := by
  induction cs generalizing piece with
  | nil =>
    cases List.mem_singleton.1 h
    simp
  | cons c cs ih =>
    rw [piecesAt] at h
    split at h
    · rcases List.mem_cons.1 h with rfl | h
      · simp
      · exact ⟨(ih h).1, List.subset_cons_of_subset c (ih h).2⟩
    · rename_i hc
      obtain ⟨first, rest, hsplit⟩ := List.exists_cons_of_ne_nil (piecesAt_ne_nil sep cs)
      rw [hsplit, Text.consFirst] at h
      rcases List.mem_cons.1 h with rfl | h
      · obtain ⟨hsep, hsub⟩ := ih (hsplit ▸ List.mem_cons_self)
        exact ⟨by simp [Ne.symm hc, hsep], List.cons_subset_cons c hsub⟩
      · obtain ⟨hsep, hsub⟩ := ih (hsplit ▸ List.mem_cons_of_mem first h)
        exact ⟨hsep, List.subset_cons_of_subset c hsub⟩

/-- What a path without a NUL walks through are names, `.` and `..`. -/
theorem mem_components {p name : String} (hnul : '\x00' ∉ p.toList) (h : name ∈ components p) :
    name = "." ∨ name = ".." ∨ isName name = true := by
  rw [components_eq, List.mem_append] at h
  rcases h with h | h
  · obtain ⟨piece, hpiece, rfl⟩ := List.mem_map.1 h
    obtain ⟨hmem, hne⟩ := List.mem_filter.1 hpiece
    obtain ⟨hslash, hsub⟩ := mem_piecesAt hmem
    by_cases hdot : String.ofList piece = "."
    · exact Or.inl hdot
    · by_cases hdots : String.ofList piece = ".."
      · exact Or.inr (Or.inl hdots)
      · refine Or.inr (Or.inr ?_)
        have hempty : String.ofList piece ≠ "" := by
          rw [Ne, ← String.toList_eq_nil_iff, String.toList_ofList]
          simpa using hne
        have hnul' : '\x00' ∉ piece := fun hc => hnul (hsub hc)
        simp [isName, hempty, hdot, hdots, hslash, hnul']
  · split at h
    · exact Or.inl (List.mem_singleton.1 h)
    · cases h

end Path

namespace Tree

variable {t made : Tree} {start here parent place : Location} {names : List String} {name path : String}
  {bytes : ByteArray}

/-! ## Making the way -/

/-- A walk and one behind it are one walk, with the links of both. -/
theorem follow_append_add {budget more : Nat} {xs ys : List String} {l : Location}
    (h : t.follow budget here xs = .ok place) (h' : t.follow more place ys = .ok l) :
    t.follow (budget + more) here (xs ++ ys) = .ok l := by
  fun_induction Tree.follow t budget here xs with
  | case1 budget here xs p hx =>
    cases h
    rw [follow_append_of_arrived hx]
    exact follow_mono h' (by simp) (by omega)
  | case2 => cases h
  | case3 => cases h
  | case4 here xs target base rest hx budget ih =>
    have happ : t.advance here (xs ++ ys) = .linked target base (rest ++ ys) := by rw [advance_append, hx]
    rw [show budget.succ + more = budget + more + 1 by omega, follow_of_linked happ, ← List.append_assoc]
    exact ih h

theorem follow_cons_of_advance {budget : Nat} {there : Location} {rest : List String}
    (h : t.advance here (name :: rest) = t.advance there rest) :
    t.follow budget here (name :: rest) = t.follow budget there rest := by
  rw [follow_eq, h, ← follow_eq]

/-- The directories that are made on a way lead along it. -/
theorem makeDirectories_leads (hh : t.lookup here = some .directory)
    (hn : ∀ name ∈ names, name = "." ∨ name = ".." ∨ Path.isName name = true)
    (h : t.makeDirectories here names = (made, .ok parent)) :
    made.lookup parent = some .directory ∧ ∃ budget, made.follow budget here names = .ok parent := by
  have hgrows : Grows t made := by
    have hmade : Grows t (t.makeDirectories here names).1 := Grows.makeDirectories here names
    rwa [h] at hmade
  fun_induction Tree.makeDirectories t here names with
  | case1 t here =>
    cases h
    exact ⟨hh, 0, follow_of_arrived (advance_nil _ _)⟩
  | case2 t here rest ih =>
    obtain ⟨hparent, budget, hb⟩ := ih hh (List.forall_mem_cons.1 hn).2 h hgrows
    exact ⟨hparent, budget, (follow_cons_of_advance (advance_dot (hgrows.directory hh))).trans hb⟩
  | case3 t here rest _ ih =>
    obtain ⟨hparent, budget, hb⟩ := ih (lookup_tail hh) (List.forall_mem_cons.1 hn).2 h hgrows
    exact ⟨hparent, budget, (follow_cons_of_advance (advance_dotdot (hgrows.directory hh))).trans hb⟩
  | case4 => cases h
  | case5 t here name rest h₁ h₂ h₃ hnone ih =>
    obtain ⟨hname, hrest⟩ := List.forall_mem_cons.1 hn
    have hnew := lookup_put_self hh ((hname.resolve_left h₁).resolve_left h₂) .directory
    have hmade : Grows (t.put (name :: here) .directory) made := by
      have hmade : Grows (t.put (name :: here) .directory) _ := Grows.makeDirectories (name :: here) rest
      rwa [h] at hmade
    obtain ⟨hparent, budget, hb⟩ := ih hnew hrest h hmade
    refine ⟨hparent, budget, (follow_cons_of_advance ?_).trans hb⟩
    rw [advance_name (hgrows.directory hh) h₁ h₂ h₃, hmade.directory hnew]
  | case6 => cases h
  | case7 t here name rest h₁ h₂ h₃ _ hentry there hthere ih =>
    have hdot : t.follow linkLimit here ([name] ++ ["."]) = .ok there := hthere
    obtain ⟨hfollow, hdir⟩ := follow_dot.1 hdot
    obtain ⟨hparent, budget, hb⟩ := ih hdir (List.forall_mem_cons.1 hn).2 h hgrows
    exact ⟨hparent, linkLimit + budget, follow_append_add (hgrows.follow hfollow hdir) hb⟩

/-! ## Opening the file -/

/-- A file of a name can be written in a directory: none is there yet, one is written over, or a link leads to
where one can be written. -/
inductive Opens (t : Tree) : Nat → Location → String → Prop
  | new {budget : Nat} {parent : Location} {name : String} :
      Path.isName name = true → ¬ nameLimit < name.utf8ByteSize → t.lookup (name :: parent) = none →
      Opens t budget parent name
  | existing {budget : Nat} {parent : Location} {name : String} {e : Entry} :
      t.lookup (name :: parent) = some e → e.IsPlain → ¬ nameLimit < name.utf8ByteSize →
        Opens t budget parent name
  | link {budget : Nat} {parent next : Location} {name target last : String} :
      t.lookup (name :: parent) = some (.link target) → ¬ nameLimit < name.utf8ByteSize →
      (Path.components target).getLast? = some last →
      t.follow budget (origin target parent) ((Path.components target).dropLast ++ ["."]) = .ok next →
      Opens t budget next last → Opens t (budget + 1) parent name

/-- What is put at a name in a directory is found there. -/
theorem leads_of_put {budget : Nat} (hparent : t.lookup parent = some .directory) (hn : Path.isName name = true)
    (hlen : ¬ nameLimit < name.utf8ByteSize)
    (hput : t.writeIn budget parent name bytes = t.put (name :: parent) (.file bytes)) :
    ∃ place more, (t.writeIn budget parent name bytes).lookup place = some (.file bytes) ∧
      (t.writeIn budget parent name bytes).follow more parent [name] = .ok place := by
  obtain ⟨-, h₁, h₂⟩ := Path.ne_of_isName hn
  have hself := lookup_put_self hparent hn (.file bytes)
  have hup : (t.put (name :: parent) (.file bytes)).lookup parent = some .directory := by
    rw [lookup_put_of_not_suffix t _ fun hs => absurd hs.length_le (by simp), hparent]
  rw [hput]
  refine ⟨name :: parent, 0, hself, follow_of_arrived ?_⟩
  rw [advance_name hup h₁ h₂ hlen, hself]
  rfl

theorem Opens.leads {budget : Nat} (h : t.Opens budget parent name) (hparent : t.lookup parent = some .directory)
    (bytes : ByteArray) :
    ∃ place more, (t.writeIn budget parent name bytes).lookup place = some (.file bytes) ∧
      (t.writeIn budget parent name bytes).follow more parent [name] = .ok place := by
  induction h with
  | @new budget parent name hn hlen hnone =>
    obtain ⟨-, h₁, h₂⟩ := Path.ne_of_isName hn
    refine leads_of_put hparent hn hlen ?_
    rw [writeIn.eq_def, hnone]
    simp [h₁, h₂, hlen]
  | @existing budget parent name e he hplain hlen =>
    have hn := isName_of_lookup he
    obtain ⟨-, h₁, h₂⟩ := Path.ne_of_isName hn
    refine leads_of_put hparent hn hlen ?_
    rw [writeIn.eq_def, he]
    obtain ⟨hdir, hlink⟩ := hplain
    cases e with
    | directory => exact absurd rfl hdir
    | link target => exact absurd rfl (hlink target)
    | file old => simp [h₁, h₂, hlen]
    | tool program => simp [h₁, h₂, hlen]
  | @link budget parent next name target last hl hlen hlast hnext _ ih =>
    obtain ⟨-, h₁, h₂⟩ := Path.ne_of_isName (isName_of_lookup hl)
    obtain ⟨hway, hdir⟩ := follow_dot.1 hnext
    have hwrite : t.writeIn (budget + 1) parent name bytes = t.writeIn budget next last bytes := by
      rw [writeIn.eq_def, hl]
      simp [h₁, h₂, hlen, hlast, hnext]
    rw [hwrite]
    obtain ⟨place, more, hplace, hmore⟩ := ih hdir
    have hgrows : Grows t (t.writeIn budget next last bytes) := Grows.writeIn budget next last bytes
    refine ⟨place, budget + more + 1, hplace, ?_⟩
    have hlinked : (t.writeIn budget next last bytes).advance parent [name] = .linked target parent [] := by
      rw [advance_name (hgrows.directory hparent) h₁ h₂ hlen, hgrows.link hl]
    rw [follow_of_linked hlinked, List.append_nil, ← List.dropLast_append_getLast? last hlast]
    exact follow_append_add (hgrows.follow hway hdir) hmore

/-! ## A whole write -/

/-- A write is done: its path is fit, the way to the file can be made, the file can be written, and its path
runs through no more links than any path may. -/
structure Writes (t : Tree) (start : Location) (path : String) (bytes : ByteArray) : Prop where
  fit : checkPath path = .ok ()
  opened : ∃ made parent last, (Path.components path).getLast? = some last ∧
    t.makeDirectories (origin path start) (Path.components path).dropLast = (made, .ok parent) ∧
      made.Opens linkLimit parent last
  within : (t.writeFile start path bytes).resolve start path ≠ .error .linkLoop

/-- Where a write is done, its path leads to a file with its bytes. -/
theorem Writes.leads (h : t.Writes start path bytes) (hs : t.lookup start = some .directory) :
    ∃ place, (t.writeFile start path bytes).resolve start path = .ok place ∧
      (t.writeFile start path bytes).lookup place = some (.file bytes) := by
  obtain ⟨hfit, ⟨made, parent, last, hlast, hmade, hopens⟩, hwithin⟩ := h
  have hnames : ∀ name ∈ (Path.components path).dropLast, name = "." ∨ name = ".." ∨ Path.isName name = true :=
    fun name hname => Path.mem_components (checkPath_eq_ok.1 hfit).1 (List.dropLast_subset _ hname)
  have horigin : t.lookup (origin path start) = some .directory := by
    unfold origin
    split
    · rfl
    · exact hs
  obtain ⟨hdir, budget, hway⟩ := makeDirectories_leads horigin hnames hmade
  have hwrite : t.writeFile start path bytes = made.writeIn linkLimit parent last bytes := by
    rw [writeFile, hfit, hlast, hmade]
  rw [hwrite] at hwithin ⊢
  obtain ⟨place, more, hplace, hmore⟩ := hopens.leads hdir bytes
  have hgrows : Grows made (made.writeIn linkLimit parent last bytes) := Grows.writeIn linkLimit parent last bytes
  have hwalk := follow_append_add (hgrows.follow hway hdir) hmore
  rw [List.dropLast_append_getLast? last hlast] at hwalk
  refine ⟨place, ?_, hplace⟩
  -- the path is resolved with the usual number of links, which changes nothing since they are enough
  rw [resolve, hfit] at hwithin ⊢
  have hmono := follow_mono rfl hwithin (le_max_left linkLimit (budget + more))
  rw [follow_mono hwalk (by simp) (le_max_right linkLimit (budget + more))] at hmono
  exact hmono.symm

end Tree

end DocRunner
