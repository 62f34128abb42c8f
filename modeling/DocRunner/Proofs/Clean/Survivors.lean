import DocRunner.Proofs.Clean.Sweep

/-!
# What cleaning takes and what it leaves

`clean` is compared with the tree it starts from. `d` is the directory that the build
directory leads to at the start.

* `clean_keeps_outside` : nothing but what stands below `d` is touched, whatever links and
  `..` are met on the way;
* `LeftDangling t t' d name` : `name` is left in `d` as the link it was, and the link leads to nothing;
* `clean_leaves` : a success leaves dangling links only, and a failure all from the entry it stopped at;
* `clean_empties_iff` : cleaning empties `d` exactly if each entry still leads somewhere when those before it
  have gone. It leaves a link to an entry that it has removed before (`clean_leaves_a_link`);
* `sampleTree entries` : a workspace with sources beside the build directory `/ws/build` and a link `/ws/out` to
  it, in which these results are tried.
-/

namespace DocRunner

namespace Recipe

open DocRunner.Tree

variable {t : Tree} {d : Location} {sh : Shell} {s : Settings}

/-! ## A small workspace -/

def sampleShell : Shell := ⟨"/ws", [], none⟩

def sampleSettings : Settings := { Settings.default with buildDir := "out" }

/-- A workspace with some entries in its build directory. -/
def sampleTree (entries : List (String × Entry)) : Tree :=
  ⟨[(["ws"], .directory), (["src", "ws"], .directory), (["index.rst", "src", "ws"], .file .empty),
    (["out", "ws"], .link "build"), (["build", "ws"], .directory)] ++
    entries.map fun e => ([e.1, "build", "ws"], e.2)⟩

/-- A file, a link to it, and a link to the sources. -/
def sampleLinks : List (String × Entry) :=
  [("a", .file .empty), ("b", .link "a"), ("c", .link "../src")]

/-- A link to itself stands before the last file. -/
def sampleLoop : List (String × Entry) :=
  sampleLinks ++ [("d", .link "d"), ("e", .file .empty)]

/-! ## Outside the build directory -/

/-- Cleaning touches nothing but what stands below the build directory. -/
theorem clean_keeps_outside (sh : Shell) (s : Settings) (t : Tree) :
    (∀ d, t.resolveDirectory [] (sh.path s.buildDir) = .ok d →
      (clean sh s t).tree.lookup d = some .directory ∧
        ∀ l : Location, ¬ l.IsBelow d → (clean sh s t).tree.lookup l = t.lookup l) ∧
      ((∀ d, t.resolveDirectory [] (sh.path s.buildDir) ≠ .ok d) → (clean sh s t).tree = t) := by
  refine ⟨fun d h => ?_, clean_of_no_directory⟩
  obtain ⟨done, rest, -, hswept, -⟩ := clean_swept h
  exact ⟨hswept.lookup_directory.trans (resolveDirectory_eq_ok.1 h).2,
    fun l hl => hswept.lookup_of_not_isBelow hl⟩

/-- The link `c` to the sources is removed, and the sources stay. -/
theorem clean_keeps_sources :
    (clean sampleShell sampleSettings (sampleTree sampleLinks)).tree.lookup ["c", "build", "ws"] = none ∧
      (clean sampleShell sampleSettings (sampleTree sampleLinks)).tree.lookup ["index.rst", "src", "ws"] =
        some (.file .empty) := by
  refine ⟨by rfl, ?_⟩
  have h : (sampleTree sampleLinks).resolveDirectory [] (sampleShell.path sampleSettings.buildDir) =
      .ok ["build", "ws"] := by rfl
  have hout : ¬ Location.IsBelow ["index.rst", "src", "ws"] ["build", "ws"] := fun hl => by
    have hs := hl.1
    revert hs
    decide
  exact ((clean_keeps_outside sampleShell sampleSettings (sampleTree sampleLinks)).1 _ h).2 _ hout

/-! ## Inside the build directory -/

/-- A name is left as the link it was, and the link leads to nothing: so it was before, or an entry on the
way through it has gone. -/
structure LeftDangling (t t' : Tree) (d : Location) (name : String) : Prop where
  kept : t'.lookup (name :: d) = t.lookup (name :: d)
  dangling : t'.IsDangling d name
  cause : t.IsDangling d name ∨
    ∃ q e, t.Meets linkLimit d [name] q ∧ t.lookup q = some e ∧ t'.lookup q = none

theorem leftDangling_of_not_found {t t' : Tree} {d : Location} {p name : String} {e : Entry} (hs : Shrinks t t')
    (h : t'.resolveDirectory [] p = .ok d) (hl : t'.lookup (name :: d) = some e)
    (hr : t'.resolve [] (Path.join p name) = .error .notFound) : LeftDangling t t' d name := by
  have hdang := isDangling_of_resolve_join h hl hr
  have hkept : t'.lookup (name :: d) = t.lookup (name :: d) := by rw [hl, hs _ _ hl]
  refine ⟨hkept, hdang, ?_⟩
  have hd : t'.lookup d = t.lookup d := by rw [lookup_up hl, lookup_up (hs _ _ hl)]
  rcases hs.follow hd linkLimit [name] with heq | ⟨-, hgone⟩
  · exact Or.inl ⟨hkept ▸ hdang.1, heq ▸ hdang.2⟩
  · exact Or.inr hgone

/-- What a name has come to that was visited: it is gone with all that stood below it,
or it is left dangling. -/
def Settled (t t' : Tree) (d : Location) (name : String) : Prop :=
  (∀ l, name :: d <:+ l → t'.lookup l = none) ∨ LeftDangling t t' d name

theorem Swept.settled_of_mem {t t' : Tree} {d : Location} {p : String} {done : List String}
    (h : Swept p d done t t') (hd : t'.resolveDirectory [] p = .ok d) {name : String} (hname : name ∈ done) :
    Settled t t' d name := by
  cases hl : t'.lookup (name :: d) with
  | none => exact Or.inl fun l hs => lookup_eq_none_of_suffix hl hs
  | some e =>
    rcases h.settled name hname with hnone | hr
    · rw [hl] at hnone
      cases hnone
    · exact Or.inr (leftDangling_of_not_found h.shrinks hd hl hr)

/-- Below a directory whose names are all settled, only links are left, directly in it. -/
theorem eq_of_settled {t t' : Tree} {d l : Location} {e : Entry} (hs : Shrinks t t')
    (h : ∀ name ∈ t.names d, Settled t t' d name) (hl : l.IsBelow d) (he : t'.lookup l = some e) :
    ∃ name, l = name :: d ∧ LeftDangling t t' d name := by
  obtain ⟨name, hsuf⟩ := exists_name_of_isBelow hl
  obtain ⟨e', he'⟩ : ∃ e', t'.lookup (name :: d) = some e' := by
    by_cases heq : l = name :: d
    · exact ⟨e, heq ▸ he⟩
    · exact ⟨.directory, lookup_of_suffix he ⟨hsuf, heq⟩⟩
  rcases h name (mem_names.2 ⟨e', hs _ _ he'⟩) with hgone | hleft
  · rw [hgone l hsuf] at he
    cases he
  · refine ⟨name, ?_, hleft⟩
    by_contra hne
    obtain ⟨target, htarget⟩ := hleft.dangling.1
    rw [lookup_of_suffix he ⟨hsuf, hne⟩] at htarget
    cases htarget

/-- What is left, if the build directory can still be reached by its path: after a success dangling links only,
after a failure all from the entry that could not be removed. -/
theorem clean_leaves (h : t.resolveDirectory [] (sh.path s.buildDir) = .ok d)
    (hstill : (clean sh s t).tree.isThere [] (sh.path s.buildDir) = true) :
    (clean sh s t).tree.resolveDirectory [] (sh.path s.buildDir) = .ok d ∧
      ((clean sh s t).result = .ok () → ∀ l : Location, l.IsBelow d →
        (clean sh s t).tree.lookup l = none ∨
          ∃ name, l = name :: d ∧ LeftDangling t (clean sh s t).tree d name) ∧
      ∀ why, (clean sh s t).result = .error why →
        ∃ e reason, e ∈ t.names d ∧ why = .notRemoved (Path.join (sh.path s.buildDir) e) reason ∧
          (reason = .notDirectory ∨ reason = .nameTooLong ∨ reason = .linkLoop) ∧
          (∀ name ∈ t.names d, e ≤ name →
            ∀ l, name :: d <:+ l → (clean sh s t).tree.lookup l = t.lookup l) ∧
          ∀ name ∈ t.names d, name < e → Settled t (clean sh s t).tree d name := by
  obtain ⟨done, rest, hsplit, hswept, hend⟩ := clean_swept h
  have hd : (clean sh s t).tree.resolveDirectory [] (sh.path s.buildDir) = .ok d := by
    rcases hswept.directory_or_notFound h with hd | hn
    · exact hd
    · rw [isThere, hn] at hstill
      cases hstill
  refine ⟨hd, fun hok l hl => ?_, fun why hfail => ?_⟩
  · cases hend with
    | stuck rest hbad =>
      rw [hok] at hbad
      cases hbad
    | all =>
      have hall : ∀ name ∈ t.names d, Settled t (clean sh s t).tree d name := fun name hname =>
        hswept.settled_of_mem hd (by rwa [hsplit, List.append_nil] at hname)
      cases he : (clean sh s t).tree.lookup l with
      | none => exact Or.inl rfl
      | some e => exact Or.inr (eq_of_settled hswept.shrinks hall hl he)
  · cases hend with
    | all hok =>
      rw [hok] at hfail
      cases hfail
    | @stuck _ e rest reason hbad hres hrm hw =>
      rw [hfail] at hbad
      cases hbad
      have he : e ∈ t.names d := by simp [hsplit]
      have hn : Path.isName e = true := (mem_names.1 he).elim fun _ => isName_of_lookup
      refine ⟨e, reason, he, rfl, ?_, fun name hname hle l hs => ?_, fun name hname hlt => ?_⟩
      · exact (resolve_join_error (follow_stem hd).1 hn hres).resolve_left hw
      · refine hswept.outside l fun other ho hs' => not_lt.2 hle ?_
        rw [eq_of_suffix_of_suffix hs hs']
        exact (mem_before_iff hsplit (by simp [hsplit, ho])).1 ho
      · exact hswept.settled_of_mem hd ((mem_before_iff hsplit hname).2 hlt)

/-- Among the links cleaning leaves what is dangling. At the loop `d` it stops, and what comes behind stays. -/
theorem clean_leaves_sample :
    (∀ l : Location, l.IsBelow ["build", "ws"] →
        (clean sampleShell sampleSettings (sampleTree sampleLinks)).tree.lookup l = none ∨
          ∃ name, l = [name, "build", "ws"] ∧ LeftDangling (sampleTree sampleLinks)
            (clean sampleShell sampleSettings (sampleTree sampleLinks)).tree ["build", "ws"] name) ∧
      ∃ e reason, e ∈ (sampleTree sampleLoop).names ["build", "ws"] ∧
        Failure.notRemoved "/ws/out/d" .linkLoop = .notRemoved (Path.join "/ws/out" e) reason ∧
        ∀ name ∈ (sampleTree sampleLoop).names ["build", "ws"], e ≤ name →
          ∀ l, [name, "build", "ws"] <:+ l →
          (clean sampleShell sampleSettings (sampleTree sampleLoop)).tree.lookup l =
            (sampleTree sampleLoop).lookup l := by
  have hlinks := @clean_leaves (sampleTree sampleLinks) ["build", "ws"] sampleShell sampleSettings rfl rfl
  have hloop := @clean_leaves (sampleTree sampleLoop) ["build", "ws"] sampleShell sampleSettings rfl rfl
  refine ⟨hlinks.2.1 (by rfl), ?_⟩
  obtain ⟨e, reason, he, hwhy, -, hafter, -⟩ := hloop.2.2 (.notRemoved "/ws/out/d" .linkLoop) (by rfl)
  exact ⟨e, reason, he, hwhy, hafter⟩

/-! ## When nothing is left -/

/-- Cleaning empties the build directory exactly if each entry still leads somewhere when
those before it have gone. -/
theorem clean_empties_iff (h : t.resolveDirectory [] (sh.path s.buildDir) = .ok d) :
    ((clean sh s t).result = .ok () ∧ (clean sh s t).tree.names d = []) ↔
      ∀ before name after, t.names d = before ++ name :: after →
        (t.eraseNames d before).isThere [] (Path.join (sh.path s.buildDir) name) = true := by
  obtain ⟨done, rest, -, hswept, -⟩ := clean_swept h
  obtain ⟨htree, hresult⟩ := clean_of_directory h
  rw [← removeEntries_clears_iff h (Shrinks.refl t) (fun _ => mem_names.1) (names_pairwise t d).nodup,
    ← htree, ← hresult, hswept.shrinks.names_eq, List.filter_eq_nil_iff]
  simp

/-- A file and a link to the sources both go. -/
theorem clean_empties_sample :
    (clean sampleShell sampleSettings (sampleTree [("a", .file .empty), ("c", .link "../src")])).result = .ok () ∧
      (clean sampleShell sampleSettings (sampleTree [("a", .file .empty), ("c", .link "../src")])).tree.names
        ["build", "ws"] = [] := by
  refine (@clean_empties_iff (sampleTree [("a", .file .empty), ("c", .link "../src")]) ["build", "ws"] sampleShell
    sampleSettings rfl).2 fun before name after hsplit => ?_
  have hnames : (sampleTree [("a", .file .empty), ("c", .link "../src")]).names ["build", "ws"] = ["a", "c"] := by
    decide
  rw [hnames] at hsplit
  rcases before with _ | ⟨first, _ | ⟨second, before⟩⟩
  · cases hsplit
    rfl
  · cases hsplit
    rfl
  · simp at hsplit

/-- A link to a file before it is left behind: it leads to nothing when its turn comes. -/
theorem clean_leaves_a_link :
    ¬ ∀ (sh : Shell) (s : Settings) (t : Tree) (d : Location),
      t.resolveDirectory [] (sh.path s.buildDir) = .ok d → (clean sh s t).result = .ok () →
        (clean sh s t).tree.names d = [] := by
  intro h
  have hnil := h sampleShell sampleSettings (sampleTree sampleLinks) ["build", "ws"] rfl rfl
  have hleft : (clean sampleShell sampleSettings (sampleTree sampleLinks)).tree.names ["build", "ws"] =
      ["b"] := by
    decide
  rw [hleft] at hnil
  cases hnil

end Recipe

end DocRunner
