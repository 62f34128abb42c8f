import DocRunner.Proofs.Clean.Survivors

/-!
# Cleaning twice

`clean_clean` : a second cleaning right behind the first changes nothing and ends in the same way, in success
and in failure. What the first one has passed over is not found by the second either, and an entry that
stopped it stops the second. The paths of the entries have to be within the limit: the length of a path is
looked at before anything else, so an entry with a longer one stops the first cleaning even when the build
directory can no longer be reached.
-/

namespace DocRunner

namespace Recipe

open DocRunner.Tree

variable {t t' : Tree} {d : Location} {p : String} {sh : Shell} {s : Settings}

/-- The names that are left by a sweep over `done`, with `rest` still to visit. -/
theorem Swept.names_eq {done rest : List String} (h : Swept p d done t t') (hsplit : t.names d = done ++ rest) :
    t'.names d = (done.filter fun name => (t'.lookup (name :: d)).isSome) ++ rest := by
  have hnd := (names_pairwise t d).nodup
  rw [hsplit] at hnd
  rw [h.shrinks.names_eq, hsplit, List.filter_append]
  congr 1
  refine List.filter_eq_self.2 fun name hname => ?_
  have hne : ∀ other ∈ done, other ≠ name := fun other ho heq =>
    List.disjoint_of_nodup_append hnd ho (heq ▸ hname)
  obtain ⟨e, he⟩ := mem_names.1 (hsplit ▸ List.mem_append_right done hname : name ∈ t.names d)
  rw [h.outside (name :: d) fun other ho => not_suffix_of_ne (hne other ho), he]
  rfl

/-- A second sweep passes over what the first one has left behind it. -/
theorem Swept.again {done rest : List String} (h : Swept p d done t t') (hsplit : t.names d = done ++ rest) :
    removeEntries p (t'.names d) t' = removeEntries p rest t' := by
  rw [h.names_eq hsplit]
  refine removeEntries_skip (fun name hname => ?_) rest
  obtain ⟨hdone, hleft⟩ := List.mem_filter.1 hname
  rcases h.settled name hdone with hnone | hr
  · rw [hnone] at hleft
    cases hleft
  · exact hr

/-- Cleaning is idempotent, in success and in failure. -/
theorem clean_clean (sh : Shell) (s : Settings) (t : Tree)
    (hlen : ∀ names, t.readDirectory [] (sh.path s.buildDir) = .ok names →
      ∀ name ∈ names, (Path.join (sh.path s.buildDir) name).utf8ByteSize ≤ pathLimit) :
    (clean sh s (clean sh s t).tree).tree = (clean sh s t).tree ∧
      (clean sh s (clean sh s t).tree).result = (clean sh s t).result := by
  by_cases hdir : ∃ d, t.resolveDirectory [] (sh.path s.buildDir) = .ok d
  · obtain ⟨d, h⟩ := hdir
    obtain ⟨done, rest, hsplit, hswept, hend⟩ := clean_swept h
    rcases hswept.directory_or_notFound h with hagain | hmissing
    · obtain ⟨htree, hresult⟩ := clean_of_directory hagain
      rw [htree, hresult, hswept.again hsplit]
      cases hend with
      | all hok => exact ⟨rfl, hok.symm⟩
      | stuck rest hfail hres hrm hw =>
        rw [removeEntries_of_error hrm, hfail]
        exact ⟨rfl, rfl⟩
    · obtain ⟨htree, hresult⟩ := clean_of_missing hmissing
      refine ⟨htree, hresult.trans ?_⟩
      cases hend with
      | all hok => exact hok.symm
      | @stuck _ e rest reason hfail hres hrm hw =>
        -- the entry that stopped the first run is out of reach with its directory, so it would
        -- have been passed over
        have he : e ∈ t.names d := by simp [hsplit]
        have hread : t.readDirectory [] (sh.path s.buildDir) = .ok (t.names d) := by rw [readDirectory, h]
        have hn : Path.isName e = true := (mem_names.1 he).elim fun _ => isName_of_lookup
        rw [resolve_join_notFound (follow_stem h).1 hn (not_lt.2 (hlen _ hread e he)) hmissing] at hres
        cases hres
        exact absurd rfl hw
  · have htree : (clean sh s t).tree = t := clean_of_no_directory fun d h => hdir ⟨d, h⟩
    rw [htree]
    exact ⟨htree, rfl⟩

/-- A cleaning that has stopped at the loop `d`, with `b` left dangling before it, stops there again. -/
theorem clean_clean_sample :
    (clean sampleShell sampleSettings (clean sampleShell sampleSettings (sampleTree sampleLoop)).tree).result =
      .error (.notRemoved "/ws/out/d" .linkLoop) := by
  have hlen : ∀ names, (sampleTree sampleLoop).readDirectory [] (sampleShell.path sampleSettings.buildDir) =
      .ok names → ∀ name ∈ names,
        (Path.join (sampleShell.path sampleSettings.buildDir) name).utf8ByteSize ≤ pathLimit := by
    intro names h
    have hread : (sampleTree sampleLoop).readDirectory [] (sampleShell.path sampleSettings.buildDir) =
        .ok ["a", "b", "c", "d", "e"] := by rfl
    rw [hread] at h
    cases h
    decide
  exact (clean_clean sampleShell sampleSettings (sampleTree sampleLoop) hlen).2

end Recipe

end DocRunner
