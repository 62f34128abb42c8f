import DocRunner.Proofs.Run.Calls
import DocRunner.Proofs.Tree.Alike

/-!
# Building from scratch

A strict build cleans first. What stood below the build directory does not count for it, if there were no links.

* `Tree.Alike.find`, `Outcome.Alike.run` : a command does the same on trees that are alike;
* `Recipe.clean_alike_emptied` : a cleaning that succeeds leaves what the tree is without anything below the
  build directory, if no link stood there and the build directory can be reached without what stood there;
* `Recipe.strict_from_scratch` : so strict builds on two trees that differ below the build directory only come
  to the same, which is that of a build on the tree where it is empty.
-/

namespace DocRunner

open DocRunner.Tree

variable {sh : Shell} {s : Settings} {t t' : Tree} {d : Location}

/-! ## The same on trees that are alike -/

/-- Two tasks have come to the same. -/
structure Outcome.Alike (o o' : Outcome) : Prop where
  result : o.result = o'.result
  events : o.events = o'.events
  tree : o.tree.Alike o'.tree

theorem Outcome.Alike.symm {o o' : Outcome} (h : o.Alike o') : o'.Alike o :=
  ⟨h.result.symm, h.events.symm, h.tree.symm⟩

theorem Outcome.Alike.trans {o o' o'' : Outcome} (h : o.Alike o') (h' : o'.Alike o'') : o.Alike o'' :=
  ⟨h.result.trans h'.result, h.events.trans h'.events, h.tree.trans h'.tree⟩

theorem Outcome.Alike.after {o o' : Outcome} (h : o.Alike o') (events : List Event) :
    (o.after events).Alike (o'.after events) where
  result := h.result
  events := by rw [events_after, events_after, h.events]
  tree := h.tree

theorem Outcome.Alike.andThen {o o' : Outcome} (h : o.Alike o') {next : Tree → Outcome}
    (hnext : ∀ {t t' : Tree}, t.Alike t' → (next t).Alike (next t')) :
    (o.andThen next).Alike (o'.andThen next) := by
  unfold Outcome.andThen
  rw [← h.result, ← h.events]
  cases o.result with
  | error why => exact h
  | ok _ => exact (hnext h.tree).after o.events

namespace Tree.Alike

theorem write (h : t.Alike t') (tool : Tool) (d : Location) (vars : Variables) (arguments : List String) :
    (tool.write d vars arguments t).Alike (tool.write d vars arguments t') := by
  unfold Tool.write
  induction tool.writes generalizing t t' with
  | nil => exact h
  | cons w writes ih => exact ih (h.writeFile d _ w.bytes)

theorem toolAt (h : t.Alike t') (d : Location) (path : String) :
    Shell.toolAt t d path = Shell.toolAt t' d path := by
  unfold Shell.toolAt
  rw [h.resolve]
  cases t'.resolve d path with
  | error why => rfl
  | ok place =>
    dsimp only
    rw [h place]

theorem search (h : t.Alike t') (d : Location) (name : String) (denied : Bool) (last : Refusal)
    (dirs : List String) :
    Shell.search t d name denied last dirs = Shell.search t' d name denied last dirs := by
  induction dirs generalizing denied last with
  | nil => rfl
  | cons dir dirs ih =>
    unfold Shell.search
    rw [h.toolAt, ih, ih, ih]

theorem find (h : t.Alike t') (sh : Shell) (c : Command) : sh.find t c = sh.find t' c := by
  unfold Shell.find
  rw [h.resolveDirectory]
  cases t'.resolveDirectory [] sh.directory with
  | error why => rfl
  | ok d =>
    dsimp only
    rw [h.toolAt, h.search]

theorem run (h : t.Alike t') (sh : Shell) (c : Command) : (sh.run c t).Alike (sh.run c t') := by
  cases hfind : sh.find t' c with
  | error why =>
    rw [Shell.run_of_not_found hfind, Shell.run_of_not_found ((h.find sh c).trans hfind)]
    exact ⟨rfl, rfl, h⟩
  | ok found =>
    obtain ⟨d, tool⟩ := found
    rw [Shell.run_of_found hfind, Shell.run_of_found ((h.find sh c).trans hfind)]
    exact ⟨rfl, rfl, h.write tool d _ _⟩

theorem html (h : t.Alike t') (sh : Shell) (s : Settings) (strict : Bool) :
    (Recipe.html sh s strict t).Alike (Recipe.html sh s strict t') :=
  (h.run sh _).andThen fun hleft => ⟨rfl, rfl, hleft⟩

end Tree.Alike

/-! ## What cleaning leaves where no links are -/

/-- No link stands below a directory. -/
def Tree.LinkFree (t : Tree) (d : Location) : Prop :=
  ∀ l : Location, l.IsBelow d → ∀ target, t.lookup l ≠ some (.link target)

namespace Recipe

theorem clean_events (h : t.resolveDirectory [] (sh.path s.buildDir) = .ok d) :
    (clean sh s t).events = sh.note ("Removing everything under " ++ s.buildDir) := by
  rw [clean, if_pos (isThere_of_ok (resolveDirectory_eq_ok.1 h).1), Outcome.events_after, emptyDirectory_events,
    List.append_nil]

/-- A cleaning that succeeds leaves nothing below the build directory, and all else. -/
theorem clean_alike_emptied (hfree : t.LinkFree d)
    (hempty : (t.emptied d).resolveDirectory [] (sh.path s.buildDir) = .ok d)
    (hclean : (clean sh s t).result = .ok ()) : (clean sh s t).tree.Alike (t.emptied d) := by
  have hd := (Shrinks.eraseNames t d _).leadsAsBefore _ d hempty
  obtain ⟨done, rest, hsplit, hswept, hend⟩ := clean_swept hd
  cases hend with
  | stuck rest hfail =>
    rw [hclean] at hfail
    cases hfail
  | all _ =>
    rw [List.append_nil] at hsplit
    have hkept : ∀ l : Location, ¬ l.IsBelow d → (clean sh s t).tree.lookup l = t.lookup l :=
      fun _ => hswept.lookup_of_not_isBelow
    -- the build directory is still found, since it would be found even if it were empty
    have hshrinks : Shrinks (clean sh s t).tree (t.emptied d) := by
      intro l e he
      by_cases hl : l.IsBelow d
      · rw [lookup_emptied_of_isBelow t hl] at he
        cases he
      · rwa [hkept l hl, ← lookup_emptied_of_not_isBelow t hl]
    have hstill := hshrinks.leadsAsBefore _ d hempty
    refine alike_emptied (fun l hl => ?_) hkept
    obtain ⟨name, hs⟩ := exists_name_of_isBelow hl
    refine lookup_eq_none_of_suffix ?_ hs
    cases he : (clean sh s t).tree.lookup (name :: d) with
    | none => rfl
    | some e =>
      have hold := hswept.shrinks _ _ he
      have hname : name ∈ done := hsplit ▸ mem_names.2 ⟨e, hold⟩
      rcases hswept.settled name hname with hnone | hr
      · rw [he] at hnone
        cases hnone
      · obtain ⟨⟨target, htarget⟩, -⟩ := isDangling_of_resolve_join hstill he hr
        exact absurd (hswept.shrinks _ _ htarget) (hfree _ (isBelow_of_suffix (List.suffix_refl _)) target)

/-! ## Strict builds -/

/-- A strict build comes to what a build on the emptied tree comes to, behind the note on cleaning. -/
theorem strict_alike_emptied (hfree : t.LinkFree d)
    (hempty : (t.emptied d).resolveDirectory [] (sh.path s.buildDir) = .ok d)
    (hclean : (clean sh s t).result = .ok ()) :
    (strict sh s t).Alike
      ((html sh s true (t.emptied d)).after (sh.note ("Removing everything under " ++ s.buildDir))) := by
  have hd := (Shrinks.eraseNames t d _).leadsAsBefore _ d hempty
  rw [strict, Outcome.andThen_of_ok hclean, clean_events hd]
  exact ((clean_alike_emptied hfree hempty hclean).html sh s true).after _

/-- Two strict builds whose trees differ below the build directory only come to the same, if they clean with
success and no links stand there: to what a build comes to where nothing stands there. -/
theorem strict_from_scratch (houtside : ∀ l : Location, ¬ l.IsBelow d → t.lookup l = t'.lookup l)
    (hfree : t.LinkFree d) (hfree' : t'.LinkFree d)
    (hempty : (t.emptied d).resolveDirectory [] (sh.path s.buildDir) = .ok d)
    (hclean : (clean sh s t).result = .ok ()) (hclean' : (clean sh s t').result = .ok ()) :
    (strict sh s t).Alike (strict sh s t') ∧
      (strict sh s t).Alike
        ((html sh s true (t.emptied d)).after (sh.note ("Removing everything under " ++ s.buildDir))) := by
  have hemptied := Alike.emptied houtside
  have hempty' : (t'.emptied d).resolveDirectory [] (sh.path s.buildDir) = .ok d := by
    rw [← hemptied.resolveDirectory, hempty]
  have hscratch := strict_alike_emptied hfree hempty hclean
  have hscratch' := strict_alike_emptied hfree' hempty' hclean'
  have hsame := (hemptied.html sh s true).after (sh.note ("Removing everything under " ++ s.buildDir))
  exact ⟨(hscratch.trans hsame).trans hscratch'.symm, hscratch⟩

/-! ### A sample -/

theorem linkFree_of_records (h : ∀ l target, (l, Entry.link target) ∉ t.records) : t.LinkFree d := by
  intro l hl target hlink
  cases l with
  | nil => cases hlink
  | cons name up =>
    obtain ⟨before, after, hsplit, -⟩ := List.lookup_eq_some_iff.1 (lookup_cons_eq_some.1 hlink).2.2
    exact h (name :: up) target (by simp [hsplit])

/-- A workspace with a builder that writes one page. -/
def pageTree : Tree :=
  ⟨[(["ws"], .directory), (["build", "ws"], .directory), (["bin"], .directory),
    (["sphinx-build", "bin"], .tool
      ⟨"sphinx-build", [⟨"\x7blast\x7d/index.html", .empty⟩], "", "", .exited 0⟩)]⟩

/-- The workspace with a file of some name in the build directory. -/
def pageTreeWith (name : String) : Tree := pageTree.put [name, "build", "ws"] (.file .empty)

theorem linkFree_put_pageTree {place : Location} {e : Entry} (he : ∀ target, e ≠ .link target) :
    (pageTree.put place e).LinkFree ["build", "ws"] := by
  apply linkFree_of_records
  intro l target hmem
  rcases List.mem_cons.1 hmem with hnew | hold
  · cases hnew
    exact he target rfl
  · have hrecord : (l, Entry.link target) ∈ pageTree.records := (List.mem_filter.1 hold).1
    simp [pageTree] at hrecord

theorem linkFree_pageTreeWith (name : String) : (pageTreeWith name).LinkFree ["build", "ws"] :=
  linkFree_put_pageTree (by simp)

/-- A page that is left over, and a file in the place of the pages: neither makes a difference. -/
theorem strict_from_scratch_sample :
    (strict ⟨"/ws", [], none⟩ Settings.default (pageTreeWith "old.html")).Alike
      (strict ⟨"/ws", [], none⟩ Settings.default (pageTreeWith "html")) := by
  have houtside : ∀ l : Location, ¬ l.IsBelow ["build", "ws"] →
      (pageTreeWith "old.html").lookup l = (pageTreeWith "html").lookup l := by
    intro l hl
    have hput : ∀ name, (pageTreeWith name).lookup l = pageTree.lookup l := fun name =>
      lookup_put_of_not_suffix _ _ fun hs => hl (isBelow_of_suffix hs)
    rw [hput, hput]
  exact (strict_from_scratch houtside (linkFree_pageTreeWith _) (linkFree_pageTreeWith _) (by rfl)
    (by rfl) (by rfl)).1

end Recipe

end DocRunner
