import DocRunner.Proofs.Clean.Sweep
import DocRunner.Proofs.Run.Course
import DocRunner.Proofs.Tree.Way

/-!
# The working directory of a run

The working directory is a text that is resolved anew for each command, in a tree that cleaning, removing a
report and the tools have changed since. It cannot come to mean another directory: what removes entries can only
make it lead nowhere, and a tool, which has to be started in it, only adds to the tree or writes over files.

* `Tree.Shrinks.removePath`, `Recipe.clean_shrinks` : removing and cleaning;
* `Tree.Grows.write` : what a tool does;
* `Target.run_evolves` : a target lets entries go, and others come only while the working
  directory leads to a directory;
* `Target.run_leadsAsBefore` : whatever targets a run consists of, after each of them the working directory
  leads where it led before, or to no directory.
-/

namespace DocRunner

open DocRunner.Tree

variable {t t' : Tree}

/-! ## The changes that a target makes -/

theorem Tree.Shrinks.erase_at (t : Tree) (l : Location) : Shrinks t (t.erase l) := by
  intro m e hm
  cases m with
  | nil => exact hm
  | cons name up =>
    have hrec := (lookup_cons_eq_some.1 hm).2.2
    rw [records_lookup_erase] at hrec
    split at hrec
    · cases hrec
    · rename_i hnot
      rwa [lookup_erase_of_not_suffix t hnot] at hm

theorem Tree.Shrinks.removePath {start : Location} {path : String} (h : t.removePath start path = .ok t') :
    Shrinks t t' := by
  unfold Tree.removePath at h
  cases hr : t.resolve start path with
  | error why =>
    rw [hr] at h
    cases why with
    | notFound =>
      cases h
      exact Shrinks.refl t
    | _ => cases h
  | ok place =>
    rw [hr] at h
    cases he : t.resolveEntry start path with
    | error why =>
      rw [he] at h
      cases h
    | ok l =>
      rw [he] at h
      cases h
      exact Shrinks.erase_at t l

theorem Tree.Grows.write (tool : Tool) (d : Location) (vars : Variables) (arguments : List String) (t : Tree) :
    Grows t (tool.write d vars arguments t) := by
  unfold Tool.write
  induction tool.writes generalizing t with
  | nil => exact Grows.refl t
  | cons w writes ih => exact (Grows.writeFile t d _ w.bytes).trans (ih _)

namespace Recipe

theorem removeEntries_shrinks (dir : String) (names : List String) (t : Tree) :
    Shrinks t (removeEntries dir names t).tree := by
  induction names generalizing t with
  | nil => exact Shrinks.refl t
  | cons name names ih =>
    cases h : t.removePath [] (Path.join dir name) with
    | error why =>
      rw [removeEntries_of_error h]
      exact Shrinks.refl t
    | ok t' =>
      rw [removeEntries_of_ok h]
      exact (Shrinks.removePath h).trans (ih t')

theorem emptyDirectory_shrinks (dir : String) (t : Tree) : Shrinks t (emptyDirectory dir t).tree := by
  unfold emptyDirectory
  split
  · exact Shrinks.refl t
  · exact removeEntries_shrinks dir _ t

theorem clean_shrinks (sh : Shell) (s : Settings) (t : Tree) : Shrinks t (clean sh s t).tree := by
  unfold clean
  split
  · exact emptyDirectory_shrinks _ t
  · exact Shrinks.refl t

theorem removeReport_shrinks (sh : Shell) (s : Settings) (t : Tree) : Shrinks t (removeReport sh s t).tree := by
  unfold removeReport
  cases h : t.removePath [] (reportPath sh s) with
  | error why => exact Shrinks.refl t
  | ok t' => exact Shrinks.removePath h

end Recipe

/-! ## A target and the working directory -/

/-- A tool is started in the working directory, so that this leads to a directory while the tool writes. -/
theorem Shell.run_evolves (sh : Shell) (c : Command) (t : Tree) : Evolves sh.directory t (sh.run c t).tree := by
  cases h : sh.find t c with
  | error why =>
    rw [run_of_not_found h]
    exact .refl t
  | ok found =>
    obtain ⟨d, tool⟩ := found
    rw [run_of_found h]
    exact .of_grows (resolveDirectory_of_find h) (Grows.write _ _ _ _ t)

theorem Tree.Evolves.andThen {path : String} {o : Outcome} {next : Tree → Outcome} (h : Evolves path t o.tree)
    (hnext : ∀ u, Evolves path u (next u).tree) : Evolves path t (o.andThen next).tree := by
  unfold Outcome.andThen
  split
  · exact h.trans (hnext o.tree)
  · exact h

namespace Target

variable {sh : Shell} {s : Settings}

/-- What comes before the tool of a target only takes entries away. -/
theorem prepare_shrinks (sh : Shell) (s : Settings) (target : Target) (t : Tree) :
    Shrinks t (target.prepare sh s t).tree := by
  cases target with
  | clean => exact Recipe.clean_shrinks sh s t
  | stricthtml => exact Recipe.clean_shrinks sh s t
  | linkcheck => exact Recipe.removeReport_shrinks sh s t
  | _ => exact Shrinks.refl t

theorem prepare_evolves (sh : Shell) (s : Settings) (target : Target) (t : Tree) :
    Evolves sh.directory t (target.prepare sh s t).tree :=
  .of_shrinks (prepare_shrinks sh s target t)

theorem carryOut_evolves (sh : Shell) (s : Settings) (target : Target) (t : Tree) :
    Evolves sh.directory t (target.carryOut sh s t).tree := by
  unfold carryOut
  cases target.command? sh s with
  | none => exact .refl t
  | some c => exact (sh.run_evolves c t).andThen fun u => by rw [conclude_tree]; exact .refl u

/-- A target lets entries come only while the working directory leads to a directory. -/
theorem run_evolves (sh : Shell) (s : Settings) (target : Target) (t : Tree) :
    Evolves sh.directory t (target.run sh s t).tree := by
  rw [run_eq]
  exact (prepare_evolves sh s target t).andThen (carryOut_evolves sh s target)

/-- After a target the working directory leads where it led before, or to no directory. -/
theorem run_leadsAsBefore (sh : Shell) (s : Settings) (target : Target) (t : Tree) :
    LeadsAsBefore [] sh.directory t (target.run sh s t).tree :=
  (run_evolves sh s target t).leadsAsBefore

end Target

end DocRunner
