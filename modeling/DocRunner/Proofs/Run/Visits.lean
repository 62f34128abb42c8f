import DocRunner.Run

/-!
# The targets that a run comes to

* `Visits sh s targets t visits` : from the tree `t`, a run of `targets` comes to `visits`, each a target with
  the tree that it finds. The list ends with the first target that fails, or with the last one;
* `Visits.events`, `Visits.result_eq_ok`, `Visits.result_of_error` : what `runAll` does and how it
  ends, told by the visits;
* `Visits.related` : what every target keeps holds between the start and each visit.
-/

namespace DocRunner

/-- A target that a run comes to, and the tree that it finds. -/
structure Visit where
  target : Target
  tree : Tree

/-- What comes of a visit. -/
def Visit.outcome (sh : Shell) (s : Settings) (v : Visit) : Outcome := v.target.run sh s v.tree

/-- The visits of a run: its targets in order, each in the tree that the one before has left, up to and with
the first that fails. -/
inductive Visits (sh : Shell) (s : Settings) : List Target → Tree → List Visit → Prop
  | nil (t : Tree) : Visits sh s [] t []
  | failed {target : Target} {t : Tree} {why : Failure} (targets : List Target) :
      (target.run sh s t).result = .error why → Visits sh s (target :: targets) t [⟨target, t⟩]
  | passed {target : Target} {targets : List Target} {t : Tree} {visits : List Visit} :
      (target.run sh s t).result = .ok () → Visits sh s targets (target.run sh s t).tree visits →
      Visits sh s (target :: targets) t (⟨target, t⟩ :: visits)

variable {sh : Shell} {s : Settings} {target : Target} {targets : List Target} {t : Tree} {visits : List Visit}

/-! ## One target more -/

theorem runAll_of_failed {why : Failure} (h : (target.run sh s t).result = .error why) (targets : List Target) :
    runAll sh s (target :: targets) t =
      ⟨.error (target, why), (target.run sh s t).events, (target.run sh s t).tree⟩ := by
  rw [runAll]
  simp only [h]

theorem runAll_of_passed (h : (target.run sh s t).result = .ok ()) (targets : List Target) :
    runAll sh s (target :: targets) t =
      { runAll sh s targets (target.run sh s t).tree with
        events := (target.run sh s t).events ++ (runAll sh s targets (target.run sh s t).tree).events } := by
  rw [runAll]
  simp only [h]

namespace Visits

/-- Every run has its visits. -/
theorem exist (sh : Shell) (s : Settings) (targets : List Target) (t : Tree) :
    ∃ visits, Visits sh s targets t visits := by
  induction targets generalizing t with
  | nil => exact ⟨[], .nil t⟩
  | cons target targets ih =>
    cases h : (target.run sh s t).result with
    | error why => exact ⟨_, .failed targets h⟩
    | ok _ =>
      obtain ⟨visits, hv⟩ := ih (target.run sh s t).tree
      exact ⟨_, .passed h hv⟩

/-- A run does what its visits do, in order. -/
theorem events (h : Visits sh s targets t visits) :
    (runAll sh s targets t).events = visits.flatMap fun v => (v.outcome sh s).events := by
  induction h with
  | nil t => rfl
  | failed targets hfail =>
    rw [runAll_of_failed hfail, List.flatMap_singleton]
    rfl
  | passed hok _ ih =>
    rw [runAll_of_passed hok, List.flatMap_cons, ih]
    rfl

/-- A run succeeds exactly if all its visits do. -/
theorem result_eq_ok (h : Visits sh s targets t visits) :
    (runAll sh s targets t).result = .ok () ↔ ∀ v ∈ visits, (v.outcome sh s).result = .ok () := by
  induction h with
  | nil t => simp [runAll]
  | failed targets hfail =>
    rw [runAll_of_failed hfail, List.forall_mem_singleton, Visit.outcome, hfail]
    simp
  | passed hok _ ih =>
    rw [runAll_of_passed hok, List.forall_mem_cons, ← ih]
    exact (and_iff_right hok).symm

/-- A run fails with what one of its visits fails with. -/
theorem result_of_error (h : Visits sh s targets t visits) {v : Visit} (hv : v ∈ visits) {why : Failure}
    (hfail : (v.outcome sh s).result = .error why) : (runAll sh s targets t).result = .error (v.target, why) := by
  induction h with
  | nil t => cases hv
  | failed targets hfirst =>
    cases List.mem_singleton.1 hv
    rw [Visit.outcome, hfirst] at hfail
    cases hfail
    rw [runAll_of_failed hfirst]
  | passed hok _ ih =>
    rw [runAll_of_passed hok]
    rcases List.mem_cons.1 hv with rfl | hv
    · rw [Visit.outcome, hok] at hfail
      cases hfail
    · exact ih hv

/-- A run that succeeds comes to all its targets. -/
theorem targets_eq (h : Visits sh s targets t visits) (hok : ∀ v ∈ visits, (v.outcome sh s).result = .ok ()) :
    visits.map Visit.target = targets := by
  induction h with
  | nil t => rfl
  | failed targets hfail =>
    have hfirst := List.forall_mem_singleton.1 hok
    rw [Visit.outcome, hfail] at hfirst
    cases hfirst
  | passed _ _ ih => rw [List.map_cons, ih (List.forall_mem_cons.1 hok).2]

/-- What every target keeps holds between the tree at the start and the tree that a visit finds. -/
theorem related {R : Tree → Tree → Prop} (hrefl : ∀ t, R t t)
    (htrans : ∀ {t t' t''}, R t t' → R t' t'' → R t t'')
    (hstep : ∀ target t, R t (Target.run sh s target t).tree) (h : Visits sh s targets t visits) {v : Visit}
    (hv : v ∈ visits) : R t v.tree := by
  induction h with
  | nil t => cases hv
  | failed targets _ =>
    cases List.mem_singleton.1 hv
    exact hrefl _
  | passed _ _ ih =>
    rcases List.mem_cons.1 hv with rfl | hv
    · exact hrefl _
    · exact htrans (hstep _ _) (ih hv)

end Visits

end DocRunner
