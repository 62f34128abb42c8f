import DocRunner.Proofs.Run.Visits

/-!
# Runs one after the other

* `RunOutcome.andThen o next` : behind a run that has succeeded, another one in the tree that it has left;
* `runAll_append` : a run of two rows of targets is a run of the first, gone on with one of the second;
* `Visits.without_help` : without its `help` targets a run comes to the same visits, except for those of `help`;
* `runAll_composes` : so runs can be put together and taken apart, and `help` adds its text
  to a run and nothing else.
-/

namespace DocRunner

/-- Goes on, behind a run that has succeeded, in the tree that it has left. A failure stays what it is. -/
def RunOutcome.andThen (o : RunOutcome) (next : Tree → RunOutcome) : RunOutcome :=
  match o.result with
  | .ok () => ⟨(next o.tree).result, o.events ++ (next o.tree).events, (next o.tree).tree⟩
  | .error _ => o

theorem RunOutcome.andThen_of_error {o : RunOutcome} {failing : Target × Failure} (h : o.result = .error failing)
    (next : Tree → RunOutcome) : o.andThen next = o := by
  rw [andThen, h]

theorem RunOutcome.andThen_of_ok {o : RunOutcome} (h : o.result = .ok ()) (next : Tree → RunOutcome) :
    o.andThen next = ⟨(next o.tree).result, o.events ++ (next o.tree).events, (next o.tree).tree⟩ := by
  rw [andThen, h]

variable {sh : Shell} {s : Settings} {t : Tree} {targets : List Target} {visits : List Visit}

/-! ## One row of targets behind another -/

theorem runAll_append (sh : Shell) (s : Settings) (xs ys : List Target) (t : Tree) :
    runAll sh s (xs ++ ys) t = (runAll sh s xs t).andThen (runAll sh s ys) := by
  induction xs generalizing t with
  | nil => rfl
  | cons x xs ih =>
    rw [List.cons_append]
    cases h : (x.run sh s t).result with
    | error why =>
      rw [runAll_of_failed h, runAll_of_failed h]
      rfl
    | ok _ =>
      rw [runAll_of_passed h, runAll_of_passed h, ih]
      generalize runAll sh s xs (x.run sh s t).tree = o
      obtain ⟨_ | _, events, left⟩ := o
      · rfl
      · simp only [RunOutcome.andThen, List.append_assoc]

/-! ## Without `help` -/

theorem Visit.outcome_of_help {v : Visit} (h : v.target = .help) :
    v.outcome sh s = .done [.print usage] v.tree := by
  rw [outcome, h]
  rfl

/-- Without its `help` targets a run comes to the same visits, except for those of `help`. -/
theorem Visits.without_help (h : Visits sh s targets t visits) :
    Visits sh s (targets.filter (· ≠ .help)) t (visits.filter (·.target ≠ .help)) := by
  induction h with
  | nil t => exact .nil t
  | @failed target t why targets hfail =>
    have hne : target ≠ .help := by
      rintro rfl
      cases hfail
    rw [List.filter_cons_of_pos (by simpa using hne), List.filter_cons_of_pos (by simpa using hne)]
    exact .failed _ hfail
  | @passed target targets t visits hok _ ih =>
    by_cases hhelp : target = .help
    · subst hhelp
      exact ih
    · rw [List.filter_cons_of_pos (by simpa using hhelp), List.filter_cons_of_pos (by simpa using hhelp)]
      exact .passed hok ih

theorem runAll_without_help (sh : Shell) (s : Settings) (targets : List Target) (t : Tree) :
    (runAll sh s (targets.filter (· ≠ .help)) t).result = (runAll sh s targets t).result ∧
      (runAll sh s (targets.filter (· ≠ .help)) t).tree = (runAll sh s targets t).tree := by
  induction targets generalizing t with
  | nil => exact ⟨rfl, rfl⟩
  | cons target targets ih =>
    by_cases hhelp : target = .help
    · subst hhelp
      exact ih t
    · rw [List.filter_cons_of_pos (by simpa using hhelp)]
      cases h : (target.run sh s t).result with
      | error why =>
        rw [runAll_of_failed h, runAll_of_failed h]
        exact ⟨rfl, rfl⟩
      | ok _ =>
        rw [runAll_of_passed h, runAll_of_passed h]
        exact ih _

/-- The calls of visits are those of the visits to other targets than `help`. -/
theorem callsOf_without_help (sh : Shell) (s : Settings) (visits : List Visit) :
    callsOf ((visits.filter (·.target ≠ .help)).flatMap fun v => (v.outcome sh s).events) =
      callsOf (visits.flatMap fun v => (v.outcome sh s).events) := by
  induction visits with
  | nil => rfl
  | cons v visits ih =>
    by_cases hhelp : v.target = .help
    · rw [List.filter_cons_of_neg (by simpa using hhelp), ih, List.flatMap_cons, callsOf_append,
        Visit.outcome_of_help hhelp]
      rfl
    · rw [List.filter_cons_of_pos (by simpa using hhelp), List.flatMap_cons, List.flatMap_cons, callsOf_append,
        callsOf_append, ih]

/-- A run of two rows of targets is a run of the first and, if that succeeds, one of the second in the tree
that it has left. If it fails, the second row does not matter. A run without its `help` targets ends alike,
with the same calls and the same tree, and does what the whole run does, less the text of each `help` that
the whole run comes to. -/
theorem runAll_composes (sh : Shell) (s : Settings) (t : Tree) :
    (∀ xs ys, runAll sh s (xs ++ ys) t = (runAll sh s xs t).andThen (runAll sh s ys)) ∧
      (∀ xs failing, (runAll sh s xs t).result = .error failing →
        ∀ ys, runAll sh s (xs ++ ys) t = runAll sh s xs t) ∧
      ∀ xs,
        (runAll sh s (xs.filter (· ≠ .help)) t).result = (runAll sh s xs t).result ∧
        (runAll sh s (xs.filter (· ≠ .help)) t).tree = (runAll sh s xs t).tree ∧
        callsOf (runAll sh s (xs.filter (· ≠ .help)) t).events = callsOf (runAll sh s xs t).events ∧
        ∃ visits, Visits sh s xs t visits ∧
          (runAll sh s xs t).events = visits.flatMap (fun v => (v.outcome sh s).events) ∧
          (runAll sh s (xs.filter (· ≠ .help)) t).events =
            (visits.filter (·.target ≠ .help)).flatMap (fun v => (v.outcome sh s).events) ∧
          ∀ v ∈ visits, v.target = .help → (v.outcome sh s).events = [.print usage] := by
  refine ⟨fun xs ys => runAll_append sh s xs ys t, fun xs failing hfail ys => ?_, fun xs => ?_⟩
  · rw [runAll_append, RunOutcome.andThen_of_error hfail]
  · obtain ⟨hresult, htree⟩ := runAll_without_help sh s xs t
    obtain ⟨visits, hvisits⟩ := Visits.exist sh s xs t
    have hevents := hvisits.events
    have hwithout := hvisits.without_help.events
    refine ⟨hresult, htree, ?_, visits, hvisits, hevents, hwithout, fun v _ hhelp => ?_⟩
    · rw [hwithout, hevents, callsOf_without_help]
    · rw [Visit.outcome_of_help hhelp]
      rfl

end DocRunner
