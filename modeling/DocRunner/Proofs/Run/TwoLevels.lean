import DocRunner.Proofs.Run.LogLevel

/-!
# Two rows of events that differ in the log level

* `SameButLevel quiet quiet' keep events events'` : what two rows of events have in common, told by which of
  them comes from a quiet run;
* `Shell.Shows.sameButLevel` : two shells that show the same events do so in this way.
-/

namespace DocRunner

variable {keep : String → Bool} {sh sh' : Shell} {full events events' : List Event}

/-! ## Events without some variables -/

theorem Event.isInformational_restrict (keep : String → Bool) (e : Event) :
    (e.restrict keep).isInformational = e.isInformational := by
  cases e <;> rfl

theorem map_restrict {f : Event → String} (h : ∀ e, f (e.restrict keep) = f e) (events : List Event) :
    (events.map (Event.restrict keep)).map f = events.map f := by
  rw [List.map_map]
  exact List.map_congr_left fun e _ => h e

theorem stdoutOf_restrict (keep : String → Bool) (events : List Event) :
    stdoutOf (events.map (Event.restrict keep)) = stdoutOf events := by
  unfold stdoutOf
  rw [map_restrict]
  intro e
  cases e <;> rfl

theorem stderrOf_restrict (keep : String → Bool) (events : List Event) :
    stderrOf (events.map (Event.restrict keep)) = stderrOf events := by
  unfold stderrOf
  rw [map_restrict]
  intro e
  cases e <;> rfl

theorem callsOf_restrict (keep : String → Bool) (events : List Event) :
    callsOf (events.map (Event.restrict keep)) = (callsOf events).map (Call.restrict keep) := by
  induction events with
  | nil => rfl
  | cons e events ih =>
    have hstep : ∀ e : Event, callsOf [e.restrict keep] = (callsOf [e]).map (Call.restrict keep) := by
      intro e
      cases e <;> rfl
    rw [List.map_cons, ← List.singleton_append, callsOf_append, hstep, ih, ← List.map_append, ← callsOf_append,
      List.singleton_append]

/-- What a quiet run leaves out are no calls. -/
theorem callsOf_shown (sh : Shell) (events : List Event) : callsOf (sh.shown events) = callsOf events := by
  unfold Shell.shown
  split
  · unfold callsOf
    rw [List.filterMap_filter]
    apply List.filterMap_congr
    intro e _
    cases e <;> rfl
  · rfl

/-! ## Two rows -/

/-- What two rows of events have in common that differ in what is left out in quiet mode. -/
structure SameButLevel (quiet quiet' : Bool) (keep : String → Bool) (events events' : List Event) : Prop where
  /-- The calls are the same, up to the variables that are not kept. -/
  calls : (callsOf events).map (Call.restrict keep) = (callsOf events').map (Call.restrict keep)
  /-- If both are quiet or none is, all is the same. -/
  alike : quiet = quiet' →
    events.map (Event.restrict keep) = events'.map (Event.restrict keep) ∧
      stdoutOf events = stdoutOf events' ∧ stderrOf events = stderrOf events'
  /-- If only one is quiet, it has the events of the other without those that are informational. -/
  quieter : quiet = true → quiet' = false →
    events.map (Event.restrict keep) = (events'.filter (!·.isInformational)).map (Event.restrict keep) ∧
      stdoutOf events = stdoutOf (events'.filter (!·.isInformational)) ∧
      stderrOf events = stderrOf (events'.filter (!·.isInformational))

theorem outputs_of_restrict (h : events.map (Event.restrict keep) = events'.map (Event.restrict keep)) :
    stdoutOf events = stdoutOf events' ∧ stderrOf events = stderrOf events' := by
  rw [← stdoutOf_restrict keep, ← stdoutOf_restrict keep events', ← stderrOf_restrict keep,
    ← stderrOf_restrict keep events', h]
  exact ⟨rfl, rfl⟩

/-- What two shells show of the same events. -/
theorem Shell.Shows.sameButLevel (h : sh.Shows keep full events) (h' : sh'.Shows keep full events') :
    SameButLevel sh.isQuiet sh'.isQuiet keep events events' := by
  unfold Shell.Shows at h h'
  refine ⟨?_, fun hquiet => ?_, fun hquiet hloud => ?_⟩
  · rw [← callsOf_restrict, ← callsOf_restrict, h, h', callsOf_shown, callsOf_shown]
  · have hsame : events.map (Event.restrict keep) = events'.map (Event.restrict keep) := by
      rw [h, h', Shell.shown, Shell.shown, hquiet]
    exact ⟨hsame, outputs_of_restrict hsame⟩
  · have hsame : events.map (Event.restrict keep) =
        (events'.filter (!·.isInformational)).map (Event.restrict keep) := by
      have hfilter : (events'.filter (!·.isInformational)).map (Event.restrict keep) =
          (events'.map (Event.restrict keep)).filter (!·.isInformational) := by
        rw [List.filter_map]
        congr 2
        funext e
        rw [Function.comp_apply, Event.isInformational_restrict]
      rw [hfilter, h, h', Shell.shown, Shell.shown, hquiet, hloud]
      rfl
    exact ⟨hsame, outputs_of_restrict hsame⟩

end DocRunner
