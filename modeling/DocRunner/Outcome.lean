import DocRunner.Event
import DocRunner.Failure

/-!
# Outcomes

An `Outcome` is what a task leaves: whether it succeeded, what it did that can be seen, and the file tree. Tasks
are put together by `Outcome.andThen`, which goes on only after a success and keeps the events in order.
-/

namespace DocRunner

/-- What a task leaves. -/
structure Outcome where
  result : Except Failure Unit
  events : List Event
  tree : Tree

namespace Outcome

/-- Success, with some events. -/
def done (events : List Event) (t : Tree) : Outcome := ⟨.ok (), events, t⟩

/-- Failure, without an event. -/
def fail (why : Failure) (t : Tree) : Outcome := ⟨.error why, [], t⟩

/-- Puts events in front. -/
def after (events : List Event) (o : Outcome) : Outcome :=
  { o with events := events ++ o.events }

/-- Goes on with the tree that a success has left. A failure stays what it is. -/
def andThen (o : Outcome) (next : Tree → Outcome) : Outcome :=
  match o.result with
  | .ok () => (next o.tree).after o.events
  | .error _ => o

@[simp] theorem result_after (events : List Event) (o : Outcome) : (o.after events).result = o.result := rfl

@[simp] theorem tree_after (events : List Event) (o : Outcome) : (o.after events).tree = o.tree := rfl

@[simp] theorem events_after (events : List Event) (o : Outcome) :
    (o.after events).events = events ++ o.events := rfl

theorem andThen_of_ok {o : Outcome} (h : o.result = .ok ()) (next : Tree → Outcome) :
    o.andThen next = (next o.tree).after o.events := by
  rw [andThen, h]

theorem andThen_of_error {o : Outcome} {why : Failure} (h : o.result = .error why) (next : Tree → Outcome) :
    o.andThen next = o := by
  rw [andThen, h]

theorem done_andThen (events : List Event) (t : Tree) (next : Tree → Outcome) :
    (done events t).andThen next = (next t).after events := rfl

/-- Nothing more to do changes nothing. -/
theorem andThen_done_nil (o : Outcome) : o.andThen (.done []) = o := by
  obtain ⟨_ | _, events, t⟩ := o
  · rfl
  · rw [andThen_of_ok rfl, done, after, List.append_nil]

end Outcome

end DocRunner
