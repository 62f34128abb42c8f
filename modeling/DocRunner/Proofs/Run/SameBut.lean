import DocRunner.Outcome
import Mathlib.Data.List.Forall2
import Mathlib.Data.String.Basic

/-!
# The same but for the text of the working directory

Two runs in one directory that know it by different texts differ only in these, wherever they show a path that
is read in the working directory.

* `Text.SameBut dir dir' text text'` : the texts differ only where such a path is shown;
* `Event.SameBut`, `SameEvents` : so do events, and rows of events. They make the same
  calls (`SameEvents.callsOf_eq`), and what they print differs only there
  (`SameEvents.stdoutOf`, `SameEvents.stderrOf`);
* `SameResult R r r'` : both have succeeded with the same, or both have failed, with related causes;
* `Outcome.SameBut` : what two tasks leave differs only in the texts of their events and
  of the cause of a failure.
-/

namespace DocRunner

/-! ## Texts and events -/

/-- Two texts differ only where a path is shown that is read in the working directory, which is `dir` in the one
and `dir'` in the other. -/
inductive Text.SameBut (dir dir' : String) : String → String → Prop
  | same (text : String) : Text.SameBut dir dir' text text
  | path (q : String) : Text.SameBut dir dir' (Path.join dir q) (Path.join dir' q)
  | append {xs xs' ys ys' : String} :
      Text.SameBut dir dir' xs xs' → Text.SameBut dir dir' ys ys' → Text.SameBut dir dir' (xs ++ ys) (xs' ++ ys')

/-- Two events differ only in what they show of the working directory. -/
inductive Event.SameBut (dir dir' : String) : Event → Event → Prop
  | same (e : Event) : Event.SameBut dir dir' e e
  | note {text text' : String} :
      Text.SameBut dir dir' text text' → Event.SameBut dir dir' (.note text) (.note text')
  | echo {text text' : String} :
      Text.SameBut dir dir' text text' → Event.SameBut dir dir' (.echo text) (.echo text')
  | print {text text' : String} :
      Text.SameBut dir dir' text text' → Event.SameBut dir dir' (.print text) (.print text')
  | complain {text text' : String} :
      Text.SameBut dir dir' text text' → Event.SameBut dir dir' (.complain text) (.complain text')

/-- Two rows of events differ only in what they show of the working directory. -/
def SameEvents (dir dir' : String) (events events' : List Event) : Prop :=
  List.Forall₂ (Event.SameBut dir dir') events events'

section Shown

variable {dir dir' : String} {events events' more more' : List Event} {e e' : Event}

/-- A path in front of a text and behind another. -/
theorem Text.SameBut.between (before q after : String) :
    Text.SameBut dir dir' (before ++ Path.join dir q ++ after) (before ++ Path.join dir' q ++ after) :=
  .append (.append (.same before) (.path q)) (.same after)

namespace Event.SameBut

theorem stdout (h : e.SameBut dir dir' e') : Text.SameBut dir dir' e.stdout e'.stdout := by
  cases h with
  | note htext => exact .append htext (.same "\n")
  | print htext => exact htext
  | _ => exact .same _

theorem stderr (h : e.SameBut dir dir' e') : Text.SameBut dir dir' e.stderr e'.stderr := by
  cases h with
  | echo htext => exact .append (.append (.same "$ ") htext) (.same "\n")
  | complain htext => exact htext
  | _ => exact .same _

theorem call?_eq (h : e.SameBut dir dir' e') : e'.call? = e.call? := by
  cases h <;> rfl

end Event.SameBut

namespace SameEvents

theorem refl (dir dir' : String) (events : List Event) : SameEvents dir dir' events events :=
  List.forall₂_same.2 fun e _ => .same e

theorem one (h : e.SameBut dir dir' e') : SameEvents dir dir' [e] [e'] := .cons h .nil

theorem append (h : SameEvents dir dir' events events') (h' : SameEvents dir dir' more more') :
    SameEvents dir dir' (events ++ more) (events' ++ more') :=
  List.rel_append h h'

/-- Whatever each event shows is shown in order, the same but for the working directory. -/
theorem joined {shown : Event → String}
    (hshown : ∀ {e e'}, Event.SameBut dir dir' e e' → Text.SameBut dir dir' (shown e) (shown e'))
    (h : SameEvents dir dir' events events') :
    Text.SameBut dir dir' (String.join (events.map shown)) (String.join (events'.map shown)) := by
  induction h with
  | nil => exact .same _
  | cons he _ ih =>
    rw [List.map_cons, List.map_cons, String.join_cons, String.join_cons]
    exact .append (hshown he) ih

theorem stdoutOf (h : SameEvents dir dir' events events') :
    Text.SameBut dir dir' (DocRunner.stdoutOf events) (DocRunner.stdoutOf events') :=
  h.joined Event.SameBut.stdout

theorem stderrOf (h : SameEvents dir dir' events events') :
    Text.SameBut dir dir' (DocRunner.stderrOf events) (DocRunner.stderrOf events') :=
  h.joined Event.SameBut.stderr

theorem callsOf_eq (h : SameEvents dir dir' events events') : callsOf events' = callsOf events := by
  induction h with
  | nil => rfl
  | cons he _ ih =>
    rw [callsOf, callsOf, List.filterMap_cons, List.filterMap_cons, he.call?_eq]
    rw [callsOf, callsOf] at ih
    rw [ih]

end SameEvents

end Shown

/-! ## Results and outcomes -/

/-- Both have succeeded with the same, or both have failed, with related causes. -/
inductive SameResult {ε α : Type} (R : ε → ε → Prop) : Except ε α → Except ε α → Prop
  | ok (a : α) : SameResult R (.ok a) (.ok a)
  | error {why why' : ε} : R why why' → SameResult R (.error why) (.error why')

section Results

variable {ε α : Type} {R : ε → ε → Prop} {r r' : Except ε α}

theorem SameResult.ok_iff {a : α} (h : SameResult R r r') : r = .ok a ↔ r' = .ok a := by
  cases h with
  | ok b => exact Iff.rfl
  | error => exact iff_of_false (fun hr => nomatch hr) fun hr => nomatch hr

theorem SameResult.of_error {why : ε} (h : SameResult R r r') (hr : r = .error why) :
    ∃ why', r' = .error why' ∧ R why why' := by
  cases h with
  | ok b => cases hr
  | error hR =>
    cases hr
    exact ⟨_, rfl, hR⟩

end Results

/-- Two causes of failure have one exit code, and their wordings differ only in what they show of the working
directory. -/
structure Failure.SameBut (dir dir' : String) (why why' : Failure) : Prop where
  exitCode : why'.exitCode = why.exitCode
  message : Text.SameBut dir dir' why.message why'.message

theorem Failure.SameBut.refl (dir dir' : String) (why : Failure) : why.SameBut dir dir' why := ⟨rfl, .same _⟩

theorem Failure.notRemoved_sameBut (dir dir' q : String) (why : Refusal) :
    (notRemoved (Path.join dir q) why).SameBut dir dir' (notRemoved (Path.join dir' q) why) :=
  ⟨rfl, .append (.between "failed to remove path `" q "`: ") (.same why.message)⟩

theorem Failure.unreadableDirectory_sameBut (dir dir' q : String) (why : Refusal) :
    (unreadableDirectory (Path.join dir q) why).SameBut dir dir' (unreadableDirectory (Path.join dir' q) why) :=
  ⟨rfl, .append (.between "failed read directory `" q "`: ") (.same why.message)⟩

/-- What two tasks leave differs only in what they show of the working directory. -/
structure Outcome.SameBut (dir dir' : String) (o o' : Outcome) : Prop where
  result : SameResult (Failure.SameBut dir dir') o.result o'.result
  events : SameEvents dir dir' o.events o'.events
  tree : o'.tree = o.tree

namespace Outcome.SameBut

variable {dir dir' : String} {events events' : List Event} {o o' : Outcome} {t : Tree}

theorem done (h : SameEvents dir dir' events events') (t : Tree) :
    Outcome.SameBut dir dir' (Outcome.done events t) (Outcome.done events' t) := ⟨.ok (), h, rfl⟩

theorem fail {why why' : Failure} (h : why.SameBut dir dir' why') (t : Tree) :
    Outcome.SameBut dir dir' (Outcome.fail why t) (Outcome.fail why' t) := ⟨.error h, .nil, rfl⟩

theorem refl (dir dir' : String) (o : Outcome) : o.SameBut dir dir' o := by
  refine ⟨?_, SameEvents.refl dir dir' _, rfl⟩
  cases o.result with
  | ok _ => exact .ok ()
  | error why => exact .error (Failure.SameBut.refl dir dir' why)

theorem after (h : o.SameBut dir dir' o') (hevents : SameEvents dir dir' events events') :
    (o.after events).SameBut dir dir' (o'.after events') := ⟨h.result, hevents.append h.events, h.tree⟩

/-- Tasks that are put together differ only so if the first do, and the second do in the tree
that the first leave. -/
theorem andThen {next next' : Tree → Outcome} (h : o.SameBut dir dir' o')
    (hnext : o.result = .ok () → (next o.tree).SameBut dir dir' (next' o.tree)) :
    (o.andThen next).SameBut dir dir' (o'.andThen next') := by
  cases hr : o.result with
  | error why =>
    obtain ⟨why', hr', -⟩ := h.result.of_error hr
    rwa [andThen_of_error hr, andThen_of_error hr']
  | ok _ =>
    rw [andThen_of_ok hr, andThen_of_ok (h.result.ok_iff.1 hr), h.tree]
    exact (hnext hr).after h.events

end Outcome.SameBut

end DocRunner
