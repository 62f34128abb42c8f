import DocRunner.LinkReport

/-!
# What events report

Informational lines and echoes are no part of what is reported (`outOf_note`, `outOf_echo`), a text that is
printed is (`outOf_print`). So a report on links is summed up by one text (`LinkReport.outOf_summarize`).
-/

namespace DocRunner

@[simp] theorem outOf_print (text : String) : outOf [.print text] = text := by
  simp [outOf, Event.reported]

@[simp] theorem outOf_note (sh : Shell) (line : String) : outOf (sh.note line) = "" := by
  rw [Shell.note]
  split <;> rfl

@[simp] theorem outOf_echo (sh : Shell) (command : String) : outOf (sh.echo command) = "" := by
  rw [Shell.echo]
  split <;> rfl

/-- Where no part is reported, nothing is. -/
theorem outOf_flatMap {α : Type} {f : α → List Event} (h : ∀ x, outOf (f x) = "") (xs : List α) :
    outOf (xs.flatMap f) = "" := by
  induction xs with
  | nil => rfl
  | cons x xs ih => rw [List.flatMap_cons, outOf_append, h, ih, String.empty_append]

/-- A summary is all that is reported about a report. -/
theorem LinkReport.outOf_summarize (sh : Shell) (path report : String) :
    outOf (summarize sh path report) = summary path (broken report) := by
  have hlines : outOf (complaints sh report) = "" := by
    apply outOf_flatMap
    intro line
    cases Entry.ofLine? line with
    | ok entry => rfl
    | error why => exact outOf_note sh _
  rw [summarize, outOf_append, hlines, String.empty_append, outOf_print]

end DocRunner
