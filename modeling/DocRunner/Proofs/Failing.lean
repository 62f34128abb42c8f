/-!
# Computations that can fail

`map_eq_ok` and `bind_eq_ok` take apart a computation that has succeeded, to the success of what it starts with.
`exists_map_eq_ok_iff` and `exists_bind_eq_ok_iff` say when one succeeds at all, `map_eq_error_iff` and
`bind_eq_error_iff` how one fails.
-/

namespace DocRunner

variable {ε α β : Type} {m : Except ε α} {b : β}

theorem map_eq_ok {f : α → β} (h : m.map f = .ok b) : ∃ a, m = .ok a ∧ f a = b := by
  cases m with
  | error why => cases h
  | ok a => exact ⟨a, rfl, Except.ok.inj h⟩

theorem bind_eq_ok {f : α → Except ε β} (h : m.bind f = .ok b) : ∃ a, m = .ok a ∧ f a = .ok b := by
  cases m with
  | error why => cases h
  | ok a => exact ⟨a, rfl, h⟩

theorem exists_map_eq_ok_iff {f : α → β} : (∃ b, m.map f = .ok b) ↔ ∃ a, m = .ok a := by
  constructor
  · rintro ⟨b, h⟩
    obtain ⟨a, ha, -⟩ := map_eq_ok h
    exact ⟨a, ha⟩
  · rintro ⟨a, rfl⟩
    exact ⟨f a, rfl⟩

theorem map_eq_error_iff {f : α → β} {why : ε} : m.map f = .error why ↔ m = .error why := by
  cases m <;> simp [Except.map]

/-- If the success of the second computation does not depend on what the first one gives,
both have to succeed. -/
theorem exists_bind_eq_ok_iff {f : α → Except ε β} {P : Prop} (hf : ∀ a, (∃ b, f a = .ok b) ↔ P) :
    (∃ b, m.bind f = .ok b) ↔ (∃ a, m = .ok a) ∧ P := by
  constructor
  · rintro ⟨b, h⟩
    obtain ⟨a, ha, hb⟩ := bind_eq_ok h
    exact ⟨⟨a, ha⟩, (hf a).1 ⟨b, hb⟩⟩
  · rintro ⟨⟨a, rfl⟩, hP⟩
    exact (hf a).2 hP

/-- If the failure of the second computation does not depend on what the first one gives, the first one fails,
or it succeeds and the second one fails. -/
theorem bind_eq_error_iff {f : α → Except ε β} {why : ε} {P : Prop} (hf : ∀ a, f a = .error why ↔ P) :
    m.bind f = .error why ↔ m = .error why ∨ (∃ a, m = .ok a) ∧ P := by
  cases m with
  | error why' => simp [Except.bind]
  | ok a => simpa [Except.bind] using hf a

end DocRunner
