/-!
# Outcome — steps that can fail

A chain of steps succeeds only if each of its steps does.
-/

namespace JobDesk

variable {ε ε' α β : Type}

theorem ok_of_bind {step : Except ε α} {next : α → Except ε β} {b : β}
    (h : step >>= next = .ok b) : ∃ a, step = .ok a ∧ next a = .ok b := by
  cases step with
  | ok a => exact ⟨a, rfl, h⟩
  | error fault => cases h

theorem ok_of_map {step : Except ε α} {f : α → β} {b : β} (h : step.map f = .ok b) :
    ∃ a, step = .ok a ∧ f a = b := by
  cases step with
  | ok a => exact ⟨a, rfl, Except.ok.inj h⟩
  | error fault => cases h

theorem ok_of_mapError {step : Except ε α} {f : ε → ε'} {a : α} (h : step.mapError f = .ok a) :
    step = .ok a := by
  cases step with
  | ok a' => exact congrArg Except.ok (Except.ok.inj h)
  | error fault => cases h

end JobDesk
