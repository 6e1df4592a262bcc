import Mathlib.Logic.Basic

/-!
# Results of steps

A step ends with a value or with a fault. Steps in a row end with a value if each of them does.
-/

namespace ChatTranscript

namespace Results

variable {ε α β : Type} {result : Except ε α} {value : β}

@[simp] theorem bind_eq_ok {next : α → Except ε β} :
    (result >>= next) = .ok value ↔ ∃ a, result = .ok a ∧ next a = .ok value := by
  cases result with
  | error fault => simp [bind, Except.bind]
  | ok a => simp [bind, Except.bind]

@[simp] theorem map_eq_ok {f : α → β} :
    result.map f = .ok value ↔ ∃ a, result = .ok a ∧ f a = value := by
  cases result with
  | error fault => simp [Except.map]
  | ok a => simp [Except.map]

/-- Another name for the fault changes no value. -/
@[simp] theorem mapError_eq_ok {δ : Type} {rename : ε → δ} {a : α} :
    result.mapError rename = .ok a ↔ result = .ok a := by
  cases result with
  | error fault => exact iff_of_false nofun nofun
  | ok b =>
    change (Except.ok b : Except δ α) = .ok a ↔ (Except.ok b : Except ε α) = .ok a
    rw [Except.ok.injEq, Except.ok.injEq]

end Results

end ChatTranscript
