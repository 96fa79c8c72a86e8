/-!
# Steps that may fail

What follows a step that may fail has a result exactly if the step has one and what follows it has
one too.
-/

namespace SopDocs

variable {ε α β : Type} {x : Except ε α} {a : α} {b : β}

theorem bind_eq_ok {f : α → Except ε β} : (x >>= f) = .ok b ↔ ∃ a, x = .ok a ∧ f a = .ok b := by
  cases x <;> simp [bind, Except.bind]

theorem map_eq_ok {f : α → β} : x.map f = .ok b ↔ ∃ a, x = .ok a ∧ f a = b := by
  cases x <;> simp [Except.map]

end SopDocs
