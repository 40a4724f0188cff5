import Mathlib.Order.Lattice
import Mathlib.Order.Defs.PartialOrder

/-!
The exception monad: what a bind does with each outcome of its first part, and
how an outcome of the whole splits into outcomes of the parts.
-/

namespace ServiceHost.Library

variable {ε α β : Type}

@[simp] theorem pure_eq_ok (value : α) : (pure value : Except ε α) = .ok value := rfl

@[simp] theorem throw_eq_error (exception : ε) : (throw exception : Except ε α) = .error exception := rfl

@[simp] theorem ok_bind (value : α) (next : α → Except ε β) : (Except.ok value >>= next) = next value := rfl

@[simp] theorem error_bind (exception : ε) (next : α → Except ε β) :
    (Except.error exception >>= next) = .error exception := rfl

@[simp] theorem map_ok (change : α → β) (value : α) :
    change <$> (Except.ok value : Except ε α) = .ok (change value) := rfl

@[simp] theorem map_error (change : α → β) (exception : ε) :
    change <$> (Except.error exception : Except ε α) = .error exception := rfl

theorem bind_ok (first : Except ε α) : (first >>= fun value => Except.ok value) = first := by
  cases first with
  | ok _ => rfl
  | error _ => rfl

theorem bind_eq_ok_iff {first : Except ε α} {next : α → Except ε β} {result : β} :
    (first >>= next) = .ok result ↔ ∃ value, first = .ok value ∧ next value = .ok result := by
  cases first with
  | ok value => simp
  | error exception => simp

theorem map_eq_ok_iff {first : Except ε α} {change : α → β} {result : β} :
    change <$> first = .ok result ↔ ∃ value, first = .ok value ∧ change value = result := by
  cases first with
  | ok value => simp
  | error exception => simp

theorem bind_ne_error {exception : ε} {first : Except ε α} {next : α → Except ε β}
    (sound : first ≠ .error exception) (later : ∀ value, next value ≠ .error exception) :
    (first >>= next) ≠ .error exception := by
  cases first with
  | ok value => exact later value
  | error other =>
      rintro ⟨⟩
      exact sound rfl

theorem exists_ok {first : Except ε α} (returns : first.toOption.isSome = true) :
    ∃ value, first = .ok value := by
  cases first with
  | ok value => exact ⟨value, rfl⟩
  | error exception => cases returns

end ServiceHost.Library
