import Mathlib

/-!
The shared states behind `std::promise` and `std::future`.
-/

namespace Promise

/-- The `std::future_errc` codes the modelled calls can raise. -/
inductive FutureError where
  | promiseAlreadySatisfied
  deriving DecidableEq, Repr

/-- Shared states named by allocation order; those not yet allocated hold nothing. -/
structure Store (Value : Type) where
  values : Nat → Option Value
  next : Nat
  unallocated : ∀ state, next ≤ state → values state = none

namespace Store

variable {Value : Type}

def empty : Store Value := ⟨fun _ => none, 0, fun _ _ => rfl⟩

/-- A new `std::promise<T>()` and its shared state. -/
def create (store : Store Value) : Store Value × Nat :=
  (⟨store.values, store.next + 1, fun state later => store.unallocated state (by omega)⟩,
    store.next)

/-- `wait_for` reports `future_status::ready` once the state holds a value. -/
def ready (store : Store Value) (state : Nat) : Bool := (store.values state).isSome

/-- Satisfying an allocated state leaves the states above `next` unallocated. -/
theorem update_unallocated (store : Store Value) {state : Nat} (allocated : state < store.next)
    (value : Value) (other : Nat) (later : store.next ≤ other) :
    Function.update store.values state (some value) other = none := by
  have different : other ≠ state := by omega
  rw [Function.update_of_ne different]
  exact store.unallocated other later

/-- `set_value` satisfies the state, or throws when it is already satisfied. -/
def setValue (store : Store Value) (state : Nat) (value : Value) :
    Except FutureError (Store Value) :=
  match store.values state with
  | some _ => .error .promiseAlreadySatisfied
  | none =>
      if allocated : state < store.next then
        .ok ⟨Function.update store.values state (some value), store.next,
          store.update_unallocated allocated value⟩
      else .ok store

@[simp] theorem create_values (store : Store Value) : (store.create.1).values = store.values := rfl

@[simp] theorem create_next (store : Store Value) : (store.create.1).next = store.next + 1 := rfl

@[simp] theorem create_state (store : Store Value) : store.create.2 = store.next := rfl

/-- A new shared state holds no value. -/
theorem values_create_state (store : Store Value) : store.values store.create.2 = none :=
  store.unallocated store.next (Nat.le_refl _)

theorem setValue_of_satisfied {store : Store Value} {state : Nat} {held : Value}
    (satisfied : store.values state = some held) (value : Value) :
    store.setValue state value = .error .promiseAlreadySatisfied := by
  simp [setValue, satisfied]

theorem setValue_of_pending {store : Store Value} {state : Nat} (pending : store.values state = none)
    (allocated : state < store.next) (value : Value) :
    ∃ next, store.setValue state value = .ok next ∧ next.next = store.next ∧
      next.values = Function.update store.values state (some value) := by
  simp [setValue, pending, allocated]

end Store

end Promise
