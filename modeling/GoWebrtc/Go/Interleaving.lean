import Mathlib

/-!
Threads that share one state and interleave atomic steps.
-/

namespace Interleaving

/-- Every thread has a local state and takes atomic steps against the shared state. -/
structure System (Thread Shared Local : Type) where
  step : Thread → Local → Shared → Option (Local × Shared)

/-- The shared state with the local state of every thread. -/
structure Config (Thread Shared Local : Type) where
  shared : Shared
  locals : Thread → Local

variable {Thread Shared Local : Type} [DecidableEq Thread]

namespace System

variable (system : System Thread Shared Local)

/-- The scheduler runs one atomic step of a thread; a thread with no step enabled stays put. -/
def advance (config : Config Thread Shared Local) (thread : Thread) :
    Config Thread Shared Local :=
  match system.step thread (config.locals thread) config.shared with
  | some (next, shared) => ⟨shared, Function.update config.locals thread next⟩
  | none => config

/-- A schedule names the thread that moves at each step. -/
def run (config : Config Thread Shared Local) : List Thread → Config Thread Shared Local
  | [] => config
  | thread :: schedule => run (system.advance config thread) schedule

@[simp] theorem run_nil (config : Config Thread Shared Local) : system.run config [] = config := rfl

@[simp] theorem run_cons (config : Config Thread Shared Local) (thread : Thread)
    (schedule : List Thread) :
    system.run config (thread :: schedule) = system.run (system.advance config thread) schedule := rfl

theorem run_append (config : Config Thread Shared Local) (first second : List Thread) :
    system.run config (first ++ second) = system.run (system.run config first) second := by
  induction first generalizing config with
  | nil => rfl
  | cons thread rest ih => exact ih (system.advance config thread)

theorem advance_of_step {config : Config Thread Shared Local} {thread : Thread}
    {next : Local} {shared : Shared}
    (stepped : system.step thread (config.locals thread) config.shared = some (next, shared)) :
    system.advance config thread = ⟨shared, Function.update config.locals thread next⟩ := by
  simp [advance, stepped]

theorem advance_of_blocked {config : Config Thread Shared Local} {thread : Thread}
    (blocked : system.step thread (config.locals thread) config.shared = none) :
    system.advance config thread = config := by
  simp [advance, blocked]

/-- A step of one thread leaves the local state of every other thread alone. -/
theorem advance_locals_of_ne (config : Config Thread Shared Local) {thread other : Thread}
    (different : other ≠ thread) :
    (system.advance config thread).locals other = config.locals other := by
  unfold advance
  split
  · exact Function.update_of_ne different _ _
  · rfl

/-- A property kept by every enabled atomic step. -/
def Preserves (invariant : Config Thread Shared Local → Prop) : Prop :=
  ∀ config thread next shared, invariant config →
    system.step thread (config.locals thread) config.shared = some (next, shared) →
      invariant ⟨shared, Function.update config.locals thread next⟩

theorem advance_invariant {invariant : Config Thread Shared Local → Prop}
    (preserves : system.Preserves invariant) {config : Config Thread Shared Local}
    (holds : invariant config) (thread : Thread) : invariant (system.advance config thread) := by
  unfold advance
  split
  · rename_i next shared stepped
    exact preserves config thread next shared holds stepped
  · exact holds

/-- An invariant kept by every atomic step holds after every schedule. -/
theorem run_invariant {invariant : Config Thread Shared Local → Prop}
    (preserves : system.Preserves invariant) {config : Config Thread Shared Local}
    (holds : invariant config) (schedule : List Thread) :
    invariant (system.run config schedule) := by
  induction schedule generalizing config with
  | nil => exact holds
  | cons thread rest ih => exact ih (system.advance_invariant preserves holds thread)

end System

end Interleaving
