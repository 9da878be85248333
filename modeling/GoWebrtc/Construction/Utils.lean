import GoWebrtc.Go.Basic
import GoWebrtc.Go.Interleaving

/-!
`CGOMap` from `utils.go`; each locked region is one atomic step.
-/

namespace GoWebrtc

open GoRuntime

/-- The last index handed out, and the stored interface values (`none` is a nil interface). -/
structure CGOMap (Value : Type) where
  index : Int64
  pointers : GoMap Int64 (Option Value)

/-- This is `NewCGOMap`. -/
def newCGOMap {Value : Type} : CGOMap Value := ⟨0, GoMap.empty⟩

namespace CGOMap

variable {Value : Type}

/-- `Get` panics unless the index holds a non-nil value. -/
def get (map : CGOMap Value) (index : Int64) : Except Panic Value :=
  match map.pointers.lookup index with
  | some (some pointer) => .ok pointer
  | _ => .error (.message "couldn't retrieve the pointer")

/-- The locked region of `Set`: `m.index += 1` and `m.pointers[m.index] = p`. -/
def setLocked (map : CGOMap Value) (pointer : Option Value) : CGOMap Value :=
  ⟨map.index + 1, map.pointers.insert (map.index + 1) pointer⟩

/-- `Set` when no other goroutine runs between its unlock and its `return m.index`. -/
def set (map : CGOMap Value) (pointer : Option Value) : CGOMap Value × Int64 :=
  let locked := map.setLocked pointer
  (locked, locked.index)

/-- The locked region of `Delete`. -/
def delete (map : CGOMap Value) (index : Int64) : CGOMap Value :=
  { map with pointers := map.pointers.erase index }

@[simp] theorem setLocked_index (map : CGOMap Value) (pointer : Option Value) :
    (map.setLocked pointer).index = map.index + 1 := rfl

@[simp] theorem delete_index (map : CGOMap Value) (index : Int64) :
    (map.delete index).index = map.index := rfl

theorem get_eq_ok_iff (map : CGOMap Value) (index : Int64) (pointer : Value) :
    map.get index = .ok pointer ↔ map.pointers.lookup index = some (some pointer) := by
  unfold get
  split <;> simp_all

/-- `Get` fails only with its one message. -/
theorem get_eq_error_of_ne_ok (map : CGOMap Value) (index : Int64)
    (missing : ∀ pointer, map.get index ≠ .ok pointer) :
    map.get index = .error (.message "couldn't retrieve the pointer") := by
  unfold get at missing ⊢
  split
  · rename_i pointer found
    simp [found] at missing
  · rfl

theorem get_setLocked (map : CGOMap Value) (pointer : Option Value) (index : Int64) :
    (map.setLocked pointer).get index =
      if index = map.index + 1 then
        (match pointer with
          | some value => .ok value
          | none => .error (.message "couldn't retrieve the pointer"))
      else map.get index := by
  by_cases fresh : index = map.index + 1
  · subst fresh
    cases pointer <;> simp [get, setLocked]
  · simp [get, setLocked, GoMap.lookup_insert_of_ne _ _ fresh, fresh]

theorem get_delete (map : CGOMap Value) (deleted index : Int64) :
    (map.delete deleted).get index =
      if index = deleted then .error (.message "couldn't retrieve the pointer")
      else map.get index := by
  by_cases same : index = deleted
  · subst same
    simp [get, delete]
  · simp [get, delete, GoMap.lookup_erase, same]

/-- A method call a goroutine makes on a shared map. -/
inductive Call (Value : Type) where
  | set (pointer : Option Value)
  | get (index : Int64)
  | delete (index : Int64)

/-- The atomic steps of the calls: `Set` is its locked region, then its unlocked read. -/
inductive Action (Value : Type) where
  | setLocked (pointer : Option Value)
  | setReturn
  | get (index : Int64)
  | delete (index : Int64)

def Call.actions : Call Value → List (Action Value)
  | .set pointer => [.setLocked pointer, .setReturn]
  | .get index => [.get index]
  | .delete index => [.delete index]

/-- What a finished call gave back to its goroutine. -/
inductive Reply (Value : Type) where
  | set (index : Int64)
  | get (result : Except Panic Value)
  | delete
  deriving DecidableEq

/-- The actions a goroutine has left, and the replies of its finished calls. -/
structure Caller (Value : Type) where
  actions : List (Action Value)
  replies : List (Reply Value)

/-- One atomic step on the shared map, with the reply when it ends a call. -/
def perform : Action Value → CGOMap Value → CGOMap Value × Option (Reply Value)
  | .setLocked pointer, map => (map.setLocked pointer, none)
  | .setReturn, map => (map, some (.set map.index))
  | .get index, map => (map, some (.get (map.get index)))
  | .delete index, map => (map.delete index, some .delete)

/-- A goroutine runs its next action, if it has one. -/
def callerStep (caller : Caller Value) (map : CGOMap Value) : Option (Caller Value × CGOMap Value) :=
  match caller.actions with
  | [] => none
  | action :: rest =>
      let (next, reply) := perform action map
      some (⟨rest, caller.replies ++ reply.toList⟩, next)

/-- Goroutines named by `Thread` calling the methods of one shared map. -/
def system (Thread Value : Type) : Interleaving.System Thread (CGOMap Value) (Caller Value) :=
  ⟨fun _ => callerStep⟩

/-- The new map, with every goroutine about to make its calls. -/
def start {Thread : Type} (programs : Thread → List (Call Value)) :
    Interleaving.Config Thread (CGOMap Value) (Caller Value) :=
  ⟨newCGOMap, fun thread => ⟨(programs thread).flatMap Call.actions, []⟩⟩

end CGOMap

/-- Two goroutines that share one map. -/
inductive Goroutine where
  | first
  | second
  deriving DecidableEq, Repr

/-- Each goroutine `Set`s one of the values that `TestCGOMap` stores one after the other. -/
def racingSets : Goroutine → List (CGOMap.Call Nat)
  | .first => [.set (some 123)]
  | .second => [.set (some 456)]

/-- Both locked regions run before either unlocked return. -/
def racedSets : Interleaving.Config Goroutine (CGOMap Nat) (CGOMap.Caller Nat) :=
  (CGOMap.system Goroutine Nat).run (CGOMap.start racingSets) [.first, .second, .first, .second]

/-- Both calls return 2, where 456 is stored, while 123 sits under 1. -/
theorem concurrentSets_returnSameIndex :
    (racedSets.locals .first).replies = [.set 2] ∧ (racedSets.locals .second).replies = [.set 2] ∧
      racedSets.shared.get 2 = .ok 456 ∧ racedSets.shared.get 1 = .ok 123 := by
  decide

end GoWebrtc
