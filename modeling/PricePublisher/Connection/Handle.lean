import PricePublisher.Decimal.Digits

/-!
# Connection handles

All holders of a connection share one closing state.  The first close marks the
connection as closed and runs its cleanup; every later one, also one that the
cleanup itself makes, has no effect.
-/

namespace PricePublisher

/-- The closing state of a connection. -/
structure ConnectionHandle where
  id : Nat
  isClosed : Bool
  /-- Whether the cleanup has still to run. -/
  cleanupPending : Bool
deriving DecidableEq, Repr

namespace ConnectionHandle

/-- The state of a connection that has just been opened. -/
def opened (id : Nat) : ConnectionHandle :=
  ⟨id, false, true⟩

/-- Close a connection: whether the cleanup runs now, and the state before it does. -/
def close (handle : ConnectionHandle) : Bool × ConnectionHandle :=
  if handle.cleanupPending then
    (true, { handle with isClosed := true, cleanupPending := false })
  else (false, handle)

/-- The description of a connection's state in diagnostics. -/
def description (handle : ConnectionHandle) : String :=
  "ConnectionHandle \x7b id: " ++ Nat.repr handle.id ++ ", closed: "
    ++ (if handle.isClosed then "true" else "false") ++ " \x7d"

end ConnectionHandle

/-- What is done through a handle, which is found by its place among the handles. -/
inductive HandleStep where
  | clone (place : Nat)
  | close (place : Nat)
  | drop (place : Nat)
deriving DecidableEq, Repr

/-- Whether a step closes the connection. -/
def HandleStep.isClose : HandleStep → Bool
  | .close _ => true
  | _ => false

/-- What a handle and its copies point to. -/
structure SharedHandle where
  handle : ConnectionHandle
  /-- What the cleanup does through handles when it runs. -/
  cleanup : List HandleStep
  cleanupRuns : Nat
deriving DecidableEq, Repr

namespace SharedHandle

/-- What the first handle of a new connection points to. -/
def opened (id : Nat) (cleanup : List HandleStep) : SharedHandle :=
  ⟨.opened id, cleanup, 0⟩

/-- The steps that closing the connection leads to. -/
def pending (shared : SharedHandle) : List HandleStep :=
  if shared.handle.close.1 then shared.cleanup else []

/-- Close the connection, up to where its cleanup begins. -/
def close (shared : SharedHandle) : SharedHandle :=
  let (runs, handle) := shared.handle.close
  { shared with
    handle := handle
    cleanupRuns := shared.cleanupRuns + (if runs then 1 else 0) }

theorem pending_eq (shared : SharedHandle) :
    shared.pending = if shared.handle.cleanupPending then shared.cleanup else [] := by
  rw [pending, ConnectionHandle.close]
  by_cases waits : shared.handle.cleanupPending = true <;> simp [waits]

theorem cleanupPending_close (shared : SharedHandle) :
    shared.close.handle.cleanupPending = false := by
  rw [close, ConnectionHandle.close]
  by_cases waits : shared.handle.cleanupPending = true <;> simp [waits]

/-- A connection is cleaned up no more than once. -/
theorem pending_close (shared : SharedHandle) : shared.close.pending = [] := by
  rw [pending_eq, cleanupPending_close]
  rfl

theorem close_eq_self {shared : SharedHandle}
    (cleaned : shared.handle.cleanupPending = false) : shared.close = shared := by
  simp [close, ConnectionHandle.close, cleaned]

theorem close_close (shared : SharedHandle) : shared.close.close = shared.close :=
  close_eq_self shared.cleanupPending_close

/-- How many steps the cleanups in memory have still to do. -/
def pendingCount : List SharedHandle → Nat
  | [] => 0
  | shared :: memory => shared.pending.length + pendingCount memory

/-- What closing a connection leads to is no longer pending afterwards. -/
theorem length_pending_add_pendingCount (memory : List SharedHandle)
    (pointer : Fin memory.length) :
    (memory.get pointer).pending.length +
        pendingCount (memory.set pointer (memory.get pointer).close) =
      pendingCount memory := by
  induction memory with
  | nil => exact pointer.elim0
  | cons shared memory hypothesis =>
      cases pointer using Fin.cases with
      | zero => simp [pendingCount, pending_close]
      | succ pointer =>
          have later := hypothesis pointer
          simp only [List.get_eq_getElem] at later
          simp only [List.length_cons, List.get_eq_getElem, Fin.val_succ,
            List.getElem_cons_succ, List.set_cons_succ, pendingCount]
          omega

end SharedHandle

/-- Handles, each of which points to a place in memory; one at least is kept. -/
structure HandleGroup where
  memory : List SharedHandle
  handles : List Nat
  handles_ne_nil : handles ≠ []
  handles_lt : ∀ pointer ∈ handles, pointer < memory.length

namespace HandleGroup

open SharedHandle (pendingCount length_pending_add_pendingCount)

/-- The handle of a connection that has just been opened. -/
def single (id : Nat) (cleanup : List HandleStep := []) : HandleGroup where
  memory := [.opened id cleanup]
  handles := [0]
  handles_ne_nil := List.cons_ne_nil 0 []
  handles_lt := by simp

variable (group : HandleGroup)

/-- The place of a handle; beyond the end it is that of the last one. -/
def clamp (place : Nat) : Fin group.handles.length :=
  ⟨min place (group.handles.length - 1), by
    have kept := List.length_pos_iff.mpr group.handles_ne_nil
    omega⟩

/-- What the handle at a place points to. -/
def pointer (place : Nat) : Fin group.memory.length :=
  ⟨group.handles.get (group.clamp place), group.handles_lt _ (List.get_mem ..)⟩

/-- What is shared with the handle at a place. -/
def sharedAt (place : Nat) : SharedHandle :=
  group.memory.get (group.pointer place)

/-- Whether the connection of the handle at a place is closed. -/
def isClosed (place : Nat) : Bool :=
  (group.sharedAt place).handle.isClosed

/-- What each handle answers when it is asked whether the connection is closed. -/
def closedStates : List Bool :=
  (List.range group.handles.length).map group.isClosed

/-- The closing state that the first handle points to. -/
def handle : ConnectionHandle :=
  (group.sharedAt 0).handle

/-- How often the cleanup of the first handle's connection has run. -/
def cleanupRuns : Nat :=
  (group.sharedAt 0).cleanupRuns

/-- Copy a handle. -/
def clone (place : Nat := 0) : HandleGroup where
  memory := group.memory
  handles := group.handles ++ [(group.pointer place).val]
  handles_ne_nil := List.append_ne_nil_of_left_ne_nil group.handles_ne_nil _
  handles_lt := by
    intro pointer member
    rcases List.mem_append.mp member with kept | added
    · exact group.handles_lt pointer kept
    · rw [List.mem_singleton.mp added]
      exact (group.pointer place).isLt

/-- Give up a handle, unless it is the last. -/
def drop (place : Nat := 0) : HandleGroup :=
  if several : 1 < group.handles.length then
    { memory := group.memory
      handles := group.handles.eraseIdx (group.clamp place)
      handles_ne_nil := by
        rw [← List.length_pos_iff, List.length_eraseIdx_of_lt (group.clamp place).isLt]
        omega
      handles_lt := fun pointer member =>
        group.handles_lt pointer (List.mem_of_mem_eraseIdx member) }
  else group

/-- Close the connection of a handle, up to where the cleanup begins. -/
def beginClose (place : Nat) : HandleGroup where
  memory := group.memory.set (group.pointer place) (group.sharedAt place).close
  handles := group.handles
  handles_ne_nil := group.handles_ne_nil
  handles_lt := by
    rw [List.length_set]
    exact group.handles_lt

/-- Do one step: the handles behind it, and the steps that it leads to. -/
def perform : HandleStep → HandleGroup × List HandleStep
  | .clone place => (group.clone place, [])
  | .drop place => (group.drop place, [])
  | .close place => (group.beginClose place, (group.sharedAt place).pending)

theorem length_perform_add_pendingCount (step : HandleStep) :
    (group.perform step).2.length + pendingCount (group.perform step).1.memory =
      pendingCount group.memory := by
  cases step with
  | clone place => exact Nat.zero_add _
  | close place => exact length_pending_add_pendingCount group.memory (group.pointer place)
  | drop place =>
      rw [perform, drop]
      split <;> exact Nat.zero_add _

end HandleGroup

/-- A step, and the handles before and after it. -/
structure HandleMoment where
  before : HandleGroup
  step : HandleStep
  after : HandleGroup

namespace HandleGroup

open SharedHandle (pendingCount)

/-- Do steps one after the other, those of a cleanup as soon as it begins. -/
def moments (group : HandleGroup) : List HandleStep → List HandleMoment
  | [] => []
  | step :: steps =>
      ⟨group, step, (group.perform step).1⟩ ::
        moments (group.perform step).1 ((group.perform step).2 ++ steps)
termination_by steps => steps.length + pendingCount group.memory
decreasing_by
  have fewer := group.length_perform_add_pendingCount step
  simp only [List.length_append, List.length_cons]
  omega

/-- The handles behind steps and the cleanups that they lead to. -/
def run (group : HandleGroup) (steps : List HandleStep) : HandleGroup :=
  match (group.moments steps).getLast? with
  | none => group
  | some moment => moment.after

/-- Close the connection of a handle. -/
def close (group : HandleGroup) (place : Nat) : HandleGroup :=
  group.run [.close place]

end HandleGroup

end PricePublisher
