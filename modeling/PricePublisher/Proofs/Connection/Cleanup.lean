import PricePublisher.Connection.Handle

/-!
# One cleanup for each connection

However handles are copied, closed and given up, what a handle points to changes only when
its connection is closed, and it changes no further when it is closed again.  So the first
close of a connection decides everything: it marks the connection as closed for all handles
and starts the cleanup, and the closes that the cleanup makes come too late to start another.
-/

namespace PricePublisher

/-- Whether the step of a moment closes the connection at a place in memory. -/
def HandleMoment.closes (connection : Nat) (moment : HandleMoment) : Bool :=
  match moment.step with
  | .close place => (moment.before.pointer place).val == connection
  | _ => false

namespace HandleGroup

variable {group : HandleGroup} {steps : List HandleStep}

/-! ## What one step changes -/

theorem memory_drop (place : Nat) : (group.drop place).memory = group.memory := by
  rw [drop]
  split <;> rfl

/-- A step changes nothing in memory but the connection that it closes. -/
theorem memory_perform (step : HandleStep) :
    (group.perform step).1.memory = group.memory.mapIdx fun connection shared =>
      if HandleMoment.closes connection ⟨group, step, (group.perform step).1⟩ then shared.close
      else shared := by
  apply List.ext_getElem?
  intro connection
  rw [List.getElem?_mapIdx]
  cases step with
  | clone place => exact Option.map_id'.symm
  | drop place =>
      rw [perform, memory_drop]
      exact Option.map_id'.symm
  | close place =>
      have pointed : group.memory[(group.pointer place).val]? = some (group.sharedAt place) :=
        List.getElem?_eq_getElem (group.pointer place).isLt
      simp only [perform, beginClose, HandleMoment.closes, List.getElem?_set, beq_iff_eq]
      split
      next here =>
        rw [← here, if_pos (group.pointer place).isLt, pointed]
        rfl
      next elsewhere => exact Option.map_id'.symm

/-! ## What a run changes -/

theorem after_eq_perform {moment : HandleMoment} (member : moment ∈ group.moments steps) :
    moment.after = (moment.before.perform moment.step).1 := by
  fun_induction moments group steps with
  | case1 => cases member
  | case2 group step steps hypothesis =>
      rcases List.mem_cons.mp member with rfl | member
      · rfl
      · exact hypothesis member

/-- After some steps a connection is as it was, or as closing it once leaves it. -/
theorem memory_before {earlier later : List HandleMoment} {moment : HandleMoment}
    (parts : group.moments steps = earlier ++ moment :: later) :
    moment.before.memory = group.memory.mapIdx fun connection shared =>
      if earlier.any (HandleMoment.closes connection) then shared.close else shared := by
  fun_induction moments group steps generalizing earlier with
  | case1 => cases earlier <;> cases parts
  | case2 group step steps hypothesis =>
      cases earlier with
      | nil =>
          cases parts
          apply List.ext_getElem?
          intro connection
          rw [List.getElem?_mapIdx]
          exact Option.map_id'.symm
      | cons first earlier =>
          obtain ⟨rfl, rest⟩ := List.cons.inj parts
          rw [hypothesis rest, memory_perform, List.mapIdx_mapIdx]
          congr 1
          funext connection shared
          rw [Function.comp_apply, List.any_cons]
          cases HandleMoment.closes connection ⟨group, step, (group.perform step).1⟩ with
          | false => rfl
          | true => simp [SharedHandle.close_close]

theorem length_memory_before {moment : HandleMoment} (member : moment ∈ group.moments steps) :
    moment.before.memory.length = group.memory.length := by
  obtain ⟨earlier, later, parts⟩ := List.append_of_mem member
  rw [memory_before parts, List.length_mapIdx]

/-! ## The handles of one connection -/

/-- Steps with those of a cleanup behind the first close. -/
def insertCleanup (cleanup : List HandleStep) : List HandleStep → List HandleStep
  | [] => []
  | step :: steps =>
      if step.isClose then step :: (cleanup ++ steps) else step :: insertCleanup cleanup steps

theorem any_isClose_insertCleanup (cleanup steps : List HandleStep) :
    (insertCleanup cleanup steps).any HandleStep.isClose = steps.any HandleStep.isClose := by
  induction steps with
  | nil => rfl
  | cons step steps hypothesis =>
      rw [insertCleanup]
      split
      next closes => rw [List.any_cons, List.any_cons, closes, Bool.true_or, Bool.true_or]
      next => rw [List.any_cons, List.any_cons, hypothesis]

/-- All handles say whether their connection is closed, and its cleanup has run just then. -/
structure Shows (group : HandleGroup) (closed : Bool) : Prop where
  isClosed : ∀ place, group.isClosed place = closed
  cleanupRuns : group.cleanupRuns = if closed then 1 else 0

section OneConnection

variable {shared : SharedHandle}

theorem sharedAt_eq (one : group.memory = [shared]) (place : Nat) :
    group.sharedAt place = shared := by
  have member : group.sharedAt place ∈ group.memory := List.get_mem ..
  rw [one] at member
  exact List.mem_singleton.mp member

theorem closes_eq_isClose {moment : HandleMoment} (one : moment.before.memory.length = 1) :
    moment.closes 0 = moment.step.isClose := by
  obtain ⟨before, step, after⟩ := moment
  cases step with
  | clone place => rfl
  | drop place => rfl
  | close place =>
      have first : (before.pointer place).val = 0 :=
        Nat.lt_one_iff.mp (one ▸ (before.pointer place).isLt)
      exact beq_iff_eq.mpr first

theorem memory_perform_one (one : group.memory = [shared]) (step : HandleStep) :
    (group.perform step).1.memory = [if step.isClose then shared.close else shared] := by
  have same := @closes_eq_isClose ⟨group, step, (group.perform step).1⟩ (by rw [one]; rfl)
  rw [memory_perform, one, List.mapIdx_singleton, same]

theorem follow_perform (one : group.memory = [shared]) (step : HandleStep) :
    (group.perform step).2 = if step.isClose then shared.pending else [] := by
  cases step with
  | clone place => rfl
  | drop place => rfl
  | close place => exact congrArg SharedHandle.pending (sharedAt_eq one place)

theorem memory_before_one (one : group.memory = [shared])
    {earlier later : List HandleMoment} {moment : HandleMoment}
    (parts : group.moments steps = earlier ++ moment :: later) :
    moment.before.memory =
      [if earlier.any fun moment => moment.step.isClose then shared.close else shared] := by
  have same : earlier.any (HandleMoment.closes 0) =
      earlier.any fun moment => moment.step.isClose := by
    rw [Bool.eq_iff_iff, List.any_eq_true, List.any_eq_true]
    refine exists_congr fun moment => and_congr_right fun member => ?_
    have performed : moment ∈ group.moments steps := by
      rw [parts]
      exact List.mem_append_left _ member
    rw [closes_eq_isClose ((length_memory_before performed).trans (congrArg List.length one))]
  rw [memory_before parts, one, List.mapIdx_singleton, same]

theorem memory_after_one (one : group.memory = [shared])
    {earlier later : List HandleMoment} {moment : HandleMoment}
    (parts : group.moments steps = earlier ++ moment :: later) :
    moment.after.memory =
      [if (earlier.any fun moment => moment.step.isClose) || moment.step.isClose then
        shared.close else shared] := by
  have performed : moment ∈ group.moments steps := by
    rw [parts]
    exact List.mem_append_cons_self
  rw [after_eq_perform performed, memory_perform_one (memory_before_one one parts)]
  cases earlier.any fun moment => moment.step.isClose <;>
    cases moment.step.isClose <;> simp [SharedHandle.close_close]

/-! ## The first close -/

theorem shows_of_memory {id : Nat} {cleanup : List HandleStep} {closed : Bool}
    (one : group.memory = [if closed then (SharedHandle.opened id cleanup).close
      else SharedHandle.opened id cleanup]) :
    group.Shows closed := by
  constructor
  · intro place
    rw [isClosed, sharedAt_eq one]
    cases closed <;> rfl
  · rw [cleanupRuns, sharedAt_eq one]
    cases closed <;> rfl

theorem map_step_moments (one : group.memory = [shared]) :
    (group.moments steps).map HandleMoment.step =
      if shared.handle.cleanupPending then insertCleanup shared.cleanup steps else steps := by
  fun_induction moments group steps generalizing shared with
  | case1 => simp [insertCleanup]
  | case2 group step steps hypothesis =>
      rw [List.map_cons, hypothesis (memory_perform_one one step), follow_perform one,
        insertCleanup]
      cases step.isClose with
      | false =>
          simp only [Bool.false_eq_true, if_false, List.nil_append]
          split <;> rfl
      | true =>
          -- No cleanup is left behind a close, so that what follows is done as it stands.
          simp only [if_true, SharedHandle.cleanupPending_close, Bool.false_eq_true, if_false,
            SharedHandle.pending_eq]
          split <;> rfl

end OneConnection

/-- What handles show in the end is told by the steps that were given. -/
theorem shows_run (id : Nat) (cleanup steps : List HandleStep) :
    ((single id cleanup).run steps).Shows (steps.any HandleStep.isClose) := by
  have one : (single id cleanup).memory = [SharedHandle.opened id cleanup] := rfl
  have performed : ((single id cleanup).moments steps).map HandleMoment.step =
      insertCleanup cleanup steps :=
    map_step_moments one
  rw [run, ← any_isClose_insertCleanup cleanup steps, ← performed]
  split
  next ends =>
    rw [List.getLast?_eq_none_iff.mp ends]
    exact shows_of_memory one
  next moment ends =>
    obtain ⟨earlier, parts⟩ := List.getLast?_eq_some_iff.mp ends
    have last := shows_of_memory (memory_after_one one parts)
    rw [parts]
    simpa [Function.comp_def] using last

/--
Whatever is done through the handles of a connection and by its cleanup, the first close
starts the cleanup, which runs to its end there and then and is never run again.  All
handles say at any moment whether there has been a close: no close is undone, and copying a
handle or giving one up changes nothing.
-/
theorem first_close_cleans_up_once (id : Nat) (cleanup steps : List HandleStep) :
    ((single id cleanup).moments steps).map HandleMoment.step = insertCleanup cleanup steps ∧
    ((single id cleanup).run steps).Shows (steps.any HandleStep.isClose) ∧
    ∀ earlier moment later,
      (single id cleanup).moments steps = earlier ++ moment :: later →
        moment.before.Shows (earlier.any fun moment => moment.step.isClose) ∧
        moment.after.Shows
          ((earlier.any fun moment => moment.step.isClose) || moment.step.isClose) := by
  have one : (single id cleanup).memory = [SharedHandle.opened id cleanup] := rfl
  refine ⟨map_step_moments one, shows_run id cleanup steps, ?_⟩
  intro earlier moment later parts
  exact ⟨shows_of_memory (memory_before_one one parts),
    shows_of_memory (memory_after_one one parts)⟩

/-- A cleanup that closes the connection again, and gives up a handle. -/
def closingCleanup : List HandleStep :=
  [.close 0, .drop 1]

/-- Two closes through different handles. -/
def twoCloses : List HandleStep :=
  [.clone 0, .close 1, .clone 0, .close 0]

theorem first_close_cleans_up_once_of_two :
    ((single 7 closingCleanup).moments twoCloses).map HandleMoment.step =
      [.clone 0, .close 1, .close 0, .drop 1, .clone 0, .close 0] ∧
    ((single 7 closingCleanup).run twoCloses).cleanupRuns = 1 ∧
    ∃ earlier moment later,
      (single 7 closingCleanup).moments twoCloses = earlier ++ moment :: later ∧
      earlier.map HandleMoment.step = [.clone 0] ∧ moment.step = .close 1 ∧
      moment.before.isClosed 0 = false ∧ moment.after.isClosed 0 = true := by
  obtain ⟨performed, ended, along⟩ := first_close_cleans_up_once 7 closingCleanup twoCloses
  obtain ⟨earlier, rest, parts, earlier_steps, rest_steps⟩ := List.map_eq_append_iff.mp
    (performed.trans (show insertCleanup closingCleanup twoCloses =
      [.clone 0] ++ [.close 1, .close 0, .drop 1, .clone 0, .close 0] from rfl))
  obtain ⟨moment, later, rfl, step_eq, -⟩ := List.map_eq_cons_iff.mp rest_steps
  have noClose : (earlier.any fun moment => moment.step.isClose) = false := by
    have mapped : (earlier.map HandleMoment.step).any HandleStep.isClose = false := by
      rw [earlier_steps]
      rfl
    rwa [List.any_map] at mapped
  obtain ⟨before, after⟩ := along earlier moment later parts
  rw [noClose] at before after
  rw [step_eq] at after
  exact ⟨performed, ended.cleanupRuns, earlier, moment, later, parts, earlier_steps, step_eq,
    before.isClosed 0, after.isClosed 0⟩

end HandleGroup

end PricePublisher
