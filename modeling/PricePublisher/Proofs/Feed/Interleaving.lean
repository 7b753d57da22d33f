import Mathlib.Data.List.Basic
import PricePublisher.Feed.FanIn
import PricePublisher.Proofs.Queue

/-!
# Offers amid consumers

An update is offered to one channel after the other, and the consumers do not wait for
it: between any two offers, also those of one call, a consumer may drain its channel, stop
taking updates in, or go away.  Every offer has a time of its own.

What a channel holds, has accepted and has handed out follows from the moves on that
channel alone.  The channels share a throttle, but only an offer that meets a full channel
asks it.  A call in which nothing comes between its offers is `fanIn`.
-/

namespace PricePublisher.Feed

/-! ## One channel -/

/-- What happens to one channel. -/
inductive ChannelAct where
  /-- An update is offered at a given time. -/
  | offered (now : Nat) (update : PriceUpdate)
  | drained (count : Nat)
  /-- The consumer takes no more updates in, but may still drain those that wait. -/
  | shut
  /-- The consumer goes away, and with it what waits. -/
  | abandoned

namespace ChannelAct

variable {queue : Queue PriceUpdate}

/-- What an act makes of the queue of its channel. -/
def change (queue : Queue PriceUpdate) : ChannelAct → Queue PriceUpdate
  | .offered _ update => queue.push update
  | .drained count => (queue.take count).2
  | .shut => { queue with isOpen := false }
  | .abandoned => queue.close

/-- The update that is offered while the channel is open and not full, if it is. -/
def received (queue : Queue PriceUpdate) : ChannelAct → List PriceUpdate
  | .offered _ update =>
      if queue.isOpen && queue.items.length < queue.capacity then [update] else []
  | _ => []

/-- What an act hands out to the consumer. -/
def taken (queue : Queue PriceUpdate) : ChannelAct → List PriceUpdate
  | .drained count => (queue.take count).1
  | _ => []

end ChannelAct

/-- The queue of a channel after acts on it. -/
def changeAll (queue : Queue PriceUpdate) (acts : List ChannelAct) : Queue PriceUpdate :=
  acts.foldl ChannelAct.change queue

/-- The updates that are offered while the channel is open and not full, in order. -/
def receivedBy (queue : Queue PriceUpdate) : List ChannelAct → List PriceUpdate
  | [] => []
  | act :: acts => act.received queue ++ receivedBy (act.change queue) acts

/-- What the consumer has drained, in order. -/
def takenBy (queue : Queue PriceUpdate) : List ChannelAct → List PriceUpdate
  | [] => []
  | act :: acts => act.taken queue ++ takenBy (act.change queue) acts

theorem changeAll_cons (queue : Queue PriceUpdate) (act : ChannelAct) (acts : List ChannelAct) :
    changeAll queue (act :: acts) = changeAll (act.change queue) acts :=
  rfl

theorem items_push (queue : Queue PriceUpdate) (now : Nat) (update : PriceUpdate) :
    (queue.push update).items =
      queue.items ++ (ChannelAct.offered now update).received queue := by
  rw [Queue.push_eq_ite rfl, ChannelAct.received]
  split
  · rfl
  · exact (List.append_nil _).symm

/-- What an act hands out and leaves is what was there and what it brought. -/
theorem ChannelAct.taken_append_items {act : ChannelAct} {queue : Queue PriceUpdate}
    (stays : act ≠ .abandoned) :
    act.taken queue ++ (act.change queue).items = queue.items ++ act.received queue := by
  cases act with
  | offered now update => exact items_push queue now update
  | drained count =>
      change queue.items.take count ++ queue.items.drop count = queue.items ++ []
      rw [List.take_append_drop, List.append_nil]
  | shut => exact (List.append_nil _).symm
  | abandoned => exact absurd rfl stays

/-- As long as its consumer is there, a channel neither loses nor makes up an update. -/
theorem takenBy_append_items {acts : List ChannelAct} (queue : Queue PriceUpdate)
    (stays : .abandoned ∉ acts) :
    takenBy queue acts ++ (changeAll queue acts).items =
      queue.items ++ receivedBy queue acts := by
  induction acts generalizing queue with
  | nil => exact (List.append_nil _).symm
  | cons act rest induction =>
      rw [List.mem_cons, not_or] at stays
      rw [changeAll_cons, takenBy, receivedBy, List.append_assoc,
        induction (act.change queue) stays.2, ← List.append_assoc,
        ChannelAct.taken_append_items (Ne.symm stays.1), List.append_assoc]

/-- A channel that is closed stays so, and no offer to it succeeds. -/
theorem receivedBy_of_closed {queue : Queue PriceUpdate} (closed : queue.isOpen = false)
    (acts : List ChannelAct) : receivedBy queue acts = [] := by
  induction acts generalizing queue with
  | nil => rfl
  | cons act rest induction =>
      have refused : act.received queue = [] := by
        cases act with
        | offered now update => simp [ChannelAct.received, closed]
        | _ => rfl
      have after : (act.change queue).isOpen = false := by
        cases act with
        | offered now update => exact (queue.push_isOpen update).trans closed
        | drained count => exact closed
        | shut => rfl
        | abandoned => rfl
      rw [receivedBy, refused, induction after, List.append_nil]

/-- Nothing is handed out but what was there and has been received, in order. -/
theorem takenBy_isPrefix (queue : Queue PriceUpdate) (acts : List ChannelAct) :
    takenBy queue acts ++ (changeAll queue acts).items <+:
      queue.items ++ receivedBy queue acts := by
  induction acts generalizing queue with
  | nil => exact (List.append_nil _).symm ▸ List.prefix_rfl
  | cons act rest induction =>
      have later := induction (act.change queue)
      rw [changeAll_cons, takenBy, receivedBy, List.append_assoc]
      by_cases gone : act = .abandoned
      · -- What waits is lost, and the channel stays closed: nothing comes after that.
        subst gone
        have closed : queue.close.isOpen = false := rfl
        have refused := receivedBy_of_closed closed rest
        change _ <+: [] ++ receivedBy queue.close rest at later
        rw [refused, List.append_nil, List.prefix_nil] at later
        exact later.symm ▸ List.nil_prefix
      · rw [← List.append_assoc queue.items, ← ChannelAct.taken_append_items gone,
          List.append_assoc]
        exact (List.prefix_append_right_inj _).mpr later

/-! ## All channels -/

/-- An act on the channel of a given number. -/
structure ChannelMove where
  number : Nat
  act : ChannelAct

/-- The acts on one channel. -/
def actsOf (number : Nat) (moves : List ChannelMove) : List ChannelAct :=
  moves.filterMap fun move => if move.number = number then some move.act else none

theorem actsOf_cons (number : Nat) (move : ChannelMove) (moves : List ChannelMove) :
    actsOf number (move :: moves) =
      if move.number = number then move.act :: actsOf number moves else actsOf number moves := by
  by_cases own : move.number = number
  · simp [actsOf, own]
  · simp [actsOf, own]

namespace ChannelMove

/-- Whether a move offers an update to a channel. -/
def offersTo (number : Nat) : ChannelMove → Bool
  | ⟨other, .offered _ _⟩ => other == number
  | _ => false

/-- The channel to which a move offers an update, and the update. -/
def offer? : ChannelMove → Option (Nat × PriceUpdate)
  | ⟨number, .offered _ update⟩ => some (number, update)
  | _ => none

end ChannelMove

namespace ChannelAct

/-- The reports that an act leads to, and what it makes of the throttle. -/
def report (queue : Queue PriceUpdate) (throttle : Throttle) :
    ChannelAct → List Notice × Throttle
  | .offered now _ =>
      match queue.delivery with
      | .full => reportFull now throttle
      | _ => ([], throttle)
  | _ => ([], throttle)

/-- How often an update is refused in an act. -/
def missed (queue : Queue PriceUpdate) : ChannelAct → Nat
  | .offered _ _ => if queue.delivery = .accepted then 0 else 1
  | _ => 0

end ChannelAct

namespace FanIn

/-- Before anything is offered. -/
def start (inlets : Inlets) : FanIn :=
  ⟨inlets.queues, inlets.throttle, 0, []⟩

/-- A call that starts with the queues and the throttle that are left. -/
def restart (state : FanIn) : FanIn :=
  .start ⟨state.queues, state.throttle⟩

/-- Perform a move, in the course of a call or between calls. -/
def perform (state : FanIn) (move : ChannelMove) : FanIn :=
  match state.queues[move.number]? with
  | none => state
  | some queue =>
      let (reports, throttle) := move.act.report queue state.throttle
      { queues := state.queues.set move.number (move.act.change queue)
        throttle := throttle
        missed := state.missed + move.act.missed queue
        notices := state.notices ++ reports }

/-- Perform moves in a row. -/
def performAll (state : FanIn) (moves : List ChannelMove) : FanIn :=
  moves.foldl perform state

variable {state : FanIn} {number : Nat}

theorem performAll_cons (state : FanIn) (move : ChannelMove) (moves : List ChannelMove) :
    state.performAll (move :: moves) = (state.perform move).performAll moves :=
  rfl

/-- A move changes the queue of its own channel and no other. -/
theorem getElem?_perform (state : FanIn) (move : ChannelMove) (number : Nat) :
    (state.perform move).queues[number]? =
      (state.queues[number]?).map fun queue =>
        if move.number = number then move.act.change queue else queue := by
  rw [perform]
  cases found : state.queues[move.number]? with
  | none =>
      by_cases own : move.number = number
      · rw [← own, found]
        rfl
      · simp [own]
  | some queue =>
      have inside := (List.getElem?_eq_some_iff.mp found).1
      change (state.queues.set move.number (move.act.change queue))[number]? = _
      by_cases own : move.number = number
      · subst own
        rw [List.getElem?_set_self inside, found]
        simp
      · rw [List.getElem?_set_ne own]
        simp [own]

/-- The queue of a channel depends on the acts on that channel alone. -/
theorem getElem?_performAll (state : FanIn) (moves : List ChannelMove) (number : Nat) :
    (state.performAll moves).queues[number]? =
      (state.queues[number]?).map fun queue => changeAll queue (actsOf number moves) := by
  induction moves generalizing state with
  | nil => exact Option.map_id'.symm
  | cons move rest induction =>
      rw [performAll_cons, induction, getElem?_perform, Option.map_map, actsOf_cons]
      refine congrArg (Option.map · _) (funext fun queue => ?_)
      rw [Function.comp_apply]
      split <;> rfl

/-! ## The throttle -/

/-- The time of an offer that meets a full channel. -/
def metFull? (state : FanIn) : ChannelMove → Option Nat
  | ⟨number, .offered now _⟩ =>
      if (state.queues[number]?).any fun queue => queue.delivery == .full then some now else none
  | _ => none

/-- The times of the offers that meet full channels, in order. -/
def fullTimes (state : FanIn) : List ChannelMove → List Nat
  | [] => []
  | move :: moves => (state.metFull? move).toList ++ (state.perform move).fullTimes moves

/-- A move asks the throttle and reports what it grants if it meets a full channel. -/
theorem perform_report (state : FanIn) (move : ChannelMove) :
    (state.perform move).throttle =
        (state.metFull? move).elim state.throttle (fun now => (state.throttle.request now).2) ∧
      (state.perform move).notices = state.notices ++
        (state.metFull? move).elim [] fun now =>
          if (state.throttle.request now).1 then [droppedNotice] else [] := by
  rcases move with ⟨number, act⟩
  rw [perform]
  cases found : state.queues[number]? with
  | none =>
      have unmet : state.metFull? ⟨number, act⟩ = none := by
        cases act with
        | offered now update => simp [metFull?, found]
        | _ => rfl
      rw [unmet]
      exact ⟨rfl, (List.append_nil _).symm⟩
  | some queue =>
      cases act with
      | offered now update =>
          simp only [metFull?, found, Option.any_some, ChannelAct.report]
          cases delivery : queue.delivery with
          | full => exact ⟨rfl, rfl⟩
          | _ => exact ⟨rfl, rfl⟩
      | _ => exact ⟨rfl, rfl⟩

/-- The throttle is asked at the times of offers to full channels, and never else. -/
theorem throttle_performAll (state : FanIn) (moves : List ChannelMove) :
    (state.performAll moves).throttle =
      (state.fullTimes moves).foldl (fun throttle now => (throttle.request now).2)
        state.throttle := by
  induction moves generalizing state with
  | nil => rfl
  | cons move rest induction =>
      rw [performAll_cons, induction, (state.perform_report move).1, fullTimes]
      cases state.metFull? move <;> rfl

/-- What is reported is what the throttle grants to offers to full channels. -/
theorem notices_performAll (state : FanIn) (moves : List ChannelMove) :
    (state.performAll moves).notices = state.notices ++
      ((state.throttle.requestAll (state.fullTimes moves)).filter id).map
        fun _ => droppedNotice := by
  induction moves generalizing state with
  | nil => exact (List.append_nil _).symm
  | cons move rest induction =>
      rw [performAll_cons, induction, (state.perform_report move).1,
        (state.perform_report move).2, fullTimes, List.append_assoc]
      refine congrArg (state.notices ++ ·) ?_
      cases state.metFull? move with
      | none => rfl
      | some now =>
          simp only [Option.elim_some, Option.toList_some, List.singleton_append,
            Throttle.requestAll]
          cases (state.throttle.request now).1 <;> rfl

/-! ## What a call returns -/

/-- The queue of a channel when an update is next offered to it. -/
def queueAtOffer (number : Nat) (queue : Queue PriceUpdate) (moves : List ChannelMove) :
    Queue PriceUpdate :=
  changeAll queue (actsOf number (moves.takeWhile fun move => !move.offersTo number))

/-- Whether a channel is full or closed when an update is next offered to it. -/
def refuses (state : FanIn) (moves : List ChannelMove) (number : Nat) : Bool :=
  (state.queues[number]?).any fun queue =>
    (queueAtOffer number queue moves).delivery != .accepted

/-- The channels to which updates are offered, in order. -/
def offeredNumbers (moves : List ChannelMove) : List Nat :=
  (moves.filterMap ChannelMove.offer?).map Prod.fst

/-- A move that offers nothing to a channel leaves open what the next offer meets. -/
theorem refuses_perform {move : ChannelMove} (silent : move.offersTo number = false)
    (state : FanIn) (moves : List ChannelMove) :
    (state.perform move).refuses moves number = state.refuses (move :: moves) number := by
  rw [refuses, refuses, getElem?_perform, Option.any_map]
  refine congrArg (Option.any · _) (funext fun queue => ?_)
  rw [queueAtOffer, queueAtOffer,
    List.takeWhile_cons_of_pos (by rw [silent]; rfl), actsOf_cons]
  split <;> rfl

theorem missed_of_silent (state : FanIn) {move : ChannelMove} (silent : move.offer? = none) :
    (state.perform move).missed = state.missed := by
  rcases move with ⟨number, act⟩
  rw [perform]
  split
  · rfl
  · cases act with
    | offered now update => cases silent
    | _ => rfl

theorem missed_offer (state : FanIn) (number now : Nat) (update : PriceUpdate)
    (moves : List ChannelMove) :
    (state.perform ⟨number, .offered now update⟩).missed =
      state.missed +
        if state.refuses (⟨number, .offered now update⟩ :: moves) number then 1 else 0 := by
  have own : ChannelMove.offersTo number ⟨number, .offered now update⟩ = true := beq_self_eq_true _
  have met : ∀ queue, queueAtOffer number queue (⟨number, .offered now update⟩ :: moves) =
      queue := by
    intro queue
    rw [queueAtOffer, List.takeWhile_cons_of_neg (by rw [own]; exact Bool.false_ne_true)]
    rfl
  rw [perform, refuses]
  cases state.queues[number]? with
  | none => rfl
  | some queue =>
      rw [Option.any_some, met]
      change state.missed + (if queue.delivery = .accepted then 0 else 1) = _
      cases queue.delivery <;> rfl

/-- A call counts the channels that refuse the update when it is offered to them. -/
theorem missed_performAll (state : FanIn) {moves : List ChannelMove}
    (once : (offeredNumbers moves).Nodup) :
    (state.performAll moves).missed =
      state.missed + (offeredNumbers moves).countP (state.refuses moves) := by
  induction moves generalizing state with
  | nil => rfl
  | cons move rest induction =>
      rw [performAll_cons]
      rcases move with ⟨number, act⟩
      cases act with
      | offered now update =>
          obtain ⟨fresh, later⟩ := List.nodup_cons.mp once
          -- The other channels are offered the update later, and this offer leaves them alone.
          have others : (offeredNumbers rest).countP
                ((state.perform ⟨number, .offered now update⟩).refuses rest) =
              (offeredNumbers rest).countP
                (state.refuses (⟨number, .offered now update⟩ :: rest)) := by
            refine List.countP_congr fun other member => ?_
            have silent : ChannelMove.offersTo other ⟨number, .offered now update⟩ = false :=
              beq_eq_false_iff_ne.mpr fun same => fresh (same ▸ member)
            rw [refuses_perform silent]
          rw [induction _ later, others, state.missed_offer number now update rest]
          change _ = state.missed + (number :: offeredNumbers rest).countP _
          rw [List.countP_cons, Nat.add_assoc, Nat.add_comm (ite _ _ _)]
      | _ =>
          rw [induction _ once, missed_of_silent state rfl]
          refine congrArg (state.missed + ·) ?_
          change (offeredNumbers rest).countP _ = (offeredNumbers rest).countP _
          exact List.countP_congr fun other _ => by rw [refuses_perform rfl]

end FanIn

/-! ## Calls -/

/-- The offers of a call that nothing interrupts. -/
def callAtOnce (now : Nat) (update : PriceUpdate) (count : Nat) : List ChannelMove :=
  (List.range count).map fun number => ⟨number, .offered now update⟩

/-- Moves in which one call offers an update to each channel, amid whatever consumers do. -/
def IsCall (count : Nat) (update : PriceUpdate) (moves : List ChannelMove) : Prop :=
  moves.filterMap ChannelMove.offer? = (List.range count).map fun number => (number, update)

theorem IsCall.offeredNumbers_eq {count : Nat} {update : PriceUpdate} {moves : List ChannelMove}
    (call : IsCall count update moves) : FanIn.offeredNumbers moves = List.range count := by
  have numbers : ((List.range count).map fun number => (number, update)).map Prod.fst =
      List.range count := List.map_map.trans (List.map_id _)
  exact (congrArg (List.map Prod.fst) call).trans numbers

/-- A call offers the update to the first channel, and then to the others. -/
theorem fanIn_cons (now : Nat) (update : PriceUpdate) (queue : Queue PriceUpdate)
    (queues : List (Queue PriceUpdate)) (throttle : Throttle) :
    let reported := ChannelAct.report queue throttle (.offered now update)
    let rest := fanIn now update queues reported.2
    fanIn now update (queue :: queues) throttle =
      ⟨queue.push update :: rest.queues, rest.throttle,
        rest.missed + (if queue.delivery = .accepted then 0 else 1),
        reported.1 ++ rest.notices⟩ :=
  rfl

/-- Offers at one time to the channels behind some others are the rest of a call. -/
theorem performAll_offers (now : Nat) (update : PriceUpdate)
    (before queues : List (Queue PriceUpdate)) (throttle : Throttle) (missed : Nat)
    (notices : List Notice) :
    let rest := fanIn now update queues throttle
    FanIn.performAll ⟨before ++ queues, throttle, missed, notices⟩
        ((List.range' before.length queues.length).map fun number =>
          ⟨number, .offered now update⟩) =
      ⟨before ++ rest.queues, rest.throttle, missed + rest.missed, notices ++ rest.notices⟩ := by
  induction queues generalizing before throttle missed notices with
  | nil => simp [fanIn, FanIn.performAll]
  | cons queue queues induction =>
      let reported := ChannelAct.report queue throttle (.offered now update)
      have found : (before ++ queue :: queues)[before.length]? = some queue := by simp
      have placed : (before ++ queue :: queues).set before.length (queue.push update) =
          (before ++ [queue.push update]) ++ queues := by simp
      have first : FanIn.perform ⟨before ++ queue :: queues, throttle, missed, notices⟩
            ⟨before.length, .offered now update⟩ =
          ⟨(before ++ [queue.push update]) ++ queues, reported.2,
            missed + (if queue.delivery = .accepted then 0 else 1),
            notices ++ reported.1⟩ := by
        simp only [FanIn.perform, found]
        rw [← placed]
        rfl
      have later := induction (before ++ [queue.push update]) reported.2
        (missed + (if queue.delivery = .accepted then 0 else 1)) (notices ++ reported.1)
      rw [List.length_append, List.length_singleton] at later
      rw [List.length_cons, List.range'_succ, List.map_cons, FanIn.performAll_cons, first, later,
        fanIn_cons]
      simp only [List.append_assoc, List.singleton_append, Nat.add_assoc, Nat.add_comm,
        reported]

/-- A call that nothing interrupts offers its update to all channels at once. -/
theorem fanIn_eq_performAll (now : Nat) (update : PriceUpdate) (inlets : Inlets) :
    fanIn now update inlets.queues inlets.throttle =
      (FanIn.start inlets).performAll (callAtOnce now update inlets.queues.length) := by
  have offers := performAll_offers now update [] inlets.queues inlets.throttle 0 []
  rw [List.length_nil, ← List.range_eq_range'] at offers
  rw [FanIn.start, callAtOnce]
  refine Eq.trans ?_ offers.symm
  simp only [List.nil_append, Nat.zero_add]

theorem isCall_callAtOnce (now : Nat) (update : PriceUpdate) (count : Nat) :
    IsCall count update (callAtOnce now update count) := by
  rw [IsCall, callAtOnce, List.filterMap_map]
  exact congrFun List.filterMap_eq_map (List.range count)

theorem length_performAll (state : FanIn) (moves : List ChannelMove) :
    (state.performAll moves).queues.length = state.queues.length := by
  induction moves generalizing state with
  | nil => rfl
  | cons move rest induction =>
      have same : (state.perform move).queues.length = state.queues.length := by
        rw [FanIn.perform]
        split
        · rfl
        · exact List.length_set
      rw [FanIn.performAll_cons, induction, same]

/--
Updates are offered to channels in any state, in whatever way consumers drain and close
them between the offers.

What becomes of a channel depends on the acts on that channel alone.  What its consumer
has drained and what still waits are, in order, what waited at first and the updates that
were offered while the channel was open and not full; only a consumer that goes away loses
what waits.  The throttle is asked once for each offer that meets a full channel, at the
time of that offer, and what it grants is reported.  A call, wherever it comes and whatever
happens between its offers, counts the channels that were full or closed when the update
was offered to them; if nothing happens between them, the call is `fanIn`.
-/
theorem fanIn_amid_consumers (start : Inlets) (moves : List ChannelMove) :
    let last := (FanIn.start start).performAll moves
    let times := (FanIn.start start).fullTimes moves
    (∀ number queue, start.queues[number]? = some queue →
      let acts := actsOf number moves
      let final := changeAll queue acts
      last.queues[number]? = some final ∧
        takenBy queue acts ++ final.items <+: queue.items ++ receivedBy queue acts ∧
        (.abandoned ∉ acts →
          takenBy queue acts ++ final.items = queue.items ++ receivedBy queue acts)) ∧
    (last.notices = ((start.throttle.requestAll times).filter id).map (fun _ => droppedNotice) ∧
      last.throttle =
        times.foldl (fun throttle now => (throttle.request now).2) start.throttle) ∧
    (∀ update during, IsCall start.queues.length update during →
      (last.restart.performAll during).missed =
        (List.range start.queues.length).countP (last.restart.refuses during)) ∧
    ∀ now update,
      IsCall start.queues.length update (callAtOnce now update start.queues.length) ∧
        fanIn now update last.queues last.throttle =
          last.restart.performAll (callAtOnce now update start.queues.length) := by
  intro last times
  have count : last.queues.length = start.queues.length :=
    length_performAll (FanIn.start start) moves
  refine ⟨?_, ⟨?_, FanIn.throttle_performAll (FanIn.start start) moves⟩, ?_, ?_⟩
  · intro number queue found acts final
    refine ⟨?_, takenBy_isPrefix queue acts, takenBy_append_items queue⟩
    have after := FanIn.getElem?_performAll (FanIn.start start) moves number
    rw [FanIn.start, found] at after
    exact after
  · exact (FanIn.notices_performAll (FanIn.start start) moves).trans (List.nil_append _)
  · intro update during call
    have once : (FanIn.offeredNumbers during).Nodup := by
      rw [call.offeredNumbers_eq]
      exact List.nodup_range
    have missed := last.restart.missed_performAll once
    rw [call.offeredNumbers_eq] at missed
    exact missed.trans (Nat.zero_add _)
  · intro now update
    refine ⟨isCall_callAtOnce now update _, ?_⟩
    have call := fanIn_eq_performAll now update ⟨last.queues, last.throttle⟩
    rw [count] at call
    exact call

/-- An update of an asset. -/
def unitUpdate (asset : String) : PriceUpdate :=
  ⟨0, asset, .one, none⟩

/-- A full channel, a closed one and one with room for two. -/
def mixedInlets : Inlets :=
  ⟨[⟨1, [unitUpdate "A"], true⟩, ⟨4, [], false⟩, ⟨2, [], true⟩], freshThrottle⟩

/-- A call during which the full channel is drained and the others are drained or shut. -/
def interruptedCall : List ChannelMove :=
  [⟨0, .offered 5 (unitUpdate "B")⟩, ⟨0, .drained 1⟩, ⟨1, .offered 6 (unitUpdate "B")⟩,
    ⟨2, .offered 7 (unitUpdate "B")⟩, ⟨2, .drained 1⟩, ⟨2, .shut⟩]

theorem fanIn_amid_consumers_mixed :
    mixedInlets.queues[2]? = some (.ofCapacity 2) ∧
      .abandoned ∉ actsOf 2 interruptedCall ∧
      IsCall 3 (unitUpdate "B") interruptedCall ∧
      ((FanIn.start mixedInlets).performAll interruptedCall).missed = 2 ∧
      ((FanIn.start mixedInlets).performAll interruptedCall).notices = [droppedNotice] ∧
      takenBy (.ofCapacity 2) (actsOf 2 interruptedCall) ++
          (changeAll (.ofCapacity 2) (actsOf 2 interruptedCall)).items =
        [unitUpdate "B"] := by
  have third : mixedInlets.queues[2]? = some (.ofCapacity 2) := rfl
  have stays : .abandoned ∉ actsOf 2 interruptedCall := by
    simp [actsOf, interruptedCall]
  have call : IsCall 3 (unitUpdate "B") interruptedCall := rfl
  obtain ⟨-, -, counted, -⟩ := fanIn_amid_consumers mixedInlets []
  obtain ⟨channels, ⟨reported, -⟩, -⟩ := fanIn_amid_consumers mixedInlets interruptedCall
  exact ⟨third, stays, call, counted _ _ call, reported, (channels 2 _ third).2.2 stays⟩

end PricePublisher.Feed
