import Mathlib.Data.List.Basic
import PricePublisher.Broker.Table
import PricePublisher.Proofs.Feed.Interleaving

/-!
# Grants a period apart

A throttle remembers nothing but its last grant.  Hence its answer to a request follows
from the last grant before it: a request is refused exactly if less than a period has
passed since then.  Refusals leave no trace, so that however many requests come close
together, one of them is granted, and the next grant is due as soon as the period is over.

A feed and a connection to a broker ask their throttles about what they drop, so their
reports are such grants.
-/

namespace PricePublisher

namespace Throttle

/-- Requests at given times, with the answers to them. -/
def answered (throttle : Throttle) (times : List Nat) : List (Nat × Bool) :=
  times.zip (throttle.requestAll times)

/-- The times of those requests that are granted. -/
def grantTimes (requests : List (Nat × Bool)) : List Nat :=
  (requests.filter Prod.snd).map Prod.fst

/-- A throttle after requests at given times. -/
def afterRequests (throttle : Throttle) (times : List Nat) : Throttle :=
  times.foldl (fun throttle now => (throttle.request now).2) throttle

variable {throttle : Throttle} {now : Nat} {times : List Nat}

/-! ## One request -/

theorem request_of_grants (grants : throttle.grants now = true) :
    throttle.request now = (true, { throttle with lastGrant := some now }) := by
  rw [request, if_pos grants]

theorem request_of_refuses (refuses : throttle.grants now = false) :
    throttle.request now = (false, throttle) := by
  rw [request, if_neg (Bool.eq_false_iff.mp refuses)]

theorem period_request (throttle : Throttle) (now : Nat) :
    (throttle.request now).2.period = throttle.period := by
  rw [request]
  split <;> rfl

/-- A request is refused exactly if less than a period has passed since the last grant. -/
theorem grants_eq_false_iff :
    throttle.grants now = false ↔
      ∃ last, throttle.lastGrant = some last ∧ now - last < throttle.period := by
  rw [grants]
  cases throttle.lastGrant with
  | none => simp
  | some last => simp

theorem answered_cons (throttle : Throttle) (now : Nat) (times : List Nat) :
    throttle.answered (now :: times) =
      (now, throttle.grants now) :: (throttle.request now).2.answered times := by
  have asked : (throttle.request now).1 = throttle.grants now := by
    cases answer : throttle.grants now with
    | true => rw [request_of_grants answer]
    | false => rw [request_of_refuses answer]
  rw [← asked]
  rfl

/-! ## Requests in a row -/

theorem grantTimes_cons (now : Nat) (granted : Bool) (requests : List (Nat × Bool)) :
    grantTimes ((now, granted) :: requests) =
      if granted then now :: grantTimes requests else grantTimes requests := by
  cases granted <;> rfl

theorem map_fst_answered (throttle : Throttle) (times : List Nat) :
    (throttle.answered times).map Prod.fst = times := by
  induction times generalizing throttle with
  | nil => rfl
  | cons now times induction => rw [answered_cons, List.map_cons, induction]

theorem map_snd_answered (throttle : Throttle) (times : List Nat) :
    (throttle.answered times).map Prod.snd = throttle.requestAll times := by
  induction times generalizing throttle with
  | nil => rfl
  | cons now times induction =>
      exact congrArg ((throttle.request now).1 :: ·) (induction (throttle.request now).2)

theorem grantTimes_sublist (throttle : Throttle) (times : List Nat) :
    (grantTimes (throttle.answered times)).Sublist times := by
  have kept : (grantTimes (throttle.answered times)).Sublist
      ((throttle.answered times).map Prod.fst) :=
    List.filter_sublist.map Prod.fst
  rwa [map_fst_answered] at kept

theorem answered_append (throttle : Throttle) (earlier later : List Nat) :
    throttle.answered (earlier ++ later) =
      throttle.answered earlier ++ (throttle.afterRequests earlier).answered later := by
  induction earlier generalizing throttle with
  | nil => rfl
  | cons now earlier induction =>
      rw [List.cons_append, answered_cons, answered_cons, induction]
      rfl

/-- All that requests leave behind is the time of the last grant. -/
theorem afterRequests_eq (throttle : Throttle) (times : List Nat) :
    throttle.afterRequests times =
      { throttle with
        lastGrant := (grantTimes (throttle.answered times)).getLast?.or throttle.lastGrant } := by
  induction times generalizing throttle with
  | nil => rfl
  | cons now times induction =>
      have first : throttle.afterRequests (now :: times) =
          (throttle.request now).2.afterRequests times :=
        rfl
      rw [first, induction, answered_cons, grantTimes_cons]
      cases answer : throttle.grants now with
      | true =>
          rw [request_of_grants answer, if_pos rfl, List.getLast?_cons]
          cases (grantTimes _).getLast? <;> rfl
      | false =>
          rw [request_of_refuses answer, if_neg Bool.false_ne_true]

/-- A request is answered by what the requests before it have left. -/
theorem parts_of_answered {earlier later : List (Nat × Bool)} {granted : Bool}
    (parts : throttle.answered times = earlier ++ (now, granted) :: later) :
    earlier = throttle.answered (earlier.map Prod.fst) ∧
      granted = (throttle.afterRequests (earlier.map Prod.fst)).grants now ∧
      later = ((throttle.afterRequests (earlier.map Prod.fst)).request now).2.answered
        (later.map Prod.fst) := by
  have split : times = earlier.map Prod.fst ++ now :: later.map Prod.fst := by
    rw [← map_fst_answered throttle times, parts, List.map_append, List.map_cons]
  rw [split, answered_append, answered_cons] at parts
  have lengths : (throttle.answered (earlier.map Prod.fst)).length = earlier.length := by
    rw [← List.length_map Prod.fst, map_fst_answered, List.length_map]
  obtain ⟨front, back⟩ := List.append_inj parts lengths
  obtain ⟨first, rest⟩ := List.cons.inj back
  exact ⟨front.symm, (congrArg Prod.snd first).symm, rest.symm⟩

/-! ## Refusals -/

/-- A request is refused only shortly after a grant, of which the throttle knows or has made. -/
theorem lastGrant_of_refused {earlier later : List (Nat × Bool)}
    (parts : throttle.answered times = earlier ++ (now, false) :: later) :
    ∃ last, (grantTimes earlier).getLast?.or throttle.lastGrant = some last ∧
      now < last + throttle.period := by
  obtain ⟨front, refused, -⟩ := parts_of_answered parts
  obtain ⟨last, granted, recent⟩ := grants_eq_false_iff.mp refused.symm
  rw [afterRequests_eq, ← front] at granted recent
  change now - last < throttle.period at recent
  exact ⟨last, granted, by omega⟩

/-- Without a request that is refused, all others are answered alike. -/
theorem answered_without_refused {earlier later : List (Nat × Bool)}
    (parts : throttle.answered times = earlier ++ (now, false) :: later) :
    throttle.answered (earlier.map Prod.fst ++ later.map Prod.fst) = earlier ++ later := by
  obtain ⟨front, refused, back⟩ := parts_of_answered parts
  rw [request_of_refuses refused.symm] at back
  rw [answered_append, ← front, ← back]

/-! ## Grants -/

theorem le_of_mem_grantTimes {last : Nat} (granted : throttle.lastGrant = some last)
    (rising : (last :: times).Pairwise (· ≤ ·)) :
    ∀ time ∈ grantTimes (throttle.answered times), last + throttle.period ≤ time := by
  induction times with
  | nil => nofun
  | cons now times induction =>
      obtain ⟨after, others⟩ := List.pairwise_cons.mp rising
      obtain ⟨first, later⟩ := List.forall_mem_cons.mp after
      rw [answered_cons, grantTimes_cons]
      cases answer : throttle.grants now with
      | false =>
          rw [request_of_refuses answer, if_neg Bool.false_ne_true]
          exact induction (List.pairwise_cons.mpr ⟨later, (List.pairwise_cons.mp others).2⟩)
      | true =>
          have due : last + throttle.period ≤ now := by
            by_contra early
            have recent : now - last < throttle.period := by omega
            have refused := grants_eq_false_iff.mpr ⟨last, granted, recent⟩
            exact Bool.false_ne_true (refused.symm.trans answer)
          rw [if_pos rfl]
          intro time member
          rcases List.mem_cons.mp member with rfl | member
          · exact due
          · have behind := (grantTimes_sublist _ times).subset member
            exact Nat.le_trans due ((List.pairwise_cons.mp others).1 time behind)

/-- Any two grants are at least a period apart. -/
theorem pairwise_grantTimes (throttle : Throttle) (rising : times.Pairwise (· ≤ ·)) :
    (grantTimes (throttle.answered times)).Pairwise fun earlier later =>
      earlier + throttle.period ≤ later := by
  induction times generalizing throttle with
  | nil => exact .nil
  | cons now times induction =>
      have others := induction (throttle.request now).2 (List.pairwise_cons.mp rising).2
      rw [period_request] at others
      rw [answered_cons, grantTimes_cons]
      cases answer : throttle.grants now with
      | false => exact others
      | true =>
          have granted : (throttle.request now).2.lastGrant = some now := by
            rw [request_of_grants answer]
          have behind := le_of_mem_grantTimes granted rising
          rw [period_request] at behind
          exact List.pairwise_cons.mpr ⟨behind, others⟩

/-- Times a period apart do not come two at a time in less than a period. -/
theorem length_le_one_of_pairwise {period start length : Nat} (short : length < period)
    (apart : times.Pairwise fun earlier later => earlier + period ≤ later)
    (within : ∀ time ∈ times, start ≤ time ∧ time ≤ start + length) :
    times.length ≤ 1 := by
  match times, apart with
  | [], _ => exact Nat.zero_le 1
  | [_], _ => exact Nat.le_refl 1
  | first :: second :: _, apart =>
      have gap := (List.pairwise_cons.mp apart).1 second List.mem_cons_self
      have begin := within first List.mem_cons_self
      have stop := within second (List.mem_cons_of_mem _ List.mem_cons_self)
      omega

/-- There is one report for each grant. -/
theorem map_filter_requestAll {α : Type} (throttle : Throttle) (times : List Nat) (report : α) :
    ((throttle.requestAll times).filter id).map (fun _ => report) =
      (grantTimes (throttle.answered times)).map fun _ => report := by
  rw [← map_snd_answered, List.filter_map, List.map_map, grantTimes, List.map_map]
  rfl

end Throttle

/-! ## Reports about dropped batches -/

open Throttle (grantTimes)

namespace BrokerTable

variable {connection : BrokerConnection}

/-- An offer that meets a full queue asks the throttle, and reports what it grants. -/
theorem offerTo_of_full (full : connection.queue.delivery = .full) (now : Nat)
    (batch : SignedBatch) :
    (offerTo now batch connection).2.throttle = (connection.throttle.request now).2 ∧
      (offerTo now batch connection).1.notices =
        if connection.throttle.grants now then [droppedNotice] else [] := by
  simp only [offerTo, full, requestReport]
  cases answer : connection.throttle.grants now with
  | true => simp [Throttle.request_of_grants answer]
  | false => simp [Throttle.request_of_refuses answer]

theorem offerTo_of_not_full (notFull : connection.queue.delivery ≠ .full) (now : Nat)
    (batch : SignedBatch) :
    (offerTo now batch connection).2.throttle = connection.throttle ∧
      (offerTo now batch connection).1.notices = [] := by
  rw [offerTo]
  split
  next => exact ⟨rfl, rfl⟩
  next full => exact absurd full notFull
  next => exact ⟨rfl, rfl⟩

end BrokerTable

/-- An offer of a batch to a connection, and the queue that it meets. -/
structure BrokerOffer where
  time : Nat
  batch : SignedBatch
  queue : Queue SignedBatch

/-- The time of an offer that meets a full queue. -/
def BrokerOffer.metFull? (offer : BrokerOffer) : Option Nat :=
  if offer.queue.delivery = .full then some offer.time else none

namespace BrokerConnection

/-- The reports that offers to a connection lead to, whatever becomes of its queue between them. -/
def reports (connection : BrokerConnection) : List BrokerOffer → List Notice
  | [] => []
  | offer :: offers =>
      let (result, next) :=
        BrokerTable.offerTo offer.time offer.batch { connection with queue := offer.queue }
      result.notices ++ next.reports offers

theorem reports_eq (connection : BrokerConnection) (offers : List BrokerOffer) :
    connection.reports offers =
      (grantTimes (connection.throttle.answered (offers.filterMap BrokerOffer.metFull?))).map
        fun _ => BrokerTable.droppedNotice := by
  induction offers generalizing connection with
  | nil => rfl
  | cons offer offers induction =>
      let met : BrokerConnection := { connection with queue := offer.queue }
      let offered := BrokerTable.offerTo offer.time offer.batch met
      have first : connection.reports (offer :: offers) =
          offered.1.notices ++ offered.2.reports offers :=
        rfl
      rw [first, induction]
      by_cases full : met.queue.delivery = .full
      · obtain ⟨throttle, notices⟩ := BrokerTable.offerTo_of_full full offer.time offer.batch
        have dropped : offer.metFull? = some offer.time := if_pos full
        rw [throttle, notices, List.filterMap_cons_some dropped, Throttle.answered_cons,
          Throttle.grantTimes_cons]
        cases connection.throttle.grants offer.time <;> rfl
      · obtain ⟨throttle, notices⟩ := BrokerTable.offerTo_of_not_full full offer.time offer.batch
        have taken : offer.metFull? = none := if_neg full
        rw [throttle, notices, List.filterMap_cons_none taken]
        rfl

end BrokerConnection

namespace Throttle

open Feed (Inlets ChannelMove FanIn)

/--
A throttle is asked at times that do not fall, as often as one likes.  Every request is
answered and the first one is granted.  Any two grants are at least a period apart, and a
refused request comes less than a period after the last grant before it.  Had it not been
made, all others would have been answered alike.

So in a stretch of time shorter than the period at most one request is granted.  The
reports about dropped updates and about the batches that a connection drops are such
grants, one each, however many are dropped.
-/
theorem grants_once_a_period (period : Nat) {times : List Nat}
    (rising : times.Pairwise (· ≤ ·)) :
    let throttle : Throttle := ofPeriod period
    let asked := throttle.answered times
    let grants := grantTimes asked
    (asked.map Prod.fst = times ∧ asked.map Prod.snd = throttle.requestAll times) ∧
    (∀ first later, asked = first :: later → first.2 = true) ∧
    grants.Pairwise (fun earlier later => earlier + period ≤ later) ∧
    (∀ earlier now later, asked = earlier ++ (now, false) :: later →
      (∃ last, (grantTimes earlier).getLast? = some last ∧ now < last + period) ∧
      throttle.answered (earlier.map Prod.fst ++ later.map Prod.fst) = earlier ++ later) ∧
    (∀ start length, length < period →
      (grants.filter fun time => start ≤ time ∧ time ≤ start + length).length ≤ 1) ∧
    (∀ (inlets : Inlets) (moves : List ChannelMove),
      inlets.throttle = throttle → (FanIn.start inlets).fullTimes moves = times →
      ((FanIn.start inlets).performAll moves).notices = grants.map fun _ => Feed.droppedNotice) ∧
    ∀ (connection : BrokerConnection) (offers : List BrokerOffer),
      connection.throttle = throttle → offers.filterMap BrokerOffer.metFull? = times →
      connection.reports offers = grants.map fun _ => BrokerTable.droppedNotice := by
  intro throttle asked grants
  have apart : grants.Pairwise fun earlier later => earlier + period ≤ later :=
    throttle.pairwise_grantTimes rising
  refine ⟨⟨map_fst_answered throttle times, map_snd_answered throttle times⟩, ?_, apart, ?_, ?_,
    ?_, ?_⟩
  · rintro ⟨now, granted⟩ later parts
    have parts : asked = [] ++ (now, granted) :: later := parts
    exact (parts_of_answered parts).2.1
  · intro earlier now later parts
    obtain ⟨last, granted, recent⟩ := lastGrant_of_refused parts
    rw [show throttle.lastGrant = none from rfl, Option.or_none] at granted
    exact ⟨⟨last, granted, recent⟩, answered_without_refused parts⟩
  · intro start length short
    have within : ∀ time ∈ grants.filter fun time => start ≤ time ∧ time ≤ start + length,
        start ≤ time ∧ time ≤ start + length := by
      intro time member
      exact of_decide_eq_true (List.mem_filter.mp member).2
    exact length_le_one_of_pairwise short (apart.filter _) within
  · rintro inlets moves fresh rfl
    have asks : (FanIn.start inlets).throttle = throttle := fresh
    rw [FanIn.notices_performAll, map_filter_requestAll, asks]
    rfl
  · rintro connection offers fresh rfl
    rw [connection.reports_eq, fresh]

/-- Two requests at once, and three more around the end of the period. -/
def burstTimes : List Nat :=
  [0, 0, 9, 10, 12]

/-- A full channel whose updates are dropped, and a broker whose batches are. -/
theorem grants_once_a_period_of_burst :
    burstTimes.Pairwise (· ≤ ·) ∧
      (∃ last, (grantTimes [(0, true), (0, false)]).getLast? = some last ∧ 9 < last + 10) ∧
      (ofPeriod 10).answered [0, 0, 10, 12] =
        [(0, true), (0, false), (10, true), (12, false)] ∧
      ((grantTimes ((ofPeriod 10).answered burstTimes)).filter
        fun time => 1 ≤ time ∧ time ≤ 1 + 9).length ≤ 1 ∧
      ((FanIn.start ⟨[.ofCapacity 0], .ofPeriod 10⟩).performAll
        (burstTimes.map fun now => ⟨0, .offered now (Feed.unitUpdate "A")⟩)).notices =
          [Feed.droppedNotice, Feed.droppedNotice] ∧
      ({ BrokerConnection.opened "a" 0 with throttle := .ofPeriod 10 }).reports
        (burstTimes.map fun now => ⟨now, [], .ofCapacity 0⟩) =
          [BrokerTable.droppedNotice, BrokerTable.droppedNotice] := by
  have rising : burstTimes.Pairwise (· ≤ ·) := by decide
  obtain ⟨-, -, -, refused, sparse, updates, batches⟩ := grants_once_a_period 10 rising
  obtain ⟨recent, without⟩ :=
    refused [(0, true), (0, false)] 9 [(10, true), (12, false)] (by decide)
  exact ⟨rising, recent, without, sparse 1 9 (by decide), updates _ _ rfl rfl,
    batches _ _ rfl rfl⟩

end Throttle

end PricePublisher
