import Mathlib.Data.List.Induction
import PricePublisher.Proofs.Keyed
import PricePublisher.Publishing.TriggerEngine

/-!
# Delta checks measure from the last delta report

The engine keeps its reported values as state.  This module says what that state
means: after any calls, the reported value of an asset is the one that a delta
check selected last, whatever was recorded or ticked since.  The answers of
checks and ticks are then described by the calls and answers before them alone.

The maps of the engine have no order of their own.  A check that visits the
latest updates in any order, reading and changing the reported values on its
way, selects the same updates and leaves the same engine.  The main theorem
joins both descriptions.
-/

namespace PricePublisher.TriggerEngine

open Keyed (Ascending)

/-! ## Calls and their answers -/

/-- A call of an engine. -/
inductive Call where
  | record (update : PriceUpdate)
  | checkDelta
  | tickClock (now : Int)

/-- The update that a call records. -/
def Call.recorded? : Call → Option PriceUpdate
  | .record update => some update
  | _ => none

/-- Whether a call is a tick of the clock. -/
def Call.isTick : Call → Bool
  | .tickClock _ => true
  | _ => false

/-- What a call selects. -/
def answer (engine : TriggerEngine) : Call → List TriggeredUpdate
  | .record update => engine.immediate update
  | .checkDelta => engine.deltaCheck.1
  | .tickClock now => engine.clockTick now

/-- The engine after a call. -/
def after (engine : TriggerEngine) : Call → TriggerEngine
  | .record update => engine.record update
  | .checkDelta => engine.deltaCheck.2
  | .tickClock _ => engine

/-- The engine after calls in a row. -/
def afterAll (engine : TriggerEngine) (calls : List Call) : TriggerEngine :=
  calls.foldl after engine

/-- What each of some calls in a row selects. -/
def answers (engine : TriggerEngine) : List Call → List (List TriggeredUpdate)
  | [] => []
  | call :: calls => engine.answer call :: (engine.after call).answers calls

/-- What each delta check among some calls in a row selects. -/
def deltaAnswers (engine : TriggerEngine) : List Call → List (List TriggeredUpdate)
  | [] => []
  | .checkDelta :: calls =>
      engine.deltaCheck.1 :: engine.deltaCheck.2.deltaAnswers calls
  | call :: calls => (engine.after call).deltaAnswers calls

@[simp]
theorem afterAll_concat
    (engine : TriggerEngine) (calls : List Call) (call : Call) :
    engine.afterAll (calls ++ [call]) = (engine.afterAll calls).after call := by
  simp [afterAll]

theorem answers_concat
    (engine : TriggerEngine) (calls : List Call) (call : Call) :
    engine.answers (calls ++ [call]) =
      engine.answers calls ++ [(engine.afterAll calls).answer call] := by
  induction calls generalizing engine with
  | nil => rfl
  | cons first rest induction =>
      have later := induction (engine.after first)
      simp only [List.cons_append, answers, later]
      rfl

/-! ## What the calls and answers say about an asset -/

/-- The update of an asset that was recorded last. -/
def lastRecorded? (calls : List Call) (asset : String) : Option PriceUpdate :=
  ((calls.filterMap Call.recorded?).filter fun update =>
    update.asset == asset).getLast?

/-- The updates in an answer that are reported because of their change. -/
def deltaUpdates (answer : List TriggeredUpdate) : List PriceUpdate :=
  (answer.filter fun selected => selected.trigger == .delta).map
    TriggeredUpdate.update

/-- The update of an asset that was reported last because of its change. -/
def lastReported? (answers : List (List TriggeredUpdate)) (asset : String) :
    Option PriceUpdate :=
  ((answers.flatMap deltaUpdates).filter fun update =>
    update.asset == asset).getLast?

/--
An update is due for a delta report: it is the last one recorded of its asset,
and it differs enough from the last one reported, if there is one.
-/
def IsDue
    (threshold : Float) (calls : List Call)
    (answers : List (List TriggeredUpdate)) (update : PriceUpdate) : Prop :=
  lastRecorded? calls update.asset = some update ∧
    ∀ last ∈ lastReported? answers update.asset,
      exceedsThreshold last.value.toFloat update.value.toFloat threshold

/-- No asset is selected twice. -/
def EachAssetOnce (answer : List TriggeredUpdate) : Prop :=
  (answer.map fun selected => selected.update.asset).Nodup

@[simp]
theorem lastRecorded?_nil (asset : String) :
    lastRecorded? [] asset = none :=
  rfl

theorem lastRecorded?_record
    (calls : List Call) (update : PriceUpdate) (asset : String) :
    lastRecorded? (calls ++ [.record update]) asset =
      if asset = update.asset then some update
      else lastRecorded? calls asset := by
  by_cases equal : asset = update.asset
  · simp [lastRecorded?, Call.recorded?, equal]
  · have different : (update.asset == asset) = false :=
      beq_eq_false_iff_ne.mpr (Ne.symm equal)
    simp [lastRecorded?, Call.recorded?, different, equal]

theorem lastRecorded?_other
    {call : Call} (silent : call.recorded? = none)
    (calls : List Call) (asset : String) :
    lastRecorded? (calls ++ [call]) asset = lastRecorded? calls asset := by
  simp [lastRecorded?, silent]

theorem lastRecorded?_asset
    {calls : List Call} {asset : String} {update : PriceUpdate}
    (found : lastRecorded? calls asset = some update) :
    update.asset = asset := by
  have member := List.mem_of_getLast? found
  simpa using (List.mem_filter.mp member).2

@[simp]
theorem lastReported?_nil (asset : String) :
    lastReported? [] asset = none :=
  rfl

theorem lastReported?_concat
    (answers : List (List TriggeredUpdate)) (answer : List TriggeredUpdate)
    (asset : String) :
    lastReported? (answers ++ [answer]) asset =
      (((deltaUpdates answer).filter fun update =>
        update.asset == asset).getLast?).or (lastReported? answers asset) := by
  simp [lastReported?]

theorem lastReported?_silent
    {answer : List TriggeredUpdate} (silent : deltaUpdates answer = [])
    (answers : List (List TriggeredUpdate)) (asset : String) :
    lastReported? (answers ++ [answer]) asset = lastReported? answers asset := by
  simp [lastReported?_concat, silent]

@[simp]
theorem deltaUpdates_immediate
    (engine : TriggerEngine) (update : PriceUpdate) :
    deltaUpdates (engine.immediate update) = [] := by
  unfold immediate
  split
  · rfl
  · rfl

@[simp]
theorem deltaUpdates_clockTick (engine : TriggerEngine) (now : Int) :
    deltaUpdates (engine.clockTick now) = [] := by
  have noDelta :
      (engine.clockTick now).filter (fun selected => selected.trigger == .delta) =
        [] := by
    refine List.filter_eq_nil_iff.mpr ?_
    intro selected member
    obtain ⟨entry, _, rfl⟩ := List.mem_map.mp member
    exact Bool.false_ne_true
  rw [deltaUpdates, noDelta, List.map_nil]

@[simp]
theorem deltaUpdates_deltaCheck (engine : TriggerEngine) :
    deltaUpdates engine.deltaCheck.1 = engine.significant.map Prod.snd := by
  have allDelta :
      engine.deltaCheck.1.filter (fun selected => selected.trigger == .delta) =
        engine.deltaCheck.1 := by
    refine List.filter_eq_self.mpr ?_
    intro selected member
    obtain ⟨entry, _, rfl⟩ := List.mem_map.mp member
    rfl
  rw [deltaUpdates, allDelta, deltaCheck, List.map_map]
  rfl

/-! ## The state in terms of the history -/

/--
The maps of an engine are canonical, and hold what the calls and answers so far
say: the last recorded update and the last reported value of each asset.
-/
structure Remembers
    (engine : TriggerEngine) (calls : List Call)
    (answers : List (List TriggeredUpdate)) : Prop where
  latest_ascending : Ascending engine.latest
  reported_ascending : Ascending engine.reported
  get?_latest : ∀ asset,
    Keyed.get? engine.latest asset = lastRecorded? calls asset
  get?_reported : ∀ asset,
    Keyed.get? engine.reported asset =
      (lastReported? answers asset).map fun update => update.value.toFloat

theorem remembers_fresh (threshold : Float) (signsEveryUpdate : Bool) :
    Remembers (fresh threshold signsEveryUpdate) [] [] where
  latest_ascending := Keyed.ascending_nil
  reported_ascending := Keyed.ascending_nil
  get?_latest _ := rfl
  get?_reported _ := rfl

section

variable
  {engine : TriggerEngine} {calls : List Call}
  {answers : List (List TriggeredUpdate)}

theorem Remembers.asset_eq
    (remembers : Remembers engine calls answers)
    {entry : String × PriceUpdate} (member : entry ∈ engine.latest) :
    entry.2.asset = entry.1 := by
  have found := remembers.latest_ascending.mem_iff.mp member
  rw [remembers.get?_latest] at found
  exact lastRecorded?_asset found

theorem Remembers.significant_ascending
    (remembers : Remembers engine calls answers) :
    Ascending engine.significant :=
  remembers.latest_ascending.filter _

/-- Among entries under their own assets the last one of an asset is the one found. -/
theorem getLast?_of_asset
    {entries : List (String × PriceUpdate)}
    (distinct : (Keyed.keys entries).Nodup)
    (named : ∀ entry ∈ entries, entry.2.asset = entry.1) (asset : String) :
    ((entries.map Prod.snd).filter fun update =>
      update.asset == asset).getLast? = Keyed.get? entries asset := by
  induction entries with
  | nil => rfl
  | cons entry rest induction =>
      obtain ⟨fresh, restDistinct⟩ := List.nodup_cons.mp distinct
      have later := induction restDistinct fun other member =>
        named other (List.mem_cons_of_mem _ member)
      have own : entry.2.asset = entry.1 := named entry List.mem_cons_self
      rw [Keyed.get?_cons]
      by_cases equal : asset = entry.1
      · have absent : Keyed.get? rest asset = none := by
          rw [Keyed.get?_eq_none_iff]
          intro other member same
          exact fresh (equal ▸ same ▸ List.mem_map_of_mem member)
        have silent : (rest.map Prod.snd).filter
            (fun update => update.asset == asset) = [] :=
          List.getLast?_eq_none_iff.mp (later.trans absent)
        have kept : (entry.2.asset == asset) = true :=
          beq_iff_eq.mpr (own.trans equal.symm)
        simp only [List.map_cons, List.filter_cons, kept, silent, if_true,
          if_pos equal, List.getLast?_singleton]
      · have dropped : entry.2.asset ≠ asset := by
          rw [own]
          exact Ne.symm equal
        rw [if_neg equal, ← later]
        simp [dropped]

theorem Remembers.record
    (remembers : Remembers engine calls answers) (update : PriceUpdate) :
    Remembers (engine.record update) (calls ++ [.record update])
      (answers ++ [engine.immediate update]) where
  latest_ascending := remembers.latest_ascending.insert update.asset update
  reported_ascending := remembers.reported_ascending
  get?_latest asset := by
    rw [lastRecorded?_record, ← remembers.get?_latest]
    exact Keyed.get?_insert update.asset asset update engine.latest
  get?_reported asset := by
    rw [lastReported?_silent (deltaUpdates_immediate engine update)]
    exact remembers.get?_reported asset

theorem Remembers.tickClock
    (remembers : Remembers engine calls answers) (now : Int) :
    Remembers engine (calls ++ [.tickClock now])
      (answers ++ [engine.clockTick now]) where
  latest_ascending := remembers.latest_ascending
  reported_ascending := remembers.reported_ascending
  get?_latest asset := by
    rw [lastRecorded?_other rfl]
    exact remembers.get?_latest asset
  get?_reported asset := by
    rw [lastReported?_silent (deltaUpdates_clockTick engine now)]
    exact remembers.get?_reported asset

/-- A delta check reports the significant values and keeps all others. -/
theorem get?_report
    (distinct : (Keyed.keys engine.significant).Nodup) (asset : String) :
    Keyed.get? engine.report.reported asset =
      ((Keyed.get? engine.significant asset).map fun update =>
        update.value.toFloat).or (Keyed.get? engine.reported asset) :=
  Keyed.get?_foldl_insert distinct
    (fun update : PriceUpdate => update.value.toFloat) engine.reported asset

theorem Remembers.checkDelta
    (remembers : Remembers engine calls answers) :
    Remembers engine.report (calls ++ [.checkDelta])
      (answers ++ [engine.deltaCheck.1]) where
  latest_ascending := remembers.latest_ascending
  reported_ascending :=
    remembers.reported_ascending.foldl_insert
      (fun update : PriceUpdate => update.value.toFloat) engine.significant
  get?_latest asset := by
    rw [lastRecorded?_other rfl]
    exact remembers.get?_latest asset
  get?_reported asset := by
    have distinct := remembers.significant_ascending.keys_nodup
    have named : ∀ entry ∈ engine.significant, entry.2.asset = entry.1 :=
      fun entry member => remembers.asset_eq (List.mem_of_mem_filter member)
    rw [get?_report distinct, lastReported?_concat, deltaUpdates_deltaCheck,
      getLast?_of_asset distinct named, remembers.get?_reported]
    cases Keyed.get? engine.significant asset <;> rfl

/-- Every call extends the history that the state remembers. -/
theorem Remembers.after
    (remembers : Remembers engine calls answers) (call : Call) :
    Remembers (engine.after call) (calls ++ [call])
      (answers ++ [engine.answer call]) := by
  cases call with
  | record update => exact remembers.record update
  | checkDelta => exact remembers.checkDelta
  | tickClock now => exact remembers.tickClock now

end

theorem remembers_afterAll
    (threshold : Float) (signsEveryUpdate : Bool) (calls : List Call) :
    Remembers ((fresh threshold signsEveryUpdate).afterAll calls) calls
      ((fresh threshold signsEveryUpdate).answers calls) := by
  induction calls using List.reverseRecOn with
  | nil => exact remembers_fresh threshold signsEveryUpdate
  | append_singleton calls call induction =>
      rw [afterAll_concat, answers_concat]
      exact induction.after call

@[simp]
theorem threshold_after (engine : TriggerEngine) (call : Call) :
    (engine.after call).threshold = engine.threshold := by
  cases call <;> rfl

@[simp]
theorem threshold_afterAll (engine : TriggerEngine) (calls : List Call) :
    (engine.afterAll calls).threshold = engine.threshold := by
  induction calls using List.reverseRecOn with
  | nil => rfl
  | append_singleton calls call induction =>
      rw [afterAll_concat, threshold_after, induction]

/-! ## Visiting the latest updates in some order -/

/--
A delta check that visits entries one after the other: each is compared with what
is reported when it is visited, and changes that if it is selected.
-/
def visit (engine : TriggerEngine) :
    List (String × PriceUpdate) → List TriggeredUpdate × TriggerEngine
  | [] => ([], engine)
  | (asset, update) :: rest =>
      if engine.isSignificant asset update.value then
        let (selected, last) :=
          visit { engine with
            reported := Keyed.insert asset update.value.toFloat engine.reported }
            rest
        (⟨update, .delta⟩ :: selected, last)
      else visit engine rest

/-- A report of one asset leaves the significance of every other as it was. -/
theorem isSignificant_insert
    (engine : TriggerEngine) {asset other : String} (different : other ≠ asset)
    (reported : Float) (value : Decimal) :
    { engine with
      reported := Keyed.insert asset reported engine.reported }.isSignificant
        other value = engine.isSignificant other value := by
  simp [isSignificant, Keyed.get?_insert, different]

/-- Visiting entries of distinct assets amounts to comparing all of them first. -/
theorem visit_eq
    {entries : List (String × PriceUpdate)}
    (distinct : (Keyed.keys entries).Nodup) (engine : TriggerEngine) :
    engine.visit entries =
      let chosen := entries.filter fun entry =>
        engine.isSignificant entry.1 entry.2.value
      (chosen.map fun entry => ⟨entry.2, .delta⟩,
        { engine with
          reported := chosen.foldl
            (fun reported entry =>
              Keyed.insert entry.1 entry.2.value.toFloat reported)
            engine.reported }) := by
  induction entries generalizing engine with
  | nil => rfl
  | cons entry rest induction =>
      rcases entry with ⟨asset, update⟩
      obtain ⟨fresh, restDistinct⟩ := List.nodup_cons.mp distinct
      by_cases significant : engine.isSignificant asset update.value = true
      · have unchanged :
            rest.filter (fun entry =>
              { engine with
                reported := Keyed.insert asset update.value.toFloat
                  engine.reported }.isSignificant entry.1 entry.2.value) =
            rest.filter (fun entry =>
              engine.isSignificant entry.1 entry.2.value) := by
          refine List.filter_congr ?_
          rintro ⟨other, later⟩ member
          have seen : other ∈ rest.map Prod.fst := List.mem_map_of_mem member
          refine isSignificant_insert engine ?_ _ _
          intro same
          exact fresh (same ▸ seen)
        simp only [visit, if_pos significant, induction restDistinct, unchanged,
          List.filter_cons, List.map_cons, List.foldl_cons]
      · simp only [visit, if_neg significant, induction restDistinct,
          List.filter_cons]

/-- The engine's own delta check visits its latest updates in rising order. -/
theorem visit_latest
    {engine : TriggerEngine} (distinct : (Keyed.keys engine.latest).Nodup) :
    engine.visit engine.latest = engine.deltaCheck :=
  visit_eq distinct engine

section

variable
  {engine : TriggerEngine} {calls : List Call}
  {answers : List (List TriggeredUpdate)}

/--
The order in which the latest updates are visited changes neither the set of
those that are selected nor the engine.
-/
theorem Remembers.visit_of_perm
    (remembers : Remembers engine calls answers)
    {order : List (String × PriceUpdate)} (permuted : order.Perm engine.latest) :
    (engine.visit order).1.Perm engine.deltaCheck.1 ∧
      (engine.visit order).2 = engine.deltaCheck.2 := by
  have latestDistinct := remembers.latest_ascending.keys_nodup
  have orderDistinct : (Keyed.keys order).Nodup :=
    (permuted.map Prod.fst).nodup_iff.mpr latestDistinct
  have chosen := permuted.filter fun entry =>
    engine.isSignificant entry.1 entry.2.value
  rw [visit_eq orderDistinct, ← visit_latest latestDistinct,
    visit_eq latestDistinct]
  refine ⟨chosen.map _, ?_⟩
  have reported := remembers.reported_ascending.foldl_insert_eq_of_perm chosen
    remembers.significant_ascending.keys_nodup
    (fun update : PriceUpdate => update.value.toFloat)
  exact congrArg (fun reported => { engine with reported := reported }) reported

end

/--
The answers that calls in a row can give when each pass over the latest updates
takes them in an order of its own.
-/
inductive AnswersInSomeOrder :
    TriggerEngine → List Call → List (List TriggeredUpdate) → Prop where
  | done {engine : TriggerEngine} : AnswersInSomeOrder engine [] []
  | record {engine : TriggerEngine} {calls : List Call}
      {answers : List (List TriggeredUpdate)} (update : PriceUpdate)
      (later : AnswersInSomeOrder (engine.record update) calls answers) :
      AnswersInSomeOrder engine (.record update :: calls)
        (engine.immediate update :: answers)
  | checkDelta {engine : TriggerEngine} {calls : List Call}
      {answers : List (List TriggeredUpdate)}
      (order : List (String × PriceUpdate))
      (permuted : order.Perm engine.latest)
      (later : AnswersInSomeOrder (engine.visit order).2 calls answers) :
      AnswersInSomeOrder engine (.checkDelta :: calls)
        ((engine.visit order).1 :: answers)
  | tickClock {engine : TriggerEngine} {calls : List Call}
      {answers : List (List TriggeredUpdate)} (now : Int)
      (order : List (String × PriceUpdate))
      (permuted : order.Perm engine.latest)
      (later : AnswersInSomeOrder engine calls answers) :
      AnswersInSomeOrder engine (.tickClock now :: calls)
        ({ engine with latest := order }.clockTick now :: answers)

/-- The engine's own answers are those of passes in rising order. -/
theorem Remembers.answersInSomeOrder
    {engine : TriggerEngine} {past : List Call}
    {given : List (List TriggeredUpdate)}
    (remembers : Remembers engine past given) (calls : List Call) :
    AnswersInSomeOrder engine calls (engine.answers calls) := by
  induction calls generalizing engine past given with
  | nil => exact .done
  | cons call rest induction =>
      have later := induction (remembers.after call)
      cases call with
      | record update => exact .record update later
      | checkDelta =>
          have own := visit_latest remembers.latest_ascending.keys_nodup
          have later : AnswersInSomeOrder (engine.visit engine.latest).2 rest
              (engine.deltaCheck.2.answers rest) := by
            rw [own]
            exact later
          have answered := AnswersInSomeOrder.checkDelta engine.latest
            (List.Perm.refl _) later
          rw [own] at answered
          exact answered
      | tickClock now =>
          exact .tickClock now engine.latest (List.Perm.refl _) later

/-- Whatever the orders, each answer holds what the engine's own answer holds. -/
theorem AnswersInSomeOrder.perm
    {engine : TriggerEngine} {calls : List Call}
    {others : List (List TriggeredUpdate)}
    (possible : AnswersInSomeOrder engine calls others)
    {past : List Call} {given : List (List TriggeredUpdate)}
    (remembers : Remembers engine past given) :
    List.Forall₂ List.Perm others (engine.answers calls) := by
  induction possible generalizing past given with
  | done => exact .nil
  | record update _ induction =>
      exact .cons (List.Perm.refl _) (induction (remembers.record update))
  | checkDelta order permuted _ induction =>
      obtain ⟨selected, next⟩ := remembers.visit_of_perm permuted
      rw [next] at induction
      exact .cons selected (induction remembers.checkDelta)
  | tickClock now order permuted _ induction =>
      exact .cons (permuted.map _) (induction (remembers.tickClock now))

/-! ## The answers -/

section

variable
  {engine : TriggerEngine} {calls : List Call}
  {answers : List (List TriggeredUpdate)}

theorem Remembers.each_significant_once
    (remembers : Remembers engine calls answers) :
    EachAssetOnce engine.deltaCheck.1 := by
  have assets :
      engine.deltaCheck.1.map (fun selected => selected.update.asset) =
        Keyed.keys engine.significant := by
    rw [deltaCheck, List.map_map]
    refine List.map_congr_left ?_
    intro entry member
    exact remembers.asset_eq (List.mem_of_mem_filter member)
  rw [EachAssetOnce, assets]
  exact remembers.significant_ascending.keys_nodup

theorem Remembers.each_latest_once
    (remembers : Remembers engine calls answers) (now : Int) :
    EachAssetOnce (engine.clockTick now) := by
  have assets :
      (engine.clockTick now).map (fun selected => selected.update.asset) =
        Keyed.keys engine.latest := by
    rw [clockTick, List.map_map]
    refine List.map_congr_left ?_
    intro entry member
    exact remembers.asset_eq member
  rw [EachAssetOnce, assets]
  exact remembers.latest_ascending.keys_nodup

theorem Remembers.mem_latest_iff
    (remembers : Remembers engine calls answers)
    {asset : String} {update : PriceUpdate} :
    (asset, update) ∈ engine.latest ↔
      lastRecorded? calls asset = some update := by
  rw [remembers.latest_ascending.mem_iff, remembers.get?_latest]

theorem Remembers.isSignificant_iff
    (remembers : Remembers engine calls answers)
    (asset : String) (value : Decimal) :
    engine.isSignificant asset value ↔
      ∀ last ∈ lastReported? answers asset,
        exceedsThreshold last.value.toFloat value.toFloat engine.threshold := by
  unfold isSignificant
  rw [remembers.get?_reported]
  cases lastReported? answers asset with
  | none => simp
  | some last => simp

/-- A delta check selects exactly what is due. -/
theorem Remembers.mem_deltaCheck_iff
    (remembers : Remembers engine calls answers)
    (selected : TriggeredUpdate) :
    selected ∈ engine.deltaCheck.1 ↔
      selected.trigger = .delta ∧
        IsDue engine.threshold calls answers selected.update := by
  rw [deltaCheck, List.mem_map]
  constructor
  · rintro ⟨⟨asset, update⟩, member, rfl⟩
    obtain ⟨latest, significant⟩ := List.mem_filter.mp member
    have recorded := remembers.mem_latest_iff.mp latest
    have named : update.asset = asset := lastRecorded?_asset recorded
    subst named
    exact ⟨rfl, recorded,
      (remembers.isSignificant_iff update.asset update.value).mp significant⟩
  · rintro ⟨isDelta, recorded, moved⟩
    have latest := remembers.mem_latest_iff.mpr recorded
    have significant :=
      (remembers.isSignificant_iff _ selected.update.value).mpr moved
    refine ⟨(selected.update.asset, selected.update),
      List.mem_filter.mpr ⟨latest, significant⟩, ?_⟩
    cases selected
    cases isDelta
    rfl

/-- A tick selects the last recorded update of every asset, stamped anew. -/
theorem Remembers.mem_clockTick_iff
    (remembers : Remembers engine calls answers) (now : Int)
    (selected : TriggeredUpdate) :
    selected ∈ engine.clockTick now ↔
      selected.trigger = .clock ∧
        ∃ update, lastRecorded? calls update.asset = some update ∧
          selected.update = { update with timestamp := now } := by
  rw [clockTick, List.mem_map]
  constructor
  · rintro ⟨⟨asset, update⟩, member, rfl⟩
    have recorded := remembers.mem_latest_iff.mp member
    have named : update.asset = asset := lastRecorded?_asset recorded
    subst named
    exact ⟨rfl, update, recorded, rfl⟩
  · rintro ⟨isClock, update, recorded, stamped⟩
    refine ⟨(update.asset, update), remembers.mem_latest_iff.mpr recorded, ?_⟩
    cases selected
    cases isClock
    cases stamped
    rfl

end

/-- Ticks of the clock do not show in the answers of delta checks. -/
theorem deltaAnswers_withoutTicks
    (engine : TriggerEngine) (calls : List Call) :
    engine.deltaAnswers (calls.filter fun call => !call.isTick) =
      engine.deltaAnswers calls := by
  induction calls generalizing engine with
  | nil => rfl
  | cons call rest induction =>
      cases call with
      | record update => exact induction (engine.record update)
      | checkDelta =>
          exact congrArg (engine.deltaCheck.1 :: ·)
            (induction engine.deltaCheck.2)
      | tickClock now => exact induction engine

/--
After any calls, a delta check selects each asset that is due exactly once, and
nothing else: the last recorded update of an asset that was never reported by a
check, or whose value has moved past the threshold since the last such report.  A
tick selects the last recorded update of every asset exactly once under the time
given.  Ticks change no answer of a check, and if each pass visits the assets in
an order of its own, every answer still holds the same.
-/
theorem answers_follow_history
    (threshold : Float) (signsEveryUpdate : Bool) (calls : List Call) :
    let start := fresh threshold signsEveryUpdate
    let engine := start.afterAll calls
    let answers := start.answers calls
    (EachAssetOnce engine.deltaCheck.1 ∧
      ∀ selected, selected ∈ engine.deltaCheck.1 ↔
        selected.trigger = .delta ∧
          IsDue threshold calls answers selected.update) ∧
    (∀ now, EachAssetOnce (engine.clockTick now) ∧
      ∀ selected, selected ∈ engine.clockTick now ↔
        selected.trigger = .clock ∧
          ∃ update, lastRecorded? calls update.asset = some update ∧
            selected.update = { update with timestamp := now }) ∧
    start.deltaAnswers (calls.filter fun call => !call.isTick) =
      start.deltaAnswers calls ∧
    start.AnswersInSomeOrder calls answers ∧
    ∀ others, start.AnswersInSomeOrder calls others →
      List.Forall₂ List.Perm others answers := by
  intro start engine answers
  have remembers : Remembers engine calls answers :=
    remembers_afterAll threshold signsEveryUpdate calls
  have unchanged : engine.threshold = threshold :=
    threshold_afterAll start calls
  refine ⟨⟨remembers.each_significant_once, ?_⟩, ?_,
    deltaAnswers_withoutTicks start calls,
    (remembers_fresh threshold signsEveryUpdate).answersInSomeOrder calls, ?_⟩
  · intro selected
    rw [← unchanged]
    exact remembers.mem_deltaCheck_iff selected
  · intro now
    exact ⟨remembers.each_latest_once now, remembers.mem_clockTick_iff now⟩
  · intro others possible
    exact possible.perm (remembers_fresh threshold signsEveryUpdate)

end PricePublisher.TriggerEngine
