import PricePublisher.Connection.Read

/-!
# One arrival for each read

A read passes over any number of pings and pongs before it answers, and the next read goes
on with what it has left.  Still each of several reads has an arrival of its own: the read
that comes after so many others finds the arrival that comes after so many of those that
are not passed over, and this arrival alone decides the answer.  The reads behind the last
such arrival find the end of the connection.
-/

namespace PricePublisher

namespace Arrival

/-- Whether a read passes over something that arrives. -/
def isPassedOver : Arrival → Bool
  | .frame .ping => true
  | .frame .pong => true
  | _ => false

/-- The text that arrives, if one does. -/
def text? : Arrival → Option String
  | .frame (.text content) => some content
  | _ => none

/-- The answer that an arrival decides alone. -/
inductive Decides : Arrival → Except ReadError String → Prop
  | text (content : String) : Decides (.frame (.text content)) (.ok content)
  | close : Decides (.frame .close) (.error .closed)
  | binary (content : String) : Decides (.frame (.binary content)) (.error .nonText)
  | raw : Decides (.frame .raw) (.error .nonText)
  | connectionClosed : Decides (.failure .connectionClosed) (.error .closed)
  | otherFailure {cause : TransportError} (other : cause ≠ .connectionClosed) :
      Decides (.failure cause) (.error (.transport cause))

variable {arrival : Arrival} {answer : Except ReadError String}

theorem answer?_eq_none_iff : arrival.answer? = none ↔ arrival.isPassedOver = true := by
  cases arrival with
  | frame frame => cases frame <;> simp [answer?, isPassedOver]
  | failure cause => cases cause <;> simp [answer?, isPassedOver]

theorem decides_iff : arrival.Decides answer ↔ arrival.answer? = some answer := by
  constructor
  · rintro (_ | _ | _ | _ | _ | other)
    case otherFailure cause =>
      cases cause with
      | connectionClosed => exact absurd rfl other
      | _ => rfl
    all_goals rfl
  · intro answered
    cases arrival with
    | frame frame => cases frame <;> cases answered <;> constructor
    | failure cause =>
        cases cause with
        | connectionClosed => cases answered; exact .connectionClosed
        | _ => cases answered; exact .otherFailure nofun

theorem exists_decides (answers : arrival.isPassedOver = false) :
    ∃ answer, arrival.Decides answer := by
  cases answered : arrival.answer? with
  | none => rw [answer?_eq_none_iff.mp answered] at answers; cases answers
  | some answer => exact ⟨answer, decides_iff.mpr answered⟩

end Arrival

variable {limit : Option Duration} {ending : Ending}

/-! ## One read -/

theorem nextText_cons_of_passedOver {arrival : Arrival} (passed : arrival.isPassedOver = true)
    (rest : List Arrival) :
    nextText limit ending (arrival :: rest) = nextText limit ending rest := by
  rw [nextText, Arrival.answer?_eq_none_iff.mpr passed]

theorem nextText_append_of_passedOver {skipped : List Arrival}
    (passed : ∀ arrival ∈ skipped, arrival.isPassedOver = true) (rest : List Arrival) :
    nextText limit ending (skipped ++ rest) = nextText limit ending rest := by
  induction skipped with
  | nil => rfl
  | cons arrival skipped induction =>
      obtain ⟨first, others⟩ := List.forall_mem_cons.mp passed
      rw [List.cons_append, nextText_cons_of_passedOver first, induction others]

theorem nextText_cons_of_decides {arrival : Arrival} {answer : Except ReadError String}
    (decides : arrival.Decides answer) (rest : List Arrival) :
    nextText limit ending (arrival :: rest) = (some answer, rest) := by
  rw [nextText, Arrival.decides_iff.mp decides]

/-- A read of a connection that comes to an end always has an answer. -/
theorem isSome_nextText (limit : Option Duration) (arrivals : List Arrival) :
    (nextText limit .closed arrivals).1.isSome = true := by
  fun_induction nextText limit .closed arrivals with
  | case1 => rfl
  | case2 => rfl
  | case3 arrival rest passed induction => exact induction

/-- The text with which a read answers, if it does. -/
def answeredText? (answer : Option (Except ReadError String)) : Option String :=
  answer.bind Except.toOption

/-- The text of an answer, and those that are left, are the texts that were to arrive. -/
theorem text_nextText (limit : Option Duration) (ending : Ending) (arrivals : List Arrival) :
    (answeredText? (nextText limit ending arrivals).1).toList ++
        (nextText limit ending arrivals).2.filterMap Arrival.text? =
      arrivals.filterMap Arrival.text? := by
  fun_induction nextText limit ending arrivals with
  | case1 =>
      have textless : answeredText? (ending.answer? limit) = none := by
        cases ending with
        | closed => rfl
        | silence =>
            cases limit with
            | none => rfl
            | some duration =>
                rw [Ending.answer?]
                split <;> rfl
      rw [textless]
      rfl
  | case2 arrival rest answer answered =>
      rcases Arrival.decides_iff.mpr answered with _ | _ | _ | _ | _ | _ <;> rfl
  | case3 arrival rest passed induction =>
      have textless : arrival.text? = none := by
        cases arrival with
        | frame frame =>
            cases frame with
            | text content => cases passed
            | _ => rfl
        | failure cause => rfl
      rw [induction, List.filterMap_cons_none textless]

/-! ## Several reads -/

/-- What is left to arrive after so many reads. -/
def leftAfter (limit : Option Duration) (ending : Ending) (arrivals : List Arrival) :
    Nat → List Arrival
  | 0 => arrivals
  | reads + 1 => (nextText limit ending (leftAfter limit ending arrivals reads)).2

/-- How many arrivals are not passed over. -/
def answeringCount (arrivals : List Arrival) : Nat :=
  arrivals.countP fun arrival => !arrival.isPassedOver

theorem nextTexts_succ (limit : Option Duration) (ending : Ending) (arrivals : List Arrival)
    (count : Nat) :
    nextTexts limit ending (count + 1) arrivals =
      (nextText limit ending arrivals).1 ::
        nextTexts limit ending count (nextText limit ending arrivals).2 :=
  rfl

theorem leftAfter_succ (limit : Option Duration) (ending : Ending) (arrivals : List Arrival)
    (reads : Nat) :
    leftAfter limit ending arrivals (reads + 1) =
      leftAfter limit ending (nextText limit ending arrivals).2 reads := by
  induction reads with
  | zero => rfl
  | succ reads induction => rw [leftAfter, induction, leftAfter]

/-- Each read goes on with what those before it have left. -/
theorem nextTexts_eq (limit : Option Duration) (ending : Ending) (arrivals : List Arrival)
    (count : Nat) :
    nextTexts limit ending count arrivals =
      (List.range count).map fun number =>
        (nextText limit ending (leftAfter limit ending arrivals number)).1 := by
  induction count generalizing arrivals with
  | zero => rfl
  | succ count induction =>
      rw [nextTexts_succ, induction, List.range_succ_eq_map, List.map_cons, List.map_map]
      simp only [Function.comp_def, Nat.succ_eq_add_one, leftAfter_succ]
      rfl

theorem getElem?_nextTexts {number count : Nat} (early : number < count)
    (arrivals : List Arrival) :
    (nextTexts limit ending count arrivals)[number]? =
      some (nextText limit ending (leftAfter limit ending arrivals number)).1 := by
  rw [nextTexts_eq, List.getElem?_map, List.getElem?_range early]
  rfl

/--
After one read for each arrival of a front that is not passed over, all of that front is
consumed up to pings and pongs at its end.
-/
theorem leftAfter_answeringCount (limit : Option Duration) (ending : Ending)
    (front rest : List Arrival) :
    ∃ skipped, (∀ arrival ∈ skipped, arrival.isPassedOver = true) ∧
      leftAfter limit ending (front ++ rest) (answeringCount front) = skipped ++ rest := by
  induction front with
  | nil => exact ⟨[], nofun, rfl⟩
  | cons arrival front induction =>
      obtain ⟨skipped, passed, left⟩ := induction
      rw [List.cons_append]
      cases first : arrival.isPassedOver with
      | false =>
          obtain ⟨answer, decides⟩ := Arrival.exists_decides first
          have counted : answeringCount (arrival :: front) = answeringCount front + 1 := by
            simp [answeringCount, first]
          rw [counted, leftAfter_succ, nextText_cons_of_decides decides]
          exact ⟨skipped, passed, left⟩
      | true =>
          have counted : answeringCount (arrival :: front) = answeringCount front := by
            simp [answeringCount, first]
          rw [counted]
          -- Without a read nothing is consumed yet; the first read passes over the arrival.
          cases reads : answeringCount front with
          | zero =>
              rw [reads] at left
              exact ⟨arrival :: skipped, List.forall_mem_cons.mpr ⟨first, passed⟩,
                congrArg (arrival :: ·) left⟩
          | succ others =>
              rw [reads, leftAfter_succ] at left
              rw [leftAfter_succ, nextText_cons_of_passedOver first]
              exact ⟨skipped, passed, left⟩

/-- Reads for which no arrival is left meet the ending, and leave nothing. -/
theorem nextText_leftAfter_of_exhausted (limit : Option Duration) (ending : Ending)
    {arrivals : List Arrival} {reads : Nat} (exhausted : answeringCount arrivals ≤ reads) :
    nextText limit ending (leftAfter limit ending arrivals reads) =
      (ending.answer? limit, []) := by
  induction exhausted with
  | refl =>
      obtain ⟨skipped, passed, left⟩ := leftAfter_answeringCount limit ending arrivals []
      rw [List.append_nil] at left
      rw [left, nextText_append_of_passedOver passed]
      rfl
  | step exhausted induction =>
      rw [leftAfter, induction]
      rfl

/-- The texts that several reads answer, and those that are left, are all that were to arrive. -/
theorem texts_nextTexts (limit : Option Duration) (ending : Ending) (arrivals : List Arrival)
    (count : Nat) :
    (nextTexts limit ending count arrivals).filterMap answeredText? ++
        (leftAfter limit ending arrivals count).filterMap Arrival.text? =
      arrivals.filterMap Arrival.text? := by
  induction count generalizing arrivals with
  | zero => rfl
  | succ count induction =>
      have first := text_nextText limit ending arrivals
      have others := induction (nextText limit ending arrivals).2
      rw [nextTexts_succ, leftAfter_succ, ← first, ← others]
      cases answered : answeredText? (nextText limit ending arrivals).1 with
      | none =>
          rw [List.filterMap_cons_none answered]
          rfl
      | some content =>
          rw [List.filterMap_cons_some answered]
          rfl

/--
However many reads there are of a connection that comes to an end, and whatever arrives
before that, each read has an answer; no limit runs out.  Take an arrival that is not
passed over, and the read that has as many reads before it as the arrival has others of
that kind.  It finds the arrival behind pings and pongs only, answers what the arrival
decides alone, and leaves all that follows.  Once nothing but pings and pongs is left,
every read answers that the connection is closed.  So the texts that are answered are, in
order and once each, the first ones to arrive, and the others are left.
-/
theorem reads_one_answering_arrival_each
    (limit : Option Duration) (arrivals : List Arrival) (count : Nat) :
    let answers := nextTexts limit .closed count arrivals
    let left := leftAfter limit .closed arrivals
    (answers.length = count ∧ ∀ answer ∈ answers, answer.isSome = true) ∧
    (∀ front arrival rest,
      arrivals = front ++ arrival :: rest → arrival.isPassedOver = false →
        let number := answeringCount front
        (∃ skipped, (∀ passed ∈ skipped, passed.isPassedOver = true) ∧
          left number = skipped ++ arrival :: rest) ∧
        left (number + 1) = rest ∧
        ∃ answer, arrival.Decides answer ∧
          (number < count → answers[number]? = some (some answer))) ∧
    (∀ number, answeringCount arrivals ≤ number →
      left (number + 1) = [] ∧
        (number < count → answers[number]? = some (some (.error .closed)))) ∧
    answers.filterMap answeredText? ++ (left count).filterMap Arrival.text? =
      arrivals.filterMap Arrival.text? := by
  intro answers left
  refine ⟨⟨?_, ?_⟩, ?_, ?_, texts_nextTexts limit .closed arrivals count⟩
  · exact (congrArg List.length (nextTexts_eq limit .closed arrivals count)).trans (by simp)
  · intro answer member
    rw [show answers = _ from nextTexts_eq limit .closed arrivals count] at member
    obtain ⟨number, -, rfl⟩ := List.mem_map.mp member
    exact isSome_nextText limit (left number)
  · rintro front arrival rest rfl answering number
    obtain ⟨skipped, passed, found⟩ :=
      leftAfter_answeringCount limit .closed front (arrival :: rest)
    obtain ⟨answer, decides⟩ := Arrival.exists_decides answering
    have read : nextText limit .closed (left number) = (some answer, rest) := by
      rw [show left number = _ from found, nextText_append_of_passedOver passed,
        nextText_cons_of_decides decides]
    refine ⟨⟨skipped, passed, found⟩, congrArg Prod.snd read, answer, decides, ?_⟩
    intro early
    exact (getElem?_nextTexts early _).trans (congrArg (fun read => some read.1) read)
  · intro number exhausted
    have read := nextText_leftAfter_of_exhausted limit .closed exhausted
    refine ⟨congrArg Prod.snd read, ?_⟩
    intro early
    exact (getElem?_nextTexts early _).trans (congrArg (fun read => some read.1) read)

/-- Two texts and a failure between pings and pongs. -/
def mixedArrivals : List Arrival :=
  [.frame .ping, .frame (.text "a"), .frame .pong, .frame .ping, .failure .reset,
    .frame (.text "b"), .frame .ping]

/-- The second of five reads finds a failure, and the last two find the end. -/
theorem reads_one_answering_arrival_each_of_mixed :
    (∃ skipped, (∀ passed ∈ skipped, passed.isPassedOver = true) ∧
        leftAfter none .closed mixedArrivals 1 =
          skipped ++ [.failure .reset, .frame (.text "b"), .frame .ping]) ∧
      leftAfter none .closed mixedArrivals 2 = [.frame (.text "b"), .frame .ping] ∧
      (nextTexts none .closed 5 mixedArrivals)[1]? =
        some (some (.error (.transport .reset))) ∧
      leftAfter none .closed mixedArrivals 4 = [] ∧
      (nextTexts none .closed 5 mixedArrivals)[3]? = some (some (.error .closed)) ∧
      (nextTexts none .closed 5 mixedArrivals).filterMap answeredText? ++
          (leftAfter none .closed mixedArrivals 5).filterMap Arrival.text? =
        ["a", "b"] := by
  obtain ⟨-, found, exhausted, texts⟩ := reads_one_answering_arrival_each none mixedArrivals 5
  obtain ⟨skipped, left, answer, decides, answered⟩ := found
    [.frame .ping, .frame (.text "a"), .frame .pong, .frame .ping] (.failure .reset)
    [.frame (.text "b"), .frame .ping] rfl rfl
  cases decides
  obtain ⟨nothing, closed⟩ := exhausted 3 (by decide)
  exact ⟨skipped, left, answered (by decide), nothing, closed (by decide), texts⟩

end PricePublisher
