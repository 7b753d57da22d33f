import PricePublisher.Proofs.Keyed
import PricePublisher.Proofs.Positions
import PricePublisher.Proofs.Publishing.LineHistory

/-!
# What the batches of a signing line hold

Results are collected in the order in which their signings were complete.  An
entry of a batch stands under its own asset, is a result that was collected in
that batch's window, and is what signing its job gives.  A result leaves the
open batch for another one only when that one has the same asset, was complete
later and came in the same window.

As long as batches are taken, nothing that was complete is forgotten: the last
entry of an asset is the last complete signing of it.
-/

namespace PricePublisher

open Keyed (Ascending)

/-- A result is what signing its job gives. -/
def SignedJob.Succeeds (result : SignedJob) (signer : Signer) (oracle : String) : Prop :=
  result.job.selected.sign signer oracle = .ok result.signed

/-- The results that were collected, oldest first. -/
def LineHistory.collectedResults (history : LineHistory) : List SignedJob :=
  history.collected.map CollectedResult.result

/-- One history goes on from another one. -/
structure LineHistory.Continues (later history : LineHistory) : Prop where
  collected : history.collected <+: later.collected
  completed : history.completed <+: later.completed

/-- The result that made room was collected in the same window and complete before. -/
structure OverwrittenResult.Justified
    (overwritten : OverwrittenResult) (history : LineHistory) : Prop where
  same_asset : overwritten.old.signed.asset = overwritten.new.signed.asset
  old_collected : ⟨overwritten.window, overwritten.old⟩ ∈ history.collected
  new_collected : ⟨overwritten.window, overwritten.new⟩ ∈ history.collected
  later : ∃ before after, history.completed = before ++ overwritten.new :: after ∧
    overwritten.old ∈ before

/-- A batch holds results that were collected in a window, each under its asset. -/
structure JobBatch.CollectedIn
    (batch : JobBatch) (window : Nat) (history : LineHistory) : Prop where
  ascending : Ascending batch
  filed : ∀ entry ∈ batch, entry.1 = entry.2.signed.asset
  collected : ∀ entry ∈ batch, ⟨window, entry.2⟩ ∈ history.collected

section

variable {history later : LineHistory}

theorem OverwrittenResult.Justified.mono
    {overwritten : OverwrittenResult}
    (justified : overwritten.Justified history) (continues : later.Continues history) :
    overwritten.Justified later where
  same_asset := justified.same_asset
  old_collected := continues.collected.subset justified.old_collected
  new_collected := continues.collected.subset justified.new_collected
  later := by
    obtain ⟨before, after, completed, earlier⟩ := justified.later
    obtain ⟨more, grown⟩ := continues.completed
    refine ⟨before, after ++ more, ?_, earlier⟩
    rw [← grown, completed, List.append_assoc, List.cons_append]

theorem JobBatch.CollectedIn.mono
    {batch : JobBatch} {window : Nat}
    (collectedIn : batch.CollectedIn window history)
    (continues : later.Continues history) :
    batch.CollectedIn window later where
  ascending := collectedIn.ascending
  filed := collectedIn.filed
  collected := fun entry member =>
    continues.collected.subset (collectedIn.collected entry member)

theorem JobBatch.collectedIn_nil (window : Nat) (history : LineHistory) :
    JobBatch.CollectedIn [] window history where
  ascending := Keyed.ascending_nil
  filed := List.forall_mem_nil _
  collected := List.forall_mem_nil _

/-- A result that is collected goes under its asset, in the batch's window. -/
theorem JobBatch.CollectedIn.insert
    {batch : JobBatch} {window : Nat}
    (collectedIn : batch.CollectedIn window history) (result : SignedJob)
    (collected : ⟨window, result⟩ ∈ history.collected) :
    JobBatch.CollectedIn (Keyed.insert result.signed.asset result batch) window
      history where
  ascending := collectedIn.ascending.insert result.signed.asset result
  filed := by
    intro entry member
    rcases Keyed.mem_insert member with rfl | held
    · rfl
    · exact collectedIn.filed entry held
  collected := by
    intro entry member
    rcases Keyed.mem_insert member with rfl | held
    · exact collected
    · exact collectedIn.collected entry held

end

namespace SigningLine

variable
  {line next : SigningLine} {history later : LineHistory} {step : SigningStep}

theorem Effect.continues (effect : Effect line history step next later) :
    later.Continues history := by
  constructor
  · cases effect with
    | collected result rest waiting batching => exact List.prefix_append _ _
    | _ => exact List.prefix_refl _
  · cases effect with
    | passed worker result passing batching => exact List.prefix_append _ _
    | _ => exact List.prefix_refl _

/-! ## Entries stem from the window of their batch -/

/-- Results go into batches in order, and nothing but later results removes one. -/
structure Filed (line : SigningLine) (history : LineHistory) : Prop where
  in_order : ∃ lost,
    history.completed = history.collectedResults ++ (line.results ++ lost) ∧
      (line.isBatching = true ∨ line.hasConsumer = true → lost = [])
  batch : line.batch.CollectedIn line.window history
  batches : ∀ (index : Nat) (batch : JobBatch), line.batches[index]? = some batch →
    batch ≠ [] ∧ batch.CollectedIn index history
  overwritten : ∀ overwritten ∈ history.overwritten, overwritten.Justified history

/-- While batches are collected, what was complete has been or will be collected. -/
theorem Filed.completed_eq
    (filed : Filed line history)
    (kept : line.isBatching = true ∨ line.hasConsumer = true) :
    history.completed = history.collectedResults ++ line.results := by
  obtain ⟨lost, completed, none⟩ := filed.in_order
  rw [completed, none kept, List.append_nil]

theorem filed_start (signer : Signer) (oracle : String) (workers : Nat) :
    Filed (fresh signer oracle workers) .empty where
  in_order := ⟨[], rfl, fun _ => rfl⟩
  batch := JobBatch.collectedIn_nil _ _
  batches := by simp [fresh]
  overwritten := List.forall_mem_nil _

theorem Filed.in_order_effect
    (filed : Filed line history) (effect : Effect line history step next later) :
    ∃ lost, later.completed = later.collectedResults ++ (next.results ++ lost) ∧
      (next.isBatching = true ∨ next.hasConsumer = true → lost = []) := by
  cases effect with
  | passed worker result passing batching =>
      refine ⟨[], ?_, fun _ => rfl⟩
      change history.completed ++ [result] =
        history.collectedResults ++ (line.results ++ [result] ++ [])
      rw [filed.completed_eq (.inl batching), List.append_nil, List.append_assoc]
  | collected result rest waiting batching =>
      refine ⟨[], ?_, fun _ => rfl⟩
      have completed := filed.completed_eq (.inl batching)
      simp only [LineHistory.collectedResults] at completed
      simp [LineHistory.collectedResults, collectResult, completed, waiting]
  | finished batching ended emptied consumed =>
      refine ⟨[], ?_, fun _ => rfl⟩
      have completed := filed.completed_eq (.inl batching)
      simpa [withoutBatcher, emptied] using completed
  | lost step batching consumerGone =>
      obtain ⟨lost, completed, _⟩ := filed.in_order
      refine ⟨line.results ++ lost, completed, ?_⟩
      rintro (batching | consumed)
      · simp [withoutBatcher] at batching
      · simp [withoutBatcher, consumerGone] at consumed
  | loseConsumer =>
      obtain ⟨lost, completed, none⟩ := filed.in_order
      refine ⟨lost, completed, ?_⟩
      rintro (batching | consumed)
      · exact none (.inl batching)
      · simp at consumed
  | _ => exact filed.in_order

/-- The open batch becomes the last of the batches that were handed over. -/
theorem Filed.batches_withoutBatch
    (filed : Filed line history) (filled : line.batch ≠ [])
    {index : Nat} {batch : JobBatch}
    (found : line.withoutBatch.batches[index]? = some batch) :
    batch ≠ [] ∧ batch.CollectedIn index history := by
  rcases Positions.concat_cases found with ⟨rfl, rfl⟩ | before
  · exact ⟨filled, filed.batch⟩
  · exact filed.batches index batch before

/-- What the open batch gives up for a result makes room for it rightly. -/
theorem Filed.justified
    (filed : Filed line history) (batching : line.isBatching = true)
    {result : SignedJob} {rest : List SignedJob}
    (waiting : line.results = result :: rest)
    (collected : Effect line history step next later)
    (observed : later.collected = history.collected ++ [⟨line.window, result⟩])
    {overwritten : OverwrittenResult}
    (member : overwritten ∈ line.overwrittenBy result) :
    overwritten.Justified later := by
  simp only [overwrittenBy, List.mem_map, Option.mem_toList] at member
  obtain ⟨old, held, rfl⟩ := member
  have entry := Keyed.mem_of_get? held
  have old_collected := filed.batch.collected _ entry
  refine ⟨(filed.batch.filed _ entry).symm, ?_, ?_, ?_⟩
  · exact collected.continues.collected.subset old_collected
  · rw [observed]
    exact List.mem_append_right _ List.mem_cons_self
  · have completed := filed.completed_eq (.inl batching)
    obtain ⟨more, grown⟩ := collected.continues.completed
    refine ⟨history.collectedResults, rest ++ more, ?_, ?_⟩
    · rw [← grown, completed, waiting, List.append_assoc, List.cons_append]
    · exact List.mem_map_of_mem old_collected

theorem Filed.effect
    (filed : Filed line history) (effect : Effect line history step next later) :
    Filed next later where
  in_order := filed.in_order_effect effect
  batch := by
    have kept := filed.batch.mono effect.continues
    cases effect with
    | collected result rest waiting batching =>
        exact kept.insert result (List.mem_append_right _ List.mem_cons_self)
    | handedOver batching filled consumed => exact JobBatch.collectedIn_nil _ _
    | finished batching ended emptied consumed => exact JobBatch.collectedIn_nil _ _
    | lost step batching consumerGone => exact JobBatch.collectedIn_nil _ _
    | _ => exact kept
  batches := by
    intro index batch found
    have kept : line.batches[index]? = some batch →
        batch ≠ [] ∧ batch.CollectedIn index later := by
      intro found
      obtain ⟨filled, collectedIn⟩ := filed.batches index batch found
      exact ⟨filled, collectedIn.mono effect.continues⟩
    cases effect with
    | handedOver batching filled consumed =>
        exact filed.batches_withoutBatch filled found
    | finished batching ended emptied consumed =>
        by_cases filled : line.batch = []
        · simp only [filled, List.isEmpty_nil, if_true] at found
          exact kept found
        · simp only [List.isEmpty_iff, if_neg filled] at found
          exact filed.batches_withoutBatch filled found
    | _ => exact kept found
  overwritten := by
    have kept : ∀ overwritten ∈ history.overwritten, overwritten.Justified later :=
      fun overwritten member =>
        (filed.overwritten overwritten member).mono effect.continues
    cases effect with
    | collected result rest waiting batching =>
        intro overwritten member
        rcases List.mem_append.mp member with earlier | fresh
        · exact kept overwritten earlier
        · exact filed.justified batching waiting
            (.collected result rest waiting batching) rfl fresh
    | _ => exact kept

theorem Run.filed
    {signer : Signer} {oracle : String} {workers : Nat}
    (run : Run signer oracle workers line history) :
    Filed line history := by
  induction run with
  | start => exact filed_start signer oracle workers
  | step _ taken induction => exact induction.effect (effect_of_step? taken _)

/-! ## Results are what signing gives -/

/-- Results were signed by the signer of a line, and failures are its refusals. -/
structure Genuine
    (signer : Signer) (oracle : String) (line : SigningLine) (history : LineHistory) :
    Prop where
  signer_eq : line.signer = signer
  oracle_eq : line.oracle = oracle
  passing : ∀ (worker : Nat) (result : SignedJob),
    line.workers[worker]? = some (.passing result) → result.Succeeds signer oracle
  completed : ∀ result ∈ history.completed, result.Succeeds signer oracle
  failed : ∀ job ∈ history.failed,
    ∃ cause, job.selected.sign signer oracle = .error cause

theorem genuine_start (signer : Signer) (oracle : String) (workers : Nat) :
    Genuine signer oracle (fresh signer oracle workers) .empty where
  signer_eq := rfl
  oracle_eq := rfl
  passing := by
    intro worker result found
    obtain ⟨_, idle⟩ := List.getElem?_eq_some_iff.mp found
    simp [fresh] at idle
  completed := List.forall_mem_nil _
  failed := List.forall_mem_nil _

variable {signer : Signer} {oracle : String}

/-- A result that a worker holds is what signing its job gave. -/
theorem Genuine.passing_effect
    (genuine : Genuine signer oracle line history)
    (effect : Effect line history step next later)
    (worker : Nat) (result : SignedJob)
    (found : next.workers[worker]? = some (.passing result)) :
    result.Succeeds signer oracle := by
  have unchanged : ∀ {changed : Nat} {state : SigningWorker},
      state ≠ .passing result →
      (line.setWorker changed state).workers[worker]? = some (.passing result) →
      result.Succeeds signer oracle := by
    intro changed state other found
    rcases Positions.set_cases found with ⟨_, same⟩ | held
    · exact absurd same.symm other
    · exact genuine.passing worker result held
  cases effect with
  | take worker job rest idle queued => exact unchanged (by simp) found
  | signed worker job signed signing succeeds =>
      rcases Positions.set_cases found with ⟨_, same⟩ | held
      · cases same
        rw [genuine.signer_eq, genuine.oracle_eq] at succeeds
        exact succeeds
      · exact genuine.passing _ result held
  | failed worker job cause signing fails => exact unchanged (by simp) found
  | passed worker other passing batching => exact unchanged (by simp) found
  | stopped worker idle closed drained => exact unchanged (by simp) found
  | gaveUp worker other passing batcherGone => exact unchanged (by simp) found
  | finished batching ended emptied consumed =>
      refine genuine.passing worker result ?_
      rw [← found]
      split <;> rfl
  | _ => exact genuine.passing worker result found

theorem Genuine.effect
    (genuine : Genuine signer oracle line history)
    (effect : Effect line history step next later) :
    Genuine signer oracle next later where
  signer_eq := by
    cases effect with
    | finished batching ended emptied consumed =>
        rw [← genuine.signer_eq]
        split <;> rfl
    | _ => exact genuine.signer_eq
  oracle_eq := by
    cases effect with
    | finished batching ended emptied consumed =>
        rw [← genuine.oracle_eq]
        split <;> rfl
    | _ => exact genuine.oracle_eq
  passing := genuine.passing_effect effect
  completed := by
    cases effect with
    | passed worker result passing batching =>
        intro other member
        rcases List.mem_append.mp member with earlier | last
        · exact genuine.completed other earlier
        · rw [List.mem_singleton.mp last]
          exact genuine.passing worker result passing
    | _ => exact genuine.completed
  failed := by
    cases effect with
    | failed worker job cause signing fails =>
        intro other member
        rcases List.mem_append.mp member with earlier | last
        · exact genuine.failed other earlier
        · rw [List.mem_singleton.mp last]
          rw [genuine.signer_eq, genuine.oracle_eq] at fails
          exact ⟨cause, fails⟩
    | _ => exact genuine.failed

theorem Run.genuine
    {workers : Nat} (run : Run signer oracle workers line history) :
    Genuine signer oracle line history := by
  induction run with
  | start => exact genuine_start signer oracle workers
  | step _ taken induction => exact induction.effect (effect_of_step? taken _)

end SigningLine

end PricePublisher
