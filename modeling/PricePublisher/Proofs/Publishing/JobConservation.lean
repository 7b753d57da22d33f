import Mathlib.Data.List.Count
import Mathlib.Data.List.Pairwise
import PricePublisher.Proofs.Keyed
import PricePublisher.Proofs.Positions
import PricePublisher.Proofs.Publishing.LineHistory

/-!
# No job is lost or doubled

Every job that a signing line has accepted is in exactly one place: in the
queue, with one worker, among the results, in the open batch, in one of the
batches that were handed over, or among those that failed, made room for
another or were lost with a batcher without consumer.

The invariant behind this counts: all places together hold each accepted job
once.  A step moves jobs from one place to another, so the counts of two places
change against each other and all others stay.
-/

namespace PricePublisher

open Keyed (Ascending)

namespace SigningLine

/-! ## Counting jobs -/

/-- The jobs in all places. -/
def allJobs (line : SigningLine) (history : LineHistory) : List Job :=
  line.queue ++ line.workers.flatMap SigningWorker.jobs
    ++ line.results.map SignedJob.job ++ line.batch.jobs
    ++ line.batches.flatMap JobBatch.jobs ++ history.failed
    ++ history.overwritten.map (fun overwritten => overwritten.old.job)
    ++ history.abandoned

/-- The accepted jobs are numbered, and all places together hold each of them once. -/
structure Conserved (line : SigningLine) (history : LineHistory) : Prop where
  numbered : history.accepted.map Job.number = List.range line.accepted
  batch_ascending : Ascending line.batch
  perm : (line.allJobs history).Perm history.accepted

section

open scoped Classical in
/-- A result that is put into a batch takes the place of what it overwrites. -/
theorem count_collectResult
    {line : SigningLine} (ascending : Ascending line.batch)
    (result : SignedJob) (job : Job) :
    (JobBatch.jobs (Keyed.insert result.signed.asset result line.batch)).count job +
        ((line.overwrittenBy result).map fun overwritten =>
          overwritten.old.job).count job =
      line.batch.jobs.count job + [result.job].count job := by
  have inserted :=
    ((ascending.insert_perm result.signed.asset result).map
      fun entry => entry.2.job).count_eq job
  have split :=
    ((ascending.perm_erase result.signed.asset).map
      fun entry => entry.2.job).count_eq job
  simp only [List.map_cons, List.map_append, List.map_map, List.count_append,
    List.count_cons, List.count_nil] at inserted split ⊢
  simp only [JobBatch.jobs, overwrittenBy, List.map_map, Function.comp_def] at *
  omega

theorem conserved_start (signer : Signer) (oracle : String) (workers : Nat) :
    Conserved (fresh signer oracle workers) .empty where
  numbered := rfl
  batch_ascending := Keyed.ascending_nil
  perm := by
    have idle : (List.replicate workers SigningWorker.idle).flatMap
        SigningWorker.jobs = [] := by
      simp [SigningWorker.jobs]
    simp [allJobs, fresh, LineHistory.empty, JobBatch.jobs, idle]

variable
  {line next : SigningLine} {history later : LineHistory} {step : SigningStep}

open scoped Classical in
/-- A step moves jobs between places. -/
theorem Conserved.perm_effect
    (conserved : Conserved line history)
    (effect : Effect line history step next later) :
    (next.allJobs later).Perm later.accepted := by
  refine List.perm_iff_count.mpr fun job => ?_
  have counted := conserved.perm.count_eq job
  simp only [allJobs, List.count_append] at counted ⊢
  cases effect with
  | accept selected isOpen =>
      simp only [SigningLine.accept, List.count_append]
      omega
  | closeQueue => exact counted
  | take worker taken rest idle queued =>
      have moved := Positions.count_flatMap_set SigningWorker.jobs idle (.signing taken) job
      simp only [setWorker, SigningWorker.jobs, queued, List.count_cons,
        List.count_nil] at moved counted ⊢
      omega
  | signed worker taken signed signing succeeds =>
      have moved := Positions.count_flatMap_set SigningWorker.jobs signing
        (.passing ⟨taken, signed⟩) job
      simp only [setWorker, SigningWorker.jobs] at moved ⊢
      omega
  | failed worker taken cause signing fails =>
      have moved := Positions.count_flatMap_set SigningWorker.jobs signing .idle job
      simp only [setWorker, SigningWorker.jobs, List.count_append,
        List.count_nil] at moved ⊢
      omega
  | passed worker result passing batching =>
      have moved := Positions.count_flatMap_set SigningWorker.jobs passing .idle job
      simp only [setWorker, SigningWorker.jobs, List.map_append, List.map_cons,
        List.map_nil, List.count_append, List.count_nil] at moved ⊢
      omega
  | stopped worker idle closed drained =>
      have moved := Positions.count_flatMap_set SigningWorker.jobs idle .stopped job
      simp only [setWorker, SigningWorker.jobs] at moved ⊢
      omega
  | gaveUp worker result passing batcherGone =>
      have moved := Positions.count_flatMap_set SigningWorker.jobs passing .stopped job
      simp only [setWorker, SigningWorker.jobs, List.count_append,
        List.count_nil] at moved ⊢
      omega
  | collected result rest waiting batching =>
      have moved := count_collectResult conserved.batch_ascending result job
      simp only [collectResult, waiting, List.map_cons, List.map_append,
        List.count_append, List.count_cons, List.count_nil] at moved counted ⊢
      omega
  | handedOver batching filled consumed =>
      simp only [withoutBatch, JobBatch.jobs, List.flatMap_append,
        List.flatMap_cons, List.flatMap_nil, List.map_nil, List.count_append,
        List.count_nil] at counted ⊢
      omega
  | finished batching ended emptied consumed =>
      by_cases filled : line.batch = []
      · simp only [filled, List.isEmpty_nil, if_true, withoutBatcher, emptied,
          JobBatch.jobs, List.map_nil, List.count_nil] at counted ⊢
        omega
      · simp only [List.isEmpty_iff, if_neg filled, withoutBatcher, withoutBatch,
          emptied, JobBatch.jobs, List.flatMap_append, List.flatMap_cons,
          List.flatMap_nil, List.map_nil, List.count_append, List.count_nil]
          at counted ⊢
        omega
  | lost step batching consumerGone =>
      simp only [withoutBatcher, batcherJobs, JobBatch.jobs, List.map_nil,
        List.count_append, List.count_nil] at counted ⊢
      omega
  | loseConsumer => exact counted

theorem Conserved.effect
    (conserved : Conserved line history)
    (effect : Effect line history step next later) :
    Conserved next later where
  numbered := by
    have numbered := conserved.numbered
    cases effect with
    | accept selected isOpen =>
        simp [SigningLine.accept, List.range_succ, numbered]
    | finished batching ended emptied consumed =>
        rw [numbered]
        split <;> rfl
    | _ => exact numbered
  batch_ascending := by
    have ascending := conserved.batch_ascending
    cases effect with
    | collected result rest waiting batching =>
        exact ascending.insert result.signed.asset result
    | handedOver batching filled consumed => exact Keyed.ascending_nil
    | finished batching ended emptied consumed => exact Keyed.ascending_nil
    | lost step batching consumerGone => exact Keyed.ascending_nil
    | _ => exact ascending
  perm := conserved.perm_effect effect

end

theorem Run.conserved
    {signer : Signer} {oracle : String} {workers : Nat}
    {line : SigningLine} {history : LineHistory}
    (run : Run signer oracle workers line history) :
    Conserved line history := by
  induction run with
  | start => exact conserved_start signer oracle workers
  | step _ taken induction => exact induction.effect (effect_of_step? taken _)

/-! ## One place for each job -/

/-- A place where an accepted job can be. -/
inductive JobPlace where
  | queued
  | held (worker : Nat)
  /-- Its result waits to be collected. -/
  | signed
  | openBatch
  | handedOver (batch : Nat)
  | failed
  | overwritten
  | abandoned
deriving DecidableEq, Repr

/-- The jobs in a place. -/
def jobsAt (line : SigningLine) (history : LineHistory) : JobPlace → List Job
  | .queued => line.queue
  | .held worker => (line.workers[worker]?).elim [] SigningWorker.jobs
  | .signed => line.results.map SignedJob.job
  | .openBatch => line.batch.jobs
  | .handedOver batch => (line.batches[batch]?).elim [] JobBatch.jobs
  | .failed => history.failed
  | .overwritten => history.overwritten.map fun overwritten => overwritten.old.job
  | .abandoned => history.abandoned

/-- The places that a line has. -/
def places (line : SigningLine) : List JobPlace :=
  .queued :: (List.range line.workers.length).map .held ++ [.signed, .openBatch]
    ++ (List.range line.batches.length).map .handedOver
    ++ [.failed, .overwritten, .abandoned]

/-- The jobs in all places are those of one place after another. -/
theorem flatMap_places (line : SigningLine) (history : LineHistory) :
    line.places.flatMap (line.jobsAt history) = line.allJobs history := by
  have held := Positions.flatMap_positions SigningWorker.jobs line.workers
  have handedOver := Positions.flatMap_positions JobBatch.jobs line.batches
  simp [places, allJobs, jobsAt, List.flatMap_append, List.flatMap_map, held,
    handedOver]

/-- A place that the line does not have holds no job. -/
theorem mem_places
    {line : SigningLine} {history : LineHistory} {place : JobPlace} {job : Job}
    (placed : job ∈ line.jobsAt history place) :
    place ∈ line.places := by
  cases place with
  | held worker =>
      have inRange : worker < line.workers.length := by
        by_contra beyond
        simp [jobsAt, List.getElem?_eq_none (Nat.le_of_not_lt beyond)] at placed
      simp [places, inRange]
  | handedOver batch =>
      have inRange : batch < line.batches.length := by
        by_contra beyond
        simp [jobsAt, List.getElem?_eq_none (Nat.le_of_not_lt beyond)] at placed
      simp [places, inRange]
  | _ => simp [places]

variable {line : SigningLine} {history : LineHistory}

theorem Conserved.accepted_nodup (conserved : Conserved line history) :
    history.accepted.Nodup := by
  refine List.Nodup.of_map Job.number ?_
  rw [conserved.numbered]
  exact List.nodup_range

theorem Conserved.nodup (conserved : Conserved line history) :
    (line.places.flatMap (line.jobsAt history)).Nodup := by
  rw [flatMap_places]
  exact conserved.perm.nodup_iff.mpr conserved.accepted_nodup

/-- The places hold accepted jobs only. -/
theorem Conserved.accepted_of_placed
    (conserved : Conserved line history)
    {place : JobPlace} {job : Job}
    (placed : job ∈ line.jobsAt history place) :
    job ∈ history.accepted := by
  have somewhere : job ∈ line.places.flatMap (line.jobsAt history) :=
    List.mem_flatMap.mpr ⟨place, mem_places placed, placed⟩
  rw [flatMap_places] at somewhere
  exact conserved.perm.mem_iff.mp somewhere

/-- No job is twice in a place. -/
theorem Conserved.nodup_jobsAt
    (conserved : Conserved line history) (place : JobPlace) :
    (line.jobsAt history place).Nodup := by
  by_cases known : place ∈ line.places
  · exact (List.nodup_flatMap.mp conserved.nodup).1 place known
  · have empty : line.jobsAt history place = [] :=
      List.eq_nil_iff_forall_not_mem.mpr fun job placed => known (mem_places placed)
    rw [empty]
    exact List.nodup_nil

/-- No job is in two places. -/
theorem Conserved.place_unique
    (conserved : Conserved line history)
    {place other : JobPlace} {job : Job}
    (placed : job ∈ line.jobsAt history place)
    (also : job ∈ line.jobsAt history other) :
    place = other := by
  by_contra different
  have apart := (List.nodup_flatMap.mp conserved.nodup).2
  have symmetric : Std.Symm (Function.onFun List.Disjoint (line.jobsAt history)) :=
    ⟨fun _ _ disjoint _ first second => disjoint second first⟩
  exact apart.forall (mem_places placed) (mem_places also) different placed also

/-- Every accepted job is in exactly one place. -/
theorem Conserved.existsUnique_place
    (conserved : Conserved line history)
    {job : Job} (accepted : job ∈ history.accepted) :
    ∃! place, job ∈ line.jobsAt history place := by
  have somewhere : job ∈ line.places.flatMap (line.jobsAt history) := by
    rw [flatMap_places]
    exact conserved.perm.mem_iff.mpr accepted
  obtain ⟨place, _, placed⟩ := List.mem_flatMap.mp somewhere
  refine ⟨place, placed, ?_⟩
  intro other also
  exact conserved.place_unique also placed

end SigningLine

end PricePublisher
