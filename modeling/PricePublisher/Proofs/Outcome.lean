/-!
# Steps that may fail

Steps that are taken one after the other succeed if each of them does, on what the ones
before it return.
-/

namespace PricePublisher.Outcome

variable {ε δ α β : Type} {result : β}

theorem bind_eq_ok_iff {step : Except ε α} {rest : α → Except ε β} :
    step >>= rest = .ok result ↔ ∃ value, step = .ok value ∧ rest value = .ok result := by
  constructor
  · intro ran
    cases step with
    | error cause => cases ran
    | ok value => exact ⟨value, rfl, ran⟩
  · rintro ⟨value, rfl, ran⟩
    exact ran

theorem check_bind_eq_ok_iff {check : Except ε Unit} {rest : Unit → Except ε β} :
    check >>= rest = .ok result ↔ check = .ok () ∧ rest () = .ok result :=
  bind_eq_ok_iff.trans ⟨fun ⟨_, ran⟩ => ran, fun ran => ⟨(), ran⟩⟩

/-- What comes behind a complaint is reached if its condition fails. -/
theorem complain_eq_ok_iff {condition : Prop} [Decidable condition] {cause : ε}
    {rest : PUnit → Except ε β} :
    (if condition then throw cause >>= rest else rest ⟨⟩) = .ok result ↔
      ¬ condition ∧ rest ⟨⟩ = .ok result := by
  split
  next holds => exact iff_of_false (fun ran => by cases ran) fun ran => ran.1 holds
  next fails => exact (and_iff_right fails).symm

theorem mapError_eq_ok_iff {step : Except ε β} {rename : ε → δ} :
    step.mapError rename = .ok result ↔ step = .ok result := by
  cases step with
  | error cause => exact iff_of_false (fun same => by cases same) fun same => by cases same
  | ok value =>
      show (Except.ok value : Except δ β) = .ok result ↔ (Except.ok value : Except ε β) = .ok result
      rw [Except.ok.injEq, Except.ok.injEq]

theorem exists_ok_of_isSome {answer : Except ε α} (succeeds : answer.toOption.isSome = true) :
    ∃ value, answer = .ok value := by
  cases answer with
  | error cause => cases succeeds
  | ok value => exact ⟨value, rfl⟩

end PricePublisher.Outcome
