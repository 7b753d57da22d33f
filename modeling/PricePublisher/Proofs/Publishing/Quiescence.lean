import PricePublisher.Proofs.Decimal.ToFloat
import PricePublisher.Proofs.Publishing.DeltaBaseline
import PricePublisher.Proofs.Settings.Threshold

/-!
# Delta checks come to rest

A delta check takes what it selects as reported.  A second check before anything else is
recorded must select nothing, or every asset would be signed anew on each tick.  What the
first check selected has not changed since it was reported, and what it passed over is
compared with the same value again.

The first half rests on arithmetic: a finite number differs from itself by zero, and zero
is above no threshold that settings can lead to, even if the threshold itself is rounded
to zero.
-/

namespace PricePublisher

open Float.Model UnpackedFloat Floating Settings

/-! ## The change of a number from itself -/

namespace Floating

theorem sub_self_of_finite {parts : UnpackedFloat} (finite : parts.isFinite = true) :
    UnpackedFloat.sub .binary64 parts parts = .zero .positive := by
  cases parts with
  | zero sign => cases sign <;> rfl
  | finite sign mantissa exponent positive =>
      rw [UnpackedFloat.sub]
      simp only [Int.sub_self]
      rfl
  | infinity sign => cases finite
  | notANumber => cases finite

/-- A finite number other than zero differs from itself by no proportion of it. -/
theorem abs_sub_self_div_self {number : Float} (finite : number.isFinite = true)
    (nonzero : (number == 0) = false) : ((number - number) / number).abs = 0 := by
  rw [zero_eq_ofModel] at nonzero ⊢
  rcases number with ⟨model⟩
  change model.unpack.isFinite = true at finite
  change model.unpack.beq (.zero .positive) = false at nonzero
  change Float.ofModel (Float.Model.pack (Float.Model.pack (UnpackedFloat.div .binary64
    (Float.Model.pack (UnpackedFloat.sub .binary64 model.unpack model.unpack)).unpack
    model.unpack)).unpack.abs) = _
  rw [sub_self_of_finite finite]
  generalize model.unpack = parts at finite nonzero
  cases parts with
  | zero sign => cases nonzero
  | finite sign mantissa exponent positive =>
      rw [unpack_pack_zero, UnpackedFloat.div, unpack_pack_zero]
      rfl
  | infinity sign => cases finite
  | notANumber => cases finite

end Floating

/-- No value has changed from itself. -/
theorem exceedsThreshold_self {number threshold : Float} (finite : number.isFinite = true)
    (nonneg : ¬ threshold < 0) : exceedsThreshold number number threshold = false := by
  rw [exceedsThreshold]
  split
  next zero => rw [bne, zero]; rfl
  next nonzero =>
    rw [abs_sub_self_div_self finite (eq_false_of_ne_true nonzero)]
    exact decide_eq_false nonneg

/-! ## Checks in a row -/

namespace TriggerEngine

variable {engine : TriggerEngine} {calls : List Call} {answers : List (List TriggeredUpdate)}

/-- What has been selected is not significant right after it has been reported. -/
theorem Remembers.isSignificant_report_of_mem
    (remembers : Remembers engine calls answers) (nonneg : ¬ engine.threshold < 0)
    {asset : String} {update : PriceUpdate} (selected : (asset, update) ∈ engine.significant) :
    engine.report.isSignificant asset update.value = false := by
  have found := remembers.significant_ascending.mem_iff.mp selected
  have reported : Keyed.get? engine.report.reported asset = some update.value.toFloat := by
    rw [get?_report remembers.significant_ascending.keys_nodup, found]
    rfl
  rw [isSignificant, reported]
  exact exceedsThreshold_self update.value.isFinite_toFloat nonneg

/-- What has been passed over is measured from the same value as before. -/
theorem Remembers.isSignificant_report_of_passed
    (remembers : Remembers engine calls answers)
    {asset : String} {update : PriceUpdate} (latest : (asset, update) ∈ engine.latest)
    (passed : engine.isSignificant asset update.value = false) :
    engine.report.isSignificant asset update.value = false := by
  have absent : Keyed.get? engine.significant asset = none := by
    rw [Option.eq_none_iff_forall_ne_some]
    intro other found
    obtain ⟨kept, significant⟩ := List.mem_filter.mp (Keyed.mem_of_get? found)
    have same := (remembers.latest_ascending.mem_iff.mp kept).symm.trans
      (remembers.latest_ascending.mem_iff.mp latest)
    cases same
    exact Bool.false_ne_true (passed.symm.trans significant)
  have reported : Keyed.get? engine.report.reported asset = Keyed.get? engine.reported asset := by
    rw [get?_report remembers.significant_ascending.keys_nodup, absent]
    rfl
  rw [isSignificant, reported]
  exact passed

/-- Once an engine has reported what is significant, nothing is. -/
theorem Remembers.significant_report
    (remembers : Remembers engine calls answers) (nonneg : ¬ engine.threshold < 0) :
    engine.report.significant = [] := by
  rw [significant, List.filter_eq_nil_iff]
  rintro ⟨asset, update⟩ latest
  rw [Bool.not_eq_true]
  cases significant : engine.isSignificant asset update.value with
  | true =>
      exact remembers.isSignificant_report_of_mem nonneg (List.mem_filter.mpr ⟨latest, significant⟩)
  | false => exact remembers.isSignificant_report_of_passed latest significant

/-- A check that selects nothing changes nothing. -/
theorem deltaCheck_of_significant_eq_nil (rests : engine.significant = []) :
    engine.deltaCheck = ([], engine) := by
  rw [deltaCheck, report, rests]
  rfl

/-- An engine at rest stays as it is until something is recorded. -/
theorem afterAll_of_silent (rests : engine.significant = [])
    (silent : ∀ call ∈ calls, call.recorded? = none) : engine.afterAll calls = engine := by
  induction calls with
  | nil => rfl
  | cons call rest induction =>
      have same : engine.after call = engine := by
        cases call with
        | record update => cases silent (.record update) List.mem_cons_self
        | checkDelta => rw [after, deltaCheck_of_significant_eq_nil rests]
        | tickClock now => rfl
      change (engine.after call).afterAll rest = engine
      rw [same]
      exact induction fun other member => silent other (List.mem_cons_of_mem _ member)

/--
Whatever an engine with the threshold of some settings has been through, once it has checked
for changes, another check selects nothing and leaves the engine as it is, however often the
clock has ticked in between, or checks were made, as long as nothing was recorded.
-/
theorem deltaCheck_at_rest
    {file : SettingsFile} {keys : KeysFile} {settings : CheckedSettings}
    (resolved : Settings.resolve file keys = .ok settings)
    (signsEveryUpdate : Bool) (calls : List Call) {between : List Call}
    (silent : ∀ call ∈ between, call.recorded? = none) :
    let start := fresh settings.changeThreshold signsEveryUpdate
    let checked := (start.afterAll calls).after .checkDelta
    (checked.afterAll between).deltaCheck = ([], checked) ∧ checked.afterAll between = checked := by
  intro start checked
  have remembers : Remembers (start.afterAll calls) calls (start.answers calls) :=
    remembers_afterAll settings.changeThreshold signsEveryUpdate calls
  have nonneg : ¬ (start.afterAll calls).threshold < 0 := by
    rw [threshold_afterAll]
    exact Settings.not_neg_of_resolve resolved
  have rests : checked.significant = [] := remembers.significant_report nonneg
  have same := afterAll_of_silent rests silent
  exact ⟨by rw [same, deltaCheck_of_significant_eq_nil rests], same⟩

/-- Settings whose threshold is so small that it is rounded to zero. -/
def leastThreshold : SettingsFile where
  schemes := [.evm]
  changeThresholdPercent := some 5e-324
  registryUrl := some "https://registry.example"
  incomingPort := 8080

/-- Keys for those settings. -/
def leastThresholdKeys : KeysFile where
  evmPrivateKey := some "0x1"
  evmPublicKey := some "0x2"
  oracle := some "short"

/-- An update of an asset with a value of one decimal place. -/
def updateInTenths (asset : String) (negative : Bool) (tenths : Nat) : PriceUpdate where
  timestamp := 0
  asset := asset
  value := (Decimal.ofParts? negative tenths 1).getD .zero
  metadata := none

/-- Updates of a value that stays, one that becomes zero, and a negative one. -/
def mixedCalls : List Call :=
  [.record (updateInTenths "A" false 13), .record (updateInTenths "B" false 1), .checkDelta,
    .record (updateInTenths "A" false 13), .record (updateInTenths "B" false 0), .tickClock 1,
    .record (updateInTenths "C" true 27)]

theorem deltaCheck_at_rest_leastThreshold :
    ∃ settings, Settings.resolve leastThreshold leastThresholdKeys = .ok settings ∧
      (settings.changeThreshold == 0) = true ∧
      (∀ call ∈ [Call.tickClock 2, .tickClock 3], call.recorded? = none) ∧
      let start := fresh settings.changeThreshold false
      let checked := (start.afterAll mixedCalls).after .checkDelta
      (checked.afterAll [.tickClock 2, .tickClock 3]).deltaCheck = ([], checked) ∧
        checked.afterAll [.tickClock 2, .tickClock 3] = checked := by
  have silent : ∀ call ∈ [Call.tickClock 2, .tickClock 3], call.recorded? = none := by
    simp [Call.recorded?]
  have vanishes : (Settings.resolve leastThreshold leastThresholdKeys).toOption.any
      (fun settings => settings.changeThreshold == 0) = true := by decide +kernel
  cases resolved : Settings.resolve leastThreshold leastThresholdKeys with
  | error complaint =>
      rw [resolved] at vanishes
      cases vanishes
  | ok settings =>
      rw [resolved] at vanishes
      exact ⟨settings, rfl, vanishes, silent,
        deltaCheck_at_rest resolved false mixedCalls silent⟩

end TriggerEngine

end PricePublisher
