import PricePublisher.Proofs.Settings.Acceptance

/-!
# Thresholds of settings

A threshold in percent is checked before it becomes a proportion: it is finite and not
negative.  Dividing it by a hundred may round it to zero, but not below.
-/

namespace PricePublisher.Settings

open Floating

theorem not_neg_percentOrDefault {given : Option Float}
    (accepted : ∀ percent, given = some percent → percent.isFinite = true ∧ ¬ percent < 0) :
    ¬ percentOrDefault given / 100 < 0 := by
  have default : ¬ Default.changeThresholdPercent / 100 < 0 := by decide +kernel
  have hundred : (100 : Float).toModel.unpack =
      .finite .positive 7036874417766400 (-46) (by decide) := by rfl
  cases given with
  | none => exact default
  | some percent =>
      rw [percentOrDefault]
      split
      next => exact default
      next nonzero =>
        obtain ⟨finite, nonneg⟩ := accepted percent rfl
        obtain ⟨mantissa, exponent, positive, parts⟩ :=
          exists_parts_of_pos finite (eq_false_of_ne_true nonzero) nonneg
        exact not_div_neg parts hundred

/-- No settings have a negative threshold. -/
theorem not_neg_of_resolve {file : SettingsFile} {keys : KeysFile} {settings : CheckedSettings}
    (resolved : resolve file keys = .ok settings) : ¬ settings.changeThreshold < 0 := by
  obtain ⟨acceptable, url, -, rfl⟩ := resolve_eq_ok_iff.mp resolved
  exact not_neg_percentOrDefault acceptable.threshold

end PricePublisher.Settings
