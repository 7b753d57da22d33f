import PricePublisher.Decimal.ToFloat
import PricePublisher.Keyed
import PricePublisher.Price.Update
import PricePublisher.Publishing.Threshold

/-!
# The trigger engine

The engine keeps the latest update of each asset and the value that was last
reported for it by a delta check.  A delta check selects the assets whose value
has never been reported or has changed enough since; a clock tick selects all
assets and leaves the reported values alone.
-/

namespace PricePublisher

/-- Latest updates and reported values, each under the asset's name. -/
structure TriggerEngine where
  /-- The relative change that makes a value significant. -/
  threshold : Float
  /-- Whether each update is signed as soon as it is recorded. -/
  signsEveryUpdate : Bool
  latest : List (String × PriceUpdate)
  reported : List (String × Float)

namespace TriggerEngine

/-- The engine that has seen no update. -/
def fresh (threshold : Float) (signsEveryUpdate : Bool) : TriggerEngine :=
  ⟨threshold, signsEveryUpdate, [], []⟩

/-- Keep an update as the latest of its asset. -/
def record (engine : TriggerEngine) (update : PriceUpdate) : TriggerEngine :=
  { engine with latest := Keyed.insert update.asset update engine.latest }

/-- The updates that are signed because one has just been recorded. -/
def immediate (engine : TriggerEngine) (update : PriceUpdate) : List TriggeredUpdate :=
  if engine.signsEveryUpdate then [⟨update, .unspecified⟩] else []

/-- Whether an asset with the given latest value is due for a delta report. -/
def isSignificant (engine : TriggerEngine) (asset : String) (value : Decimal) : Bool :=
  match Keyed.get? engine.reported asset with
  | none => true
  | some last => exceedsThreshold last value.toFloat engine.threshold

/-- The latest updates that are due for a delta report. -/
def significant (engine : TriggerEngine) : List (String × PriceUpdate) :=
  engine.latest.filter fun (asset, update) => engine.isSignificant asset update.value

/-- The engine after its significant updates have been reported. -/
def report (engine : TriggerEngine) : TriggerEngine :=
  { engine with
    reported := engine.significant.foldl
      (fun reported (asset, update) => Keyed.insert asset update.value.toFloat reported)
      engine.reported }

/-- Select what has changed enough, and take it as reported. -/
def deltaCheck (engine : TriggerEngine) : List TriggeredUpdate × TriggerEngine :=
  (engine.significant.map fun (_, update) => ⟨update, .delta⟩, engine.report)

/-- Select every asset, stamped with the given time. -/
def clockTick (engine : TriggerEngine) (now : Int) : List TriggeredUpdate :=
  engine.latest.map fun (_, update) => ⟨{ update with timestamp := now }, .clock⟩

/-- How many assets have been seen. -/
def trackedCount (engine : TriggerEngine) : Nat :=
  engine.latest.length

end TriggerEngine

end PricePublisher
