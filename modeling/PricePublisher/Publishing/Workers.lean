/-!
# Signing workers
-/

namespace PricePublisher

/-- The processors that each of several pipelines gets for signing, at least one. -/
def signingWorkerCount (processors pipelines : Nat) : Nat :=
  max 1 (processors / max 1 pipelines)

end PricePublisher
