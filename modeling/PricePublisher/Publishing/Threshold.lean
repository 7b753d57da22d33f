/-!
# Significant changes
-/

namespace PricePublisher

/--
Whether a value has changed by more than a proportion of what was last
reported.  From zero every change is significant.
-/
def exceedsThreshold (last current threshold : Float) : Bool :=
  if last == 0 then current != 0
  else ((current - last) / last).abs > threshold

end PricePublisher
