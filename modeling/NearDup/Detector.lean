import NearDup.EditDistance
import NearDup.Normalizer

/-! Near-duplicate texts: those whose normal forms are similar enough. -/

namespace NearDup

/-- A threshold outside the range from zero to one. -/
structure BadThreshold where
  value : Float

/-- Whether a score can be asked to reach the threshold. -/
def isThreshold (threshold : Float) : Bool :=
  threshold.isFinite && 0.0 ≤ threshold && threshold ≤ 1.0

/-- Compares texts by their normal forms, and takes those that score at least `threshold` for near
duplicates. -/
structure Detector where
  threshold : Float
  normalizer : Normalizer

namespace Detector

def ofThreshold? (threshold : Float) (normalizer : Normalizer) : Except BadThreshold Detector :=
  if isThreshold threshold then .ok ⟨threshold, normalizer⟩ else .error ⟨threshold⟩

def compare (d : Detector) (a b : String) : Float :=
  EditCosts.unit.similarity (d.normalizer.normalize a) (d.normalizer.normalize b)

def isSimilar (d : Detector) (a b : String) : Bool :=
  d.threshold ≤ d.compare a b

end Detector

end NearDup
