import Std.Data.HashMap
import GoSurvey.Fingerprint.Canonical

/-!
# Detecting repeated texts

Texts are kept in buckets by their hash. Whether a text came before is decided by the text itself,
so that equal hashes of different texts do no harm.
-/

namespace GoSurvey

/-- The distinct texts seen so far, by hash. -/
structure Detector where
  buckets : Std.HashMap UInt64 (List String)

namespace Detector

/-- Nothing seen yet. -/
def empty : Detector :=
  ⟨∅⟩

/-- The texts seen so far that have the given hash. -/
def bucket (d : Detector) (hash : UInt64) : List String :=
  d.buckets.getD hash []

/-- Whether a text has been seen, and the detector that has seen it. -/
def check (d : Detector) (text : String) : Bool × Detector :=
  let hash := rollingHash text
  let texts := d.bucket hash
  if text ∈ texts then (true, d)
  else (false, ⟨d.buckets.insert hash (texts ++ [text])⟩)

/-- The number of texts in all buckets together. -/
def size (d : Detector) : Nat :=
  d.buckets.fold (fun count _ texts => count + texts.length) 0

end Detector

end GoSurvey
