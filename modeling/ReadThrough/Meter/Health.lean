import ReadThrough.Quantity
import ReadThrough.Decimal.Notation

/-! Health verdicts. Each measure gives at most one remark: an issue when a threshold is breached, a
warning when it is near. -/
namespace ReadThrough

structure Thresholds (τ : Type) where
  minHitRate : τ
  maxFill : τ
  maxEvictions : τ
  maxInvalidations : τ
  minSamples : Int
  deriving Repr

structure Readings (τ : Type) where
  lookups : Int
  hitRate : τ
  size : Int
  capacity : Int
  evictions : τ
  invalidations : τ
  deriving Repr

inductive Measure where
  | hitRate
  | fill
  | evictions
  | invalidations
  deriving DecidableEq, Repr

structure Remark where
  measure : Measure
  breach : Bool
  text : String
  deriving DecidableEq, Repr

namespace Thresholds
variable {τ : Type} [Quantity τ]

def percent (places : Nat) (x : τ) : String :=
  Decimal.percentText places (Quantity.toNumber x).toFloat

def judgeHitRate (t : Thresholds τ) (r : Readings τ) : Option Remark :=
  if r.lookups < t.minSamples then none
  else if r.hitRate < t.minHitRate then
    some ⟨.hitRate, true,
      "hit rate " ++ percent 2 r.hitRate ++ " below minimum " ++ percent 2 t.minHitRate⟩
  else if r.hitRate < Quantity.least (Quantity.ratio 1 1) (t.minHitRate + Quantity.ratio 1 10) then
    some ⟨.hitRate, false,
      "hit rate " ++ percent 2 r.hitRate ++ " close to minimum " ++ percent 2 t.minHitRate⟩
  else none

def judgeFill (t : Thresholds τ) (r : Readings τ) : Option Remark :=
  if r.capacity = 0 then none
  else
    let fill : τ := Quantity.quotient (Quantity.ofInt r.size) (Quantity.ofInt r.capacity)
    let share := "cache size " ++ toString r.size ++ "/" ++ toString r.capacity
    if t.maxFill < fill then
      some ⟨.fill, true, share ++ " above " ++ percent 0 t.maxFill ++ " of capacity"⟩
    else if t.maxFill * Quantity.ratio 8 10 < fill then
      some ⟨.fill, false, share ++ " approaching " ++ percent 0 t.maxFill ++ " of capacity"⟩
    else none

def judgeRate (measure : Measure) (label : String) (rate ceiling : τ) : Option Remark :=
  let shown := label ++ " rate " ++ Decimal.fixedText 1 (Quantity.toNumber rate).toFloat ++ "/min "
  let limit := Decimal.briefText (Quantity.toNumber ceiling).toFloat ++ "/min"
  if ceiling < rate then some ⟨measure, true, shown ++ "above " ++ limit⟩
  else if !Quantity.isZero ceiling && decide (ceiling * Quantity.ratio 8 10 < rate) then
    some ⟨measure, false, shown ++ "approaching " ++ limit⟩
  else none

def judge (t : Thresholds τ) (r : Readings τ) : List Remark :=
  (t.judgeHitRate r).toList ++ (t.judgeFill r).toList ++
    (judgeRate .evictions "eviction" r.evictions t.maxEvictions).toList ++
    (judgeRate .invalidations "invalidation" r.invalidations t.maxInvalidations).toList

end Thresholds

namespace Remark

def issues (remarks : List Remark) : List String :=
  (remarks.filter (·.breach)).map (·.text)

def warnings (remarks : List Remark) : List String :=
  (remarks.filter (fun r => !r.breach)).map (·.text)

def healthy (remarks : List Remark) : Bool := remarks.all (fun r => !r.breach)

end Remark

end ReadThrough
