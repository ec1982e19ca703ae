import DetectorSim.Builtin.Payload
import DetectorSim.Module.Event

/-!
# Random samples

Samples of the distributions that the built-in modules need, made from the random
words of an event.  How they are made is left open: a sampler takes words, one after
the other, until it has its sample, and can do nothing else.  The modules are given
the samplers that they draw from.

A sampler comes to an end on all words.  One that rejects words until it finds a good
one has no end only on words that no sane generator yields, and is cut off there.
-/

set_option autoImplicit false

namespace DetectorSim.Builtin

/-! ## Samplers -/

/-- A way to make a sample from random words. -/
inductive Sampler (α : Type) where
  /-- The sample is there. -/
  | done (value : α)
  /-- One more word is needed. -/
  | word (next : UInt64 → Sampler α)

namespace Sampler

variable {κ ω α β : Type} [Payload κ]

/-- Go on with a sample. -/
def andThen : Sampler α → (α → Sampler β) → Sampler β
  | .done value, next => next value
  | .word rest, next => .word fun word => andThen (rest word) next

instance : Monad Sampler where
  pure := .done
  bind := andThen

/-- Draw a sample in an event. -/
def draw : Sampler α → EventCode κ ω α
  | .done value => .done value
  | .word next => .ask .draw fun word => draw (next word)

end Sampler

/-! ## Distributions -/

/-- A normal distribution. -/
structure Normal where
  mean : Float
  /-- The standard deviation. -/
  deviation : Float
  deriving Inhabited

namespace Normal

/-- A normal distribution, or the reason why there is none. -/
def make (mean deviation : Float) : Except String Normal :=
  if deviation.isFinite then .ok ⟨mean, deviation⟩
  else .error "variation parameter is non-finite in (log)normal distribution"

end Normal

/-- A Poisson distribution. -/
structure Poisson where
  mean : Float
  deriving Inhabited

namespace Poisson

/-- A Poisson distribution, or the reason why there is none. -/
def make (mean : Float) : Except String Poisson :=
  if 0.0 < mean then .ok ⟨mean⟩ else .error "lambda is not positive in Poisson distribution"

end Poisson

/-- How the distributions are sampled. -/
structure Samplers where
  /-- A number from zero up to a limit that is finite. -/
  below (limit : Float) : Sampler Float
  normal (normal : Normal) : Sampler Float
  /-- A count, as a number. -/
  poisson (poisson : Poisson) : Sampler Float

variable {κ ω : Type} [Payload κ]

/-- Draw a number from zero up to a limit, which has to be finite. -/
def sampleBelow (samplers : Samplers) (limit : Float) : EventCode κ ω Float :=
  if limit.isFinite then (samplers.below limit).draw
  else .panic "UniformSampler::sample_single called with `high` non-finite."

/-! ## Plain samplers -/

namespace Samplers

/-- A number from zero up to one, made from the upper bits of a word. -/
def fractionOf (word : UInt64) : Float :=
  (word >>> 11).toFloat / 9007199254740992.0

/-- A number from zero up to one. -/
def fraction : Sampler Float :=
  .word fun word => .done (fractionOf word)

/-- A number from zero up to a limit. -/
def scaled (limit : Float) : Sampler Float := do
  let fraction ← fraction
  let value := fraction * limit
  return if value < limit then value else 0.0

/-- A sample of the normal distribution around zero with deviation one, made
from two numbers between zero and one. -/
def standardOf (first second : Float) : Float :=
  Float.sqrt (-2.0 * Float.log (1.0 - first)) * Float.cos (6.283185307179586 * second)

/-- A sample of a normal distribution. -/
def ofNormal (normal : Normal) : Sampler Float := do
  let first ← fraction
  let second ← fraction
  return normal.mean + normal.deviation * standardOf first second

/-- Above this mean a Poisson sample is made from a normal distribution. -/
def greatestProductMean : Float := 30.0

/-- The greatest Poisson sample for a small mean. -/
def greatestProductCount : Nat := 1000

/-- How many fractions can be multiplied to a product until it is at most a
limit. -/
def countFactors (limit : Float) : Nat → Float → Nat → Sampler Nat
  | 0, _, count => .done count
  | fuel + 1, product, count => do
      let fraction ← fraction
      if product * fraction <= limit then .done count
      else countFactors limit fuel (product * fraction) (count + 1)

/-- A sample of a Poisson distribution. -/
def ofPoisson (poisson : Poisson) : Sampler Float :=
  if poisson.mean < greatestProductMean then do
    let count ← countFactors (Float.exp (-poisson.mean)) greatestProductCount 1.0 0
    return count.toFloat
  else do
    let value ← ofNormal ⟨poisson.mean + 0.5, Float.sqrt poisson.mean⟩
    return value.floor

/-- The samplers of the program. -/
def plain : Samplers :=
  ⟨scaled, ofNormal, ofPoisson⟩

end Samplers

end DetectorSim.Builtin
