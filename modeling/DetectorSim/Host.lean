import DetectorSim.Random

/-!
# The machine

What a run takes from the machine that it is on.  Everything else that a run
does follows from the configuration.
-/

set_option autoImplicit false

namespace DetectorSim

/-- The machine that a run is on. -/
structure Host where
  /-- The number of workers that it can keep busy. -/
  processors : Nat
  /-- A seed for runs that set none. -/
  entropy : Nat
  /-- Where random words come from. -/
  source : RandomSource

end DetectorSim
