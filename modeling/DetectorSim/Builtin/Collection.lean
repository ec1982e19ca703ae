import DetectorSim.Builtin.Deposition
import DetectorSim.Builtin.Digitizer
import DetectorSim.Builtin.Propagation
import DetectorSim.Builtin.Writer

/-!
# The built-in collection

A chain of modules from deposited charges to written hits.
-/

set_option autoImplicit false

namespace DetectorSim.Builtin

variable {ω : Type} [HasWorkspace ω]

/-- The collection of the built-in modules. -/
def collection (samplers : Samplers) : Collection PayloadKind ω :=
  ⟨"builtin",
    [Deposition.descriptor samplers, Propagation.descriptor samplers,
      Digitizer.descriptor samplers, Writer.descriptor]⟩

/-- All collections that come with the program. -/
def collections : List (Collection PayloadKind ω) :=
  [collection .plain]

end DetectorSim.Builtin
