import Mathlib.Tactic
import OptionChainSimulator.Domain.BoundedKernels
import OptionChainSimulator.Domain.ExactKernels
import OptionChainSimulator.Session.Horizon

namespace OptionChainSimulator.Session

open Utils Api Domain MachineWalker

/-! Which walks of an accepted model abort the process. -/

end OptionChainSimulator.Session
