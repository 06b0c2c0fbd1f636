import Mathlib.Tactic

namespace OptionChainSimulator.Session

inductive SessionState where
  | initialized
  | inProgress
  | modified
  | reinitialized
  | completed
  | error
  deriving DecidableEq, Repr

def SessionState.display : SessionState → String
  | .initialized => "Initialized"
  | .inProgress => "In Progress"
  | .modified => "Modified"
  | .reinitialized => "Reinitialized"
  | .completed => "Completed"
  | .error => "Error"

end OptionChainSimulator.Session
