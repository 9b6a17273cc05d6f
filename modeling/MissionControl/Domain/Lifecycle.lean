import MissionControl.Domain.Operation

/-! The lifecycle states of the records that only some services change. -/

namespace MissionControl

inductive DecisionRequestState where
  | draft | «open» | resolved | withdrawn
  deriving DecidableEq

inductive DecisionState where
  | effective | superseded
  deriving DecidableEq

inductive RiskState where
  | «open» | occurred | closed
  deriving DecidableEq

inductive IssueState where
  | «open» | resolved | closed
  deriving DecidableEq

inductive RiskResponseType where
  | mitigate | accept | transfer | avoid
  deriving DecidableEq

def RiskState.asPersisted : RiskState → String
  | .open => "open"
  | .occurred => "occurred"
  | .closed => "closed"

def IssueState.asPersisted : IssueState → String
  | .open => "open"
  | .resolved => "resolved"
  | .closed => "closed"

abbrev RiskTitle := BoundedText 240
abbrev RiskDetails := BoundedText 2000
abbrev RiskRationale := BoundedText 2000
abbrev ResidualExposure := BoundedText 240
abbrev IssueTitle := BoundedText 240
abbrev IssueDetails := BoundedText 2000

end MissionControl
