import MissionControl.Issues.Service
import MissionControl.Risks.Service

/-! The composition of a Risk and an Issue service over one store of Issues, and its
runs. A command of either service leaves the other with the same Issues. -/

namespace MissionControl.Risks
open Issues (IssueStore)

structure WorkManagementRuntimeComposition where
  risks : Service
  issues : Issues.Service
  shared : risks.state.authority = issues.state.authority

namespace WorkManagementRuntimeComposition

def new : WorkManagementRuntimeComposition where
  risks := ⟨⟨.empty, .empty⟩, false⟩
  issues := ⟨⟨.empty, .empty⟩, false⟩
  shared := rfl

/-- The Issues both services see. -/
def authority (composition : WorkManagementRuntimeComposition) : IssueStore := composition.issues.state.authority

def afterRisk (composition : WorkManagementRuntimeComposition) (risks : Service) :
    WorkManagementRuntimeComposition where
  risks
  issues := { composition.issues with state := { composition.issues.state with authority := risks.state.authority } }
  shared := rfl

def afterIssue (composition : WorkManagementRuntimeComposition) (issues : Issues.Service) :
    WorkManagementRuntimeComposition where
  risks := { composition.risks with state := { composition.risks.state with authority := issues.state.authority } }
  issues
  shared := rfl

end WorkManagementRuntimeComposition

/-- One command of the composition, with what its surroundings answered. -/
inductive Event where
  | risk (ports : Ports) (operation : Operation)
  | issue (ports : Issues.Ports) (operation : Issues.Operation)

inductive Reply where
  | risk (response : Response)
  | issue (response : Issues.Response)

def Reply.refused : Reply → Bool
  | .risk response => response.refused
  | .issue response => response.refused

variable [Sha256]

def act (composition : WorkManagementRuntimeComposition) : Event → WorkManagementRuntimeComposition × Reply
  | .risk ports operation =>
    let (risks, response) := step composition.risks ports operation
    (composition.afterRisk risks, .risk response)
  | .issue ports operation =>
    let (issues, response) := Issues.step composition.issues ports operation
    (composition.afterIssue issues, .issue response)

def runFrom (composition : WorkManagementRuntimeComposition) (script : List Event) :
    WorkManagementRuntimeComposition :=
  script.foldl (fun composition event => (act composition event).1) composition

def run (script : List Event) : WorkManagementRuntimeComposition := runFrom .new script

theorem run_snoc (script : List Event) (event : Event) : run (script ++ [event]) = (act (run script) event).1 := by
  simp [run, runFrom]

theorem run_append (script later : List Event) : run (script ++ later) = runFrom (run script) later := by
  simp [run, runFrom]

end MissionControl.Risks
