import MissionControl.Proofs.ActionStructure
import MissionControl.Proofs.IssueLifecycle
import MissionControl.Proofs.RiskRestart
import MissionControl.Actions.Stages

/-! A version names one content. Whatever runs after a reader saw a record, a record of the
version it saw is the record it saw, so an expected version that still matches speaks of
exactly what was read. -/

namespace MissionControl.Versions
open Actions IssueLifecycle

/-- A record and what has become of it. -/
structure Succeeds {Record : Type} (version : Record → AggregateVersion) (before after : Record) : Prop where
  onward : (version before).get ≤ (version after).get
  content : version after = version before → after = before

section
variable {Record : Type} {version : Record → AggregateVersion} {first before after : Record}

theorem Succeeds.refl (record : Record) : Succeeds version record record := ⟨le_rfl, fun _ => rfl⟩

/-- A change that counts the version up cannot come back to a version that was seen. -/
theorem Succeeds.advance (sofar : Succeeds version first before)
    (change : after = before ∨ (version after).get = (version before).get + 1) : Succeeds version first after := by
  rcases change with rfl | advances
  · exact sofar
  · have onward := sofar.onward
    refine ⟨by omega, fun same => ?_⟩
    rw [same] at advances
    omega

end

section
variable [Sha256] {store later : Store} {seen : List Label}

theorem run_succeeds {Record : Type} {version : Record → AggregateVersion} {held : Store → Option Record} {record : Record}
    (steps : ∀ {ports store event next before}, StoreStep ports store event next → Keyed store →
      held store = some before → ∃ after, held next = some after ∧
        (after = before ∨ (version after).get = (version before).get + 1))
    (run : StoreRun store seen later) (keyed : Keyed store) (found : held store = some record) :
    ∃ after, held later = some after ∧ Succeeds version record after := by
  have kept := run.invariant
    (fun store => Keyed store ∧ ∃ after, held store = some after ∧ Succeeds version record after)
    (fun _ _ _ step ⟨keyed, before, stored, sofar⟩ => by
      obtain ⟨after, kept, change⟩ := steps step keyed stored
      exact ⟨keyed.step step, after, kept, sofar.advance change⟩)
    ⟨keyed, record, found, .refl record⟩
  exact kept.2

/-- No record is lost or replaced by a later run, and a version that comes up again is that of
the very record it was read with. -/
theorem versions_name_contents (script onwards : Script) :
    (∀ (id : ActionRequestId) record, (run script).store.requests[id]? = some record →
      ∃ after, (run (script ++ onwards)).store.requests[id]? = some after ∧
        Succeeds ActionRequestRecord.version record after) ∧
    ∀ (id : ActionId) record, (run script).store.actions[id]? = some record →
      ∃ after, (run (script ++ onwards)).store.actions[id]? = some after ∧ Succeeds ActionRecord.version record after := by
  have keyed : Keyed (run script).store := keyed_of_run (run_storeRun script)
  have moves := run_onwards script onwards
  exact ⟨fun _ _ => run_succeeds (·.request_kept · ·) moves keyed, fun _ _ => run_succeeds
    (fun step keyed found => (step.action_kept keyed found).imp fun _ => .imp_right (.imp_right (·.advances))) moves keyed⟩

end

section
open ActionStructure.Journey

theorem versions_name_contents_linked : ∃ record, (run accepted).store.actions[name .action 0]? = some record ∧
    ∃ after, (run (accepted ++ linked)).store.actions[name .action 0]? = some after ∧
      Succeeds ActionRecord.version record after := by
  obtain ⟨record, found⟩ := Option.isSome_iff_exists.mp
    (show (run accepted).store.actions[name .action 0]?.isSome = true by decide +kernel)
  exact ⟨record, found, (versions_name_contents accepted linked).2 _ record found⟩

end

/-- The same of an Issue, whether the Issue service or the Risk service runs. -/
theorem issue_versions_name_contents [Sha256] (composition : Risks.WorkManagementRuntimeComposition)
    (onwards : List Risks.Event) (id : IssueId) (issue : Issues.IssueRecord)
    (found : composition.authority.get id = some issue) :
    ∃ after, (Risks.runFrom composition onwards).authority.get id = some after ∧
      Succeeds Issues.IssueRecord.version issue after := by
  induction onwards using List.reverseRecOn with
  | nil => exact ⟨issue, found, .refl issue⟩
  | append_singleton earlier event ih =>
    obtain ⟨before, held, sofar⟩ := ih
    rw [Risks.runFrom, List.foldl_append]
    change ∃ after, (Risks.act (Risks.runFrom composition earlier) event).1.authority.get id = some after ∧ _
    cases act_follows (Risks.runFrom composition earlier) event id with
    | absent nothing => cases held.symm.trans nothing
    | born _ nothing => cases held.symm.trans nothing
    | kept same stood stands =>
      cases held.symm.trans stood
      exact ⟨_, stands, sofar⟩
    | transitioned same after stood stands transitioned =>
      cases held.symm.trans stood
      obtain ⟨_, _, _, supported⟩ := transitioned.supported
      exact ⟨after, stands, sofar.advance (.inr (AggregateVersion.next_get supported.advances))⟩
    | lowered same after stood stands lowered =>
      cases held.symm.trans stood
      obtain ⟨_, _, advances, rfl⟩ := lowered
      exact ⟨_, stands, sofar.advance (.inr (AggregateVersion.next_get advances))⟩

open RiskRestart.Flood
open ActionStructure.Journey (name)

theorem issue_versions_name_contents_occurred : ∃ issue,
    (Risks.run occurred).authority.get (name .issue 0) = some issue ∧
    ∃ after, (Risks.runFrom (Risks.run occurred) lowered).authority.get (name .issue 0) = some after ∧
      Succeeds Issues.IssueRecord.version issue after := by
  obtain ⟨issue, found⟩ := Option.isSome_iff_exists.mp
    (show ((Risks.run occurred).authority.get (name .issue 0)).isSome = true by decide +kernel)
  exact ⟨issue, found, issue_versions_name_contents _ lowered _ issue found⟩

end MissionControl.Versions
