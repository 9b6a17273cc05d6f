import MissionControl.Issues.Rejections

/-! What every state that the commands reach keeps: supports that say what they come to, the
support of every transition, and rejections that are told from their rows. -/

namespace MissionControl.Issues
open Run

structure Sound (tables : IssueTables) : Prop where
  supports : SupportsSound tables
  history : ∀ row ∈ tables.supportHistory, ∃ support, ∀ context,
    decodeIssueSupportHistoryEntry context tables row.support = .ok support
  rejections : ∀ row ∈ tables.rejectPrepareds.rows, ∃ intent, RejectionRecorded row intent tables
  previews : (tables.rejectPrepareds.rows.map RejectPreparedRow.preparedIntentId).Nodup
  audits : (tables.rejectPrepareds.rows.map RejectPreparedRow.auditEventId).Nodup

section
variable {before after : IssueTables}

theorem Sound.empty : Sound .empty where
  supports preparedId _ found := by
    have absent : IssueTables.empty.supports.find preparedId = none := rfl
    cases absent.symm.trans found
  history _ listed := absurd listed List.not_mem_nil
  rejections _ listed := absurd listed List.not_mem_nil
  previews := List.nodup_nil
  audits := List.nodup_nil

theorem Sound.kept (sound : Sound before) (grows : Grows before after) (supports : SupportsSound after)
    (history : ∀ row ∈ after.supportHistory, row ∈ before.supportHistory ∨ ∃ support, ∀ context,
      decodeIssueSupportHistoryEntry context after row.support = .ok support)
    (rejects : after.rejectPrepareds = before.rejectPrepareds) : Sound after where
  supports := supports
  history row listed := by
    obtain known | new := history row listed
    · obtain ⟨support, read⟩ := sound.history row known
      exact ⟨support, fun context => decodeIssueSupportHistoryEntry_kept grows (read context)⟩
    · exact new
  rejections row listed := by
    obtain ⟨intent, recorded⟩ := sound.rejections row (rejects ▸ listed)
    exact ⟨intent, recorded.grows grows⟩
  previews := rejects ▸ sound.previews
  audits := rejects ▸ sound.audits

theorem Sound.unchanged (sound : Sound before) (grows : Grows before after) (supports : after.supports = before.supports)
    (history : after.supportHistory = before.supportHistory) (rejects : after.rejectPrepareds = before.rejectPrepareds) :
    Sound after := by
  refine sound.kept grows ?_ (fun row listed => .inl (history ▸ listed)) rejects
  intro preparedId header found
  exact sound.supports preparedId header (supports ▸ found)

theorem Sound.supported (sound : Sound before) (grows : Grows before after) {header : SupportRow} (admitted : header.Sound)
    (inserted : before.supports.insert header = some after.supports) (history : after.supportHistory = before.supportHistory)
    (rejects : after.rejectPrepareds = before.rejectPrepareds) : Sound after := by
  refine sound.kept grows ?_ (fun row listed => .inl (history ▸ listed)) rejects
  intro preparedId other found
  obtain known | rfl := (Relation.mem_insert inserted).mp (Relation.mem_of_find found)
  · exact sound.supports _ _ (Relation.find_mem known)
  · exact admitted

theorem Sound.rejected {command : RejectIssuePreparedIntent} {rejected : Actions.RejectedPreparedIntentOutcome}
    {row : RejectPreparedRow} {intent : PreparedIntentRow} (sound : Sound before)
    (done : Rejected command rejected row intent before after) : Sound after where
  supports preparedId header found := sound.supports preparedId header (done.supports ▸ found)
  history other listed := by
    obtain ⟨support, read⟩ := sound.history other (done.history ▸ listed)
    exact ⟨support, fun context => decodeIssueSupportHistoryEntry_kept done.grows (read context)⟩
  rejections other listed := by
    obtain known | rfl := (Relation.mem_insert done.inserted).mp listed
    · obtain ⟨intent, recorded⟩ := sound.rejections other known
      exact ⟨intent, recorded.grows done.grows⟩
    · exact ⟨intent, done.recorded⟩
  previews := by
    rw [Relation.insert_rows done.inserted, List.map_append]
    refine sound.previews.append (List.nodup_singleton _) fun key listed new => ?_
    obtain ⟨other, known, rfl⟩ := List.mem_map.mp listed
    exact (done.fresh other known).1 (List.mem_singleton.mp new)
  audits := by
    rw [Relation.insert_rows done.inserted, List.map_append]
    refine sound.audits.append (List.nodup_singleton _) fun key listed new => ?_
    obtain ⟨other, known, rfl⟩ := List.mem_map.mp listed
    exact (done.fresh other known).2 (List.mem_singleton.mp new)

end

variable [Sha256] {before after : IssueTables}

inductive Command.Form : Command → Prop where
  | creation (command : CreateIssue) : Form (.createIssue command)
  | preview {command : Command} (asked : PrepareTransition) (prepared : WorkManagementPreparedIntent)
      (operation : ∀ arguments tables,
        command.operation arguments tables = answering .prepared (prepareTransition asked prepared tables)) : Form command
  | previewLowering (command : PrepareLowerIssueClassification) (prepared : WorkManagementPreparedIntent) :
      Form (.prepareLowerIssueClassification command prepared)
  | transition {command : Command} (kind : IssueH2aExecuteKind) (asked : ApproveAndExecuteIssueTransition)
      (operation : ∀ arguments tables,
        command.operation arguments tables = answering .mutation (approveAndExecuteIssueH2a kind asked arguments tables)) :
      Form command
  | lowering (command : ApproveAndExecuteIssueTransition) : Form (.approveAndExecuteLowerIssueClassification command)
  | rejection (command : RejectIssuePreparedIntent) : Form (.rejectIssuePreparedIntent command)

theorem Command.form (command : Command) : command.Form := by
  cases command with
  | createIssue command => exact .creation command
  | prepareResolveIssue command prepared | prepareCloseIssue command prepared
  | prepareReopenIssue command prepared => exact .preview command.transition prepared fun _ _ => rfl
  | prepareLowerIssueClassification command prepared => exact .previewLowering command prepared
  | approveAndExecuteResolveIssue command => exact .transition .resolve command fun _ _ => rfl
  | approveAndExecuteCloseIssue command => exact .transition .close command fun _ _ => rfl
  | approveAndExecuteReopenIssue command => exact .transition .reopen command fun _ _ => rfl
  | approveAndExecuteLowerIssueClassification command => exact .lowering command
  | rejectIssuePreparedIntent command => exact .rejection command

omit [Sha256] in
theorem answering_ok {α : Type} {answer : α → Answer} {result : Except DomainError (IssueTables × α)} {given : Answer} :
    answering answer result = .ok (after, given) ↔ ∃ value, result = .ok (after, value) ∧ answer value = given :=
  Transaction.map_ok

theorem Moves.keeps {turn : Command × Arguments} (moves : Moves turn before after) :
    Grows before after ∧ (Sound before → Sound after) := by
  obtain ⟨command, arguments⟩ := turn
  obtain ⟨answer, success⟩ := moves
  cases command.form with
  | creation command =>
    obtain ⟨_, success, _⟩ := answering_ok.mp success
    obtain ⟨rfl, _⟩ | ⟨grows, _, _, _, supports, history, rejects, _⟩ := createIssue_ok success
    · exact ⟨.refl _, id⟩
    · exact ⟨grows, fun sound => sound.unchanged grows supports history rejects⟩
  | preview asked prepared operation =>
    obtain ⟨_, success, _⟩ := answering_ok.mp ((operation arguments before).symm.trans success)
    obtain rfl | ⟨grows, history, rejects, ⟨header, admitted, inserted⟩, _⟩ := prepareTransition_ok success
    · exact ⟨.refl _, id⟩
    · exact ⟨grows, fun sound => sound.supported grows admitted inserted history rejects⟩
  | previewLowering command prepared =>
    obtain ⟨_, success, _⟩ := answering_ok.mp success
    obtain ⟨grows, supports, history, rejects, _⟩ := prepareLowerIssueClassification_ok success
    exact ⟨grows, fun sound => sound.unchanged grows supports history rejects⟩
  | transition kind asked operation =>
    obtain ⟨_, success, _⟩ := answering_ok.mp ((operation arguments before).symm.trans success)
    obtain ⟨rfl, _⟩ | ⟨intent, _, executed, _⟩ := approveAndExecuteIssueH2a_ok success
    · exact ⟨.refl _, id⟩
    refine ⟨executed.grows, fun sound => sound.kept executed.grows ?_ (fun row listed => ?_) executed.rejects⟩
    · intro preparedId header found
      exact sound.supports preparedId header (executed.supports ▸ found)
    · obtain ⟨ordinal, history⟩ := executed.history
      rw [history] at listed
      obtain known | new := List.mem_append.mp listed
      · exact .inl known
      · cases List.mem_singleton.mp new
        exact .inr (executed.entry sound.supports)
  | lowering command =>
    obtain ⟨_, success, _⟩ := answering_ok.mp success
    obtain ⟨rfl, _⟩ | ⟨_, _, executed, _⟩ := approveAndExecuteLowerIssueClassification_ok success
    · exact ⟨.refl _, id⟩
    · exact ⟨executed.grows, fun sound => sound.unchanged executed.grows executed.supports executed.history executed.rejects⟩
  | rejection command =>
    obtain ⟨_, success, _⟩ := answering_ok.mp success
    obtain ⟨rfl, _⟩ | ⟨_, _, done, _⟩ := rejectIssuePreparedIntent_ok success
    · exact ⟨.refl _, id⟩
    · exact ⟨done.grows, fun sound => sound.rejected done⟩

variable {turns : List (Command × Arguments)}

theorem Moves.run (run : Evolves Moves before turns after) : Grows before after := by
  refine run.invariant (fun tables => Grows before tables) ?_ (.refl before)
  intro turn middle later moves grows
  exact grows.trans moves.keeps.1

theorem sound_reached (run : Evolves Moves .empty turns after) : Sound after :=
  run.invariant Sound (fun _ _ _ moves => moves.keeps.2) .empty

end MissionControl.Issues
