import MissionControl.Domain.PreparedIntent

/-! The digest of a preview covers all of it: the bytes fed to the hash determine
every field. The operation is recovered first, since its kind is written before
its arguments, and the targets and effects follow from it. -/

namespace MissionControl.DigestCoverage
open Encoding

theorem length_asBytes (text : String) : (asBytes text).length = text.utf8ByteSize := rfl

theorem asBytes_injective : Function.Injective asBytes := by
  intro first second same
  rw [← String.toByteArray_inj]
  exact ByteArray.ext (Array.toList_inj.mp same)

theorem delimits_field : Delimits (fun value => value.length < 2 ^ 64) digestField :=
  ((delimits_bigEndian 8).weaken fun _ bound => bound).framed

theorem delimits_text : Delimits (fun text : String => text.utf8ByteSize < 2 ^ 64) digestText := by
  have delimits := delimits_field.comap asBytes_injective
  exact delimits.weaken fun text bound => by rw [length_asBytes]; exact bound

theorem delimits_fixed {α : Type} {bytes : α → List UInt8} {width : Nat} (small : width < 2 ^ 64)
    (sized : ∀ value, (bytes value).length = width) (injective : Function.Injective bytes) :
    Delimits (fun _ => True) fun value => digestField (bytes value) :=
  (delimits_field.comap injective).weaken fun value _ => by simp only [sized]; exact small

theorem delimits_id {kind : IdKind} : Delimits (fun _ => True) fun id : OpaqueId kind => digestText id.asStr :=
  (delimits_text.comap OpaqueId.asStr_injective).weaken fun id _ => lt_of_le_of_lt id.size_le (by decide)

theorem delimits_bounded {maximumLength : Nat} (small : maximumLength < 2 ^ 64) :
    Delimits (fun _ => True) fun text : BoundedText maximumLength => digestText text.asStr :=
  (delimits_text.comap BoundedText.asStr_injective).weaken fun text _ => lt_of_le_of_lt text.size_le small

theorem delimits_version : Delimits (fun _ => True) digestVersion := by
  refine delimits_fixed (by decide) (fun version => length_bigEndian 8 version.get) ?_
  intro first second same
  exact AggregateVersion.get_injective (bigEndian_injOn first.fits second.fits same)

theorem delimits_instant : Delimits (fun _ => True) digestInstant := by
  refine delimits_fixed (by decide) (fun instant => length_bigEndian 8 _) ?_
  intro first second same
  have words := bigEndian_injOn (by omega) (by omega) same
  have := first.lower
  have := first.upper
  have := second.lower
  have := second.upper
  exact UtcTimestamp.unixMillis_injective (by omega)

theorem delimits_classification : Delimits (fun _ => True) digestClassification :=
  (delimits_text.comap DataClassification.asPersisted_injective).weaken fun classification _ => by
    cases classification <;> decide

theorem delimits_count : Delimits (fun length => length < 2 ^ 64) digestCount := by
  intro first second rest other left right same
  obtain ⟨words, tails⟩ := delimits_field (by simp [wordBytes]) (by simp [wordBytes]) same
  exact ⟨bigEndian_injOn left right words, tails⟩

theorem delimits_list {α : Type} {digest : α → List UInt8} (delimits : Delimits (fun _ => True) digest) :
    Delimits (fun items : List α => items.length < 2 ^ 64) (digestList digest) :=
  (delimits_count.counted delimits).weaken fun _ bound => ⟨bound, fun _ _ => trivial⟩

variable {rest other : List UInt8}

theorem delimits_idVersion {kind : IdKind} {first second : OpaqueId kind} {version later : AggregateVersion}
    (same : idVersion first.asStr version ++ rest = idVersion second.asStr later ++ other) :
    first = second ∧ version = later ∧ rest = other := by
  simp only [idVersion, List.append_assoc] at same
  obtain ⟨ids, same⟩ := delimits_id trivial trivial same
  obtain ⟨versions, same⟩ := delimits_version trivial trivial same
  exact ⟨ids, versions, same⟩

theorem delimits_name {α : Type} {name : α → String} (injective : Function.Injective name)
    (small : ∀ value, (name value).utf8ByteSize < 2 ^ 64) :
    Delimits (fun _ => True) fun value => digestText (name value) :=
  (delimits_text.comap injective).weaken fun value _ => small value

theorem delimits_mode : Delimits (fun _ => True) fun mode : ActionReopenMode => digestText mode.digestName :=
  delimits_name (by intro first second same; cases first <;> cases second <;> first | rfl | exact absurd same (by decide))
    fun mode => by cases mode <;> decide

theorem delimits_resolution :
    Delimits (fun _ => True) fun resolution : IssueResolutionType => digestText resolution.asPersisted :=
  delimits_name (by intro first second same; cases first <;> cases second <;> first | rfl | exact absurd same (by decide))
    fun resolution => by cases resolution <;> decide

theorem delimits_role : Delimits (fun _ => True) fun role : EvidenceRole => digestText role.asPersisted :=
  delimits_name (by intro first second same; cases first <;> cases second <;> first | rfl | exact absurd same (by decide))
    fun role => by cases role <;> decide

theorem delimits_supportName :
    Delimits (fun _ => True) fun disposition : SupportDisposition => digestText disposition.supportName :=
  delimits_name (by intro first second same; cases first <;> cases second <;> first | rfl | exact absurd same (by decide))
    fun disposition => by cases disposition <;> decide

theorem delimits_kind : Delimits (fun _ => True)
    fun kind : WorkManagementH2aIntentKind => digestText kind.asPersisted :=
  delimits_name WorkManagementH2aIntentKind.asPersisted_injective fun kind => by cases kind <;> decide

theorem delimits_resulting : Delimits (fun _ => True) digestResultingActionRequest := by
  rintro ⟨id, subject, details, owner, due, classification⟩ ⟨_, _, _, _, _, _⟩ rest other - - same
  simp only [digestResultingActionRequest, List.append_assoc] at same
  obtain ⟨ids, same⟩ := delimits_id trivial trivial same
  obtain ⟨subjects, same⟩ := delimits_bounded (by decide) trivial trivial same
  obtain ⟨detailTexts, same⟩ := delimits_bounded (by decide) trivial trivial same
  obtain ⟨owners, same⟩ := delimits_id trivial trivial same
  obtain ⟨dates, same⟩ := delimits_instant trivial trivial same
  obtain ⟨classifications, tails⟩ := delimits_classification trivial trivial same
  subst ids subjects detailTexts owners dates classifications
  exact ⟨rfl, tails⟩

theorem delimits_binding : Delimits (fun _ => True) digestEvidenceClassificationBinding := by
  rintro ⟨id, classification⟩ ⟨_, _⟩ rest other - - same
  simp only [digestEvidenceClassificationBinding, List.append_assoc] at same
  obtain ⟨ids, same⟩ := delimits_id trivial trivial same
  obtain ⟨classifications, tails⟩ := delimits_classification trivial trivial same
  subst ids classifications
  exact ⟨rfl, tails⟩

theorem text_ne {first second : String} (left : first.utf8ByteSize < 2 ^ 64) (right : second.utf8ByteSize < 2 ^ 64)
    (different : first ≠ second) : digestText first ++ rest ≠ digestText second ++ other :=
  fun same => different (delimits_text left right same).1

theorem delimits_downstream : Delimits (fun _ => True) digestDownstream := by
  rintro first second rest other - - same
  cases first <;> cases second <;> simp only [digestDownstream, List.append_assoc] at same
  case actionRequest.action => exact absurd same (text_ne (by decide) (by decide) (by decide))
  case action.actionRequest => exact absurd same (text_ne (by decide) (by decide) (by decide))
  all_goals
    obtain ⟨-, same⟩ := delimits_text (by decide) (by decide) same
    obtain ⟨ids, versions, same⟩ := delimits_idVersion same
    obtain ⟨classifications, tails⟩ := delimits_classification trivial trivial same
    subst ids versions classifications
    exact ⟨rfl, tails⟩

theorem delimits_verification : Delimits (fun _ => True) EvidenceVerification.digestParts := by
  have shown : ∀ {text : String} {instant later : UtcTimestamp} {digest digest' : IntegrityDigest}
      {rest other : List UInt8}, text.utf8ByteSize < 2 ^ 64 →
      digestText text ++ (digestInstant instant ++ (digestText digest.asStr ++ rest)) =
        digestText text ++ (digestInstant later ++ (digestText digest'.asStr ++ other)) →
      instant = later ∧ digest = digest' ∧ rest = other := by
    intro text instant later digest digest' rest other small same
    obtain ⟨-, same⟩ := delimits_text small small same
    obtain ⟨instants, same⟩ := delimits_instant trivial trivial same
    have sized (digest : IntegrityDigest) : digest.asStr.utf8ByteSize < 2 ^ 64 := by
      rw [isHexDigest_size digest.valid]; decide
    obtain ⟨digests, tails⟩ := delimits_text (sized _) (sized _) same
    exact ⟨instants, IntegrityDigest.asStr_injective digests, tails⟩
  rintro first second rest other - - same
  cases first <;> cases second <;> simp only [EvidenceVerification.digestParts, List.append_assoc] at same
  case verified.verified | degradedLastVerified.degradedLastVerified | observedUnpinned.observedUnpinned =>
    obtain ⟨instants, digests, tails⟩ := shown (by decide) same
    subst instants digests
    exact ⟨rfl, tails⟩
  case unverified.unverified | integrityMismatch.integrityMismatch =>
    exact ⟨rfl, (delimits_text (by decide) (by decide) same).2⟩
  -- the remaining pairs start with different names
  all_goals exact absurd same (text_ne (by decide) (by decide) (by decide))

theorem delimits_evidence : Delimits (fun _ => True) digestEvidence := by
  rintro ⟨id, version, classification, role, verification⟩ ⟨_, _, _, _, _⟩ rest other - - same
  simp only [digestEvidence, List.append_assoc] at same
  obtain ⟨ids, same⟩ := delimits_id trivial trivial same
  obtain ⟨versions, same⟩ := delimits_version trivial trivial same
  obtain ⟨classifications, same⟩ := delimits_classification trivial trivial same
  obtain ⟨roles, same⟩ := delimits_role trivial trivial same
  obtain ⟨verifications, tails⟩ := delimits_verification trivial trivial same
  subst ids versions classifications roles verifications
  exact ⟨rfl, tails⟩

theorem delimits_judgment : Delimits (fun _ => True) digestJudgment := by
  rintro ⟨rationale, classification⟩ ⟨_, _⟩ rest other - - same
  simp only [digestJudgment, List.append_assoc] at same
  obtain ⟨-, same⟩ := delimits_text (by decide) (by decide) same
  obtain ⟨-, same⟩ := delimits_text (by decide) (by decide) same
  obtain ⟨rationales, same⟩ := delimits_bounded (by decide) trivial trivial same
  obtain ⟨classifications, tails⟩ := delimits_classification trivial trivial same
  subst rationales classifications
  exact ⟨rfl, tails⟩

theorem delimits_sourceRole : Delimits (fun _ => True) digestSourceRole := by
  rintro first second rest other - - same
  cases first <;> cases second <;> simp only [digestSourceRole, List.append_assoc] at same
  case downstreamActionRequest.downstreamActionRequest | downstreamAction.downstreamAction |
      resultingActionRequest.resultingActionRequest | evidence.evidence =>
    obtain ⟨-, same⟩ := delimits_text (by decide) (by decide) same
    obtain ⟨ids, tails⟩ := delimits_id trivial trivial same
    subst ids
    exact ⟨rfl, tails⟩
  case primaryTarget.primaryTarget | createdAction.createdAction | createdDecision.createdDecision |
      replacementDecision.replacementDecision | createdIssue.createdIssue | humanJudgment.humanJudgment =>
    exact ⟨rfl, (delimits_text (by decide) (by decide) same).2⟩
  all_goals exact absurd same (text_ne (by decide) (by decide) (by decide))

theorem delimits_source : Delimits (fun _ => True) digestClassificationSource := by
  rintro ⟨role, classification⟩ ⟨_, _⟩ rest other - - same
  simp only [digestClassificationSource, List.append_assoc] at same
  obtain ⟨roles, same⟩ := delimits_sourceRole trivial trivial same
  obtain ⟨classifications, tails⟩ := delimits_classification trivial trivial same
  subst roles classifications
  exact ⟨rfl, tails⟩

/-- A vector never holds 2^64 items, so its length fits the count written before it. -/
abbrev VectorLength (length : Nat) : Prop := length < 2 ^ 64

structure Representable (preview : WorkManagementPreview) : Prop where
  sources : VectorLength preview.classificationSources.length
  evidence : ∀ witness ∈ preview.support, VectorLength witness.evidence.length
  judgments : ∀ witness ∈ preview.support, VectorLength witness.judgments.length
  resulting : VectorLength preview.operation.resultingActionRequests.length
  bindings : VectorLength preview.operation.evidenceClassifications.length
  downstream : VectorLength preview.operation.incompleteDownstream.length

structure RepresentableOperation (operation : WorkManagementOperation) : Prop where
  resulting : VectorLength operation.resultingActionRequests.length
  bindings : VectorLength operation.evidenceClassifications.length
  downstream : VectorLength operation.incompleteDownstream.length

theorem lowering_same {kind : IdKind} {first second : OpaqueId kind} {version later : AggregateVersion}
    {current current' proposed proposed' : DataClassification} {rationale rationale' : WorkManagementRationale}
    (same : digestLowering first.asStr version current proposed rationale ++ rest =
      digestLowering second.asStr later current' proposed' rationale' ++ other) :
    first = second ∧ version = later ∧ current = current' ∧ proposed = proposed' ∧ rationale = rationale' ∧
      rest = other := by
  simp only [digestLowering, List.append_assoc] at same
  obtain ⟨ids, versions, same⟩ := delimits_idVersion same
  obtain ⟨currents, same⟩ := delimits_classification trivial trivial same
  obtain ⟨proposals, same⟩ := delimits_classification trivial trivial same
  obtain ⟨rationales, tails⟩ := delimits_bounded (by decide) trivial trivial same
  exact ⟨ids, versions, currents, proposals, rationales, tails⟩

theorem operation_same {first second : WorkManagementOperation} (left : RepresentableOperation first)
    (right : RepresentableOperation second) (kinds : first.kind = second.kind)
    (same : digestOperation first ++ rest = digestOperation second ++ other) : first = second ∧ rest = other := by
  cases first <;> cases second <;> cases kinds
  case acceptActionRequest.acceptActionRequest =>
    simp only [digestOperation, List.append_assoc] at same
    obtain ⟨requests, versions, same⟩ := delimits_idVersion same
    obtain ⟨actions, same⟩ := delimits_id trivial trivial same
    obtain ⟨classifications, same⟩ := delimits_classification trivial trivial same
    obtain ⟨subjects, same⟩ := delimits_bounded (by decide) trivial trivial same
    obtain ⟨commitments, same⟩ := delimits_bounded (by decide) trivial trivial same
    obtain ⟨owners, same⟩ := delimits_id trivial trivial same
    obtain ⟨dates, tails⟩ := delimits_instant trivial trivial same
    subst requests versions actions classifications subjects commitments owners dates
    exact ⟨rfl, tails⟩
  case resolveDecisionRequest.resolveDecisionRequest =>
    simp only [digestOperation, digestResultingActionRequests, List.append_assoc] at same
    obtain ⟨requests, versions, same⟩ := delimits_idVersion same
    obtain ⟨decisions, same⟩ := delimits_id trivial trivial same
    obtain ⟨classifications, same⟩ := delimits_classification trivial trivial same
    obtain ⟨statements, same⟩ := delimits_bounded (by decide) trivial trivial same
    obtain ⟨rationales, same⟩ := delimits_bounded (by decide) trivial trivial same
    obtain ⟨impacts, same⟩ := delimits_bounded (by decide) trivial trivial same
    obtain ⟨owners, same⟩ := delimits_id trivial trivial same
    obtain ⟨dates, same⟩ := delimits_instant trivial trivial same
    obtain ⟨resulting, tails⟩ := delimits_list delimits_resulting left.resulting right.resulting same
    subst requests versions decisions classifications statements rationales impacts owners dates
    cases resulting
    exact ⟨rfl, tails⟩
  case completeAction.completeAction | closeIssue.closeIssue =>
    obtain ⟨ids, versions, tails⟩ := delimits_idVersion same
    subst ids versions
    exact ⟨rfl, tails⟩
  case cancelAction.cancelAction =>
    simp only [digestOperation, digestEvidenceClassificationBindings, List.append_assoc] at same
    obtain ⟨ids, versions, same⟩ := delimits_idVersion same
    obtain ⟨reasons, same⟩ := delimits_bounded (by decide) trivial trivial same
    obtain ⟨bindings, tails⟩ := delimits_list delimits_binding left.bindings right.bindings same
    subst ids versions reasons
    cases bindings
    exact ⟨rfl, tails⟩
  case reopenAction.reopenAction =>
    simp only [digestOperation, digestEvidenceClassificationBindings, List.append_assoc] at same
    obtain ⟨ids, versions, same⟩ := delimits_idVersion same
    obtain ⟨modes, same⟩ := delimits_mode trivial trivial same
    obtain ⟨reasons, same⟩ := delimits_bounded (by decide) trivial trivial same
    obtain ⟨bindings, tails⟩ := delimits_list delimits_binding left.bindings right.bindings same
    subst ids versions modes reasons
    cases bindings
    exact ⟨rfl, tails⟩
  case supersedeDecision.supersedeDecision =>
    simp only [digestOperation, digestResultingActionRequests, List.append_assoc] at same
    obtain ⟨ids, versions, same⟩ := delimits_idVersion same
    obtain ⟨replacements, replacementVersions, same⟩ := delimits_idVersion same
    obtain ⟨statements, same⟩ := delimits_bounded (by decide) trivial trivial same
    obtain ⟨rationales, same⟩ := delimits_bounded (by decide) trivial trivial same
    obtain ⟨impacts, same⟩ := delimits_bounded (by decide) trivial trivial same
    obtain ⟨owners, same⟩ := delimits_id trivial trivial same
    obtain ⟨dates, same⟩ := delimits_instant trivial trivial same
    obtain ⟨resulting, same⟩ := delimits_list delimits_resulting left.resulting right.resulting same
    obtain ⟨classifications, same⟩ := delimits_classification trivial trivial same
    obtain ⟨downstream, tails⟩ := delimits_list delimits_downstream left.downstream right.downstream same
    subst ids versions replacements replacementVersions statements rationales impacts owners dates classifications
    cases resulting
    cases downstream
    exact ⟨rfl, tails⟩
  case recordRiskOccurrence.recordRiskOccurrence =>
    simp only [digestOperation, List.append_assoc] at same
    obtain ⟨ids, versions, same⟩ := delimits_idVersion same
    obtain ⟨issues, same⟩ := delimits_id trivial trivial same
    obtain ⟨classifications, tails⟩ := delimits_classification trivial trivial same
    subst ids versions issues classifications
    exact ⟨rfl, tails⟩
  case closeRisk.closeRisk | reopenIssue.reopenIssue =>
    simp only [digestOperation, List.append_assoc] at same
    obtain ⟨ids, versions, same⟩ := delimits_idVersion same
    obtain ⟨rationales, tails⟩ := delimits_bounded (by decide) trivial trivial same
    subst ids versions rationales
    exact ⟨rfl, tails⟩
  case resolveIssue.resolveIssue =>
    simp only [digestOperation, List.append_assoc] at same
    obtain ⟨ids, versions, same⟩ := delimits_idVersion same
    obtain ⟨resolutions, same⟩ := delimits_resolution trivial trivial same
    obtain ⟨rationales, tails⟩ := delimits_bounded (by decide) trivial trivial same
    subst ids versions resolutions rationales
    exact ⟨rfl, tails⟩
  -- the twelve lowerings
  all_goals
    obtain ⟨ids, versions, currents, proposals, rationales, tails⟩ := lowering_same same
    subst ids versions currents proposals rationales
    exact ⟨rfl, tails⟩

theorem support_same {first second : Option SupportWitness}
    (left : ∀ witness ∈ first, VectorLength witness.evidence.length ∧ VectorLength witness.judgments.length)
    (right : ∀ witness ∈ second, VectorLength witness.evidence.length ∧ VectorLength witness.judgments.length)
    (requirements : first.map (·.requirement) = second.map (·.requirement))
    (same : digestSupport first ++ rest = digestSupport second ++ other) : first = second ∧ rest = other := by
  cases first with
  | none =>
    cases second with
    | none => exact ⟨rfl, (delimits_text (by decide) (by decide) same).2⟩
    | some _ => cases requirements
  | some witness =>
    cases second with
    | none => cases requirements
    | some shown =>
      obtain ⟨requirement, disposition, evidence, judgments, classification⟩ := witness
      obtain ⟨_, _, _, _, _⟩ := shown
      simp only [digestSupport, List.append_assoc] at same
      obtain ⟨dispositions, same⟩ := delimits_supportName trivial trivial same
      obtain ⟨classifications, same⟩ := delimits_classification trivial trivial same
      obtain ⟨items, same⟩ := delimits_list delimits_evidence (left _ rfl).1 (right _ rfl).1 same
      obtain ⟨judged, tails⟩ := delimits_list delimits_judgment (left _ rfl).2 (right _ rfl).2 same
      cases Option.some.inj requirements
      subst dispositions classifications items judged
      exact ⟨rfl, tails⟩

/-- Two prepared previews whose digests are computed over the same bytes are one
preview. -/
theorem previewBytes_injective {first second : WorkManagementPreparedIntent}
    (left : Representable first.preview) (right : Representable second.preview)
    (same : previewBytes first.preview = previewBytes second.preview) : first.preview = second.preview := by
  obtain ⟨target, admission, shape⟩ := first.shape
  obtain ⟨target', admission', shape'⟩ := second.shape
  have contract : first.preview.contractVersion = second.preview.contractVersion := by rw [shape, shape']; rfl
  have targets (preview : WorkManagementPreparedIntent) : preview.preview.targets = preview.operation.targets := by
    obtain ⟨_, _, shape⟩ := preview.shape
    rw [shape]; rfl
  have effects (preview : WorkManagementPreparedIntent) : preview.preview.effects = preview.operation.effects := by
    obtain ⟨_, _, shape⟩ := preview.shape
    rw [shape]; rfl
  simp only [previewBytes, List.append_assoc, contract, targets, effects] at same
  obtain ⟨-, same⟩ := delimits_text (by decide) (by decide) same
  obtain ⟨ids, same⟩ := delimits_id trivial trivial same
  obtain ⟨kinds, same⟩ := delimits_kind trivial trivial (List.append_cancel_left same)
  obtain ⟨operations, same⟩ := operation_same ⟨left.resulting, left.bindings, left.downstream⟩
    ⟨right.resulting, right.bindings, right.downstream⟩ kinds same
  simp only [operations] at same
  replace same := List.append_cancel_left (List.append_cancel_left same)
  obtain ⟨sources, same⟩ := delimits_list delimits_source left.sources right.sources same
  obtain ⟨-, same⟩ := delimits_classification trivial trivial same
  have requirements := admission.requirement.symm.trans ((congrArg _ operations).trans admission'.requirement)
  obtain ⟨supports, same⟩ := support_same (fun witness member => ⟨left.evidence witness member, left.judgments witness member⟩)
    (fun witness member => ⟨right.evidence witness member, right.judgments witness member⟩) requirements same
  obtain ⟨-, same⟩ := delimits_text (by decide) (by decide) same
  obtain ⟨expiries, -⟩ := delimits_instant trivial trivial same
  have classifications : target = target' := by
    rw [shape, shape'] at sources
    exact congrArg WorkManagementClassificationSource.classification (List.cons.inj sources).1
  rw [shape, shape', classifications]
  simp only [WorkManagementPreparedIntent.id, WorkManagementPreparedIntent.operation] at ids operations ⊢
  rw [ids, operations, supports, expiries]

/-- A cancellation over two pieces of evidence, which may be given in either order. -/
def cancelling (first second : EvidenceReferenceId) : WorkManagementOperation :=
  .cancelAction ⟨"action-1", by decide⟩ .initial ⟨"no longer needed", by decide⟩
    [⟨first, .internal⟩, ⟨second, .internal⟩]

def cancellationPreview : WorkManagementPreview :=
  previewOf ⟨"preview-1", .refl true⟩ (cancelling ⟨"a", .refl true⟩ ⟨"b", .refl true⟩) .internal none
    ⟨300000, UtcTimestamp.fiveMinutes_lower, UtcTimestamp.fiveMinutes_upper⟩

theorem cancellation_order_forgotten :
    ∃ first second : WorkManagementPreparedIntent, first.preview = cancellationPreview ∧
      first.preview = second.preview := by
  have left : preparePreview ⟨"preview-1", by decide⟩ (cancelling ⟨"a", by decide⟩ ⟨"b", by decide⟩) .internal none
    ⟨0, by decide, by decide⟩ = .ok cancellationPreview := by decide
  have right : preparePreview ⟨"preview-1", by decide⟩ (cancelling ⟨"b", by decide⟩ ⟨"a", by decide⟩) .internal none
    ⟨0, by decide, by decide⟩ = .ok cancellationPreview := by decide
  have small : Representable cancellationPreview := by
    refine ⟨by decide, ?_, ?_, by decide, by decide, by decide⟩ <;>
    · intro witness member; cases member
  exact ⟨⟨_, _, _, _, _, _, left⟩, ⟨_, _, _, _, _, _, right⟩, rfl, previewBytes_injective small small rfl⟩

end MissionControl.DigestCoverage
