import MissionControl.Issues.Legible
import MissionControl.Proofs.IssueReplay

/-! A history of Issue calls read back. All of it can be read, as it was answered, as long as no call
disturbs a preview that waits or was rejected. -/

namespace MissionControl.Issues
open Checked Run
open Evidence (RegistryRow)

/-- A preview that nothing consumed yet. -/
def Waits (tables : IssueTables) (id : PreparedIntentId) : Prop :=
  ∃ row, tables.preparedIntents.find id = some row ∧ row.consumedAt = none

/-- A snapshot that holds what was answered: the Issues as they were answered last, the previews that
wait and the rejections. -/
structure Exact (snapshot : IssueH2aRuntimeSnapshot) (tables : IssueTables) (told : List Answer) : Prop where
  records : ∀ record ∈ snapshot.records, ∃ answered, lastRecord told record.id = some answered ∧ record.Agrees answered
  complete : ∀ id answered, lastRecord told id = some answered → ∃ record ∈ snapshot.records, record.id = id
  previews : ∀ prepared, prepared ∈ snapshot.prepared ↔ .prepared prepared ∈ told ∧ Waits tables prepared.id
  waiting : ∀ id, Waits tables id → ∃ prepared ∈ snapshot.prepared, prepared.id = id
  rejections : ∀ rejected, (∃ rejection ∈ snapshot.rejections, rejection.outcome = rejected) ↔ .rejected rejected ∈ told

section
variable {tables : IssueTables} {told : List Answer} {records : List IssueRecord}

def identities (tables : IssueTables) : List IssueId := Sorting.sortBy compare (tables.issues.rows.map IssueRow.id)

def Listed (tables : IssueTables) (records : List IssueRecord) : Prop :=
  List.Forall₂ (fun id record => decodeIssueH2aRecord snapshotLoadContext tables id = .ok record) (identities tables) records

theorem Listed.ids (listed : Listed tables records) : records.map (·.id) = identities tables := by
  refine (map_matched (listed.imp fun id record read => ?_)).trans (List.map_id _)
  obtain ⟨_, _, _, _, _, _, rfl⟩ := decodeIssueH2aRecord_ok.mp read
  rfl

theorem identities_nodup : (identities tables).Nodup := (Sorting.sortBy_perm compare _).nodup_iff.mpr tables.issues.keyed

variable {standing : RegistryRow × IssueRow}

theorem mem_identities {id : IssueId} (stands : tables.standing id = some standing) : id ∈ identities tables := by
  obtain ⟨_, found⟩ := standing_some.mp stands
  unfold identities
  rw [Sorting.mem_sortBy]
  exact Relation.find_key found ▸ List.mem_map_of_mem (Relation.mem_of_find found)

theorem Listed.read {record : IssueRecord} (listed : Listed tables records) (member : record ∈ records) :
    decodeIssueH2aRecord snapshotLoadContext tables record.id = .ok record := by
  obtain ⟨id, _, read⟩ := (mem_matched listed).2 record member
  obtain ⟨_, _, _, _, _, _, rfl⟩ := decodeIssueH2aRecord_ok.mp read
  exact read

theorem Listed.found {id : IssueId} (listed : Listed tables records) (stands : tables.standing id = some standing) :
    ∃ record ∈ records, records.find? (fun record => record.id = id) = some record ∧ record.id = id ∧
      record.version = standing.1.version ∧ record.classification = standing.1.classification := by
  obtain ⟨other, member, read⟩ := (mem_matched listed).1 id (mem_identities stands)
  have named : other.id = id := by
    obtain ⟨_, _, _, _, _, _, rfl⟩ := decodeIssueH2aRecord_ok.mp read
    rfl
  obtain ⟨record, found⟩ : ∃ record, records.find? (fun record => record.id = id) = some record := by
    refine Option.isSome_iff_exists.mp ?_
    rw [List.find?_isSome]
    exact ⟨other, member, decide_eq_true named⟩
  have known := List.mem_of_find?_eq_some found
  have owned : record.id = id := by simpa using List.find?_some found
  obtain ⟨registered, issue, supports, stands', _, _, same⟩ := decodeIssueH2aRecord_ok.mp (owned ▸ listed.read known)
  cases stands.symm.trans stands'
  exact ⟨record, known, found, owned, by rw [same]; rfl, by rw [same]; rfl⟩

theorem nodup_rejections {Name : Type} {name : RejectPreparedRow → Name} {ids : List IssueId} (distinct : ids.Nodup)
    (once : (tables.rejectPrepareds.rows.map name).Nodup) : ((ids.flatMap (rejectionsOf tables)).map name).Nodup := by
  have known : ∀ row ∈ ids.flatMap (rejectionsOf tables), row ∈ tables.rejectPrepareds.rows := by
    intro row listed
    obtain ⟨id, _, listed⟩ := List.mem_flatMap.mp listed
    exact Relation.mem_of_find (mem_rejectionsOf.mp listed).1
  refine List.Nodup.map_on (fun first one second two same => ?_) ?_
  · exact List.inj_on_of_nodup_map once (known first one) (known second two) same
  refine List.nodup_flatMap.mpr ⟨fun id _ => (nodup_rejectionsOf once).of_map _, distinct.imp fun {first second} different => ?_⟩
  intro row one two
  obtain ⟨_, intent, pending, target⟩ := mem_rejectionsOf.mp one
  obtain ⟨_, intent', pending', target'⟩ := mem_rejectionsOf.mp two
  cases pending.symm.trans pending'
  exact different (target.symm.trans target')

end

section
variable [Sha256] {tables : IssueTables} {told : List Answer} {records : List IssueRecord}

variable {prepared : WorkManagementPreparedIntent}

variable {row : PreparedIntentRow}

theorem RemadeLowering.decoded {context : IssueOperationContext} {registered : RegistryRow} {record : IssueRecord}
    (remade : RemadeLowering tables row registered prepared) (owned : record.id = row.primaryId)
    (version : record.version = registered.version) (classified : record.classification = registered.classification) :
    decodeLowerIssueClassificationPrepared context tables row record = .ok prepared := by
  obtain ⟨proposedClassification, rationale, requested, made⟩ := remade.made
  refine bind_ok.mpr ⟨(proposedClassification, rationale), require_ok.mpr requested, ?_⟩
  rw [owned, version, classified]
  refine bind_ok.mpr ⟨prepared, relabel_ok.mpr made, bind_ok.mpr ⟨(), ensure_ok.mpr ?_, rfl⟩⟩
  exact ⟨remade.digest, remade.classified, remade.expires⟩

theorem Listed.outstanding (listed : Listed tables records) (found : tables.preparedIntents.find row.id = some row)
    (waits : row.consumedAt = none) (remakeable : Remakeable tables row prepared) :
    decodeOutstanding tables records row = .ok prepared := by
  obtain ⟨registered, issue, stands, remade⟩ := remakeable
  obtain ⟨record, _, first, owned, version, classified⟩ := listed.found stands
  refine bind_ok.mpr ⟨record, require_ok.mpr first, relabel_ok.mpr ?_⟩
  cases named : row.kind with
  | some kind =>
    rw [named] at remade
    exact decodePreparedIntent_ok.mpr ⟨row, found, named, fun _ => waits, classified ▸ remade⟩
  | none =>
    rw [named] at remade
    exact RemadeLowering.decoded remade owned version classified

theorem Remakeable.names (remakeable : Remakeable tables row prepared) :
    prepared.id = row.id ∧ preparedIssueTarget prepared = some row.primaryId := by
  obtain ⟨registered, issue, _, remade⟩ := remakeable
  cases named : row.kind with
  | some kind =>
    rw [named] at remade
    obtain ⟨identified, asked, _⟩ := Remade.previews remade
    refine ⟨identified, ?_⟩
    have target := rejectedIssueId_operation asked
    unfold rejectedIssueId at target
    rw [preparedIssueTarget, target, Option.some_or]
  | none =>
    rw [named] at remade
    obtain ⟨_, _, _, made⟩ := RemadeLowering.made remade
    obtain ⟨canonical, _, sorted, _, _, same⟩ := preparePreview_ok (WorkManagementPreparedIntent.prepare_preview made)
    cases sorted
    refine ⟨by rw [WorkManagementPreparedIntent.id, same]; rfl, ?_⟩
    rw [preparedIssueTarget, WorkManagementPreparedIntent.operation, same]
    rfl

def Rejecting (tables : IssueTables) (records : List IssueRecord) (rejections : List (List IssueH2aRejectionReplay)) : Prop :=
  List.Forall₂ (fun record rejections =>
    decodeIssueRejections snapshotLoadContext tables record.id record.classification = .ok rejections) records rejections

theorem Rejecting.named {Name : Type} {name : IssueH2aRejectionReplay → Name} {given : RejectPreparedRow → Name}
    {rejections : List (List IssueH2aRejectionReplay)} (listed : Listed tables records) (rejecting : Rejecting tables records rejections)
    (same : ∀ id classification rejections, decodeIssueRejections snapshotLoadContext tables id classification = .ok rejections →
      rejections.map name = (rejectionsOf tables id).map given) :
    rejections.flatten.map name = ((identities tables).flatMap (rejectionsOf tables)).map given := by
  rw [List.map_flatten, List.map_flatMap, ← listed.ids, List.flatMap_map, List.flatMap_def]
  congr 1
  exact map_matched (rejecting.imp fun record rejections decoded => same _ _ _ decoded)

variable {rejections : List (List IssueH2aRejectionReplay)} {prepared : List WorkManagementPreparedIntent}

/-- The previews that wait, as they are read. -/
def Previewing (tables : IssueTables) (records : List IssueRecord) (prepared : List WorkManagementPreparedIntent) : Prop :=
  List.Forall₂ (fun row prepared => decodeOutstanding tables records row = .ok prepared) (outstanding tables) prepared

omit [Sha256] in
theorem mem_outstanding {row : PreparedIntentRow} :
    row ∈ outstanding tables ↔ tables.preparedIntents.find row.id = some row ∧ row.consumedAt = none := by
  unfold outstanding
  rw [Sorting.mem_sortBy, List.mem_filter, Relation.mem_iff, Option.isNone_iff_eq_none]

theorem Legible.reads (legible : Legible tables told) (listed : Listed tables records) {row : PreparedIntentRow}
    (waiting : row ∈ outstanding tables) : ∃ prepared, .prepared prepared ∈ told ∧ prepared.id = row.id ∧
      preparedIssueTarget prepared = some row.primaryId ∧ decodeOutstanding tables records row = .ok prepared := by
  obtain ⟨found, waits⟩ := mem_outstanding.mp waiting
  obtain ⟨prepared, offered, named⟩ := legible.awaited.offered _ _ found waits
  obtain ⟨row', found', remakeable⟩ := legible.awaited.previews prepared offered
  cases (named ▸ found').symm.trans found
  exact ⟨prepared, offered, named, (remakeable waits).names.2, listed.outstanding found waits (remakeable waits)⟩

theorem Legible.valid (legible : Legible tables told) (listed : Listed tables records) (reading : Previewing tables records prepared)
    (rejecting : Rejecting tables records rejections) :
    IssueH2aRuntimeSnapshot.valid ⟨records, prepared, rejections.flatten⟩ = true := by
  have names : prepared.map (·.id) = (outstanding tables).map (·.id) := by
    refine map_matched (((List.forall₂_and_left _ _).mpr ⟨fun _ waiting => waiting, reading⟩).imp fun row given ⟨waiting, read⟩ => ?_)
    obtain ⟨prepared, _, named, _, read'⟩ := legible.reads listed waiting
    cases read.symm.trans read'
    exact named
  have once : (prepared.map (·.id)).Nodup := by
    rw [names]
    refine ((Sorting.sortBy_perm _ _).map _).nodup_iff.mpr ?_
    exact List.Nodup.sublist (List.filter_sublist.map _) tables.preparedIntents.keyed
  unfold IssueH2aRuntimeSnapshot.valid
  refine decide_eq_true ⟨listed.ids ▸ identities_nodup, once, fun given member => ?_, ?_, ?_, ?_, fun rejection member => ?_⟩
  · obtain ⟨row, waiting, read⟩ := (mem_matched reading).2 given member
    obtain ⟨prepared, _, _, target, read'⟩ := legible.reads listed waiting
    cases read.symm.trans read'
    obtain ⟨standing, stands⟩ := legible.awaited.owned _ _ (mem_outstanding.mp waiting).1
    rw [target, Option.any_some, decide_eq_true_eq, listed.ids]
    exact mem_identities stands
  · rw [rejecting.named listed fun _ _ _ decoded => (legible.sound.named decoded).1]
    exact nodup_rejections identities_nodup legible.sound.previews
  · rw [rejecting.named listed fun _ _ _ decoded => (legible.sound.named decoded).2.1]
    exact nodup_rejections identities_nodup tables.rejectPrepareds.keyed
  · rw [rejecting.named listed fun _ _ _ decoded => (legible.sound.named decoded).2.2]
    exact nodup_rejections identities_nodup legible.sound.audits
  · obtain ⟨own, known, member⟩ := List.mem_flatten.mp member
    obtain ⟨record, there, decoded⟩ := (mem_matched rejecting).2 own known
    have checked : validSnapshot record none own = true := legible.sound.valid rfl decoded
    obtain ⟨_, _, _, _, sounds⟩ := of_decide_eq_true checked
    obtain ⟨_, target, valid⟩ := sounds rejection member
    constructor
    · rw [names]
      intro waiting
      obtain ⟨row, waiting, named⟩ := List.mem_map.mp waiting
      obtain ⟨found, waits⟩ := mem_outstanding.mp waiting
      obtain ⟨given, listing, made⟩ := (mem_matched (decodeIssueRejections_ok.mp decoded)).2 rejection member
      obtain ⟨intent, kind, recorded, _, _, remade, _⟩ := legible.sound.remade listing made
      have same : row.id = given.preparedIntentId :=
        named.trans (remade.previews.1.trans (Relation.find_key recorded.pending))
      cases (same ▸ found).symm.trans recorded.pending
      cases waits.symm.trans recorded.consumed
    · rw [target, Option.any_some, decide_eq_true_eq]
      exact ⟨List.mem_map_of_mem there, valid⟩

theorem Legible.loads (legible : Legible tables told) :
    ∃ snapshot, decodeIssueH2aRuntimeSnapshot tables = .ok snapshot ∧ Exact snapshot tables told := by
  obtain ⟨records, listed⟩ : ∃ records, Listed tables records := by
    refine exists_matched fun id member => ?_
    unfold identities at member
    rw [Sorting.mem_sortBy] at member
    obtain ⟨standing, stands⟩ := legible.shown.rooted id member
    obtain ⟨_, _, record, read, _⟩ := legible.shown.records id standing stands
    exact ⟨record, read _⟩
  obtain ⟨prepared, reading⟩ : ∃ prepared, Previewing tables records prepared := by
    refine exists_matched fun row waiting => ?_
    obtain ⟨prepared, _, _, _, read⟩ := legible.reads listed waiting
    exact ⟨prepared, read⟩
  obtain ⟨rejections, rejecting⟩ : ∃ rejections, Rejecting tables records rejections := by
    refine exists_matched fun record member => ?_
    obtain ⟨registered, issue, _, stands, _, _, same⟩ := decodeIssueH2aRecord_ok.mp (listed.read member)
    have classified : record.classification = registered.classification := by rw [same]; rfl
    rw [classified]
    exact legible.sound.remakes_iff.mp (legible.awaited.remakes _ _ _ stands)
  refine ⟨⟨records, prepared, rejections.flatten⟩, ?_, ?_, fun id answered last => ?_, fun given => ?_, fun id waits => ?_,
    fun rejected => ?_⟩
  · refine bind_ok.mpr ⟨records, mapM_ok.mpr (listed.imp fun _ _ read => relabel_ok.mpr read), ?_⟩
    refine bind_ok.mpr ⟨prepared, mapM_ok.mpr reading, ?_⟩
    refine bind_ok.mpr ⟨rejections, mapM_ok.mpr (rejecting.imp fun _ _ read => relabel_ok.mpr read), ?_⟩
    exact bind_ok.mpr ⟨(), ensure_ok.mpr (legible.valid listed reading rejecting), rfl⟩
  · intro record member
    have read := listed.read member
    obtain ⟨_, _, _, stands, _⟩ := decodeIssueH2aRecord_ok.mp read
    obtain ⟨answered, last, record', read', agrees⟩ := legible.shown.records _ _ stands
    cases read.symm.trans (read' _)
    exact ⟨answered, last, agrees⟩
  · obtain ⟨standing, stands⟩ := legible.shown.complete id answered last
    obtain ⟨record, member, _, owned, _⟩ := listed.found stands
    exact ⟨record, member, owned⟩
  · constructor
    · intro member
      obtain ⟨row, waiting, read⟩ := (mem_matched reading).2 given member
      obtain ⟨prepared, offered, named, _, read'⟩ := legible.reads listed waiting
      cases read.symm.trans read'
      exact ⟨offered, row, named ▸ (mem_outstanding.mp waiting).1, (mem_outstanding.mp waiting).2⟩
    · intro ⟨offered, row, found, waits⟩
      obtain ⟨row', found', remakeable⟩ := legible.awaited.previews given offered
      cases found.symm.trans found'
      have named : row.id = given.id := Relation.find_key found
      have waiting : row ∈ outstanding tables := mem_outstanding.mpr ⟨named ▸ found, waits⟩
      obtain ⟨other, member, read⟩ := (mem_matched reading).1 row waiting
      cases read.symm.trans (listed.outstanding (named ▸ found) waits (remakeable waits))
      exact member
  · obtain ⟨row, found, waits⟩ := waits
    have named : row.id = id := Relation.find_key found
    have waiting : row ∈ outstanding tables := mem_outstanding.mpr ⟨named ▸ found, waits⟩
    obtain ⟨other, member, read⟩ := (mem_matched reading).1 row waiting
    obtain ⟨prepared, _, same, _, read'⟩ := legible.reads listed waiting
    cases read.symm.trans read'
    exact ⟨_, member, same.trans named⟩
  · constructor
    · intro ⟨rejection, member, same⟩
      obtain ⟨own, known, member⟩ := List.mem_flatten.mp member
      obtain ⟨record, _, decoded⟩ := (mem_matched rejecting).2 own known
      obtain ⟨row, listing, made⟩ := (mem_matched (decodeIssueRejections_ok.mp decoded)).2 rejection member
      obtain ⟨intent, _, recorded, _, _, _, equal⟩ := legible.sound.remade listing made
      refine (legible.rejections rejected).mpr ⟨row, Relation.mem_of_find recorded.found, intent, recorded.pending, ?_⟩
      rw [← same, equal]
    · intro answered
      obtain ⟨row, member, intent, pending, equal⟩ := (legible.rejections rejected).mp answered
      obtain ⟨standing, stands⟩ := legible.awaited.owned _ _ pending
      obtain ⟨record, there, _, owned, _⟩ := listed.found stands
      obtain ⟨own, known, decoded⟩ := (mem_matched rejecting).1 record there
      have listing : row ∈ rejectionsOf tables record.id :=
        mem_rejectionsOf.mpr ⟨Relation.find_mem member, intent, pending, owned.symm⟩
      obtain ⟨rejection, member', made⟩ := (mem_matched (decodeIssueRejections_ok.mp decoded)).1 row listing
      obtain ⟨intent', _, recorded, _, _, _, same⟩ := legible.sound.remade listing made
      cases pending.symm.trans recorded.pending
      exact ⟨rejection, List.mem_flatten.mpr ⟨own, known, member'⟩, by rw [same, equal]⟩

end

section
variable [Sha256] {turn : Command × Arguments} {before after : IssueTables × List Answer}

theorem Recounts.legible (recounts : Recounts turn before after) (undisturbing : turn.1.Undisturbing before.1)
    (legible : Legible before.1 before.2) : Legible after.1 after.2 := by
  cases recounts with
  | repeated _ => exact legible
  | @committed before after told answer success wrote offers =>
    have moves : Moves turn before after := ⟨answer, success⟩
    have sound : Sound after := moves.keeps.2 legible.sound
    obtain ⟨command, arguments⟩ := turn
    cases command with
    | createIssue command =>
      obtain ⟨_, first, rfl⟩ := answering_ok.mp success
      exact legible.created first wrote sound
    | prepareResolveIssue command prepared | prepareCloseIssue command prepared
    | prepareReopenIssue command prepared =>
      obtain ⟨_, first, rfl⟩ := answering_ok.mp success
      exact legible.previewed first wrote sound offers undisturbing (fun _ => rfl) nofun
    | prepareLowerIssueClassification command prepared =>
      obtain ⟨_, first, rfl⟩ := answering_ok.mp success
      exact legible.previewedLowering first wrote sound offers
    | approveAndExecuteResolveIssue command | approveAndExecuteCloseIssue command
    | approveAndExecuteReopenIssue command =>
      obtain ⟨_, first, rfl⟩ := answering_ok.mp success
      exact legible.executed first wrote sound undisturbing
    | approveAndExecuteLowerIssueClassification command =>
      obtain ⟨_, first, rfl⟩ := answering_ok.mp success
      exact legible.lowered first wrote sound undisturbing
    | rejectIssuePreparedIntent command =>
      obtain ⟨_, first, rfl⟩ := answering_ok.mp success
      exact legible.rejected first wrote sound

end

namespace Revising

def ports (id : PreparedIntentId) (now : UtcTimestamp) : Ports :=
  { (arguments ⟨"audit-0", by decide⟩ now).ports true with nextPreparedIntentId := some id }

def otherPreview : WorkManagementPreparedIntent :=
  (WorkManagementPreparedIntent.prepare ⟨"intent-2", by decide⟩
    (.lowerIssueClassification issue .initial .restricted .confidential ⟨"Reviewed.", by decide⟩) .restricted none
    (instant 25)).toOption.get (by decide +kernel)

def preparingOther : PrepareLowerIssueClassification :=
  ⟨issue, .initial, .confidential, ⟨"Reviewed.", by decide⟩, context ⟨"prepare-2", by decide⟩⟩

def twice : IssueTables :=
  (Command.prepareLowerIssueClassification preparingOther otherPreview).after
    (arguments ⟨"audit-4", .refl true⟩ (instant 25)) previewed

def unreadable : IssueTables := approving.after (arguments ⟨"audit-3", .refl true⟩ (instant 30)) twice

def offersLowering (tables : IssueTables) (ports : Ports) (command : PrepareLowerIssueClassification) :
    Option WorkManagementPreparedIntent :=
  (decodeIssueH2aRecord command.context tables command.issueId).toOption.bind fun record =>
    (loweringPreview (IssueStore.empty.insertFromRisk record) ports command).toOption

theorem offersLowering_offers {tables : IssueTables} {ports : Ports} {command : PrepareLowerIssueClassification}
    {prepared : WorkManagementPreparedIntent} (offers : offersLowering tables ports command = some prepared) :
    (Command.prepareLowerIssueClassification command prepared).Offers tables := by
  obtain ⟨record, read, made⟩ := Option.bind_eq_some_iff.mp offers
  exact ⟨record, ports, toOption_some read, toOption_some made⟩

theorem committed (command : Command) (given : Arguments) (tables : IssueTables) (told : List Answer)
    (succeeds : (command.operation given tables).isOk = true)
    (revised : (command.after given tables).ledgerRevision ≠ tables.ledgerRevision) (offers : command.Offers tables) :
    ∃ answer, Recounts (command, given) (tables, told) (command.after given tables, answer :: told) := by
  obtain ⟨answer, success⟩ := Command.after_ok command given tables succeeds
  exact ⟨answer, .committed success (ledger_differs revised) offers⟩

end Revising

open Revising

end MissionControl.Issues
