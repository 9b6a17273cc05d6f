import MissionControl.Evidence.Record
import MissionControl.Projections.Record
import MissionControl.Proofs.DigestCoverage

/-! The digests of a supersession's and of a rebuild's preview cover all of it,
and no preview of the one kind shares its bytes with one of the other. -/

namespace MissionControl.DigestCoverage
open Encoding

/-- A part that may be missing, behind a tag that says whether it is there. -/
def digestOptional {α : Type} (digest : α → List UInt8) : Option α → List UInt8
  | some value => digestText "1" ++ digest value
  | none => digestText "0"

theorem delimits_optional {α : Type} {valid : α → Prop} {digest : α → List UInt8} (delimits : Delimits valid digest) :
    Delimits (fun part => ∀ value ∈ part, valid value) (digestOptional digest) := by
  rintro (_ | first) (_ | second) rest other left right same
  case none.none => exact ⟨rfl, (delimits_text (by decide) (by decide) same).2⟩
  case some.some =>
    simp only [digestOptional, List.append_assoc] at same
    obtain ⟨-, same⟩ := delimits_text (by decide) (by decide) same
    obtain ⟨rfl, tails⟩ := delimits (left first rfl) (right second rfl) same
    exact ⟨rfl, tails⟩
  all_goals
    simp only [digestOptional, List.append_assoc] at same
    exact absurd same (text_ne (by decide) (by decide) (by decide))

theorem delimits_fieldWord {width : Nat} (small : width < 2 ^ 64) :
    Delimits (fun number => number < 256 ^ width) fun number => digestField (bigEndian width number) := by
  intro first second rest other left right same
  obtain ⟨words, tails⟩ := delimits_field (by simpa using small) (by simpa using small) same
  exact ⟨bigEndian_injOn left right words, tails⟩

theorem delimits_word : Delimits (fun number => number < 2 ^ 64) fun number => digestField (wordBytes number) :=
  (delimits_fieldWord (by decide)).weaken fun _ bound => bound

theorem delimits_integrity : Delimits (fun _ => True) fun digest : IntegrityDigest => digestText digest.asStr :=
  (delimits_text.comap IntegrityDigest.asStr_injective).weaken fun digest _ => by
    rw [isHexDigest_size digest.valid]; decide

end MissionControl.DigestCoverage

namespace MissionControl.Evidence
open Encoding DigestCoverage

theorem delimits_path : Delimits (fun _ => True) fun path : VaultRelativePath => digestText path.asStr := by
  have injective : Function.Injective VaultRelativePath.asStr := by
    rintro ⟨first, _⟩ ⟨second, _⟩ same
    cases same
    rfl
  refine (delimits_text.comap injective).weaken fun path _ => ?_
  have text : (validateText path.asStr maxVaultRelativePathLength).isOk = true := by
    have valid := path.valid
    simp only [validateVaultRelativePath] at valid
    cases checked : validateText path.asStr maxVaultRelativePathLength with
    | error error => rw [checked] at valid; cases valid
    | ok _ => rfl
  exact lt_of_le_of_lt (BoundedText.size_le ⟨path.asStr, text⟩) (by decide)

theorem delimits_fingerprint : Delimits (fun _ => True) digestFingerprint := by
  rintro ⟨algorithm, digest⟩ ⟨algorithm', _⟩ rest other - - same
  simp only [digestFingerprint, List.append_assoc] at same
  cases algorithm
  cases algorithm'
  obtain ⟨-, same⟩ := delimits_text (by decide) (by decide) same
  obtain ⟨rfl, tails⟩ := delimits_integrity trivial trivial same
  exact ⟨rfl, tails⟩

theorem delimits_reference :
    Delimits (fun _ => True) fun reference : ProvenanceReference => digestText reference.asStr := by
  refine (delimits_text.comap CodeText.asStr_injective).weaken fun reference _ => ?_
  have valid := reference.valid
  simp only [validateToken] at valid
  split at valid
  · cases valid
  · split at valid
    · cases valid
    · omega

theorem delimits_provenance : Delimits (fun _ => True) digestProvenance := by
  rintro first second rest other - - same
  cases first <;> cases second <;>
    simp only [digestProvenance, Provenance.kindPersisted, Provenance.reference, List.append_assoc] at same
  case userEntered.userEntered =>
    obtain ⟨-, same⟩ := delimits_text (by decide) (by decide) same
    exact ⟨rfl, (delimits_text (by decide) (by decide) same).2⟩
  case authoritativeTransition.authoritativeTransition | syntheticFixture.syntheticFixture =>
    obtain ⟨-, same⟩ := delimits_text (by decide) (by decide) same
    obtain ⟨-, same⟩ := delimits_text (by decide) (by decide) same
    obtain ⟨rfl, tails⟩ := delimits_reference trivial trivial same
    exact ⟨rfl, tails⟩
  all_goals exact absurd same (text_ne (by decide) (by decide) (by decide))

theorem target_same {first second : EvidenceLinkTarget} {rest other : List UInt8}
    (same : digestField (bigEndian 1 first.discriminant) ++ (digestText first.idStr ++ rest) =
      digestField (bigEndian 1 second.discriminant) ++ (digestText second.idStr ++ other)) :
    first = second ∧ rest = other := by
  have small (target : EvidenceLinkTarget) : target.discriminant < 256 ^ 1 := by
    cases target <;> simp [EvidenceLinkTarget.discriminant]
  obtain ⟨kinds, same⟩ := delimits_fieldWord (by decide) (small first) (small second) same
  cases first <;> cases second <;> simp only [EvidenceLinkTarget.discriminant, reduceCtorEq, Nat.reduceEqDiff] at kinds
  all_goals
    obtain ⟨ids, tails⟩ := delimits_id trivial trivial same
    cases ids
    exact ⟨rfl, tails⟩

theorem delimits_link : Delimits (fun _ => True) digestLink := by
  rintro ⟨target, version, targetClassification, linkClassification, linkedAt⟩ ⟨_, _, _, _, _⟩ rest other - - same
  simp only [digestLink, List.append_assoc] at same
  obtain ⟨targets, same⟩ := target_same same
  obtain ⟨versions, same⟩ := delimits_version trivial trivial same
  obtain ⟨targetClassifications, same⟩ := delimits_classification trivial trivial same
  obtain ⟨linkClassifications, same⟩ := delimits_classification trivial trivial same
  obtain ⟨instants, tails⟩ := delimits_instant trivial trivial same
  subst targets versions targetClassifications linkClassifications instants
  exact ⟨rfl, tails⟩

def supersessionBytes (preview : EvidenceSupersessionPreview) : List UInt8 :=
  digestText "product-mission-control.evidence-supersession.prepared-intent.v1" ++
    digestText preview.preparedIntentId.asStr ++ digestText preview.sourceId.asStr ++
    digestVersion preview.sourceVersion ++ digestText preview.sourceVaultPath.asStr ++
    digestOptional digestFingerprint preview.sourceFingerprint ++
    digestClassification preview.sourceClassification ++ digestText preview.replacementId.asStr ++
    digestText preview.replacementVaultPath.asStr ++ digestFingerprint preview.replacementFingerprint ++
    digestInstant preview.replacementObservedAt ++ digestClassification preview.replacementClassification ++
    digestProvenance preview.replacementProvenance ++ digestList digestLink preview.links ++
    digestClassification preview.classification ++ digestText preview.rationale.asStr ++
    digestInstant preview.expiresAt

theorem computeEvidenceSupersessionDigest_eq [Sha256] (preview : EvidenceSupersessionPreview) :
    computeEvidenceSupersessionDigest preview = Sha256.finalize (supersessionBytes preview) := by
  cases preview with
  | mk _ _ _ _ fingerprint => cases fingerprint <;> rfl

theorem supersessionBytes_injective {first second : EvidenceSupersessionPreview}
    (left : VectorLength first.links.length) (right : VectorLength second.links.length)
    (same : supersessionBytes first = supersessionBytes second) : first = second := by
  cases first
  cases second
  simp only [supersessionBytes, List.append_assoc] at same
  obtain ⟨-, same⟩ := delimits_text (by decide) (by decide) same
  obtain ⟨intents, same⟩ := delimits_id trivial trivial same
  obtain ⟨sources, same⟩ := delimits_id trivial trivial same
  obtain ⟨versions, same⟩ := delimits_version trivial trivial same
  obtain ⟨paths, same⟩ := delimits_path trivial trivial same
  obtain ⟨fingerprints, same⟩ :=
    delimits_optional delimits_fingerprint (fun _ _ => trivial) (fun _ _ => trivial) same
  obtain ⟨sourceClassifications, same⟩ := delimits_classification trivial trivial same
  obtain ⟨replacements, same⟩ := delimits_id trivial trivial same
  obtain ⟨replacementPaths, same⟩ := delimits_path trivial trivial same
  obtain ⟨replacementFingerprints, same⟩ := delimits_fingerprint trivial trivial same
  obtain ⟨observations, same⟩ := delimits_instant trivial trivial same
  obtain ⟨replacementClassifications, same⟩ := delimits_classification trivial trivial same
  obtain ⟨provenances, same⟩ := delimits_provenance trivial trivial same
  obtain ⟨links, same⟩ := delimits_list delimits_link left right same
  obtain ⟨classifications, same⟩ := delimits_classification trivial trivial same
  obtain ⟨rationales, same⟩ := delimits_bounded (by decide) trivial trivial same
  have expiries := delimits_instant.injOn trivial trivial same
  subst intents sources versions paths fingerprints sourceClassifications replacements replacementPaths
    replacementFingerprints observations replacementClassifications provenances classifications rationales expiries
  cases links
  rfl

end MissionControl.Evidence

namespace MissionControl.Projections
open Encoding DigestCoverage

abbrev TextLength (text : String) : Prop := text.utf8ByteSize < 2 ^ 64

structure RepresentableEntry (entry : ManagedProjectionRebuildChangeEntry) : Prop where
  relativePath : TextLength entry.relativePath
  recordId : TextLength entry.recordId
  hash : ∀ hash ∈ entry.expectedFinalFileSha256, TextLength hash

/-- What every preview in memory is: a `u32`, two `u64`s and lengths that fit one. -/
structure Representable (preview : ManagedProjectionRebuildPreview) : Prop where
  schemaVersion : preview.ledgerSchemaVersion < 2 ^ 32
  revision : preview.ledgerRevision < 2 ^ 64
  baseline : TextLength preview.publishedBaselineDigest
  count : VectorLength preview.changes.length
  entries : ∀ entry ∈ preview.changes, RepresentableEntry entry
  duration : preview.estimatedDurationMillis < 2 ^ 64

theorem delimits_recordKind :
    Delimits (fun _ => True) fun kind : ManagedProjectionRebuildRecordKind => digestText kind.asPersisted :=
  delimits_name (by intro first second same; cases first <;> cases second <;> first | rfl | exact absurd same (by decide))
    fun kind => by cases kind <;> decide

theorem delimits_change :
    Delimits (fun _ => True) fun change : ManagedProjectionRebuildChangeKind => digestText change.asPersisted :=
  delimits_name (by intro first second same; cases first <;> cases second <;> first | rfl | exact absurd same (by decide))
    fun change => by cases change <;> decide

theorem digestChangeEntry_eq (entry : ManagedProjectionRebuildChangeEntry) :
    digestChangeEntry entry = digestText entry.relativePath ++ digestText entry.recordKind.asPersisted ++
      digestText entry.recordId ++ digestText entry.change.asPersisted ++
      digestClassification entry.classification ++ digestOptional digestText entry.expectedFinalFileSha256 := by
  cases entry with
  | mk _ _ _ _ _ hash => cases hash <;> rfl

theorem delimits_changeEntry : Delimits RepresentableEntry digestChangeEntry := by
  rintro first second rest other left right same
  simp only [digestChangeEntry_eq, List.append_assoc] at same
  obtain ⟨paths, same⟩ := delimits_text left.relativePath right.relativePath same
  obtain ⟨kinds, same⟩ := delimits_recordKind trivial trivial same
  obtain ⟨ids, same⟩ := delimits_text left.recordId right.recordId same
  obtain ⟨changes, same⟩ := delimits_change trivial trivial same
  obtain ⟨classifications, same⟩ := delimits_classification trivial trivial same
  obtain ⟨hashes, tails⟩ := delimits_optional delimits_text left.hash right.hash same
  cases first
  cases second
  subst paths kinds ids changes classifications hashes
  exact ⟨rfl, tails⟩

def rebuildBytes (preview : ManagedProjectionRebuildPreview) : List UInt8 :=
  digestText "product-mission-control.projection-rebuild.prepared-intent.v1" ++
    digestText preview.preparedIntentId.asStr ++ digestField (bigEndian 4 preview.ledgerSchemaVersion) ++
    digestField (wordBytes preview.ledgerRevision) ++ digestText preview.publishedBaselineDigest ++
    digestList digestChangeEntry preview.changes ++ digestClassification preview.classification ++
    digestField (wordBytes preview.estimatedDurationMillis) ++ digestText preview.rationale.asStr ++
    digestInstant preview.expiresAt

theorem computeManagedProjectionRebuildDigest_eq [Sha256] (preview : ManagedProjectionRebuildPreview) :
    computeManagedProjectionRebuildDigest preview = Sha256.finalize (rebuildBytes preview) :=
  rfl

theorem rebuildBytes_injective {first second : ManagedProjectionRebuildPreview} (left : Representable first)
    (right : Representable second) (same : rebuildBytes first = rebuildBytes second) : first = second := by
  have counted := delimits_count.counted delimits_changeEntry
  simp only [rebuildBytes, List.append_assoc] at same
  obtain ⟨-, same⟩ := delimits_text (by decide) (by decide) same
  obtain ⟨intents, same⟩ := delimits_id trivial trivial same
  obtain ⟨schemas, same⟩ := delimits_fieldWord (by decide) left.schemaVersion right.schemaVersion same
  obtain ⟨revisions, same⟩ := delimits_word left.revision right.revision same
  obtain ⟨baselines, same⟩ := delimits_text left.baseline right.baseline same
  obtain ⟨changes, same⟩ := counted ⟨left.count, left.entries⟩ ⟨right.count, right.entries⟩ same
  obtain ⟨classifications, same⟩ := delimits_classification trivial trivial same
  obtain ⟨durations, same⟩ := delimits_word left.duration right.duration same
  obtain ⟨rationales, same⟩ := delimits_bounded (by decide) trivial trivial same
  have expiries := delimits_instant.injOn trivial trivial same
  cases first
  cases second
  subst intents schemas revisions baselines changes classifications durations rationales expiries
  rfl

theorem supersessionBytes_ne_rebuildBytes (supersession : Evidence.EvidenceSupersessionPreview)
    (rebuild : ManagedProjectionRebuildPreview) : Evidence.supersessionBytes supersession ≠ rebuildBytes rebuild := by
  simp only [Evidence.supersessionBytes, rebuildBytes, List.append_assoc]
  exact text_ne (by decide) (by decide) (by decide)

/-- Equal bytes come from equal previews, of a supersession and of a rebuild, and
never from one of each. -/
theorem approval_digests_cover_previews :
    (∀ [Sha256] preview, Evidence.computeEvidenceSupersessionDigest preview =
      Sha256.finalize (Evidence.supersessionBytes preview)) ∧
    (∀ [Sha256] preview, computeManagedProjectionRebuildDigest preview = Sha256.finalize (rebuildBytes preview)) ∧
    (∀ first second, VectorLength first.links.length → VectorLength second.links.length →
      Evidence.supersessionBytes first = Evidence.supersessionBytes second → first = second) ∧
    (∀ first second, Representable first → Representable second → rebuildBytes first = rebuildBytes second →
      first = second) ∧
    ∀ supersession rebuild, Evidence.supersessionBytes supersession ≠ rebuildBytes rebuild :=
  ⟨Evidence.computeEvidenceSupersessionDigest_eq, computeManagedProjectionRebuildDigest_eq,
    fun _ _ left right same => Evidence.supersessionBytes_injective left right same,
    fun _ _ left right same => rebuildBytes_injective left right same, supersessionBytes_ne_rebuildBytes⟩

def reissue : Evidence.EvidenceSupersessionPreview where
  preparedIntentId := ⟨"prepared-intent-1", .refl true⟩
  sourceId := ⟨"report", .refl true⟩
  sourceVersion := .initial
  sourceVaultPath := ⟨"reports/first.pdf", .refl true⟩
  sourceFingerprint := none
  sourceClassification := .internal
  replacementId := ⟨"report-2", .refl true⟩
  replacementVaultPath := ⟨"reports/second.pdf", .refl true⟩
  replacementFingerprint := ⟨.sha256, ⟨String.ofList (List.replicate 64 'a'), by decide⟩⟩
  replacementObservedAt := ⟨0, UtcTimestamp.epoch_lower, UtcTimestamp.epoch_upper⟩
  replacementClassification := .internal
  replacementProvenance := .userEntered
  links := [⟨.action ⟨"action-1", .refl true⟩, .initial, .internal, .internal, ⟨0, UtcTimestamp.epoch_lower, UtcTimestamp.epoch_upper⟩⟩]
  classification := .internal
  rationale := ⟨"second edition", .refl true⟩
  expiresAt := ⟨300000, UtcTimestamp.fiveMinutes_lower, UtcTimestamp.fiveMinutes_upper⟩

def publicationAt (revision : Nat) : ManagedProjectionRebuildPreview where
  preparedIntentId := ⟨"prepared-intent-2", .refl true⟩
  ledgerSchemaVersion := 1
  ledgerRevision := revision
  publishedBaselineDigest := ""
  changes := [⟨"_generated/risk/r-1.md", .risk, "r-1", .removed, .internal, none⟩]
  classification := .internal
  estimatedDurationMillis := 40
  rationale := ⟨"publish", .refl true⟩
  expiresAt := ⟨300000, UtcTimestamp.fiveMinutes_lower, UtcTimestamp.fiveMinutes_upper⟩

theorem approved_change_not_reused :
    Evidence.supersessionBytes reissue ≠ Evidence.supersessionBytes { reissue with links := [] } ∧
      rebuildBytes (publicationAt 1) ≠ rebuildBytes (publicationAt 2) := by
  have covers := approval_digests_cover_previews
  have plain (revision : Nat) (bound : revision < 2 ^ 64) : Representable (publicationAt revision) := by
    refine ⟨(by decide : 1 < 2 ^ 32), bound, (by decide : TextLength ""), (by decide : 1 < 2 ^ 64), ?_,
      (by decide : 40 < 2 ^ 64)⟩
    intro entry member
    obtain rfl := List.mem_singleton.mp member
    exact ⟨by decide, by decide, fun hash shown => by cases shown⟩
  constructor
  · intro same
    have linked := covers.2.2.1 _ _ (by decide) (by decide) same
    exact absurd (congrArg (fun preview => preview.links.length) linked) (by decide)
  · intro same
    have revised := covers.2.2.2.1 _ _ (plain 1 (by decide)) (plain 2 (by decide)) same
    exact absurd (congrArg (fun preview => preview.ledgerRevision) revised) (by decide)

end MissionControl.Projections
