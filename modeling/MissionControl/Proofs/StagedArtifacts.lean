import MissionControl.Lib.Text
import MissionControl.Projections.Artifacts
import MissionControl.Proofs.DigestCoverage
import Mathlib.Data.List.Destutter

/-! A staged file determines the fields it was rendered from, so that what the
verification of a staged set accepts cannot be changed in any one part. -/

namespace MissionControl.Projections
open Encoding DigestCoverage

/-- ASCII letters, digits, `-` and `_`. -/
def Token (text : String) : Prop := ∀ character ∈ text.toList, character.isAlphanum ∨ character = '-' ∨ character = '_'

theorem Token.of_all {text : String}
    (all : (text.toList.all fun character => character.isAlphanum || character == '-' || character == '_') = true) :
    Token text := by
  intro character member
  simpa [or_assoc] using List.all_eq_true.mp all character member

/-- Neither a quote nor a line break. -/
def Plain (text : String) : Prop := '"' ∉ text.toList ∧ '\n' ∉ text.toList

theorem Token.plain {text : String} (token : Token text) : Plain text := by
  constructor <;>
  · intro member
    have := token _ member
    revert this
    decide

/-- Identifiers are tokens, instants are rendered ones, and labels are plain. -/
structure Spelled (fields : ProjectionFrontmatter) : Prop where
  recordId : Token fields.recordId
  ledgerAsOfUtc : ∃ instant, fields.ledgerAsOfUtc = toRfc3339Utc instant
  relationshipRefs : ∀ ref ∈ fields.relationshipRefs, ∃ kind id, Token kind ∧ Token id ∧ ref = relationshipRef kind id
  dueOrObservedAtUtc : ∀ text ∈ fields.dueOrObservedAtUtc, ∃ instant, text = toRfc3339Utc instant
  attentionLabels : ∀ label ∈ fields.attentionLabels, Plain label

structure Fielded (fields : ProjectionFrontmatter) : Prop extends Spelled fields where
  lifecycle : ∀ name ∈ fields.lifecycle, Plain name

theorem plain_append {first second : String} (left : Plain first) (right : Plain second) : Plain (first ++ second) := by
  simp only [Plain, String.toList_append, List.mem_append, not_or]
  exact ⟨⟨left.1, right.1⟩, left.2, right.2⟩

theorem plain_repr (number : Nat) : Plain (toString number) := by
  constructor <;>
  · intro member
    exact absurd (isDigit_of_mem_repr member) (by decide)

theorem plain_padded (width : Nat) (number : Int) : Plain (padded width number) := by
  have zeros (count : Nat) : Plain (String.ofList (List.replicate count '0')) := by
    constructor <;>
    · rw [String.toList_ofList]
      intro member
      exact absurd (List.eq_of_mem_replicate member) (by decide)
  have sign : Plain (if number < 0 then "-" else "") := by
    split <;> (constructor <;> decide)
  exact plain_append (plain_append sign (zeros _)) (plain_repr _)

theorem plain_piece {text mark : String} (start : Plain text) (marked : Plain mark) (width : Nat) (number : Int) :
    Plain (text ++ padded width number ++ mark) :=
  plain_append (plain_append start (plain_padded width number)) marked

theorem plain_instant (instant : UtcTimestamp) : Plain (toRfc3339Utc instant) := by
  simp only [toRfc3339Utc]
  generalize civilFromDays _ = date
  obtain ⟨year, month, day⟩ := date
  have mark (text : String) (quote : '"' ∉ text.toList) (newline : '\n' ∉ text.toList) : Plain text := ⟨quote, newline⟩
  have dash := mark "-" (by decide) (by decide)
  have colon := mark ":" (by decide) (by decide)
  have dated := plain_piece (plain_piece (plain_append (plain_padded 4 year) dash) dash 2 month)
    (mark "T" (by decide) (by decide)) 2 day
  exact plain_piece (plain_piece (plain_piece (plain_piece dated colon 2 _) colon 2 _)
    (mark "." (by decide) (by decide)) 2 _) (mark "Z" (by decide) (by decide)) 3 _

theorem plain_ref {kind id : String} (first : Token kind) (second : Token id) : Plain (relationshipRef kind id) :=
  plain_append (plain_append first.plain ⟨by decide, by decide⟩) second.plain

theorem delimits_plain : Delimits Plain fun value : String => value.toList ++ ['"'] := by
  have injective : Function.Injective String.toList := fun _ _ same => String.toList_injective same
  exact ((Delimits.closed '"').comap injective).weaken fun _ plain => plain.1

def quotedChars (key : List Char) (value : String) : List Char :=
  ((key ++ [':', ' ', '"']) ++ (value.toList ++ ['"'])) ++ ['\n']

theorem toList_quoted (key value : String) : (quoted key value).toList = quotedChars key.toList value := by
  simp [quoted, quotedChars]

theorem delimits_quoted (key : List Char) : Delimits Plain (quotedChars key) :=
  (delimits_plain.prefixed (key ++ [':', ' ', '"'])).suffixed ['\n']

def itemChars (value : String) : List Char :=
  ([' ', ' ', '-', ' ', '"'] ++ (value.toList ++ ['"'])) ++ ['\n']

theorem delimits_item : Delimits Plain itemChars :=
  (delimits_plain.prefixed [' ', ' ', '-', ' ', '"']).suffixed ['\n']

theorem toList_listed (key : String) (values : List String) : (listed key values).toList =
    if values.isEmpty then [] else (key.toList ++ [':', '\n']) ++ values.flatMap itemChars := by
  have item (value : String) : ("  - \"" ++ value ++ "\"\n").toList = itemChars value := by simp [itemChars]
  simp only [listed]
  split
  · rfl
  · simp only [String.toList_append, String.toList_join, List.flatMap_map, item, List.append_assoc]
    rfl

def listedChars (key : List Char) (values : List String) : List Char :=
  if values.isEmpty then [] else (key ++ [':', '\n']) ++ values.flatMap itemChars

theorem opens_quoted (key : List Char) (value : String) (rest : List Char) :
    Opens ':' [key] (quotedChars key value ++ rest) :=
  ⟨key, List.mem_singleton_self key, [' ', '"'] ++ (value.toList ++ ['"']) ++ ['\n'] ++ rest, by simp [quotedChars]⟩

theorem opens_optional {key : List Char} {keys : List (List Char)} {rest : List Char} (value : Option String)
    (opens : Opens ':' keys rest) : Opens ':' (key :: keys) ((value.map (quotedChars key)).getD [] ++ rest) := by
  cases value with
  | none => exact opens.weaken (List.subset_cons_self key keys)
  | some value => exact (opens_quoted key value rest).weaken (by simp)

theorem opens_listed {key : List Char} {keys : List (List Char)} {rest : List Char} (values : List String)
    (opens : Opens ':' keys rest) : Opens ':' (key :: keys) (listedChars key values ++ rest) := by
  cases values with
  | nil => exact opens.weaken (List.subset_cons_self key keys)
  | cons value values =>
    exact ⟨key, List.mem_cons_self, '\n' :: ((value :: values).flatMap itemChars ++ rest), by simp [listedChars]⟩

structure Keys (key : List Char) (keys : List (List Char)) : Prop where
  unmarked : ∀ other ∈ key :: keys, ':' ∉ other
  starts : ∀ other ∈ keys, other.head? = some 'p'
  different : key ∉ keys

section
variable {key : List Char} {keys : List (List Char)} {rest other : List Char}

theorem optional_step (distinct : Keys key keys) (opens : Opens ':' keys rest) (opens' : Opens ':' keys other)
    {first second : Option String} (left : ∀ value ∈ first, Plain value) (right : ∀ value ∈ second, Plain value)
    (same : (first.map (quotedChars key)).getD [] ++ rest = (second.map (quotedChars key)).getD [] ++ other) :
    first = second ∧ rest = other := by
  have apart {stream : List Char} (opens : Opens ':' keys stream) : Apart Plain (quotedChars key) stream := by
    intro value later _ same
    refine Opens.ne distinct.unmarked distinct.different opens ([' ', '"'] ++ value.toList ++ ['"', '\n'] ++ later) ?_
    rw [← same]
    simp [quotedChars]
  exact (delimits_quoted key).optional left right (apart opens) (apart opens') same

theorem listed_step (distinct : Keys key keys) (opens : Opens ':' keys rest) (opens' : Opens ':' keys other)
    {first second : List String} (left : ∀ value ∈ first, Plain value) (right : ∀ value ∈ second, Plain value)
    (same : listedChars key first ++ rest = listedChars key second ++ other) : first = second ∧ rest = other := by
  have ends {stream : List Char} (opens : Opens ':' keys stream) : Apart Plain itemChars stream := by
    rintro value later - same
    obtain ⟨found, member, tail, rfl⟩ := opens
    have start := distinct.starts found member
    cases found with
    | nil => cases start
    | cons head found =>
      obtain ⟨heads, -⟩ := List.cons.inj same
      rw [← heads] at start
      cases start
  have apart {stream : List Char} (opens : Opens ':' keys stream) (later : List Char) :
      (key ++ [':', '\n']) ++ later ≠ stream := by
    intro same
    refine Opens.ne distinct.unmarked distinct.different opens ('\n' :: later) ?_
    rw [← same]
    simp
  exact delimits_item.headed _ left right (ends opens) (ends opens') (apart opens) (apart opens') same

end

theorem delimits_recordType :
    Delimits (fun _ => True) fun recordType : ProjectionRecordType => quotedChars "pmc_record_type".toList recordType.asPersisted := by
  refine ((delimits_quoted _).comap ?_).weaken fun recordType _ => ?_
  · intro first second same
    cases first <;> cases second <;> first | rfl | exact absurd same (by decide)
  · cases recordType <;> (constructor <;> decide)

theorem delimits_classificationLine : Delimits (fun _ => True) fun classification : DataClassification =>
    quotedChars "pmc_classification".toList classification.asPersisted := by
  refine ((delimits_quoted _).comap DataClassification.asPersisted_injective).weaken fun classification _ => ?_
  cases classification <;> (constructor <;> decide)

theorem delimits_number (key : List Char) :
    Delimits (fun _ : Nat => True) fun number => key ++ (number.repr.toList ++ ['\n']) := by
  have line := delimits_repr '\n' (by decide)
  exact Delimits.prefixed key line

theorem toList_optional (key : String) (value : Option String) :
    ((value.map (quoted key)).getD "").toList = (value.map (quotedChars key.toList)).getD [] := by
  cases value with
  | none => rfl
  | some value => exact toList_quoted key value

/-- The lines of a header that may be missing, and what stands behind them. -/
def optionalChars (fields : ProjectionFrontmatter) (hash : String) : List Char :=
  (fields.lifecycle.map (quotedChars "pmc_lifecycle".toList)).getD [] ++
    (listedChars "pmc_relationship_refs".toList fields.relationshipRefs ++
      ((fields.dueOrObservedAtUtc.map (quotedChars "pmc_due_or_observed_at_utc".toList)).getD [] ++
        (listedChars "pmc_attention_labels".toList fields.attentionLabels ++
          (quotedChars "pmc_managed_payload_sha256".toList hash ++ ("---\n".toList ++ banner.toList)))))

theorem toList_renderFrontmatter (fields : ProjectionFrontmatter) (hash : String) :
    (renderFrontmatter fields (some hash)).toList =
      ("---\n" ++ quoted "pmc_projection_schema" "pmc.projection/v1" ++ "pmc_managed: true\n").toList ++
      (quotedChars "pmc_record_type".toList fields.recordType.asPersisted ++
      (quotedChars "pmc_record_id".toList fields.recordId ++
      (("pmc_source_revision: ".toList ++ (fields.sourceRevision.repr.toList ++ ['\n'])) ++
      (("pmc_ledger_schema_version: ".toList ++ (fields.ledgerSchemaVersion.repr.toList ++ ['\n'])) ++
      (("pmc_ledger_revision: ".toList ++ (fields.ledgerRevision.repr.toList ++ ['\n'])) ++
      (quotedChars "pmc_ledger_as_of_utc".toList fields.ledgerAsOfUtc ++
      (quotedChars "pmc_classification".toList fields.classification.asPersisted ++
      optionalChars fields hash))))))) := by
  have newline : "\n".toList = ['\n'] := rfl
  unfold renderFrontmatter optionalChars
  simp only [String.toList_append, toList_quoted, toList_listed, toList_optional, Option.map_some, Option.getD_some,
    listedChars, newline, Nat.toString_eq_repr, List.append_assoc]

theorem hash_keys : Keys "pmc_attention_labels".toList ["pmc_managed_payload_sha256".toList] :=
  ⟨by decide, by decide, by decide⟩

theorem label_keys : Keys "pmc_due_or_observed_at_utc".toList
    ["pmc_attention_labels".toList, "pmc_managed_payload_sha256".toList] :=
  ⟨by decide, by decide, by decide⟩

theorem due_keys : Keys "pmc_relationship_refs".toList
    ["pmc_due_or_observed_at_utc".toList, "pmc_attention_labels".toList, "pmc_managed_payload_sha256".toList] :=
  ⟨by decide, by decide, by decide⟩

theorem ref_keys : Keys "pmc_lifecycle".toList
    ["pmc_relationship_refs".toList, "pmc_due_or_observed_at_utc".toList, "pmc_attention_labels".toList,
      "pmc_managed_payload_sha256".toList] :=
  ⟨by decide, by decide, by decide⟩

namespace Spelled
variable {fields : ProjectionFrontmatter}

theorem plain_asOf (fielded : Spelled fields) : Plain fields.ledgerAsOfUtc := by
  obtain ⟨instant, asOf⟩ := fielded.ledgerAsOfUtc
  rw [asOf]
  exact plain_instant instant

theorem plain_due (fielded : Spelled fields) : ∀ text ∈ fields.dueOrObservedAtUtc, Plain text := by
  intro text member
  obtain ⟨instant, rfl⟩ := fielded.dueOrObservedAtUtc text member
  exact plain_instant instant

theorem plain_refs (fielded : Spelled fields) : ∀ ref ∈ fields.relationshipRefs, Plain ref := by
  intro ref member
  obtain ⟨kind, id, tokenKind, tokenId, rfl⟩ := fielded.relationshipRefs ref member
  exact plain_ref tokenKind tokenId

end Spelled

variable {first second : ProjectionFrontmatter}

/-- Each optional line is read off from the end: what follows it opens with a
later key. -/
theorem optionalChars_same {hash hash' : String} (left : Fielded first) (right : Fielded second)
    (same : optionalChars first hash = optionalChars second hash') :
    first.lifecycle = second.lifecycle ∧ first.relationshipRefs = second.relationshipRefs ∧
      first.dueOrObservedAtUtc = second.dueOrObservedAtUtc ∧ first.attentionLabels = second.attentionLabels := by
  unfold optionalChars at same
  obtain ⟨lifecycles, same⟩ := optional_step ref_keys
    (opens_listed _ (opens_optional _ (opens_listed _ (opens_quoted _ _ _))))
    (opens_listed _ (opens_optional _ (opens_listed _ (opens_quoted _ _ _)))) left.lifecycle right.lifecycle same
  obtain ⟨refs, same⟩ := listed_step due_keys (opens_optional _ (opens_listed _ (opens_quoted _ _ _)))
    (opens_optional _ (opens_listed _ (opens_quoted _ _ _))) left.plain_refs right.plain_refs same
  obtain ⟨dues, same⟩ := optional_step label_keys (opens_listed _ (opens_quoted _ _ _))
    (opens_listed _ (opens_quoted _ _ _)) left.plain_due right.plain_due same
  obtain ⟨labels, -⟩ := listed_step hash_keys (opens_quoted _ _ _) (opens_quoted _ _ _) left.attentionLabels
    right.attentionLabels same
  exact ⟨lifecycles, refs, dues, labels⟩

theorem renderFrontmatter_injective {hash hash' : String} (left : Fielded first) (right : Fielded second)
    (same : renderFrontmatter first (some hash) = renderFrontmatter second (some hash')) : first = second := by
  replace same := congrArg String.toList same
  rw [toList_renderFrontmatter, toList_renderFrontmatter] at same
  replace same := List.append_cancel_left same
  obtain ⟨types, same⟩ := delimits_recordType trivial trivial same
  obtain ⟨ids, same⟩ := delimits_quoted _ left.recordId.plain right.recordId.plain same
  obtain ⟨sources, same⟩ := delimits_number _ trivial trivial same
  obtain ⟨schemas, same⟩ := delimits_number _ trivial trivial same
  obtain ⟨revisions, same⟩ := delimits_number _ trivial trivial same
  obtain ⟨instants, same⟩ := delimits_quoted _ left.plain_asOf right.plain_asOf same
  obtain ⟨classifications, same⟩ := delimits_classificationLine trivial trivial same
  obtain ⟨lifecycles, refs, dues, labels⟩ := optionalChars_same left right same
  cases first
  cases second
  subst types ids sources schemas revisions instants classifications lifecycles refs dues labels
  rfl

section
variable [Sha256]

theorem content_injective {first second : ProjectionFrontmatter} (left : Fielded first) (right : Fielded second)
    (same : (renderProjectionArtifact first).content = (renderProjectionArtifact second).content) : first = second :=
  renderFrontmatter_injective left right (asBytes_injective same)

theorem verified_iff (artifact : ProjectionArtifact) :
    artifact.verified = true ↔ artifact = renderProjectionArtifact artifact.frontmatter := by
  obtain ⟨path, fields, content, payload, final⟩ := artifact
  have rendered : (renderProjectionArtifact fields).frontmatter = fields := rfl
  simp only [ProjectionArtifact.verified, decide_eq_true_eq]
  constructor
  · rintro ⟨rfl, rfl, rfl, rfl⟩
    rfl
  · intro same
    have parts := same
    rw [← same]
    exact ⟨rfl, rfl, rfl, rfl⟩

theorem verifyStagedArtifactSet_iff (set : ProjectionArtifactSet) : verifyStagedArtifactSet set = true ↔
    ∀ artifact ∈ set.artifacts, artifact = renderProjectionArtifact artifact.frontmatter := by
  simp only [verifyStagedArtifactSet, List.all_eq_true, verified_iff]

/-- What the fields do not account for is not verified, and neither are other
fields over the same file. -/
theorem changed_not_verified {artifact changed : ProjectionArtifact} (verified : artifact.verified = true)
    (different : changed ≠ artifact) (kept : changed.frontmatter = artifact.frontmatter ∨
      changed.content = artifact.content ∧ Fielded artifact.frontmatter ∧ Fielded changed.frontmatter) :
    changed.verified = false := by
  rw [Bool.eq_false_iff, Ne, verified_iff]
  intro rendered
  have held := (verified_iff artifact).mp verified
  have fields : changed.frontmatter = artifact.frontmatter := by
    rcases kept with fields | ⟨content, left, right⟩
    · exact fields
    · rw [rendered, held] at content
      exact content_injective right left content
  rw [fields, ← held] at rendered
  exact different rendered

/-- Two staged files with the same bytes have the same fields; a set is accepted
exactly when every artifact is what its fields render to; and no one part of an
accepted artifact can be changed. -/
theorem staged_file_determines_fields :
    (∀ first second, Fielded first → Fielded second →
      (renderProjectionArtifact first).content = (renderProjectionArtifact second).content → first = second) ∧
    (∀ set, verifyStagedArtifactSet set = true ↔
      ∀ artifact ∈ set.artifacts, artifact = renderProjectionArtifact artifact.frontmatter) ∧
    ∀ set before artifact after changed, set.artifacts = before ++ artifact :: after →
      verifyStagedArtifactSet set = true → changed ≠ artifact →
      (changed.frontmatter = artifact.frontmatter ∨
        changed.content = artifact.content ∧ Fielded artifact.frontmatter ∧ Fielded changed.frontmatter) →
      verifyStagedArtifactSet { set with artifacts := before ++ changed :: after } = false := by
  refine ⟨fun _ _ left right same => content_injective left right same, verifyStagedArtifactSet_iff, ?_⟩
  intro set before artifact after changed listed accepted different kept
  have verified : artifact.verified = true := by
    rw [verifyStagedArtifactSet, listed, List.all_eq_true] at accepted
    exact accepted artifact (List.mem_append_right _ List.mem_cons_self)
  rw [verifyStagedArtifactSet, List.all_append, List.all_cons, changed_not_verified verified different kept]
  simp

end

/-! What the Ledger's own snapshots are projected to is spelled so. -/

namespace Forgery

def epoch : UtcTimestamp := ⟨0, UtcTimestamp.epoch_lower, UtcTimestamp.epoch_upper⟩

def decided (lifecycle : String) (instant : Option String) : ProjectionFrontmatter where
  recordType := .decision
  recordId := "decision-1"
  sourceRevision := 1
  ledgerSchemaVersion := 1
  ledgerRevision := 1
  ledgerAsOfUtc := toRfc3339Utc epoch
  classification := .internal
  lifecycle := some lifecycle
  relationshipRefs := []
  dueOrObservedAtUtc := instant
  attentionLabels := []

theorem decided_spelled (lifecycle : String) {instant : Option String}
    (rendered : ∀ text ∈ instant, ∃ moment, text = toRfc3339Utc moment) : Spelled (decided lifecycle instant) where
  recordId := (.of_all (by decide) : Token "decision-1")
  ledgerAsOfUtc := ⟨epoch, rfl⟩
  relationshipRefs _ member := by cases member
  dueOrObservedAtUtc := rendered
  attentionLabels _ member := by cases member

/-- A name that closes its quote and writes the next line itself. -/
def forged : ProjectionFrontmatter :=
  decided ("effective" ++ "\"\n" ++ "pmc_due_or_observed_at_utc" ++ ": \"" ++ toRfc3339Utc epoch) none

theorem quoted_twice (key later value text : String) :
    quoted key (value ++ ("\"\n" ++ (later ++ (": \"" ++ text)))) = quoted key value ++ quoted later text := by
  simp only [quoted, String.append_assoc]

theorem forged_lines (fields : ProjectionFrontmatter) (bare : fields.relationshipRefs = []) (value text : String)
    (hash : Option String) :
    renderFrontmatter { fields with
      lifecycle := some (value ++ "\"\n" ++ "pmc_due_or_observed_at_utc" ++ ": \"" ++ text)
      dueOrObservedAtUtc := none } hash =
    renderFrontmatter { fields with lifecycle := some value, dueOrObservedAtUtc := some text } hash := by
  have missing (key : String) : listed key [] = "" := rfl
  unfold renderFrontmatter
  simp only [bare, missing, quoted_twice, Option.map_some, Option.map_none, Option.getD_some, Option.getD_none,
    String.append_empty, String.append_assoc]

theorem lifecycle_imitates_due : Spelled forged ∧ Spelled (decided "effective" (some (toRfc3339Utc epoch))) ∧
    forged ≠ decided "effective" (some (toRfc3339Utc epoch)) ∧
    ∀ [Sha256], (renderProjectionArtifact forged).content =
      (renderProjectionArtifact (decided "effective" (some (toRfc3339Utc epoch)))).content := by
  refine ⟨decided_spelled _ fun _ shown => (by cases shown), decided_spelled _ ?_, ?_, ?_⟩
  · rintro text ⟨⟩
    exact ⟨epoch, rfl⟩
  · intro same
    cases congrArg ProjectionFrontmatter.dueOrObservedAtUtc same
  · intro _
    have rendered (hash : Option String) : renderFrontmatter forged hash =
        renderFrontmatter (decided "effective" (some (toRfc3339Utc epoch))) hash :=
      forged_lines (decided "effective" none) rfl "effective" (toRfc3339Utc epoch) hash
    simp only [renderProjectionArtifact, rendered]

scoped instance : Sha256 where
  finalize _ := ⟨String.ofList (List.replicate 64 '0'), by decide⟩

theorem undated_copy_rejected :
    verifyStagedArtifactSet ⟨1, 1, [{ renderProjectionArtifact (decided "effective" (some (toRfc3339Utc epoch))) with
      frontmatter := decided "effective" none }]⟩ = false := by
  have dated : Fielded (decided "effective" (some (toRfc3339Utc epoch))) :=
    ⟨decided_spelled _ (by rintro text ⟨⟩; exact ⟨epoch, rfl⟩), by rintro name ⟨⟩; constructor <;> decide⟩
  have undated : Fielded (decided "effective" none) :=
    ⟨decided_spelled _ fun _ shown => (by cases shown), by rintro name ⟨⟩; constructor <;> decide⟩
  have staged := staged_file_determines_fields
  refine staged.2.2 ⟨1, 1, [renderProjectionArtifact (decided "effective" (some (toRfc3339Utc epoch)))]⟩ [] _ [] _ rfl ?_ ?_
    (.inr ⟨rfl, dated, undated⟩)
  · rw [staged.2.1]
    intro artifact member
    obtain rfl := List.mem_singleton.mp member
    rfl
  · intro same
    cases congrArg (fun artifact => artifact.frontmatter.dueOrObservedAtUtc) same

end Forgery

end MissionControl.Projections
