import MissionControl.Lib.Text
import MissionControl.Proofs.DigestCoverage
import MissionControl.Relationships.Removal

/-! The digest of a removal's preview covers all of it. The endpoints and the
effects are written without a count; each list ends where a name of the field
after it stands, and no such name is one of its own. -/

namespace MissionControl.Relationships
open Encoding DigestCoverage

theorem HeapText.asStr_injective : Function.Injective HeapText.asStr := by
  rintro ⟨first, _⟩ ⟨second, _⟩ same
  cases same
  rfl

theorem delimits_heapText : Delimits (fun _ => True) fun text : HeapText => digestText text.asStr :=
  (delimits_text.comap HeapText.asStr_injective).weaken fun text _ => text.fits

theorem delimits_intentVersion :
    Delimits (fun _ => True) fun version : UInt16 => digestField (bigEndian 2 version.toNat) := by
  refine delimits_fixed (by decide) (fun version => length_bigEndian 2 _) ?_
  intro first second same
  exact UInt16.toNat_inj.mp (bigEndian_injOn first.toNat_lt second.toNat_lt same)

theorem delimits_decimal : Delimits (fun _ => True) fun version : AggregateVersion => digestText (toString version.get) := by
  have injective := repr_injective.comp AggregateVersion.get_injective
  exact (delimits_text.comap injective).weaken fun version _ => size_repr version.fits

theorem delimits_relationshipKind :
    Delimits (fun _ => True) fun kind : RelationshipKind => digestText kind.asPersisted :=
  delimits_name (by intro first second same; cases first <;> cases second <;> first | rfl | exact absurd same (by decide))
    fun kind => by cases kind <;> decide

theorem delimits_purpose :
    Delimits (fun _ => True) fun purpose : Option StakeholderRelationshipPurpose => digestText (purposeName purpose) := by
  refine delimits_name ?_ ?_
  · rintro (_ | first) (_ | second) same
    · rfl
    · cases second <;> exact absurd same (by decide)
    · cases first <;> exact absurd same (by decide)
    · cases first <;> cases second <;> first | rfl | exact absurd same (by decide)
  · rintro (_ | purpose)
    · decide
    · cases purpose <;> decide

theorem delimits_effect : Delimits (fun _ => True) fun effect : RemovalEffect => digestText effect.effectName :=
  delimits_name (by intro first second same; cases first <;> cases second <;> first | rfl | exact absurd same (by decide))
    fun effect => by cases effect <;> decide

theorem delimits_compatible : Delimits (fun _ => True) fun flag : Bool => digestField [flag.toUInt8] :=
  delimits_fixed (by decide) (fun _ => rfl) <| by
    intro first second same
    cases first <;> cases second <;> first | rfl | exact absurd same (by decide)

theorem removalFields_same {kind : IdKind} {name name' parent parent' : String} {id id' : OpaqueId kind}
    {version version' : AggregateVersion} {classification classification' : DataClassification}
    {rest other : List UInt8} (left : name.utf8ByteSize < 2 ^ 64) (right : name'.utf8ByteSize < 2 ^ 64)
    (above : parent.utf8ByteSize < 2 ^ 64) (above' : parent'.utf8ByteSize < 2 ^ 64)
    (same : (removalFields name id.asStr version classification parent).flatMap digestText ++ rest =
      (removalFields name' id'.asStr version' classification' parent').flatMap digestText ++ other) :
    id = id' ∧ version = version' ∧ classification = classification' ∧ parent = parent' ∧ rest = other := by
  simp only [removalFields, List.flatMap_cons, List.flatMap_nil, List.append_nil, List.append_assoc] at same
  obtain ⟨-, same⟩ := delimits_text left right same
  obtain ⟨ids, same⟩ := delimits_id trivial trivial same
  obtain ⟨versions, same⟩ := delimits_decimal trivial trivial same
  obtain ⟨classifications, same⟩ := delimits_classification trivial trivial same
  obtain ⟨parents, tails⟩ := delimits_text above above' same
  exact ⟨ids, versions, classifications, parents, tails⟩

theorem delimits_endpoint : Delimits (fun _ => True) digestEndpoint := by
  rintro first second rest other - - same
  have idSize {kind : IdKind} (id : OpaqueId kind) : id.asStr.utf8ByteSize < 2 ^ 64 :=
    lt_of_le_of_lt id.size_le (by decide)
  cases first <;> cases second
  case milestone.milestone first second =>
    obtain ⟨ids, versions, classifications, parents, tails⟩ :=
      removalFields_same (by decide) (by decide) (idSize _) (idSize _) same
    cases first
    cases second
    cases ids
    cases versions
    cases classifications
    cases OpaqueId.asStr_injective parents
    exact ⟨rfl, tails⟩
  case portfolio.portfolio first second | product.product first second | initiative.initiative first second |
      roadmap.roadmap first second | kpi.kpi first second | project.project first second |
      stakeholder.stakeholder first second =>
    obtain ⟨ids, versions, classifications, -, tails⟩ :=
      removalFields_same (by decide) (by decide) (by decide) (by decide) same
    cases first
    cases second
    cases ids
    cases versions
    cases classifications
    exact ⟨rfl, tails⟩
  -- the kinds differ, and the kind is written first
  all_goals
    simp only [digestEndpoint, EndpointSnapshot.removalDigestFields, removalFields, List.flatMap_cons,
      List.append_assoc] at same
    exact absurd same (text_ne (by decide) (by decide) (by decide))

theorem endpoint_ne_kind (endpoint : EndpointSnapshot) (kind : RelationshipKind) (rest other : List UInt8) :
    digestEndpoint endpoint ++ rest ≠ digestText kind.asPersisted ++ other := by
  cases endpoint
  all_goals
    simp only [digestEndpoint, EndpointSnapshot.removalDigestFields, removalFields, List.flatMap_cons,
      List.append_assoc]
    exact text_ne (by decide) (by cases kind <;> decide) (by cases kind <;> decide)

theorem effect_ne_classification (effect : RemovalEffect) (classification : DataClassification)
    (rest other : List UInt8) :
    digestText effect.effectName ++ rest ≠ digestClassification classification ++ other := by
  refine text_ne (by cases effect <;> decide) (by cases classification <;> decide) ?_
  cases effect <;> cases classification <;> decide

theorem delimits_recovery : Delimits (fun _ => True) digestRecovery := by
  rintro ⟨id, name, verifiedAt, relationshipId, compatible⟩ ⟨_, _, _, _, _⟩ rest other - - same
  simp only [digestRecovery, List.append_assoc] at same
  obtain ⟨ids, same⟩ := delimits_id trivial trivial same
  obtain ⟨names, same⟩ := delimits_bounded (by decide) trivial trivial same
  obtain ⟨instants, same⟩ := delimits_instant trivial trivial same
  obtain ⟨relationships, same⟩ := delimits_id trivial trivial same
  obtain ⟨flags, tails⟩ := delimits_compatible trivial trivial same
  subst ids names instants relationships flags
  exact ⟨rfl, tails⟩

/-- Two previews of a removal whose digests are computed over the same bytes are
one preview, whatever endpoints and effects they list. -/
theorem removal_digest_covers_preview : Function.Injective removalBytes := by
  rintro ⟨intentType, intentVersion, preparedId, relationshipId, relationshipVersion, endpoints, kind, purpose,
    effects, classification, policy, evidence, expiresAt, cancellation, challenge⟩
    ⟨_, _, _, _, _, _, _, _, _, _, policy', _, _, cancellation', _⟩ same
  simp only [removalBytes, List.append_assoc] at same
  obtain ⟨types, same⟩ := delimits_heapText trivial trivial same
  obtain ⟨intentVersions, same⟩ := delimits_intentVersion trivial trivial same
  obtain ⟨prepared, same⟩ := delimits_id trivial trivial same
  obtain ⟨relationships, same⟩ := delimits_id trivial trivial same
  obtain ⟨versions, same⟩ := delimits_version trivial trivial same
  obtain ⟨listed, same⟩ := delimits_endpoint.terminated (fun _ _ => trivial) (fun _ _ => trivial)
    (fun _ _ _ => endpoint_ne_kind _ _ _ _) (fun _ _ _ => endpoint_ne_kind _ _ _ _) same
  obtain ⟨kinds, same⟩ := delimits_relationshipKind trivial trivial same
  obtain ⟨purposes, same⟩ := delimits_purpose trivial trivial same
  obtain ⟨followed, same⟩ := delimits_effect.terminated (fun _ _ => trivial) (fun _ _ => trivial)
    (fun _ _ _ => effect_ne_classification _ _ _ _) (fun _ _ _ => effect_ne_classification _ _ _ _) same
  obtain ⟨classifications, same⟩ := delimits_classification trivial trivial same
  obtain ⟨-, same⟩ := delimits_text (by decide) (by decide) same
  obtain ⟨recoveries, same⟩ := delimits_recovery trivial trivial same
  obtain ⟨expiries, same⟩ := delimits_instant trivial trivial same
  obtain ⟨-, same⟩ := delimits_text (by decide) (by decide) same
  have challenges := delimits_heapText.injOn trivial trivial same
  cases policy
  cases policy'
  cases cancellation
  cases cancellation'
  subst types intentVersions prepared relationships versions listed kinds purposes followed classifications recoveries expiries challenges
  rfl

end MissionControl.Relationships
