import MissionControl.Domain.Classification

/-! How a record's classification is resolved from the sources it needs: a manifest names them,
each is read through a port, and what is not read as classified closes the result. -/

namespace MissionControl

/-- A stable key of 64 bits. -/
structure ClassificationSourceId where
  key : UInt64
  deriving DecidableEq

inductive AuthoritativeClassificationState where
  | classified (value : DataClassification)
  | missing
  | unknown

inductive ClassificationPortError where
  | unavailable | readFailed

structure ClassificationAuthorityPort (Subject : Type) where
  requiredSourceManifest : Subject → Except ClassificationPortError (List ClassificationSourceId)
  readClassification : Subject → ClassificationSourceId →
    Except ClassificationPortError AuthoritativeClassificationState

def hasDuplicateIds (ids : List ClassificationSourceId) : Bool :=
  ids.zipIdx.any fun (id, index) => (ids.take index).contains id

structure TrustedClassificationSource where
  id : ClassificationSourceId
  classification : DataClassification

inductive ClassificationSourceState where
  | trusted (source : TrustedClassificationSource)
  | aiSuggestion (id : ClassificationSourceId) (classification : DataClassification)
  | missing (id : ClassificationSourceId)
  | unknown (id : ClassificationSourceId)

def ClassificationSourceState.id : ClassificationSourceState → Option ClassificationSourceId
  | .trusted source => some source.id
  | .aiSuggestion id _ | .missing id | .unknown id => some id

inductive SnapshotValidationError where
  | emptyManifest | countMismatch | duplicateManifestId | missingManifestId | unexpectedEntryId | duplicateEntryId

structure RequiredClassificationSources where
  manifest : List ClassificationSourceId
  entries : List ClassificationSourceState

namespace RequiredClassificationSources

def unavailable : RequiredClassificationSources := ⟨[⟨0⟩], [.missing ⟨0⟩]⟩

/-- The first thing wrong with the manifest, in its order. -/
def manifestProblem (manifest entryIds : List ClassificationSourceId) : Option SnapshotValidationError :=
  manifest.zipIdx.findSome? fun (id, index) =>
    if (manifest.take index).contains id then some .duplicateManifestId
    else if !entryIds.contains id then some .missingManifestId
    else none

/-- The first thing wrong with the entries, in their order. -/
def entryProblem (manifest entryIds : List ClassificationSourceId) : Option SnapshotValidationError :=
  entryIds.findSome? fun id =>
    if !manifest.contains id then some .unexpectedEntryId
    else if entryIds.count id > 1 then some .duplicateEntryId
    else none

def fromAuthority (manifest : List ClassificationSourceId) (entries : List ClassificationSourceState) :
    Except SnapshotValidationError RequiredClassificationSources :=
  if manifest.isEmpty then .error .emptyManifest
  else if manifest.length ≠ entries.length then .error .countMismatch
  else
    let entryIds := entries.filterMap (·.id)
    match manifestProblem manifest entryIds with
    | some problem => .error problem
    | none =>
      match entryProblem manifest entryIds with
      | some problem => .error problem
      | none => .ok ⟨manifest, entries⟩

end RequiredClassificationSources

structure ResolvedClassification where
  classification : DataClassification
  failClosed : Bool
  trustedSourceCount : Nat

/-- One required source: only a single entry for it that is trusted adds to the result. -/
def ResolvedClassification.absorb (resolved : ResolvedClassification) :
    List ClassificationSourceState → ResolvedClassification
  | [.trusted trusted] =>
    { classification := resolved.classification.combine trusted.classification
      failClosed := resolved.failClosed || trusted.classification == .unclassified
      trustedSourceCount := resolved.trustedSourceCount + 1 }
  | _ => { resolved with failClosed := true }

def resolveInheritance (sources : RequiredClassificationSources) : ResolvedClassification :=
  let resolved := sources.manifest.foldl
    (fun resolved requiredId => resolved.absorb (sources.entries.filter fun entry => entry.id = some requiredId))
    ⟨.«public», false, 0⟩
  if resolved.trustedSourceCount = 0 ∨ resolved.failClosed = true then
    { resolved with classification := .unclassified, failClosed := true }
  else resolved

section
variable {Subject : Type} (port : ClassificationAuthorityPort Subject) (subject : Subject)

def sourceState (sourceId : ClassificationSourceId) : ClassificationSourceState :=
  match port.readClassification subject sourceId with
  | .ok (.classified value) => .trusted ⟨sourceId, value⟩
  | .ok .missing => .missing sourceId
  | .ok .unknown => .unknown sourceId
  | .error _ => .unknown sourceId

def ClassificationAuthorityPort.resolve : ResolvedClassification :=
  match port.requiredSourceManifest subject with
  | .error _ => resolveInheritance .unavailable
  | .ok manifest =>
    if manifest.isEmpty || hasDuplicateIds manifest then resolveInheritance .unavailable
    else
      match RequiredClassificationSources.fromAuthority manifest (manifest.map (sourceState port subject)) with
      | .ok snapshot => resolveInheritance snapshot
      | .error _ => resolveInheritance .unavailable

end

inductive ClassificationDenialReason where
  | unclassified | restricted | confidential

inductive ClassificationEligibility where
  | requiresExternalAiGates (classification : DataClassification)
  | requiresExplicitOrganizationPolicy (classification : DataClassification)
  | denied (classification : DataClassification) (reason : ClassificationDenialReason)

def eligibilityForResolved (resolved : ResolvedClassification) : ClassificationEligibility :=
  match resolved.classification with
  | .«public» => .requiresExternalAiGates .«public»
  | .internal => .requiresExplicitOrganizationPolicy .internal
  | .confidential => .denied .confidential .confidential
  | .restricted => .denied .restricted .restricted
  | .unclassified => .denied .unclassified .unclassified

def ClassificationAuthorityPort.externalAiEligibility {Subject : Type} (port : ClassificationAuthorityPort Subject)
    (subject : Subject) : ClassificationEligibility :=
  eligibilityForResolved (port.resolve subject)

end MissionControl
