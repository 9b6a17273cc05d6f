import Mathlib.Algebra.Group.Int.Defs
import Mathlib.Data.String.Basic

/-! Validated values of the domain: bounded text, opaque identifiers, aggregate
versions and instants. A value outside its bounds cannot be built. -/

namespace MissionControl

inductive ValueErrorKind where
  | empty | tooLong | invalidCharacter | unknownPersistedValue | zero
  deriving DecidableEq, Repr

structure DomainValueError where
  kind : ValueErrorKind
  deriving DecidableEq, Repr

def validateToken (value : String) (maximumLength : Nat) (allowedPunctuation : List Char) :
    Except DomainValueError Unit :=
  if value.isEmpty then .error ⟨.empty⟩
  else if value.utf8ByteSize > maximumLength then .error ⟨.tooLong⟩
  else if value.toList.all (fun character => character.isAlphanum || allowedPunctuation.contains character) then
    .ok ()
  else .error ⟨.invalidCharacter⟩

/-- The code points `str::trim` strips. -/
def isWhitespace (character : Char) : Bool :=
  let point := character.toNat
  (9 ≤ point && point ≤ 13) || point == 32 || point == 0x85 || point == 0xA0 || point == 0x1680 ||
    (0x2000 ≤ point && point ≤ 0x200A) || point == 0x2028 || point == 0x2029 || point == 0x202F ||
    point == 0x205F || point == 0x3000

def isControl (character : Char) : Bool :=
  let point := character.toNat
  point ≤ 0x1F || (0x7F ≤ point && point ≤ 0x9F)

def validateText (value : String) (maximumLength : Nat) : Except DomainValueError Unit :=
  if value.toList.all isWhitespace then .error ⟨.empty⟩
  else if value.utf8ByteSize > maximumLength then .error ⟨.tooLong⟩
  else if value.toList.any isControl then .error ⟨.invalidCharacter⟩
  else .ok ()

structure BoundedText (maximumLength : Nat) where
  asStr : String
  valid : (validateText asStr maximumLength).isOk = true
  deriving DecidableEq

def BoundedText.parse (maximumLength : Nat) (value : String) :
    Except DomainValueError (BoundedText maximumLength) :=
  if valid : (validateText value maximumLength).isOk = true then .ok ⟨value, valid⟩
  else match validateText value maximumLength with
    | .error error => .error error
    | .ok _ => .error ⟨.invalidCharacter⟩

theorem BoundedText.asStr_injective {maximumLength : Nat} :
    Function.Injective (@BoundedText.asStr maximumLength) := by
  rintro ⟨first, _⟩ ⟨second, _⟩ same
  cases same
  rfl

theorem BoundedText.size_le {maximumLength : Nat} (text : BoundedText maximumLength) :
    text.asStr.utf8ByteSize ≤ maximumLength := by
  have valid := text.valid
  simp only [validateText] at valid
  split at valid
  · cases valid
  · split at valid
    · cases valid
    · omega

/-- The identifier types of the `opaque_id!` macro. -/
inductive IdKind where
  | portfolio | product | initiative | project | roadmap | milestone | kpi | kpiObservation
  | stakeholder | relationship | actionRequest | action | decisionRequest | decision | risk | issue
  | evidenceReference | auditEvent
  | preparedIntent | approvalReceipt | recoveryEvidence | operation | correlation | idempotency

def maxEntityIdLength : Nat := 64
def maxOperationIdLength : Nat := 128

def IdKind.maximum : IdKind → Nat
  | .preparedIntent | .approvalReceipt | .recoveryEvidence | .operation | .correlation | .idempotency =>
    maxOperationIdLength
  | _ => maxEntityIdLength

structure OpaqueId (kind : IdKind) where
  asStr : String
  valid : (validateToken asStr kind.maximum ['-', '_']).isOk = true

abbrev PortfolioId := OpaqueId .portfolio
abbrev ProductId := OpaqueId .product
abbrev InitiativeId := OpaqueId .initiative
abbrev ProjectId := OpaqueId .project
abbrev RoadmapId := OpaqueId .roadmap
abbrev MilestoneId := OpaqueId .milestone
abbrev KpiId := OpaqueId .kpi
abbrev KpiObservationId := OpaqueId .kpiObservation
abbrev StakeholderId := OpaqueId .stakeholder
abbrev RelationshipId := OpaqueId .relationship
abbrev ActionRequestId := OpaqueId .actionRequest
abbrev ActionId := OpaqueId .action
abbrev DecisionRequestId := OpaqueId .decisionRequest
abbrev DecisionId := OpaqueId .decision
abbrev RiskId := OpaqueId .risk
abbrev IssueId := OpaqueId .issue
abbrev EvidenceReferenceId := OpaqueId .evidenceReference
abbrev AuditEventId := OpaqueId .auditEvent
abbrev PreparedIntentId := OpaqueId .preparedIntent
abbrev ApprovalReceiptId := OpaqueId .approvalReceipt
abbrev CorrelationId := OpaqueId .correlation
abbrev IdempotencyId := OpaqueId .idempotency

namespace OpaqueId
variable {kind : IdKind}

theorem asStr_injective : Function.Injective (@OpaqueId.asStr kind) := by
  rintro ⟨first, _⟩ ⟨second, _⟩ same
  cases same
  rfl

theorem size_le (id : OpaqueId kind) : id.asStr.utf8ByteSize ≤ 128 := by
  have bound : kind.maximum ≤ 128 := by cases kind <;> decide
  have valid := id.valid
  simp only [validateToken] at valid
  split at valid
  · cases valid
  · split at valid
    · cases valid
    · omega

/-- Identifiers compare as their text does. -/
instance : LinearOrder (OpaqueId kind) :=
  LinearOrder.lift' OpaqueId.asStr asStr_injective

instance : Std.TransCmp (compare : OpaqueId kind → OpaqueId kind → Ordering) := inferInstance

instance : LawfulBEq (OpaqueId kind) := inferInstance

end OpaqueId

structure AggregateVersion where
  get : Nat
  positive : 0 < get
  fits : get < 2 ^ 64
  deriving DecidableEq

namespace AggregateVersion

def initial : AggregateVersion := ⟨1, by decide, by decide⟩

def next (version : AggregateVersion) : Option AggregateVersion :=
  if fits : version.get + 1 < 2 ^ 64 then some ⟨version.get + 1, Nat.succ_pos _, fits⟩ else none

theorem get_injective : Function.Injective AggregateVersion.get := by
  rintro ⟨first, _, _⟩ ⟨second, _, _⟩ same
  cases same
  rfl

theorem next_get {version later : AggregateVersion} (advanced : version.next = some later) :
    later.get = version.get + 1 := by
  simp only [next] at advanced
  split at advanced
  · cases advanced; rfl
  · cases advanced

end AggregateVersion

structure UtcTimestamp where
  unixMillis : Int
  lower : -2 ^ 63 ≤ unixMillis
  upper : unixMillis < 2 ^ 63

namespace UtcTimestamp

theorem unixMillis_injective : Function.Injective UtcTimestamp.unixMillis := by
  rintro ⟨first, _, _⟩ ⟨second, _, _⟩ same
  cases same
  rfl

instance : LinearOrder UtcTimestamp :=
  LinearOrder.lift' UtcTimestamp.unixMillis unixMillis_injective

def checkedAdd (instant : UtcTimestamp) (millis : Int) : Option UtcTimestamp :=
  if bounds : -2 ^ 63 ≤ instant.unixMillis + millis ∧ instant.unixMillis + millis < 2 ^ 63 then
    some ⟨instant.unixMillis + millis, bounds.1, bounds.2⟩
  else none

def saturatingAdd (instant : UtcTimestamp) (millis : Int) : UtcTimestamp where
  unixMillis := max (-2 ^ 63) (min (2 ^ 63 - 1) (instant.unixMillis + millis))
  lower := le_max_left _ _
  upper := by omega

theorem byte_lower (byte : UInt8) : -2 ^ 63 ≤ (byte.toNat : Int) := by omega

theorem byte_upper (byte : UInt8) : (byte.toNat : Int) < 2 ^ 63 := by
  have bound := byte.toNat_lt
  omega

theorem epoch_lower : -2 ^ 63 ≤ (0 : Int) := by decide

theorem epoch_upper : (0 : Int) < 2 ^ 63 := by decide

theorem fiveMinutes_lower : -2 ^ 63 ≤ (300000 : Int) := by decide

theorem fiveMinutes_upper : (300000 : Int) < 2 ^ 63 := by decide

end UtcTimestamp

end MissionControl
