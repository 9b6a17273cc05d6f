import MissionControl.Projections.Invariant

/-! The publication ledger as a state machine: what holds in every state any
interleaving of the repository's calls reaches, and what no later call undoes. -/

namespace MissionControl.Projections
open Checked

def EndsKept (tables later : ProjectionTables) : Prop :=
  ∀ row ∈ tables.operations.rows, row.status.inFlight = false →
    later.operations.find row.idempotencyId = some row ∧
    ∀ item, item ∈ later.itemsOf row.idempotencyId ↔ item ∈ tables.itemsOf row.idempotencyId

def IntentsKept (tables later : ProjectionTables) : Prop :=
  ∀ id intent, tables.preparedIntents.find id = some intent → intent.rebuild.isSome = true →
    ∃ kept, later.preparedIntents.find id = some kept ∧ { kept with consumedAt := none } = { intent with consumedAt := none } ∧
      (intent.consumedAt.isSome = true → kept = intent)

/-- Whatever step consumes an intent is an approval that names it and finds the Ledger,
the baseline and the changes as the intent has them; it opens one new operation. -/
def SpendsExactly (turn : Turn) (tables later : ProjectionTables) : Prop :=
  ∀ id intent payload consumed, tables.preparedIntents.find id = some intent → intent.rebuild = some payload →
    intent.consumedAt = none → later.preparedIntents.find id = some consumed → consumed.consumedAt.isSome = true →
    ∃ command receipt baseline changes now available,
      turn = .call (.approveAndExecuteRebuild command receipt baseline changes now) available ∧
      command.approval.preparedId = id ∧ Spent command baseline changes now tables intent payload ∧
      tables.operations.find command.context.idempotencyId = none ∧
      ∃ row, later.operations.find command.context.idempotencyId = some row ∧ row.preparedIntentId = some id

/-- A prepared intent is stored with the revision, the baseline and the changes of the
command it answers. -/
def PreparesExactly [Sha256] (tables : ProjectionTables) : Prop :=
  ∀ command id now later intent, prepareRebuildManagedProjections command id now tables = .ok (later, intent) →
    ∃ row payload, later.preparedIntents.find intent.preview.preparedIntentId = some row ∧ row.rebuild = some payload ∧
      row.payloadDigest = intent.payloadDigest ∧ row.expiresAt = intent.preview.expiresAt ∧
      payload.ledgerSchemaVersion = command.ledgerSchemaVersion ∧ payload.ledgerRevision = command.ledgerRevision ∧
      payload.publishedBaselineDigest = command.publishedBaselineDigest ∧ payload.changes = command.changes

section
variable {tables later last : ProjectionTables}

theorem EndsKept.refl (tables : ProjectionTables) : EndsKept tables tables :=
  fun _ held _ => ⟨Relation.find_mem held, fun _ => Iff.rfl⟩

theorem EndsKept.trans (first : EndsKept tables later) (second : EndsKept later last) : EndsKept tables last := by
  intro row held ended
  obtain ⟨kept, items⟩ := first row held ended
  obtain ⟨still, rest⟩ := second row (Relation.mem_of_find kept) ended
  exact ⟨still, fun item => (rest item).trans (items item)⟩

theorem EndsKept.of_same (operations : later.operations = tables.operations) (items : later.items = tables.items) :
    EndsKept tables later := by
  intro row held _
  rw [operations]
  refine ⟨Relation.find_mem held, fun item => ?_⟩
  rw [itemsOf_congr items]

theorem Opened.endsKept {context : OperationContext} {authorization : Authorization}
    {changes : List ManagedProjectionRebuildChangeEntry} {now : UtcTimestamp}
    (opened : Opened context authorization changes now tables later) : EndsKept tables later := by
  intro row held _
  have found := Relation.find_mem held
  refine ⟨Relation.find_insert_kept opened.operations found, fun item => ?_⟩
  have other : row.idempotencyId ≠ context.idempotencyId := by
    intro same
    rw [same] at found
    cases (Relation.insert_fresh opened.operations).symm.trans found
  rw [opened.otherItems other]

theorem Moved.endsKept [Sha256] {call : Call} (moved : Moved tables later call) : EndsKept tables later := by
  cases moved with
  | unmoved same => exact same ▸ .refl tables
  | prepared intent preparedIntents prepareReplays claims inserted planned same =>
    subst same
    exact .of_same rfl rfl
  | approved row payload spent opened => exact opened.endsKept
  | automated planned opened => exact opened.endsKept
  | @cancelling context running found publishing same =>
    subst same
    intro row held ended
    have other : context.idempotencyId ≠ row.idempotencyId := by
      intro key
      rw [key, Relation.find_mem held] at found
      cases found
      rw [publishing] at ended
      cases ended
    exact ⟨by rw [Relation.find_update_other other, Relation.find_mem held], fun item => Iff.rfl⟩
  | @completed context report now completed =>
    intro row held ended
    obtain ⟨running, found, runs⟩ := completed.running
    have other : context.idempotencyId ≠ row.idempotencyId := by
      intro key
      rw [key, Relation.find_mem held] at found
      cases found
      rw [ended] at runs
      cases runs
    rw [completed.operations, Relation.find_update_other other]
    exact ⟨Relation.find_mem held, completed.otherItems other.symm⟩
  | unsynchronized updatedAt same =>
    subst same
    exact .of_same rfl rfl

variable {turn : Turn}

theorem endsKept_of_step [Sha256] (step : Step turn tables later) : EndsKept tables later := by
  cases turn with
  | call call available =>
    obtain ⟨_, same⟩ | ⟨after, answer, success, same⟩ := Transaction.run_cases available call.operation tables
    · rw [Step, same] at step
      exact step ▸ .refl tables
    · rw [Step, same] at step
      cases step
      exact (Call.moved success).endsKept
  | elsewhere => exact .of_same (Elsewhere.operations step) (Elsewhere.items step)

theorem IntentsKept.refl (tables : ProjectionTables) : IntentsKept tables tables :=
  fun _ intent found _ => ⟨intent, found, rfl, fun _ => rfl⟩

theorem IntentsKept.trans (first : IntentsKept tables later) (second : IntentsKept later last) :
    IntentsKept tables last := by
  intro id intent found kind
  obtain ⟨kept, there, same, consumed⟩ := first id intent found kind
  have kind' : kept.rebuild.isSome = true := by
    have rebuild : kept.rebuild = intent.rebuild := by injection same
    rw [rebuild]
    exact kind
  obtain ⟨still, held, equal, rest⟩ := second id kept there kind'
  refine ⟨still, held, equal.trans same, fun spent => ?_⟩
  have unmoved := consumed spent
  rw [← unmoved] at spent ⊢
  exact rest spent

theorem IntentsKept.of_same (preparedIntents : later.preparedIntents = tables.preparedIntents) :
    IntentsKept tables later :=
  fun _ intent found _ => ⟨intent, preparedIntents ▸ found, rfl, fun _ => rfl⟩

theorem Moved.intentsKept [Sha256] {call : Call} (moved : Moved tables later call) : IntentsKept tables later := by
  cases moved with
  | unmoved same => exact same ▸ .refl tables
  | prepared intent preparedIntents prepareReplays claims inserted planned same =>
    subst same
    intro id stored found _
    exact ⟨stored, Relation.find_insert_kept inserted found, rfl, fun _ => rfl⟩
  | @approved command receipt baseline changes now row payload spent opened =>
    intro id intent found _
    rw [opened.preparedIntents, spend]
    by_cases named : command.approval.preparedId = id
    · subst named
      have same := found.symm.trans spent.found
      cases same
      refine ⟨{ row with consumedAt := some now }, by rw [Relation.find_update_self found], rfl, fun consumed => ?_⟩
      rw [spent.unconsumed] at consumed
      cases consumed
    · exact ⟨intent, by rw [Relation.find_update_other named, found], rfl, fun _ => rfl⟩
  | automated planned opened => exact .of_same opened.preparedIntents
  | cancelling running found publishing same =>
    subst same
    exact .of_same rfl
  | completed completed => exact .of_same completed.preparedIntents
  | unsynchronized updatedAt same =>
    subst same
    exact .of_same rfl

theorem intentsKept_of_step [Sha256] (step : Step turn tables later) : IntentsKept tables later := by
  cases turn with
  | call call available =>
    obtain ⟨_, same⟩ | ⟨after, answer, success, same⟩ := Transaction.run_cases available call.operation tables
    · rw [Step, same] at step
      exact step ▸ .refl tables
    · rw [Step, same] at step
      cases step
      exact (Call.moved success).intentsKept
  | elsewhere =>
    intro id intent found kind
    exact ⟨intent, (Elsewhere.preparedIntents step id intent kind).mpr found, rfl, fun _ => rfl⟩

theorem SpendsExactly.of_kept
    (kept : ∀ id intent, intent.rebuild.isSome = true → tables.preparedIntents.find id = some intent →
      later.preparedIntents.find id = some intent) : SpendsExactly turn tables later := by
  intro id intent payload consumed found kind unconsumed after spent
  rw [kept id intent (by rw [kind]; rfl) found] at after
  cases after
  rw [unconsumed] at spent
  cases spent

theorem spendsExactly_of_step [Sha256] (step : Step turn tables later) : SpendsExactly turn tables later := by
  cases turn with
  | elsewhere => exact .of_kept fun id intent kind found => (Elsewhere.preparedIntents step id intent kind).mpr found
  | call call available =>
    obtain ⟨_, ran⟩ | ⟨after, answer, success, ran⟩ := Transaction.run_cases available call.operation tables
    · rw [Step, ran] at step
      subst step
      exact .of_kept fun _ _ _ found => found
    · rw [Step, ran] at step
      cases step
      cases Call.moved success with
      | unmoved same =>
        subst same
        exact .of_kept fun _ _ _ found => found
      | prepared intent preparedIntents prepareReplays claims inserted planned same =>
        subst same
        exact .of_kept fun _ _ _ found => Relation.find_insert_kept inserted found
      | @approved command receipt baseline changes now row payload spent opened =>
        intro id intent stored consumed found kind unconsumed after done
        rw [opened.preparedIntents, spend, Relation.find_update, found, Option.map_some] at after
        by_cases named : command.approval.preparedId = id
        · subst named
          cases found.symm.trans spent.found
          cases kind.symm.trans spent.rebuild
          refine ⟨command, receipt, baseline, changes, now, available, rfl, rfl, spent,
            Relation.insert_fresh opened.operations, openedRow command.context
              (.h2a command.approval.preparedId receipt .headOfProducts command.approval.acknowledgedPayloadDigest) now,
            ?_, rfl⟩
          rw [Relation.find_insert opened.operations]
          exact if_pos rfl
        · rw [if_neg named] at after
          cases after
          rw [unconsumed] at done
          cases done
      | automated planned opened => exact .of_kept fun _ _ _ found => opened.preparedIntents ▸ found
      | cancelling running found publishing same =>
        subst same
        exact .of_kept fun _ _ _ found => found
      | completed completed => exact .of_kept fun _ _ _ found => completed.preparedIntents ▸ found
      | unsynchronized updatedAt same =>
        subst same
        exact .of_kept fun _ _ _ found => found

theorem preparesExactly [Sha256] (tables : ProjectionTables) : PreparesExactly tables := by
  intro command id now later intent success
  simp only [prepareRebuildManagedProjections] at success
  split at success
  next existing _ =>
    obtain ⟨same, matched, success⟩ := bind_ok.mp success
    cases same with
    | false => cases throw_ok.mp success
    | true =>
      obtain ⟨decoded, read, success⟩ := bind_ok.mp success
      cases pure_ok.mp success
      obtain ⟨row, payload, found, kind, named, digest, expiry, _⟩ := decodePreparedIntent_ok read
      unfold prepareInputsMatch at matched
      obtain ⟨stored, there, matched⟩ := bind_ok.mp matched
      have equal : stored = payload := by
        have bound := require_ok.mp there
        rw [found, Option.bind_some, kind] at bound
        exact (Option.some.inj bound).symm
      subst equal
      have agrees := of_decide_eq_true (pure_ok.mp matched)
      rw [loadChanges, found, Option.bind_some, kind] at agrees
      exact ⟨row, stored, named.symm ▸ found, kind, digest.symm, expiry.symm, agrees.1, agrees.2.1, agrees.2.2.1,
        agrees.2.2.2.2.2⟩
  next =>
    obtain ⟨prepared, made, success⟩ := bind_ok.mp success
    obtain ⟨_, stored, success⟩ := bind_ok.mp success
    obtain ⟨_, replay, success⟩ := bind_ok.mp success
    obtain ⟨preparedIntents, inserted, rfl⟩ := persistPreparedIntent_ok stored
    obtain ⟨prepareReplays, claims, rfl⟩ := persistPrepareReplay_ok replay
    cases pure_ok.mp success
    have found : preparedIntents.find intent.preview.preparedIntentId = some (preparedRow intent) := by
      rw [Relation.find_insert inserted]
      exact if_pos rfl
    have previewed : intent.preview.ledgerSchemaVersion = command.ledgerSchemaVersion ∧
        intent.preview.ledgerRevision = command.ledgerRevision ∧
        intent.preview.publishedBaselineDigest = command.publishedBaselineDigest ∧
        intent.preview.changes = command.changes := by
      have domain := relabel_ok.mp made
      unfold prepareRebuild at domain
      obtain ⟨_, _, domain⟩ := bind_ok.mp domain
      obtain ⟨_, _, domain⟩ := bind_ok.mp domain
      cases pure_ok.mp domain
      exact ⟨rfl, rfl, rfl, rfl⟩
    exact ⟨preparedRow intent, _, found, rfl, rfl, rfl, previewed.1, previewed.2.1, previewed.2.2.1, previewed.2.2.2⟩

end

/-- In every state a run of calls reaches the invariant holds; a step spends an intent
only as approved; ends and prepared intents stay what they are; a refused call changes
no row. -/
theorem publications_sound [Sha256] {schemaVersion ledgerRevision : Nat} {claims : List IdempotencyId}
    {turns : List Turn} {tables : ProjectionTables}
    (run : Run.Evolves Step (.migrated schemaVersion ledgerRevision claims) turns tables) :
    Sound tables ∧ PreparesExactly tables ∧
    (∀ turn later, Step turn tables later → SpendsExactly turn tables later) ∧
    (∀ following later, Run.Evolves Step tables following later → EndsKept tables later ∧ IntentsKept tables later) ∧
    ∀ (call : Call) available failure, (Transaction.run available call.operation tables).2 = .error failure →
      (Transaction.run available call.operation tables).1 = tables := by
  refine ⟨(Sound.migrated schemaVersion ledgerRevision claims).run run, preparesExactly tables, ?_, ?_, ?_⟩
  · intro turn later step
    exact spendsExactly_of_step step
  · intro following later rest
    induction rest with
    | start => exact ⟨.refl tables, .refl tables⟩
    | idle _ _ kept => exact kept
    | move _ _ step kept => exact ⟨kept.1.trans (endsKept_of_step step), kept.2.trans (intentsKept_of_step step)⟩
  · intro call available failure refused
    exact Transaction.run_refused refused

namespace Vault

def name (kind : IdKind) (text : String) (valid : (validateToken text kind.maximum ['-', '_']).isOk = true := by decide) :
    OpaqueId kind := ⟨text, valid⟩

def instant (millis : Int) : UtcTimestamp :=
  UtcTimestamp.saturatingAdd ⟨0, UtcTimestamp.epoch_lower, UtcTimestamp.epoch_upper⟩ millis

def contextOf (key : IdempotencyId) : OperationContext := ⟨key, name .correlation "correlation-1" (.refl true)⟩

def change : ManagedProjectionRebuildChangeEntry where
  relativePath := "Products/product-1--1d1f1418e31393f773dfa44bf475c043.md"
  recordKind := .product
  recordId := "product-1"
  change := .created
  classification := .internal
  expectedFinalFileSha256 := some "2c26b46b68ffc68ff99b453c1d30413413422d706483bfa0f98a5e886266e7ae"

def prepare : PrepareRebuildManagedProjections where
  ledgerSchemaVersion := 48
  ledgerRevision := 7
  publishedBaselineDigest := "e3b0c44298fc1c149afbf4c8996fb92427ae41e4649b934ca495991b7852b855"
  changes := [change]
  estimatedDurationMillis := 5
  rationale := ⟨"First publication", .refl true⟩
  context := contextOf (name .idempotency "prepare-1" (.refl true))

def payloadDigest : ManagedProjectionRebuildPayloadDigest :=
  ⟨"3a3329da2d5926f1e101ae89a2b976f999ddc49cf10917111e7abaa7cd123447", .refl true⟩

/-- SHA-256 on the one preview here. -/
scoped instance : Sha256 where
  finalize _ := payloadDigest

def approval : ApproveAndExecuteRebuildManagedProjections where
  approval := ⟨name .preparedIntent "intent-1" (.refl true), .headOfProducts, payloadDigest,
    name .idempotency "execute-1" (.refl true), rfl⟩
  context := contextOf (name .idempotency "execute-1" (.refl true))

def report : ManagedProjectionPublishReport where
  status := .succeeded
  items := [⟨change.relativePath, .committed⟩]
  manifest := none

/-- A first publication, all of whose files landed but did not verify. -/
def published : List Call :=
  [.prepareRebuild prepare (name .preparedIntent "intent-1" (.refl true)) (instant 1000),
    .approveAndExecuteRebuild approval (name .approvalReceipt "receipt-1" (.refl true)) prepare.publishedBaselineDigest
      [change] (instant 2000),
    .completeRebuild approval.context report (instant 3000)]

def afterwards : ProjectionTables := runCalls published (.migrated 48 7 [])

end Vault

open Vault

theorem publication_sound :
    Sound afterwards ∧ publicationInFlight afterwards = false ∧
      (afterwards.operations.rows.map (·.status)) = [.terminal .succeeded .complete (instant 3000)] :=
  ⟨(publications_sound (evolves_runCalls published (.migrated 48 7 []))).1, by decide +kernel, rfl⟩

end MissionControl.Projections
