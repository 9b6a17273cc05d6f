import MissionControl.Evidence.Files
import MissionControl.Evidence.Replay
import MissionControl.Proofs.EvidenceIdentity

/-! What a reference says of its file is what was read there. Calls read and write in
separate steps, while the files, the Vault and the rest of the Ledger move. -/

namespace MissionControl.Evidence
open Checked Program Interleaving

section
variable [Sha256]

def Read (readings : List Reading) (reference : EvidenceReferenceRow) (observedAt : UtcTimestamp) (digest : IntegrityDigest) :
    Prop :=
  ∃ reading ∈ readings, reading.path = reference.vaultPath ∧ reading.observedAt = observedAt ∧
    reading.found.map fileDigest = some digest

def Attested (readings : List Reading) (reference : EvidenceReferenceRow) : Prop :=
  match reference.verification with
  | .verified at' digest | .degradedLastVerified at' digest =>
    reference.fingerprint = some ⟨.sha256, digest⟩ ∧ Read readings reference at' digest
  | .observedUnpinned at' digest => reference.fingerprint = none ∧ Read readings reference at' digest
  | .unverified | .integrityMismatch => True

def Good (world : World) : Prop :=
  ∀ id registered reference, world.tables.current id = some (registered, reference) → Attested world.readings reference

def ownReadings (actions : List (Action World)) : List Reading :=
  actions.flatMap fun action => action.after.readings.drop action.before.readings.length

def KeepsBaseline (before after : World) : Prop :=
  ∀ id registered reference instant digest, after.tables.current id = some (registered, reference) →
    reference.verification = .degradedLastVerified instant digest →
    ∃ registered' reference', before.tables.current id = some (registered', reference') ∧
      (reference'.verification = .degradedLastVerified instant digest ∨ reference'.verification = .verified instant digest)

structure Created (request : CreateEvidenceFromFile) (id : EvidenceReferenceId) (world : World) : Prop where
  reserved : ∃ row, world.tables.reservations.find request.context.idempotencyId = some row ∧
    row.request = evidenceReservation ∧ row.generatedId = id.asStr
  there : world.tables.current id ≠ none

def CreatesReserved (request : Request) (before after : World) : Prop :=
  ∀ id, before.tables.current id = none → after.tables.current id ≠ none →
    ∃ creating, request = .createFromFile creating ∧ Created creating id after

def Matches (actions : List (Action World)) (verification : EvidenceVerification) : Prop :=
  ∀ instant digest, verification = .verified instant digest →
    ∀ reading ∈ ownReadings actions, reading.found.map fileDigest = some digest

def WritesMatched (actions : List (Action World)) : Prop :=
  ∀ action ∈ actions, ∀ id registered reference, action.after.tables.current id = some (registered, reference) →
    action.before.tables.current id ≠ action.after.tables.current id → Matches actions reference.verification

def Untouched (actions : List (Action World)) : Prop := ∀ action ∈ actions, action.after.tables = action.before.tables

/-- The reservation of an identifier, which only its first attempt writes. -/
def ReservesOnly (idempotencyId : IdempotencyId) (before after : EvidenceTables) : Prop :=
  before.reservations.find idempotencyId = none ∧
    ∃ reservations, after = { before with reservations, ledgerRevision := before.ledgerRevision + 1 }

def Request.refused (request : Request) (actions : List (Action World)) : Prop :=
  ∀ action ∈ actions, action.after.tables = action.before.tables ∨
    ∃ creating, request = .createFromFile creating ∧
      ReservesOnly creating.context.idempotencyId action.before.tables action.after.tables

/-- A create issued again finds what its request has created, and answers with nothing else. -/
def Reissued {ε : Type} (request : CreateEvidenceFromFile) (actions : List (Action World))
    (answer : Except ε EvidenceReferenceRecord) : Prop :=
  ∀ action id, actions.head? = some action → Created request id action.before →
    Untouched actions ∧ (∀ record, answer = .ok record → record.id = id) ∧
      (action.before.root = .ok request.chosen.root → (∀ action ∈ actions, action.works = true) →
        ∃ looked ∈ actions, ∃ registered reference, looked.before.tables.current id = some (registered, reference) ∧
          (reference.vaultPath = request.chosen.vaultPath → answer = .ok (recordOf registered reference)))

structure Truthful (world : World) (calls : List (Call Op World Request (Except RequestError EvidenceReferenceRecord))) :
    Prop where
  attested : ∀ id registered reference, world.tables.current id = some (registered, reference) →
    Attested world.readings reference
  degraded : ∀ call ∈ calls, ∀ action ∈ call.actions, KeepsBaseline action.before action.after
  matched : ∀ call ∈ calls, ∀ record, call.rest = .done (.ok record) →
    Matches call.actions record.verification ∧ WritesMatched call.actions
  refused : ∀ call ∈ calls, ∀ error, call.rest = .done (.error error) → call.request.refused call.actions
  created : ∀ call ∈ calls, ∀ action ∈ call.actions, ∀ id, action.before.tables.current id = none →
    action.after.tables.current id ≠ none → ∃ request, call.request = .createFromFile request ∧ Created request id world
  once : ∀ request request' id id', Created request id world → Created request' id' world →
    request.context.idempotencyId = request'.context.idempotencyId → id = id'
  again : ∀ call ∈ calls, ∀ request answer, call.request = .createFromFile request → call.rest = .done answer →
    Reissued request call.actions answer

end

/-- What any call, and anybody else, may do to the world. -/
structure Onwards (before after : World) : Prop where
  outlives : Outlives before.tables after.tables
  advances : ∀ id registered reference, before.tables.current id = some (registered, reference) →
    ∃ registered' reference', after.tables.current id = some (registered', reference') ∧
      registered.version.get ≤ registered'.version.get ∧
      (registered'.version = registered.version → reference' = reference)
  readings : ∀ reading ∈ before.readings, reading ∈ after.readings

theorem Onwards.refl (world : World) : Onwards world world :=
  ⟨.refl _, fun _ registered reference found => ⟨registered, reference, found, le_rfl, fun _ => rfl⟩, fun _ held => held⟩

theorem Onwards.trans {first middle last : World} (one : Onwards first middle) (two : Onwards middle last) :
    Onwards first last where
  outlives := one.outlives.trans two.outlives
  readings := fun reading held => two.readings reading (one.readings reading held)
  advances := by
    intro id registered reference found
    obtain ⟨registered', reference', found', risen, same⟩ := one.advances id registered reference found
    obtain ⟨registered'', reference'', found'', risen', same'⟩ := two.advances id registered' reference' found'
    refine ⟨registered'', reference'', found'', risen.trans risen', fun back => ?_⟩
    -- between two equal versions there is no other
    rw [back] at risen'
    have between : registered'.version = registered.version := AggregateVersion.get_injective (le_antisymm risen' risen)
    rw [same' (back.trans between.symm), same between]

theorem Follows.advances {before after : EvidenceTables} (follows : Follows before after) (id : EvidenceReferenceId)
    (registered : RegistryRow) (reference : EvidenceReferenceRow) (found : before.current id = some (registered, reference)) :
    ∃ registered' reference', after.current id = some (registered', reference') ∧
      registered.version.get ≤ registered'.version.get ∧
      (registered'.version = registered.version → reference' = reference) := by
  obtain ⟨registered', reference', found', later⟩ := follows id registered reference found
  refine ⟨registered', reference', found', ?_⟩
  rcases later.version with ⟨same, unmoved⟩ | next
  · exact ⟨by rw [same], fun _ => unmoved⟩
  · have raised := AggregateVersion.next_get next
    refine ⟨by omega, fun back => ?_⟩
    rw [back] at raised
    omega

theorem Outside.onwards {before after : World} (outside : Outside before after) : Onwards before after where
  outlives := outside.tables.outlives
  advances := outside.tables.follows.advances
  readings := fun _ held => outside.readings ▸ held

section
variable [Sha256] {request : Request} {before after : World}

def Guarantee (request : Request) (before after : World) : Prop :=
  Onwards before after ∧ KeepsBaseline before after ∧ CreatesReserved request before after

omit [Sha256] in
theorem guarantee_same (tables : after.tables = before.tables) (readings : ∀ reading ∈ before.readings, reading ∈ after.readings) :
    Guarantee request before after := by
  refine ⟨⟨?_, ?_, readings⟩, ?_, ?_⟩
  · rw [tables]
    exact .refl _
  · intro id registered reference found
    exact ⟨registered, reference, tables ▸ found, le_rfl, fun _ => rfl⟩
  · intro id registered reference instant digest found degraded
    exact ⟨registered, reference, tables ▸ found, .inl degraded⟩
  · intro id absent there
    exact absurd (tables ▸ absent) there

theorem Attested.more {readings more : List Reading} {reference : EvidenceReferenceRow}
    (attested : Attested readings reference) (grown : ∀ reading ∈ readings, reading ∈ more) : Attested more reference := by
  have read {instant : UtcTimestamp} {digest : IntegrityDigest} (read : Read readings reference instant digest) :
      Read more reference instant digest := by
    obtain ⟨reading, held, rest⟩ := read
    exact ⟨reading, grown reading held, rest⟩
  unfold Attested at attested ⊢
  cases seen : reference.verification with
  | verified instant digest | degradedLastVerified instant digest | observedUnpinned instant digest => rw [seen] at attested; exact ⟨attested.1, read attested.2⟩
  | unverified | integrityMismatch => trivial

theorem Good.same (good : Good before) (tables : after.tables = before.tables)
    (readings : ∀ reading ∈ before.readings, reading ∈ after.readings) : Good after := by
  intro id registered reference found
  exact (good id registered reference (tables ▸ found)).more readings

end

section
variable [Sha256] {request : Request} {world : World} {actions : List (Action World)}

/-- A call's program in the company of others. -/
abbrev Flows {α : Type} (request : Request) (post : List (Action World) → α → World → Prop) (program : Observing α)
    (actions : List (Action World)) (world : World) : Prop :=
  Meets Op.effect Good Onwards (Guarantee request) post program actions world

/-- Nothing written but a reservation, and nothing read so far. -/
def Quiet (request : Request) (actions : List (Action World)) : Prop := request.refused actions ∧ ownReadings actions = []

omit [Sha256] in
theorem ownReadings_append (actions taken : List (Action World)) :
    ownReadings (actions ++ taken) = ownReadings actions ++ ownReadings taken := List.flatMap_append ..

omit [Sha256] in
theorem ownReadings_still {before after : World} (works : Bool) (still : after.readings = before.readings) :
    ownReadings [⟨before, works, after⟩] = [] := by
  simp [ownReadings, still]

omit [Sha256] in
theorem refused_append {action : Action World} (refused : request.refused actions)
    (one : action.after.tables = action.before.tables) : request.refused (actions ++ [action]) := by
  intro other held
  rcases List.mem_append.mp held with old | new
  · exact refused other old
  · rw [List.mem_singleton.mp new]
    exact .inl one

omit [Sha256] in
theorem refused_current (refused : request.refused actions) {action : Action World} (held : action ∈ actions)
    (id : EvidenceReferenceId) : action.after.tables.current id = action.before.tables.current id := by
  rcases refused action held with same | ⟨_, _, _, _, same⟩
  · rw [same]
  · rw [same]
    rfl

omit [Sha256] in
theorem Quiet.idle (quiet : Quiet request actions) (works : Bool) :
    Quiet request (actions ++ [⟨world, works, world⟩]) := by
  refine ⟨refused_append quiet.1 rfl, ?_⟩
  rw [ownReadings_append, quiet.2, ownReadings_still works rfl, List.nil_append]

theorem looking_meets {α : Type} {op : Op α} (idle : ∀ works world, (Op.effect _ op works world).2 = world) :
    Flows request (fun actions' answer later => ∃ works, Onwards world later ∧ Good later ∧
      actions' = actions ++ [⟨later, works, later⟩] ∧ answer = (Op.effect _ op works later).1)
      (perform op) actions world := by
  intro later onwards good works
  have same := idle works later
  refine ⟨same.symm ▸ good, same.symm ▸ guarantee_same rfl fun _ held => held, ?_⟩
  refine Meets.pure ⟨works, ?_⟩
  rw [same]
  exact ⟨onwards, good, rfl, rfl⟩

theorem asking_meets {ε δ α : Type} {change : ε → δ} {op : Op (Except ε α)}
    (idle : ∀ works world, (Op.effect _ op works world).2 = world) :
    Flows request (fun actions' answer later => ∃ works, Onwards world later ∧ Good later ∧
      actions' = actions ++ [⟨later, works, later⟩] ∧ answer = relabel change (Op.effect _ op works later).1)
      (asking change op) actions world := by
  apply (looking_meets idle).bind
  intro actions' answer later ⟨works, onwards, good, took, same⟩
  exact Meets.pure ⟨works, onwards, good, took, by rw [same]⟩

theorem transact_meets {δ : Type} {change : Transaction.Failure DomainError → δ}
    {op : Op (Except (Transaction.Failure DomainError) (MutationOutcome EvidenceReferenceRecord))}
    {operation : EvidenceTables → Except DomainError (EvidenceTables × MutationOutcome EvidenceReferenceRecord)}
    (runs : ∀ works world, Op.effect _ op works world = transact works operation world)
    (commits : ∀ later tables outcome, Onwards world later → Good later → operation later.tables = .ok (tables, outcome) →
      Good { later with tables } ∧ Guarantee request later { later with tables }) :
    Flows request (fun actions' answer later => ∃ before works, Onwards world before ∧ Good before ∧
      actions' = actions ++ [⟨before, works, later⟩] ∧ later.readings = before.readings ∧
      ((∃ failure, answer = .error (change failure) ∧ later = before) ∨
        ∃ outcome, answer = .ok outcome ∧ operation before.tables = .ok (later.tables, outcome)))
      (asking change op) actions world := by
  apply Meets.act
  intro later onwards good works
  rw [runs]
  unfold transact
  obtain ⟨failure, ran⟩ | ⟨tables, outcome, success, ran⟩ := Transaction.run_cases works operation later.tables
  · rw [ran]
    refine ⟨good, guarantee_same rfl fun _ held => held, ?_⟩
    exact Meets.pure ⟨later, works, onwards, good, rfl, rfl, .inl ⟨failure, rfl, rfl⟩⟩
  · rw [ran]
    obtain ⟨kept, promised⟩ := commits later tables outcome onwards good success
    exact ⟨kept, promised, Meets.pure ⟨later, works, onwards, good, rfl, rfl, .inr ⟨outcome, rfl, success⟩⟩⟩

/-- What a reading makes of a reference. -/
def judged (expectedFingerprint : Option IntegrityDigest) (previous : EvidenceVerification) (now : UtcTimestamp)
    (found : Option (List UInt8)) : EvidenceVerification :=
  match found.map fileDigest with
  | some digest => compared expectedFingerprint now digest
  | none => degrade previous

structure Observed (request : Request) (actions actions' : List (Action World)) (path : VaultRelativePath)
    (now : UtcTimestamp) (found : Option (List UInt8)) (later : World) : Prop where
  refused : request.refused actions → request.refused actions'
  own : ownReadings actions' = ownReadings actions ++ [⟨path, now, found⟩]
  kept : ⟨path, now, found⟩ ∈ later.readings

theorem read_meets {α : Type} {post : List (Action World) → α → World → Prop} {root : VaultRoot} {path : VaultRelativePath}
    {now : UtcTimestamp} {rest : Option IntegrityDigest → Observing α}
    (onwards : ∀ actions' later found, Onwards world later → Observed request actions actions' path now found later →
      Flows request post (rest (found.map fileDigest)) actions' later) :
    Flows request post (perform (.read root path now) >>= rest) actions world := by
  apply Meets.act
  intro later relied good works
  have grown : ∀ reading ∈ later.readings, reading ∈ (Op.effect _ (.read root path now) works later).2.readings :=
    fun reading held => List.mem_append_left _ held
  have promised : Guarantee request later (Op.effect _ (.read root path now) works later).2 := guarantee_same rfl grown
  refine ⟨good.same rfl grown, promised, ?_⟩
  apply onwards
  · exact relied.trans promised.1
  · refine ⟨fun refused => refused_append refused rfl, ?_, List.mem_append_right _ (List.mem_singleton_self _)⟩
    rw [ownReadings_append]
    simp [ownReadings, Op.effect]

theorem observe_meets {root : VaultRoot} {path : VaultRelativePath} {expectedFingerprint : Option IntegrityDigest}
    {previous : EvidenceVerification} {now : UtcTimestamp} (quiet : Quiet request actions) :
    Flows request (fun actions' answer later => Onwards world later ∧ request.refused actions' ∧
      ∀ observed, answer = .ok observed → ∃ found, ownReadings actions' = [⟨path, now, found⟩] ∧
        ⟨path, now, found⟩ ∈ later.readings ∧ observed = judged expectedFingerprint previous now found)
      (observeEvidence root path expectedFingerprint previous now) actions world := by
  apply (looking_meets fun _ _ => rfl).onward
  · intro actions' cause later ⟨works, relied, _, took, _⟩
    exact ⟨relied, took ▸ (quiet.idle works).1, fun _ same => by cases same⟩
  intro actions' contained middle ⟨works, relied, _, took, _⟩
  have still : Quiet request actions' := took ▸ quiet.idle works
  apply read_meets
  intro actions'' later found onwards observed
  have own : ownReadings actions'' = [⟨path, now, found⟩] := by
    rw [observed.own, still.2, List.nil_append]
  have judging : judged expectedFingerprint previous now found = match found.map fileDigest with
    | some digest => compared expectedFingerprint now digest
    | none => degrade previous := rfl
  cases read : found.map fileDigest with
  | none =>
    rw [read] at judging
    refine Meets.pure ⟨relied.trans onwards, observed.refused still.1, fun answer same => ?_⟩
    cases same
    exact ⟨found, own, observed.kept, judging.symm⟩
  | some digest =>
    rw [read] at judging
    refine Meets.pure ⟨relied.trans onwards, observed.refused still.1, fun answer same => ?_⟩
    cases same
    exact ⟨found, own, observed.kept, judging.symm⟩

/-- A record as it was read. As long as its version stands, so do its columns. -/
def Known (id : EvidenceReferenceId) (record : EvidenceReferenceRecord) (world : World) : Prop :=
  ∃ registered reference registered' reference', record = recordOf registered reference ∧
    world.tables.current id = some (registered', reference') ∧ registered.version.get ≤ registered'.version.get ∧
    (registered'.version = registered.version → reference' = reference)

variable {id : EvidenceReferenceId}

omit [Sha256] in
theorem Known.later {record : EvidenceReferenceRecord} {later : World} (known : Known id record world)
    (onwards : Onwards world later) : Known id record later := by
  obtain ⟨registered, reference, registered', reference', read, found, risen, same⟩ := known
  obtain ⟨registered'', reference'', found', risen', same'⟩ := onwards.advances id registered' reference' found
  refine ⟨registered, reference, registered'', reference'', read, found', risen.trans risen', fun back => ?_⟩
  rw [back] at risen'
  have between : registered'.version = registered.version := AggregateVersion.get_injective (le_antisymm risen' risen)
  rw [same' (back.trans between.symm), same between]

omit [Sha256] in
theorem get_known {context : OperationContext} {record : EvidenceReferenceRecord}
    (success : getEvidenceReference world.tables context id = .ok (some record)) :
    ∃ registered reference, world.tables.current id = some (registered, reference) ∧ record = recordOf registered reference := by
  unfold getEvidenceReference at success
  split at success
  · cases success
  · cases loaded : loadEvidenceReferenceRecord context world.tables id with
    | error error => rw [loaded] at success; cases success
    | ok found =>
      rw [loaded] at success
      cases success
      exact loadRecord_ok loaded

theorem readCurrent_meets {expectedVersion : AggregateVersion} {context : OperationContext}
    (quiet : Quiet request actions) :
    Flows request (fun actions' answer later => Quiet request actions' ∧
      ∀ current, answer = .ok current → Known id current later ∧ current.version = expectedVersion)
      (readCurrent id expectedVersion context) actions world := by
  apply (asking_meets fun _ _ => rfl).onward
  · intro actions' cause later ⟨works, _, _, took, _⟩
    exact ⟨took ▸ quiet.idle works, fun _ same => by cases same⟩
  intro actions' found later ⟨works, _, _, took, answered⟩
  have still : Quiet request actions' := took ▸ quiet.idle works
  cases found with
  | none => exact Meets.pure ⟨still, fun _ same => by cases same⟩
  | some current =>
    dsimp only
    split
    next same =>
      refine Meets.pure ⟨still, fun _ told => ?_⟩
      cases told
      have success := relabel_ok.mp answered.symm
      cases works with
      | false => cases success
      | true =>
        obtain ⟨registered, reference, found, read⟩ := get_known success
        exact ⟨⟨registered, reference, registered, reference, read, found, le_rfl, fun _ => rfl⟩, same⟩
    next => exact Meets.pure ⟨still, fun _ told => by cases told⟩

end

section
variable [Sha256] {request : Request} {world : World} {actions : List (Action World)}

variable {revise : EvidenceReferenceRow → EvidenceReferenceRow} {tables : EvidenceTables}
  {expectedVersion : AggregateVersion} {id : EvidenceReferenceId} {record : EvidenceReferenceRecord}

theorem Good.rewritten (good : Good world) (rewrites : Rewrites id expectedVersion revise world.tables tables record)
    (attested : ∀ registered reference, world.tables.current id = some (registered, reference) →
      registered.version = expectedVersion → Attested world.readings (revise reference)) :
    Good { world with tables } := by
  intro other registered reference found
  by_cases same : other = id
  · subst same
    obtain ⟨registered', reference', registered'', found', standing, _, now, _⟩ := rewrites.standing
    cases found.symm.trans now
    exact attested registered' reference' found' standing
  · rw [show tables.current other = _ from rewrites.others other same] at found
    exact good other registered reference found

omit [Sha256] in
theorem KeepsBaseline.rewritten (rewrites : Rewrites id expectedVersion revise world.tables tables record)
    (keeps : ∀ registered reference instant digest, world.tables.current id = some (registered, reference) →
      registered.version = expectedVersion → (revise reference).verification = .degradedLastVerified instant digest →
      reference.verification = .degradedLastVerified instant digest ∨ reference.verification = .verified instant digest) :
    KeepsBaseline world { world with tables } := by
  intro other registered reference instant digest found degraded
  by_cases same : other = id
  · subst same
    obtain ⟨registered', reference', registered'', found', standing, _, now, _⟩ := rewrites.standing
    cases found.symm.trans now
    exact ⟨registered', reference', found', keeps registered' reference' instant digest found' standing degraded⟩
  · rw [show tables.current other = _ from rewrites.others other same] at found
    exact ⟨registered, reference, found, .inl degraded⟩

omit [Sha256] in
theorem CreatesReserved.rewritten (rewrites : Rewrites id expectedVersion revise world.tables tables record) :
    CreatesReserved request world { world with tables } := by
  intro other absent there
  by_cases same : other = id
  · subst same
    obtain ⟨registered', reference', _, found', _⟩ := rewrites.standing
    rw [found'] at absent
    cases absent
  · rw [show tables.current other = _ from rewrites.others other same] at there
    exact absurd absent there

theorem Change.onwards (change : Change world.tables tables) (grows : Grows world.tables tables) :
    Onwards world { world with tables } :=
  ⟨⟨grows, change.follows.references, change.intents⟩, change.follows.advances, fun _ held => held⟩

variable {found : Option (List UInt8)}

variable {previous : EvidenceVerification} {now instant : UtcTimestamp} {digest : IntegrityDigest}
  {expectedFingerprint : Option IntegrityDigest}

theorem judged_verified (verified : judged expectedFingerprint previous now found = .verified instant digest) :
    instant = now ∧ found.map fileDigest = some digest ∧ expectedFingerprint = some digest := by
  unfold judged at verified
  split at verified
  next read seen =>
    unfold compared at verified
    split at verified
    · cases verified
    · split at verified
      next same => cases verified; exact ⟨rfl, seen, by rw [same]⟩
      next => cases verified
  next =>
    cases previous with
    | _ => cases verified

theorem judged_unpinned (unpinned : judged none previous now found = .observedUnpinned instant digest) :
    instant = now ∧ found.map fileDigest = some digest := by
  unfold judged at unpinned
  split at unpinned
  next read seen => cases unpinned; exact ⟨rfl, seen⟩
  next =>
    cases previous with
    | _ => cases unpinned

theorem judged_degraded
    (degraded : judged expectedFingerprint previous now found = .degradedLastVerified instant digest) :
    previous = .degradedLastVerified instant digest ∨ previous = .verified instant digest := by
  unfold judged at degraded
  split at degraded
  next =>
    unfold compared at degraded
    split at degraded
    · cases degraded
    · split at degraded <;> cases degraded
  next =>
    cases previous with
    | verified at' digest' => cases degraded; exact .inr rfl
    | degradedLastVerified at' digest' => cases degraded; exact .inl rfl
    | unverified => cases degraded
    | integrityMismatch => cases degraded
    | observedUnpinned at' digest' => cases degraded

omit [Sha256] in
theorem fingerprint_of_digest (fingerprint : EvidenceFingerprint) : fingerprint = ⟨.sha256, fingerprint.digest⟩ :=
  fingerprint_eq.mpr rfl

theorem judged_attested {readings : List Reading} {reference : EvidenceReferenceRow} {now : UtcTimestamp}
    (attested : Attested readings reference) (read : ⟨reference.vaultPath, now, found⟩ ∈ readings) :
    Attested readings { reference with
      verification := judged (reference.fingerprint.map (·.digest)) reference.verification now found } := by
  have reading {digest : IntegrityDigest} (seen : found.map fileDigest = some digest) :
      Read readings reference now digest := ⟨_, read, rfl, rfl, seen⟩
  unfold Attested judged
  dsimp only
  cases seen : found.map fileDigest with
  | some digest =>
    cases pin : reference.fingerprint with
    | none => exact ⟨rfl, reading seen⟩
    | some fingerprint =>
      simp only [compared, Option.map_some]
      split
      next instant digest' same =>
        split at same
        next agree =>
          cases same
          exact ⟨by rw [← agree, ← fingerprint_of_digest], reading seen⟩
        next => cases same
      next instant digest' same => split at same <;> cases same
      next instant digest' same => split at same <;> cases same
      next => trivial
      next => trivial
  | none =>
    unfold Attested at attested
    cases previous : reference.verification with
    | verified instant digest =>
      rw [previous] at attested
      exact attested
    | degradedLastVerified instant digest =>
      rw [previous] at attested
      exact attested
    | unverified => trivial
    | integrityMismatch => trivial
    | observedUnpinned instant digest => trivial

variable {outcome : MutationOutcome EvidenceReferenceRecord}

variable {verification : EvidenceVerification}

omit [Sha256] in
theorem decodeRevision_ok {context : OperationContext} {auditEventId : AuditEventId} {vaultPath : VaultRelativePath}
    {fingerprint : Option EvidenceFingerprint} {version : AggregateVersion}
    (success : decodeRevision context tables id auditEventId vaultPath fingerprint verification version = .ok outcome) :
    outcome.record.verification = verification := by
  unfold decodeRevision at success
  obtain ⟨_, _, success⟩ := bind_ok.mp success
  obtain ⟨_, _, success⟩ := bind_ok.mp success
  cases pure_ok.mp success
  rfl

/-- A write of one reference, whether it goes through now or went through before. -/
structure Written (id : EvidenceReferenceId) (expectedVersion : AggregateVersion) (demands : EvidenceReferenceRow → Prop)
    (revise : EvidenceReferenceRow → EvidenceReferenceRow) (verification : EvidenceVerification)
    (before after : EvidenceTables) (record : EvidenceReferenceRecord) : Prop where
  told : record.verification = verification
  wrote : after = before ∨ Rewrites id expectedVersion revise before after record ∧ Change before after ∧
    Grows before after ∧ ∃ registered reference, before.current id = some (registered, reference) ∧ demands reference

variable {before after : EvidenceTables} {arguments : Arguments}

theorem update_written {command : UpdateEvidenceVerification}
    (success : updateEvidenceVerification command arguments before = .ok (after, outcome)) :
    Written command.id command.expectedVersion (fun _ => True) (fun row => { row with verification := command.verification })
      command.verification before after outcome.record := by
  obtain ⟨seen, same⟩ | ⟨_, grows, _, _, _, _, revised, rewrites⟩ := updateEvidenceVerification_ok success
  · obtain ⟨existing, found⟩ := Option.ne_none_iff_exists'.mp seen
    rw [updateEvidenceVerification_again found] at success
    split at success
    next agrees =>
      obtain ⟨told, decoded, answered⟩ := bind_ok.mp success
      cases pure_ok.mp answered
      exact ⟨(decodeRevision_ok decoded).trans (by rw [← agrees]), .inl rfl⟩
    next => cases success
  · obtain ⟨registered, reference, _, found, _, _, _, read⟩ := rewrites.standing
    exact ⟨by rw [read]; rfl, .inr ⟨rewrites, revised.change, grows, registered, reference, found, trivial⟩⟩

theorem pin_written {command : PinEvidenceFingerprint}
    (success : pinEvidenceFingerprint command arguments before = .ok (after, outcome)) :
    Written command.id command.expectedVersion (fun row => row.vaultPath = command.expectedCurrentPath) (fun row =>
      { row with
        verification := .verified command.observedAt command.observedFingerprint.digest
        fingerprint := some command.observedFingerprint })
      (.verified command.observedAt command.observedFingerprint.digest) before after outcome.record := by
  obtain ⟨seen, same⟩ | ⟨_, grows, _, _, _, _, revised, named, rewrites⟩ := pinEvidenceFingerprint_ok success
  · obtain ⟨existing, found⟩ := Option.ne_none_iff_exists'.mp seen
    rw [pinEvidenceFingerprint_again found] at success
    split at success
    next agrees =>
      obtain ⟨told, decoded, answered⟩ := bind_ok.mp success
      cases pure_ok.mp answered
      exact ⟨(decodeRevision_ok decoded).trans (by rw [← agrees]), .inl rfl⟩
    next => cases success
  · obtain ⟨_, _, _, _, _, _, _, read⟩ := rewrites.standing
    exact ⟨by rw [read]; rfl, .inr ⟨rewrites, revised.change, grows, _, _, revised.found, named⟩⟩

theorem relocate_written {command : RelocateEvidenceReference}
    (success : relocateEvidenceReference command arguments before = .ok (after, outcome)) :
    Written command.id command.expectedVersion (fun row => row.fingerprint = some command.observedFingerprint) (fun row =>
      { row with
        verification := .verified command.observedAt command.observedFingerprint.digest
        vaultPath := command.newVaultPath })
      (.verified command.observedAt command.observedFingerprint.digest) before after outcome.record := by
  obtain ⟨seen, same⟩ | ⟨_, grows, _, _, _, _, pinned, revised, rewrites⟩ := relocateEvidenceReference_ok success
  · obtain ⟨existing, found⟩ := Option.ne_none_iff_exists'.mp seen
    rw [relocateEvidenceReference_again found] at success
    split at success
    next agrees =>
      obtain ⟨told, decoded, answered⟩ := bind_ok.mp success
      cases pure_ok.mp answered
      exact ⟨(decodeRevision_ok decoded).trans (by rw [← agrees]), .inl rfl⟩
    next => cases success
  · obtain ⟨_, _, _, _, _, _, _, read⟩ := rewrites.standing
    exact ⟨by rw [read]; rfl, .inr ⟨rewrites, revised.change, grows, _, _, revised.found, pinned⟩⟩

structure Commits (request : Request) (verification : EvidenceVerification) (before : World) (tables : EvidenceTables)
    (record : EvidenceReferenceRecord) : Prop where
  good : Good { before with tables }
  guarantee : Guarantee request before { before with tables }
  told : record.verification = verification
  written : ∀ id registered reference, tables.current id = some (registered, reference) →
    before.tables.current id ≠ tables.current id → reference.verification = verification

theorem Written.commits {demands : EvidenceReferenceRow → Prop} (good : Good world)
    (written : Written id expectedVersion demands revise verification world.tables tables record)
    (revised : ∀ reference, (revise reference).verification = verification)
    (attested : ∀ registered reference, world.tables.current id = some (registered, reference) →
      registered.version = expectedVersion → demands reference → Attested world.readings (revise reference))
    (keeps : ∀ registered reference instant digest, world.tables.current id = some (registered, reference) →
      registered.version = expectedVersion → verification = .degradedLastVerified instant digest →
      reference.verification = .degradedLastVerified instant digest ∨ reference.verification = .verified instant digest) :
    Commits request verification world tables record := by
  rcases written.wrote with rfl | ⟨rewrites, change, grows, registered, reference, found, demanded⟩
  · exact ⟨good, guarantee_same rfl fun _ held => held, written.told, fun _ _ _ _ moved => absurd rfl moved⟩
  refine ⟨good.rewritten rewrites ?_, ⟨change.onwards grows, ?_, .rewritten rewrites⟩, written.told, ?_⟩
  · intro registered' reference' found' standing
    cases found.symm.trans found'
    exact attested registered reference found standing demanded
  · apply KeepsBaseline.rewritten rewrites
    intro registered' reference' instant digest found' standing degraded
    exact keeps registered' reference' instant digest found' standing ((revised reference').symm.trans degraded)
  · intro other registered' reference' found' moved
    by_cases same : other = id
    · subst same
      obtain ⟨_, _, _, _, _, _, now, _⟩ := rewrites.standing
      cases found'.symm.trans now
      exact revised _
    · exact absurd (rewrites.others other same).symm moved

end

section
variable [Sha256] {request : Request} {world : World} {actions : List (Action World)}

/-- How a call may end. -/
structure Ends {ε : Type} (request : Request) (actions : List (Action World)) (answer : Except ε EvidenceReferenceRecord) :
    Prop where
  matched : ∀ record, answer = .ok record → Matches actions record.verification ∧ WritesMatched actions
  refused : ∀ error, answer = .error error → request.refused actions

theorem Ends.error {ε : Type} {error : ε} (refused : request.refused actions) : Ends request actions (.error error) :=
  ⟨fun _ same => absurd same (by simp), fun _ _ => refused⟩

theorem Ends.same {ε : Type} {record : EvidenceReferenceRecord} (refused : request.refused actions)
    (matched : Matches actions record.verification) : Ends request actions (.ok record : Except ε EvidenceReferenceRecord) := by
  refine ⟨fun told same => ⟨?_, ?_⟩, nofun⟩
  · cases same
    exact matched
  · intro action held id _ _ _ moved
    exact absurd (refused_current refused held id).symm moved

theorem writing_meets {ε : Type} {change : Transaction.Failure DomainError → ε}
    {op : Op (Except (Transaction.Failure DomainError) (MutationOutcome EvidenceReferenceRecord))}
    {operation : EvidenceTables → Except DomainError (EvidenceTables × MutationOutcome EvidenceReferenceRecord)}
    (verification : EvidenceVerification) (refused : request.refused actions) (matched : Matches actions verification)
    (runs : ∀ works world, Op.effect _ op works world = transact works operation world)
    (commits : ∀ later tables outcome, Onwards world later → Good later → operation later.tables = .ok (tables, outcome) →
      Commits request verification later tables outcome.record) :
    Flows request (fun actions' answer _ => Ends request actions' answer)
      ((asking change op).onward fun outcome => pure (.ok outcome.record)) actions world := by
  have keeps (later : World) (tables : EvidenceTables) (outcome : MutationOutcome EvidenceReferenceRecord)
      (onwards : Onwards world later) (good : Good later) (success : operation later.tables = .ok (tables, outcome)) :=
    commits later tables outcome onwards good success
  apply (transact_meets runs fun later tables outcome onwards good success =>
    ⟨(keeps later tables outcome onwards good success).good, (keeps later tables outcome onwards good success).guarantee⟩).onward
  · intro actions' cause later ⟨before, works, _, _, took, _, ended⟩
    rcases ended with ⟨_, _, rfl⟩ | ⟨_, same, _⟩
    · exact .error (took ▸ refused_append refused rfl)
    · cases same
  intro actions' outcome later ⟨before, works, onwards, good, took, still, ended⟩
  rcases ended with ⟨_, same, _⟩ | ⟨_, same, success⟩
  · cases same
  cases same
  have committed := keeps before later.tables outcome onwards good success
  have agreeing : Matches actions' verification := by
    intro instant digest verified reading held
    rw [took, ownReadings_append, ownReadings_still works still, List.append_nil] at held
    exact matched instant digest verified reading held
  refine Meets.pure ⟨fun record told => ⟨?_, ?_⟩, nofun⟩
  · cases told
    rw [committed.told]
    exact agreeing
  · intro action held id registered reference found moved
    rw [took] at held
    rcases List.mem_append.mp held with old | new
    · exact absurd (refused_current refused old id).symm moved
    · rw [List.mem_singleton] at new
      subst new
      rw [committed.written id registered reference found moved]
      exact agreeing

theorem judged_matches {path : VaultRelativePath} {now : UtcTimestamp} {found : Option (List UInt8)}
    {expectedFingerprint : Option IntegrityDigest} {previous : EvidenceVerification}
    (own : ownReadings actions = [⟨path, now, found⟩]) : Matches actions (judged expectedFingerprint previous now found) := by
  intro instant digest verified reading held
  rw [own, List.mem_singleton] at held
  subst held
  exact (judged_verified verified).2.1

variable {id : EvidenceReferenceId}

omit [Sha256] in
theorem Known.reference {record : EvidenceReferenceRecord} {registered : RegistryRow} {reference : EvidenceReferenceRow}
    (known : Known id record world) (found : world.tables.current id = some (registered, reference))
    (standing : registered.version = record.version) :
    record.vaultPath = reference.vaultPath ∧ record.fingerprint = reference.fingerprint ∧
      record.verification = reference.verification := by
  obtain ⟨registered', reference', registered'', reference'', rfl, found', _, same⟩ := known
  cases found.symm.trans found'
  rw [same standing]
  exact ⟨rfl, rfl, rfl⟩

variable {expectedVersion : AggregateVersion}

variable {context : OperationContext} {arguments : Arguments} {root : VaultRoot}

theorem reobserve_meets (quiet : Quiet request actions) :
    Flows request (fun actions' answer _ => Ends request actions' answer)
      (reobserveEvidenceVerification root id expectedVersion context arguments) actions world := by
  apply (readCurrent_meets quiet).onward
  · exact fun actions' cause later read => .error read.1.1
  intro actions' current later ⟨still, seen⟩
  obtain ⟨known, _⟩ := seen current rfl
  apply (observe_meets still).bind
  intro actions'' observation last ⟨onwards, refused, observed⟩
  have known := known.later onwards
  cases observation with
  | error => exact Meets.pure (.error refused)
  | ok observation =>
    obtain ⟨found, own, kept, judgement⟩ := observed observation rfl
    subst judgement
    dsimp only
    split
    next same => exact Meets.pure (.same refused (same ▸ judged_matches own))
    next =>
      apply writing_meets _ refused (judged_matches own) fun _ _ => rfl
      intro before tables outcome moved good success
      have known := known.later moved
      apply (update_written success).commits good fun _ => rfl
      · intro registered reference there standing _
        obtain ⟨path, pin, previous⟩ := known.reference there standing
        rw [pin, previous]
        exact judged_attested (good id registered reference there) (path ▸ moved.readings _ kept)
      · intro registered reference instant digest there standing degraded
        obtain ⟨_, _, previous⟩ := known.reference there standing
        exact previous ▸ judged_degraded degraded

theorem pin_meets (quiet : Quiet request actions) :
    Flows request (fun actions' answer _ => Ends request actions' answer)
      (pinFromVault root id expectedVersion context arguments) actions world := by
  apply (readCurrent_meets quiet).onward
  · exact fun actions' cause later read => .error read.1.1
  intro actions' current later ⟨still, seen⟩
  split
  · exact Meets.pure (.error still.1)
  apply (observe_meets still).bind
  intro actions'' observation last ⟨onwards, refused, observed⟩
  split
  next => exact Meets.pure (.error refused)
  next observedAt digest =>
    obtain ⟨found, own, kept, judgement⟩ := observed _ rfl
    obtain ⟨rfl, read⟩ := judged_unpinned judgement.symm
    apply writing_meets (.verified arguments.occurredAt digest) refused ?_ fun _ _ => rfl
    · intro before tables outcome moved good success
      apply (pin_written success).commits good fun _ => rfl
      · intro registered reference there standing path
        exact ⟨rfl, _, moved.readings _ kept, path.symm, rfl, read⟩
      · exact fun _ _ _ _ _ _ same => by cases same
    · intro instant digest' verified reading held
      rw [own, List.mem_singleton] at held
      cases verified
      exact held ▸ read
  next => exact Meets.pure (.error refused)

theorem relocate_meets {expectedCurrentPath newVaultPath : VaultRelativePath} (quiet : Quiet request actions) :
    Flows request (fun actions' answer _ => Ends request actions' answer)
      (relocateTo root id expectedVersion expectedCurrentPath newVaultPath context arguments) actions world := by
  apply (observe_meets quiet).bind
  intro actions' observation last ⟨onwards, refused, observed⟩
  split
  next => exact Meets.pure (.error refused)
  next observedAt digest =>
    obtain ⟨found, own, kept, judgement⟩ := observed _ rfl
    obtain ⟨rfl, read⟩ := judged_unpinned judgement.symm
    apply writing_meets (.verified arguments.occurredAt digest) refused ?_ fun _ _ => rfl
    · intro before tables outcome moved good success
      apply (relocate_written success).commits good fun _ => rfl
      · intro registered reference there standing pinned
        exact ⟨pinned, _, moved.readings _ kept, rfl, rfl, read⟩
      · exact fun _ _ _ _ _ _ same => by cases same
    · intro instant digest' verified reading held
      rw [own, List.mem_singleton] at held
      cases verified
      exact held ▸ read
  next => exact Meets.pure (.error refused)

end

section
variable [Sha256] {creating : CreateEvidenceFromFile} {world : World} {actions : List (Action World)}

theorem observeChosen_meets {request : Request} {chosen : ChosenEvidenceFile} {now : UtcTimestamp}
    (quiet : Quiet request actions) :
    Flows request (fun actions' answer later => request.refused actions' ∧
      ∀ digest, answer = .ok digest → ∃ found, ownReadings actions' = [⟨chosen.vaultPath, now, found⟩] ∧
        ⟨chosen.vaultPath, now, found⟩ ∈ later.readings ∧ found.map fileDigest = some digest)
      (observeChosen chosen now) actions world := by
  apply (asking_meets fun _ _ => rfl).onward
  · intro actions' cause later ⟨works, _, _, took, _⟩
    exact ⟨took ▸ (quiet.idle works).1, fun _ same => by cases same⟩
  intro actions' contained middle ⟨works, _, _, took, _⟩
  have still : Quiet request actions' := took ▸ quiet.idle works
  apply read_meets
  intro actions'' later found _ observed
  have refused := observed.refused still.1
  cases read : found.map fileDigest with
  | none => exact Meets.pure ⟨refused, fun _ same => by cases same⟩
  | some digest =>
    dsimp only
    split
    next =>
      refine Meets.pure ⟨refused, fun _ same => ?_⟩
      cases same
      exact ⟨found, by rw [observed.own, still.2, List.nil_append], observed.kept, read⟩
    next => exact Meets.pure ⟨refused, fun _ same => by cases same⟩

theorem create_commits {reserved : ReservedId} {observation : FileObservation} {sameName : String → String → Bool}
    {arguments : Arguments} {tables : EvidenceTables} {outcome : MutationOutcome EvidenceReferenceRecord}
    {found : Option (List UInt8)} (good : Good world)
    (success : createEvidenceReferenceFromReservation reserved observation creating.context sameName arguments world.tables =
      .ok (tables, outcome))
    (kept : ⟨observation.vaultPath, observation.observedAt, found⟩ ∈ world.readings)
    (read : found.map fileDigest = some observation.fingerprint.digest) :
    Commits (.createFromFile creating) (.verified observation.observedAt observation.fingerprint.digest) world tables
      outcome.record := by
  obtain ⟨⟨named, kind⟩, held, success⟩ := createFromReservation_ok success
  obtain ⟨seen, rfl⟩ | ⟨_, change, grows, classification, _, _, answered, absent, now, others⟩ :=
    insertEvidenceReference_ok success
  · refine ⟨good, guarantee_same rfl fun _ held => held, ?_, fun _ _ _ _ moved => absurd rfl moved⟩
    obtain ⟨existing, stored⟩ := Option.ne_none_iff_exists'.mp seen
    rw [insertEvidenceReference_again stored] at success
    split at success
    next agrees =>
      obtain ⟨told, decoded, answered⟩ := bind_ok.mp success
      cases pure_ok.mp answered
      obtain ⟨_, _, answered⟩ := bind_ok.mp decoded
      cases pure_ok.mp answered
      exact congrArg CreateEvidenceReference.verification agrees.symm
    next => cases success
  have told := congrArg MutationOutcome.record answered
  have created : Attested world.readings
      (referenceRow (createdRecord (reservedCommand reserved observation creating.context) classification arguments.occurredAt)) :=
    ⟨congrArg some (fingerprint_of_digest _), _, kept, rfl, rfl, read⟩
  refine ⟨?_, ⟨change.onwards grows, ?_, ?_⟩, by rw [told]; rfl, ?_⟩
  · intro id registered reference there
    by_cases same : id = reserved.id
    · subst same
      cases there.symm.trans now
      exact created
    · exact good id registered reference ((others id same).symm.trans there)
  · intro id registered reference instant digest there degraded
    by_cases same : id = reserved.id
    · subst same
      cases there.symm.trans now
      cases degraded
    · exact ⟨registered, reference, (others id same).symm.trans there, .inl degraded⟩
  · intro id before after
    by_cases same : id = reserved.id
    · subst same
      refine ⟨creating, rfl, ?_, after⟩
      unfold reservationMatches at held
      rw [named] at held
      split at held
      next row stored =>
        rw [Bool.and_eq_true, decide_eq_true_iff, decide_eq_true_iff, kind] at held
        exact ⟨row, grows.reservations _ _ stored, held⟩
      next => cases held
    · exact absurd ((others id same).trans before) after
  · intro id registered reference there moved
    by_cases same : id = reserved.id
    · subst same
      cases there.symm.trans now
      rfl
    · exact absurd (others id same).symm moved

theorem createObserved_meets {reserved : ReservedId} (quiet : Quiet (.createFromFile creating) actions) :
    Flows (.createFromFile creating) (fun actions' answer _ => Ends (.createFromFile creating) actions' answer)
      (createObserved creating reserved) actions world := by
  apply (observeChosen_meets quiet).onward
  · exact fun actions' cause later read => .error read.1
  intro actions' digest middle ⟨refused, observed⟩
  obtain ⟨found, own, kept, read⟩ := observed digest rfl
  apply (asking_meets fun _ _ => rfl).onward
  · intro actions'' cause later ⟨works, _, _, took, _⟩
    exact .error (took ▸ refused_append refused rfl)
  intro actions'' named later ⟨works, onwards, _, took, _⟩
  have refused : Request.refused (.createFromFile creating) actions'' := took ▸ refused_append refused rfl
  have own : ownReadings actions'' = [⟨creating.chosen.vaultPath, creating.now, found⟩] := by
    rw [took, ownReadings_append, ownReadings_still works rfl, List.append_nil, own]
  split
  next => exact Meets.pure (.error refused)
  next => exact Meets.pure (.error refused)
  next arguments _ =>
    apply writing_meets (.verified creating.now digest) refused ?_ fun _ _ => rfl
    · intro before tables outcome moved good success
      exact create_commits good success (moved.readings _ (onwards.readings _ kept)) read
    · intro instant digest' verified reading held
      rw [own, List.mem_singleton] at held
      cases verified
      exact held ▸ read

end

section
variable {creating : CreateEvidenceFromFile} {world : World}

variable {id : EvidenceReferenceId}

theorem Created.later {later : World} (created : Created creating id world) (onwards : Onwards world later) :
    Created creating id later := by
  obtain ⟨⟨row, held, named⟩, there⟩ := created
  refine ⟨⟨row, onwards.outlives.grows.reservations _ _ held, named⟩, ?_⟩
  obtain ⟨⟨registered, reference⟩, found⟩ := Option.ne_none_iff_exists'.mp there
  obtain ⟨registered', reference', found', _⟩ := onwards.advances id registered reference found
  rw [found']
  exact Option.some_ne_none _

theorem Created.unique {other : CreateEvidenceFromFile} {id id' : EvidenceReferenceId} (created : Created creating id world)
    (again : Created other id' world) (key : creating.context.idempotencyId = other.context.idempotencyId) : id = id' := by
  obtain ⟨⟨row, held, _, names⟩, _⟩ := created
  obtain ⟨⟨row', held', _, names'⟩, _⟩ := again
  rw [key] at held
  cases held.symm.trans held'
  exact OpaqueId.asStr_injective (names.symm.trans names')

theorem parseReserved_asStr (id : EvidenceReferenceId) : parseReserved id.asStr = some id := dif_pos id.valid

variable {minted : List (Except DomainValueError EvidenceReferenceId)}

theorem reserve_again (created : Created creating id world) :
    reserveOrGetRecordId creating.context.idempotencyId evidenceReservation minted world.tables =
      .ok (world.tables, ⟨⟨creating.context.idempotencyId, evidenceReservation, id⟩, true⟩) := by
  obtain ⟨⟨row, held, kind, names⟩, _⟩ := created
  unfold reserveOrGetRecordId
  rw [held]
  refine bind_ok.mpr ⟨(), ensure_ok.mpr kind, bind_ok.mpr ⟨id, ?_, rfl⟩⟩
  rw [names, parseReserved_asStr]
  rfl

theorem reserve_ok {idempotencyId : IdempotencyId} {request : ReservationRequest} {before after : EvidenceTables}
    {reservation : Reservation}
    (success : reserveOrGetRecordId idempotencyId request minted before = .ok (after, reservation)) :
    (after = before ∧ reservation.replayed = true) ∨
      (ReservesOnly idempotencyId before after ∧ reservation.replayed = false ∧
        ∀ key row, before.reservations.find key = some row → after.reservations.find key = some row) := by
  unfold reserveOrGetRecordId at success
  split at success
  next existing found =>
    obtain ⟨_, _, success⟩ := bind_ok.mp success
    obtain ⟨_, _, success⟩ := bind_ok.mp success
    cases pure_ok.mp success
    exact .inl ⟨rfl, rfl⟩
  next unseen =>
    obtain ⟨_, _, success⟩ := bind_ok.mp success
    obtain ⟨_, _, success⟩ := bind_ok.mp success
    obtain ⟨reservations, inserted, success⟩ := bind_ok.mp success
    obtain ⟨_, _, success⟩ := bind_ok.mp success
    cases pure_ok.mp success
    exact .inr ⟨⟨unseen, reservations, rfl⟩, rfl, fun _ _ => Relation.find_insert_kept (require_ok.mp inserted)⟩

theorem ReservesOnly.guarantee {request : Request} {idempotencyId : IdempotencyId} {tables : EvidenceTables}
    (reserves : ReservesOnly idempotencyId world.tables tables)
    (kept : ∀ key row, world.tables.reservations.find key = some row → tables.reservations.find key = some row) :
    Guarantee request world { world with tables } := by
  obtain ⟨_, reservations, rfl⟩ := reserves
  refine ⟨⟨⟨{ reservations := kept }, ?_, fun _ row _ found stands => ⟨row, found, stands⟩⟩, ?_, fun _ held => held⟩, ?_, ?_⟩
  · exact fun _ registered reference found => ⟨registered, reference, found, (Later.refl _ _).remains⟩
  · exact fun _ registered reference found => ⟨registered, reference, found, le_rfl, fun _ => rfl⟩
  · exact fun _ registered reference _ _ found degraded => ⟨registered, reference, found, .inl degraded⟩
  · exact fun _ absent there => absurd absent there

theorem get_created (context : OperationContext) (created : Created creating id world) :
    ∃ registered reference, world.tables.current id = some (registered, reference) ∧
      getEvidenceReference world.tables context id = .ok (some (recordOf registered reference)) := by
  obtain ⟨⟨registered, reference⟩, found⟩ := Option.ne_none_iff_exists'.mp created.there
  refine ⟨registered, reference, found, ?_⟩
  unfold getEvidenceReference
  rw [(current_some.mp found).1, loadRecord_current found]
  rfl

theorem Reissued.unreserved {ε : Type} {actions : List (Action World)} {answer : Except ε EvidenceReferenceRecord}
    (unreserved : ∀ action id, actions.head? = some action → ¬ Created creating id action.before) :
    Reissued creating actions answer :=
  fun action id first created => absurd created (unreserved action id first)

end

section
variable [Sha256] {creating : CreateEvidenceFromFile} {world : World} {actions : List (Action World)}

theorem reserve_meets {request : Request} {ε : Type} {change : ReservationError → ε} {idempotencyId : IdempotencyId}
    {reservation : ReservationRequest} {minted : List (Except DomainValueError EvidenceReferenceId)} :
    Flows request (fun actions' answer later => ∃ before works, Onwards world before ∧
      actions' = actions ++ [⟨before, works, later⟩] ∧ later = { before with tables := later.tables } ∧
      ((∃ cause, answer = .error (change cause) ∧ later.tables = before.tables ∧
          (works = true → ∃ cause, reserveOrGetRecordId idempotencyId reservation minted before.tables = .error cause)) ∨
        ∃ reserved, answer = .ok reserved ∧
          reserveOrGetRecordId idempotencyId reservation minted before.tables = .ok (later.tables, reserved)))
      (asking change (.reserve idempotencyId reservation minted)) actions world := by
  apply Meets.act
  intro before onwards good works
  unfold Op.effect
  dsimp only
  cases reserved : reserveOrGetRecordId idempotencyId reservation minted before.tables with
  | error cause =>
    refine ⟨good, guarantee_same rfl fun _ held => held, Meets.pure ⟨before, works, onwards, rfl, rfl, .inl ⟨_, rfl, rfl, ?_⟩⟩⟩
    exact fun _ => ⟨cause, reserved⟩
  | ok told =>
    cases works with
    | false =>
      refine ⟨good, guarantee_same rfl fun _ held => held, Meets.pure ⟨before, false, onwards, rfl, rfl, .inl ⟨_, rfl, rfl, ?_⟩⟩⟩
      exact fun works => by cases works
    | true =>
      have ending : Good { before with tables := told.1 } ∧ Guarantee request before { before with tables := told.1 } := by
        obtain ⟨same, _⟩ | ⟨reserves, _, kept⟩ := reserve_ok reserved
        · rw [same]
          exact ⟨good, guarantee_same rfl fun _ held => held⟩
        · refine ⟨?_, reserves.guarantee kept⟩
          obtain ⟨_, reservations, same⟩ := reserves
          rw [same]
          exact good
      exact ⟨ending.1, ending.2, Meets.pure ⟨before, true, onwards, rfl, rfl, .inr ⟨told.2, rfl, reserved⟩⟩⟩

theorem createObserved_first {reserved : ReservedId} (quiet : Quiet (.createFromFile creating) actions)
    (first : ∃ action, actions.head? = some action ∧ ∀ id, ¬ Created creating id action.before) :
    Flows (.createFromFile creating) (fun actions' answer _ => Ends (.createFromFile creating) actions' answer ∧
      Reissued creating actions' answer) (createObserved creating reserved) actions world := by
  have meets : Flows (.createFromFile creating) _ (createObserved creating reserved) actions world :=
    createObserved_meets quiet
  rw [← List.append_nil actions] at meets ⊢
  apply (Meets.extending [] meets).weaken
  intro actions' answer later ⟨ends, extended⟩
  refine ⟨ends, .unreserved fun action id head => ?_⟩
  obtain ⟨action', there, fresh⟩ := first
  obtain ⟨taken, rfl⟩ := extended
  rw [List.head?_append, there] at head
  cases head
  exact fresh id

abbrev CreateEnds {ε : Type} (creating : CreateEvidenceFromFile) (actions : List (Action World))
    (answer : Except ε EvidenceReferenceRecord) : Prop :=
  Ends (.createFromFile creating) actions answer ∧ Reissued creating actions answer

theorem create_fails {ε : Type} {error : ε} (untouched : Untouched actions)
    (excused : ∀ action id, actions.head? = some action → Created creating id action.before →
      action.before.root = .ok creating.chosen.root → ¬ ∀ action ∈ actions, action.works = true) :
    CreateEnds creating actions (.error error) := by
  refine ⟨.error fun action held => .inl (untouched action held), fun action id head created => ?_⟩
  exact ⟨untouched, fun _ same => absurd same (by simp), fun root working => absurd working (excused action id head created root)⟩

theorem createEvidenceFromFile_meets :
    Flows (.createFromFile creating) (fun actions' answer _ => CreateEnds creating actions' answer)
      (createEvidenceFromFile creating) [] world := by
  apply (asking_meets fun _ _ => rfl).onward
  · rintro actions' cause first ⟨works, _, _, took, answered⟩
    subst took
    apply create_fails
    · exact fun action held => by rw [List.mem_singleton.mp held]
    · intro action id head _ root working
      cases head
      cases working _ (List.mem_singleton_self _)
      simp only [Op.effect, if_true, show first.root = _ from root, relabel] at answered
      cases answered
  rintro actions' root first ⟨works, _, _, took, answered⟩
  subst took
  split
  next elsewhere =>
    apply Meets.pure
    apply create_fails
    · exact fun action held => by rw [List.mem_singleton.mp held]
    · intro action id head _ root working
      cases head
      cases working _ (List.mem_singleton_self _)
      simp only [Op.effect, if_true, show first.root = _ from root, relabel] at answered
      cases answered
      exact elsewhere rfl
  next =>
  apply reserve_meets.onward
  · rintro actions' cause later ⟨before, works', onwards, took, _, ended⟩
    rcases ended with ⟨_, _, same, fails⟩ | ⟨_, told, _⟩
    · subst took
      apply create_fails
      · intro action held
        rcases List.mem_cons.mp held with rfl | held
        · rfl
        · rw [List.mem_singleton.mp held]
          exact same
      · intro action id head created _ working
        cases head
        obtain ⟨_, failed⟩ := fails (working ⟨before, works', later⟩ (by simp))
        rw [reserve_again (created.later onwards)] at failed
        cases failed
    · cases told
  rintro actions' reservation later ⟨before, works', onwards, took, still, ended⟩
  rcases ended with ⟨_, told, _⟩ | ⟨_, told, reserved⟩
  · cases told
  cases told
  subst took
  obtain ⟨same, replayed⟩ | ⟨reserves, fresh, _⟩ := reserve_ok reserved
  · rw [if_pos replayed]
    have stays : later = before := by
      rw [still, same]
    subst stays
    have quiet (last : World) (works'' : Bool) : Quiet (.createFromFile creating)
        ([] ++ [⟨first, works, first⟩] ++ [⟨later, works', later⟩] ++ [⟨last, works'', last⟩]) :=
      ((Quiet.idle ⟨fun _ held => absurd held List.not_mem_nil, rfl⟩ works).idle works').idle works''
    have untouched (last : World) (works'' : Bool) :
        Untouched ([] ++ [⟨first, works, first⟩] ++ [⟨later, works', later⟩] ++ [⟨last, works'', last⟩]) := by
      intro action held
      simp only [List.nil_append, List.cons_append, List.mem_cons, List.not_mem_nil, or_false] at held
      rcases held with rfl | rfl | rfl <;> rfl
    -- whoever has been created is the one that is looked for
    have looks {id : EvidenceReferenceId} {last : World} (created : Created creating id first) (onwards' : Onwards later last) :
        reservation.reserved.id = id ∧ ∃ registered reference, last.tables.current id = some (registered, reference) ∧
          getEvidenceReference last.tables creating.context reservation.reserved.id =
            .ok (some (recordOf registered reference)) := by
      rw [reserve_again (created.later onwards)] at reserved
      cases reserved
      exact ⟨rfl, get_created creating.context ((created.later onwards).later onwards')⟩
    apply (asking_meets fun _ _ => rfl).onward
    · rintro taken cause last ⟨works'', onwards', _, took, answered⟩
      subst took
      apply create_fails (untouched last works'')
      intro action id head created _ working
      cases head
      obtain ⟨_, _, _, _, found⟩ := looks created onwards'
      cases working ⟨last, works'', last⟩ (by simp)
      simp only [Op.effect, if_true, found, relabel] at answered
      cases answered
    rintro taken created last ⟨works'', onwards', _, took, answered⟩
    subst took
    cases works'' with
    | false => cases answered
    | true =>
    cases created with
    | none =>
      apply createObserved_first (quiet last true)
      refine ⟨_, rfl, fun id created => ?_⟩
      obtain ⟨_, _, _, _, found⟩ := looks created onwards'
      simp only [Op.effect, if_true, found, relabel] at answered
      cases answered
    | some record =>
      have told {id : EvidenceReferenceId} (created : Created creating id first) :
          ∃ registered reference, last.tables.current id = some (registered, reference) ∧
            record = recordOf registered reference ∧ record.id = id := by
        obtain ⟨named, registered, reference, there, found⟩ := looks created onwards'
        simp only [Op.effect, if_true, found, relabel] at answered
        cases answered
        have key : reference.id = id := Relation.find_key (current_some.mp there).2
        exact ⟨registered, reference, there, rfl, key⟩
      dsimp only
      split
      next path =>
        refine Meets.pure ⟨.same (quiet last true).1 ?_, fun action id head created => ?_⟩
        · intro _ _ _ reading held
          rw [(quiet last true).2] at held
          cases held
        · cases head
          obtain ⟨registered, reference, there, same, named⟩ := told created
          refine ⟨untouched last true, fun _ answer => by cases answer; exact named, fun _ _ => ?_⟩
          exact ⟨_, List.mem_append_right _ (List.mem_singleton_self _), registered, reference, there, fun _ => by rw [same]⟩
      next path =>
        refine Meets.pure ⟨.error (quiet last true).1, fun action id head created => ?_⟩
        cases head
        obtain ⟨registered, reference, there, same, _⟩ := told created
        refine ⟨untouched last true, fun _ answer => absurd answer (by simp), fun _ _ => ?_⟩
        refine ⟨_, List.mem_append_right _ (List.mem_singleton_self _), registered, reference, there, fun back => ?_⟩
        rw [same] at path
        exact absurd back path
  · rw [if_neg (by rw [fresh]; exact Bool.false_ne_true)]
    apply createObserved_first
    · refine ⟨?_, ?_⟩
      · intro action held
        simp only [List.nil_append, List.cons_append, List.mem_cons, List.not_mem_nil, or_false] at held
        rcases held with rfl | rfl
        · exact .inl rfl
        · exact .inr ⟨creating, rfl, reserves⟩
      · rw [ownReadings_append, ownReadings_still works' (by rw [still]), ownReadings_append, ownReadings_still works rfl]
        rfl
    · refine ⟨_, rfl, fun id created => ?_⟩
      obtain ⟨row, held, _⟩ := (created.later onwards).reserved
      rw [reserves.1] at held
      cases held

end

section
variable [Sha256] {request : Request} {world : World} {actions : List (Action World)}

theorem Ends.relabel {ε δ : Type} {change : ε → δ} {answer : Except ε EvidenceReferenceRecord}
    (ends : Ends request actions answer) : Ends request actions (relabel change answer) := by
  cases answer with
  | ok record =>
    refine ⟨fun told same => ?_, fun _ same => by cases same⟩
    cases same
    exact ends.matched record rfl
  | error error => exact .error (ends.refused error rfl)

omit [Sha256] in
theorem Reissued.relabel {ε δ : Type} {change : ε → δ} {creating : CreateEvidenceFromFile}
    {answer : Except ε EvidenceReferenceRecord} (reissued : Reissued creating actions answer) :
    Reissued creating actions (relabel change answer) := by
  intro action id head created
  obtain ⟨untouched, named, found⟩ := reissued action id head created
  refine ⟨untouched, fun record told => named record (relabel_ok.mp told), fun root working => ?_⟩
  obtain ⟨looked, held, registered, reference, there, told⟩ := found root working
  exact ⟨looked, held, registered, reference, there, fun path => relabel_ok.mpr (told path)⟩

theorem withVault_meets {arguments : Except DomainValueError Arguments}
    {flow : VaultRoot → Arguments → Observing (Except EvidenceWriteError EvidenceReferenceRecord)}
    (meets : ∀ root arguments actions world, Quiet request actions →
      Flows request (fun actions' answer _ => Ends request actions' answer) (flow root arguments) actions world) :
    Flows request (fun actions' answer _ => Ends request actions' answer) (withVault arguments flow) [] world := by
  have quiet : Quiet request [] := ⟨fun _ held => absurd held List.not_mem_nil, rfl⟩
  apply (asking_meets fun _ _ => rfl).onward
  · intro actions' cause later ⟨works, _, _, took, _⟩
    exact .error (took ▸ (quiet.idle works).1)
  intro actions' root later ⟨works, _, _, took, _⟩
  have still : Quiet request actions' := took ▸ quiet.idle works
  cases arguments with
  | error error => exact Meets.pure (.error still.1)
  | ok arguments => exact meets root arguments actions' later still

/-- How any call ends. -/
def Concludes (request : Request) (actions : List (Action World)) (answer : Except RequestError EvidenceReferenceRecord) : Prop :=
  Ends request actions answer ∧ ∀ creating, request = .createFromFile creating → Reissued creating actions answer

theorem write_concludes {flow : Observing (Except EvidenceWriteError EvidenceReferenceRecord)}
    (elsewhere : ∀ creating, request ≠ .createFromFile creating)
    (meets : Flows request (fun actions' answer _ => Ends request actions' answer) flow [] world) :
    Flows request (fun actions' answer _ => Concludes request actions' answer)
      (flow >>= fun answer => pure (relabel RequestError.write answer)) [] world := by
  apply meets.bind
  intro actions' answer later ends
  exact Meets.pure ⟨ends.relabel, fun creating same => absurd same (elsewhere creating)⟩

theorem flow_meets : Flows request (fun actions' answer _ => Concludes request actions' answer) request.flow [] world := by
  cases request with
  | createFromFile creating =>
    apply createEvidenceFromFile_meets.bind
    intro actions' answer later ⟨ends, reissued⟩
    refine Meets.pure ⟨ends.relabel, fun _ same => ?_⟩
    cases same
    exact reissued.relabel
  | reobserve id expectedVersion context arguments =>
    exact write_concludes (fun _ same => by cases same) (withVault_meets fun _ _ _ _ quiet => reobserve_meets quiet)
  | pin id expectedVersion context arguments =>
    exact write_concludes (fun _ same => by cases same) (withVault_meets fun _ _ _ _ quiet => pin_meets quiet)
  | relocate id expectedVersion expectedCurrentPath newVaultPath context arguments =>
    exact write_concludes (fun _ same => by cases same) (withVault_meets fun _ _ _ _ quiet => relocate_meets quiet)

theorem Outside.good {before after : World} (outside : Outside before after) (good : Good before) : Good after := by
  intro id registered reference found
  rw [outside.tables.current] at found
  rw [outside.readings]
  exact good id registered reference found

theorem Begun.good (begun : Begun world) : Good world := by
  intro id registered reference found
  have held := (current_some.mp found).2
  rw [begun.tables.references] at held
  cases held

end

namespace Choosing
open Superseding

def vault : VaultRoot := ⟨"C:/Vault"⟩

def opened : World := ⟨start, .ok vault, fun _ _ => .file [], []⟩

theorem begun : Begun opened := ⟨initially, rfl⟩

def chosen (fingerprint : EvidenceFingerprint) : Request := .createFromFile
  { chosen := ⟨vault, path, fingerprint, instant 5⟩
    classification := .internal
    context := context ⟨"create-1", .refl true⟩
    minted := [.ok plan]
    arguments := .ok (arguments ⟨"audit-1", .refl true⟩ (instant 10))
    now := instant 10
    sameName := fun one other => decide (one = other) }

abbrev concluded (fingerprint : EvidenceFingerprint) :
    Except RequestError EvidenceReferenceRecord × List (Action World) × World :=
  conclude Op.effect (chosen fingerprint).flow [] opened

theorem reached (fingerprint : EvidenceFingerprint) : Reaches Op.effect Request.flow (fun _ _ => True) Outside opened
    (concluded fingerprint).2.2 [⟨chosen fingerprint, .done (concluded fingerprint).1, (concluded fingerprint).2.1⟩] := by
  have begins : Reaches Op.effect Request.flow (fun _ _ => True) Outside opened opened
      ([] ++ [⟨chosen fingerprint, (chosen fingerprint).flow, []⟩]) :=
    .begin (chosen fingerprint) (fun _ held => absurd held List.not_mem_nil) .start
  exact begins.conclude

end Choosing

open Superseding Choosing

end MissionControl.Evidence
