import Mathlib.Data.List.Perm.Subperm
import MissionControl.Projections.Steps

/-! What holds of the projection tables wherever a run leads: one publication at a time,
a head verified only in between, intents spent once, and ends that tell what was done. -/

namespace MissionControl.Projections

def OperationRow.preparedIntentId (row : OperationRow) : Option PreparedIntentId :=
  match row.authorization with
  | .h1Auto => none
  | .h2a preparedIntentId _ _ _ => some preparedIntentId

/-- The scope of an ended operation is `complete` exactly when every planned path is
committed and `none` exactly when no one is. -/
def ScopeTold (tables : ProjectionTables) (row : OperationRow) : Prop :=
  match row.status with
  | .terminal _ scope _ =>
    (scope = .complete ↔ ∀ item ∈ tables.itemsOf row.idempotencyId, item.state = .committed) ∧
    (scope = .none ↔ ∀ item ∈ tables.itemsOf row.idempotencyId, item.state ≠ .committed)
  | .publishing | .cancelling => True

/-- An approved operation consumed its intent when it started, under the intent's own
digest and before it expired. -/
def IntentSpent (tables : ProjectionTables) (row : OperationRow) : Prop :=
  match row.authorization with
  | .h1Auto => True
  | .h2a id _ _ acknowledged => ∃ intent, tables.preparedIntents.find id = some intent ∧
      intent.rebuild.isSome = true ∧ intent.consumedAt = some row.startedAt ∧ acknowledged = intent.payloadDigest ∧
      row.startedAt < intent.expiresAt

structure Sound (tables : ProjectionTables) : Prop where
  single : ∀ first ∈ tables.operations.rows, ∀ second ∈ tables.operations.rows,
    first.status.inFlight = true → second.status.inFlight = true → first = second
  synchronized : projectionHeadIsVerified tables = true → publicationInFlight tables = false
  planned : ∀ row ∈ tables.operations.rows, tables.itemsOf row.idempotencyId ≠ []
  owned : ∀ item ∈ tables.items.rows, (tables.operations.find item.idempotencyId).isSome = true
  told : ∀ row ∈ tables.operations.rows, ScopeTold tables row
  prepared : ∀ id intent payload, tables.preparedIntents.find id = some intent → intent.rebuild = some payload →
    payload.changes ≠ []
  spent : ∀ row ∈ tables.operations.rows, IntentSpent tables row
  once : ∀ first ∈ tables.operations.rows, ∀ second ∈ tables.operations.rows, ∀ id,
    first.preparedIntentId = some id → second.preparedIntentId = some id → first = second

section
variable {tables before after : ProjectionTables} {context : OperationContext} {authorization : Authorization}
  {changes : List ManagedProjectionRebuildChangeEntry} {report : ManagedProjectionPublishReport} {now : UtcTimestamp}

variable {id : IdempotencyId}

theorem mem_itemsOf {item : OperationItemRow} :
    item ∈ tables.itemsOf id ↔ tables.items.find (id, item.relativePath) = some item ∧ item.idempotencyId = id := by
  rw [ProjectionTables.itemsOf, List.mem_filter, Relation.mem_iff, decide_eq_true_iff]
  constructor
  · intro ⟨found, named⟩
    exact ⟨named ▸ found, named⟩
  · intro ⟨found, named⟩
    exact ⟨named.symm ▸ found, named⟩

theorem projectionHeadIsVerified_iff :
    projectionHeadIsVerified tables = true ↔ ∃ manifestId updatedAt, tables.head = some ⟨.verified manifestId, updatedAt⟩ := by
  unfold projectionHeadIsVerified
  cases tables.head with
  | none => simp
  | some head =>
    obtain ⟨integrity, updatedAt⟩ := head
    cases integrity <;> simp

theorem not_verified {manifestId : Option String} {updatedAt : UtcTimestamp}
    (head : tables.head = some ⟨.outOfSync manifestId, updatedAt⟩) : projectionHeadIsVerified tables = false := by
  unfold projectionHeadIsVerified
  rw [head]
  rfl

theorem Completed.covers (completed : Completed context report now before after) {row : OperationItemRow}
    (held : row ∈ before.itemsOf context.idempotencyId) :
    ∃ item ∈ report.items, item.relativePath = row.relativePath := by
  have within : report.items.map (·.relativePath) ⊆ (before.itemsOf context.idempotencyId).map (·.relativePath) := by
    intro path reported
    obtain ⟨item, member, rfl⟩ := List.mem_map.mp reported
    obtain ⟨found, stored⟩ := Option.isSome_iff_exists.mp (completed.items.planned item member)
    have keyed := Relation.find_key stored
    have path : found.relativePath = item.relativePath := congrArg Prod.snd keyed
    rw [← path] at stored ⊢
    exact List.mem_map_of_mem (mem_itemsOf.mpr ⟨stored, congrArg Prod.fst keyed⟩)
  have whole : ((before.itemsOf context.idempotencyId).map (·.relativePath)).length ≤
      (report.items.map (·.relativePath)).length := by
    rw [List.length_map, List.length_map, completed.whole]
  have all := (completed.distinct.subperm within).perm_of_length_le whole
  exact List.mem_map.mp (all.mem_iff.mpr (List.mem_map_of_mem held))

theorem Completed.states (completed : Completed context report now before after)
    (holds : ManagedProjectionPublishItemState → Prop) :
    (∀ item ∈ report.items, holds item.state) ↔ ∀ row ∈ after.itemsOf context.idempotencyId, holds row.state := by
  constructor
  · intro told row held
    obtain ⟨found, named⟩ := mem_itemsOf.mp held
    have reported : ∃ item ∈ report.items, item.relativePath = row.relativePath := by
      by_contra missed
      have apart : (context.idempotencyId, row.relativePath) ∉
          report.items.map fun item => (context.idempotencyId, item.relativePath) := by
        intro among
        obtain ⟨item, member, same⟩ := List.mem_map.mp among
        exact missed ⟨item, member, congrArg Prod.snd same⟩
      rw [completed.items.others _ apart] at found
      exact missed (completed.covers (mem_itemsOf.mpr ⟨found, named⟩))
    obtain ⟨item, member, path⟩ := reported
    obtain ⟨old, planned⟩ := Option.isSome_iff_exists.mp (completed.items.planned item member)
    have settled := completed.items.told item member old planned
    rw [path, found] at settled
    cases settled
    exact told item member
  · intro told item member
    obtain ⟨old, planned⟩ := Option.isSome_iff_exists.mp (completed.items.planned item member)
    have keyed := Relation.find_key planned
    have path : old.relativePath = item.relativePath := congrArg Prod.snd keyed
    have settled := completed.items.told item member old planned
    rw [← path] at settled
    exact told { old with state := item.state } (mem_itemsOf.mpr ⟨settled, congrArg Prod.fst keyed⟩)

theorem Completed.otherItems (completed : Completed context report now before after)
    (other : id ≠ context.idempotencyId) (item : OperationItemRow) :
    item ∈ after.itemsOf id ↔ item ∈ before.itemsOf id := by
  have apart : (id, item.relativePath) ∉ report.items.map fun item => (context.idempotencyId, item.relativePath) := by
    intro among
    obtain ⟨reported, _, same⟩ := List.mem_map.mp among
    exact other (congrArg Prod.fst same).symm
  rw [mem_itemsOf, mem_itemsOf, completed.items.others _ apart]

theorem Opened.itemsOf (opened : Opened context authorization changes now before after) (id : IdempotencyId) :
    after.itemsOf id = before.itemsOf id ++ if context.idempotencyId = id then changes.map (plannedRow context) else [] := by
  unfold ProjectionTables.itemsOf
  rw [opened.items, List.filter_append]
  congr 1
  split
  next same =>
    rw [List.filter_eq_self]
    intro item held
    obtain ⟨entry, _, rfl⟩ := List.mem_map.mp held
    exact decide_eq_true same
  next different =>
    rw [List.filter_eq_nil_iff]
    intro item held
    obtain ⟨entry, _, rfl⟩ := List.mem_map.mp held
    rw [decide_eq_true_iff]
    exact different

theorem Opened.otherItems (opened : Opened context authorization changes now before after)
    (other : id ≠ context.idempotencyId) : after.itemsOf id = before.itemsOf id := by
  rw [opened.itemsOf, if_neg other.symm, List.append_nil]

end

section
variable {tables later : ProjectionTables} {row : OperationRow}

theorem itemsOf_congr (items : later.items = tables.items) (id : IdempotencyId) : later.itemsOf id = tables.itemsOf id := by
  rw [ProjectionTables.itemsOf, items, ← ProjectionTables.itemsOf]

theorem ScopeTold.congr (told : ScopeTold tables row)
    (same : ∀ item, item ∈ later.itemsOf row.idempotencyId ↔ item ∈ tables.itemsOf row.idempotencyId) :
    ScopeTold later row := by
  unfold ScopeTold at told ⊢
  split
  next status scope at_ ended =>
    rw [ended] at told
    simpa only [same] using told
  · trivial
  · trivial

theorem IntentSpent.congr (spent : IntentSpent tables row)
    (same : ∀ id intent, intent.rebuild.isSome = true → tables.preparedIntents.find id = some intent →
      intent.consumedAt.isSome = true → later.preparedIntents.find id = some intent) : IntentSpent later row := by
  unfold IntentSpent at spent ⊢
  split
  · trivial
  next id receipt actor acknowledged authority =>
    rw [authority] at spent
    obtain ⟨intent, found, kind, consumed, rest⟩ := spent
    exact ⟨intent, same id intent kind found (by rw [consumed]; rfl), kind, consumed, rest⟩

theorem Sound.congr (sound : Sound tables) (operations : later.operations = tables.operations)
    (items : later.items = tables.items)
    (head : projectionHeadIsVerified later = true → projectionHeadIsVerified tables = true)
    (prepared : ∀ id intent payload, later.preparedIntents.find id = some intent → intent.rebuild = some payload →
      payload.changes ≠ [])
    (kept : ∀ id intent, intent.rebuild.isSome = true → tables.preparedIntents.find id = some intent →
      intent.consumedAt.isSome = true → later.preparedIntents.find id = some intent) : Sound later where
  single := operations ▸ sound.single
  synchronized := by
    intro verified
    rw [publicationInFlight, operations, ← publicationInFlight]
    exact sound.synchronized (head verified)
  planned := by
    intro row held
    rw [itemsOf_congr items]
    exact sound.planned row (operations ▸ held)
  owned := by
    rw [items, operations]
    exact sound.owned
  told := by
    intro row held
    apply (sound.told row (operations ▸ held)).congr
    intro item
    rw [itemsOf_congr items]
  prepared := prepared
  spent := by
    intro row held
    exact (sound.spent row (operations ▸ held)).congr kept
  once := operations ▸ sound.once

end

variable {tables later : ProjectionTables} {context : OperationContext} {authorization : Authorization}
  {changes : List ManagedProjectionRebuildChangeEntry} {report : ManagedProjectionPublishReport} {now : UtcTimestamp}

theorem Sound.migrated (schemaVersion ledgerRevision : Nat) (claims : List IdempotencyId) :
    Sound (.migrated schemaVersion ledgerRevision claims) where
  single := fun _ held => absurd held List.not_mem_nil
  synchronized := fun _ => rfl
  planned := fun _ held => absurd held List.not_mem_nil
  owned := fun _ held => absurd held List.not_mem_nil
  told := fun _ held => absurd held List.not_mem_nil
  prepared := by
    intro id intent payload found
    cases found
  spent := fun _ held => absurd held List.not_mem_nil
  once := fun _ held => absurd held List.not_mem_nil

theorem Sound.prepare (sound : Sound tables) {intent : ManagedProjectionRebuildPreparedIntent}
    (inserted : tables.preparedIntents.insert (preparedRow intent) = some later.preparedIntents)
    (planned : intent.preview.changes ≠ []) (operations : later.operations = tables.operations)
    (items : later.items = tables.items) (head : later.head = tables.head) : Sound later := by
  apply sound.congr operations items
  · intro verified
    rw [projectionHeadIsVerified, head] at verified
    exact verified
  · intro id stored payload found kind
    rw [Relation.find_insert inserted] at found
    split at found
    next => cases found; cases kind; exact planned
    next => exact sound.prepared id stored payload found kind
  · intro id stored _ found _
    exact Relation.find_insert_kept inserted found

theorem Sound.spend (sound : Sound tables) {id : PreparedIntentId} {intent : PreparedIntentRow}
    (found : tables.preparedIntents.find id = some intent) (unconsumed : intent.consumedAt = none) :
    Sound (spend tables id now) := by
  apply sound.congr
  · rfl
  · rfl
  · exact fun verified => verified
  · intro other stored payload now_ kind
    rw [Projections.spend, Relation.find_update] at now_
    obtain ⟨before, held, same⟩ := Option.map_eq_some_iff.mp now_
    apply sound.prepared other before payload held
    rw [← same] at kind
    split at kind <;> exact kind
  · intro other stored _ held consumed
    have different : id ≠ other := by
      intro same
      rw [← same, found] at held
      cases held
      rw [unconsumed] at consumed
      cases consumed
    rw [Projections.spend, Relation.find_update_other different]
    exact held

theorem Sound.unspent (sound : Sound tables) {id : PreparedIntentId} {intent : PreparedIntentRow}
    (found : tables.preparedIntents.find id = some intent) (unconsumed : intent.consumedAt = none) {row : OperationRow}
    (held : row ∈ tables.operations.rows) : row.preparedIntentId ≠ some id := by
  intro named
  have spent := sound.spent row held
  unfold IntentSpent at spent
  unfold OperationRow.preparedIntentId at named
  split at named
  · cases named
  next other receipt actor acknowledged authority =>
    cases named
    rw [authority] at spent
    obtain ⟨stored, there, _, consumed, _⟩ := spent
    rw [found] at there
    cases there
    rw [unconsumed] at consumed
    cases consumed

theorem Sound.open (sound : Sound tables) (opened : Opened context authorization changes now tables later)
    (planned : changes ≠ []) (spent : IntentSpent later (openedRow context authorization now))
    (unspent : ∀ row ∈ tables.operations.rows, ∀ id, (openedRow context authorization now).preparedIntentId = some id →
      row.preparedIntentId ≠ some id) : Sound later := by
  have idle := publicationInFlight_false.mp opened.idle
  have fresh := Relation.insert_fresh opened.operations
  have apart : ∀ row ∈ tables.operations.rows, row.idempotencyId ≠ context.idempotencyId := by
    intro row held same
    have found := Relation.find_mem held
    rw [same] at found
    cases fresh.symm.trans found
  constructor
  · intro first one second other runs flies
    rw [Relation.mem_insert opened.operations] at one other
    rcases one with held | rfl
    · rw [idle first held] at runs; cases runs
    · rcases other with held | rfl
      · rw [idle second held] at flies; cases flies
      · rfl
  · intro verified
    obtain ⟨updatedAt, head⟩ := opened.head
    rw [not_verified head] at verified
    cases verified
  · intro row held
    rw [Relation.mem_insert opened.operations] at held
    rcases held with held | rfl
    · rw [opened.otherItems (apart row held)]
      exact sound.planned row held
    · rw [opened.itemsOf, openedRow, if_pos rfl]
      exact fun none => planned (List.map_eq_nil_iff.mp (List.append_eq_nil_iff.mp none).2)
  · intro item held
    rw [opened.items, List.mem_append] at held
    rcases held with held | held
    · obtain ⟨row, found⟩ := Option.isSome_iff_exists.mp (sound.owned item held)
      rw [Relation.find_insert_kept opened.operations found]
      rfl
    · obtain ⟨entry, _, rfl⟩ := List.mem_map.mp held
      have named : (openedRow context authorization now).idempotencyId = (plannedRow context entry).idempotencyId := rfl
      rw [Relation.find_insert opened.operations, if_pos named]
      rfl
  · intro row held
    rw [Relation.mem_insert opened.operations] at held
    rcases held with held | rfl
    · apply (sound.told row held).congr
      intro item
      rw [opened.otherItems (apart row held)]
    · trivial
  · intro id intent payload found
    rw [opened.preparedIntents] at found
    exact sound.prepared id intent payload found
  · intro row held
    rw [Relation.mem_insert opened.operations] at held
    rcases held with held | rfl
    · apply (sound.spent row held).congr
      intro id intent _ found _
      rw [opened.preparedIntents]
      exact found
    · exact spent
  · intro first one second other id names same
    rw [Relation.mem_insert opened.operations] at one other
    rcases one with held | rfl
    · rcases other with kept | rfl
      · exact sound.once first held second kept id names same
      · exact absurd names (unspent first held id same)
    · rcases other with kept | rfl
      · exact absurd same (unspent second kept id names)
      · rfl

/-- Changing the status of one operation keeps what its row says of keys, intents and
starts; the new status need only be told, and in flight only if the old one was. -/
theorem Sound.status (sound : Sound tables) {key : IdempotencyId} {status : OperationStatus}
    (operations : later.operations = tables.operations.update key fun row => { row with status })
    (running : status.inFlight = true → ∃ row ∈ tables.operations.rows, row.idempotencyId = key ∧ row.status.inFlight = true)
    (synchronized : projectionHeadIsVerified later = true → publicationInFlight later = false)
    (items : ∀ id, (∃ item, item ∈ tables.itemsOf id) → ∃ item, item ∈ later.itemsOf id)
    (owned : ∀ item ∈ later.items.rows, ∃ other ∈ tables.items.rows, other.idempotencyId = item.idempotencyId)
    (told : ∀ row ∈ tables.operations.rows, row.idempotencyId = key → ScopeTold later { row with status })
    (others : ∀ id item, id ≠ key → (item ∈ later.itemsOf id ↔ item ∈ tables.itemsOf id))
    (preparedIntents : later.preparedIntents = tables.preparedIntents) : Sound later := by
  -- Every row comes from one under the same key with the same authority.
  have source : ∀ row ∈ later.operations.rows, ∃ old ∈ tables.operations.rows,
      old.idempotencyId = row.idempotencyId ∧ old.authorization = row.authorization ∧ old.startedAt = row.startedAt ∧
        (row.status.inFlight = true → old.status.inFlight = true) ∧
        (old.idempotencyId = key ∧ row = { old with status } ∨ row = old ∧ row.idempotencyId ≠ key) := by
    intro row held
    rw [operations, Relation.mem_update] at held
    rcases held with ⟨old, held, named, rfl⟩ | ⟨held, different⟩
    · refine ⟨old, held, rfl, rfl, rfl, ?_, .inl ⟨named, rfl⟩⟩
      intro flies
      obtain ⟨runner, member, same, runs⟩ := running flies
      have equal := List.inj_on_of_nodup_map tables.operations.keyed held member (named.trans same.symm)
      rw [equal]
      exact runs
    · exact ⟨row, held, rfl, rfl, rfl, fun flies => flies, .inr ⟨rfl, different⟩⟩
  have unique : ∀ first ∈ later.operations.rows, ∀ second ∈ later.operations.rows,
      first.idempotencyId = second.idempotencyId → first = second :=
    fun _ one _ other same => List.inj_on_of_nodup_map later.operations.keyed one other same
  constructor
  · intro first one second other runs flies
    obtain ⟨old, held, named, _, _, ran, _⟩ := source first one
    obtain ⟨past, kept, called, _, _, flew, _⟩ := source second other
    have same := sound.single old held past kept (ran runs) (flew flies)
    exact unique first one second other (named.symm.trans (same ▸ called))
  · exact synchronized
  · intro row held
    obtain ⟨old, member, named, _⟩ := source row held
    have some := List.exists_mem_of_ne_nil _ (sound.planned old member)
    rw [named] at some
    obtain ⟨item, there⟩ := items _ some
    exact List.ne_nil_of_mem there
  · intro item held
    obtain ⟨other, there, same⟩ := owned item held
    obtain ⟨row, found⟩ := Option.isSome_iff_exists.mp (sound.owned other there)
    rw [same] at found
    rw [operations, Relation.find_update, found]
    rfl
  · intro row held
    obtain ⟨old, member, _, _, _, _, changed⟩ := source row held
    rcases changed with ⟨named, rfl⟩ | ⟨rfl, different⟩
    · exact told old member named
    · exact (sound.told row member).congr fun item => others _ item different
  · intro id intent payload found
    rw [preparedIntents] at found
    exact sound.prepared id intent payload found
  · intro row held
    obtain ⟨old, member, _, authority, started, _⟩ := source row held
    have spent := sound.spent old member
    unfold IntentSpent at spent ⊢
    rw [authority, started] at spent
    rw [preparedIntents]
    exact spent
  · intro first one second other id names same
    obtain ⟨old, held, named, authority, _⟩ := source first one
    obtain ⟨past, kept, called, power, _⟩ := source second other
    have spent : old.preparedIntentId = some id := by
      rw [OperationRow.preparedIntentId, authority]
      exact names
    have again : past.preparedIntentId = some id := by
      rw [OperationRow.preparedIntentId, power]
      exact same
    have equal := sound.once old held past kept id spent again
    exact unique first one second other (named.symm.trans (equal ▸ called))

theorem Sound.cancel (sound : Sound tables) {row : OperationRow}
    (found : tables.operations.find context.idempotencyId = some row) (publishing : row.status = .publishing)
    (same : later = { tables with
      operations := tables.operations.update context.idempotencyId fun row => { row with status := .cancelling } }) :
    Sound later := by
  subst same
  apply sound.status rfl
  · intro _
    exact ⟨row, Relation.mem_of_find found, Relation.find_key found, publishing ▸ rfl⟩
  · intro verified
    have idle := publicationInFlight_false.mp (sound.synchronized verified) row (Relation.mem_of_find found)
    rw [publishing] at idle
    cases idle
  · exact fun _ there => there
  · exact fun item held => ⟨item, held, rfl⟩
  · exact fun _ _ _ => trivial
  · exact fun _ _ _ => Iff.rfl
  · rfl

theorem Completed.idle (completed : Completed context report now tables later) (sound : Sound tables) :
    publicationInFlight later = false := by
  rw [publicationInFlight_false]
  intro row held
  rw [completed.operations, Relation.mem_update] at held
  rcases held with ⟨old, _, _, rfl⟩ | ⟨held, different⟩
  · rfl
  · obtain ⟨runner, found, runs⟩ := completed.running
    by_contra flies
    rw [Bool.not_eq_false] at flies
    have same := sound.single row held runner (Relation.mem_of_find found) flies runs
    exact different (same ▸ Relation.find_key found)

theorem Sound.complete (sound : Sound tables) (completed : Completed context report now tables later) : Sound later := by
  obtain ⟨row, found, runs⟩ := completed.running
  have member := Relation.mem_of_find found
  have named := Relation.find_key found
  have reported : report.items ≠ [] := by
    intro none
    have short := completed.whole
    rw [none, List.length_nil] at short
    exact sound.planned row member (named.symm ▸ List.length_eq_zero_iff.mp short.symm)
  apply sound.status completed.operations
  · intro flies
    cases flies
  · exact fun _ => completed.idle sound
  · intro id there
    obtain ⟨item, held⟩ := there
    by_cases same : id = context.idempotencyId
    · subst same
      obtain ⟨told, mentioned, path⟩ := completed.covers held
      obtain ⟨stored, _⟩ := mem_itemsOf.mp held
      have settled := completed.items.told told mentioned item (path ▸ stored)
      exact ⟨{ item with state := told.state }, mem_itemsOf.mpr ⟨path ▸ settled, (mem_itemsOf.mp held).2⟩⟩
    · exact ⟨item, (completed.otherItems same item).mpr held⟩
  · intro item held
    by_cases same : item.idempotencyId = context.idempotencyId
    · have some := List.exists_mem_of_ne_nil _ (sound.planned row member)
      rw [named] at some
      obtain ⟨other, there⟩ := some
      exact ⟨other, (List.mem_filter.mp there).1, (mem_itemsOf.mp there).2.trans same.symm⟩
    · have there := (completed.otherItems same item).mp (List.mem_filter.mpr ⟨held, decide_eq_true rfl⟩)
      exact ⟨item, (List.mem_filter.mp there).1, rfl⟩
  · intro old _ key
    unfold ScopeTold
    simp only [key]
    rw [← completed.states (· = .committed), ← completed.states (· ≠ .committed)]
    exact ⟨derive_complete reported, derive_none⟩
  · exact fun id item different => completed.otherItems different item
  · exact completed.preparedIntents

theorem Sound.unsynchronize (sound : Sound tables) {manifestId : Option String} {updatedAt : UtcTimestamp} :
    Sound { tables with head := some ⟨.outOfSync manifestId, updatedAt⟩ } := by
  apply sound.congr
  · rfl
  · rfl
  · intro verified
    cases verified
  · exact sound.prepared
  · exact fun _ _ _ found _ => found

theorem Sound.elsewhere (sound : Sound tables) (other : Elsewhere tables later) : Sound later := by
  apply sound.congr other.operations other.items
  · intro verified
    rw [projectionHeadIsVerified, other.head] at verified
    exact verified
  · intro id intent payload found kind
    exact sound.prepared id intent payload ((other.preparedIntents id intent (by rw [kind]; rfl)).mp found) kind
  · intro id intent kind found _
    exact (other.preparedIntents id intent kind).mpr found

theorem Sound.moved [Sha256] (sound : Sound tables) {call : Call} (moved : Moved tables later call) : Sound later := by
  cases moved with
  | unmoved same => exact same ▸ sound
  | prepared intent preparedIntents prepareReplays claims inserted planned same =>
    subst same
    exact sound.prepare inserted planned rfl rfl rfl
  | @approved command receipt baseline changes now row payload spent opened =>
    apply (sound.spend spent.found spent.unconsumed).open opened (sound.prepared _ row payload spent.found spent.rebuild)
    · refine ⟨{ row with consumedAt := some now }, ?_, ?_, rfl, spent.acknowledged, spent.unexpired⟩
      · rw [opened.preparedIntents, Projections.spend, Relation.find_update_self spent.found]
      · rw [spent.rebuild]
        rfl
    · intro other held id names
      cases names
      exact sound.unspent spent.found spent.unconsumed held
  | automated planned opened =>
    apply sound.open opened planned
    · trivial
    · intro other held id names
      cases names
  | cancelling row found publishing same => exact sound.cancel found publishing same
  | completed completed => exact sound.complete completed
  | unsynchronized updatedAt same => exact same ▸ sound.unsynchronize

theorem Sound.step [Sha256] (sound : Sound tables) {turn : Turn} (step : Step turn tables later) : Sound later := by
  cases turn with
  | call call available =>
    obtain ⟨_, same⟩ | ⟨after, answer, success, same⟩ := Transaction.run_cases available call.operation tables
    · rw [Step, same] at step
      exact step ▸ sound
    · rw [Step, same] at step
      cases step
      exact sound.moved (Call.moved success)
  | elsewhere => exact sound.elsewhere step

theorem Sound.run [Sha256] (sound : Sound tables) {turns : List Turn} (run : Run.Evolves Step tables turns later) :
    Sound later :=
  run.invariant Sound (fun _ _ _ step sound => sound.step step) sound

end MissionControl.Projections
