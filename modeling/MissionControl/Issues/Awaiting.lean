import MissionControl.Issues.History

/-! Previews that wait while other calls go on: they are made again as they were answered as long as
their Issue keeps its class, and for a lowering its version too. -/

namespace MissionControl.Issues
open Evidence (RegistryRow)

variable [Sha256] {before after : IssueTables} {told : List Answer} {row : PreparedIntentRow}
  {prepared : WorkManagementPreparedIntent} {id : IssueId} {classification : DataClassification}

def Kept (before after : IssueTables) (row : PreparedIntentRow) : Prop :=
  ∀ registered issue, before.standing row.primaryId = some (registered, issue) → ∃ registered' issue',
    after.standing row.primaryId = some (registered', issue') ∧ registered'.classification = registered.classification ∧
      (row.kind = none → registered'.version = registered.version)

omit [Sha256] in
theorem Kept.of_same (same : SameIssue row.primaryId before after) : Kept before after row :=
  fun registered issue stood => ⟨registered, issue, same.standing.trans stood, rfl, fun _ => rfl⟩

theorem Remakeable.kept (grows : Grows before after) (kept : Kept before after row)
    (requested : loweringRequest after row.id = loweringRequest before row.id)
    (remakeable : Remakeable before row prepared) : Remakeable after row prepared := by
  obtain ⟨registered, issue, stood, remade⟩ := remakeable
  obtain ⟨registered', issue', stood', classified, versioned⟩ := kept registered issue stood
  refine ⟨registered', issue', stood', ?_⟩
  cases named : row.kind with
  | some kind =>
    rw [named] at remade
    rw [classified]
    exact Remade.kept grows remade
  | none =>
    rw [named] at remade
    obtain ⟨proposedClassification, rationale, asked, made⟩ := RemadeLowering.made remade
    refine ⟨⟨proposedClassification, rationale, requested.trans asked, ?_⟩, remade.digest, remade.classified, remade.expires⟩
    rw [classified, versioned named]
    exact made

theorem Remakes.kept (sound : Sound before) (grows : Grows before after) (rejects : after.rejectPrepareds = before.rejectPrepareds)
    (remakes : Remakes before id classification) : Remakes after id classification := by
  intro row listed intent pending target
  rw [rejects] at listed
  obtain ⟨earlier, recorded⟩ := sound.rejections row listed
  cases pending.symm.trans (recorded.grows grows).pending
  obtain ⟨kind, prepared, named, remade⟩ := remakes row listed intent recorded.pending target
  exact ⟨kind, prepared, named, remade.kept grows⟩

omit [Sha256] in
theorem Rejections.kept (rejections : Rejections before told) (sound : Sound before) (grows : Grows before after)
    (rejects : after.rejectPrepareds = before.rejectPrepareds) {answer : Answer} (other : ∀ rejected, answer ≠ .rejected rejected) :
    Rejections after (answer :: told) := by
  intro rejected
  have shown : (Answer.rejected rejected ∈ answer :: told) ↔ .rejected rejected ∈ told := by
    rw [List.mem_cons]
    exact or_iff_right fun equal => other rejected equal.symm
  rw [shown, rejections rejected, rejects]
  refine exists_congr fun row => and_congr_right fun listed => ?_
  obtain ⟨intent, recorded⟩ := sound.rejections row listed
  rw [recorded.pending, (recorded.grows grows).pending]

/-- What a call does to the previews that wait: it adds none, and keeps what is needed for them. -/
structure Leaves (before after : IssueTables) : Prop where
  waiting : ∀ id row, after.preparedIntents.find id = some row → row.consumedAt = none →
    before.preparedIntents.find id = some row ∧ Kept before after row
  known : ∀ id row, after.preparedIntents.find id = some row →
    ∃ earlier, before.preparedIntents.find id = some earlier ∧ earlier.primaryId = row.primaryId
  prepares : after.commandPrepares = before.commandPrepares

omit [Sha256] in
theorem Leaves.requested (leaves : Leaves before after) (id : PreparedIntentId) :
    loweringRequest after id = loweringRequest before id := by
  unfold loweringRequest
  rw [leaves.prepares]

theorem Awaited.left (awaited : Awaited before told) (grows : Grows before after) (leaves : Leaves before after)
    (remakes : ∀ id registered issue, after.standing id = some (registered, issue) → Remakes after id registered.classification)
    {answer : Answer} (other : ∀ prepared, answer ≠ .prepared prepared) : Awaited after (answer :: told) where
  previews prepared listed := by
    have listed : .prepared prepared ∈ told := (List.mem_cons.mp listed).resolve_left fun equal => other prepared equal.symm
    obtain ⟨row, found, remakeable⟩ := awaited.previews prepared listed
    obtain ⟨later, found', _⟩ := grows.intents _ _ found
    refine ⟨later, found', fun waits => ?_⟩
    obtain ⟨found'', kept⟩ := leaves.waiting _ _ found' waits
    cases found.symm.trans found''
    exact (remakeable waits).kept grows kept (leaves.requested _)
  offered id row found waits := by
    obtain ⟨prepared, listed, named⟩ := awaited.offered id row (leaves.waiting id row found waits).1 waits
    exact ⟨prepared, List.mem_cons_of_mem _ listed, named⟩
  owned id row found := by
    obtain ⟨earlier, found', same⟩ := leaves.known id row found
    obtain ⟨standing, stands⟩ := awaited.owned id earlier found'
    exact grows.stands (same ▸ stands)
  referred reply listed := by
    rw [leaves.prepares] at listed
    obtain ⟨row, found⟩ := awaited.referred reply listed
    obtain ⟨later, found', _⟩ := grows.intents _ _ found
    exact ⟨later, found'⟩
  proper id proposedClassification rationale requested := by
    rw [leaves.requested] at requested
    exact awaited.proper id proposedClassification rationale requested
  remakes

omit [Sha256] in
theorem Consumes.leaves {preparedId : PreparedIntentId} (consumes : Consumes preparedId before after)
    (kept : ∀ id row, before.preparedIntents.find id = some row → row.consumedAt = none → id ≠ preparedId →
      Kept before after row) : Leaves before after where
  waiting id row found waits := by
    obtain ⟨found', different⟩ := consumes.waiting found waits
    exact ⟨found', kept id row found' waits different⟩
  known _ _ found := consumes.known found
  prepares := consumes.prepares

omit [Sha256] in
theorem Awaited.unreferred [Sha256] (awaited : Awaited before told) (fresh : before.preparedIntents.find row.id = none) :
    before.commandPrepares.rows.find? (fun reply => reply.resultReference = row.id ∧ reply.request.lowers = true) = none := by
  refine List.find?_eq_none.mpr fun other listed admitted => ?_
  obtain ⟨earlier, found⟩ := awaited.referred other listed
  rw [(of_decide_eq_true admitted).1] at found
  cases found.symm.trans fresh

theorem Awaited.requested (awaited : Awaited before told) {request : PrepareRequest} (places : Places row request before after) :
    loweringRequest after row.id = match request with
      | .lowerClassification proposedClassification rationale => some (proposedClassification, rationale)
      | _ => none := by
  obtain ⟨reply, replies, refers, asks⟩ := places.asked
  unfold loweringRequest
  rw [replies, List.find?_append, awaited.unreferred (Relation.insert_fresh places.inserted), Option.none_or]
  rw [List.find?_singleton]
  cases request <;> simp [refers, asks, PrepareRequest.lowers]

theorem Awaited.placed (awaited : Awaited before told) (sound : Sound before) (grows : Grows before after)
    {request : PrepareRequest} (places : Places row request before after)
    (rejects : after.rejectPrepareds = before.rejectPrepareds) (named : prepared.id = row.id)
    (stood : ∃ standing, before.standing row.primaryId = some standing) (made : Remakeable after row prepared)
    (proper : ∀ proposedClassification rationale, request = .lowerClassification proposedClassification rationale →
      proposedClassification ≠ .unclassified) : Awaited after (.prepared prepared :: told) := by
  obtain ⟨reply, replies, refers, asks⟩ := places.asked
  have fresh := Relation.insert_fresh places.inserted
  -- what is asked for another preview is found before the new row is reached
  have requested : ∀ id, id ≠ row.id → loweringRequest after id = loweringRequest before id := by
    intro id different
    unfold loweringRequest
    rw [replies, List.find?_append]
    have last : [reply].find? (fun reply => reply.resultReference = id ∧ reply.request.lowers = true) = none := by
      rw [List.find?_singleton, if_neg]
      simp [refers, Ne.symm different]
    rw [last, Option.or_none]
  constructor
  · intro given listed
    obtain equal | known := List.mem_cons.mp listed
    · cases equal
      exact ⟨row, named ▸ Relation.find_inserted places.inserted, fun _ => made⟩
    · obtain ⟨earlier, found, remakeable⟩ := awaited.previews given known
      have different : earlier.id ≠ row.id := by
        intro equal
        rw [Relation.find_key found] at equal
        rw [equal] at found
        cases found.symm.trans fresh
      exact ⟨earlier, Relation.find_insert_kept places.inserted found,
        fun waits => (remakeable waits).kept grows (.of_same (places.same _)) (requested _ different)⟩
  · intro id earlier found waits
    rw [Relation.find_insert places.inserted] at found
    split at found
    next own => exact ⟨prepared, List.mem_cons_self, named.trans own⟩
    next =>
      obtain ⟨given, known, same⟩ := awaited.offered id earlier found waits
      exact ⟨given, List.mem_cons_of_mem _ known, same⟩
  · intro id earlier found
    rw [Relation.find_insert places.inserted] at found
    split at found
    next =>
      cases found
      obtain ⟨standing, stands⟩ := stood
      exact grows.stands stands
    next =>
      obtain ⟨standing, stands⟩ := awaited.owned id earlier found
      exact grows.stands stands
  · intro other listed
    rw [replies] at listed
    obtain known | new := List.mem_append.mp listed
    · obtain ⟨earlier, found⟩ := awaited.referred other known
      exact ⟨earlier, Relation.find_insert_kept places.inserted found⟩
    · cases List.mem_singleton.mp new
      exact ⟨row, refers ▸ Relation.find_inserted places.inserted⟩
  · intro id proposedClassification rationale asked
    by_cases own : id = row.id
    · subst own
      rw [awaited.requested places] at asked
      cases request with
      | lowerClassification _ _ => cases asked; exact proper _ _ rfl
      | resolve | close | reopen => cases asked
    · rw [requested id own] at asked
      exact awaited.proper id proposedClassification rationale asked
  · intro id registered issue stands
    rw [(places.same id).standing] at stands
    exact (awaited.remakes id registered issue stands).kept sound grows rejects

end MissionControl.Issues
