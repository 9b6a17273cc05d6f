import MissionControl.Lib.Text
import MissionControl.Projections.PublicationTruth
import MissionControl.Proofs.DigestCoverage

/-! A projection's change set is exact: applied to what is published it gives what was
generated, no entry of it can be spared, and it is already in the order a rebuild
asks for. -/

namespace MissionControl.Projections
open Encoding DigestCoverage

def manifestHash (published : List ManagedProjectionManifestEntry) (path : String) : Option String :=
  (publishedByPath published path).map (·.finalFileSha256)

def artifactHash (fresh : ProjectionArtifactSet) (path : String) : Option String :=
  (artifactFor fresh path).map (·.finalFileSha256)

def replacement (fresh : ProjectionArtifactSet) (change : ProjectionChangeSetEntry) :
    Option ManagedProjectionManifestEntry :=
  match change.change with
  | .removed => none
  | .created | .updated => (artifactFor fresh change.relativePath).map manifestEntry

def applyChange (fresh : ProjectionArtifactSet) (published : List ManagedProjectionManifestEntry)
    (change : ProjectionChangeSetEntry) : List ManagedProjectionManifestEntry :=
  published.filter (·.relativePath ≠ change.relativePath) ++ (replacement fresh change).toList

def applyChanges (fresh : ProjectionArtifactSet) (published : List ManagedProjectionManifestEntry)
    (changes : List ProjectionChangeSetEntry) : List ManagedProjectionManifestEntry :=
  changes.foldl (applyChange fresh) published

section
variable {fresh : ProjectionArtifactSet} {published : List ManagedProjectionManifestEntry} {path : String}

variable {entry : ManagedProjectionManifestEntry}

theorem publishedByPath_some (found : publishedByPath published path = some entry) :
    entry ∈ published ∧ entry.relativePath = path :=
  ⟨List.mem_reverse.mp (List.mem_of_find?_eq_some found), by simpa using List.find?_some found⟩

theorem publishedByPath_none : publishedByPath published path = none ↔ path ∉ published.map (·.relativePath) := by
  simp [publishedByPath]

theorem artifactFor_none : artifactFor fresh path = none ↔ path ∉ freshPaths fresh := by
  simp [artifactFor, freshPaths]

theorem artifactFor_of_mem (distinct : (freshPaths fresh).Nodup) {artifact : ProjectionArtifact}
    (member : artifact ∈ fresh.artifacts) : artifactFor fresh artifact.relativePath = some artifact := by
  cases found : artifactFor fresh artifact.relativePath with
  | none => exact absurd (List.mem_map_of_mem member) (artifactFor_none.mp found)
  | some other =>
    obtain ⟨among, same⟩ := artifactFor_some found
    exact congrArg some (List.inj_on_of_nodup_map distinct among member same)

theorem replacement_placed {change : ProjectionChangeSetEntry} (shown : entry ∈ replacement fresh change) :
    entry.relativePath = change.relativePath := by
  simp only [replacement] at shown
  split at shown
  · cases shown
  all_goals
    obtain ⟨artifact, found, rfl⟩ := Option.map_eq_some_iff.mp shown
    exact (artifactFor_some found).2

theorem publishedByPath_applyChange (change : ProjectionChangeSetEntry) :
    publishedByPath (applyChange fresh published change) path =
      if path = change.relativePath then replacement fresh change else publishedByPath published path := by
  have appended : publishedByPath (applyChange fresh published change) path =
      ((replacement fresh change).toList.reverse.find? fun entry => entry.relativePath = path).or
        (publishedByPath (published.filter (·.relativePath ≠ change.relativePath)) path) := by
    simp [publishedByPath, applyChange, List.reverse_append, List.find?_append]
  rw [appended]
  by_cases changed : path = change.relativePath
  · have cleared : publishedByPath (published.filter (·.relativePath ≠ change.relativePath)) path = none := by
      rw [publishedByPath_none]
      intro member
      obtain ⟨entry, kept, same⟩ := List.mem_map.mp member
      simp only [ne_eq, decide_not, List.mem_filter, Bool.not_eq_true', decide_eq_false_iff_not] at kept
      exact kept.2 (same.trans changed)
    rw [cleared, if_pos changed, Option.or_none]
    cases placed : replacement fresh change with
    | none => rfl
    | some entry =>
      have same := replacement_placed placed
      simp [changed, same]
  · have kept : publishedByPath (published.filter (·.relativePath ≠ change.relativePath)) path =
        publishedByPath published path := by
      simp only [publishedByPath, ← List.filter_reverse, List.find?_filter]
      congr 1
      funext entry
      by_cases same : entry.relativePath = path
      · simp [same, changed]
      · simp [same]
    rw [kept, if_neg changed]
    cases placed : replacement fresh change with
    | none => rfl
    | some entry =>
      have same := replacement_placed placed
      have other : ¬change.relativePath = path := fun same => changed same.symm
      simp [same, other]

/-- An index after a change set: what its paths were replaced by, which no path is
twice. -/
theorem publishedByPath_applyChanges (changes : List ProjectionChangeSetEntry)
    (placed : ∀ change ∈ changes, replacement fresh change = (artifactFor fresh change.relativePath).map manifestEntry) :
    publishedByPath (applyChanges fresh published changes) path =
      if path ∈ changes.map (·.relativePath) then (artifactFor fresh path).map manifestEntry
      else publishedByPath published path := by
  induction changes generalizing published with
  | nil => rfl
  | cons change changes step =>
    rw [List.forall_mem_cons] at placed
    have later := @step (applyChange fresh published change) placed.2
    rw [applyChanges, List.foldl_cons, ← applyChanges, later, publishedByPath_applyChange, placed.1]
    by_cases again : path ∈ changes.map (·.relativePath)
    · simp [again]
    · by_cases first : path = change.relativePath <;> simp [again, first]

end

theorem keys_sublist {α β γ : Type} (make : α → Option β) (key : α → γ) (madeKey : β → γ) (items : List α)
    (keeps : ∀ item ∈ items, ∀ made, make item = some made → madeKey made = key item) :
    ((items.filterMap make).map madeKey).Sublist (items.map key) := by
  induction items with
  | nil => exact .slnil
  | cons item items step =>
    rw [List.forall_mem_cons] at keeps
    cases made : make item with
    | none =>
      rw [List.filterMap_cons_none made]
      exact (step keeps.2).cons _
    | some value =>
      rw [List.filterMap_cons_some made, List.map_cons, List.map_cons, keeps.1 value made]
      exact (step keeps.2).cons_cons _

section
variable {fresh : ProjectionArtifactSet} {published : List ManagedProjectionManifestEntry}

inductive Changed (fresh : ProjectionArtifactSet) (published : List ManagedProjectionManifestEntry)
    (change : ProjectionChangeSetEntry) : Prop where
  | created (kind : change.change = .created) (missing : publishedByPath published change.relativePath = none)
      (artifact : ProjectionArtifact) (member : artifact ∈ fresh.artifacts)
      (placed : artifact.relativePath = change.relativePath)
  | updated (kind : change.change = .updated) (baseline : ManagedProjectionManifestEntry)
      (found : publishedByPath published change.relativePath = some baseline) (artifact : ProjectionArtifact)
      (member : artifact ∈ fresh.artifacts) (placed : artifact.relativePath = change.relativePath)
      (differs : baseline.finalFileSha256 ≠ artifact.finalFileSha256)
  | removed (kind : change.change = .removed) (baseline : ManagedProjectionManifestEntry) (member : baseline ∈ published)
      (placed : baseline.relativePath = change.relativePath) (gone : change.relativePath ∉ freshPaths fresh)

variable {change : ProjectionChangeSetEntry}

theorem writtenChange_cases {artifact : ProjectionArtifact} (member : artifact ∈ fresh.artifacts)
    (made : writtenChange published artifact = some change) :
    artifact.relativePath = change.relativePath ∧ Changed fresh published change := by
  simp only [writtenChange] at made
  split at made
  next missing =>
    cases made
    exact ⟨rfl, .created rfl missing artifact member rfl⟩
  next baseline found =>
    split at made
    next differs =>
      cases made
      exact ⟨rfl, .updated rfl baseline found artifact member rfl differs⟩
    next => cases made

theorem removedChange_cases {baseline : ManagedProjectionManifestEntry} (member : baseline ∈ published)
    (made : removedChange fresh baseline = some change) :
    baseline.relativePath = change.relativePath ∧ Changed fresh published change := by
  simp only [removedChange] at made
  split at made
  next => cases made
  next gone =>
    cases made
    exact ⟨rfl, .removed rfl baseline member rfl gone⟩

theorem changed_of_mem (member : change ∈ diffAgainstPublished fresh published) : Changed fresh published change := by
  rw [diffAgainstPublished, Sorting.mem_sortBy, List.mem_append, List.mem_filterMap, List.mem_filterMap] at member
  rcases member with ⟨artifact, among, made⟩ | ⟨baseline, among, made⟩
  · exact (writtenChange_cases among made).2
  · exact (removedChange_cases among made).2

theorem Changed.replacement (changed : Changed fresh published change) :
    replacement fresh change = (artifactFor fresh change.relativePath).map manifestEntry := by
  rcases changed with ⟨kind, -, -, -, -⟩ | ⟨kind, -, -, -, -, -, -⟩ | ⟨kind, -, -, -, gone⟩
  · simp only [Projections.replacement, kind]
  · simp only [Projections.replacement, kind]
  · simp only [Projections.replacement, kind, artifactFor_none.mpr gone, Option.map_none]

theorem Changed.differs (distinct : (freshPaths fresh).Nodup) (changed : Changed fresh published change) :
    manifestHash published change.relativePath ≠ artifactHash fresh change.relativePath := by
  rcases changed with ⟨-, missing, artifact, member, placed⟩ | ⟨-, baseline, found, artifact, member, placed, differs⟩ |
    ⟨-, baseline, member, placed, gone⟩
  · have generated := artifactFor_of_mem distinct member
    rw [placed] at generated
    simp [manifestHash, artifactHash, missing, generated]
  · have generated := artifactFor_of_mem distinct member
    rw [placed] at generated
    simpa [manifestHash, artifactHash, found, generated] using differs
  · have shown : publishedByPath published change.relativePath ≠ none := by
      rw [Ne, publishedByPath_none, not_not, ← placed]
      exact List.mem_map_of_mem member
    obtain ⟨entry, found⟩ := Option.ne_none_iff_exists'.mp shown
    simp [manifestHash, artifactHash, found, artifactFor_none.mpr gone]

theorem unchanged {path : String} (absent : path ∉ (diffAgainstPublished fresh published).map (·.relativePath)) :
    manifestHash published path = artifactHash fresh path := by
  have untouched {change : ProjectionChangeSetEntry} (member : change ∈ fresh.artifacts.filterMap (writtenChange published) ++
      published.filterMap (removedChange fresh)) : change.relativePath ≠ path := by
    rintro rfl
    refine absent (List.mem_map_of_mem ?_)
    rwa [diffAgainstPublished, Sorting.mem_sortBy]
  cases generated : artifactFor fresh path with
  | none =>
    cases found : publishedByPath published path with
    | none => simp [manifestHash, artifactHash, generated, found]
    | some baseline =>
      obtain ⟨member, rfl⟩ := publishedByPath_some found
      have removed : ∃ change, removedChange fresh baseline = some change := by
        rw [removedChange, if_neg]
        · exact ⟨_, rfl⟩
        · exact artifactFor_none.mp generated
      obtain ⟨change, made⟩ := removed
      exact absurd (removedChange_cases member made).1.symm
        (untouched (List.mem_append_right _ (List.mem_filterMap.mpr ⟨baseline, member, made⟩)))
  | some artifact =>
    obtain ⟨member, rfl⟩ := artifactFor_some generated
    have silent : writtenChange published artifact = none := by
      cases made : writtenChange published artifact with
      | none => rfl
      | some change =>
        exact absurd (writtenChange_cases member made).1.symm
          (untouched (List.mem_append_left _ (List.mem_filterMap.mpr ⟨artifact, member, made⟩)))
    simp only [writtenChange] at silent
    split at silent
    next => cases silent
    next baseline found =>
      split at silent
      next => cases silent
      next same => simpa [manifestHash, artifactHash, generated, found] using same

theorem diff_paths_distinct (distinct : (freshPaths fresh).Nodup)
    (recorded : (published.map (·.relativePath)).Nodup) :
    ((diffAgainstPublished fresh published).map (·.relativePath)).Nodup := by
  have permuted := (Sorting.sortBy_perm (Sorting.comparing compare (·.relativePath))
    (fresh.artifacts.filterMap (writtenChange published) ++ published.filterMap (removedChange fresh))).map (·.relativePath)
  have written := keys_sublist (writtenChange published) (·.relativePath) (·.relativePath)
    fresh.artifacts fun artifact member change made => (writtenChange_cases member made).1.symm
  have removed := keys_sublist (removedChange fresh) (·.relativePath) (·.relativePath)
    published fun baseline member change made => (removedChange_cases member made).1.symm
  rw [diffAgainstPublished, permuted.nodup_iff, List.map_append, List.nodup_append']
  refine ⟨distinct.sublist written, recorded.sublist removed, ?_⟩
  -- what is removed was not generated
  intro path first second
  obtain ⟨change, made, rfl⟩ := List.mem_map.mp second
  obtain ⟨baseline, member, made⟩ := List.mem_filterMap.mp made
  simp only [removedChange] at made
  split at made
  next => cases made
  next gone =>
    cases made
    exact gone (written.subset first)

theorem diff_sorted (distinct : (freshPaths fresh).Nodup) (recorded : (published.map (·.relativePath)).Nodup) :
    (diffAgainstPublished fresh published).Pairwise fun earlier later => earlier.relativePath < later.relativePath := by
  have ordered : (diffAgainstPublished fresh published).Pairwise fun earlier later =>
    (Sorting.comparing compare ProjectionChangeSetEntry.relativePath earlier later).isLE = true :=
    Sorting.sortBy_sorted _
  have different := diff_paths_distinct distinct recorded
  rw [List.Nodup, List.pairwise_map] at different
  refine (ordered.and different).imp ?_
  rintro earlier later ⟨before, apart⟩
  rw [Sorting.comparing, ← Ordering.ne_gt_iff_isLE] at before
  exact lt_of_le_of_ne (compare_le_iff_le.mp before) apart

theorem h2aChangeEntries_paths :
    (h2aChangeEntries (diffAgainstPublished fresh published) fresh).map (·.relativePath) =
      (diffAgainstPublished fresh published).map (·.relativePath) := by
  have kept : ∀ change ∈ diffAgainstPublished fresh published, ∃ entry, h2aChangeEntry fresh change = some entry ∧
      entry.relativePath = change.relativePath := by
    intro change member
    have found : ∀ artifact ∈ fresh.artifacts, artifact.relativePath = change.relativePath →
        ∃ shown, artifactFor fresh change.relativePath = some shown := by
      intro artifact among placed
      refine Option.ne_none_iff_exists'.mp fun missing => artifactFor_none.mp missing ?_
      rw [← placed]
      exact List.mem_map_of_mem among
    rcases changed_of_mem member with ⟨kind, -, artifact, among, placed⟩ | ⟨kind, -, -, artifact, among, placed, -⟩ |
      ⟨kind, -, -, -, -⟩
    · obtain ⟨shown, generated⟩ := found artifact among placed
      simp [h2aChangeEntry, expectedFinalFileSha256, kind, generated]
    · obtain ⟨shown, generated⟩ := found artifact among placed
      simp [h2aChangeEntry, expectedFinalFileSha256, kind, generated]
    · simp [h2aChangeEntry, expectedFinalFileSha256, kind]
  rw [h2aChangeEntries]
  generalize diffAgainstPublished fresh published = changes at kept ⊢
  induction changes with
  | nil => rfl
  | cons change changes step =>
    rw [List.forall_mem_cons] at kept
    obtain ⟨⟨entry, converted, placed⟩, later⟩ := kept
    rw [List.filterMap_cons_some converted, List.map_cons, List.map_cons, placed, step later]

theorem diff_canonical (distinct : (freshPaths fresh).Nodup) (recorded : (published.map (·.relativePath)).Nodup) :
    canonical (h2aChangeEntries (diffAgainstPublished fresh published) fresh) = true := by
  have ordered := List.pairwise_map.mpr (diff_sorted distinct recorded)
  rw [← h2aChangeEntries_paths, List.pairwise_map] at ordered
  generalize h2aChangeEntries (diffAgainstPublished fresh published) fresh = changes at ordered
  rw [canonical, List.all_eq_true]
  rintro ⟨earlier, later⟩ member
  simp only [decide_eq_true_eq]
  induction changes with
  | nil => cases member
  | cons first rest step =>
    rw [List.pairwise_cons] at ordered
    cases rest with
    | nil => cases member
    | cons second rest =>
      simp only [List.tail_cons, List.zip_cons_cons, List.mem_cons, Prod.mk.injEq] at member
      rcases member with ⟨rfl, rfl⟩ | member
      · exact ordered.1 _ List.mem_cons_self
      · exact step ordered.2 member

theorem prepareRebuild_canonical [Sha256] {intent : PrepareRebuildManagedProjections} (id : PreparedIntentId)
    (now : UtcTimestamp) (ordered : canonical intent.changes = true) :
    prepareRebuild intent id now ≠ .error .changesNotCanonical := by
  by_cases empty : intent.changes = [] <;>
    simp [prepareRebuild, Checked.ensure, empty, ordered, bind, Except.bind, pure, Except.pure]

end

section
variable [Sha256]

def pathBytes (recordType : ProjectionRecordType) (recordId : String) : Bytes :=
  asBytes "pmc-projection-path-v1\x00" ++ asBytes recordType.asPersisted ++ asBytes "\x00" ++ asBytes recordId

def shortDigest (recordType : ProjectionRecordType) (recordId : String) : List Char :=
  (sha256Hex (pathBytes recordType recordId)).toList.take 32

variable {recordType recordType' : ProjectionRecordType}

omit [Sha256] in
theorem pathBytes_injective {recordId recordId' : String}
    (same : pathBytes recordType recordId = pathBytes recordType' recordId') :
    recordType = recordType' ∧ recordId = recordId' := by
  have zero : asBytes "\x00" = [0] := rfl
  have plain (recordType : ProjectionRecordType) : (0 : UInt8) ∉ asBytes recordType.asPersisted := by
    cases recordType <;> decide
  simp only [pathBytes, zero, List.append_assoc] at same
  have following := List.append_cancel_left same
  rw [← List.append_assoc, ← List.append_assoc (asBytes recordType'.asPersisted)] at following
  obtain ⟨types, ids⟩ := Delimits.closed 0 (plain recordType) (plain recordType') following
  refine ⟨?_, asBytes_injective ids⟩
  have names := asBytes_injective types
  cases recordType <;> cases recordType' <;> first | rfl | exact absurd names (by decide)

omit [Sha256] in
theorem hex_cases {text : String} (valid : isHexDigest text = true) {character : Char} (member : character ∈ text.toList) :
    character.toLower = character ∧ character.utf8Size = 1 := by
  simp only [isHexDigest, Bool.and_eq_true, List.all_eq_true, Bool.or_eq_true, decide_eq_true_eq] at valid
  have shown := valid.2 character member
  simp only [Char.isDigit, Bool.and_eq_true, decide_eq_true_eq, ge_iff_le, Char.le_def, UInt32.le_iff_toNat_le] at shown
  have point : character.val.toNat = character.toNat := rfl
  simp at shown
  constructor
  · have low : ¬(character.val ≥ 'A'.val ∧ character.val ≤ 'Z'.val) := by
      have upper : 'A'.val.toNat = 65 ∧ 'Z'.val.toNat = 90 := ⟨rfl, rfl⟩
      simp only [ge_iff_le, UInt32.le_iff_toNat_le]
      omega
    exact dif_neg low
  · rw [Char.utf8Size_eq_one_iff, UInt32.le_iff_toNat_le]
    simp
    omega

theorem shortDigest_length (recordType : ProjectionRecordType) (recordId : String) :
    (shortDigest recordType recordId).length = 32 := by
  have valid := (Sha256.finalize (pathBytes recordType recordId)).valid
  have size := isHexDigest_size valid
  rw [← String.utf8Len_toList, utf8Len_narrow fun character member => (hex_cases valid member).2] at size
  rw [shortDigest, sha256Hex, List.length_take, size]
  rfl

theorem shortDigest_folded (recordType : ProjectionRecordType) (recordId : String) :
    (shortDigest recordType recordId).map Char.toLower = shortDigest recordType recordId := by
  have valid := (Sha256.finalize (pathBytes recordType recordId)).valid
  have plain : ∀ character ∈ shortDigest recordType recordId, character.toLower = character :=
    fun character member => (hex_cases valid (List.mem_of_mem_take member)).1
  exact (List.map_congr_left plain).trans (List.map_id' _)

theorem projectionRelativePath_folded {recordId recordId' : String}
    (same : (projectionRelativePath recordType recordId).toLower = (projectionRelativePath recordType' recordId').toLower) :
    shortDigest recordType recordId = shortDigest recordType' recordId' := by
  have closing : ".md".toList.map Char.toLower = ".md".toList := by decide
  have folded (opening : String) {digest : List Char} (plain : digest.map Char.toLower = digest) :
      (opening ++ String.ofList digest ++ ".md").toLower.toList =
        opening.toList.map Char.toLower ++ (digest ++ ".md".toList) := by
    change ((opening ++ String.ofList digest ++ ".md").map Char.toLower).toList = _
    rw [String.toList_map, String.toList_append, String.toList_append, String.toList_ofList,
      List.map_append, List.map_append, plain, closing, List.append_assoc]
  have path (recordType : ProjectionRecordType) (recordId : String) : projectionRelativePath recordType recordId =
      (recordType.folderName ++ "/" ++ recordId ++ "--") ++ String.ofList (shortDigest recordType recordId) ++ ".md" := rfl
  have ended := congrArg String.toList same
  rw [path, path, folded _ (shortDigest_folded _ _), folded _ (shortDigest_folded _ _)] at ended
  have tails := (List.append_inj' ended (by simp [shortDigest_length])).2
  exact List.append_cancel_right tails

end

section
variable {fresh : ProjectionArtifactSet} {published : List ManagedProjectionManifestEntry}

theorem replacements_exact {changes : List ProjectionChangeSetEntry}
    (among : changes ⊆ diffAgainstPublished fresh published) :
    ∀ change ∈ changes, replacement fresh change = (artifactFor fresh change.relativePath).map manifestEntry :=
  fun _ member => (changed_of_mem (among member)).replacement

theorem hash_of_entry (path : String) :
    ((artifactFor fresh path).map manifestEntry).map (·.finalFileSha256) = artifactHash fresh path := by
  rw [Option.map_map]
  rfl

theorem apply_exact :
    manifestHash (applyChanges fresh published (diffAgainstPublished fresh published)) = artifactHash fresh := by
  funext path
  rw [manifestHash, publishedByPath_applyChanges _ (replacements_exact (List.Subset.refl _))]
  split
  · exact hash_of_entry path
  next absent => exact unchanged absent

theorem apply_without (distinct : (freshPaths fresh).Nodup) (recorded : (published.map (·.relativePath)).Nodup)
    {before after : List ProjectionChangeSetEntry} {change : ProjectionChangeSetEntry}
    (listed : diffAgainstPublished fresh published = before ++ change :: after) :
    manifestHash (applyChanges fresh published (before ++ after)) ≠ artifactHash fresh := by
  intro same
  have once := diff_paths_distinct distinct recorded
  have differs := (changed_of_mem (by rw [listed]; exact List.mem_append_right _ List.mem_cons_self :
    change ∈ diffAgainstPublished fresh published)).differs distinct
  have fewer : before ++ after ⊆ diffAgainstPublished fresh published := by
    rw [listed]
    exact (List.Sublist.append_left (List.sublist_cons_self change after) before).subset
  have absent : change.relativePath ∉ (before ++ after).map (·.relativePath) := by
    rw [listed, List.map_append, List.map_cons] at once
    rw [List.map_append]
    exact (List.nodup_middle.mp once).notMem
  have left := congrFun same change.relativePath
  rw [manifestHash, publishedByPath_applyChanges _ (replacements_exact fewer), if_neg absent] at left
  exact differs left

theorem diff_of_same (distinct : (freshPaths fresh).Nodup) (same : manifestHash published = artifactHash fresh) :
    diffAgainstPublished fresh published = [] := by
  refine List.eq_nil_iff_forall_not_mem.mpr fun change member => ?_
  exact (changed_of_mem member).differs distinct (congrFun same change.relativePath)

end

/-- Applied to what is published, a change set gives what was generated, and without any
one of its entries it does not. It comes in the strict order a rebuild asks for and
loses nothing on the way to a preview; after it nothing is left to change. The
paths of two records differ, however their letters are folded. -/
theorem projection_diff_exact [Sha256] :
    (∀ fresh published, (freshPaths fresh).Nodup → (published.map (·.relativePath)).Nodup →
      manifestHash (applyChanges fresh published (diffAgainstPublished fresh published)) = artifactHash fresh ∧
      (∀ before change after, diffAgainstPublished fresh published = before ++ change :: after →
        manifestHash (applyChanges fresh published (before ++ after)) ≠ artifactHash fresh) ∧
      ((diffAgainstPublished fresh published).Pairwise fun earlier later => earlier.relativePath < later.relativePath) ∧
      (∀ intent : PrepareRebuildManagedProjections, ∀ id now,
        intent.changes = h2aChangeEntries (diffAgainstPublished fresh published) fresh →
        prepareRebuild intent id now ≠ .error .changesNotCanonical) ∧
      (h2aChangeEntries (diffAgainstPublished fresh published) fresh).map (·.relativePath) =
        (diffAgainstPublished fresh published).map (·.relativePath) ∧
      diffAgainstPublished fresh (applyChanges fresh published (diffAgainstPublished fresh published)) = []) ∧
    ∀ recordType recordType' recordId recordId', (recordType, recordId) ≠ (recordType', recordId') →
      (shortDigest recordType recordId = shortDigest recordType' recordId' →
        pathBytes recordType recordId = pathBytes recordType' recordId') →
      (projectionRelativePath recordType recordId).toLower ≠ (projectionRelativePath recordType' recordId').toLower := by
  refine ⟨fun fresh published distinct recorded => ⟨apply_exact, fun before change after listed =>
    apply_without distinct recorded listed, diff_sorted distinct recorded, ?_, h2aChangeEntries_paths,
    diff_of_same distinct apply_exact⟩, ?_⟩
  · intro intent id now listed
    refine prepareRebuild_canonical id now ?_
    rw [listed]
    exact diff_canonical distinct recorded
  · intro recordType recordType' recordId recordId' different collisionFree same
    obtain ⟨types, ids⟩ := pathBytes_injective (collisionFree (projectionRelativePath_folded same))
    exact different (Prod.ext types ids)

namespace Renaming

/-- SHA-256 of the paths of two products whose names differ by one capital. -/
scoped instance : Sha256 where
  finalize bytes :=
    if bytes = pathBytes .product "Apollo" then
      ⟨"743d99f67c931ac5bdf676eaaa9a760871e57abbf33c03edf5fd191ea1d4fa77", by decide⟩
    else ⟨"ea19b51f370f26c1913e49924e4a432ed7a30b1cd0d4b83e4638a8f8d61b3c48", by decide⟩

def staged (path hash : String) : ProjectionArtifact where
  relativePath := path
  frontmatter := ⟨.product, path, 1, 1, 1, "", .internal, none, [], none, []⟩
  content := []
  managedPayloadSha256 := ""
  finalFileSha256 := hash

def recorded (path hash : String) : ManagedProjectionManifestEntry := manifestEntry (staged path hash)

/-- One file is new, one has changed, one is gone and one is as it was. -/
theorem published_products_brought_up_to_date :
    manifestHash (applyChanges ⟨1, 2, [staged "a" "1", staged "b" "2", staged "c" "3"]⟩
      [recorded "d" "4", recorded "c" "3", recorded "b" "0"]
      (diffAgainstPublished ⟨1, 2, [staged "a" "1", staged "b" "2", staged "c" "3"]⟩
        [recorded "d" "4", recorded "c" "3", recorded "b" "0"])) =
      artifactHash ⟨1, 2, [staged "a" "1", staged "b" "2", staged "c" "3"]⟩ ∧
    (projectionRelativePath .product "Apollo").toLower ≠ (projectionRelativePath .product "apollo").toLower := by
  have diff := projection_diff_exact
  refine ⟨(diff.1 _ _ (by decide) (by decide)).1, diff.2 _ _ _ _ (by decide) fun same => ?_⟩
  exact absurd same (by decide +kernel)

end Renaming

end MissionControl.Projections
