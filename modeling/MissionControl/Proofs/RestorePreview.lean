import MissionControl.Lib.Text
import MissionControl.Proofs.DigestCoverage
import MissionControl.Restore.Control

/-! What an approved restore digest covers. The archive's identifier is any text its
manifest holds; every line behind it is read from the end, so that no identifier
imitates another field. -/

namespace MissionControl.Restore
open Encoding

/-- Neither a tab nor a line break. -/
def Unbroken (text : String) : Prop := '\t' ∉ text.toList ∧ '\n' ∉ text.toList

instance (text : String) : Decidable (Unbroken text) := by unfold Unbroken; infer_instance

theorem unbroken_nat (number : Nat) : Unbroken (toString number) := by
  constructor <;>
  · intro member
    exact absurd (isDigit_of_mem_repr member) (by decide)

theorem toList_int (number : Int) : (toString number).toList =
    if 0 ≤ number then number.toNat.repr.toList else '-' :: (-number).toNat.repr.toList := by
  rw [Int.toString_eq_repr, Int.repr_eq_if]
  split
  · rfl
  · rw [String.toList_append]; rfl

theorem unbroken_int (number : Int) : Unbroken (toString number) := by
  rw [Unbroken, toList_int]
  split
  · exact unbroken_nat number.toNat
  · have digits := unbroken_nat (-number).toNat
    exact ⟨List.not_mem_cons_of_ne_of_not_mem (by decide) digits.1, List.not_mem_cons_of_ne_of_not_mem (by decide) digits.2⟩

theorem toString_int_injective : Function.Injective fun number : Int => toString number := by
  have signless (number : Nat) (rest : List Char) : number.repr.toList ≠ '-' :: rest := by
    intro same
    have digit := isDigit_of_mem_repr (by rw [same]; exact List.mem_cons_self : '-' ∈ number.repr.toList)
    exact absurd digit (by decide)
  intro first second same
  have listed := congrArg String.toList same
  simp only [toList_int] at listed
  split at listed <;> split at listed
  · have magnitudes := repr_injective (String.toList_injective listed)
    omega
  · exact absurd listed (signless _ _)
  · exact absurd listed.symm (signless _ _)
  · have magnitudes := repr_injective (String.toList_injective (List.cons.inj listed).2)
    omega

def fieldChars (fields : List String) : List Char := fields.flatMap fun field => '\t' :: field.toList

theorem toList_line (key : String) (fields : List String) :
    (line (key :: fields)).toList = key.toList ++ fieldChars fields ++ ['\n'] := by
  have tab : "\t".toList = ['\t'] := rfl
  rw [line, String.toList_append, String.toList_intercalate, tab, List.map_cons, intercalate_cons, List.flatMap_map]
  rfl

theorem fieldChars_same {first second : List String} {rest other : List Char} (length : first.length = second.length)
    (left : ∀ field ∈ first, Unbroken field) (right : ∀ field ∈ second, Unbroken field)
    (same : rest ++ fieldChars first = other ++ fieldChars second) : first = second ∧ rest = other := by
  have chars (fields : List String) : fieldChars fields = (fields.map String.toList).flatMap ('\t' :: ·) := by
    rw [fieldChars, List.flatMap_map]
  have plain {fields : List String} (unbroken : ∀ field ∈ fields, Unbroken field) :
      ∀ field ∈ fields.map String.toList, '\t' ∉ field := by
    intro field member
    obtain ⟨source, among, rfl⟩ := List.mem_map.mp member
    exact (unbroken source among).1
  rw [chars, chars] at same
  obtain ⟨fields, rests⟩ := Delimits.trailing '\t' (by simpa using length) (plain left) (plain right) same
  exact ⟨List.map_injective_iff.mpr (fun _ _ same => String.toList_injective same) fields, rests⟩

section
variable [Sha256]

def aggregateText (members : List FileMemberBinding) : String :=
  line [fileSetFormat] ++ String.join (members.map fun bound => line [bound.member.name, toString bound.length, bound.sha256])

omit [Sha256] in
theorem delimits_member : Delimits (fun bound : FileMemberBinding => Unbroken bound.sha256)
    fun bound => (line [bound.member.name, toString bound.length, bound.sha256]).toList := by
  rintro ⟨member, length, hash⟩ ⟨member', length', hash'⟩ rest other left right same
  have plain (member : LedgerFileMember) : '\t' ∉ member.name.toList := by cases member <;> decide
  simp only [toList_line, fieldChars, List.flatMap_cons, List.flatMap_nil, List.append_nil, List.append_assoc,
    List.cons_append] at same
  rw [List.append_cons, List.append_cons member'.name.toList] at same
  obtain ⟨names, same⟩ := Delimits.closed '\t' (plain member) (plain member') same
  rw [List.append_cons, List.append_cons (toString length').toList] at same
  obtain ⟨lengths, same⟩ := delimits_repr '\t' (by decide) trivial trivial same
  rw [List.nil_append, List.nil_append, List.append_cons, List.append_cons hash'.toList] at same
  obtain ⟨hashes, tails⟩ := Delimits.closed '\n' left.2 right.2 same
  have members : member = member' := by
    cases member <;> cases member' <;> first | rfl | exact absurd names (by decide)
  obtain rfl : hash = hash' := String.toList_injective hashes
  subst members lengths
  exact ⟨rfl, tails⟩

omit [Sha256] in
theorem aggregateText_injective {first second : List FileMemberBinding} (left : ∀ bound ∈ first, Unbroken bound.sha256)
    (right : ∀ bound ∈ second, Unbroken bound.sha256) (same : aggregateText first = aggregateText second) :
    first = second := by
  replace same := congrArg String.toList same
  simp only [aggregateText, String.toList_append, String.toList_join, List.flatMap_map] at same
  have following := List.append_cancel_left same
  have ended : Apart (fun bound : FileMemberBinding => Unbroken bound.sha256)
      (fun bound => (line [bound.member.name, toString bound.length, bound.sha256]).toList) [] := by
    rintro ⟨member, length, hash⟩ rest - same
    simp [toList_line] at same
  rw [← List.append_nil (first.flatMap _), ← List.append_nil (second.flatMap _)] at following
  exact (delimits_member.terminated left right ended ended following).1

def FileSetBinding.isConsistent (files : FileSetBinding) : Bool := FileSetBinding.new files.members = some files

theorem FileSetBinding.consistent_eq {files : FileSetBinding} (consistent : files.isConsistent = true) :
    files = ⟨fileSetFormat, files.members, aggregate files.members⟩ := by
  have made := of_decide_eq_true consistent
  simp only [FileSetBinding.new] at made
  split at made
  · have same := Option.some.inj made
    have sorted := congrArg FileSetBinding.members same
    simp only at sorted
    rw [sorted] at same
    exact same.symm
  · cases made

end

def CurrentSourceBinding.fileSets : CurrentSourceBinding → List FileSetBinding
  | .inspectable _ => []
  | .opaqueFiles files => [files]

def RecoveryEvidence.fileSets : RecoveryEvidence → List FileSetBinding
  | .operationalBackup _ => []
  | .preservationCopy _ _ files => [files]

def PreparedRestore.fileSets (prepared : PreparedRestore) : List FileSetBinding :=
  prepared.current.fileSets ++ prepared.recovery.fileSets

def CurrentSourceBinding.texts : CurrentSourceBinding → List String
  | .inspectable binding => [binding.inventorySha256, binding.contentSha256]
  | .opaqueFiles files => files.aggregateSha256 :: files.members.map (·.sha256)

def RecoveryEvidence.texts : RecoveryEvidence → List String
  | .operationalBackup archiveId => [archiveId]
  | .preservationCopy preservationId fileName files =>
    preservationId :: fileName :: files.aggregateSha256 :: files.members.map (·.sha256)

def PreparedRestore.texts (prepared : PreparedRestore) : List String :=
  [prepared.preparedIntentId, prepared.payloadSha256, prepared.archiveContainerSha256, prepared.archiveCreatedAt,
    prepared.snapshotSha256, prepared.settingsMemberSha256, prepared.inventoryMemberSha256, prepared.confirmationDate,
    prepared.confirmationTimezone] ++ prepared.current.texts ++ prepared.recovery.texts

structure Previewed [Sha256] (prepared : PreparedRestore) : Prop where
  unbroken : ∀ text ∈ prepared.texts, Unbroken text
  consistent : ∀ files ∈ prepared.fileSets, files.isConsistent = true

/-- No two of the bound file sets share a digest without being one. -/
def CollisionFree [Sha256] (first second : PreparedRestore) : Prop :=
  ∀ files ∈ first.fileSets, ∀ others ∈ second.fileSets, aggregate files.members = aggregate others.members →
    aggregateText files.members = aggregateText others.members

def RecoveryEvidence.point : RecoveryEvidence → RecoveryEvidence
  | .operationalBackup archiveId => .operationalBackup archiveId
  | .preservationCopy preservationId _ files => .preservationCopy preservationId "" files

/-- What is approved of a preview: all of it, but for its own digest, the instant it was
prepared at and the name of a preservation copy. -/
def PreparedRestore.approved (prepared : PreparedRestore) : PreparedRestore :=
  { prepared with payloadSha256 := "", preparedAtMillis := 0, recovery := prepared.recovery.point }

section
variable [Sha256]

/-- The lines behind the archive's. -/
def closingLines (prepared : PreparedRestore) : List (List String) :=
  [["snapshot", prepared.snapshotSha256],
    ["members", prepared.settingsMemberSha256, prepared.inventoryMemberSha256],
    "current" :: currentLine prepared.current,
    ["unopened", unopenedName prepared.unopenedReason],
    ["settings_revision", toString prepared.settingsRevision],
    "recovery" :: recoveryLine prepared.recovery,
    ["confirm", prepared.confirmationDate, prepared.confirmationTimezone],
    ["expires", toString prepared.expiresAtMillis]]

/-- What follows the archive's identifier in its line. -/
def archiveFields (prepared : PreparedRestore) : List String :=
  [prepared.archiveContainerSha256, prepared.archiveCreatedAt, toString prepared.archiveSchemaVersion,
    toString prepared.archiveLedgerRevision, toString prepared.archiveRecordCount]

def lineText (fields : List String) : List Char := ['\t'].intercalate (fields.map String.toList)

omit [Sha256] in
theorem lineText_cons (key : String) (fields : List String) :
    lineText (key :: fields) = key.toList ++ fieldChars fields := by
  rw [lineText, List.map_cons, intercalate_cons, List.flatMap_map]
  rfl

omit [Sha256] in
theorem toList_previewPayload (prepared : PreparedRestore) : (previewPayload prepared).toList =
    ((line ["pmc-restore-preview/v2"]).toList ++ ("intent\t".toList ++ ((prepared.preparedIntentId.toList ++ ['\n']) ++
      ("archive\t".toList ++ (prepared.archiveId.toList ++ fieldChars (archiveFields prepared)))))) ++
      ((closingLines prepared).map lineText).flatMap ('\n' :: ·) ++ ['\n'] := by
  have intent : "intent\t".toList = "intent".toList ++ ['\t'] := by decide
  have archive : "archive\t".toList = "archive".toList ++ ['\t'] := by decide
  simp only [previewPayload, closingLines, archiveFields, String.toList_join, List.flatMap_cons, List.flatMap_nil, List.map_cons,
    List.map_nil, toList_line, lineText_cons, fieldChars, intent, archive, List.append_assoc, List.cons_append, List.nil_append,
    List.append_nil]

omit [Sha256] in
theorem unopenedName_injective : Function.Injective unopenedName := by
  rintro (_ | first) (_ | second) same
  · rfl
  · cases second <;> exact absurd same (by decide)
  · cases first <;> exact absurd same (by decide)
  · cases first <;> cases second <;> first | rfl | exact absurd same (by decide)

variable {first second : PreparedRestore}

omit [Sha256] in
theorem currentLine_unbroken {current : CurrentSourceBinding} (unbroken : ∀ text ∈ current.texts, Unbroken text) :
    ∀ field ∈ currentLine current, Unbroken field := by
  cases current with
  | inspectable binding =>
    simp only [CurrentSourceBinding.texts, List.forall_mem_cons] at unbroken
    simp only [currentLine, List.forall_mem_cons]
    exact ⟨by decide, unbroken_nat _, unbroken_nat _, unbroken⟩
  | opaqueFiles files =>
    simp only [CurrentSourceBinding.texts, List.forall_mem_cons] at unbroken
    simp only [currentLine, List.forall_mem_cons]
    exact ⟨by decide, unbroken.1, fun _ member => by cases member⟩

omit [Sha256] in
theorem recoveryLine_unbroken {recovery : RecoveryEvidence} (unbroken : ∀ text ∈ recovery.texts, Unbroken text) :
    ∀ field ∈ recoveryLine recovery, Unbroken field := by
  cases recovery with
  | operationalBackup archiveId =>
    simp only [RecoveryEvidence.texts, List.forall_mem_cons] at unbroken
    simp only [recoveryLine, List.forall_mem_cons]
    exact ⟨by decide, unbroken⟩
  | preservationCopy preservationId fileName files =>
    simp only [RecoveryEvidence.texts, List.forall_mem_cons] at unbroken
    simp only [recoveryLine, List.forall_mem_cons]
    exact ⟨by decide, unbroken.1, unbroken.2.2.1, fun _ member => by cases member⟩

omit [Sha256] in
theorem unopenedName_unbroken (reason : Option UnopenedReason) : Unbroken (unopenedName reason) := by
  rcases reason with _ | reason
  · decide
  · cases reason <;> decide

def Lined (fields : List String) : Prop := fields ≠ [] ∧ ∀ field ∈ fields, Unbroken field

omit [Sha256] in
theorem closingLines_lined (unbroken : ∀ text ∈ first.texts, Unbroken text) :
    ∀ fields ∈ closingLines first, Lined fields := by
  simp only [PreparedRestore.texts, List.forall_mem_append, List.forall_mem_cons] at unbroken
  obtain ⟨⟨⟨-, -, -, -, snapshot, settings, inventory, date, timezone, -⟩, current⟩, recovery⟩ := unbroken
  have nothing : ∀ field ∈ ([] : List String), Unbroken field := fun _ member => by cases member
  have keyed {key : String} {fields : List String} (plain : Unbroken key) (unbroken : ∀ field ∈ fields, Unbroken field) :
      Lined (key :: fields) := ⟨List.cons_ne_nil _ _, List.forall_mem_cons.mpr ⟨plain, unbroken⟩⟩
  have one {text : String} (plain : Unbroken text) : ∀ field ∈ [text], Unbroken field :=
    List.forall_mem_cons.mpr ⟨plain, nothing⟩
  simp only [closingLines, List.forall_mem_cons]
  exact ⟨keyed (by decide) (one snapshot), keyed (by decide) (List.forall_mem_cons.mpr ⟨settings, one inventory⟩),
    keyed (by decide) (currentLine_unbroken current), keyed (by decide) (one (unopenedName_unbroken _)),
    keyed (by decide) (one (unbroken_nat _)), keyed (by decide) (recoveryLine_unbroken recovery),
    keyed (by decide) (List.forall_mem_cons.mpr ⟨date, one timezone⟩), keyed (by decide) (one (unbroken_int _)),
    fun _ member => by cases member⟩

omit [Sha256] in
theorem archiveFields_unbroken (unbroken : ∀ text ∈ first.texts, Unbroken text) :
    ∀ field ∈ archiveFields first, Unbroken field := by
  simp only [PreparedRestore.texts, List.forall_mem_append, List.forall_mem_cons] at unbroken
  obtain ⟨⟨⟨-, -, container, created, -⟩, -⟩, -⟩ := unbroken
  simp only [archiveFields, List.forall_mem_cons]
  exact ⟨container, created, unbroken_nat _, unbroken_nat _, unbroken_nat _, fun _ member => by cases member⟩

omit [Sha256] in
theorem lineText_plain {fields : List String} (unbroken : ∀ field ∈ fields, Unbroken field) : '\n' ∉ lineText fields := by
  cases fields with
  | nil => simp [lineText]
  | cons key fields =>
    rw [List.forall_mem_cons] at unbroken
    rw [lineText_cons, fieldChars, List.mem_append, List.mem_flatMap, not_or]
    refine ⟨unbroken.1.2, ?_⟩
    rintro ⟨field, member, among⟩
    rcases List.mem_cons.mp among with tab | among
    · exact absurd tab (by decide)
    · exact (unbroken.2 field member).2 among

omit [Sha256] in
theorem lineText_same {fields others : List String} (some : fields ≠ []) (some' : others ≠ [])
    (left : ∀ field ∈ fields, Unbroken field) (right : ∀ field ∈ others, Unbroken field)
    (same : lineText fields = lineText others) : fields = others := by
  have plain {fields : List String} (unbroken : ∀ field ∈ fields, Unbroken field) :
      ∀ field ∈ fields.map String.toList, '\t' ∉ field := by
    intro field member
    obtain ⟨source, among, rfl⟩ := List.mem_map.mp member
    exact (unbroken source among).1
  have split := congrArg (List.splitOn '\t') same
  rw [lineText, lineText, List.splitOn_intercalate '\t' (plain left) (by simpa using some),
    List.splitOn_intercalate '\t' (plain right) (by simpa using some')] at split
  exact List.map_injective_iff.mpr (fun _ _ same => String.toList_injective same) split

omit [Sha256] in
theorem lines_same {lines others : List (List String)} (left : ∀ fields ∈ lines, Lined fields)
    (right : ∀ fields ∈ others, Lined fields) (same : lines.map lineText = others.map lineText) : lines = others := by
  induction lines generalizing others with
  | nil =>
    cases others with
    | nil => rfl
    | cons _ _ => cases same
  | cons fields lines step =>
    cases others with
    | nil => cases same
    | cons fields' others =>
      rw [List.forall_mem_cons] at left right
      obtain ⟨heads, tails⟩ := List.cons.inj same
      rw [lineText_same left.1.1 right.1.1 left.1.2 right.1.2 heads, step left.2 right.2 tails]

omit [Sha256] in
/-- Read from the end, the payload gives every line behind the archive's identifier, and
then the identifier. -/
theorem previewPayload_fields (left : ∀ text ∈ first.texts, Unbroken text)
    (right : ∀ text ∈ second.texts, Unbroken text) (same : previewPayload first = previewPayload second) :
    closingLines first = closingLines second ∧ archiveFields first = archiveFields second ∧
      first.archiveId = second.archiveId ∧ first.preparedIntentId = second.preparedIntentId := by
  have plain {prepared : PreparedRestore} (unbroken : ∀ text ∈ prepared.texts, Unbroken text) :
      ∀ text ∈ (closingLines prepared).map lineText, '\n' ∉ text := by
    intro text member
    obtain ⟨fields, among, rfl⟩ := List.mem_map.mp member
    exact lineText_plain (closingLines_lined unbroken fields among).2
  have count : ((closingLines first).map lineText).length = ((closingLines second).map lineText).length := rfl
  have width : (archiveFields first).length = (archiveFields second).length := rfl
  replace same := congrArg String.toList same
  rw [toList_previewPayload, toList_previewPayload] at same
  obtain ⟨texts, same⟩ := Delimits.trailing '\n' count (plain left) (plain right) (List.append_cancel_right same)
  obtain ⟨intents, same⟩ := Delimits.closed '\n' (left _ List.mem_cons_self).2 (right _ List.mem_cons_self).2
    (List.append_cancel_left (List.append_cancel_left same))
  obtain ⟨fields, ids⟩ := fieldChars_same width (archiveFields_unbroken left) (archiveFields_unbroken right)
    (List.append_cancel_left same)
  exact ⟨lines_same (closingLines_lined left) (closingLines_lined right) texts, fields, String.toList_injective ids,
    String.toList_injective intents⟩

theorem fileSet_same (left : Previewed first) (right : Previewed second) (free : CollisionFree first second)
    {files others : FileSetBinding} (member : files ∈ first.fileSets) (among : others ∈ second.fileSets)
    (hashes : ∀ bound ∈ files.members, Unbroken bound.sha256) (hashes' : ∀ bound ∈ others.members, Unbroken bound.sha256)
    (same : files.aggregateSha256 = others.aggregateSha256) : files = others := by
  have made := FileSetBinding.consistent_eq (left.consistent files member)
  have made' := FileSetBinding.consistent_eq (right.consistent others among)
  rw [made, made'] at same
  have members := aggregateText_injective hashes hashes' (free files member others among same)
  rw [made, made', members]

theorem current_same (left : Previewed first) (right : Previewed second) (free : CollisionFree first second)
    (same : currentLine first.current = currentLine second.current) : first.current = second.current := by
  have hashes {prepared : PreparedRestore} (unbroken : ∀ text ∈ prepared.texts, Unbroken text) {files : FileSetBinding}
      (bound : prepared.current = .opaqueFiles files) : ∀ member ∈ files.members, Unbroken member.sha256 := by
    intro member among
    refine unbroken _ (List.mem_append_left _ (List.mem_append_right _ ?_))
    rw [bound]
    exact List.mem_cons_of_mem _ (List.mem_map_of_mem among)
  have held {prepared : PreparedRestore} {files : FileSetBinding} (bound : prepared.current = .opaqueFiles files) :
      files ∈ prepared.fileSets := by
    rw [PreparedRestore.fileSets, bound]
    exact List.mem_cons_self
  cases shown : first.current <;> cases shown' : second.current <;> rw [shown, shown'] at same <;>
    simp only [currentLine, List.cons.injEq, and_true] at same
  case inspectable.inspectable binding binding' =>
    obtain ⟨-, schemas, revisions, inventories, contents⟩ := same
    cases binding
    cases binding'
    simp only at schemas revisions inventories contents
    rw [repr_injective schemas, repr_injective revisions, inventories, contents]
  case opaqueFiles.opaqueFiles files files' =>
    rw [fileSet_same left right free (held shown) (held shown') (hashes left.unbroken shown)
      (hashes right.unbroken shown') same.2]
  all_goals exact absurd same.1 (by decide)

theorem recovery_same (left : Previewed first) (right : Previewed second) (free : CollisionFree first second)
    (same : recoveryLine first.recovery = recoveryLine second.recovery) :
    first.recovery.point = second.recovery.point := by
  have hashes {prepared : PreparedRestore} (unbroken : ∀ text ∈ prepared.texts, Unbroken text) {id name : String}
      {files : FileSetBinding} (bound : prepared.recovery = .preservationCopy id name files) :
      ∀ member ∈ files.members, Unbroken member.sha256 := by
    intro member among
    refine unbroken _ (List.mem_append_right _ ?_)
    rw [bound]
    exact List.mem_cons_of_mem _ (List.mem_cons_of_mem _ (List.mem_cons_of_mem _ (List.mem_map_of_mem among)))
  have held {prepared : PreparedRestore} {id name : String} {files : FileSetBinding}
      (bound : prepared.recovery = .preservationCopy id name files) : files ∈ prepared.fileSets := by
    rw [PreparedRestore.fileSets, bound]
    exact List.mem_append_right _ List.mem_cons_self
  cases shown : first.recovery <;> cases shown' : second.recovery <;> rw [shown, shown'] at same <;>
    simp only [recoveryLine, List.cons.injEq, and_true] at same
  case operationalBackup.operationalBackup => rw [same.2]
  case preservationCopy.preservationCopy id name files id' name' files' =>
    rw [same.2.1, fileSet_same left right free (held shown) (held shown') (hashes left.unbroken shown)
      (hashes right.unbroken shown') same.2.2]
    rfl
  all_goals exact absurd same.1 (by decide)

/-- Two previews with one payload agree in everything that is approved. -/
theorem preview_covers (left : Previewed first) (right : Previewed second) (free : CollisionFree first second)
    (same : previewPayload first = previewPayload second) : first.approved = second.approved := by
  obtain ⟨lines, fields, archives, intents⟩ := previewPayload_fields left.unbroken right.unbroken same
  simp only [closingLines, List.cons.injEq, and_true, true_and] at lines
  simp only [archiveFields, List.cons.injEq, and_true] at fields
  obtain ⟨snapshots, ⟨settings, inventories⟩, currents, reasons, revisions, recoveries, ⟨dates, timezones⟩, expiries⟩ := lines
  obtain ⟨containers, created, schemas, ledgers, counts⟩ := fields
  have current := current_same left right free currents
  have recovery := recovery_same left right free recoveries
  unfold PreparedRestore.approved
  rw [archives, intents, snapshots, settings, inventories, current, unopenedName_injective reasons,
    repr_injective revisions, recovery, dates, timezones, toString_int_injective expiries, containers, created,
    repr_injective schemas, repr_injective ledgers, repr_injective counts]

end

/-! The name of a preservation copy is shown, and not approved. -/

namespace Preservation

/-- SHA-256 of the one file set that is bound. -/
scoped instance : Sha256 where
  finalize _ := ⟨"94f046728b985b8f677d8ccf7ee8e25f83e7868878367e8c019aab6b1aa3654f", by decide⟩

def preserved : FileSetBinding := ⟨fileSetFormat, [⟨.ledger, 4096, "a1"⟩], aggregate [⟨.ledger, 4096, "a1"⟩]⟩

/-- A preview over a Ledger that could not be opened, of an archive whose identifier
starts a line of its own. -/
def unopened (fileName : String) : PreparedRestore where
  preparedIntentId := "intent-1"
  payloadSha256 := ""
  archiveId := "archive-1\nsnapshot\tb2"
  archiveContainerSha256 := "c3"
  archiveCreatedAt := "2026-01-01T00:00:00.000Z"
  archiveSchemaVersion := 48
  archiveLedgerRevision := 7
  archiveRecordCount := 3
  snapshotSha256 := "d4"
  settingsMemberSha256 := "e5"
  inventoryMemberSha256 := "f6"
  current := .opaqueFiles preserved
  unopenedReason := some .openFailed
  settingsRevision := 2
  recovery := .preservationCopy "copy-1" fileName preserved
  confirmationDate := "2026-01-02"
  confirmationTimezone := "UTC"
  preparedAtMillis := 0
  expiresAtMillis := 300000

theorem fileSets_unopened (fileName : String) : ∀ files ∈ (unopened fileName).fileSets, files = preserved := by
  intro files member
  rcases List.mem_cons.mp member with rfl | member
  · rfl
  · exact List.mem_singleton.mp member

theorem unopened_previewed {fileName : String} (plain : Unbroken fileName) : Previewed (unopened fileName) where
  unbroken := by
    simp only [unopened, PreparedRestore.texts, CurrentSourceBinding.texts, RecoveryEvidence.texts, preserved,
      List.map_cons, List.map_nil, List.forall_mem_append, List.forall_mem_cons]
    exact ⟨⟨by decide, by decide⟩, by decide, plain, by decide⟩
  consistent := by
    intro files member
    rw [fileSets_unopened fileName files member]
    decide +kernel

theorem collisionFree_unopened (first second : String) : CollisionFree (unopened first) (unopened second) := by
  intro files member others among _
  rw [fileSets_unopened first files member, fileSets_unopened second others among]

theorem renamed_copy_approved : (unopened "kept.pmcpreserve").approved = (unopened "moved.pmcpreserve").approved :=
  preview_covers (unopened_previewed (by decide)) (unopened_previewed (by decide)) (collisionFree_unopened _ _) rfl

theorem copy_name_not_approved :
    Previewed (unopened "kept.pmcpreserve") ∧ Previewed (unopened "moved.pmcpreserve") ∧
      CollisionFree (unopened "kept.pmcpreserve") (unopened "moved.pmcpreserve") ∧
      previewPayload (unopened "kept.pmcpreserve") = previewPayload (unopened "moved.pmcpreserve") ∧
      (unopened "kept.pmcpreserve").recovery ≠ (unopened "moved.pmcpreserve").recovery :=
  ⟨unopened_previewed (by decide), unopened_previewed (by decide), collisionFree_unopened _ _, rfl, by decide⟩

end Preservation

end MissionControl.Restore
