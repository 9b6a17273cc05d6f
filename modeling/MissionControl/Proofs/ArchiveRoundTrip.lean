import MissionControl.Archive.Container
import Mathlib.Algebra.BigOperators.Group.List.Basic
import Mathlib.Data.List.Induction

/-! An archive that was written reads back, under its own profile only, and an archive that
reads back is what its manifest says. -/

namespace MissionControl.ArchiveRoundTrip
open Archive Checked Streaming

section
variable {State : Type} {inner : Read State UInt8 StreamFailure} {contents : State → Contents UInt8 StreamFailure}

/-- The capped reader delivers the stream behind its ceiling, however the reader behind it
cuts the stream. -/
theorem cappedRead_serves (serves : Serves inner contents) :
    Serves (cappedRead inner) fun state => (contents state.1).capped .capExceeded state.2 := by
  intro size state room
  obtain ⟨state, remaining⟩ := state
  obtain ⟨size, rfl⟩ := Nat.exists_eq_succ_of_ne_zero room.ne'
  cases remaining with
  | zero =>
    have served := serves 1 state Nat.one_pos
    simp only [cappedRead]
    generalize inner 1 state = answer at served ⊢
    obtain ⟨outcome, later⟩ := answer
    simp only at served
    generalize contents state = before, after : contents later = rest at served ⊢
    cases served with
    | ended =>
      simp only [after]
      exact .ended
    | failed => exact .failed
    | @piece head tail failure some _ =>
      cases head with
      | nil => exact absurd rfl some
      | cons first others =>
        simp only [Contents.capped, List.cons_append, List.length_cons, Nat.succ_ne_zero, Nat.le_zero, if_false,
          List.take_zero]
        exact .failed
  | succ remaining =>
    have served := serves (min (remaining + 1) (size + 1)) state (by omega)
    simp only [cappedRead]
    generalize inner (min (remaining + 1) (size + 1)) state = answer at served ⊢
    obtain ⟨outcome, later⟩ := answer
    simp only at served
    generalize contents state = before, after : contents later = rest at served ⊢
    cases served with
    | ended =>
      simp only [after]
      exact .ended
    | failed => exact .failed
    | @piece head tail failure some fits =>
      have within : head.length ≤ remaining + 1 := fits.trans (min_le_left _ _)
      have room : head.length ≤ size + 1 := fits.trans (min_le_right _ _)
      simp only [after, Contents.capped, List.length_append]
      by_cases all : head.length + tail.length ≤ remaining + 1
      · rw [if_pos all, if_pos (by omega)]
        exact .piece some room
      · rw [if_neg all, if_neg (by omega), List.take_append, List.take_of_length_le within]
        exact .piece some room

/-- Read to its end through the ceiling, in pieces of whatever size, a stream comes whole or as
too large. -/
theorem capped_drain (serves : Serves inner contents) {size fuel ceiling : Nat} (room : 0 < size) (state : State)
    (fueled : min (contents state).symbols.length ceiling < fuel) :
    relabel streamError (drain (cappedRead inner) size fuel (state, ceiling)) =
      if (contents state).symbols.length ≤ ceiling then copyMember (contents state) else .error .tooLarge := by
  have short : ((contents state).capped .capExceeded ceiling).symbols.length < fuel := by
    unfold Contents.capped
    split
    next fits => exact Nat.min_eq_left fits ▸ fueled
    next => exact List.length_take ▸ Nat.min_comm _ _ ▸ fueled
  have drained : drain (cappedRead inner) size fuel (state, ceiling) = ((contents state).capped .capExceeded ceiling).all :=
    drain_eq (cappedRead_serves serves) room short
  rw [drained, Contents.capped]
  split <;> rfl

def bytewise : Read Bytes UInt8 StreamFailure := fun _ bytes => (.ok (bytes.take 1), bytes.drop 1)

theorem bytewise_too_large :
    relabel streamError (drain (cappedRead bytewise) 8 3 ([1, 2, 3], 2)) = .error .tooLarge := by
  have serves : Serves bytewise (⟨·, none⟩) := by
    intro size bytes room
    cases bytes with
    | nil => exact .ended
    | cons byte _ => exact @Delivers.piece _ _ _ [byte] _ _ (List.cons_ne_nil _ _) room
  exact capped_drain serves (by decide) _ (by decide)

end

section
variable {ε α β : Type} {failure : ε}

theorem passes {condition : Prop} [Decidable condition] {next : Unit → Except ε α} (holds : condition) :
    (ensure condition failure >>= next) = next () := by
  rw [ensure, if_pos holds]
  rfl

theorem yields {value : Option α} {result : α} {next : α → Except ε β} (there : value = some result) :
    (require failure value >>= next) = next result := by
  rw [there]
  rfl

theorem reads {outcome : Except ε α} {result : α} {next : α → Except ε β} (done : outcome = .ok result) :
    (outcome >>= next) = next result := by
  rw [done]
  rfl

end

def lengthOf (member : ArchiveMemberSource) : Nat := (member.content.getD []).length

def sizes (members : List ArchiveMemberSource) : Nat := (members.map lengthOf).sum

theorem saturatingAdd_of_lt {first second : Nat} (small : saturatingAdd first second < 2 ^ 64 - 1) :
    saturatingAdd first second = first + second := by
  unfold saturatingAdd at small ⊢
  omega

theorem totalSize_ok {members : List ArchiveMemberSource} {start total : Nat}
    (counted : totalSize start members = .ok total) (small : total < 2 ^ 64 - 1) :
    (∀ member ∈ members, member.content.isSome) ∧ start + sizes members = total := by
  induction members generalizing start with
  | nil => exact ⟨nofun, pure_ok.mp counted⟩
  | cons member rest ih =>
    obtain ⟨content, there, counted⟩ := bind_ok.mp counted
    have there := require_ok.mp there
    obtain ⟨others, sum⟩ := ih counted
    have exact := saturatingAdd_of_lt (show saturatingAdd start content.length < 2 ^ 64 - 1 by omega)
    refine ⟨?_, ?_⟩
    · intro other member
      rcases List.mem_cons.mp member with rfl | member
      · rw [there]
        rfl
      · exact others other member
    · rw [exact] at sum
      simp only [sizes, List.map_cons, List.sum_cons, lengthOf, there, Option.getD_some] at sum ⊢
      omega

theorem framedLength_le (files : List TarFile) :
    framedLength files ≤ (files.map fun file => file.content.length).sum + 1023 * files.length + 1024 := by
  unfold framedLength
  refine Nat.add_le_add_right ?_ 1024
  induction files with
  | nil => exact Nat.le_refl 0
  | cons file rest ih =>
    simp only [List.map_cons, List.sum_cons, List.length_cons, paddedLength] at ih ⊢
    omega

theorem sizes_memberFiles (members : List ArchiveMemberSource) :
    ((memberFiles members).map fun file => file.content.length).sum = sizes members := by
  rw [memberFiles, List.map_map]
  rfl

section
variable [Sha256]

def listed (member : ArchiveMemberSource) : ManifestMember :=
  ⟨member.name, lengthOf member, hexDigest (member.content.getD [])⟩

variable {members : List ArchiveMemberSource}

omit [Sha256] in
theorem checkNames_ok {seen : List String} (checked : checkNames seen members = .ok ()) :
    (∀ member ∈ members, isPlainName member.name = true ∧ member.name ≠ manifestName ∧ member.name ∉ seen) ∧
      (members.map ArchiveMemberSource.name).Nodup := by
  induction members generalizing seen with
  | nil => exact ⟨nofun, List.nodup_nil⟩
  | cons member rest ih =>
    obtain ⟨_, plain, checked⟩ := bind_ok.mp checked
    have plain := ensure_ok.mp plain
    obtain ⟨others, distinct⟩ := ih checked
    refine ⟨?_, ?_⟩
    · intro other held
      rcases List.mem_cons.mp held with rfl | held
      · exact plain
      · obtain ⟨named, unlike, unseen⟩ := others other held
        exact ⟨named, unlike, fun before => unseen (List.mem_cons_of_mem _ before)⟩
    · rw [List.map_cons, List.nodup_cons]
      refine ⟨fun again => ?_, distinct⟩
      obtain ⟨other, held, same⟩ := List.mem_map.mp again
      exact (others other held).2.2 (same ▸ List.mem_cons_self)

theorem listMembers_ok {results : List ManifestMember} (read : members.mapM listMember = .ok results) :
    results = members.map listed := by
  have matched := mapM_ok.mp read
  clear read
  induction matched with
  | nil => rfl
  | cons one _ ih =>
    obtain ⟨content, there, one⟩ := bind_ok.mp one
    rw [List.map_cons, ← ih, ← pure_ok.mp one]
    simp [listed, lengthOf, require_ok.mp there]

end

section
variable [Sha256] [ArchiveHost]

def place (directory : Option Directory) (member : ArchiveMemberSource) : Option Directory :=
  directory.map fun directory =>
    { directory with held := Function.update directory.held member.name (some (member.content.getD [])) }

structure Admits (reading : Reading) (members : List ArchiveMemberSource) : Prop where
  plain : ∀ member ∈ members, isPlainName member.name = true ∧ member.name ≠ manifestName
  distinct : (reading.computed.map ManifestMember.name ++ members.map ArchiveMemberSource.name).Nodup
  total : reading.declaredTotal + sizes members ≤ maxArchivePlaintextBytes
  few : reading.computed.length + members.length ≤ maxMembers
  before : reading.manifest = none
  room : ∀ directory ∈ reading.directory, ∀ member ∈ members,
    directory.held member.name = none ∧ directory.takes member.name = true

def Reading.taking (reading : Reading) (member : ArchiveMemberSource) : Reading :=
  { reading with
    declaredTotal := reading.declaredTotal + lengthOf member
    directory := place reading.directory member
    computed := reading.computed ++ [listed member] }

omit [ArchiveHost] [Sha256] in
theorem saturatingAdd_eq {first second : Nat} (small : first + second < 2 ^ 64) :
    saturatingAdd first second = first + second := by
  unfold saturatingAdd
  omega

omit [ArchiveHost] [Sha256] in
theorem extractMember_eq {name : String} {bytes : Bytes} {directory : Option Directory}
    (room : ∀ held ∈ directory, held.held name = none ∧ held.takes name = true) :
    extractMember name ⟨bytes, none⟩ directory = .ok (bytes, directory.map fun directory =>
      { directory with held := Function.update directory.held name (some bytes) }) := by
  cases directory with
  | none => rfl
  | some directory =>
    simp only [extractMember, ensure, if_pos (room directory rfl)]
    rfl

variable {member : ArchiveMemberSource} {reading : Reading}

theorem readEntry_member {rest : List ArchiveMemberSource} (admits : Admits reading (member :: rest)) :
    readEntry reading (TarFile.entry ⟨member.name, member.content.getD []⟩) = .ok (Reading.taking reading member) := by
  obtain ⟨plain, unlike⟩ := admits.plain member List.mem_cons_self
  have fresh : member.name ∉ reading.computed.map ManifestMember.name := fun before =>
    (List.nodup_append.mp admits.distinct).2.2 _ before _ List.mem_cons_self rfl
  have total := admits.total
  have few := admits.few
  simp only [sizes, List.map_cons, List.sum_cons, List.length_cons] at total few
  have bound : reading.declaredTotal + lengthOf member ≤ maxArchivePlaintextBytes := by omega
  have declared : saturatingAdd reading.declaredTotal (member.content.getD []).length =
      reading.declaredTotal + lengthOf member :=
    saturatingAdd_eq (Nat.lt_of_le_of_lt bound (by decide))
  have regular : (TarFile.entry ⟨member.name, member.content.getD []⟩).entryType = .regular := rfl
  have named : fromUtf8 (TarFile.entry ⟨member.name, member.content.getD []⟩).pathBytes = some member.name :=
    fromUtf8_asBytes member.name
  unfold readEntry
  rw [passes admits.before, passes regular, yields named, passes ⟨plain, fresh⟩, passes]
  · rw [if_neg unlike]
    have extracted : extractMember member.name (TarFile.entry ⟨member.name, member.content.getD []⟩).contents
        reading.directory = .ok (member.content.getD [], place reading.directory member) :=
      extractMember_eq fun held there => admits.room held there member List.mem_cons_self
    have whole : (member.content.getD []).length = (TarFile.entry ⟨member.name, member.content.getD []⟩).size := rfl
    rw [reads extracted, passes whole]
    exact congrArg Except.ok (by rw [Reading.taking, ← declared]; rfl)
  · simp only [TarFile.entry, declared]
    exact ⟨by omega, .inr (by omega)⟩

omit [ArchiveHost] in
theorem Admits.next {rest : List ArchiveMemberSource} (admits : Admits reading (member :: rest)) :
    Admits (Reading.taking reading member) rest where
  plain other held := admits.plain other (List.mem_cons_of_mem _ held)
  distinct := by
    have distinct := admits.distinct
    simpa [Reading.taking, listed] using distinct
  total := by
    have total := admits.total
    simp only [sizes, List.map_cons, List.sum_cons] at total
    simp only [Reading.taking, sizes]
    omega
  few := by
    have few := admits.few
    simp only [List.length_cons] at few
    simp only [Reading.taking, List.length_append, List.length_cons, List.length_nil]
    omega
  before := admits.before
  room directory there other held := by
    obtain ⟨earlier, before, rfl⟩ := Option.map_eq_some_iff.mp there
    obtain ⟨free, takes⟩ := admits.room earlier before other (List.mem_cons_of_mem _ held)
    have distinct := (List.nodup_append.mp admits.distinct).2.1
    rw [List.map_cons, List.nodup_cons] at distinct
    have differs : other.name ≠ member.name := fun same => distinct.1 (List.mem_map.mpr ⟨other, held, same⟩)
    exact ⟨(Function.update_of_ne differs _ _).trans free, takes⟩

variable {following : List (Except StreamFailure RawEntry)}

variable {members : List ArchiveMemberSource}

theorem readEntries_members (admits : Admits reading members) :
    readEntries ((memberFiles members).map (fun file => .ok file.entry) ++ following) reading =
      readEntries following (members.foldl Reading.taking reading) := by
  induction members generalizing reading with
  | nil => rfl
  | cons member rest ih =>
    have read := readEntry_member admits
    simp only [memberFiles, List.map_cons, List.cons_append, readEntries, relabel, bind, Except.bind, read,
      List.foldl_cons]
    exact ih admits.next

omit [ArchiveHost] in
theorem foldl_taking (members : List ArchiveMemberSource) (reading : Reading) :
    members.foldl Reading.taking reading =
      { reading with
        declaredTotal := reading.declaredTotal + sizes members
        directory := members.foldl place reading.directory
        computed := reading.computed ++ members.map listed } := by
  induction members generalizing reading with
  | nil => simp [sizes]
  | cons member rest ih =>
    rw [List.foldl_cons, ih]
    simp [Reading.taking, sizes, Nat.add_assoc]

omit [Sha256] [ArchiveHost] in
theorem foldl_place (members : List ArchiveMemberSource) (directory : Directory) :
    ∃ later, members.foldl place (some directory) = some later := by
  induction members generalizing directory with
  | nil => exact ⟨directory, rfl⟩
  | cons _ _ ih => exact ih _

omit [Sha256] [ArchiveHost] in
theorem placed (distinct : (members.map ArchiveMemberSource.name).Nodup) (directory : Directory)
    (held : member ∈ members) :
    ∃ later, members.foldl place (some directory) = some later ∧ later.held member.name = some (member.content.getD []) := by
  induction members using List.reverseRecOn with
  | nil => cases held
  | append_singleton rest last ih =>
    rw [List.map_append, List.nodup_append] at distinct
    rw [List.foldl_append]
    rcases List.mem_append.mp held with held | held
    · obtain ⟨before, there, stored⟩ := ih distinct.1 held
      rw [there]
      have differs : member.name ≠ last.name := fun same =>
        distinct.2.2 _ (List.mem_map_of_mem held) _ (List.mem_map_of_mem List.mem_cons_self) same
      exact ⟨_, rfl, (Function.update_of_ne differs _ _).trans stored⟩
    · obtain rfl := List.mem_singleton.mp held
      obtain ⟨before, there⟩ := foldl_place rest directory
      rw [there]
      exact ⟨_, rfl, Function.update_self _ _ _⟩

structure Describes (entry : RawEntry) (member : ManifestMember) : Prop where
  regular : entry.entryType = .regular
  named : fromUtf8 entry.pathBytes = some member.name
  plain : isPlainName member.name = true
  unlike : member.name ≠ manifestName
  size : member.size = entry.contents.symbols.length
  declared : entry.size = member.size
  whole : entry.contents.failure = none
  digest : member.sha256 = hexDigest entry.contents.symbols

structure Holds (entry : RawEntry) (manifest : ArchiveManifest) : Prop where
  regular : entry.entryType = .regular
  named : fromUtf8 entry.pathBytes = some manifestName
  whole : entry.contents.failure = none
  parsed : ArchiveHost.parseManifest entry.contents.symbols = some manifest

variable {contents : Contents UInt8 StreamFailure}

omit [Sha256] [ArchiveHost] in
theorem copyMember_ok {bytes : Bytes} (copied : copyMember contents = .ok bytes) :
    contents.failure = none ∧ contents.symbols = bytes := by
  obtain ⟨symbols, failure⟩ := contents
  cases failure with
  | none => exact ⟨rfl, Except.ok.inj copied⟩
  | some failure => cases copied

omit [Sha256] [ArchiveHost] in
theorem extractMember_ok {name : String} {before after : Option Directory} {bytes : Bytes}
    (extracted : extractMember name contents before = .ok (bytes, after)) :
    contents.failure = none ∧ contents.symbols = bytes := by
  cases before with
  | none =>
    obtain ⟨copy, copied, same⟩ := bind_ok.mp extracted
    cases pure_ok.mp same
    exact copyMember_ok copied
  | some directory =>
    obtain ⟨_, _, extracted⟩ := bind_ok.mp extracted
    obtain ⟨copy, copied, same⟩ := bind_ok.mp extracted
    cases pure_ok.mp same
    exact copyMember_ok copied

theorem readEntry_ok {reading later : Reading} {entry : RawEntry} (read : readEntry reading entry = .ok later) :
    reading.manifest = none ∧
      ((∃ manifest, Holds entry manifest ∧ later.manifest = some manifest ∧ later.computed = reading.computed) ∨
        ∃ member, Describes entry member ∧ member.name ∉ reading.computed.map ManifestMember.name ∧
          later.manifest = none ∧ later.computed = reading.computed ++ [member]) := by
  obtain ⟨_, before, read⟩ := bind_ok.mp read
  obtain ⟨_, regular, read⟩ := bind_ok.mp read
  obtain ⟨name, named, read⟩ := bind_ok.mp read
  obtain ⟨_, fresh, read⟩ := bind_ok.mp read
  obtain ⟨_, _, read⟩ := bind_ok.mp read
  have before := ensure_ok.mp before
  have regular := ensure_ok.mp regular
  have named := require_ok.mp named
  obtain ⟨plain, fresh⟩ := ensure_ok.mp fresh
  refine ⟨before, ?_⟩
  split at read
  next same =>
    obtain ⟨_, _, read⟩ := bind_ok.mp read
    obtain ⟨bytes, copied, read⟩ := bind_ok.mp read
    obtain ⟨manifest, parsed, done⟩ := bind_ok.mp read
    obtain ⟨whole, rfl⟩ := copyMember_ok copied
    cases pure_ok.mp done
    exact .inl ⟨manifest, ⟨regular, same ▸ named, whole, require_ok.mp parsed⟩, rfl, rfl⟩
  next unlike =>
    obtain ⟨⟨bytes, directory⟩, extracted, read⟩ := bind_ok.mp read
    obtain ⟨_, sized, done⟩ := bind_ok.mp read
    obtain ⟨whole, rfl⟩ := extractMember_ok extracted
    have sized := ensure_ok.mp sized
    cases pure_ok.mp done
    exact .inr ⟨_, ⟨regular, named, plain, unlike, sized.symm, rfl, whole, rfl⟩, fresh, before, rfl⟩

theorem readEntries_after {reading final : Reading} (read : readEntries following reading = .ok final)
    (there : reading.manifest ≠ none) : following = [] ∧ final = reading := by
  cases following with
  | nil => exact ⟨rfl, (pure_ok.mp read).symm⟩
  | cons next rest =>
    obtain ⟨entry, _, read⟩ := bind_ok.mp read
    obtain ⟨later, one, _⟩ := bind_ok.mp read
    exact absurd (readEntry_ok one).1 there

theorem readEntries_lists {reading final : Reading} {manifest : ArchiveManifest}
    (read : readEntries following reading = .ok final) (before : reading.manifest = none)
    (ends : final.manifest = some manifest) (distinct : (reading.computed.map ManifestMember.name).Nodup) :
    ∃ entries last members, following = (entries ++ [last]).map .ok ∧ List.Forall₂ Describes entries members ∧
      Holds last manifest ∧ final.computed = reading.computed ++ members ∧
      (final.computed.map ManifestMember.name).Nodup := by
  induction following generalizing reading with
  | nil =>
    cases pure_ok.mp read
    cases before.symm.trans ends
  | cons next rest ih =>
    obtain ⟨entry, good, read⟩ := bind_ok.mp read
    obtain ⟨later, one, onward⟩ := bind_ok.mp read
    obtain rfl := relabel_ok.mp good
    obtain ⟨_, ⟨found, holds, there, same⟩ | ⟨member, describes, fresh, none, same⟩⟩ := readEntry_ok one
    · obtain ⟨rfl, rfl⟩ := readEntries_after onward (by rw [there]; exact Option.some_ne_none _)
      cases there.symm.trans ends
      exact ⟨[], entry, [], rfl, .nil, holds, by rw [same, List.append_nil], by rw [same]; exact distinct⟩
    · obtain ⟨entries, last, members, rfl, matched, holds, computed, names⟩ := ih onward none (by
        rw [same, List.map_append, List.nodup_append]
        refine ⟨distinct, List.nodup_singleton _, ?_⟩
        intro name held other single equal
        cases List.mem_singleton.mp single
        exact fresh (equal ▸ held))
      refine ⟨entry :: entries, last, member :: members, rfl, .cons describes matched, holds, ?_, names⟩
      rw [computed, same, List.append_assoc, List.singleton_append]

end

section
variable [Sha256] [ArchiveHost] {writes : Bool} {passphrase profile : String} {workFactor : Nat} {input : ManifestInput}
  {members : List ArchiveMemberSource} {written : WrittenArchive} {container : Bytes}

/-- The encryption, the compression, the tar format and JSON undo what they did to what was
written; the tar format frames it in blocks. -/
structure Inverse (passphrase : String) (workFactor : Nat) (files : List TarFile) (manifest : ArchiveManifest) : Prop where
  scrypt : ∀ plain, ArchiveHost.isScrypt (ArchiveHost.encrypt passphrase workFactor plain) = .ok true
  decrypts : ∀ accepted plain, workFactor ≤ accepted →
    ArchiveHost.decrypt passphrase accepted (ArchiveHost.encrypt passphrase workFactor plain) = .ok ⟨plain, none⟩
  decompresses : ∀ plain, ArchiveHost.decompress ⟨ArchiveHost.compress plain, none⟩ = .ok ⟨plain, none⟩
  framed : (ArchiveHost.tar files).length = framedLength files
  entries : ArchiveHost.entries ⟨ArchiveHost.tar files, none⟩ = files.map fun file => .ok file.entry
  parses : ArchiveHost.parseManifest (ArchiveHost.manifestJson manifest) = some manifest

structure Wrote (profile : String) (input : ManifestInput) (members : List ArchiveMemberSource) (manifest : ArchiveManifest) :
    Prop where
  plain : ∀ member ∈ members, isPlainName member.name = true ∧ member.name ≠ manifestName
  distinct : (members.map ArchiveMemberSource.name).Nodup
  few : members.length ≤ maxMembers
  there : ∀ member ∈ members, member.content.isSome
  total : sizes members ≤ maxArchivePlaintextBytes
  small : (ArchiveHost.manifestJson manifest).length ≤ maxManifestBytes
  manifest : manifest = manifestFor input profile (members.map listed)

theorem writeProfiled_ok
    (wrote : writeProfiled writes passphrase workFactor profile input members = .ok (written, container)) :
    Wrote profile input members written.manifest ∧
      container = ArchiveHost.encrypt passphrase workFactor
        (ArchiveHost.compress (ArchiveHost.tar (archived members written.manifest))) := by
  obtain ⟨_, names, wrote⟩ := bind_ok.mp wrote
  obtain ⟨_, few, wrote⟩ := bind_ok.mp wrote
  obtain ⟨total, counted, wrote⟩ := bind_ok.mp wrote
  obtain ⟨_, bounded, wrote⟩ := bind_ok.mp wrote
  obtain ⟨_, _, wrote⟩ := bind_ok.mp wrote
  obtain ⟨results, listedOk, wrote⟩ := bind_ok.mp wrote
  obtain ⟨_, small, wrote⟩ := bind_ok.mp wrote
  obtain ⟨_, _, done⟩ := bind_ok.mp wrote
  cases pure_ok.mp done
  obtain ⟨plain, distinct⟩ := checkNames_ok names
  have bounded := ensure_ok.mp bounded
  obtain ⟨there, sum⟩ := totalSize_ok counted (Nat.lt_of_le_of_lt bounded (by decide))
  refine ⟨⟨fun member held => ⟨(plain member held).1, (plain member held).2.1⟩, distinct, (ensure_ok.mp few).1, there,
    by omega, ensure_ok.mp small, ?_⟩, rfl⟩
  rw [listMembers_ok listedOk]

variable {manifest : ArchiveManifest}

theorem Wrote.framed_le (wrote : Wrote profile input members manifest) :
    framedLength (archived members manifest) ≤ streamCeiling := by
  have framed := framedLength_le (archived members manifest)
  simp only [archived, List.map_append, List.sum_append, sizes_memberFiles, List.map_cons, List.map_nil, List.sum_cons,
    List.sum_nil, List.length_append, List.length_cons, List.length_nil, Nat.add_zero, Nat.zero_add] at framed
  simp only [memberFiles, List.length_map] at framed
  have headers : 1023 * (members.length + 1) ≤ 1023 * (maxMembers + 1) :=
    Nat.mul_le_mul_left _ (Nat.succ_le_succ wrote.few)
  calc framedLength (archived members manifest)
      ≤ sizes members + (ArchiveHost.manifestJson manifest).length + 1023 * (members.length + 1) + 1024 := framed
    _ ≤ maxArchivePlaintextBytes + maxManifestBytes + 1023 * (maxMembers + 1) + 1024 :=
        Nat.add_le_add_right (Nat.add_le_add (Nat.add_le_add wrote.total wrote.small) headers) _
    _ ≤ streamCeiling := by decide

variable {extractTo : Option Directory}

theorem Wrote.admits (wrote : Wrote profile input members manifest) (room : ∀ directory ∈ extractTo, ∀ member ∈ members,
      directory.held member.name = none ∧ directory.takes member.name = true) :
    Admits ⟨0, [], none, extractTo⟩ members where
  plain := wrote.plain
  distinct := wrote.distinct
  total := by simpa using wrote.total
  few := by simpa using wrote.few
  before := rfl
  room := room

theorem Wrote.readEntry_manifest (wrote : Wrote profile input members manifest)
    (parses : ArchiveHost.parseManifest (ArchiveHost.manifestJson manifest) = some manifest)
    (directory : Option Directory) :
    ∃ declaredTotal, readEntry ⟨sizes members, members.map listed, none, directory⟩
      (TarFile.entry ⟨manifestName, ArchiveHost.manifestJson manifest⟩) =
        .ok ⟨declaredTotal, members.map listed, some manifest, directory⟩ := by
  have regular : (TarFile.entry ⟨manifestName, ArchiveHost.manifestJson manifest⟩).entryType = .regular := rfl
  have named : fromUtf8 (TarFile.entry ⟨manifestName, ArchiveHost.manifestJson manifest⟩).pathBytes = some manifestName :=
    fromUtf8_asBytes manifestName
  have fresh : manifestName ∉ (members.map listed).map ManifestMember.name := by
    intro held
    obtain ⟨member, there, same⟩ := List.mem_map.mp (List.map_map ▸ held)
    exact (wrote.plain member there).2 same
  have copied : copyMember (TarFile.entry ⟨manifestName, ArchiveHost.manifestJson manifest⟩).contents =
      .ok (ArchiveHost.manifestJson manifest) := rfl
  have fits : (TarFile.entry ⟨manifestName, ArchiveHost.manifestJson manifest⟩).size ≤ maxManifestBytes := wrote.small
  have total := wrote.total
  have small := wrote.small
  have declared : saturatingAdd (sizes members) (ArchiveHost.manifestJson manifest).length ≤
      maxArchivePlaintextBytes + maxManifestBytes := by
    unfold saturatingAdd
    omega
  refine ⟨saturatingAdd (sizes members) (ArchiveHost.manifestJson manifest).length, ?_⟩
  unfold readEntry
  rw [passes rfl, passes regular, yields named, passes ⟨by decide, fresh⟩, passes ⟨declared, .inl rfl⟩, if_pos rfl,
    passes fits, reads copied, yields parses]
  rfl

omit [Sha256] in
theorem Inverse.opens {files : List TarFile} {accepted : Nat} (plain : Bytes)
    (inverse : Inverse passphrase workFactor files manifest) (accepts : workFactor ≤ accepted) :
    openDecryptor (ArchiveHost.encrypt passphrase workFactor plain) passphrase accepted = .ok ⟨plain, none⟩ := by
  unfold openDecryptor
  rw [inverse.scrypt, inverse.decrypts _ _ accepts]
  rfl

variable {maxWorkFactor ceiling : Nat}

theorem read_written
    (wrote : writeProfiled writes passphrase workFactor profile input members = .ok (written, container))
    (inverse : Inverse passphrase workFactor (archived members written.manifest) written.manifest)
    (accepted : workFactor ≤ min maxWorkFactor maxAcceptedWorkFactor) (room : streamCeiling ≤ ceiling)
    (free : ∀ directory ∈ extractTo, ∀ member ∈ members,
      directory.held member.name = none ∧ directory.takes member.name = true) (other : String) :
    readProfiled container passphrase maxWorkFactor extractTo ceiling other =
      if other = profile then .ok (⟨written.manifest⟩, members.foldl place extractTo) else .error .manifestMismatch := by
  obtain ⟨facts, rfl⟩ := writeProfiled_ok wrote
  have decoded : relabel streamError (ArchiveHost.decompress
      ⟨ArchiveHost.compress (ArchiveHost.tar (archived members written.manifest)), none⟩) =
      .ok ⟨ArchiveHost.tar (archived members written.manifest), none⟩ := by
    rw [inverse.decompresses]
    rfl
  have whole : (Contents.mk (ArchiveHost.tar (archived members written.manifest)) none).capped StreamFailure.capExceeded
      ceiling = ⟨ArchiveHost.tar (archived members written.manifest), none⟩ :=
    capped_of_le (by rw [inverse.framed]; exact facts.framed_le.trans room)
  obtain ⟨declaredTotal, last⟩ := facts.readEntry_manifest inverse.parses (members.foldl place extractTo)
  have read : readEntries (ArchiveHost.entries ⟨ArchiveHost.tar (archived members written.manifest), none⟩)
      ⟨0, [], none, extractTo⟩ =
      .ok ⟨declaredTotal, members.map listed, some written.manifest, members.foldl place extractTo⟩ := by
    rw [inverse.entries, archived, List.map_append, readEntries_members (facts.admits free), foldl_taking]
    simp only [Nat.zero_add, List.nil_append]
    change (readEntry _ _ >>= _) = _
    rw [reads last]
    rfl
  unfold readProfiled
  rw [reads (inverse.opens _ accepted), reads decoded, whole, reads read]
  change (ensure _ _ >>= _) = _
  rw [facts.manifest]
  by_cases same : other = profile
  · rw [if_pos same, passes ⟨rfl, rfl, same.symm, rfl⟩]
    rfl
  · rw [if_neg same, ensure, if_neg (fun matched => same matched.2.2.1.symm)]
    rfl

structure Verified (input : Bytes) (passphrase : String) (maxWorkFactor ceiling : Nat) (profile : String)
    (manifest : ArchiveManifest) (stream : Contents UInt8 StreamFailure) (members : List RawEntry) (last : RawEntry) :
    Prop where
  decoded : ∃ decrypted, openDecryptor input passphrase (min maxWorkFactor maxAcceptedWorkFactor) = .ok decrypted ∧
    ArchiveHost.decompress decrypted = .ok stream
  whole : stream.failure = none
  within : stream.symbols.length ≤ ceiling
  entries : ArchiveHost.entries stream = (members ++ [last]).map .ok
  listed : List.Forall₂ Describes members manifest.members
  last : Holds last manifest
  distinct : (manifest.members.map ManifestMember.name).Nodup
  format : manifest.format = archiveFormat ∧ manifest.manifestFormat = manifestFormat
  profile : manifest.profile = profile

omit [Sha256] [ArchiveHost] in
theorem capped_whole {contents : Contents UInt8 StreamFailure} {overflow : StreamFailure} {ceiling : Nat}
    (whole : (contents.capped overflow ceiling).failure = none) :
    contents.capped overflow ceiling = contents ∧ contents.failure = none ∧ contents.symbols.length ≤ ceiling := by
  unfold Contents.capped at whole ⊢
  split at whole
  next fits => exact ⟨if_pos fits, whole, fits⟩
  next => cases whole

theorem readProfiled_ok {extractTo later : Option Directory} {verified : VerifiedArchive}
    (read : readProfiled container passphrase maxWorkFactor extractTo ceiling profile = .ok (verified, later)) :
    ∃ stream entries last,
      Verified container passphrase maxWorkFactor ceiling profile verified.manifest stream entries last := by
  obtain ⟨decrypted, opened, read⟩ := bind_ok.mp read
  obtain ⟨stream, decoded, read⟩ := bind_ok.mp read
  obtain ⟨reading, entries, read⟩ := bind_ok.mp read
  obtain ⟨rest, drained, read⟩ := bind_ok.mp read
  obtain ⟨manifest, found, read⟩ := bind_ok.mp read
  obtain ⟨_, matched, done⟩ := bind_ok.mp read
  cases pure_ok.mp done
  obtain ⟨same, whole, within⟩ := capped_whole (copyMember_ok drained).1
  rw [same] at entries
  obtain ⟨members, last, listed, there, describes, holds, computed, distinct⟩ :=
    readEntries_lists entries rfl (require_ok.mp found) List.nodup_nil
  obtain ⟨format, manifestFormat, profiled, agrees⟩ := ensure_ok.mp matched
  rw [List.nil_append] at computed
  exact ⟨stream, members, last, {
    decoded := ⟨decrypted, opened, relabel_ok.mp decoded⟩
    whole
    within
    entries := there
    listed := by rw [agrees, computed]; exact describes
    last := holds
    distinct := by rw [agrees]; exact distinct
    format := ⟨format, manifestFormat⟩
    profile := profiled }⟩

def WrittenReadBack : Prop :=
  ∀ writes passphrase workFactor profile input members written container,
    writeProfiled writes passphrase workFactor profile input members = .ok (written, container) →
    Inverse passphrase workFactor (archived members written.manifest) written.manifest →
    ∀ maxWorkFactor ceiling, workFactor ≤ min maxWorkFactor maxAcceptedWorkFactor → streamCeiling ≤ ceiling →
      readProfiled container passphrase maxWorkFactor none ceiling profile = .ok (⟨written.manifest⟩, none) ∧
      (∀ directory : Directory,
        (∀ member ∈ members, directory.held member.name = none ∧ directory.takes member.name = true) →
        ∃ later, readProfiled container passphrase maxWorkFactor (some directory) ceiling profile =
            .ok (⟨written.manifest⟩, some later) ∧
          ∀ member ∈ members, member.content.isSome ∧ later.held member.name = member.content) ∧
      ∀ other extractTo outcome, other ≠ profile →
        readProfiled container passphrase maxWorkFactor extractTo ceiling other ≠ .ok outcome

def ReadVerified : Prop :=
  ∀ container passphrase maxWorkFactor extractTo ceiling profile verified later,
    readProfiled container passphrase maxWorkFactor extractTo ceiling profile = .ok (verified, later) →
    ∃ stream entries last,
      Verified container passphrase maxWorkFactor ceiling profile verified.manifest stream entries last

theorem Inverse.refuses {other : String} {outcome : VerifiedArchive × Option Directory}
    (wrote : Wrote profile input members manifest)
    (inverse : Inverse passphrase workFactor (archived members manifest) manifest)
    (accepted : workFactor ≤ min maxWorkFactor maxAcceptedWorkFactor) (differs : other ≠ profile) :
    readProfiled (ArchiveHost.encrypt passphrase workFactor
      (ArchiveHost.compress (ArchiveHost.tar (archived members manifest)))) passphrase maxWorkFactor extractTo
        ceiling other ≠ .ok outcome := by
  intro read
  obtain ⟨stream, entries, last, verified⟩ := readProfiled_ok read
  obtain ⟨decrypted, opened, decoded⟩ := verified.decoded
  rw [inverse.opens _ accepted] at opened
  obtain rfl := Except.ok.inj opened
  rw [inverse.decompresses] at decoded
  obtain rfl := Except.ok.inj decoded
  -- the last entry is the manifest that was written
  have same : (archived members manifest).map TarFile.entry = entries ++ [last] := by
    have listed := verified.entries
    rw [inverse.entries] at listed
    exact List.map_injective_iff.mpr (fun _ _ => Except.ok.inj) (by rw [List.map_map]; exact listed)
  rw [archived, List.map_append] at same
  obtain ⟨_, lastly⟩ := List.append_inj' same rfl
  obtain rfl := (List.cons.inj lastly).1
  have found : ArchiveHost.parseManifest (ArchiveHost.manifestJson manifest) = some outcome.1.manifest :=
    verified.last.parsed
  rw [inverse.parses] at found
  have profiled := verified.profile
  rw [← Option.some.inj found, wrote.manifest] at profiled
  exact differs profiled.symm

theorem archives_read_back : WrittenReadBack ∧ ReadVerified := by
  constructor
  · intro writes passphrase workFactor profile input members written container wrote inverse maxWorkFactor ceiling accepted
      room
    obtain ⟨facts, same⟩ := writeProfiled_ok wrote
    refine ⟨?_, ?_, ?_⟩
    · have none : members.foldl place none = none := by
        clear wrote inverse facts same
        induction members with
        | nil => rfl
        | cons _ _ ih => exact ih
      rw [read_written wrote inverse accepted room (fun there absent => by cases absent), if_pos rfl, none]
    · intro directory free
      have held : ∀ there ∈ some directory, ∀ member ∈ members,
          there.held member.name = none ∧ there.takes member.name = true := fun there same => Option.some.inj same ▸ free
      obtain ⟨later, done⟩ := foldl_place members directory
      refine ⟨later, ?_, fun member held => ⟨facts.there member held, ?_⟩⟩
      · rw [read_written wrote inverse accepted room held, if_pos rfl, done]
      · obtain ⟨other, again, stored⟩ := placed facts.distinct directory held
        cases done.symm.trans again
        obtain ⟨content, there⟩ := Option.isSome_iff_exists.mp (facts.there member held)
        rw [stored, there]
        rfl
    · intro other extractTo outcome differs
      rw [same]
      exact inverse.refuses facts accepted differs
  · intro container passphrase maxWorkFactor extractTo ceiling profile verified later read
    exact readProfiled_ok read

end

def source : ArchiveMemberSource := ⟨"ledger.sqlite3", some (asBytes "abc")⟩

def stated : ManifestInput := ⟨"backup-1", "2026-09-21T00:00:00Z", 1, 1, "0"⟩

scoped instance : Sha256 where
  finalize _ := ⟨"ba7816bf8f01cfea414140de5dae2223b00361a396177a9cb410ff61f20015ad", by decide⟩

def manifest : ArchiveManifest := manifestFor stated operationalProfile [listed source]

def memberJson (member : ManifestMember) : String :=
  "\x7b\"name\":\"" ++ member.name ++ "\",\"size\":" ++ toString member.size ++ ",\"sha256\":\"" ++ member.sha256 ++ "\"\x7d"

def manifestText (manifest : ArchiveManifest) : String :=
  "\x7b\"format\":\"" ++ manifest.format ++ "\",\"manifest_format\":\"" ++ manifest.manifestFormat ++
    "\",\"profile\":\"" ++ manifest.profile ++ "\",\"archive_id\":\"" ++ manifest.archiveId ++
    "\",\"created_at\":\"" ++ manifest.createdAt ++ "\",\"ledger_schema_version\":" ++
    toString manifest.ledgerSchemaVersion ++ ",\"ledger_revision\":" ++ toString manifest.ledgerRevision ++
    ",\"snapshot_checksum\":\"" ++ manifest.snapshotChecksum ++ "\",\"members\":[" ++
    ",".intercalate (manifest.members.map memberJson) ++ "]\x7d"

def zeros (count : Nat) : Bytes := List.replicate count 0

def octal (width value : Nat) : Bytes :=
  (List.range (width - 1)).reverse.map (fun place => 0x30 + UInt8.ofNat (value / 8 ^ place % 8)) ++ [0]

/-- The header block of a regular file. -/
def ustar (file : TarFile) : Bytes :=
  let start := asBytes file.name ++ zeros (100 - file.name.utf8ByteSize) ++ octal 8 384 ++ octal 8 0 ++ octal 8 0 ++
    octal 12 file.content.length ++ octal 12 0
  let ending := [0x30] ++ zeros 100 ++ asBytes "ustar" ++ [0, 0x30, 0x30] ++ zeros 247
  start ++ octal 8 (256 + (start ++ ending).foldl (fun sum byte => sum + byte.toNat) 0) ++ ending

def tarStream (files : List TarFile) : Bytes :=
  files.flatMap (fun file => ustar file ++ file.content ++ zeros (paddedLength file.content.length - file.content.length)) ++
    zeros 1024

def files : List TarFile := [⟨"ledger.sqlite3", asBytes "abc"⟩, ⟨manifestName, asBytes (manifestText manifest)⟩]

scoped instance : ArchiveHost where
  encrypt _ _ plain := plain
  isScrypt _ := .ok true
  decrypt _ _ container := .ok ⟨container, none⟩
  compress plain := plain
  decompress contents := .ok contents
  tar := tarStream
  entries contents := if contents.symbols = tarStream files then files.map fun file => .ok file.entry else []
  manifestJson manifest := asBytes (manifestText manifest)
  parseManifest bytes := if bytes = asBytes (manifestText manifest) then some manifest else none

def container : Bytes := tarStream files

theorem sample_wrote : writeProfiled true "passphrase" productionWorkFactor operationalProfile stated [source] =
    .ok (⟨manifest, hexDigest container, container.length⟩, container) := by
  unfold writeProfiled
  have names : checkNames [] [source] = .ok () := by
    unfold checkNames
    rw [passes (by decide +kernel)]
    rfl
  have counted : totalSize 0 [source] = .ok 3 := by decide +kernel
  have read : [source].mapM listMember = .ok [listed source] := rfl
  rw [reads names, passes (by decide +kernel), reads counted, passes (by decide +kernel), passes (by decide +kernel),
    reads read, passes (by decide +kernel), passes rfl]
  rfl

theorem sample_inverse : Inverse "passphrase" productionWorkFactor (archived [source] manifest) manifest where
  scrypt _ := rfl
  decrypts _ _ _ := rfl
  decompresses _ := rfl
  framed := by decide +kernel
  entries := if_pos rfl
  parses := if_pos rfl

theorem sample_read_back :
    readProfiled container "passphrase" maxAcceptedWorkFactor none streamCeiling operationalProfile =
        .ok (⟨manifest⟩, none) ∧
      ∀ outcome, readProfiled container "passphrase" maxAcceptedWorkFactor none streamCeiling preservationProfile ≠
        .ok outcome := by
  have back := archives_read_back.1 true "passphrase" productionWorkFactor operationalProfile stated [source]
    ⟨manifest, hexDigest container, container.length⟩ container sample_wrote sample_inverse maxAcceptedWorkFactor
    streamCeiling (by decide) le_rfl
  exact ⟨back.1, fun outcome => back.2.2 preservationProfile none outcome (by decide)⟩

end MissionControl.ArchiveRoundTrip
