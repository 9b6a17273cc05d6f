import MissionControl.Platform.UriLauncher
import MissionControl.Proofs.DigestCoverage

/-! An Obsidian link names one file of one vault, but is never launched as one command: the command
interpreter takes its ampersand for a separator. -/

namespace MissionControl.ObsidianLaunch
open UriLauncher PercentEncoding CommandLine

/-- What stands behind the first question mark. -/
def query (uri : List Char) : List Char := (uri.dropWhile (· != '?')).drop 1

def valueOf (name : String) (parameter : List Char) : Option String :=
  match parameter.splitOn '=' with
  | [named, value] =>
    if named = name.toList then (decode value).bind fun bytes => String.fromUTF8? ⟨bytes.toArray⟩ else none
  | _ => none

/-- The vault and the path that a link names. -/
def readBack (uri : ObsidianUri) : Option (String × String) :=
  match (query uri.asStr.toList).splitOn '&' with
  | [vault, file] => (valueOf "vault" vault).bind fun vault => (valueOf "file" file).map fun file => (vault, file)
  | _ => none

/-- A link opens the file it was made for and nothing else is run. -/
structure OpensExactly (defined : List Char → Option (List Char)) (vaultName vaultRelativePath : String)
    (uri : ObsidianUri) : Prop where
  named : readBack uri = some (vaultName, vaultRelativePath)
  only : ∀ vault path, openUri vault path = .ok uri → vault = vaultName ∧ path = vaultRelativePath
  single : CommandLine.read defined (launchLine uri) = [["start".toList, "\x22\x22".toList, uri.asStr.toList]]

/-- What may stand in an encoded value. -/
def InValue (character : Char) : Prop :=
  character ≠ '?' ∧ character ≠ '&' ∧ character ≠ '=' ∧ character ≠ '"' ∧ character ≠ ' ' ∧ character ≠ '\t' ∧
    character ≠ '\\'

instance (character : Char) : Decidable (InValue character) := inferInstanceAs (Decidable (_ ∧ _))

theorem plain_ascii (byte : UInt8) (plain : isPlain byte = true) : byte.toNat < 128 ∧ byte.toNat ≠ 37 := by
  simp only [isPlain, Bool.or_eq_true, Bool.and_eq_true, decide_eq_true_eq, beq_iff_eq] at plain
  omega

theorem inValue (value : String) : ∀ character ∈ (percentEncodeQueryValue value).toList, InValue character := by
  rw [percentEncodeQueryValue, String.toList_ofList]
  apply encode_all
  · decide
  · intro digit small
    interval_cases digit <;> decide
  · intro byte plain
    have same := toNat_ofNat (plain_ascii byte plain).1
    have other : ∀ character : Char, ¬isPlain (UInt8.ofNat character.toNat) = true → Char.ofNat byte.toNat ≠ character := by
      rintro character special rfl
      rw [same, UInt8.ofNat_toNat] at special
      exact special plain
    exact ⟨other '?' (by decide), other '&' (by decide), other '=' (by decide), other '"' (by decide),
      other ' ' (by decide), other '\t' (by decide), other '\\' (by decide)⟩

theorem decode_value (value : String) : ((decode (percentEncodeQueryValue value).toList).bind fun bytes =>
    String.fromUTF8? ⟨bytes.toArray⟩) = some value := by
  rw [percentEncodeQueryValue, String.toList_ofList, decode_encode plain_ascii, Option.bind_some]
  have same : (⟨(asBytes value).toArray⟩ : ByteArray) = value.toByteArray := by simp [asBytes]
  rw [same, String.fromUTF8?, dif_pos value.isValidUTF8]
  rfl

section
variable {vaultName vaultRelativePath : String} {uri : ObsidianUri}

theorem openUri_ok (opened : openUri vaultName vaultRelativePath = .ok uri) :
    uri.asStr = openText vaultName vaultRelativePath := by
  unfold openUri at opened
  split at opened
  · cases opened
  split at opened
  · cases opened
  · cases opened
    rfl

theorem openText_toList (vaultName vaultRelativePath : String) : (openText vaultName vaultRelativePath).toList =
    "obsidian://open".toList ++ '?' :: (("vault".toList ++ '=' :: (percentEncodeQueryValue vaultName).toList) ++
      '&' :: ("file".toList ++ '=' :: (percentEncodeQueryValue vaultRelativePath).toList)) := by
  simp [openText, obsidianScheme, obsidianOpenOperation]

theorem splitOn_pair {separator : Char} {first second : List Char} (left : separator ∉ first) (right : separator ∉ second) :
    (first ++ separator :: second).splitOn separator = [first, second] := by
  have apart {text : List Char} (absent : separator ∉ text) : ∀ character ∈ text, (character == separator) = false := by
    intro character among
    rw [beq_eq_false_iff_ne]
    rintro rfl
    exact absent among
  rw [List.splitOn_eq_splitOnP, List.splitOnP_append_cons_of_forall_mem (apart left) separator (by simp) second,
    List.splitOnP_eq_singleton (apart right)]

theorem valueOf_encoded (name value : String) (plain : '=' ∉ name.toList) :
    valueOf name (name.toList ++ '=' :: (percentEncodeQueryValue value).toList) = some value := by
  have absent : '=' ∉ (percentEncodeQueryValue value).toList := fun among => (inValue value '=' among).2.2.1 rfl
  rw [valueOf, splitOn_pair plain absent]
  simp only [if_true]
  exact decode_value value

theorem readBack_open (opened : openUri vaultName vaultRelativePath = .ok uri) :
    readBack uri = some (vaultName, vaultRelativePath) := by
  have vaulted : '&' ∉ "vault".toList ++ '=' :: (percentEncodeQueryValue vaultName).toList := by
    simp only [List.mem_append, List.mem_cons, not_or]
    exact ⟨by decide, by decide, fun among => (inValue vaultName '&' among).2.1 rfl⟩
  have filed : '&' ∉ "file".toList ++ '=' :: (percentEncodeQueryValue vaultRelativePath).toList := by
    simp only [List.mem_append, List.mem_cons, not_or]
    exact ⟨by decide, by decide, fun among => (inValue vaultRelativePath '&' among).2.1 rfl⟩
  have behind : query uri.asStr.toList = ("vault".toList ++ '=' :: (percentEncodeQueryValue vaultName).toList) ++
      '&' :: ("file".toList ++ '=' :: (percentEncodeQueryValue vaultRelativePath).toList) := by
    rw [openUri_ok opened, openText_toList]
    rfl
  rw [readBack, behind, splitOn_pair vaulted filed]
  simp only
  rw [valueOf_encoded "vault" vaultName (by decide), valueOf_encoded "file" vaultRelativePath (by decide)]
  rfl

theorem open_injective {vault path : String} (opened : openUri vaultName vaultRelativePath = .ok uri)
    (again : openUri vault path = .ok uri) : vault = vaultName ∧ path = vaultRelativePath := by
  have same := (readBack_open again).symm.trans (readBack_open opened)
  exact Prod.mk.inj (Option.some.inj same)

theorem link_separates (opened : openUri vaultName vaultRelativePath = .ok uri) :
    separates false uri.asStr.toList = true := by
  have unquoted : '"' ∉ "obsidian://open".toList ++ '?' :: ("vault".toList ++
      '=' :: (percentEncodeQueryValue vaultName).toList) := by
    simp only [List.mem_append, List.mem_cons, not_or]
    exact ⟨by decide, by decide, by decide, by decide, fun among => (inValue vaultName '"' among).2.2.2.1 rfl⟩
  rw [openUri_ok opened, openText_toList, ← List.cons_append, ← List.append_assoc, separates_append,
    foldl_quotes unquoted, separates]
  simp

theorem not_single (opened : openUri vaultName vaultRelativePath = .ok uri) (defined : List Char → Option (List Char)) :
    CommandLine.read defined (launchLine uri) ≠ [["start".toList, "\x22\x22".toList, uri.asStr.toList]] := by
  intro single
  have unseparated : separates false uri.asStr.toList = false := by
    apply @read_unseparated defined (launchLine uri)
    · rw [single]
      exact List.mem_singleton_self _
    · simp
  rw [link_separates opened] at unseparated
  cases unseparated

end

/-- A link names exactly the file it was made for, and is launched as one command in no environment. -/
theorem never_opens_exactly (defined : List Char → Option (List Char)) {vaultName vaultRelativePath : String}
    {uri : ObsidianUri} (opened : openUri vaultName vaultRelativePath = .ok uri) :
    readBack uri = some (vaultName, vaultRelativePath) ∧
      (∀ vault path, openUri vault path = .ok uri → vault = vaultName ∧ path = vaultRelativePath) ∧
      ¬OpensExactly defined vaultName vaultRelativePath uri :=
  ⟨readBack_open opened, fun _ _ again => open_injective opened again,
    fun exactly => not_single opened defined exactly.single⟩

def note : ObsidianUri where
  asStr := openText "Notes" "a.md"
  constructed := ⟨"Notes", "a.md", by decide, by decide, rfl⟩

def undefined (_ : List Char) : Option (List Char) := none

theorem note_opened : openUri "Notes" "a.md" = .ok note := by
  rw [openUri, dif_neg (by decide), dif_neg (by decide)]
  rfl

theorem note_never : readBack note = some ("Notes", "a.md") ∧
    (∀ vault path, openUri vault path = .ok note → vault = "Notes" ∧ path = "a.md") ∧
    ¬OpensExactly undefined "Notes" "a.md" note :=
  never_opens_exactly undefined note_opened

/-- What stands behind the ampersand is run as a command of its own. -/
theorem note_split : CommandLine.read undefined (launchLine note) =
    [["start".toList, "\x22\x22".toList, "obsidian://open?vault=Notes".toList], ["file=a.md".toList]] ∧
      ¬OpensExactly undefined "Notes" "a.md" note := by
  have run : CommandLine.read undefined (launchLine note) =
      [["start".toList, "\x22\x22".toList, "obsidian://open?vault=Notes".toList], ["file=a.md".toList]] := by decide
  refine ⟨run, fun exactly => ?_⟩
  have single := exactly.single
  rw [run] at single
  cases (List.cons.inj single).2

end MissionControl.ObsidianLaunch
