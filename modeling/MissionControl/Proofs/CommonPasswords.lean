import MissionControl.Platform.RecoveryPassphrase
import MissionControl.Proofs.DigestCoverage

/-! Which candidates are refused for being made of common passwords: all that are, except that the
entry with a digit in it is never found. -/

namespace MissionControl.CommonPasswords
open RecoveryPassphrase WordBreak UnicodeCase
open scoped Computability

/-- The candidate is within the bounds, and long enough for its passwords to be looked for. -/
def Reaches (candidate : String) : Prop :=
  candidate.toList.length ≤ maxCharacters ∧ candidate.utf8ByteSize ≤ maxBytes ∧
    (minCharacters ≤ (trim candidate.toList).length ∨ minWords ≤ (wordsOf (trim candidate.toList)).length)

def commonWords : List (List Char) := common.map String.toList

section
variable [UnicodeCase]

def Spells (word : String) (piece : List Char) : Prop := piece.flatMap toLowercase = word.toList

instance (word : String) (piece : List Char) : Decidable (Spells word piece) := inferInstanceAs (Decidable (_ = _))

def IsPiece (piece : List Char) : Prop :=
  (∃ word ∈ common, Spells word piece) ∨ ∃ character, isRemoved character = true ∧ piece = [character]

def Arranges (row : List (List Char)) (candidate : String) : Prop :=
  row.flatten = candidate.toList ∧ ∀ piece ∈ row, IsPiece piece

structure RefusesCommon (candidate : String) : Prop where
  refused : Reaches candidate → (∃ row, Arranges row candidate) → ∃ problem, checkStrength candidate = .error problem
  only : checkStrength candidate = .error .tooCommon → lettersOf candidate.toList ∈ (language commonWords)∗

def UsesDigit (candidate : String) : Prop :=
  ∃ row, Arranges row candidate ∧ ∃ piece ∈ row, Spells "passw0rd" piece

/-- Six words or more, of which fewer than four differ. -/
def FewWords (candidate : String) : Prop :=
  let words := wordsOf (trim candidate.toList)
  minWords ≤ words.length ∧ (distinctWords words).length < minDistinctWords

instance (candidate : String) : Decidable (FewWords candidate) := inferInstanceAs (Decidable (_ ∧ _))

end

theorem lettered : ∀ word ∈ common, word ≠ "passw0rd" → (word.toList.all fun letter => !isRemoved letter) = true := by decide

theorem unseamed : ∀ word ∈ commonWords, 2 ≤ word.length ∧ ¬['s', 'w', 'r'] <:+: word ∧ ¬['s', 'w'] <:+ word ∧
    ¬['w', 'r'] <+: word := by decide

section
variable {candidate : List Char}

theorem whitespace_removed {character : Char} (white : isWhitespace character = true) : isRemoved character = true := by
  simp [isRemoved, white]

theorem trim_split (candidate : List Char) : ∃ before after, candidate = before ++ trim candidate ++ after ∧
    (∀ character ∈ before, isWhitespace character = true) ∧ ∀ character ∈ after, isWhitespace character = true := by
  refine ⟨candidate.takeWhile isWhitespace, (candidate.dropWhile isWhitespace).rtakeWhile isWhitespace, ?_, ?_, ?_⟩
  · rw [List.append_assoc, trim, List.rdropWhile_append_rtakeWhile, List.takeWhile_append_dropWhile]
  · exact fun character among => List.mem_takeWhile_imp among
  · exact fun character among => List.mem_rtakeWhile_imp among

theorem mem_trim {character : Char} (among : character ∈ candidate) (dark : isWhitespace character = false) :
    character ∈ trim candidate := by
  obtain ⟨before, after, split, opens, closes⟩ := trim_split candidate
  rw [split, List.mem_append, List.mem_append] at among
  rcases among with (opening | inner) | closing
  · rw [opens character opening] at dark
    cases dark
  · exact inner
  · rw [closes character closing] at dark
    cases dark

theorem asBytes_append (first second : String) : asBytes (first ++ second) = asBytes first ++ asBytes second := by
  simp [asBytes]

end

section
variable [UnicodeCase]

theorem lettersOf_append (first second : List Char) : lettersOf (first ++ second) = lettersOf first ++ lettersOf second := by
  simp [lettersOf]

theorem lettersOf_flatten (row : List (List Char)) : lettersOf row.flatten = (row.map lettersOf).flatten := by
  induction row with
  | nil => rfl
  | cons piece row rest => rw [List.flatten_cons, lettersOf_append, rest, List.map_cons, List.flatten_cons]

theorem lettersOf_eq (candidate : List Char) :
    lettersOf candidate = (candidate.flatMap toLowercase).filter fun character => !isRemoved character := by
  induction candidate with
  | nil => rfl
  | cons character rest same =>
    rw [List.flatMap_cons, List.filter_append, ← same, lettersOf, List.filter_cons]
    cases removed : isRemoved character with
    | true => simp [uncased character removed, removed, lettersOf]
    | false =>
      have kept : (toLowercase character).filter (fun lower => !isRemoved lower) = toLowercase character :=
        List.filter_eq_self.mpr fun lower among => by simp [cased character removed lower among]
      simp [kept, lettersOf]

theorem lettersOf_removed {character : Char} (removed : isRemoved character = true) : lettersOf [character] = [] := by
  simp [lettersOf, removed]

variable {piece : List Char}

theorem lettersOf_spelled {word : String} (spelled : Spells word piece) :
    lettersOf piece = word.toList.filter fun character => !isRemoved character := by
  rw [lettersOf_eq, spelled]

theorem lettersOf_word {word : String} (among : word ∈ common) (plain : word ≠ "passw0rd") (spelled : Spells word piece) :
    lettersOf piece = word.toList := by
  rw [lettersOf_spelled spelled, List.filter_eq_self]
  intro letter within
  simpa using List.all_eq_true.mp (lettered word among plain) letter within

theorem lettersOf_digit (spelled : Spells "passw0rd" piece) : lettersOf piece = "passwrd".toList := by
  rw [lettersOf_spelled spelled]
  decide

theorem lettersOf_white {run : List Char} (white : ∀ character ∈ run, isWhitespace character = true) : lettersOf run = [] := by
  have none : run.filter (fun character => !isRemoved character) = [] := by
    rw [List.filter_eq_nil_iff]
    intro character among
    simp [whitespace_removed (white character among)]
  rw [lettersOf, none]
  rfl

theorem lettersOf_trim (candidate : List Char) : lettersOf (trim candidate) = lettersOf candidate := by
  obtain ⟨before, after, split, opens, closes⟩ := trim_split candidate
  calc lettersOf (trim candidate)
      = lettersOf before ++ lettersOf (trim candidate) ++ lettersOf after := by
        rw [lettersOf_white opens, lettersOf_white closes, List.nil_append, List.append_nil]
    _ = lettersOf (before ++ trim candidate ++ after) := by rw [lettersOf_append, lettersOf_append]
    _ = lettersOf candidate := by rw [← split]

end

section
variable [UnicodeCase] {candidate : String}

theorem onlyCommon_iff (candidate : List Char) :
    onlyCommon candidate = true ↔ lettersOf candidate ∈ (language commonWords)∗ := by
  have encoded : splits (common.map asBytes) (asBytes (String.ofList (lettersOf candidate))) = true ↔
      lettersOf candidate ∈ (language commonWords)∗ := by
    have bytes : common.map asBytes = commonWords.map fun letters => asBytes (String.ofList letters) := by
      simp [commonWords, Function.comp_def]
    rw [splits_iff, bytes]
    apply encoded_iff fun letters => asBytes (String.ofList letters)
    · rfl
    · intro first second
      rw [String.ofList_append, asBytes_append]
    · intro first second same
      exact String.ofList_injective (DigestCoverage.asBytes_injective same)
  unfold onlyCommon
  by_cases empty : (lettersOf candidate).isEmpty = true
  · rw [if_pos empty, List.isEmpty_iff.mp empty]
    simp [Language.nil_mem_kstar]
  · rw [if_neg empty]
    exact encoded

theorem piece_letters {piece : List Char} (admitted : IsPiece piece) (plain : ¬Spells "passw0rd" piece) :
    lettersOf piece ∈ (language commonWords)∗ := by
  rcases admitted with ⟨word, among, spelled⟩ | ⟨character, removed, rfl⟩
  · have other : word ≠ "passw0rd" := fun same => plain (same ▸ spelled)
    rw [lettersOf_word among other spelled]
    exact piece_mem (List.mem_map_of_mem among)
  · rw [lettersOf_removed removed]
    exact Language.nil_mem_kstar _

theorem arranged_common {row : List (List Char)} (arranged : Arranges row candidate)
    (plain : ∀ piece ∈ row, ¬Spells "passw0rd" piece) : lettersOf candidate.toList ∈ (language commonWords)∗ := by
  rw [← arranged.1, lettersOf_flatten]
  apply flatten_mem
  intro text among
  obtain ⟨piece, member, rfl⟩ := List.mem_map.mp among
  exact piece_letters (arranged.2 piece member) (plain piece member)

theorem digit_unfound (digit : UsesDigit candidate) : lettersOf candidate.toList ∉ (language commonWords)∗ := by
  obtain ⟨row, ⟨flat, _⟩, piece, among, spelled⟩ := digit
  intro found
  obtain ⟨words, same, each⟩ := Language.mem_kstar.mp found
  apply no_triple (fun word among => (unseamed word among).1) (fun word among => (unseamed word among).2.1)
    (fun word among => (unseamed word among).2.2.1) (fun word among => (unseamed word among).2.2.2) each
  rw [← same, ← flat, lettersOf_flatten]
  have within : lettersOf piece <:+: (row.map lettersOf).flatten := List.infix_of_mem_flatten (List.mem_map_of_mem among)
  rw [lettersOf_digit spelled] at within
  exact List.IsInfix.trans (by decide) within

theorem digit_distinct (digit : UsesDigit candidate) :
    minDistinctCharacters ≤ (distinctCharacters (trim candidate.toList)).length := by
  obtain ⟨row, ⟨flat, _⟩, piece, among, spelled⟩ := digit
  have held : ['p', 'a', 's', 'w', '0', 'r', 'd'] ⊆ distinctCharacters (trim candidate.toList) := by
    intro lower listed
    have within : lower ∈ piece.flatMap toLowercase := by
      rw [spelled]
      exact (show ['p', 'a', 's', 'w', '0', 'r', 'd'] ⊆ "passw0rd".toList by decide) listed
    have none : (['p', 'a', 's', 'w', '0', 'r', 'd'].all fun lower => !isWhitespace lower) = true := by decide
    have dark : isWhitespace lower = false := by simpa using List.all_eq_true.mp none lower listed
    obtain ⟨character, member, lowered⟩ := List.mem_flatMap.mp within
    have shown : isWhitespace character = false := by
      by_contra white
      rw [Bool.not_eq_false] at white
      rw [uncased character (whitespace_removed white), List.mem_singleton] at lowered
      rw [lowered, white] at dark
      cases dark
    have inner : character ∈ candidate.toList := flat ▸ List.mem_flatten.mpr ⟨piece, among, member⟩
    rw [distinctCharacters, List.mem_dedup, List.mem_flatMap]
    exact ⟨character, List.mem_filter.mpr ⟨mem_trim inner shown, by simp [shown]⟩, lowered⟩
  have many := (List.subperm_of_subset (by decide) held).length_le
  exact le_trans (by decide) many

theorem checkStrength_reached (reaches : Reaches candidate) : checkStrength candidate =
    if onlyCommon (trim candidate.toList) then .error .tooCommon
    else if (distinctCharacters (trim candidate.toList)).length < minDistinctCharacters ∨ FewWords candidate then
      .error .tooRepetitive
    else .ok () := by
  obtain ⟨characters, bytes, long⟩ := reaches
  have bounded : ¬(candidate.toList.length > maxCharacters || candidate.utf8ByteSize > maxBytes) = true := by
    simp only [Bool.or_eq_true, decide_eq_true_eq]
    omega
  have enough : ¬((trim candidate.toList).length < minCharacters &&
      (wordsOf (trim candidate.toList)).length < minWords) = true := by
    simp only [Bool.and_eq_true, decide_eq_true_eq]
    omega
  unfold checkStrength
  rw [if_neg bounded]
  simp only
  rw [if_neg enough]
  simp only [Bool.or_eq_true, Bool.and_eq_true, decide_eq_true_eq, FewWords, ge_iff_le]
  rfl

theorem tooCommon_found (refused : checkStrength candidate = .error .tooCommon) :
    onlyCommon (trim candidate.toList) = true := by
  unfold checkStrength at refused
  split at refused
  · cases refused
  simp only at refused
  split at refused
  · cases refused
  split at refused
  next found => exact found
  split at refused
  · cases refused
  · cases refused

theorem searched_iff : onlyCommon (trim candidate.toList) = true ↔ lettersOf candidate.toList ∈ (language commonWords)∗ := by
  rw [onlyCommon_iff, lettersOf_trim]

theorem few_of_refused (reaches : Reaches candidate) (digit : UsesDigit candidate)
    (refused : ∃ problem, checkStrength candidate = .error problem) : FewWords candidate := by
  obtain ⟨problem, refused⟩ := refused
  rw [checkStrength_reached reaches, if_neg fun found => digit_unfound digit (searched_iff.mp found)] at refused
  split at refused
  next repetitive => exact repetitive.resolve_left (Nat.not_lt.mpr (digit_distinct digit))
  next => cases refused

end

/-- The refusal of common passwords is exact, except for the entry with a digit in it: what uses
that is accepted unless it has six words or more, of which fewer than four differ. -/
theorem refusesCommon_iff [UnicodeCase] (candidate : String) :
    RefusesCommon candidate ↔ (Reaches candidate → UsesDigit candidate → FewWords candidate) := by
  constructor
  · intro refuses reaches digit
    exact few_of_refused reaches digit (refuses.refused reaches (digit.imp fun row uses => uses.1))
  · intro few
    constructor
    · rintro reaches ⟨row, arranged⟩
      rw [checkStrength_reached reaches]
      by_cases digit : UsesDigit candidate
      · split
        · exact ⟨_, rfl⟩
        · rw [if_pos (.inr (few reaches digit))]
          exact ⟨_, rfl⟩
      · have plain : ∀ piece ∈ row, ¬Spells "passw0rd" piece :=
          fun piece among spelled => digit ⟨row, arranged, piece, among, spelled⟩
        rw [if_pos (searched_iff.mpr (arranged_common arranged plain))]
        exact ⟨_, rfl⟩
    · intro refused
      exact searched_iff.mp (tooCommon_found refused)

theorem letter_kept {character : Char} (lower : 65 ≤ character.toNat)
    (upper : character.toNat ≤ 90 ∨ 97 ≤ character.toNat ∧ character.toNat ≤ 122) : isRemoved character = false := by
  simp only [isRemoved, isAsciiDigit, isWhitespace, isAsciiPunctuation, Bool.or_eq_false_iff, Bool.and_eq_false_iff,
    decide_eq_false_iff_not, beq_eq_false_iff_ne]
  omega

theorem toLower_cases (character : Char) : character.toLower = character ∨
    (65 ≤ character.toNat ∧ character.toNat ≤ 90) ∧ 97 ≤ character.toLower.toNat ∧ character.toLower.toNat ≤ 122 := by
  unfold Char.toLower
  split
  next upper =>
    have bounds : 65 ≤ character.toNat ∧ character.toNat ≤ 90 := upper
    refine .inr ⟨bounds, ?_⟩
    have shifted : (character.val + ('a'.val - 'A'.val)).toNat = character.toNat + 32 := by
      rw [UInt32.toNat_add]
      have small : character.val.toNat ≤ 90 := bounds.2
      show (character.val.toNat + 32) % 2 ^ 32 = character.val.toNat + 32
      omega
    show 97 ≤ (character.val + ('a'.val - 'A'.val)).toNat ∧ (character.val + ('a'.val - 'A'.val)).toNat ≤ 122
    omega
  next => exact .inl rfl

abbrev asciiCase : UnicodeCase where
  toLowercase character := [character.toLower]
  strToLowercase text := String.ofList (text.toList.map Char.toLower)
  uncased character removed := by
    rcases toLower_cases character with same | ⟨⟨lower, upper⟩, _⟩
    · rw [same]
    · rw [letter_kept lower (.inl upper)] at removed
      cases removed
  cased character kept letter among := by
    rw [List.mem_singleton.mp among]
    rcases toLower_cases character with same | ⟨_, lower, upper⟩
    · rw [same, kept]
    · exact letter_kept (by omega) (.inr ⟨lower, upper⟩)

/-- The entry three times over. -/
def thrice : String := "passw0rdPASSW0RDpassw0rd"

theorem plain_refused : @RefusesCommon asciiCase "password-PASSWORD-1999" := by
  apply (@refusesCommon_iff asciiCase "password-PASSWORD-1999").mpr
  rintro - ⟨row, ⟨flat, _⟩, piece, among, spelled⟩
  have digit : '0' ∈ piece.flatMap asciiCase.toLowercase := by
    rw [spelled]
    decide
  obtain ⟨character, member, lowered⟩ := List.mem_flatMap.mp digit
  have listed : character ∈ "password-PASSWORD-1999".toList := flat ▸ List.mem_flatten.mpr ⟨piece, among, member⟩
  have none : ("password-PASSWORD-1999".toList.all fun character => !(asciiCase.toLowercase character).contains '0') = true := by
    decide
  simpa [lowered] using List.all_eq_true.mp none character listed

theorem thrice_accepted : ¬@RefusesCommon asciiCase thrice := by
  intro refuses
  have reaches : Reaches thrice := ⟨by decide, by decide, .inl (by decide)⟩
  have entry : "passw0rd" ∈ common := by decide
  have arranged : @Arranges asciiCase ["passw0rd".toList, "PASSW0RD".toList, "passw0rd".toList] thrice := by
    have each : ∀ piece ∈ ["passw0rd".toList, "PASSW0RD".toList, "passw0rd".toList],
        @Spells asciiCase "passw0rd" piece := by decide
    exact ⟨by decide, fun piece among => .inl ⟨"passw0rd", entry, each piece among⟩⟩
  have digit : @UsesDigit asciiCase thrice := ⟨_, arranged, "passw0rd".toList, by simp, by decide⟩
  have few := @few_of_refused asciiCase thrice reaches digit
    (@RefusesCommon.refused asciiCase thrice refuses reaches ⟨_, arranged⟩)
  exact absurd few.1 (by decide)

end MissionControl.CommonPasswords
