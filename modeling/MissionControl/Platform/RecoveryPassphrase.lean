import MissionControl.Domain.PreviewDigest
import MissionControl.Lib.WordBreak
import Mathlib.Data.List.DropRight

/-! The strength a recovery passphrase must have that a person chose. -/

namespace MissionControl.RecoveryPassphrase
open WordBreak

inductive PassphraseProblem where
  | tooShort | tooRepetitive | tooLong | tooCommon

def minCharacters : Nat := 20
def maxBytes : Nat := 2048
def minWords : Nat := 6
def maxCharacters : Nat := 1024
def minDistinctCharacters : Nat := 6
def minDistinctWords : Nat := 4

def common : List String :=
  ["password", "passw0rd", "qwerty", "qwertyuiop", "asdfgh", "asdfghjkl", "zxcvbn", "zxcvbnm", "azerty",
    "abc", "abcdef", "iloveyou", "letmein", "admin", "administrator", "welcome", "monkey", "dragon",
    "master", "login", "princess", "sunshine", "football", "baseball", "shadow", "superman", "batman",
    "trustno", "hello", "freedom", "whatever", "qazwsx", "michael", "jennifer", "charlie", "daniel",
    "jordan", "hunter", "ranger", "buster", "soccer", "hockey", "killer", "george", "computer", "starwars",
    "secret", "pokemon", "mustang", "access", "flower", "cheese", "summer", "winter", "spring", "autumn",
    "love", "lovely", "angel", "babygirl", "tigger", "cookie", "chocolate", "matrix", "internet", "google",
    "facebook", "samsung", "apple", "orange", "banana", "pepper", "ginger", "maggie", "ashley", "nicole",
    "jessica", "thomas", "robert", "andrew", "joshua", "taylor", "michelle", "passpass", "pass", "test",
    "guest", "user", "root", "default", "changeme", "backup", "mypassword", "mysecret", "secure",
    "security", "private", "temp", "qwe", "asd", "zxc", "one", "two", "three"]

def isAsciiDigit (character : Char) : Bool := 48 ≤ character.toNat && character.toNat ≤ 57

def isAsciiPunctuation (character : Char) : Bool :=
  let point := character.toNat
  (33 ≤ point && point ≤ 47) || (58 ≤ point && point ≤ 64) || (91 ≤ point && point ≤ 96) ||
    (123 ≤ point && point ≤ 126)

/-- What is removed before common passwords are looked for. -/
def isRemoved (character : Char) : Bool :=
  isAsciiDigit character || isWhitespace character || isAsciiPunctuation character

/-- `char::to_lowercase` and `str::to_lowercase`. Digits, white space and punctuation have no case,
and nothing else has one of them as its lower case. -/
class UnicodeCase where
  toLowercase : Char → List Char
  strToLowercase : String → String
  uncased : ∀ character, isRemoved character = true → toLowercase character = [character]
  cased : ∀ character, isRemoved character = false → ∀ lower ∈ toLowercase character, isRemoved lower = false

def trim (candidate : List Char) : List Char := (candidate.dropWhile isWhitespace).rdropWhile isWhitespace

def wordsOf (trimmed : List Char) : List (List Char) :=
  (trimmed.splitOnP fun character => isWhitespace character || character == '-').filter fun word => !word.isEmpty

variable [UnicodeCase]
open UnicodeCase

def lettersOf (candidate : List Char) : List Char :=
  (candidate.filter fun character => !isRemoved character).flatMap toLowercase

def onlyCommon (candidate : List Char) : Bool :=
  let letters := lettersOf candidate
  if letters.isEmpty then true
  else splits (common.map asBytes) (asBytes (String.ofList letters))

def distinctCharacters (trimmed : List Char) : List Char :=
  ((trimmed.filter fun character => !isWhitespace character).flatMap toLowercase).dedup

def distinctWords (words : List (List Char)) : List String :=
  (words.map fun word => strToLowercase (String.ofList word)).dedup

def checkStrength (candidate : String) : Except PassphraseProblem Unit :=
  if candidate.toList.length > maxCharacters || candidate.utf8ByteSize > maxBytes then .error .tooLong
  else
    let trimmed := trim candidate.toList
    let words := wordsOf trimmed
    if trimmed.length < minCharacters && words.length < minWords then .error .tooShort
    else if onlyCommon trimmed then .error .tooCommon
    else if (distinctCharacters trimmed).length < minDistinctCharacters ||
        (words.length ≥ minWords && (distinctWords words).length < minDistinctWords) then
      .error .tooRepetitive
    else .ok ()

end MissionControl.RecoveryPassphrase
