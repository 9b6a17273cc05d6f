import MissionControl.Domain.PreviewDigest
import MissionControl.Lib.PercentEncoding
import MissionControl.Lib.CommandLine

/-! The links that open a file in Obsidian, and their launch. -/

namespace MissionControl.UriLauncher

def obsidianScheme : String := "obsidian"
def obsidianOpenOperation : String := "open"

inductive ObsidianUriError where
  | emptyVaultName | emptyFilePath

/-- The bytes that stand for themselves. -/
def isPlain (byte : UInt8) : Bool :=
  let point := byte.toNat
  (65 ≤ point && point ≤ 90) || (97 ≤ point && point ≤ 122) || (48 ≤ point && point ≤ 57) ||
    point == 45 || point == 95 || point == 46 || point == 126 || point == 47

def percentEncodeQueryValue (value : String) : String := String.ofList (PercentEncoding.encode isPlain (asBytes value))

def isBlank (text : String) : Bool := text.toList.all isWhitespace

def openText (vaultName vaultRelativePath : String) : String :=
  obsidianScheme ++ "://" ++ obsidianOpenOperation ++ "?vault=" ++ percentEncodeQueryValue vaultName ++ "&file=" ++
    percentEncodeQueryValue vaultRelativePath

/-- There is no link but one that was constructed. -/
structure ObsidianUri where
  asStr : String
  constructed : ∃ vaultName vaultRelativePath, isBlank vaultName = false ∧ isBlank vaultRelativePath = false ∧
    asStr = openText vaultName vaultRelativePath

def openUri (vaultName vaultRelativePath : String) : Except ObsidianUriError ObsidianUri :=
  if vault : isBlank vaultName = true then .error .emptyVaultName
  else if file : isBlank vaultRelativePath = true then .error .emptyFilePath
  else .ok ⟨openText vaultName vaultRelativePath, vaultName, vaultRelativePath, eq_false_of_ne_true vault,
    eq_false_of_ne_true file, rfl⟩

def launchProgram : String := "cmd"

def launchArguments (uri : ObsidianUri) : List String := ["/C", "start", "", uri.asStr]

def launchLine (uri : ObsidianUri) : List Char :=
  CommandLine.commandLine launchProgram.toList ((launchArguments uri).map String.toList)

end MissionControl.UriLauncher
