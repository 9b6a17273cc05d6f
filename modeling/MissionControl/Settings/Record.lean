import MissionControl.Domain.Value
import MissionControl.Lib.Checked

/-! The settings document, the patches that change it, and the checks it passes
whenever it is read and before it is written. -/

namespace MissionControl.Settings
open Checked

/-- What the locale and time zone libraries accept. -/
class SettingsHost where
  parsesLocale : String → Bool
  knowsTimezone : String → Bool

inductive SettingsError where
  | invalidJson
  | invalidContent (field code : String)
  | io
  | revisionExhausted
  | unsupportedFormatVersion (found : Nat)
  | writerPoisoned
  deriving DecidableEq

inductive Theme where
  | light | dark | system

inductive LogLevel where
  | error | warn | info | debug

inductive SelectedWorkspace where
  | live | training

/-- A folder that was there, reached through no link, when its path was taken. -/
structure CanonicalDirectoryPath where
  path : String

/-- A folder that may be absent when the settings load. -/
structure DeferredDirectoryPath where
  path : String

structure DisplaySettings where
  locale : String
  timezone : String
  theme : Theme

structure OperationalSettings where
  authorityRoot : Option CanonicalDirectoryPath
  backupDestination : Option DeferredDirectoryPath
  liveVaultRoot : Option DeferredDirectoryPath
  selectedWorkspace : Option SelectedWorkspace
  retentionDays : Nat
  externalAiEnabled : Bool
  logLevel : LogLevel

structure WindowGeometry where
  x : Int
  y : Int
  width : Nat
  height : Nat
  maximized : Bool
  deriving DecidableEq

inductive TableDensity where
  | compact | comfortable

structure TablePreference where
  tableId : String
  density : TableDensity
  visibleColumns : List String

structure PresentationSettings where
  lastRoute : Option String
  sidebarWidth : Option Nat
  window : Option WindowGeometry
  tablePreferences : List TablePreference

structure SettingsDocument where
  formatVersion : Nat
  revision : Nat
  display : DisplaySettings
  operational : OperationalSettings
  presentation : PresentationSettings

def currentFormatVersion : Nat := 3
def maxIdentifierLength : Nat := 128
def maxLocaleLength : Nat := 35
def maxRouteLength : Nat := 256
def maxSidebarWidth : Nat := 4096
def maxTimezoneLength : Nat := 64
def maxWindowDimension : Nat := 32768

def SettingsDocument.default : SettingsDocument where
  formatVersion := currentFormatVersion
  revision := 0
  display := { locale := "zh-TW", timezone := "Asia/Taipei", theme := .system }
  operational :=
    { authorityRoot := none
      backupDestination := none
      liveVaultRoot := none
      selectedWorkspace := none
      retentionDays := 30
      externalAiEnabled := false
      logLevel := .info }
  presentation := { lastRoute := none, sidebarWidth := none, window := none, tablePreferences := [] }

structure BackupSettings where
  format : String
  locale : String
  timezone : String
  theme : Theme
  retentionDays : Nat
  externalAiEnabled : Bool
  logLevel : LogLevel

def BackupSettings.applyTo (settings : BackupSettings) (document : SettingsDocument) : SettingsDocument :=
  { document with
    display := { locale := settings.locale, timezone := settings.timezone, theme := settings.theme }
    operational := { document.operational with
      retentionDays := settings.retentionDays
      externalAiEnabled := settings.externalAiEnabled
      logLevel := settings.logLevel } }

def SettingsDocument.putBack (preimage document : SettingsDocument) : SettingsDocument :=
  { preimage with
    revision := document.revision
    operational := { preimage.operational with selectedWorkspace := document.operational.selectedWorkspace } }

def SettingsDocument.selecting (document : SettingsDocument) (selected : SelectedWorkspace) : SettingsDocument :=
  { document with operational := { document.operational with selectedWorkspace := some selected } }

inductive ValuePatch (α : Type) where
  | clear
  | set (value : α)
  | unchanged
  deriving DecidableEq

structure DisplayPatch where
  locale : Option String
  timezone : Option String
  theme : Option Theme

structure OperationalPatch where
  authorityRoot : ValuePatch CanonicalDirectoryPath
  backupDestination : ValuePatch DeferredDirectoryPath
  liveVaultRoot : ValuePatch DeferredDirectoryPath
  retentionDays : Option Nat
  externalAiEnabled : Option Bool
  logLevel : Option LogLevel

structure PresentationPatch where
  lastRoute : ValuePatch String
  sidebarWidth : ValuePatch Nat
  window : ValuePatch WindowGeometry
  tablePreferences : Option (List TablePreference)

inductive SettingsPatch where
  | display (patch : DisplayPatch)
  | operational (patch : OperationalPatch)
  | presentation (patch : PresentationPatch)

def applyValuePatch {α : Type} (target : Option α) : ValuePatch α → Option α
  | .clear => none
  | .set value => some value
  | .unchanged => target

def applyPresentationPatch (presentation : PresentationSettings) (patch : PresentationPatch) :
    PresentationSettings where
  lastRoute := applyValuePatch presentation.lastRoute patch.lastRoute
  sidebarWidth := applyValuePatch presentation.sidebarWidth patch.sidebarWidth
  window := applyValuePatch presentation.window patch.window
  tablePreferences := patch.tablePreferences.getD presentation.tablePreferences

def applyPatch (document : SettingsDocument) : SettingsPatch → SettingsDocument
  | .display patch => { document with display :=
      { locale := patch.locale.getD document.display.locale
        timezone := patch.timezone.getD document.display.timezone
        theme := patch.theme.getD document.display.theme } }
  | .operational patch => { document with operational := { document.operational with
      authorityRoot := applyValuePatch document.operational.authorityRoot patch.authorityRoot
      backupDestination := applyValuePatch document.operational.backupDestination patch.backupDestination
      liveVaultRoot := applyValuePatch document.operational.liveVaultRoot patch.liveVaultRoot
      retentionDays := patch.retentionDays.getD document.operational.retentionDays
      externalAiEnabled := patch.externalAiEnabled.getD document.operational.externalAiEnabled
      logLevel := patch.logLevel.getD document.operational.logLevel } }
  | .presentation patch => { document with presentation := applyPresentationPatch document.presentation patch }

def mergePresentationPatch (current newer : PresentationPatch) : PresentationPatch where
  lastRoute := if newer.lastRoute ≠ .unchanged then newer.lastRoute else current.lastRoute
  sidebarWidth := if newer.sidebarWidth ≠ .unchanged then newer.sidebarWidth else current.sidebarWidth
  window := if newer.window ≠ .unchanged then newer.window else current.window
  tablePreferences := if newer.tablePreferences.isSome then newer.tablePreferences else current.tablePreferences

theorem applyValuePatch_merge {α : Type} [DecidableEq α] (target : Option α) (current newer : ValuePatch α) :
    applyValuePatch target (if newer ≠ .unchanged then newer else current) =
      applyValuePatch (applyValuePatch target current) newer := by
  cases newer <;> simp [applyValuePatch]

theorem applyPresentationPatch_merge (presentation : PresentationSettings) (current newer : PresentationPatch) :
    applyPresentationPatch presentation (mergePresentationPatch current newer) =
      applyPresentationPatch (applyPresentationPatch presentation current) newer := by
  simp only [applyPresentationPatch, mergePresentationPatch, applyValuePatch_merge]
  cases newer.tablePreferences <;> simp

def validateText (field value : String) (maximumLength : Nat) : Except SettingsError Unit :=
  ensure (value ≠ "" ∧ value.utf8ByteSize ≤ maximumLength ∧ value.toList.any isControl = false)
    (.invalidContent field "invalid-text")

def isAppRoute (route : String) : Prop :=
  route.utf8ByteSize ≤ maxRouteLength ∧ ['/'] <+: route.toList ∧ ¬ "://".toList <:+: route.toList ∧
    '\\' ∉ route.toList ∧ route.toList.any isControl = false

instance (route : String) : Decidable (isAppRoute route) := inferInstanceAs (Decidable (_ ∧ _))

def WindowGeometry.fits (window : WindowGeometry) : Prop :=
  window.width ≠ 0 ∧ window.height ≠ 0 ∧ window.width ≤ maxWindowDimension ∧ window.height ≤ maxWindowDimension

instance (window : WindowGeometry) : Decidable window.fits := inferInstanceAs (Decidable (_ ∧ _))

def validateTables (seen : List String) : List TablePreference → Except SettingsError Unit
  | [] => return ()
  | table :: rest => do
    validateText "presentation.table_preferences.table_id" table.tableId maxIdentifierLength
    ensure (table.tableId ∉ seen) (.invalidContent "presentation.table_preferences.table_id" "duplicate")
    table.visibleColumns.forM fun column =>
      validateText "presentation.table_preferences.visible_columns" column maxIdentifierLength
    validateTables (table.tableId :: seen) rest

def validateDocument [SettingsHost] (document : SettingsDocument) : Except SettingsError Unit := do
  ensure (document.formatVersion = currentFormatVersion) (.unsupportedFormatVersion document.formatVersion)
  validateText "display.locale" document.display.locale maxLocaleLength
  ensure (SettingsHost.parsesLocale document.display.locale = true)
    (.invalidContent "display.locale" "invalid-locale")
  ensure (SettingsHost.knowsTimezone document.display.timezone = true)
    (.invalidContent "display.timezone" "invalid-timezone")
  validateText "display.timezone" document.display.timezone maxTimezoneLength
  ensure (document.operational.retentionDays ≠ 0)
    (.invalidContent "operational.retention_days" "must-be-positive")
  ensure (∀ route ∈ document.presentation.lastRoute, isAppRoute route)
    (.invalidContent "presentation.last_route" "invalid-app-route")
  ensure (∀ width ∈ document.presentation.sidebarWidth, width ≤ maxSidebarWidth)
    (.invalidContent "presentation.sidebar_width" "too-large")
  ensure (∀ window ∈ document.presentation.window, window.fits)
    (.invalidContent "presentation.window" "invalid-dimensions")
  validateTables [] document.presentation.tablePreferences

end MissionControl.Settings
