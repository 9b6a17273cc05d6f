import MissionControl.Restore.Service

/-! Any number of callers at one workspace, taking turns at their actions. The control
record they share changes by their decisions, one at a time. -/

namespace MissionControl.Restore
open Program

inductive Call where
  | checkArchive (checked : Except RestoreError CheckedArchive)
  | prepareRestore (checked : CheckedArchive) (settings : SettingsDocument)
    (backedUp : Except RestoreError (LedgerBinding × String)) (preparation : Preparation)
  | prepareRestoreClosed (checked : CheckedArchive) (settings : SettingsDocument)
    (backedUp : Except RestoreError (LedgerBinding × String)) (preparation : Preparation)
  | prepareRestorePreserved (checked : CheckedArchive) (settings : SettingsDocument) (reason : UnopenedReason)
    (preserved : Except RestoreError (String × String × FileSetBinding)) (preparation : Preparation)
  | rejectRestore (preparedIntentId : String)
  | approveRestore (approval : RestoreApproval)
  | executeRestore (nowMillis : Int)
  | reconcileRestore (nowMillis : Int)

inductive Response where
  | checked (result : Except RestoreError CheckedArchive)
  | prepared (result : Except RestoreError PreparedRestore)
  | rejected (result : Except RestoreError Unit)
  | approved (result : Except RestoreError (Option RestoreOutcome))
  | executed (result : Except RestoreError RestoreOutcome)
  | reconciled (result : Except RestoreError (Option RestoreOutcome))

/-- A step of a run: a caller arrives, or one takes its next action. -/
inductive Event where
  | call (call : Call)
  | act (caller : Nat) (works : Bool)

/-- A decision about the control record, of whatever answer. -/
abbrev Decision := (R : Type) × ControlChange R

def decisionOf : {R : Type} → Op R → Option Decision
  | _, .update change => some ⟨_, change⟩
  | _, _ => none

variable [Sha256] [RestoreHost]

def Call.program : Call → Restoring Response
  | .checkArchive checked => Response.checked <$> Restore.checkArchive checked
  | .prepareRestore checked settings backedUp preparation =>
    Response.prepared <$> Restore.prepareRestore checked settings backedUp preparation
  | .prepareRestoreClosed checked settings backedUp preparation =>
    Response.prepared <$> Restore.prepareRestoreClosed checked settings backedUp preparation
  | .prepareRestorePreserved checked settings reason preserved preparation =>
    Response.prepared <$> Restore.prepareRestorePreserved checked settings reason preserved preparation
  | .rejectRestore preparedIntentId => Response.rejected <$> Restore.rejectRestore preparedIntentId
  | .approveRestore approval => Response.approved <$> Restore.approveRestore approval
  | .executeRestore nowMillis => Response.executed <$> Restore.executeRestore nowMillis
  | .reconcileRestore nowMillis => Response.reconciled <$> Restore.reconcileRestore nowMillis

def Event.turn : Event → Turn Op Response
  | .call made => .start made.program
  | .act caller works => .act caller works

abbrev Callers := Pool Op World Response

/-- All callers on one workspace, whose control record is empty at first. -/
def reached (files : Files) (settings : SettingsDocument) (events : List Event) : Callers :=
  Pool.after Op.effect ⟨⟨.default, files, settings⟩, []⟩ (events.map Event.turn)

def controlAfter (files : Files) (settings : SettingsDocument) (events : List Event) : RestoreControl :=
  (reached files settings events).world.control

/-- The decision an event puts to the control record, unless writing it fails. -/
def decision (callers : Callers) (event : Event) : Option Decision :=
  match callers.action event.turn with
  | some ⟨_, op, works⟩ => if works then decisionOf op else none
  | none => none

/-- A refused decision leaves the record as it was. -/
def Decision.apply (decided : Decision) (control : RestoreControl) : RestoreControl :=
  match decided.2.decide control with
  | .ok (_, after) => after
  | .error _ => control

omit [Sha256] [RestoreHost] in
theorem changeDocument_control (world : World) (expectedRevision : Nat)
    (change : SettingsDocument → SettingsDocument) :
    (changeDocument world expectedRevision change).2.control = world.control := by
  unfold changeDocument
  split <;> rfl

omit [Sha256] in
theorem markProjections_control (world : World) (works : Bool) (nowMillis : Int) :
    (markProjections world works nowMillis).2.control = world.control := by
  unfold markProjections
  split
  · rfl
  · split
    · rfl
    · split <;> rfl

theorem effect_control {R : Type} (op : Op R) (works : Bool) (world : World) :
    (Op.effect R op works world).2.control =
      match if works then decisionOf op else none with
      | some decided => decided.apply world.control
      | none => world.control := by
  cases works with
  | false =>
    cases op with
    | rename _ _ => simp only [Op.effect]; split <;> rfl
    | copy _ _ => simp only [Op.effect]; split <;> rfl
    | markProjectionsOutOfSync _ => exact markProjections_control _ _ _
    | _ => rfl
  | true =>
    cases op with
    | update change =>
      simp only [Op.effect, if_true, decisionOf, Decision.apply]
      cases change.decide world.control <;> rfl
    | rename _ _ => simp only [Op.effect]; split <;> rfl
    | copy _ _ => simp only [Op.effect]; split <;> rfl
    | removeFile _ => simp only [Op.effect]; split <;> rfl
    | applyRestoreExport _ _ => exact changeDocument_control _ _ _
    | putBack _ _ => exact changeDocument_control _ _ _
    | markProjectionsOutOfSync _ => exact markProjections_control _ _ _
    | _ => rfl

variable {files : Files} {settings : SettingsDocument} {events : List Event} {event : Event}

theorem reached_snoc : reached files settings (events ++ [event]) =
    (reached files settings events).take Op.effect event.turn := by
  rw [reached, List.map_append, List.map_singleton, Pool.after_snoc]
  rfl

theorem controlAfter_snoc : controlAfter files settings (events ++ [event]) =
    match decision (reached files settings events) event with
    | some decided => decided.apply (controlAfter files settings events)
    | none => controlAfter files settings events := by
  rw [controlAfter, reached_snoc, Pool.take_world, decision]
  rcases (reached files settings events).action event.turn with _ | ⟨R, op, works⟩
  · rfl
  · exact effect_control op works _

def decisionsFrom (callers : Callers) : List Event → List Decision
  | [] => []
  | event :: events =>
    (decision callers event).toList ++ decisionsFrom (callers.take Op.effect event.turn) events

/-- The decisions of a run, in their order. -/
def decisions (files : Files) (settings : SettingsDocument) (events : List Event) : List Decision :=
  decisionsFrom ⟨⟨.default, files, settings⟩, []⟩ events

theorem decisionsFrom_snoc (callers : Callers) (events : List Event) (event : Event) :
    decisionsFrom callers (events ++ [event]) =
      decisionsFrom callers events ++ (decision (callers.after Op.effect (events.map Event.turn)) event).toList := by
  induction events generalizing callers with
  | nil => simp [decisionsFrom, Pool.after]
  | cons first events rest => simp [decisionsFrom, rest, Pool.after]

theorem decisions_snoc : decisions files settings (events ++ [event]) =
    decisions files settings events ++ (decision (reached files settings events) event).toList :=
  decisionsFrom_snoc _ events event

end MissionControl.Restore
