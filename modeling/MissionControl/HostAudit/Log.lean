import MissionControl.Lib.Lines

/-! The host audit log: one file of JSON lines that is only ever appended to. -/

namespace MissionControl.HostAudit

def FORMAT : String := "pmc-host-audit/v1"

inductive AuditWorkspace where
  | live | training
  deriving DecidableEq

inductive AuditOutcome where
  | succeeded | failed | refused
  deriving DecidableEq

structure HostAuditEvent where
  format : String
  eventId : String
  occurredAtMillis : Int
  workspace : AuditWorkspace
  eventCode : String
  outcome : AuditOutcome
  facts : List (String × String)
  deriving DecidableEq

def HostAuditEvent.new (eventId : String) (occurredAtMillis : Int) (workspace : AuditWorkspace) (eventCode : String)
    (outcome : AuditOutcome) (facts : List (String × String)) : HostAuditEvent where
  format := FORMAT
  eventId
  occurredAtMillis
  workspace
  eventCode
  outcome
  facts

def newline : UInt8 := 10

structure SerdeJson where
  toVec : HostAuditEvent → List UInt8
  fromSlice : List UInt8 → Option HostAuditEvent

/-- Looks at the last byte only. -/
def endsUnterminated (file : List UInt8) : Bool := file.getLast?.any fun last => last ≠ newline

/-- What `append` hands to `write_all`. -/
def line (json : SerdeJson) (file : List UInt8) (event : HostAuditEvent) : List UInt8 :=
  let line := json.toVec event ++ [newline]
  if endsUnterminated file then newline :: line else line

def events (json : SerdeJson) (file : List UInt8) : List HostAuditEvent :=
  ((file.splitOn newline).filterMap json.fromSlice).filter fun event => event.format = FORMAT

structure Append where
  event : HostAuditEvent
  stopped : Option Nat

def Append.returned (append : Append) : Bool := append.stopped.isNone

def Append.written (json : SerdeJson) (file : List UInt8) (append : Append) : List UInt8 :=
  match append.stopped with
  | none => line json file append.event
  | some bytes => (line json file append.event).take bytes

def appended (json : SerdeJson) : List UInt8 → List Append → List UInt8
  | file, [] => file
  | file, append :: rest => appended json (file ++ append.written json file) rest

end MissionControl.HostAudit
