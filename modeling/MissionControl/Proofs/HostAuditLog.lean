import MissionControl.HostAudit.Log

/-! The host audit log keeps every event whose append returned, whatever torn writes lie between. -/

namespace MissionControl.HostAudit
open Lines

structure Plain (json : SerdeJson) (event : HostAuditEvent) : Prop where
  current : event.format = FORMAT
  single : newline ∉ json.toVec event
  reads : json.fromSlice (json.toVec event) = some event
  whole : ∀ part, part <+: json.toVec event → part ≠ json.toVec event → json.fromSlice part = none

/-- The whole text of the event gets written, be it without the end of its line. -/
def Append.whole (json : SerdeJson) (file : List UInt8) (append : Append) : Bool :=
  append.stopped.all fun bytes => (if endsUnterminated file then 1 else 0) + (json.toVec append.event).length ≤ bytes

def told (json : SerdeJson) : List UInt8 → List Append → List HostAuditEvent
  | _, [] => []
  | file, append :: rest =>
    let later := told json (file ++ append.written json file) rest
    if append.whole json file then append.event :: later else later

section
variable {json : SerdeJson} {file : List UInt8} {append : Append} {event : HostAuditEvent}

theorem terminated_of (closed : endsUnterminated file = false) : Terminated newline file := by
  rcases List.eq_nil_or_concat file with rfl | ⟨front, last, rfl⟩
  · exact .inl rfl
  · unfold endsUnterminated at closed
    rw [List.concat_eq_append, List.getLast?_concat, Option.any_some, decide_eq_false_iff_not, not_not] at closed
    exact .inr ⟨front, by rw [closed, List.concat_eq_append]⟩

theorem fromSlice_take (plain : Plain json event) (bytes : Nat) :
    json.fromSlice ((json.toVec event).take bytes) = if (json.toVec event).length ≤ bytes then some event else none := by
  split
  next all => rw [List.take_of_length_le all, plain.reads]
  next torn =>
    refine plain.whole _ (List.take_prefix _ _) fun same => torn ?_
    have length := congrArg List.length same
    rw [List.length_take] at length
    omega

theorem records_take (blank : json.fromSlice [] = none) (terminated : Terminated newline file) (plain : Plain json event)
    (bytes : Nat) : records newline json.fromSlice (file ++ (json.toVec event ++ [newline]).take bytes) =
      records newline json.fromSlice file ++ if (json.toVec event).length ≤ bytes then [event] else [] := by
  have single : newline ∉ (json.toVec event).take bytes := fun there => plain.single (List.mem_of_mem_take there)
  rw [List.take_append]
  by_cases ended : (json.toVec event).length < bytes
  · obtain ⟨more, equal⟩ := Nat.exists_eq_add_of_lt ended
    have rest : bytes - (json.toVec event).length = more + 1 := by omega
    rw [rest, List.take_succ_cons, List.take_nil, ← List.append_assoc, records_end blank,
      records_append blank terminated single, fromSlice_take plain]
    split <;> rfl
  · have rest : bytes - (json.toVec event).length = 0 := by omega
    rw [rest, List.take_zero, List.append_nil, records_append blank terminated single, fromSlice_take plain]
    split <;> rfl

theorem written_take (json : SerdeJson) (file : List UInt8) (append : Append) :
    ∃ bytes, append.written json file = (line json file append.event).take bytes ∧ append.whole json file =
      decide ((if endsUnterminated file then 1 else 0) + (json.toVec append.event).length ≤ bytes) := by
  cases stopped : append.stopped with
  | none =>
    refine ⟨(line json file append.event).length, ?_, ?_⟩
    · rw [Append.written, stopped, List.take_length]
    · rw [Append.whole, stopped, Option.all_none, line]
      split
      · simp
        omega
      · simp
  | some bytes =>
    refine ⟨bytes, ?_, ?_⟩
    · rw [Append.written, stopped]
    · rw [Append.whole, stopped, Option.all_some]

theorem records_written (blank : json.fromSlice [] = none) (plain : Plain json append.event) :
    records newline json.fromSlice (file ++ append.written json file) =
      records newline json.fromSlice file ++ if append.whole json file then [append.event] else [] := by
  obtain ⟨bytes, written, whole⟩ := written_take json file append
  rw [written, whole, line]
  by_cases torn : endsUnterminated file = true
  · rw [if_pos torn, if_pos torn]
    cases bytes with
    | zero =>
      rw [List.take_zero, List.append_nil, if_neg (by simp), List.append_nil]
    | succ bytes =>
      rw [List.take_succ_cons, List.append_cons, records_take blank (.end file) plain, records_end blank]
      congr 1
      simp only [decide_eq_true_eq, Nat.add_comm 1, Nat.add_le_add_iff_right]
  · rw [if_neg torn, if_neg torn, Nat.zero_add]
    have closed : endsUnterminated file = false := by simpa using torn
    rw [records_take blank (terminated_of closed) plain]
    congr 1
    simp only [decide_eq_true_eq]

theorem told_current {appends : List Append} (plain : ∀ append ∈ appends, Plain json append.event) (file : List UInt8) :
    ∀ event ∈ told json file appends, event.format = FORMAT := by
  induction appends generalizing file with
  | nil => exact fun _ listed => nomatch listed
  | cons first rest following =>
    intro event listed
    have later := following (fun append held => plain append (List.mem_cons_of_mem _ held)) (file ++ first.written json file)
    unfold told at listed
    dsimp only at listed
    split at listed
    · rcases List.mem_cons.mp listed with rfl | listed
      · exact (plain first List.mem_cons_self).current
      · exact later event listed
    · exact later event listed

theorem records_appended (blank : json.fromSlice [] = none) {appends : List Append}
    (plain : ∀ append ∈ appends, Plain json append.event) (file : List UInt8) :
    records newline json.fromSlice (appended json file appends) =
      records newline json.fromSlice file ++ told json file appends := by
  induction appends generalizing file with
  | nil => rw [appended, told, List.append_nil]
  | cons first rest following =>
    rw [appended, following fun append held => plain append (List.mem_cons_of_mem _ held),
      records_written blank (plain first List.mem_cons_self), told, List.append_assoc]
    congr 1
    split <;> rfl

theorem whole_of_returned (returned : append.returned = true) : append.whole json file = true := by
  have none := Option.isNone_iff_eq_none.mp returned
  rw [Append.whole, none]
  rfl

theorem returned_told (appends : List Append) (file : List UInt8) :
    ((appends.filter Append.returned).map Append.event).Sublist (told json file appends) := by
  induction appends generalizing file with
  | nil => exact .refl _
  | cons first rest following =>
    have later := following (file ++ first.written json file)
    unfold told
    by_cases returned : first.returned = true
    · rw [List.filter_cons_of_pos returned, if_pos (whole_of_returned returned)]
      exact later.cons_cons _
    · rw [List.filter_cons_of_neg returned]
      split
      · exact later.cons _
      · exact later

theorem told_appended (appends : List Append) (file : List UInt8) :
    (told json file appends).Sublist (appends.map Append.event) := by
  induction appends generalizing file with
  | nil => exact .refl _
  | cons first rest following =>
    have later := following (file ++ first.written json file)
    unfold told
    rw [List.map_cons]
    split
    · exact later.cons_cons _
    · exact later.cons _

end

/-- The log tells, in the order of the appends and each once, the events whose text was written
whole: all whose append returned, and of the others none that was torn. -/
theorem acknowledged_events_kept (json : SerdeJson) (blank : json.fromSlice [] = none) (appends : List Append)
    (plain : ∀ append ∈ appends, Plain json append.event) :
    events json (appended json [] appends) = told json [] appends ∧
      ((appends.filter Append.returned).map Append.event).Sublist (events json (appended json [] appends)) ∧
      (events json (appended json [] appends)).Sublist (appends.map Append.event) := by
  have exactly : events json (appended json [] appends) = told json [] appends := by
    have all := records_appended blank plain []
    rw [records_single (List.not_mem_nil), blank, Option.toList_none, List.nil_append] at all
    rw [events, ← records, all]
    exact List.filter_eq_self.mpr fun event listed => decide_eq_true (told_current plain [] event listed)
  rw [exactly]
  exact ⟨rfl, returned_told appends [], told_appended appends []⟩

namespace Torn

def completed : HostAuditEvent := .new "e1" 1000 .live "backup.completed" .succeeded []

def text : List UInt8 :=
  ("\x7b\"format\":\"pmc-host-audit/v1\",\"event_id\":\"e1\",\"occurred_at_millis\":1000,\"workspace\":\"live\"," ++
    "\"event_code\":\"backup.completed\",\"outcome\":\"succeeded\",\"facts\":[]\x7d").toList.map fun letter => .ofNat letter.toNat

/-- What is written and read of this one event. -/
def json : SerdeJson where
  toVec _ := text
  fromSlice part := if part = text then some completed else none

/-- An append that stopped within its line, and the one after it. -/
def appends : List Append := [⟨completed, some 20⟩, ⟨completed, none⟩]

end Torn

open Torn in
theorem torn_line_skipped : events json (appended json [] Torn.appends) = [completed] := by
  refine (acknowledged_events_kept json (by decide +kernel) Torn.appends fun append listed => ?_).1.trans (by decide +kernel)
  have same : append.event = completed := by
    rcases List.mem_cons.mp listed with rfl | listed
    · rfl
    · rw [List.mem_singleton.mp listed]
  rw [same]
  refine ⟨rfl, by decide +kernel, ?_, fun part _ different => ?_⟩
  · dsimp only [json]
    rw [if_pos rfl]
  · dsimp only [json] at different ⊢
    rw [if_neg different]

end MissionControl.HostAudit
