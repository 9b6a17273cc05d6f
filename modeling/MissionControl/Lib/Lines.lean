import Mathlib.Data.List.Basic

/-! Text in lines. A line that can be read is a record; a line is ended by a separator, and what
comes after the last separator is a line too. -/

namespace Lines
variable {Symbol Record : Type} [DecidableEq Symbol] {separator : Symbol} {read : List Symbol → Option Record}
  {text part : List Symbol}

def records (separator : Symbol) (read : List Symbol → Option Record) (text : List Symbol) : List Record :=
  (text.splitOn separator).filterMap read

/-- The text ends in a line of its own, so that whatever is added starts a new one. -/
def Terminated (separator : Symbol) (text : List Symbol) : Prop := text = [] ∨ ∃ front, text = front ++ [separator]

omit [DecidableEq Symbol] in
theorem Terminated.end (text : List Symbol) : Terminated separator (text ++ [separator]) := .inr ⟨text, rfl⟩

theorem records_single (single : separator ∉ part) : records separator read part = (read part).toList := by
  rw [records, List.splitOn_eq_singleton single]
  cases found : read part <;> simp [found]

/-- Ending the last line adds no record. -/
theorem records_end (blank : read [] = none) : records separator read (text ++ [separator]) = records separator read text := by
  rw [records, List.splitOn_append_cons_self, List.filterMap_append, List.splitOn_nil]
  simp [records, blank]

/-- A new line adds its record, if it is one. -/
theorem records_append (blank : read [] = none) (terminated : Terminated separator text) (single : separator ∉ part) :
    records separator read (text ++ part) = records separator read text ++ (read part).toList := by
  rcases terminated with rfl | ⟨front, rfl⟩
  · rw [List.nil_append, records_single single, records_single (List.not_mem_nil), blank]
    rfl
  · rw [records_end blank, List.append_assoc, List.singleton_append, records, List.splitOn_append_cons_self,
      List.filterMap_append]
    exact congrArg _ (records_single single)

end Lines
