import Mathlib.Data.List.Basic

/-! Command lines of Windows: how a list of arguments is written as one, and how the command
interpreter reads what stands behind its switch. -/

namespace CommandLine

def needsQuotes (argument : List Char) : Bool := argument.isEmpty || argument.any fun character => character == ' ' || character == '\t'

/-- Quotation marks are escaped, with the backslashes that stand before them. -/
def escape : Nat → List Char → List Char
  | _, [] => []
  | pending, '\\' :: rest => '\\' :: escape (pending + 1) rest
  | pending, '"' :: rest => List.replicate (pending + 1) '\\' ++ '"' :: escape 0 rest
  | _, character :: rest => character :: escape 0 rest

def trailing (argument : List Char) : Nat := (argument.reverse.takeWhile (· == '\\')).length

def writeArgument (argument : List Char) : List Char :=
  if needsQuotes argument then '"' :: escape 0 argument ++ List.replicate (trailing argument) '\\' ++ ['"']
  else escape 0 argument

def commandLine (program : List Char) (arguments : List (List Char)) : List Char :=
  '"' :: program ++ '"' :: arguments.flatMap fun argument => ' ' :: writeArgument argument

/-- What is to be run is all that follows the switch. -/
def afterSwitch : List Char → List Char
  | [] => []
  | '/' :: 'C' :: rest => rest
  | _ :: rest => afterSwitch rest

/-- Pairs of percent signs around the name of a defined variable give its value, and what stands in
other pairs is left as it is. -/
def expandFrom (defined : List Char → Option (List Char)) : Option (List Char) → List Char → List Char
  | none, [] => []
  | some name, [] => '%' :: name.reverse
  | none, '%' :: rest => expandFrom defined (some []) rest
  | none, character :: rest => character :: expandFrom defined none rest
  | some name, '%' :: rest =>
    match defined name.reverse with
    | some value => value ++ expandFrom defined none rest
    | none => '%' :: name.reverse ++ expandFrom defined (some []) rest
  | some name, character :: rest => expandFrom defined (some (character :: name)) rest

def expand (defined : List Char → Option (List Char)) (text : List Char) : List Char := expandFrom defined none text

/-- Whether the next character stands within quotation marks. -/
def quotes (quoted : Bool) (character : Char) : Bool := if character = '"' then !quoted else quoted

def commandsFrom (quoted : Bool) (current : List Char) : List Char → List (List Char)
  | [] => [current.reverse]
  | character :: rest =>
    if character = '&' ∧ quoted = false then current.reverse :: commandsFrom false [] rest
    else commandsFrom (quotes quoted character) (character :: current) rest

/-- The commands of a line, which ampersands outside quotation marks separate. -/
def commands (text : List Char) : List (List Char) := commandsFrom false [] text

def wordsFrom (quoted : Bool) (current : List Char) : List Char → List (List Char)
  | [] => if current.isEmpty then [] else [current.reverse]
  | character :: rest =>
    if character = ' ' ∧ quoted = false then
      (if current.isEmpty then [] else [current.reverse]) ++ wordsFrom false [] rest
    else wordsFrom (quotes quoted character) (character :: current) rest

/-- The words of a command, which blanks outside quotation marks separate. -/
def words (command : List Char) : List (List Char) := wordsFrom false [] command

def read (defined : List Char → Option (List Char)) (line : List Char) : List (List (List Char)) :=
  (commands (expand defined (afterSwitch line))).map words

/-- An ampersand stands outside quotation marks. -/
def separates : Bool → List Char → Bool
  | _, [] => false
  | quoted, character :: rest => (character == '&' && !quoted) || separates (quotes quoted character) rest

theorem separates_append (quoted : Bool) (first second : List Char) :
    separates quoted (first ++ second) = (separates quoted first || separates (first.foldl quotes quoted) second) := by
  induction first generalizing quoted with
  | nil => rfl
  | cons character first rest => rw [List.cons_append, separates, rest, separates, List.foldl_cons, Bool.or_assoc]

/-- No quotation mark, no quotation. -/
theorem foldl_quotes {text : List Char} (unquoted : '"' ∉ text) (quoted : Bool) : text.foldl quotes quoted = quoted := by
  induction text generalizing quoted with
  | nil => rfl
  | cons character text rest =>
    rw [List.mem_cons, not_or] at unquoted
    rw [List.foldl_cons, quotes, if_neg (Ne.symm unquoted.1), rest unquoted.2]

structure Open (quoted : Bool) (current : List Char) : Prop where
  unseparated : separates false current.reverse = false
  quoting : current.reverse.foldl quotes false = quoted

theorem Open.push {quoted : Bool} {current : List Char} (held : Open quoted current) {character : Char}
    (kept : ¬(character = '&' ∧ quoted = false)) : Open (quotes quoted character) (character :: current) := by
  constructor
  · rw [List.reverse_cons, separates_append, held.unseparated, held.quoting]
    simp only [separates, Bool.or_false, Bool.false_or, Bool.and_eq_false_iff, beq_eq_false_iff_ne, Bool.not_eq_false']
    by_cases ampersand : character = '&'
    · exact .inr (eq_true_of_ne_false fun unquoted => kept ⟨ampersand, unquoted⟩)
    · exact .inl ampersand
  · rw [List.reverse_cons, List.foldl_append, held.quoting]
    rfl

theorem Open.start : Open false [] := ⟨rfl, rfl⟩

theorem commands_unseparated {quoted : Bool} {current text command : List Char} (held : Open quoted current)
    (among : command ∈ commandsFrom quoted current text) : separates false command = false := by
  induction text generalizing quoted current with
  | nil =>
    rw [List.mem_singleton.mp among]
    exact held.unseparated
  | cons character text rest =>
    rw [commandsFrom] at among
    split at among
    next =>
      rcases List.mem_cons.mp among with rfl | later
      · exact held.unseparated
      · exact rest Open.start later
    next kept => exact rest (held.push kept) among

theorem words_unseparated {quoted : Bool} {current text word : List Char} (held : Open quoted current)
    (unseparated : separates quoted text = false) (among : word ∈ wordsFrom quoted current text) :
    separates false word = false := by
  have closed : ∀ word ∈ (if current.isEmpty then [] else [current.reverse]), separates false word = false := by
    intro word within
    split at within
    · cases within
    · rw [List.mem_singleton.mp within]
      exact held.unseparated
  induction text generalizing quoted current with
  | nil => exact closed word among
  | cons character text rest =>
    rw [separates, Bool.or_eq_false_iff] at unseparated
    have kept : ¬(character = '&' ∧ quoted = false) := by
      rintro ⟨rfl, rfl⟩
      exact absurd unseparated.1 (by decide)
    rw [wordsFrom] at among
    split at among
    next blank =>
      obtain ⟨rfl, rfl⟩ := blank
      rcases List.mem_append.mp among with here | later
      · exact closed word here
      · exact rest Open.start unseparated.2 later (by simp)
    next =>
      have longer := held.push kept
      refine rest longer unseparated.2 among ?_
      intro word within
      split at within
      · cases within
      · rw [List.mem_singleton.mp within]
        exact longer.unseparated

/-- No word of a command that is run holds an ampersand outside quotation marks. -/
theorem read_unseparated {defined : List Char → Option (List Char)} {line : List Char} {command : List (List Char)}
    (run : command ∈ read defined line) {word : List Char} (among : word ∈ command) : separates false word = false := by
  obtain ⟨text, listed, rfl⟩ := List.mem_map.mp run
  exact words_unseparated Open.start (commands_unseparated Open.start listed) among

end CommandLine
