import MissionControl.Evidence.Record
import MissionControl.Platform.Paths

/-! A Vault-relative path resolves below the root it is resolved against and nowhere else, and
the path a chosen file is recorded under resolves back to that file. -/

namespace MissionControl.VaultContainment
open Paths Checked Evidence

section
variable {text : List Char}

theorem components_plain (plain : ∀ piece ∈ text.splitOn '/', piece ≠ [] ∧ piece ≠ ['.'] ∧ piece ≠ ['.', '.']) :
    components text = (text.splitOn '/').map .normal := by
  have relative : text.head? ≠ some '/' := by
    cases text with
    | nil => simp
    | cons first rest =>
      intro rooted
      cases Option.some.inj rooted
      have opened : ('/' :: rest).splitOn '/' = [] :: rest.splitOn '/' := List.splitOn_append_cons_self [] rest
      exact (plain [] (by rw [opened]; exact List.mem_cons_self)).1 rfl
  have named : (text.splitOn '/').head? ≠ some ['.'] := fun dotted => (plain _ (List.mem_of_head? dotted)).2.1 rfl
  simp only [components, if_neg relative, if_neg named, List.nil_append]
  rw [← List.filterMap_eq_map]
  refine List.filterMap_congr fun piece member => ?_
  obtain ⟨some, single, double⟩ := plain piece member
  simp [component, some, single, double]

theorem mapM_normal (names : List Name) : (names.map Component.normal).mapM normalName = .ok names := by
  rw [mapM_ok, List.forall₂_map_left_iff, List.forall₂_same]
  exact fun _ _ => rfl

end

section
variable {disk : Disk} {current result : List Name}

/-- The way down: as far as there is anything, it can be looked at, none of it is a link, and
only the last of it may be something other than a directory. -/
inductive Clear (disk : Disk) : List Name → List Name → Prop where
  | arrived {current : List Name} : Clear disk current []
  | missing {current rest : List Name} {name : Name} (absent : disk.symlinkMetadata (current ++ [name]) = .notFound) :
      Clear disk current (name :: rest)
  | onward {current rest : List Name} {name : Name} {entry : Entry} (there : disk.symlinkMetadata (current ++ [name]) = .found entry)
      (plain : entry ≠ .link) (inner : rest = [] ∨ entry = .directory) (clear : Clear disk (current ++ [name]) rest) :
      Clear disk current (name :: rest)

theorem descend_missing (names : List Name) : descend disk current true names = .ok (current ++ names) := by
  induction names generalizing current with
  | nil => simp [descend]
  | cons name rest ih => simp [descend, ih]

theorem descend_ok {names : List Name} :
    descend disk current false names = .ok result ↔ result = current ++ names ∧ Clear disk current names := by
  induction names generalizing current with
  | nil => simp [descend, Clear.arrived, eq_comm]
  | cons name rest ih =>
    unfold descend
    cases known : disk.symlinkMetadata (current ++ [name]) with
    | found entry =>
      simp only [Bool.false_eq_true, if_false, bind_ok, ensure_ok, ih]
      constructor
      · rintro ⟨_, plain, _, inner, same, clear⟩
        exact ⟨by simpa using same, .onward known plain inner clear⟩
      · rintro ⟨same, clear⟩
        cases clear with
        | missing absent => cases absent.symm.trans known
        | onward there plain inner clear =>
          cases there.symm.trans known
          exact ⟨(), plain, (), inner, by simpa using same, clear⟩
    | notFound => simp [descend_missing, Clear.missing known, eq_comm]
    | failed =>
      simp only [Bool.false_eq_true, if_false, reduceCtorEq, false_iff, not_and]
      intro _ clear
      cases clear with
      | missing absent => cases absent.symm.trans known
      | onward there => cases there.symm.trans known

end

section
variable {disk : Disk} {root : List Name}

def segments (path : VaultRelativePath) : List Name := path.asStr.toList.splitOn '/'

theorem segments_plain (path : VaultRelativePath) :
    ∀ piece ∈ segments path, piece ≠ [] ∧ piece ≠ ['.'] ∧ piece ≠ ['.', '.'] := by
  have valid := path.valid
  cases checked : validateVaultRelativePath path.asStr with
  | error _ => rw [checked] at valid; cases valid
  | ok _ =>
  obtain ⟨_, _, checked⟩ := bind_ok.mp checked
  obtain ⟨_, _, checked⟩ := bind_ok.mp checked
  exact ensure_ok.mp checked

theorem resolve_plain {text : List Char} (plain : ∀ piece ∈ text.splitOn '/', piece ≠ [] ∧ piece ≠ ['.'] ∧ piece ≠ ['.', '.']) :
    resolveContainedPath disk root text = descend disk root false (text.splitOn '/') := by
  have some : text.splitOn '/' ≠ [] := List.splitOn_ne_nil _ _
  unfold resolveContainedPath
  rw [components_plain plain, mapM_normal]
  change (ensure (text.splitOn '/' ≠ []) _ >>= fun _ => descend disk root false (text.splitOn '/') >>= _) = _
  rw [ensure, if_pos some]
  change (descend disk root false (text.splitOn '/') >>= _) = _
  cases found : descend disk root false (text.splitOn '/') with
  | error cause => rfl
  | ok current =>
    have below : root <+: current := (descend_ok.mp found).1 ▸ List.prefix_append _ _
    change (ensure (root <+: current) _ >>= _) = _
    rw [ensure, if_pos below]
    rfl

/-- A Vault-relative path resolves exactly when the way down is clear, to the root with its
segments below it, and no other path resolves there. -/
theorem resolves_below (disk : Disk) (root : List Name) (path : VaultRelativePath) (resolved : List Name) :
    (resolveContainedPath disk root path.asStr.toList = .ok resolved ↔
      resolved = root ++ segments path ∧ Clear disk root (segments path)) ∧
    ∀ other : VaultRelativePath, resolveContainedPath disk root path.asStr.toList = .ok resolved →
      resolveContainedPath disk root other.asStr.toList = .ok resolved → other = path := by
  have descends (path : VaultRelativePath) :
      resolveContainedPath disk root path.asStr.toList = descend disk root false (segments path) :=
    resolve_plain (segments_plain path)
  simp only [descends, descend_ok, true_and]
  rintro other ⟨rfl, _⟩ ⟨same, _⟩
  have texts : other.asStr.toList = path.asStr.toList := by
    have joined := congrArg ['/'].intercalate (List.append_cancel_left same)
    simpa only [segments, List.intercalate_splitOn] using joined.symm
  obtain ⟨_, _⟩ := other
  obtain ⟨_, _⟩ := path
  cases String.toList_injective texts
  rfl

theorem entry_ok {metadata : Metadata} {failure : PathValidationError} {entry : Entry} :
    metadata.entry failure = .ok entry ↔ metadata = .found entry := by
  cases metadata <;> simp [Metadata.entry]

/-- What lies below an entry that is no link lies in a directory. -/
theorem clear_unlinked {current names : List Name} (walked : unlinked disk current names = .ok ()) :
    Clear disk current names := by
  induction names generalizing current with
  | nil => exact .arrived
  | cons name rest ih =>
    obtain ⟨entry, known, walked⟩ := bind_ok.mp walked
    obtain ⟨_, plain, walked⟩ := bind_ok.mp walked
    have known := entry_ok.mp known
    have plain := ensure_ok.mp plain
    refine .onward known plain ?_ (ih walked)
    cases rest with
    | nil => exact .inl rfl
    | cons next rest =>
      obtain ⟨lower, there, _⟩ := bind_ok.mp walked
      rcases disk.nested _ next lower (entry_ok.mp there) with inside | behind
      · exact .inr (Metadata.found.inj (known.symm.trans inside))
      · exact absurd (Metadata.found.inj (known.symm.trans behind)) plain

theorem validated_root {validated : List Name} (valid : validateCanonicalRoot disk root = .ok validated) :
    validated = root := by
  obtain ⟨_, _, valid⟩ := bind_ok.mp valid
  obtain ⟨_, _, valid⟩ := bind_ok.mp valid
  obtain ⟨_, _, valid⟩ := bind_ok.mp valid
  obtain ⟨canonical, _, valid⟩ := bind_ok.mp valid
  obtain ⟨_, same, valid⟩ := bind_ok.mp valid
  exact (pure_ok.mp valid).symm.trans (ensure_ok.mp same)

/-- The text a chosen file is recorded under resolves to the canonical path of that file. -/
theorem chosen_file_resolves (disk : Disk) (root chosen : List Name) (text : List Char)
    (told : vaultRelativeFile disk root chosen = .ok text) :
    ∃ canonical, disk.canonicalize chosen = some canonical ∧ root <+: canonical ∧
      resolveContainedPath disk root text = .ok canonical := by
  obtain ⟨_, valid, told⟩ := bind_ok.mp told
  cases validated_root valid
  obtain ⟨_, _, told⟩ := bind_ok.mp told
  obtain ⟨_, _, told⟩ := bind_ok.mp told
  obtain ⟨_, _, told⟩ := bind_ok.mp told
  obtain ⟨canonical, found, told⟩ := bind_ok.mp told
  obtain ⟨_, below, told⟩ := bind_ok.mp told
  obtain ⟨_, walked, told⟩ := bind_ok.mp told
  obtain ⟨_, some, told⟩ := bind_ok.mp told
  cases pure_ok.mp told
  have found := require_ok.mp found
  obtain ⟨names, rfl⟩ := ensure_ok.mp below
  simp only [List.drop_left] at walked some ⊢
  have spelled (name : Name) (member : name ∈ names) := disk.spelled _ _ found name (List.mem_append_right _ member)
  have split : (['/'].intercalate names).splitOn '/' = names :=
    List.splitOn_intercalate '/' (fun name member => (spelled name member).2.2.2) (ensure_ok.mp some)
  refine ⟨_, found, List.prefix_append _ _, ?_⟩
  rw [resolve_plain, split, descend_ok]
  · exact ⟨rfl, clear_unlinked walked⟩
  · rw [split]
    exact fun piece member => ⟨(spelled piece member).1, (spelled piece member).2.1, (spelled piece member).2.2.1⟩

end

/-- A Vault with one file in it. -/
def vault : Disk where
  symlinkMetadata
    | [] | [['V']] => .found .directory
    | [['V'], ['p']] => .found .file
    | _ => .notFound
  canonicalize path := if path = [['V']] ∨ path = [['V'], ['p']] then some path else none
  nested path name entry there := by
    split at there
    next same => simp at same
    next same =>
      cases path with
      | nil => exact .inl rfl
      | cons _ _ => simp at same
    next same =>
      obtain ⟨rfl, _⟩ := List.append_inj' (show path ++ [name] = [['V']] ++ [['p']] from same) rfl
      exact .inl rfl
    next => cases there
  spelled path canonical same := by
    split at same
    next shown =>
      cases same
      rcases shown with rfl | rfl <;> simp
    next => cases same

theorem chosen_plan_resolves : vaultRelativeFile vault [['V']] [['V'], ['p']] = .ok ['p'] ∧
    ∃ canonical, vault.canonicalize [['V'], ['p']] = some canonical ∧ [['V']] <+: canonical ∧
      resolveContainedPath vault [['V']] ['p'] = .ok canonical :=
  have told : vaultRelativeFile vault [['V']] [['V'], ['p']] = .ok ['p'] := by decide
  ⟨told, chosen_file_resolves vault _ _ _ told⟩

end MissionControl.VaultContainment
