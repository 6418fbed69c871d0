import Mathlib
import TurboCore.Base.Config

/-!
# What a failed load leaves behind

`LoadFromFile` writes the path before it knows the outcome, and the parser stores into
the live map as it goes. The entries that a document stores before its first exception
say when a failed load happens to change nothing.
-/

namespace TurboCore.Base

open Foundation

variable {doubles : DoubleLibrary}

/-! ## The entries before the first exception -/

/-- Entries in document order and the exception behind them, if there is one. -/
abbrev StoredUntil (doubles : DoubleLibrary) :=
  List (String × ConfigValue doubles) × Option YamlException

/-- One part of a document and then the next, which is reached only without an exception. -/
def StoredUntil.andThen (first rest : StoredUntil doubles) : StoredUntil doubles :=
  match first.2 with
  | none => (first.1 ++ rest.1, rest.2)
  | some error => (first.1, some error)

mutual

/-- The entries that a node yields before its first exception. -/
def storedUntil (doubles : DoubleLibrary) (keyPrefix : String) : YamlNode → StoredUntil doubles
  | .scalar (.ok scalarStr) => ([(scalarKey keyPrefix, parseScalar doubles scalarStr)], none)
  | .scalar (.error error) => ([], some error)
  | .map entries => entriesUntil doubles keyPrefix entries
  | .sequence items => itemsUntil doubles keyPrefix 0 items
  | .other => ([], none)
  | .invalid error => ([], some error)

def entriesUntil (doubles : DoubleLibrary) (keyPrefix : String) :
    List (Except YamlException String × YamlNode) → StoredUntil doubles
  | [] => ([], none)
  | (.error error, _) :: _ => ([], some error)
  | (.ok name, value) :: rest =>
      (storedUntil doubles (childKey keyPrefix name) value).andThen
        (entriesUntil doubles keyPrefix rest)

def itemsUntil (doubles : DoubleLibrary) (keyPrefix : String) (index : Nat) :
    List YamlNode → StoredUntil doubles
  | [] => ([], none)
  | item :: rest =>
      (storedUntil doubles (itemKey keyPrefix index) item).andThen
        (itemsUntil doubles keyPrefix (index + 1) rest)

end

/-- The map and the exception that a parse ends with, from any map. -/
def Stores (parse : Configs doubles → Parsed doubles) (stored : StoredUntil doubles) : Prop :=
  ∀ configs, parse configs = (configs.store stored.1, stored.2)

/-- One child after the other: the loops of the parser, exceptions included. -/
theorem Stores.andThen {first rest : Configs doubles → Parsed doubles}
    {storedFirst storedRest : StoredUntil doubles} (ofFirst : Stores first storedFirst)
    (ofRest : Stores rest storedRest) :
    Stores (fun configs => match first configs with
        | (configs, none) => rest configs
        | (configs, some error) => (configs, some error))
      (storedFirst.andThen storedRest) := by
  intro configs
  obtain ⟨entries, raised⟩ := storedFirst
  simp only [ofFirst configs]
  cases raised with
  | none =>
      simp only [StoredUntil.andThen, Configs.store_append]
      exact ofRest _
  | some error => rfl

mutual

/-- A parse that fails has stored what stands before the exception. -/
theorem parseYamlNode_stores (keyPrefix : String) :
    ∀ node, Stores (parseYamlNode keyPrefix node) (storedUntil doubles keyPrefix node)
  | .scalar (.ok _) => fun _ => rfl
  | .scalar (.error _) => fun _ => rfl
  | .map entries => parseYamlEntries_stores keyPrefix entries
  | .sequence items => parseYamlItems_stores keyPrefix 0 items
  | .other => fun _ => rfl
  | .invalid _ => fun _ => rfl

theorem parseYamlEntries_stores (keyPrefix : String) :
    ∀ entries, Stores (parseYamlEntries keyPrefix entries)
      (entriesUntil doubles keyPrefix entries)
  | [] => fun _ => rfl
  | (.error _, _) :: _ => fun _ => rfl
  | (.ok name, value) :: rest =>
      (parseYamlNode_stores (childKey keyPrefix name) value).andThen
        (parseYamlEntries_stores keyPrefix rest)

theorem parseYamlItems_stores (keyPrefix : String) (index : Nat) :
    ∀ items, Stores (parseYamlItems keyPrefix index items)
      (itemsUntil doubles keyPrefix index items)
  | [] => fun _ => rfl
  | item :: rest =>
      (parseYamlNode_stores (itemKey keyPrefix index) item).andThen
        (parseYamlItems_stores keyPrefix (index + 1) rest)

end

/-- Storing entries changes nothing exactly when each key's last entry is there already. -/
theorem Configs.store_same_iff (configs : Configs doubles)
    (entries : List (String × ConfigValue doubles)) :
    (∀ key, (configs.store entries).lookup key = configs.lookup key) ↔
      ∀ key value, entries.reverse.lookup key = some value →
        configs.lookup key = some value := by
  simp only [Configs.store, FiniteMap.lookup_foldl_insert]
  constructor
  · intro same key value last
    rw [← same key, last]
    rfl
  · intro present key
    cases last : entries.reverse.lookup key with
    | none => rfl
    | some value => exact (present key value last).symm

namespace Config

variable {Callback : Type}

/-- A load that returns false has left the entries and the path as they were. -/
def FailsAtomically (config : Config doubles Callback) (filePath : String) (file : LoadFile) :
    Prop :=
  (config.loadFromFile filePath file).2 = false →
    (∀ key, (config.loadFromFile filePath file).1.configs.lookup key =
      config.configs.lookup key) ∧
    (config.loadFromFile filePath file).1.configFilePath = config.configFilePath

/-- Nothing throws; or the path is the current one, and what the document stores before
its first exception is there already. -/
def NothingToUndo (config : Config doubles Callback) (filePath : String) : LoadFile → Prop
  | .throws _ | .undefined => filePath = config.configFilePath
  | .document root =>
      (storedUntil doubles "" root).2 = none ∨
        filePath = config.configFilePath ∧
          ∀ key value, (storedUntil doubles "" root).1.reverse.lookup key = some value →
            config.configs.lookup key = some value

/-- Loading a document, with or without an exception on the way. -/
theorem loadFromFile_document (config : Config doubles Callback) (filePath : String)
    (root : YamlNode) :
    config.loadFromFile filePath (.document root) =
      ({ config with
          configFilePath := filePath
          configs := config.configs.store (storedUntil doubles "" root).1 },
        (storedUntil doubles "" root).2.isNone) := by
  rw [loadFromFile, parseYamlNode_stores "" root]

/-- A missing file still replaces the path of the last good one. -/
theorem missing_file_replaces_path :
    ¬ ∀ (doubles : DoubleLibrary) (Callback : Type) (config : Config doubles Callback)
        (filePath : String) (file : LoadFile), config.FailsAtomically filePath file := by
  intro atomic
  obtain ⟨_, path⟩ := atomic ⟨Unit, fun _ => none, fun _ _ => false⟩ Unit
    ⟨∅, ∅, "good.yaml"⟩ "missing.yaml" (.throws ⟨"bad file: missing.yaml"⟩) rfl
  exact absurd path (by decide)

/-- A failed load changes nothing exactly when there was nothing to undo. -/
theorem failsAtomically_iff (config : Config doubles Callback) (filePath : String)
    (file : LoadFile) :
    config.FailsAtomically filePath file ↔ config.NothingToUndo filePath file := by
  cases file with
  | throws error => exact ⟨fun atomic => (atomic rfl).2, fun same _ => ⟨fun _ => rfl, same⟩⟩
  | undefined => exact ⟨fun atomic => (atomic rfl).2, fun same _ => ⟨fun _ => rfl, same⟩⟩
  | document root =>
      rw [FailsAtomically, loadFromFile_document, NothingToUndo, ← Configs.store_same_iff]
      cases raised : (storedUntil doubles "" root).2 with
      | none => simp
      | some error =>
          simp only [Option.isNone_some, forall_const, reduceCtorEq, false_or]
          exact And.comm

end Config

end TurboCore.Base
