import Mathlib
import TurboCore.Base.ScalarTyping
import TurboCore.Foundation.Fallible
import TurboCore.Foundation.FiniteMap

/-!
# The configuration and its reload

`Config` keeps a flat map of entries and the callbacks registered for keys. A YAML
document is flattened into the live map; an exception of the YAML library can stop that
anywhere, and `Reload` then puts the old map back.
-/

namespace TurboCore.Base

open Foundation

/-- A `YAML::Exception`. -/
structure YamlException where
  what : String

/-- A `YAML::Node` as the parser sees it. Reading a scalar or a key as a string may throw,
and so may asking for the type of a node that is not valid. -/
inductive YamlNode where
  | scalar (text : Except YamlException String)
  | map (entries : List (Except YamlException String × YamlNode))
  | sequence (items : List YamlNode)
  /-- a null node: of none of the three types -/
  | other
  | invalid (error : YamlException)

/-- What `YAML::LoadFile` does: it throws for a missing file and a syntax error. -/
inductive LoadFile where
  | throws (error : YamlException)
  /-- `!root` -/
  | undefined
  | document (root : YamlNode)

variable {doubles : DoubleLibrary}

/-- `m_configs`. -/
abbrev Configs (doubles : DoubleLibrary) := FiniteMap String (ConfigValue doubles)

/-- The map after a parse, and the exception that ended it, if one did. -/
abbrev Parsed (doubles : DoubleLibrary) := Configs doubles × Option YamlException

/-- The key of an entry of a mapping under `keyPrefix`. -/
def childKey (keyPrefix name : String) : String :=
  if keyPrefix = "" then name else keyPrefix ++ "." ++ name

/-- The key of the `index`-th element of a sequence under `keyPrefix`. -/
def itemKey (keyPrefix : String) (index : Nat) : String := keyPrefix ++ "." ++ toString index

/-- The key of a scalar under `keyPrefix`. -/
def scalarKey (keyPrefix : String) : String := if keyPrefix = "" then "root" else keyPrefix

mutual

/-- `ParseYamlNode(prefix, node)`. -/
def parseYamlNode (keyPrefix : String) : YamlNode → Configs doubles → Parsed doubles
  | .scalar (.ok scalarStr), configs =>
      (configs.insert (scalarKey keyPrefix) (parseScalar doubles scalarStr), none)
  | .scalar (.error error), configs => (configs, some error)
  | .map entries, configs => parseYamlEntries keyPrefix entries configs
  | .sequence items, configs => parseYamlItems keyPrefix 0 items configs
  | .other, configs => (configs, none)
  | .invalid error, configs => (configs, some error)

/-- The loop over a mapping. -/
def parseYamlEntries (keyPrefix : String) :
    List (Except YamlException String × YamlNode) → Configs doubles → Parsed doubles
  | [], configs => (configs, none)
  | (.error error, _) :: _, configs => (configs, some error)
  | (.ok name, value) :: rest, configs =>
      match parseYamlNode (childKey keyPrefix name) value configs with
      | (configs, none) => parseYamlEntries keyPrefix rest configs
      | (configs, some error) => (configs, some error)

/-- The loop over a sequence, from `index` on. -/
def parseYamlItems (keyPrefix : String) (index : Nat) :
    List YamlNode → Configs doubles → Parsed doubles
  | [], configs => (configs, none)
  | item :: rest, configs =>
      match parseYamlNode (itemKey keyPrefix index) item configs with
      | (configs, none) => parseYamlItems keyPrefix (index + 1) rest configs
      | (configs, some error) => (configs, some error)

end

/-! ## The flattened document -/

mutual

/-- The entries of a node in document order, or the first exception on the way. -/
def flatten (doubles : DoubleLibrary) (keyPrefix : String) :
    YamlNode → Except YamlException (List (String × ConfigValue doubles))
  | .scalar text => do
      let scalarStr ← text
      return [(scalarKey keyPrefix, parseScalar doubles scalarStr)]
  | .map entries => flattenEntries doubles keyPrefix entries
  | .sequence items => flattenItems doubles keyPrefix 0 items
  | .other => return []
  | .invalid error => throw error

def flattenEntries (doubles : DoubleLibrary) (keyPrefix : String) :
    List (Except YamlException String × YamlNode) →
      Except YamlException (List (String × ConfigValue doubles))
  | [] => return []
  | (key, value) :: rest => do
      let name ← key
      let first ← flatten doubles (childKey keyPrefix name) value
      let others ← flattenEntries doubles keyPrefix rest
      return first ++ others

def flattenItems (doubles : DoubleLibrary) (keyPrefix : String) (index : Nat) :
    List YamlNode → Except YamlException (List (String × ConfigValue doubles))
  | [] => return []
  | item :: rest => do
      let first ← flatten doubles (itemKey keyPrefix index) item
      let others ← flattenItems doubles keyPrefix (index + 1) rest
      return first ++ others

end

/-- The map with a list of entries stored in order. -/
def Configs.store (configs : Configs doubles) (entries : List (String × ConfigValue doubles)) :
    Configs doubles :=
  entries.foldl (fun (built : Configs doubles) entry => built.insert entry.1 entry.2) configs

theorem Configs.store_append (configs : Configs doubles)
    (first second : List (String × ConfigValue doubles)) :
    configs.store (first ++ second) = (configs.store first).store second :=
  List.foldl_append

/-- A parse stores the entries of the document, or throws where flattening does. -/
structure Follows (parse : Configs doubles → Parsed doubles)
    (flattened : Except YamlException (List (String × ConfigValue doubles))) : Prop where
  stores : ∀ configs entries, flattened = .ok entries →
    parse configs = (configs.store entries, none)
  throws : ∀ configs error, flattened = .error error → (parse configs).2 = some error

namespace Follows

variable {first rest : Configs doubles → Parsed doubles}
  {firstEntries restEntries : Except YamlException (List (String × ConfigValue doubles))}

/-- Nothing to parse. -/
theorem done : Follows (fun configs : Configs doubles => (configs, none)) (.ok []) where
  stores _ _ same := by
    cases same
    rfl
  throws _ _ same := by cases same

theorem one (key : String) (value : ConfigValue doubles) :
    Follows (fun configs => (configs.insert key value, none)) (.ok [(key, value)]) where
  stores _ _ same := by
    cases same
    rfl
  throws _ _ same := by cases same

theorem thrown (error : YamlException) :
    Follows (fun configs : Configs doubles => (configs, some error)) (.error error) where
  stores _ _ same := by cases same
  throws _ _ same := by
    cases same
    rfl

/-- One child after the other: the loops of the parser. -/
theorem andThen (followsFirst : Follows first firstEntries)
    (followsRest : Follows rest restEntries) :
    Follows (fun configs => match first configs with
        | (configs, none) => rest configs
        | (configs, some error) => (configs, some error))
      (do
        let entries ← firstEntries
        let others ← restEntries
        return entries ++ others) where
  stores configs all same := by
    obtain ⟨entries, ofFirst, remaining⟩ := bind_eq_ok.mp same
    obtain ⟨others, ofRest, appended⟩ := bind_eq_ok.mp remaining
    rw [pure_eq_ok] at appended
    subst appended
    simp only [followsFirst.stores configs entries ofFirst]
    rw [followsRest.stores _ others ofRest, Configs.store_append]
  throws configs error same := by
    cases ofFirst : firstEntries with
    | error early =>
        rw [ofFirst] at same
        cases same
        have thrown := followsFirst.throws configs error ofFirst
        cases parsed : first configs with
        | mk after raised =>
            rw [parsed] at thrown
            simp only at thrown
            simp only [thrown]
    | ok entries =>
        simp only [followsFirst.stores configs entries ofFirst]
        apply followsRest.throws
        cases ofRest : restEntries with
        | error late =>
            rw [ofFirst, ofRest] at same
            cases same
            rfl
        | ok others =>
            rw [ofFirst, ofRest] at same
            cases same

end Follows

mutual

/-- Parsing follows flattening, through every nesting of mappings and sequences. -/
theorem parseYamlNode_follows (keyPrefix : String) :
    ∀ node, Follows (parseYamlNode keyPrefix node) (flatten doubles keyPrefix node)
  | .scalar (.ok _) => Follows.one _ _
  | .scalar (.error error) => Follows.thrown error
  | .map entries => parseYamlEntries_follows keyPrefix entries
  | .sequence items => parseYamlItems_follows keyPrefix 0 items
  | .other => Follows.done
  | .invalid error => Follows.thrown error

theorem parseYamlEntries_follows (keyPrefix : String) :
    ∀ entries, Follows (parseYamlEntries keyPrefix entries)
      (flattenEntries doubles keyPrefix entries)
  | [] => Follows.done
  | (.error error, _) :: _ => Follows.thrown error
  | (.ok name, value) :: rest =>
      (parseYamlNode_follows (childKey keyPrefix name) value).andThen
        (parseYamlEntries_follows keyPrefix rest)

theorem parseYamlItems_follows (keyPrefix : String) (index : Nat) :
    ∀ items, Follows (parseYamlItems keyPrefix index items)
      (flattenItems doubles keyPrefix index items)
  | [] => Follows.done
  | item :: rest =>
      (parseYamlNode_follows (itemKey keyPrefix index) item).andThen
        (parseYamlItems_follows keyPrefix (index + 1) rest)

end

/-! ## Reload -/

/-- `Config`; `Callback` is a `ConfigChangeCallback` by identity. -/
structure Config (doubles : DoubleLibrary) (Callback : Type) where
  configs : Configs doubles
  callbacks : FiniteMap String (List Callback)
  configFilePath : String

/-- The comparison of two entries in `IsConfigChanged`: type, then value. Every entry of
the map holds a value, so the tests of `has_value` never differ. -/
def ConfigValue.differs : ConfigValue doubles → ConfigValue doubles → Bool
  | .int oldV, .int newV => oldV ≠ newV
  | .double oldV, .double newV => doubles.differ oldV newV
  | .bool oldV, .bool newV => oldV ≠ newV
  | .string oldV, .string newV => oldV ≠ newV
  | _, _ => true

namespace Config

variable {Callback : Type}

/-- `LoadFromFile(file_path)`, given what `YAML::LoadFile` does with the path. -/
def loadFromFile (config : Config doubles Callback) (filePath : String) (file : LoadFile) :
    Config doubles Callback × Bool :=
  let config := { config with configFilePath := filePath }
  match file with
  | .throws _ | .undefined => (config, false)
  | .document root =>
      let parsed := parseYamlNode "" root config.configs
      ({ config with configs := parsed.1 }, parsed.2.isNone)

/-- `IsConfigChanged(key, old_configs)`. -/
def isConfigChanged (config : Config doubles Callback) (key : String)
    (oldConfigs : Configs doubles) : Bool :=
  let oldHas := (oldConfigs.lookup key).isSome
  let newHas := (config.configs.lookup key).isSome
  if oldHas ≠ newHas then true
  else
    match oldConfigs.lookup key, config.configs.lookup key with
    | some oldVal, some newVal => oldVal.differs newVal
    | _, _ => false

/-- `OnChange(key, callback)`. -/
def onChange (config : Config doubles Callback) (key : String) (callback : Callback) :
    Config doubles Callback :=
  { config with
    callbacks := config.callbacks.insert key
      ((config.callbacks.lookup key).getD [] ++ [callback]) }

/-- The calls of the last loop of `Reload`, each with its argument. -/
def notify (config : Config doubles Callback) (oldConfigs : Configs doubles) :
    List (Callback × String) :=
  config.callbacks.entries.flatMap fun entry =>
    if config.isConfigChanged entry.1 oldConfigs then entry.2.map fun cb => (cb, entry.1) else []

/-- What a `Reload` leaves: the configuration, the callbacks it called, its result. -/
structure Reloaded (doubles : DoubleLibrary) (Callback : Type) where
  config : Config doubles Callback
  calls : List (Callback × String)
  result : Bool

/-- `Reload()`. -/
def reload (config : Config doubles Callback) (file : LoadFile) : Reloaded doubles Callback :=
  let oldConfigs := config.configs
  let cleared := { config with configs := ∅ }
  let (loaded, ret) := cleared.loadFromFile config.configFilePath file
  if !ret then ⟨{ loaded with configs := oldConfigs }, [], false⟩
  else ⟨loaded, loaded.notify oldConfigs, true⟩

/-- The callbacks registered for a key, in the order of their registration. -/
def callbacksOf (config : Config doubles Callback) (key : String) : List Callback :=
  (config.callbacks.lookup key).getD []

/-- The callbacks called for a key, in the order of the calls. -/
def Reloaded.calledFor (reloaded : Reloaded doubles Callback) (key : String) : List Callback :=
  (reloaded.calls.filter (·.2 = key)).map Prod.fst

/-- Both entries are doubles. -/
def BothDoubles : Option (ConfigValue doubles) → Option (ConfigValue doubles) → Prop
  | some (.double _), some (.double _) => True
  | _, _ => False

/-- Doubles apart, the test finds a change exactly where presence, type or value differ. -/
theorem isConfigChanged_iff (config : Config doubles Callback) {key : String}
    {oldConfigs : Configs doubles}
    (notDoubles : ¬ BothDoubles (oldConfigs.lookup key) (config.configs.lookup key)) :
    config.isConfigChanged key oldConfigs = true ↔
      oldConfigs.lookup key ≠ config.configs.lookup key := by
  unfold isConfigChanged
  cases oldFound : oldConfigs.lookup key with
  | none => cases newFound : config.configs.lookup key <;> simp
  | some oldVal =>
      cases newFound : config.configs.lookup key with
      | none => simp
      | some newVal =>
          rw [oldFound, newFound] at notDoubles
          cases oldVal <;> cases newVal <;> simp_all [ConfigValue.differs, BothDoubles]

/-- The calls for a key are its callbacks, once each, if the test finds a change. -/
theorem calledFor_notify (config : Config doubles Callback) (oldConfigs : Configs doubles)
    (key : String) :
    ((config.notify oldConfigs).filter (·.2 = key)).map Prod.fst =
      if config.isConfigChanged key oldConfigs then config.callbacksOf key else [] := by
  have calls : (config.notify oldConfigs).filter (·.2 = key) = _ :=
    FiniteMap.filter_flatMap_entries config.callbacks
      (fun key callbacks => if config.isConfigChanged key oldConfigs then
        callbacks.map fun cb => (cb, key) else [])
      (by
        intro key callbacks call member
        split_ifs at member
        · obtain ⟨_, _, rfl⟩ := List.mem_map.mp member
          rfl
        · cases member) key
  rw [calls, callbacksOf]
  cases config.callbacks.lookup key with
  | none => simp
  | some callbacks =>
      simp only [Option.map_some, Option.getD_some]
      split_ifs
      · simp [Function.comp_def]
      · rfl

/-- What a successful reload has done. -/
structure Replaced (config : Config doubles Callback) (file : LoadFile)
    (reloaded : Reloaded doubles Callback) : Prop where
  /-- The entries are those of the flattened document, the last one of each key. -/
  entries : ∃ root entries, file = .document root ∧ flatten doubles "" root = .ok entries ∧
    ∀ key, reloaded.config.configs.lookup key = entries.reverse.lookup key
  /-- A key whose entry changed has had its callbacks called, once each. -/
  changed : ∀ key,
    ¬ BothDoubles (config.configs.lookup key) (reloaded.config.configs.lookup key) →
    config.configs.lookup key ≠ reloaded.config.configs.lookup key →
    reloaded.calledFor key = config.callbacksOf key
  /-- No callback of any other key was called. -/
  unchanged : ∀ key,
    ¬ BothDoubles (config.configs.lookup key) (reloaded.config.configs.lookup key) →
    config.configs.lookup key = reloaded.config.configs.lookup key → reloaded.calledFor key = []

/-- A reload of a document whose flattening throws puts the old map back. -/
theorem reload_of_throw (config : Config doubles Callback) {root : YamlNode}
    {error : YamlException} (flattened : flatten doubles "" root = .error error) :
    config.reload (.document root) = ⟨config, [], false⟩ := by
  have thrown := (parseYamlNode_follows "" root).throws ∅ error flattened
  simp only [reload, loadFromFile, thrown]
  rfl

/-- A reload of any other document stores its entries into an empty map. -/
theorem reload_of_entries (config : Config doubles Callback) {root : YamlNode}
    {entries : List (String × ConfigValue doubles)}
    (flattened : flatten doubles "" root = .ok entries) :
    config.reload (.document root) =
      { config := { config with configs := Configs.store ∅ entries }
        calls := Config.notify { config with configs := Configs.store ∅ entries } config.configs
        result := true } := by
  have stored := (parseYamlNode_follows "" root).stores ∅ entries flattened
  simp only [reload, loadFromFile, stored]
  rfl

/-- The last entry of a key is the one that stays. -/
theorem lookup_store_empty (entries : List (String × ConfigValue doubles)) (key : String) :
    (Configs.store ∅ entries).lookup key = entries.reverse.lookup key := by
  rw [Configs.store, FiniteMap.lookup_foldl_insert, AList.lookup_empty, Option.or_none]

/-- `Reload`, for every configuration, all its callbacks and every outcome of the file: if
it returns false nothing has changed and no callback ran, and if it returns true the
entries are replaced and the callbacks of the changed keys ran. It returns true for exactly
the documents that flatten without an exception. -/
theorem reload_all_or_nothing (config : Config doubles Callback) (file : LoadFile) :
    ((config.reload file).result = false →
      (config.reload file).config.configs = config.configs ∧ (config.reload file).calls = []) ∧
    ((config.reload file).result = true → config.Replaced file (config.reload file)) ∧
    ((config.reload file).result = true ↔
      ∃ root entries, file = .document root ∧ flatten doubles "" root = .ok entries) := by
  cases file with
  | throws _ | undefined =>
      refine ⟨fun _ => ⟨rfl, rfl⟩, fun returned => (by cases returned), ?_⟩
      constructor
      · intro returned
        cases returned
      · rintro ⟨_, _, same, _⟩
        cases same
  | document root =>
      cases flattened : flatten doubles "" root with
      | error error =>
          rw [config.reload_of_throw flattened]
          refine ⟨fun _ => ⟨rfl, rfl⟩, fun returned => (by cases returned), ?_⟩
          constructor
          · intro returned
            cases returned
          · rintro ⟨_, entries, same, succeeds⟩
            cases same
            rw [flattened] at succeeds
            cases succeeds
      | ok entries =>
          rw [config.reload_of_entries flattened]
          refine ⟨fun returned => (by cases returned), fun _ => ⟨?_, ?_, ?_⟩, ?_⟩
          · exact ⟨root, entries, rfl, flattened, lookup_store_empty entries⟩
          · intro key notDoubles differ
            rw [Reloaded.calledFor, calledFor_notify, if_pos]
            · rfl
            · exact (isConfigChanged_iff _ notDoubles).mpr differ
          · intro key notDoubles same
            rw [Reloaded.calledFor, calledFor_notify, if_neg]
            intro changed
            exact (isConfigChanged_iff _ notDoubles).mp changed same
          · exact ⟨fun _ => ⟨root, entries, rfl, flattened⟩, fun _ => rfl⟩

/-- The port in use, and a callback registered for it. -/
def servingPort : Config ⟨Unit, fun _ => none, fun _ _ => false⟩ Nat where
  configs := AList.insert "port" (.int 8080) ∅
  callbacks := AList.insert "port" [0] ∅
  configFilePath := "server.yaml"

/-- A file that moves the port to `text`. -/
def portFile (text : String) : LoadFile := .document (.map [(.ok "port", .scalar (.ok text))])

/-- A reload that moves the port returns true, replaces the entry and calls back. -/
theorem changed_port_reloads :
    (servingPort.reload (portFile "9090")).result = true ∧
      servingPort.Replaced (portFile "9090") (servingPort.reload (portFile "9090")) ∧
      (servingPort.reload (portFile "9090")).calls = [(0, "port")] := by
  have returned : (servingPort.reload (portFile "9090")).result = true := by decide +kernel
  exact ⟨returned, (reload_all_or_nothing servingPort (portFile "9090")).2.1 returned,
    by decide +kernel⟩

end Config

end TurboCore.Base
