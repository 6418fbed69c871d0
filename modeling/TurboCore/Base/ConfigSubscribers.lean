import Mathlib
import TurboCore.Foundation.Execution
import TurboCore.Base.ConfigReads

/-!
# Subscribers that keep what they read

A component reads a key with `Get`, keeps the value, and reads it again whenever the callback
it registered with `OnChange` is called. What it keeps is what `Get` would return, in every
run of registrations, reloads and loads, up to the first step that changes the answer
without a call: a double that moves by no more than the tolerance of `IsConfigChanged`, or a
`LoadFromFile`, which calls nobody.
-/

namespace TurboCore.Base

open Foundation

variable {doubles : DoubleLibrary}

/-- The arguments of a subscriber's `Get`, its key apart. -/
structure Reading (doubles : DoubleLibrary) where
  type : ConfigType
  defaultValue : type.Value doubles

def Reading.read {Callback : Type} (reading : Reading doubles) (config : Config doubles Callback)
    (key : String) : reading.type.Value doubles :=
  config.get reading.type key reading.defaultValue

abbrev SubscriberId := Nat

/-- The configuration, and what each subscriber keeps for each key. -/
structure SubscribedConfig (readings : SubscriberId → Reading doubles) where
  config : Config doubles SubscriberId
  kept : (who : SubscriberId) → String → (readings who).type.Value doubles

inductive ConfigEvent where
  /-- the subscriber registers for the key and reads it -/
  | onChange (key : String) (who : SubscriberId)
  | reload (file : LoadFile)
  | loadFromFile (filePath : String) (file : LoadFile)

namespace SubscribedConfig

variable {readings : SubscriberId → Reading doubles}

/-- A configuration without callbacks, and subscribers that have read nothing yet. -/
def start (configs : Configs doubles) (configFilePath : String) : SubscribedConfig readings where
  config := ⟨configs, ∅, configFilePath⟩
  kept who _ := (readings who).defaultValue

section Calls

variable (subscribed : SubscribedConfig readings)

/-- The subscribers in `calls` read their keys again. -/
def reread (config : Config doubles SubscriberId) (calls : List (SubscriberId × String)) :
    SubscribedConfig readings where
  config := config
  kept who key :=
    if (who, key) ∈ calls then (readings who).read config key else subscribed.kept who key

/-- One call; the callbacks run inside `Reload`, when the new entries are in place. -/
def step : ConfigEvent → SubscribedConfig readings
  | .onChange key who => subscribed.reread (subscribed.config.onChange key who) [(who, key)]
  | .reload file =>
      subscribed.reread (subscribed.config.reload file).config
        (subscribed.config.reload file).calls
  | .loadFromFile filePath file =>
      { subscribed with config := (subscribed.config.loadFromFile filePath file).1 }

end Calls

end SubscribedConfig

def configMachine (readings : SubscriberId → Reading doubles) :
    Machine (SubscribedConfig readings) ConfigEvent :=
  ⟨fun subscribed event => some (subscribed.step event)⟩

namespace SubscribedConfig

variable {readings : SubscriberId → Reading doubles} {subscribed : SubscribedConfig readings}

/-- Every subscriber keeps what it would read now. -/
def UpToDate (subscribed : SubscribedConfig readings) : Prop :=
  ∀ key, ∀ who ∈ subscribed.config.callbacksOf key,
    subscribed.kept who key = (readings who).read subscribed.config key

/-- A reload leaves each double that somebody reads, or moves it by more than the tolerance; a
load changes nothing that somebody reads. -/
def ChangesAnnounced (subscribed : SubscribedConfig readings) : ConfigEvent → Prop
  | .onChange _ _ => True
  | .reload file =>
      ∀ key, ∀ who ∈ subscribed.config.callbacksOf key, (readings who).type = .double →
        ∀ oldV newV, subscribed.config.configs.lookup key = some (.double oldV) →
          (subscribed.config.reload file).config.configs.lookup key = some (.double newV) →
          doubles.differ oldV newV = true ∨ oldV = newV
  | .loadFromFile filePath file =>
      ∀ key, ∀ who ∈ subscribed.config.callbacksOf key,
        (readings who).read (subscribed.config.loadFromFile filePath file).1 key =
          (readings who).read subscribed.config key

theorem mem_calls_iff {reloaded : Config.Reloaded doubles SubscriberId} {who : SubscriberId}
    {key : String} : (who, key) ∈ reloaded.calls ↔ who ∈ reloaded.calledFor key := by
  simp [Config.Reloaded.calledFor]

end SubscribedConfig

namespace Reading

variable {Callback : Type} {config other : Config doubles Callback} {key : String}

/-- A reading depends on the entry of its key alone. -/
theorem read_congr (reading : Reading doubles)
    (same : config.configs.lookup key = other.configs.lookup key) :
    reading.read config key = reading.read other key := by
  simp only [read, Config.get, same]

/-- Two doubles look alike to a reading of another type. -/
theorem read_eq_of_doubles (reading : Reading doubles) (notDouble : reading.type ≠ .double)
    (oldDouble : ∃ value, config.configs.lookup key = some (.double value))
    (newDouble : ∃ value, other.configs.lookup key = some (.double value)) :
    reading.read config key = reading.read other key := by
  obtain ⟨_, oldFound⟩ := oldDouble
  obtain ⟨_, newFound⟩ := newDouble
  obtain ⟨type, defaultValue⟩ := reading
  simp only [read, Config.get, oldFound, newFound]
  cases type <;> first | rfl | exact absurd rfl notDouble

/-- A reading as a double tells two doubles apart. -/
theorem read_double_iff (reading : Reading doubles) (isDouble : reading.type = .double)
    {oldV newV : doubles.Double} (oldFound : config.configs.lookup key = some (.double oldV))
    (newFound : other.configs.lookup key = some (.double newV)) :
    reading.read config key = reading.read other key ↔ oldV = newV := by
  obtain ⟨type, defaultValue⟩ := reading
  subst isDouble
  simp [read, Config.get, oldFound, newFound, ConfigValue.anyCast]

end Reading

namespace SubscribedConfig

variable {readings : SubscriberId → Reading doubles} {subscribed : SubscribedConfig readings}

/-- A reload changes no entry and calls nobody, or it calls the subscribers of the keys that
the test finds changed. -/
theorem reload_cases (config : Config doubles SubscriberId) (file : LoadFile) :
    (config.reload file).config.callbacks = config.callbacks ∧
      ((config.reload file).config.configs = config.configs ∧ (config.reload file).calls = [] ∨
        ∀ key, (config.reload file).calledFor key =
          if (config.reload file).config.isConfigChanged key config.configs then
            config.callbacksOf key
          else []) := by
  cases file with
  | throws error => exact ⟨rfl, .inl ⟨rfl, rfl⟩⟩
  | undefined => exact ⟨rfl, .inl ⟨rfl, rfl⟩⟩
  | document root =>
      cases flattened : flatten doubles "" root with
      | error error =>
          rw [config.reload_of_throw flattened]
          exact ⟨rfl, .inl ⟨rfl, rfl⟩⟩
      | ok entries =>
          rw [config.reload_of_entries flattened]
          exact ⟨rfl, .inr fun key => Config.calledFor_notify _ config.configs key⟩

/-- Whoever is not called reads the same again, unless it reads a double that moved a little. -/
theorem read_reload (subscribed : SubscribedConfig readings) (file : LoadFile) {key : String}
    {who : SubscriberId} (registered : who ∈ subscribed.config.callbacksOf key)
    (uncalled : (who, key) ∉ (subscribed.config.reload file).calls) :
    (readings who).read subscribed.config key =
        (readings who).read (subscribed.config.reload file).config key ∨
      (readings who).type = .double ∧
        ∃ oldV newV, subscribed.config.configs.lookup key = some (.double oldV) ∧
          (subscribed.config.reload file).config.configs.lookup key = some (.double newV) ∧
          doubles.differ oldV newV = false := by
  rcases (reload_cases subscribed.config file).2 with ⟨configs, _⟩ | called
  · exact .inl ((readings who).read_congr (by rw [configs]))
  have unchanged : (subscribed.config.reload file).config.isConfigChanged key
      subscribed.config.configs ≠ true := by
    intro changed
    refine uncalled (mem_calls_iff.mpr ?_)
    rw [called, if_pos changed]
    exact registered
  by_cases both : Config.BothDoubles (subscribed.config.configs.lookup key)
      ((subscribed.config.reload file).config.configs.lookup key)
  · obtain ⟨oldV, newV, oldFound, newFound⟩ : ∃ oldV newV,
        subscribed.config.configs.lookup key = some (.double oldV) ∧
          (subscribed.config.reload file).config.configs.lookup key = some (.double newV) := by
      unfold Config.BothDoubles at both
      split at both
      · next oldV newV oldFound newFound => exact ⟨oldV, newV, oldFound, newFound⟩
      · cases both
    by_cases isDouble : (readings who).type = .double
    · refine .inr ⟨isDouble, oldV, newV, oldFound, newFound, Bool.eq_false_of_not_eq_true ?_⟩
      simpa [Config.isConfigChanged, oldFound, newFound, ConfigValue.differs] using unchanged
    · exact .inl ((readings who).read_eq_of_doubles isDouble ⟨oldV, oldFound⟩ ⟨newV, newFound⟩)
  · refine .inl ((readings who).read_congr ?_)
    by_contra differ
    exact unchanged ((Config.isConfigChanged_iff _ both).mpr differ)

theorem callbacksOf_reload (config : Config doubles SubscriberId) (file : LoadFile)
    (key : String) : (config.reload file).config.callbacksOf key = config.callbacksOf key := by
  rw [Config.callbacksOf, (reload_cases config file).1]
  rfl

theorem callbacksOf_loadFromFile (config : Config doubles SubscriberId) (filePath : String)
    (file : LoadFile) (key : String) :
    (config.loadFromFile filePath file).1.callbacksOf key = config.callbacksOf key := by
  cases file <;> rfl

theorem callbacksOf_onChange (config : Config doubles SubscriberId) (changed key : String)
    (who : SubscriberId) :
    (config.onChange changed who).callbacksOf key =
      if key = changed then config.callbacksOf changed ++ [who] else config.callbacksOf key := by
  simp only [Config.callbacksOf, Config.onChange, FiniteMap.lookup_insert]
  split <;> rfl

namespace UpToDate

theorem start (configs : Configs doubles) (configFilePath : String) :
    UpToDate (.start configs configFilePath : SubscribedConfig readings) := by
  intro key who registered
  simp [SubscribedConfig.start, Config.callbacksOf] at registered

theorem step (upToDate : UpToDate subscribed) {event : ConfigEvent}
    (announced : subscribed.ChangesAnnounced event) : UpToDate (subscribed.step event) := by
  cases event with
  | onChange changed subscriber =>
      intro key who registered
      simp only [SubscribedConfig.step, reread]
      split
      · rfl
      · next other =>
          refine upToDate key who ?_
          have here : who ∈ (subscribed.config.onChange changed subscriber).callbacksOf key :=
            registered
          rw [callbacksOf_onChange] at here
          split at here
          · next same =>
              subst same
              rcases List.mem_append.mp here with before | last
              · exact before
              · exact absurd (by rw [List.mem_singleton.mp last]; exact List.mem_cons_self) other
          · exact here
  | reload file =>
      intro key who registered
      simp only [SubscribedConfig.step, reread]
      split
      · rfl
      · next uncalled =>
          have before : who ∈ subscribed.config.callbacksOf key :=
            callbacksOf_reload subscribed.config file key ▸ registered
          refine (upToDate key who before).trans ?_
          rcases subscribed.read_reload file before uncalled with same | drifted
          · exact same
          · obtain ⟨isDouble, oldV, newV, oldFound, newFound, silent⟩ := drifted
            refine ((readings who).read_double_iff isDouble oldFound newFound).mpr ?_
            refine (announced key who before isDouble oldV newV oldFound newFound).resolve_left ?_
            simp [silent]
  | loadFromFile filePath file =>
      intro key who registered
      have before : who ∈ subscribed.config.callbacksOf key :=
        callbacksOf_loadFromFile subscribed.config filePath file key ▸ registered
      exact (upToDate key who before).trans (announced key who before).symm

/-- Any other step leaves somebody with an old value. -/
theorem announced (upToDate : UpToDate subscribed) {event : ConfigEvent}
    (after : UpToDate (subscribed.step event)) : subscribed.ChangesAnnounced event := by
  cases event with
  | onChange => trivial
  | reload file =>
      intro key who registered isDouble oldV newV oldFound newFound
      by_contra quiet
      obtain ⟨silent, moved⟩ := not_or.mp quiet
      have uncalled : (who, key) ∉ (subscribed.config.reload file).calls := by
        intro called
        rcases (reload_cases subscribed.config file).2 with ⟨_, nobody⟩ | calls
        · rw [nobody] at called
          cases called
        · have unchanged : (subscribed.config.reload file).config.isConfigChanged key
              subscribed.config.configs = false := by
            simpa [Config.isConfigChanged, oldFound, newFound, ConfigValue.differs] using silent
          rw [mem_calls_iff, calls, unchanged] at called
          cases called
      have kept := after key who (callbacksOf_reload subscribed.config file key ▸ registered)
      simp only [SubscribedConfig.step, reread, if_neg uncalled] at kept
      exact moved <| ((readings who).read_double_iff isDouble oldFound newFound).mp <|
        (upToDate key who registered).symm.trans kept
  | loadFromFile filePath file =>
      intro key who registered
      have kept := after key who
        ((callbacksOf_loadFromFile subscribed.config filePath file key).symm ▸ registered)
      exact kept.symm.trans (upToDate key who registered)

end UpToDate

end SubscribedConfig

open SubscribedConfig in
/-- In every run of registrations, reloads and loads, whatever the files hold, every subscriber
keeps what `Get` would return for its key if and only if no reload moves a double that is read
by no more than the tolerance and no load changes what a subscriber reads. -/
theorem subscribers_up_to_date_iff (readings : SubscriberId → Reading doubles)
    (configs : Configs doubles) (configFilePath : String) (events : List ConfigEvent) :
    (configMachine readings).Throughout UpToDate (.start configs configFilePath) events ↔
      (configMachine readings).Guarded ChangesAnnounced (.start configs configFilePath)
        events := by
  refine Machine.throughout_iff_guarded (fun _ upToDate => upToDate) ?_ ?_
    (.start configs configFilePath) events
  · intro subscribed event next upToDate announced transition
    cases transition
    exact upToDate.step announced
  · intro subscribed event next upToDate transition after
    cases transition
    exact upToDate.announced after

end TurboCore.Base
