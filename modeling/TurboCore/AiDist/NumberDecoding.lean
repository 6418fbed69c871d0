import Mathlib
import TurboCore.AiDist.Messages
import TurboCore.Foundation.Fallible

/-!
# What decoding does to numbers

`from_json` reads each field with `get<T>`, which converts any number by `static_cast`.
Decoding and encoding again is described by the struct's table of fields, and keeps the
numbers exactly when each is a value of its field's type.
-/

namespace TurboCore.AiDist

open Foundation Json

namespace Json

/-- The number a value holds; booleans and all else hold none. -/
def number? : Json → Option Rat
  | integer value => some value
  | float value => some value
  | _ => none

/-- The same value, numbers being compared by value. -/
def Agrees (stored given : Json) : Prop :=
  stored = given ∨ ∃ value, stored.number? = some value ∧ given.number? = some value

theorem Agrees.refl (value : Json) : value.Agrees value := .inl rfl

@[simp] theorem getString_eq_ok {json : Json} {value : String} :
    json.getString = .ok value ↔ json = .string value := by
  cases json <;> simp [getString]

@[simp] theorem getBool_eq_ok {json : Json} {value : Bool} :
    json.getBool = .ok value ↔ json = .boolean value := by
  cases json <;> simp [getBool]

@[simp] theorem getStrings_eq_ok {json : Json} {values : List String} :
    json.getStrings = .ok values ↔ json = ofStrings values := by
  cases json with
  | array elements =>
      rw [getStrings, mapM_eq_ok, ofStrings, Json.array.injEq]
      simp only [getString_eq_ok]
      rw [← List.forall₂_map_right_iff, List.forall₂_eq_eq_eq]
  | _ => simp [getStrings, ofStrings]

/-- An object built from fields with distinct keys holds exactly them. -/
theorem lookup_foldl_setField {fields : List (String × Json)}
    (distinct : (fields.map Prod.fst).Nodup) (built : List (String × Json)) (key : String) :
    (fields.foldl (fun built field => setField field.1 field.2 built) built).lookup key =
      (fields.lookup key).or (built.lookup key) := by
  induction fields generalizing built with
  | nil => rfl
  | cons field rest inductionHypothesis =>
      rw [List.map_cons, List.nodup_cons] at distinct
      rw [List.foldl_cons, inductionHypothesis distinct.2, lookup_setField, List.lookup_cons]
      by_cases same : key = field.1
      · subst same
        have absent : rest.lookup field.1 = none := by
          rw [List.lookup_eq_none_iff]
          intro other member
          simp only [bne_iff_ne, ne_eq]
          intro clash
          exact distinct.1 (clash ▸ List.mem_map_of_mem member)
        simp [absent]
      · have different : (key == field.1) = false := beq_false_of_ne same
        rw [if_neg same, different]

theorem atKey_ofFields {fields : List (String × Json)}
    (distinct : (fields.map Prod.fst).Nodup) {key : String} {value : Json} :
    (ofFields fields).atKey key = .ok value ↔ (key, value) ∈ fields := by
  have held : (ofFields fields).atKey key = .ok value ↔ fields.lookup key = some value := by
    rw [ofFields, atKey_object, lookup_foldl_setField distinct]
    cases fields.lookup key <;> simp
  rw [held]
  constructor
  · intro found
    obtain ⟨before, after, rfl, _⟩ := List.lookup_eq_some_iff.mp found
    simp
  · intro member
    obtain ⟨before, after, rfl⟩ := List.append_of_mem member
    refine List.lookup_eq_some_iff.mpr ⟨before, after, rfl, fun other early => ?_⟩
    rw [List.map_append, List.map_cons] at distinct
    have apart := (List.nodup_append.mp distinct).2.2 other.1 (List.mem_map_of_mem early) key
      List.mem_cons_self
    simpa [bne_iff_ne] using Ne.symm apart

end Json

/-! ## Fields -/

/-- The types of the structs' members, with the enumerations as `int`. -/
inductive FieldType where
  | int32 | uint64 | bool | string | strings
deriving DecidableEq

namespace FieldType

/-- Read a value with the type's `get` and store what was read. -/
def restore : FieldType → Json → Except JsonError Json
  | int32, given => ofInt32 <$> given.getInt32
  | uint64, given => ofUInt64 <$> given.getUInt64
  | bool, given => .boolean <$> given.getBool
  | string, given => .string <$> given.getString
  | strings, given => ofStrings <$> given.getStrings

/-- For an integer type, the value is a whole number of the type's range. -/
def Exact : FieldType → Json → Prop
  | int32, given => ∃ value : Int,
      given.number? = some (value : Rat) ∧ -2 ^ 31 ≤ value ∧ value < 2 ^ 31
  | uint64, given => ∃ value : Int,
      given.number? = some (value : Rat) ∧ 0 ≤ value ∧ value < 2 ^ 64
  | _, _ => True

end FieldType

namespace Json

theorem truncate_intCast (value : Int) : truncate (value : Rat) = value := by
  simp [truncate]

/-- A stored integer agrees with a value that holds the same number. -/
theorem agrees_integer_iff {stored : Int} {given : Json} :
    (integer stored).Agrees given ↔ given.number? = some (stored : Rat) := by
  constructor
  · rintro (rfl | ⟨value, same, held⟩)
    · rfl
    · rw [held, ← same]
      rfl
  · intro held
    exact .inr ⟨stored, rfl, held⟩

theorem getInt32_of_number {given : Json} {value : Int}
    (held : given.number? = some (value : Rat)) : given.getInt32 = .ok (Int32.ofInt value) := by
  cases given with
  | integer other =>
      have same : other = value := by simpa [number?] using held
      rw [same, getInt32]
  | float other =>
      have same : other = (value : Rat) := by simpa [number?] using held
      rw [same, getInt32, truncate_intCast]
  | _ => cases held

theorem getUInt64_of_number {given : Json} {value : Int}
    (held : given.number? = some (value : Rat)) :
    given.getUInt64 = .ok (UInt64.ofInt value) := by
  cases given with
  | integer other =>
      have same : other = value := by simpa [number?] using held
      rw [same, getUInt64]
  | float other =>
      have same : other = (value : Rat) := by simpa [number?] using held
      rw [same, getUInt64, truncate_intCast]
  | _ => cases held

end Json

/-- What a field's `get` stores agrees with what it read exactly on the type's own
values: a number out of range, a fraction or a boolean is stored as something else. -/
theorem FieldType.agrees_iff_exact {type : FieldType} {given stored : Json}
    (restored : type.restore given = .ok stored) : stored.Agrees given ↔ type.Exact given := by
  cases type with
  | int32 =>
      obtain ⟨value, read, rfl⟩ := map_eq_ok.mp restored
      rw [ofInt32, agrees_integer_iff]
      constructor
      · intro held
        exact ⟨value.toInt, held, value.le_toInt, value.toInt_lt⟩
      · rintro ⟨number, held, low, high⟩
        have same : value = Int32.ofInt number := by
          rw [getInt32_of_number held] at read
          exact (Except.ok.inj read).symm
        rw [held, same, Int32.toInt_ofInt_of_le low high]
  | uint64 =>
      obtain ⟨value, read, rfl⟩ := map_eq_ok.mp restored
      rw [ofUInt64, agrees_integer_iff]
      constructor
      · intro held
        exact ⟨value.toNat, held, by omega, by have := value.toNat_lt; omega⟩
      · rintro ⟨number, held, low, high⟩
        have same : value = UInt64.ofInt number := by
          rw [getUInt64_of_number held] at read
          exact (Except.ok.inj read).symm
        have back : (value.toNat : Int) = number := by
          rw [same, UInt64.ofInt, UInt64.toNat_ofNat']
          omega
        rw [held, back]
  | bool =>
      obtain ⟨value, read, rfl⟩ := map_eq_ok.mp restored
      rw [getBool_eq_ok.mp read]
      exact ⟨fun _ => trivial, fun _ => .refl _⟩
  | string =>
      obtain ⟨value, read, rfl⟩ := map_eq_ok.mp restored
      rw [getString_eq_ok.mp read]
      exact ⟨fun _ => trivial, fun _ => .refl _⟩
  | strings =>
      obtain ⟨value, read, rfl⟩ := map_eq_ok.mp restored
      rw [getStrings_eq_ok.mp read]
      exact ⟨fun _ => trivial, fun _ => .refl _⟩

/-! ## Structs -/

/-- A struct's members in the order in which `from_json` reads them. -/
abbrev FieldTable := List (String × FieldType)

namespace FieldTable

/-- Read one member and store it again. -/
def restoreField (given : Json) (field : String × FieldType) :
    Except JsonError (String × Json) := do
  let value ← given.atKey field.1
  let stored ← field.2.restore value
  return (field.1, stored)

/-- Read the members of a table and store them again. -/
def restore (table : FieldTable) (given : Json) : Except JsonError (List (String × Json)) :=
  table.mapM (restoreField given)

theorem restoreField_eq_ok {given : Json} {field : String × FieldType}
    {entry : String × Json} :
    restoreField given field = .ok entry ↔ ∃ value, given.atKey field.1 = .ok value ∧
      field.2.restore value = .ok entry.2 ∧ entry.1 = field.1 := by
  unfold restoreField
  rw [bind_eq_ok]
  constructor
  · rintro ⟨value, found, restored⟩
    obtain ⟨stored, read, result⟩ := bind_eq_ok.mp restored
    rw [pure_eq_ok] at result
    subst result
    exact ⟨value, found, read, rfl⟩
  · rintro ⟨value, found, read, same⟩
    exact ⟨value, found, bind_eq_ok.mpr ⟨entry.2, read, by rw [← same]; rfl⟩⟩

/-- The stored members are those of the table, under its keys. -/
theorem map_restore {table : FieldTable} {given : Json} {stored : List (String × Json)}
    (restored : table.restore given = .ok stored) : stored.map Prod.fst = table.map Prod.fst := by
  have all := mapM_eq_ok.mp restored
  induction all with
  | nil => rfl
  | cons read _ inductionHypothesis =>
      obtain ⟨_, _, _, same⟩ := restoreField_eq_ok.mp read
      rw [List.map_cons, List.map_cons, same, inductionHypothesis ?_]
      exact mapM_eq_ok.mpr ‹_›

end FieldTable

/-- The structs of the protocol. -/
inductive ProtocolStruct where
  | basePacket
  | message (kind : MessageKind)
deriving DecidableEq

namespace MessageKind

/-- The members of the ten message structs. -/
def fields : MessageKind → FieldTable
  | workerRegisterReq => [("node_addr", .string), ("support_models", .strings),
      ("total_memory_mb", .int32), ("weight", .int32)]
  | workerRegisterResp => [("success", .bool), ("node_id", .string), ("message", .string)]
  | heartbeat => [("node_id", .string), ("available_memory_mb", .int32),
      ("online_models", .strings)]
  | submitTaskReq => [("model_name", .string), ("slice_size", .int32),
      ("input_file_url", .string)]
  | submitTaskResp => [("success", .bool), ("task_id", .string), ("message", .string)]
  | taskDispatch => [("task_id", .string), ("slice_id", .int32), ("model_name", .string),
      ("inputs", .strings), ("scheduler_ip", .string), ("scheduler_port", .int32)]
  | taskResultReport => [("task_id", .string), ("slice_id", .int32), ("success", .bool),
      ("message", .string), ("cost_ms", .int32), ("outputs", .strings),
      ("scheduler_ip", .string), ("scheduler_port", .int32)]
  | taskQueryReq => [("task_id", .string)]
  | taskQueryResp => [("exists", .bool), ("status", .int32), ("total_slices", .int32),
      ("finished_slices", .int32), ("progress_percent", .int32), ("result_file_url", .string),
      ("message", .string)]
  | workerRemoveReq => [("node_id", .string)]

end MessageKind

namespace ProtocolStruct

def Value : ProtocolStruct → Type
  | basePacket => BasePacket
  | message kind => kind.Value

def toJson : (struct : ProtocolStruct) → struct.Value → Json
  | basePacket => BasePacket.toJson
  | message kind => kind.toJson

def fromJson : (struct : ProtocolStruct) → Json → Except JsonError struct.Value
  | basePacket => BasePacket.fromJson
  | message kind => kind.fromJson

def fields : ProtocolStruct → FieldTable
  | basePacket => [("seq", .uint64), ("type", .int32), ("sender_id", .string)]
  | message kind => kind.fields

theorem distinct_fields (struct : ProtocolStruct) : (struct.fields.map Prod.fst).Nodup := by
  cases struct with
  | basePacket => decide
  | message kind => cases kind <;> decide

end ProtocolStruct

@[simp] theorem PacketType.toInt_ofInt (code : Int32) : (PacketType.ofInt code).toInt = code := by
  unfold ofInt
  split_ifs with named <;> simp_all [toInt]

@[simp] theorem TaskStatus.toInt_ofInt (code : Int32) : (TaskStatus.ofInt code).toInt = code := by
  unfold ofInt
  split_ifs with named <;> simp_all [toInt]

/-- Decoding and encoding again reads the members of the table, in its order. -/
theorem ProtocolStruct.recode (struct : ProtocolStruct) (given : Json) :
    struct.toJson <$> struct.fromJson given = ofFields <$> struct.fields.restore given := by
  cases struct with
  | basePacket =>
      simp only [Value, fromJson, toJson, fields, BasePacket.fromJson, BasePacket.toJson,
        FieldTable.restore, FieldTable.restoreField, FieldType.restore, List.mapM_cons,
        List.mapM_nil, map_eq_pure_bind, bind_assoc, pure_bind, PacketType.toInt_ofInt]
  | message kind =>
      cases kind <;>
        simp only [Value, MessageKind.Value, fromJson, toJson, fields, MessageKind.fromJson,
          MessageKind.toJson, MessageKind.fields, WorkerRegisterReq.fromJson,
          WorkerRegisterReq.toJson,
          WorkerRegisterResp.fromJson, WorkerRegisterResp.toJson, Heartbeat.fromJson,
          Heartbeat.toJson, SubmitTaskReq.fromJson, SubmitTaskReq.toJson,
          SubmitTaskResp.fromJson, SubmitTaskResp.toJson, TaskDispatch.fromJson,
          TaskDispatch.toJson, TaskResultReport.fromJson, TaskResultReport.toJson,
          TaskQueryReq.fromJson, TaskQueryReq.toJson, TaskQueryResp.fromJson,
          TaskQueryResp.toJson, WorkerRemoveReq.fromJson, WorkerRemoveReq.toJson,
          FieldTable.restore, FieldTable.restoreField, FieldType.restore, List.mapM_cons,
          List.mapM_nil, map_eq_pure_bind, bind_assoc, pure_bind, TaskStatus.toInt_ofInt]

/-! ## Numbers -/

namespace ProtocolStruct

/-- The encoding of a decoded value agrees with what was decoded, on the struct's keys. -/
def KeepsValues (struct : ProtocolStruct) (given : Json) (value : struct.Value) : Prop :=
  ∀ key stored, (struct.toJson value).atKey key = .ok stored →
    ∃ read, given.atKey key = .ok read ∧ stored.Agrees read

/-- What the integer keys of the struct hold are whole numbers in range. -/
def NumbersFit (struct : ProtocolStruct) (given : Json) : Prop :=
  ∀ key type read, (key, type) ∈ struct.fields → given.atKey key = .ok read →
    type.Exact read

end ProtocolStruct

/-- For every struct and every value that its `from_json` accepts: the decoded struct
agrees with it exactly when its numbers fit their fields. -/
theorem decoded_agrees_iff_numbers_fit (struct : ProtocolStruct) {given : Json}
    {value : struct.Value} (decoded : struct.fromJson given = .ok value) :
    struct.KeepsValues given value ↔ struct.NumbersFit given := by
  have recoded := struct.recode given
  rw [decoded] at recoded
  obtain ⟨stored, restored, encoded⟩ := map_eq_ok.mp recoded.symm
  have distinct : (stored.map Prod.fst).Nodup := by
    rw [FieldTable.map_restore restored]
    exact struct.distinct_fields
  have keys : ∀ {key json},
      (struct.toJson value).atKey key = .ok json ↔ (key, json) ∈ stored := by
    intro key json
    rw [← encoded]
    exact atKey_ofFields distinct
  constructor
  · intro keeps key type read field found
    obtain ⟨⟨_, json⟩, entry, readField⟩ := exists_result_of_mapM restored field
    obtain ⟨other, foundOther, restoredHere, rfl⟩ := FieldTable.restoreField_eq_ok.mp readField
    rw [found] at foundOther
    cases foundOther
    obtain ⟨agreed, foundAgreed, agrees⟩ := keeps _ json (keys.mpr entry)
    rw [found] at foundAgreed
    cases foundAgreed
    exact (FieldType.agrees_iff_exact restoredHere).mp agrees
  · intro fits key json atKey
    obtain ⟨⟨_, type⟩, field, readField⟩ := exists_input_of_mapM restored (keys.mp atKey)
    obtain ⟨read, found, restoredHere, same⟩ := FieldTable.restoreField_eq_ok.mp readField
    simp only at found restoredHere same
    subst same
    have exact := fits _ type read field found
    exact ⟨read, found, (FieldType.agrees_iff_exact restoredHere).mpr exact⟩

/-- A heartbeat that offers `2 ^ 32 + 5` megabytes. -/
def wideHeartbeat : Json :=
  .object [("available_memory_mb", .integer 4294967301), ("node_id", .string "w1"),
    ("online_models", .array [])]

/-- It is accepted, and stored as one that offers 5 megabytes. -/
theorem wide_number_decoded_as_other :
    ¬ ∀ (struct : ProtocolStruct) (given : Json) (value : struct.Value),
      struct.fromJson given = .ok value → struct.KeepsValues given value := by
  intro always
  have keeps := always (.message .heartbeat) wideHeartbeat (⟨"w1", 5, []⟩ : Heartbeat) rfl
  obtain ⟨read, found, agrees⟩ := keeps "available_memory_mb" (.integer 5) rfl
  have held : read = .integer 4294967301 := (Except.ok.inj found).symm
  rw [held, agrees_integer_iff] at agrees
  simp [number?] at agrees

/-- A registration within the ranges. -/
def smallRegistration : Json :=
  .object [("node_addr", .string "10.0.0.7:9000"), ("support_models", .array []),
    ("total_memory_mb", .integer 24576), ("weight", .float 1)]

/-- It is decoded without a change, the float `1.0` being the number 1. -/
theorem small_registration_kept :
    (ProtocolStruct.message .workerRegisterReq).KeepsValues smallRegistration
      (⟨"10.0.0.7:9000", [], 24576, 1⟩ : WorkerRegisterReq) := by
  refine (decoded_agrees_iff_numbers_fit (.message .workerRegisterReq) ?_).mpr ?_
  · rfl
  · intro key type read field found
    simp only [ProtocolStruct.fields, MessageKind.fields, List.mem_cons, Prod.mk.injEq,
      List.not_mem_nil, or_false] at field
    rcases field with ⟨rfl, rfl⟩ | ⟨rfl, rfl⟩ | ⟨rfl, rfl⟩ | ⟨rfl, rfl⟩
    · trivial
    · trivial
    · cases found
      exact ⟨24576, rfl, by decide, by decide⟩
    · cases found
      exact ⟨1, by simp [number?], by decide, by decide⟩

end TurboCore.AiDist
