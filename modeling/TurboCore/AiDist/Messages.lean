import Mathlib
import TurboCore.AiDist.Json

/-!
# The protocol's message structs

`BasePacket` and the ten message structs with their JSON conversions. Decoding
fails with the first missing key or wrongly typed value, in the order in which
the source reads the fields.
-/

namespace TurboCore.AiDist

open Json

/-- `enum class PacketType`. A value outside the enumerators is what
`static_cast<PacketType>` makes of any other `int`. -/
inductive PacketType where
  | registerWorker
  | registerResp
  | heartbeat
  | submitTask
  | taskDispatch
  | taskResultReport
  | taskQuery
  | workerRemove
  | unnamed (code : Int32) (outside : code ∉ ([0, 1, 2, 3, 4, 5, 6, 7] : List Int32))
deriving DecidableEq

namespace PacketType

/-- `(int)type`. -/
def toInt : PacketType → Int32
  | registerWorker => 0
  | registerResp => 1
  | heartbeat => 2
  | submitTask => 3
  | taskDispatch => 4
  | taskResultReport => 5
  | taskQuery => 6
  | workerRemove => 7
  | unnamed code _ => code

/-- `static_cast<PacketType>(code)`. -/
def ofInt (code : Int32) : PacketType :=
  if named : code ∈ ([0, 1, 2, 3, 4, 5, 6, 7] : List Int32) then
    if code = 0 then registerWorker
    else if code = 1 then registerResp
    else if code = 2 then heartbeat
    else if code = 3 then submitTask
    else if code = 4 then taskDispatch
    else if code = 5 then taskResultReport
    else if code = 6 then taskQuery
    else workerRemove
  else unnamed code named

@[simp] theorem ofInt_toInt (type : PacketType) : ofInt type.toInt = type := by
  cases type with
  | unnamed code outside => rw [toInt, ofInt, dif_neg outside]
  | _ => rfl

end PacketType

/-- `enum class TaskStatus`. -/
inductive TaskStatus where
  | queuing
  | dispatching
  | running
  | finished
  | failed
  | unnamed (code : Int32) (outside : code ∉ ([0, 1, 2, 3, 4] : List Int32))
deriving DecidableEq

namespace TaskStatus

/-- `(int)status`. -/
def toInt : TaskStatus → Int32
  | queuing => 0
  | dispatching => 1
  | running => 2
  | finished => 3
  | failed => 4
  | unnamed code _ => code

/-- `static_cast<TaskStatus>(code)`. -/
def ofInt (code : Int32) : TaskStatus :=
  if named : code ∈ ([0, 1, 2, 3, 4] : List Int32) then
    if code = 0 then queuing
    else if code = 1 then dispatching
    else if code = 2 then running
    else if code = 3 then finished
    else failed
  else unnamed code named

@[simp] theorem ofInt_toInt (status : TaskStatus) : ofInt status.toInt = status := by
  cases status with
  | unnamed code outside => rw [toInt, ofInt, dif_neg outside]
  | _ => rfl

end TaskStatus

/-- The fields every packet carries. -/
structure BasePacket where
  seq : UInt64
  type : PacketType
  senderId : String
deriving DecidableEq

def BasePacket.toJson (packet : BasePacket) : Json :=
  ofFields [("seq", ofUInt64 packet.seq), ("type", ofInt32 packet.type.toInt),
    ("sender_id", .string packet.senderId)]

def BasePacket.fromJson (j : Json) : Except JsonError BasePacket := do
  let seq ← (← j.atKey "seq").getUInt64
  let type ← (← j.atKey "type").getInt32
  let senderId ← (← j.atKey "sender_id").getString
  return { seq, type := PacketType.ofInt type, senderId }

@[simp] theorem BasePacket.fromJson_toJson (packet : BasePacket) :
    BasePacket.fromJson packet.toJson = .ok packet := by
  simp [BasePacket.fromJson, BasePacket.toJson, ofFields, pure, Except.pure]

/-- 1. Registration request of a worker. -/
structure WorkerRegisterReq where
  nodeAddr : String
  supportModels : List String
  totalMemoryMb : Int32
  weight : Int32
deriving DecidableEq

def WorkerRegisterReq.toJson (req : WorkerRegisterReq) : Json :=
  ofFields [("node_addr", .string req.nodeAddr), ("support_models", ofStrings req.supportModels),
    ("total_memory_mb", ofInt32 req.totalMemoryMb), ("weight", ofInt32 req.weight)]

def WorkerRegisterReq.fromJson (j : Json) : Except JsonError WorkerRegisterReq := do
  let nodeAddr ← (← j.atKey "node_addr").getString
  let supportModels ← (← j.atKey "support_models").getStrings
  let totalMemoryMb ← (← j.atKey "total_memory_mb").getInt32
  let weight ← (← j.atKey "weight").getInt32
  return { nodeAddr, supportModels, totalMemoryMb, weight }

@[simp] theorem WorkerRegisterReq.fromJson_toJson (req : WorkerRegisterReq) :
    WorkerRegisterReq.fromJson req.toJson = .ok req := by
  simp [WorkerRegisterReq.fromJson, WorkerRegisterReq.toJson, ofFields, pure, Except.pure]

/-- 2. Registration response with the assigned node id. -/
structure WorkerRegisterResp where
  success : Bool
  nodeId : String
  message : String
deriving DecidableEq

def WorkerRegisterResp.toJson (resp : WorkerRegisterResp) : Json :=
  ofFields [("success", .boolean resp.success), ("node_id", .string resp.nodeId),
    ("message", .string resp.message)]

def WorkerRegisterResp.fromJson (j : Json) : Except JsonError WorkerRegisterResp := do
  let success ← (← j.atKey "success").getBool
  let nodeId ← (← j.atKey "node_id").getString
  let message ← (← j.atKey "message").getString
  return { success, nodeId, message }

@[simp] theorem WorkerRegisterResp.fromJson_toJson (resp : WorkerRegisterResp) :
    WorkerRegisterResp.fromJson resp.toJson = .ok resp := by
  simp [WorkerRegisterResp.fromJson, WorkerRegisterResp.toJson, ofFields, pure, Except.pure]

/-- 3. Heartbeat of a worker. -/
structure Heartbeat where
  nodeId : String
  availableMemoryMb : Int32
  onlineModels : List String
deriving DecidableEq

def Heartbeat.toJson (hb : Heartbeat) : Json :=
  ofFields [("node_id", .string hb.nodeId), ("available_memory_mb", ofInt32 hb.availableMemoryMb),
    ("online_models", ofStrings hb.onlineModels)]

def Heartbeat.fromJson (j : Json) : Except JsonError Heartbeat := do
  let nodeId ← (← j.atKey "node_id").getString
  let availableMemoryMb ← (← j.atKey "available_memory_mb").getInt32
  let onlineModels ← (← j.atKey "online_models").getStrings
  return { nodeId, availableMemoryMb, onlineModels }

@[simp] theorem Heartbeat.fromJson_toJson (hb : Heartbeat) :
    Heartbeat.fromJson hb.toJson = .ok hb := by
  simp [Heartbeat.fromJson, Heartbeat.toJson, ofFields, pure, Except.pure]

/-- 4. Task submission of a user. -/
structure SubmitTaskReq where
  modelName : String
  sliceSize : Int32
  inputFileUrl : String
deriving DecidableEq

def SubmitTaskReq.toJson (req : SubmitTaskReq) : Json :=
  ofFields [("model_name", .string req.modelName), ("slice_size", ofInt32 req.sliceSize),
    ("input_file_url", .string req.inputFileUrl)]

def SubmitTaskReq.fromJson (j : Json) : Except JsonError SubmitTaskReq := do
  let modelName ← (← j.atKey "model_name").getString
  let sliceSize ← (← j.atKey "slice_size").getInt32
  let inputFileUrl ← (← j.atKey "input_file_url").getString
  return { modelName, sliceSize, inputFileUrl }

@[simp] theorem SubmitTaskReq.fromJson_toJson (req : SubmitTaskReq) :
    SubmitTaskReq.fromJson req.toJson = .ok req := by
  simp [SubmitTaskReq.fromJson, SubmitTaskReq.toJson, ofFields, pure, Except.pure]

/-- 5. Response to a task submission. -/
structure SubmitTaskResp where
  success : Bool
  taskId : String
  message : String
deriving DecidableEq

def SubmitTaskResp.toJson (resp : SubmitTaskResp) : Json :=
  ofFields [("success", .boolean resp.success), ("task_id", .string resp.taskId),
    ("message", .string resp.message)]

def SubmitTaskResp.fromJson (j : Json) : Except JsonError SubmitTaskResp := do
  let success ← (← j.atKey "success").getBool
  let taskId ← (← j.atKey "task_id").getString
  let message ← (← j.atKey "message").getString
  return { success, taskId, message }

@[simp] theorem SubmitTaskResp.fromJson_toJson (resp : SubmitTaskResp) :
    SubmitTaskResp.fromJson resp.toJson = .ok resp := by
  simp [SubmitTaskResp.fromJson, SubmitTaskResp.toJson, ofFields, pure, Except.pure]

/-- 6. A slice sent to a worker. -/
structure TaskDispatch where
  taskId : String
  sliceId : Int32
  modelName : String
  inputs : List String
  schedulerIp : String
  schedulerPort : Int32
deriving DecidableEq

def TaskDispatch.toJson (dispatch : TaskDispatch) : Json :=
  ofFields [("task_id", .string dispatch.taskId), ("slice_id", ofInt32 dispatch.sliceId),
    ("model_name", .string dispatch.modelName), ("inputs", ofStrings dispatch.inputs),
    ("scheduler_ip", .string dispatch.schedulerIp),
    ("scheduler_port", ofInt32 dispatch.schedulerPort)]

def TaskDispatch.fromJson (j : Json) : Except JsonError TaskDispatch := do
  let taskId ← (← j.atKey "task_id").getString
  let sliceId ← (← j.atKey "slice_id").getInt32
  let modelName ← (← j.atKey "model_name").getString
  let inputs ← (← j.atKey "inputs").getStrings
  let schedulerIp ← (← j.atKey "scheduler_ip").getString
  let schedulerPort ← (← j.atKey "scheduler_port").getInt32
  return { taskId, sliceId, modelName, inputs, schedulerIp, schedulerPort }

@[simp] theorem TaskDispatch.fromJson_toJson (dispatch : TaskDispatch) :
    TaskDispatch.fromJson dispatch.toJson = .ok dispatch := by
  simp [TaskDispatch.fromJson, TaskDispatch.toJson, ofFields, pure, Except.pure]

/-- 7. A slice's result reported by a worker. -/
structure TaskResultReport where
  taskId : String
  sliceId : Int32
  success : Bool
  message : String
  costMs : Int32
  outputs : List String
  schedulerIp : String
  schedulerPort : Int32
deriving DecidableEq

def TaskResultReport.toJson (report : TaskResultReport) : Json :=
  ofFields [("task_id", .string report.taskId), ("slice_id", ofInt32 report.sliceId),
    ("success", .boolean report.success), ("message", .string report.message),
    ("cost_ms", ofInt32 report.costMs), ("outputs", ofStrings report.outputs),
    ("scheduler_ip", .string report.schedulerIp),
    ("scheduler_port", ofInt32 report.schedulerPort)]

def TaskResultReport.fromJson (j : Json) : Except JsonError TaskResultReport := do
  let taskId ← (← j.atKey "task_id").getString
  let sliceId ← (← j.atKey "slice_id").getInt32
  let success ← (← j.atKey "success").getBool
  let message ← (← j.atKey "message").getString
  let costMs ← (← j.atKey "cost_ms").getInt32
  let outputs ← (← j.atKey "outputs").getStrings
  let schedulerIp ← (← j.atKey "scheduler_ip").getString
  let schedulerPort ← (← j.atKey "scheduler_port").getInt32
  return { taskId, sliceId, success, message, costMs, outputs, schedulerIp, schedulerPort }

@[simp] theorem TaskResultReport.fromJson_toJson (report : TaskResultReport) :
    TaskResultReport.fromJson report.toJson = .ok report := by
  simp [TaskResultReport.fromJson, TaskResultReport.toJson, ofFields, pure, Except.pure]

/-- 8. Query; the registry reads the model name out of `taskId`. -/
structure TaskQueryReq where
  taskId : String
deriving DecidableEq

def TaskQueryReq.toJson (req : TaskQueryReq) : Json :=
  ofFields [("task_id", .string req.taskId)]

def TaskQueryReq.fromJson (j : Json) : Except JsonError TaskQueryReq := do
  let taskId ← (← j.atKey "task_id").getString
  return { taskId }

@[simp] theorem TaskQueryReq.fromJson_toJson (req : TaskQueryReq) :
    TaskQueryReq.fromJson req.toJson = .ok req := by
  simp [TaskQueryReq.fromJson, TaskQueryReq.toJson, ofFields, pure, Except.pure]

/-- 9. Progress of a task; `taskExists` is the source's `exists`. -/
structure TaskQueryResp where
  taskExists : Bool
  status : TaskStatus
  totalSlices : Int32
  finishedSlices : Int32
  progressPercent : Int32
  resultFileUrl : String
  message : String
deriving DecidableEq

def TaskQueryResp.toJson (resp : TaskQueryResp) : Json :=
  ofFields [("exists", .boolean resp.taskExists), ("status", ofInt32 resp.status.toInt),
    ("total_slices", ofInt32 resp.totalSlices), ("finished_slices", ofInt32 resp.finishedSlices),
    ("progress_percent", ofInt32 resp.progressPercent),
    ("result_file_url", .string resp.resultFileUrl), ("message", .string resp.message)]

def TaskQueryResp.fromJson (j : Json) : Except JsonError TaskQueryResp := do
  let taskExists ← (← j.atKey "exists").getBool
  let status ← (← j.atKey "status").getInt32
  let totalSlices ← (← j.atKey "total_slices").getInt32
  let finishedSlices ← (← j.atKey "finished_slices").getInt32
  let progressPercent ← (← j.atKey "progress_percent").getInt32
  let resultFileUrl ← (← j.atKey "result_file_url").getString
  let message ← (← j.atKey "message").getString
  return {
    taskExists, status := TaskStatus.ofInt status, totalSlices, finishedSlices, progressPercent
    resultFileUrl, message }

@[simp] theorem TaskQueryResp.fromJson_toJson (resp : TaskQueryResp) :
    TaskQueryResp.fromJson resp.toJson = .ok resp := by
  simp [TaskQueryResp.fromJson, TaskQueryResp.toJson, ofFields, pure, Except.pure]

/-- 10. A worker asks to go offline. -/
structure WorkerRemoveReq where
  nodeId : String
deriving DecidableEq

def WorkerRemoveReq.toJson (req : WorkerRemoveReq) : Json :=
  ofFields [("node_id", .string req.nodeId)]

def WorkerRemoveReq.fromJson (j : Json) : Except JsonError WorkerRemoveReq := do
  let nodeId ← (← j.atKey "node_id").getString
  return { nodeId }

@[simp] theorem WorkerRemoveReq.fromJson_toJson (req : WorkerRemoveReq) :
    WorkerRemoveReq.fromJson req.toJson = .ok req := by
  simp [WorkerRemoveReq.fromJson, WorkerRemoveReq.toJson, ofFields, pure, Except.pure]

/-- The ten message structs, as the template argument of `build`. -/
inductive MessageKind where
  | workerRegisterReq
  | workerRegisterResp
  | heartbeat
  | submitTaskReq
  | submitTaskResp
  | taskDispatch
  | taskResultReport
  | taskQueryReq
  | taskQueryResp
  | workerRemoveReq
deriving DecidableEq

namespace MessageKind

/-- The struct a kind stands for. -/
def Value : MessageKind → Type
  | workerRegisterReq => WorkerRegisterReq
  | workerRegisterResp => WorkerRegisterResp
  | heartbeat => Heartbeat
  | submitTaskReq => SubmitTaskReq
  | submitTaskResp => SubmitTaskResp
  | taskDispatch => TaskDispatch
  | taskResultReport => TaskResultReport
  | taskQueryReq => TaskQueryReq
  | taskQueryResp => TaskQueryResp
  | workerRemoveReq => WorkerRemoveReq

/-- The struct's own `to_json`. -/
def toJson : (kind : MessageKind) → kind.Value → Json
  | workerRegisterReq => WorkerRegisterReq.toJson
  | workerRegisterResp => WorkerRegisterResp.toJson
  | heartbeat => Heartbeat.toJson
  | submitTaskReq => SubmitTaskReq.toJson
  | submitTaskResp => SubmitTaskResp.toJson
  | taskDispatch => TaskDispatch.toJson
  | taskResultReport => TaskResultReport.toJson
  | taskQueryReq => TaskQueryReq.toJson
  | taskQueryResp => TaskQueryResp.toJson
  | workerRemoveReq => WorkerRemoveReq.toJson

/-- The struct's own `from_json`. -/
def fromJson : (kind : MessageKind) → Json → Except JsonError kind.Value
  | workerRegisterReq => WorkerRegisterReq.fromJson
  | workerRegisterResp => WorkerRegisterResp.fromJson
  | heartbeat => Heartbeat.fromJson
  | submitTaskReq => SubmitTaskReq.fromJson
  | submitTaskResp => SubmitTaskResp.fromJson
  | taskDispatch => TaskDispatch.fromJson
  | taskResultReport => TaskResultReport.fromJson
  | taskQueryReq => TaskQueryReq.fromJson
  | taskQueryResp => TaskQueryResp.fromJson
  | workerRemoveReq => WorkerRemoveReq.fromJson

end MessageKind

/-- For every message struct, `from_json` inverts `to_json`. -/
@[simp] theorem MessageKind.fromJson_toJson (kind : MessageKind) (value : kind.Value) :
    kind.fromJson (kind.toJson value) = .ok value := by
  cases kind with
  | workerRegisterReq => exact WorkerRegisterReq.fromJson_toJson value
  | workerRegisterResp => exact WorkerRegisterResp.fromJson_toJson value
  | heartbeat => exact Heartbeat.fromJson_toJson value
  | submitTaskReq => exact SubmitTaskReq.fromJson_toJson value
  | submitTaskResp => exact SubmitTaskResp.fromJson_toJson value
  | taskDispatch => exact TaskDispatch.fromJson_toJson value
  | taskResultReport => exact TaskResultReport.fromJson_toJson value
  | taskQueryReq => exact TaskQueryReq.fromJson_toJson value
  | taskQueryResp => exact TaskQueryResp.fromJson_toJson value
  | workerRemoveReq => exact WorkerRemoveReq.fromJson_toJson value

end TurboCore.AiDist
