import Mathlib
import TurboCore.AiDist.StreamRoundTrip
import TurboCore.Foundation.Execution
import TurboCore.Registry.Server

/-!
# The id a worker is given and the id a query lists

`RegisterWorker` builds the id and uses it as the table's key; a query lists the
`node_id` of the record. The two agree in the runs in which every stored record
already carries its key, which `HandleRegister` never does.
-/

namespace TurboCore.Registry.NodeIdentity

open Foundation AiDist

/-- What reaches the registry: a packet to the server, or a call through `GetManager`. -/
inductive RegistryEvent where
  | packet (packet : AiSchedulePacket) (clock : ClockReadings)
  | call (op : RegistryOp)

/-- The id in a response to a registration request, with the requesting worker's address. -/
def returnedId (request : AiSchedulePacket) (response : Option AiSchedulePacket) :
    List (String × String) :=
  match request.baseHeader.type, WorkerRegisterReq.fromJson request.body, response with
  | .registerWorker, .ok req, some reply =>
      match WorkerRegisterResp.fromJson reply.body with
      | .ok resp => if resp.success then [(resp.nodeId, req.nodeAddr)] else []
      | .error _ => []
  | _, _, _ => []

/-- The id that a call returns, with the registered record's address. -/
def RegistryOp.returnedId : RegistryOp → List (String × String)
  | .registerWorker info now => [(RegistryManager.assignedId info now, info.nodeAddr)]
  | .updateHeartbeat _ _ _ _ => []
  | .removeWorker _ => []

/-- The registry with every id it has returned and the address of the worker that got it. -/
structure IssuedRegistry where
  manager : RegistryManager
  issued : List (String × String)

def IssuedRegistry.start : IssuedRegistry := ⟨.empty, []⟩

/-- Packets and calls in any order; each is one step. -/
def identityMachine (lib : JsonLibrary) (sort : StdSort RegistryNodeInfo) :
    Machine IssuedRegistry RegistryEvent where
  step registry
    | .packet packet clock =>
        let handled := handlePacket lib sort clock packet registry.manager
        some ⟨handled.1, registry.issued ++ returnedId packet handled.2⟩
    | .call op => some ⟨registry.manager.apply op, registry.issued ++ RegistryOp.returnedId op⟩

/-- Both operations that take an id find this record under it. -/
structure Accepts (manager : RegistryManager) (nodeId : String) (info : RegistryNodeInfo) :
    Prop where
  heartbeat : ∀ availableMemoryMb onlineModels now,
    (manager.updateHeartbeat nodeId availableMemoryMb onlineModels now).nodes.lookup nodeId =
      some { info with lastHeartbeat := now, availableMemoryMb, supportModels := onlineModels }
  removal : manager.nodes.lookup nodeId = some info ∧
    (manager.removeWorker nodeId).nodes.lookup nodeId = none

/-- Keys and records agree, and every element of a query's response names, by its
`node_id`, the record it was made from and an id returned to that record's worker. -/
structure ConsistentIdentity (sort : StdSort RegistryNodeInfo) (registry : IssuedRegistry) :
    Prop where
  keyed : ∀ nodeId info, registry.manager.nodes.lookup nodeId = some info → info.nodeId = nodeId
  answered : ∀ clock packet response elements element,
    (handleQuery sort clock packet registry.manager).2 = some response →
    response.body = .array elements → element ∈ elements →
    ∃ info : RegistryNodeInfo, element = nodeJson info ∧
      (info.nodeId, info.nodeAddr) ∈ registry.issued ∧
      Accepts registry.manager info.nodeId info

/-- No registration request is accepted from a packet, and a called registration
brings a record that already carries the id it is about to be given. -/
def CarriesOwnId (_ : IssuedRegistry) : RegistryEvent → Prop
  | .packet packet _ => packet.baseHeader.type = .registerWorker →
      ∀ req, WorkerRegisterReq.fromJson packet.body ≠ .ok req
  | .call (.registerWorker info now) => info.nodeId = RegistryManager.assignedId info now
  | .call _ => True

/-- Every record carries its key, and its id was returned to its worker. -/
structure Keyed (registry : IssuedRegistry) : Prop where
  own : ∀ nodeId info, registry.manager.nodes.lookup nodeId = some info → info.nodeId = nodeId
  issued : ∀ nodeId info, registry.manager.nodes.lookup nodeId = some info →
    (nodeId, info.nodeAddr) ∈ registry.issued

theorem Keyed.start : Keyed .start where
  own nodeId info found := by
    simp [IssuedRegistry.start, RegistryManager.empty] at found
  issued nodeId info found := by
    simp [IssuedRegistry.start, RegistryManager.empty] at found

/-- An assigned id is never empty: it holds the underscore. -/
theorem assignedId_ne_empty (info : RegistryNodeInfo) (now : Int) :
    RegistryManager.assignedId info now ≠ "" := by
  intro empty
  have length := congrArg String.length empty
  simp [RegistryManager.assignedId, String.length_append] at length

/-- The operations find the record that the table has under an id. -/
theorem accepts_of_lookup {manager : RegistryManager} {nodeId : String} {info : RegistryNodeInfo}
    (found : manager.nodes.lookup nodeId = some info) : Accepts manager nodeId info where
  heartbeat availableMemoryMb onlineModels now := by simp [found]
  removal := ⟨found, by simp⟩

/-- An element of a query's response is made from a record of the table. -/
theorem lookup_of_answered {sort : StdSort RegistryNodeInfo} {clock : ClockReadings}
    {packet response : AiSchedulePacket} {manager : RegistryManager} {elements : List Json}
    {element : Json} (handled : (handleQuery sort clock packet manager).2 = some response)
    (body : response.body = .array elements) (member : element ∈ elements) :
    ∃ nodeId info, manager.nodes.lookup nodeId = some info ∧ element = nodeJson info := by
  unfold handleQuery at handled
  split at handled
  · cases handled
  · next req parsed =>
      cases handled
      simp only [responsePacket, Json.array.injEq] at body
      rw [← body, List.mem_map] at member
      obtain ⟨info, listed, rfl⟩ := member
      obtain ⟨nodeId, online⟩ := RegistryManager.mem_getOnlineNodesByModel.mp listed
      exact ⟨nodeId, info, RegistryManager.lookup_of_mem_onlineEntries online, rfl⟩

theorem Keyed.consistentIdentity {sort : StdSort RegistryNodeInfo} {registry : IssuedRegistry}
    (keyed : Keyed registry) : ConsistentIdentity sort registry where
  keyed := keyed.own
  answered := by
    intro clock packet response elements element handled body member
    obtain ⟨nodeId, info, found, rfl⟩ := lookup_of_answered handled body member
    have same := keyed.own nodeId info found
    subst same
    exact ⟨info, rfl, keyed.issued _ info found, accepts_of_lookup found⟩

/-- A change of the table that keeps id and address of every record keeps the invariant. -/
theorem Keyed.of_records {registry : IssuedRegistry} (keyed : Keyed registry)
    {manager : RegistryManager} (more : List (String × String))
    (kept : ∀ nodeId info, manager.nodes.lookup nodeId = some info →
      ∃ old, registry.manager.nodes.lookup nodeId = some old ∧
        info.nodeId = old.nodeId ∧ info.nodeAddr = old.nodeAddr) :
    Keyed ⟨manager, registry.issued ++ more⟩ where
  own nodeId info found := by
    obtain ⟨old, before, sameId, _⟩ := kept nodeId info found
    rw [sameId]
    exact keyed.own nodeId old before
  issued nodeId info found := by
    obtain ⟨old, before, _, sameAddr⟩ := kept nodeId info found
    rw [sameAddr]
    exact List.mem_append_left _ (keyed.issued nodeId old before)

theorem kept_updateHeartbeat (manager : RegistryManager) (target : String)
    (availableMemoryMb : Int32) (onlineModels : List String) (now : Int) (nodeId : String)
    (info : RegistryNodeInfo)
    (found : (manager.updateHeartbeat target availableMemoryMb onlineModels now).nodes.lookup
      nodeId = some info) :
    ∃ old, manager.nodes.lookup nodeId = some old ∧
      info.nodeId = old.nodeId ∧ info.nodeAddr = old.nodeAddr := by
  rw [RegistryManager.lookup_updateHeartbeat] at found
  split at found
  · next same =>
      subst same
      obtain ⟨old, before, rfl⟩ := Option.map_eq_some_iff.mp found
      exact ⟨old, before, rfl, rfl⟩
  · exact ⟨info, found, rfl, rfl⟩

theorem kept_removeWorker (manager : RegistryManager) (target nodeId : String)
    (info : RegistryNodeInfo)
    (found : (manager.removeWorker target).nodes.lookup nodeId = some info) :
    ∃ old, manager.nodes.lookup nodeId = some old ∧
      info.nodeId = old.nodeId ∧ info.nodeAddr = old.nodeAddr := by
  rw [RegistryManager.lookup_removeWorker] at found
  split at found
  · cases found
  · exact ⟨info, found, rfl, rfl⟩

/-- A packet that registers nobody leaves id and address of every record. -/
theorem kept_handlePacket {lib : JsonLibrary} {sort : StdSort RegistryNodeInfo}
    {clock : ClockReadings} {packet : AiSchedulePacket} {manager : RegistryManager}
    (nobody : packet.baseHeader.type = .registerWorker →
      ∀ req, WorkerRegisterReq.fromJson packet.body ≠ .ok req) (nodeId : String)
    (info : RegistryNodeInfo)
    (found : (handlePacket lib sort clock packet manager).1.nodes.lookup nodeId = some info) :
    ∃ old, manager.nodes.lookup nodeId = some old ∧
      info.nodeId = old.nodeId ∧ info.nodeAddr = old.nodeAddr := by
  unfold handlePacket at found
  split at found
  · next registration =>
      unfold handleRegister at found
      split at found
      · exact ⟨info, found, rfl, rfl⟩
      · next req parsed => exact absurd parsed (nobody registration req)
  · unfold handleHeartbeat at found
    split at found
    · exact ⟨info, found, rfl, rfl⟩
    · exact kept_updateHeartbeat _ _ _ _ _ _ _ found
  · unfold handleQuery at found
    split at found
    · exact ⟨info, found, rfl, rfl⟩
    · exact ⟨info, found, rfl, rfl⟩
  · unfold handleRemove at found
    split at found
    · exact ⟨info, found, rfl, rfl⟩
    · exact kept_removeWorker _ _ _ _ found
  · exact ⟨info, found, rfl, rfl⟩

/-- A guarded event keeps records under their own ids. -/
theorem Keyed.step {lib : JsonLibrary} {sort : StdSort RegistryNodeInfo}
    {registry next : IssuedRegistry} {event : RegistryEvent} (keyed : Keyed registry)
    (guarded : CarriesOwnId registry event)
    (transition : (identityMachine lib sort).step registry event = some next) : Keyed next := by
  cases event with
  | packet packet clock =>
      cases transition
      exact keyed.of_records _ (kept_handlePacket guarded)
  | call op =>
      cases op with
      | registerWorker info now =>
          cases transition
          constructor
          · intro nodeId record found
            rcases RegistryManager.registered_or_kept found with ⟨rfl, rfl⟩ | earlier
            · exact guarded
            · exact keyed.own nodeId record earlier
          · intro nodeId record found
            rcases RegistryManager.registered_or_kept found with ⟨rfl, rfl⟩ | earlier
            · exact List.mem_append_right _ List.mem_cons_self
            · exact List.mem_append_left _ (keyed.issued nodeId record earlier)
      | updateHeartbeat target availableMemoryMb onlineModels now =>
          cases transition
          exact keyed.of_records _ (kept_updateHeartbeat _ _ _ _ _)
      | removeWorker target =>
          cases transition
          exact keyed.of_records _ (kept_removeWorker _ _)

/-- An event after which keys and records agree was a guarded one. -/
theorem carriesOwnId_of_consistent {lib : JsonLibrary} {sort : StdSort RegistryNodeInfo}
    {registry next : IssuedRegistry} {event : RegistryEvent}
    (transition : (identityMachine lib sort).step registry event = some next)
    (consistent : ConsistentIdentity sort next) : CarriesOwnId registry event := by
  cases event with
  | packet packet clock =>
      cases transition
      intro registration req parsed
      have stored : (handlePacket lib sort clock packet registry.manager).1.nodes.lookup
          (RegistryManager.assignedId (registeredNode req clock.first) clock.second) =
            some (registeredNode req clock.first) := by
        simp [handlePacket, registration, handleRegister, parsed]
      have same := consistent.keyed _ _ stored
      exact assignedId_ne_empty _ _ same.symm
  | call op =>
      cases op with
      | registerWorker info now =>
          cases transition
          exact consistent.keyed (RegistryManager.assignedId info now) info
            (by simp [RegistryManager.apply])
      | updateHeartbeat _ _ _ _ => trivial
      | removeWorker _ => trivial

/-- Along any events from an empty registry, identities are consistent in every
state if and only if no packet registers a worker and every called registration
brings a record with its own id. -/
theorem consistent_iff_carriesOwnId (lib : JsonLibrary) (sort : StdSort RegistryNodeInfo)
    (events : List RegistryEvent) :
    (identityMachine lib sort).Throughout (ConsistentIdentity sort) .start events ↔
      (identityMachine lib sort).Guarded CarriesOwnId .start events := by
  refine Machine.throughout_iff_guarded (fun _ keyed => keyed.consistentIdentity) ?_ ?_
    Keyed.start events
  · intro registry event next keyed guarded transition
    exact keyed.step guarded transition
  · intro registry event next _ transition consistent
    exact carriesOwnId_of_consistent transition consistent

/-- A worker's registration request as the server receives it. -/
def registration : AiSchedulePacket :=
  AiSchedulePacket.build 1 .registerWorker "w1" .workerRegisterReq
    { nodeAddr := "10.0.0.1:90", supportModels := ["a"], totalMemoryMb := 8, weight := 1 }

/-- Not every run has consistent identities: one accepted registration stores a
record with an empty `node_id`. -/
theorem identity_not_always_consistent :
    ¬ ∀ (lib : JsonLibrary) (sort : StdSort RegistryNodeInfo) (events : List RegistryEvent),
      (identityMachine lib sort).Throughout (ConsistentIdentity sort) .start events := by
  intro always
  obtain ⟨_, after⟩ := always workerLibrary (.merge _) [.packet registration ⟨0, 0⟩]
  have consistent := after _ rfl
  have stored : (handlePacket workerLibrary (.merge _) ⟨0, 0⟩ registration
      RegistryManager.empty).1.nodes.lookup "10.0.0.1:90_0" =
        some ⟨"", "10.0.0.1:90", ["a"], 8, 8, 1, 0⟩ := by
    have parsed := WorkerRegisterReq.fromJson_toJson
      { nodeAddr := "10.0.0.1:90", supportModels := ["a"], totalMemoryMb := 8, weight := 1 }
    have registered : (handlePacket workerLibrary (.merge _) ⟨0, 0⟩ registration
        RegistryManager.empty).1 = (RegistryManager.registerWorker .empty
          ⟨"", "10.0.0.1:90", ["a"], 8, 8, 1, 0⟩ 0).1 := by
      change (handleRegister _ _ _ _).1 = _
      unfold handleRegister
      rw [show WorkerRegisterReq.fromJson registration.body = _ from parsed]
      rfl
    rw [registered]
    decide
  have same := consistent.keyed _ _ stored
  exact absurd same (by decide)

end TurboCore.Registry.NodeIdentity
