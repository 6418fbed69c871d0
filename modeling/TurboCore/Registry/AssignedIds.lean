import Mathlib
import TurboCore.Foundation.Delimited
import TurboCore.Registry.Manager

/-!
# The ids that `RegisterWorker` assigns

An id is the address of the worker, an underscore and the clock reading in decimal. The
address may hold underscores and digits of its own; the last underscore still tells where
it ends, because a decimal number has none.
-/

namespace TurboCore.Registry

open Foundation

namespace RegistryManager

theorem underscore_notMem_repr (value : Nat) : '_' ∉ value.repr.toList := by
  intro member
  rw [Nat.toList_repr] at member
  have digit := Nat.isDigit_of_mem_toDigits (by omega) (by omega) member
  revert digit
  decide

/-- A clock reading is written with digits and at most a sign. -/
theorem underscore_notMem_toString (now : Int) : '_' ∉ (toString now).toList := by
  have written : toString now = now.repr := rfl
  rw [written, Int.repr_eq_if]
  split_ifs
  · exact underscore_notMem_repr _
  · rw [String.toList_append, List.mem_append, not_or]
    exact ⟨by decide, underscore_notMem_repr _⟩

theorem toList_assignedId (info : RegistryNodeInfo) (now : Int) :
    (assignedId info now).toList = info.nodeAddr.toList ++ '_' :: (toString now).toList := by
  rw [assignedId, String.toList_append, String.toList_append, List.append_assoc]
  rfl

/-- Address and clock reading can be read back from an id. -/
theorem assignedId_inj {info other : RegistryNodeInfo} {now later : Int} :
    assignedId info now = assignedId other later ↔
      info.nodeAddr = other.nodeAddr ∧ now = later := by
  rw [← String.toList_inj, toList_assignedId, toList_assignedId,
    append_separator_inj (underscore_notMem_toString now) (underscore_notMem_toString later),
    String.toList_inj, String.toList_inj]
  exact and_congr_right fun _ => Int.repr_inj

/-- Some table of the manager holds the id: `m_nodes` as a key or `m_model_to_nodes` in a
list. -/
def Holds (manager : RegistryManager) (nodeId : String) : Prop :=
  (manager.nodes.lookup nodeId).isSome = true ∨
    ∃ modelName, nodeId ∈ manager.modelToNodes.bucket modelName

theorem mem_bucket_iff_listed (manager : RegistryManager) (modelName nodeId : String) :
    nodeId ∈ manager.modelToNodes.bucket modelName ↔ 0 < manager.listed modelName nodeId :=
  List.count_pos_iff.symm

end RegistryManager

/-- The id that a call assigns. -/
def RegistryOp.assigned? : RegistryOp → Option String
  | .registerWorker info now => some (RegistryManager.assignedId info now)
  | .updateHeartbeat _ _ _ _ | .removeWorker _ => none

/-- The address and the clock reading of a registration. -/
def RegistryOp.registration? : RegistryOp → Option (String × Int)
  | .registerWorker info now => some (info.nodeAddr, now)
  | .updateHeartbeat _ _ _ _ | .removeWorker _ => none

/-- Registrations of one address happen at different clock readings. -/
def DistinctReadings (ops : List RegistryOp) : Prop :=
  (ops.filterMap RegistryOp.registration?).Nodup

instance (ops : List RegistryOp) : Decidable (DistinctReadings ops) :=
  inferInstanceAs (Decidable (List.Nodup _))

namespace RegistryManager

/-- Only a registration brings an id into the tables, the one it assigns. -/
theorem holds_apply {manager : RegistryManager} {op : RegistryOp} {nodeId : String}
    (after : (manager.apply op).Holds nodeId) :
    manager.Holds nodeId ∨ op.assigned? = some nodeId := by
  cases op with
  | registerWorker info now =>
      by_cases same : nodeId = assignedId info now
      · right
        rw [RegistryOp.assigned?, same]
      · left
        rcases after with present | ⟨modelName, member⟩
        · left
          rwa [apply, lookup_registerWorker, if_neg same] at present
        · right
          rw [mem_bucket_iff_listed, apply, listed_registerWorker, if_neg same] at member
          exact ⟨modelName, (mem_bucket_iff_listed _ _ _).mpr member⟩
  | updateHeartbeat updated availableMemoryMb onlineModels now =>
      left
      rcases after with present | ⟨modelName, member⟩
      · left
        rw [apply, lookup_updateHeartbeat] at present
        split_ifs at present with same
        · subst same
          rwa [Option.isSome_map] at present
        · exact present
      · right
        rw [mem_bucket_iff_listed, apply, listed_updateHeartbeat] at member
        exact ⟨modelName, (mem_bucket_iff_listed _ _ _).mpr member⟩
  | removeWorker removed =>
      left
      cases found : manager.nodes.lookup removed with
      | none =>
          rwa [apply, removeWorker_of_absent manager found] at after
      | some info =>
          rcases after with present | ⟨modelName, member⟩
          · left
            rw [apply, lookup_removeWorker] at present
            split_ifs at present
            · cases present
            · exact present
          · right
            rw [mem_bucket_iff_listed, apply, listed_removeWorker manager found] at member
            split_ifs at member
            · omega
            · exact ⟨modelName, (mem_bucket_iff_listed _ _ _).mpr member⟩

/-- Every id in the tables was assigned by an earlier registration. -/
theorem assigned_of_holds {ops : List RegistryOp} {nodeId : String}
    (holds : (ops.foldl apply empty).Holds nodeId) :
    nodeId ∈ ops.filterMap RegistryOp.assigned? := by
  induction ops using List.reverseRecOn with
  | nil =>
      rcases holds with present | ⟨modelName, member⟩
      · cases present
      · cases member
  | append_singleton ops op inductionHypothesis =>
      rw [List.foldl_concat] at holds
      rw [List.filterMap_append, List.mem_append]
      rcases holds_apply holds with before | now
      · exact .inl (inductionHypothesis before)
      · exact .inr (by simp [now])

/-- An assigned id tells the registration that assigned it. -/
theorem mem_registrations_of_assigned {ops : List RegistryOp} {info : RegistryNodeInfo}
    {now : Int} (assigned : assignedId info now ∈ ops.filterMap RegistryOp.assigned?) :
    (info.nodeAddr, now) ∈ ops.filterMap RegistryOp.registration? := by
  rw [List.mem_filterMap] at assigned ⊢
  obtain ⟨op, member, same⟩ := assigned
  cases op with
  | updateHeartbeat _ _ _ _ | removeWorker _ => cases same
  | registerWorker earlier reading =>
      refine ⟨_, member, ?_⟩
      obtain ⟨sameAddr, sameReading⟩ := assignedId_inj.mp (Option.some.inj same)
      rw [RegistryOp.registration?, sameAddr, sameReading]

/-- With distinct readings a registration finds no trace of the id that it assigns. -/
theorem not_holds_assignedId {before after : List RegistryOp} {info : RegistryNodeInfo}
    {now : Int}
    (distinct : DistinctReadings (before ++ .registerWorker info now :: after)) :
    ¬ (before.foldl apply empty).Holds (assignedId info now) := by
  intro holds
  have earlier := mem_registrations_of_assigned (assigned_of_holds holds)
  rw [DistinctReadings, List.filterMap_append, List.filterMap_cons,
    RegistryOp.registration?] at distinct
  exact (List.nodup_append.mp distinct).2.2 _ earlier _ List.mem_cons_self rfl

/-- Two registrations in any states return the same id exactly for the same address and
clock reading; so where registrations of one address happen at different readings, each
finds its id neither in `m_nodes` nor in any list of the index. -/
theorem assigned_ids_collide_only_for_same_instant :
    (∀ (manager other : RegistryManager) (info otherInfo : RegistryNodeInfo) (now later : Int),
      (manager.registerWorker info now).2 = (other.registerWorker otherInfo later).2 ↔
        info.nodeAddr = otherInfo.nodeAddr ∧ now = later) ∧
    ∀ before info now after, DistinctReadings (before ++ .registerWorker info now :: after) →
      (before.foldl apply empty).nodes.lookup (assignedId info now) = none ∧
      ∀ modelName,
        assignedId info now ∉ (before.foldl apply empty).modelToNodes.bucket modelName := by
  refine ⟨fun _ _ _ _ _ _ => assignedId_inj, ?_⟩
  intro before info now after distinct
  have absent := not_holds_assignedId distinct
  rw [Holds, not_or, not_exists, Option.not_isSome_iff_eq_none] at absent
  exact absent

/-- An address that ends in another's id, and one address registered twice: three ids. -/
theorem underscored_addresses_told_apart :
    assignedId ⟨"", "10.0.0.1:90_7", ["a"], 16, 8, 1, 0⟩ 7 ∉
      (([.registerWorker ⟨"", "10.0.0.1:90", ["a"], 16, 8, 1, 0⟩ 7,
        .registerWorker ⟨"", "10.0.0.1:90", ["a"], 16, 8, 1, 0⟩ (-7)] :
          List RegistryOp).foldl apply empty).modelToNodes.bucket "a" :=
  (assigned_ids_collide_only_for_same_instant.2
    [.registerWorker ⟨"", "10.0.0.1:90", ["a"], 16, 8, 1, 0⟩ 7,
      .registerWorker ⟨"", "10.0.0.1:90", ["a"], 16, 8, 1, 0⟩ (-7)]
    ⟨"", "10.0.0.1:90_7", ["a"], 16, 8, 1, 0⟩ 7 [] (by decide)).2 "a"

end RegistryManager

end TurboCore.Registry
