import Mathlib
import TurboCore.Base.Config
import TurboCore.Foundation.Delimited

/-!
# The keys of a flattened document

A scalar leaf of a YAML document is reached by a path of mapping keys and sequence
positions, and the parser writes the path into one string. With keys that are not empty
and hold no dot the strings of different leaves differ, so that no leaf overwrites
another.
-/

namespace TurboCore.Base

open Foundation

variable {doubles : DoubleLibrary}

/-! ## Leaves and their paths -/

/-- One step from a node to a child. -/
inductive PathSegment where
  | key (name : String)
  | index (position : Nat)
deriving DecidableEq

/-- What a step adds to a key. -/
def PathSegment.text : PathSegment → String
  | key name => name
  | index position => toString position

/-- A scalar of a document, with the way to it from the root. -/
structure ScalarLeaf where
  path : List PathSegment
  text : String
deriving DecidableEq

namespace ScalarLeaf

/-- The leaf as the parent of the node sees it. -/
def under (segment : PathSegment) (leaf : ScalarLeaf) : ScalarLeaf :=
  { leaf with path := segment :: leaf.path }

/-- The texts along the path. -/
def pathTexts (leaf : ScalarLeaf) : List String := leaf.path.map PathSegment.text

/-- Mapping keys and decimal positions, joined by dots. -/
def dottedPath (leaf : ScalarLeaf) : String := String.intercalate "." leaf.pathTexts

@[simp] theorem pathTexts_under (segment : PathSegment) (leaf : ScalarLeaf) :
    (leaf.under segment).pathTexts = segment.text :: leaf.pathTexts := rfl

end ScalarLeaf

mutual

/-- The scalars below a node, in document order. -/
def YamlNode.leaves : YamlNode → List ScalarLeaf
  | .scalar (.ok text) => [⟨[], text⟩]
  | .scalar (.error _) => []
  | .map entries => entryLeaves entries
  | .sequence items => itemLeaves 0 items
  | .other => []
  | .invalid _ => []

def entryLeaves : List (Except YamlException String × YamlNode) → List ScalarLeaf
  | [] => []
  | (.error _, _) :: rest => entryLeaves rest
  | (.ok name, value) :: rest => value.leaves.map (.under (.key name)) ++ entryLeaves rest

def itemLeaves (index : Nat) : List YamlNode → List ScalarLeaf
  | [] => []
  | item :: rest => item.leaves.map (.under (.index index)) ++ itemLeaves (index + 1) rest

end

/-- A mapping whose keys can all be read. -/
def YamlNode.mapping (entries : List (String × YamlNode)) : YamlNode :=
  .map (entries.map fun entry => (.ok entry.1, entry.2))

/-- Trees of mappings, sequences and scalars (and null nodes, which hold no scalar) whose
mapping keys are not empty, hold no dot and differ from their siblings. -/
inductive YamlNode.WellKeyed : YamlNode → Prop where
  | scalar (text : String) : WellKeyed (.scalar (.ok text))
  | mapping (entries : List (String × YamlNode))
      (nonempty : ∀ entry ∈ entries, entry.1 ≠ "")
      (undotted : ∀ entry ∈ entries, '.' ∉ entry.1.toList)
      (distinct : (entries.map Prod.fst).Nodup)
      (children : ∀ entry ∈ entries, WellKeyed entry.2) : WellKeyed (.mapping entries)
  | sequence (items : List YamlNode) (children : ∀ item ∈ items, WellKeyed item) :
      WellKeyed (.sequence items)
  | null : WellKeyed .other

/-- The leaves below one child. -/
def childLeaves (child : PathSegment × YamlNode) : List ScalarLeaf :=
  child.2.leaves.map (.under child.1)

theorem leaves_mapping (entries : List (String × YamlNode)) :
    (YamlNode.mapping entries).leaves =
      (entries.map fun entry => (PathSegment.key entry.1, entry.2)).flatMap childLeaves := by
  rw [YamlNode.mapping, YamlNode.leaves]
  induction entries with
  | nil => rfl
  | cons entry rest inductionHypothesis =>
      rw [List.map_cons, entryLeaves, inductionHypothesis]
      rfl

theorem itemLeaves_eq_flatMap (items : List YamlNode) (index : Nat) :
    itemLeaves index items =
      ((items.zipIdx index).map fun item => (PathSegment.index item.2, item.1)).flatMap
        childLeaves := by
  induction items generalizing index with
  | nil => rfl
  | cons item rest inductionHypothesis =>
      rw [itemLeaves, inductionHypothesis]
      rfl

/-- Below children with different texts the paths of the leaves have different texts, if
they have below each child. -/
theorem nodup_pathTexts_flatMap {children : List (PathSegment × YamlNode)}
    (distinct : (children.map fun child => child.1.text).Nodup)
    (below : ∀ child ∈ children, (child.2.leaves.map ScalarLeaf.pathTexts).Nodup) :
    ((children.flatMap childLeaves).map ScalarLeaf.pathTexts).Nodup := by
  rw [List.map_flatMap, List.nodup_flatMap]
  constructor
  · intro child member
    rw [childLeaves, List.map_map]
    have consed := (below child member).map (List.cons_injective (a := child.1.text))
    rwa [List.map_map] at consed
  · refine (List.pairwise_map.mp distinct).imp ?_
    intro child other different
    rw [Function.onFun, List.disjoint_left]
    intro texts first second
    simp only [childLeaves, List.map_map, List.mem_map, Function.comp_apply,
      ScalarLeaf.pathTexts_under] at first second
    obtain ⟨_, _, rfl⟩ := first
    obtain ⟨_, _, same⟩ := second
    exact different (List.cons_eq_cons.mp same).1.symm

/-- A sequence numbers its elements, so their texts differ. -/
theorem nodup_indexTexts (items : List YamlNode) (index : Nat) :
    (((items.zipIdx index).map fun item => (PathSegment.index item.2, item.1)).map
      fun child => child.1.text).Nodup := by
  have positions : ((items.zipIdx index).map Prod.snd).Nodup := by
    rw [List.zipIdx_map_snd]
    exact List.nodup_range'
  have texts := positions.map (f := fun position : Nat => toString position)
    fun position other same => Nat.repr_inj.mp same
  rw [List.map_map] at texts ⊢
  exact texts

/-- Different leaves of a document have paths with different texts. -/
theorem YamlNode.WellKeyed.nodup_pathTexts {node : YamlNode} (wellKeyed : node.WellKeyed) :
    (node.leaves.map ScalarLeaf.pathTexts).Nodup := by
  induction wellKeyed with
  | scalar text => simp [YamlNode.leaves]
  | mapping entries _ _ distinct _ inductionHypothesis =>
      rw [leaves_mapping]
      apply nodup_pathTexts_flatMap
      · rw [List.map_map]
        exact distinct
      · intro child member
        obtain ⟨entry, listed, rfl⟩ := List.mem_map.mp member
        exact inductionHypothesis entry listed
  | sequence items _ inductionHypothesis =>
      rw [YamlNode.leaves, itemLeaves_eq_flatMap]
      apply nodup_pathTexts_flatMap (nodup_indexTexts items 0)
      intro child member
      obtain ⟨item, listed, rfl⟩ := List.mem_map.mp member
      exact inductionHypothesis item.1 (List.fst_mem_of_mem_zipIdx listed)
  | null => simp [YamlNode.leaves]

/-- A text that a dotted path can hold as a segment. -/
def IsSegmentText (text : String) : Prop := text ≠ "" ∧ '.' ∉ text.toList

theorem isSegmentText_toString (position : Nat) : IsSegmentText (toString position) := by
  rw [Nat.toString_eq_repr]
  refine ⟨Nat.repr_ne_empty, ?_⟩
  intro dotted
  rw [Nat.toList_repr] at dotted
  have digit := Nat.isDigit_of_mem_toDigits (by omega) (by omega) dotted
  revert digit
  decide

/-- The texts along the paths of a document hold no dot. -/
theorem YamlNode.WellKeyed.isSegmentText {node : YamlNode} (wellKeyed : node.WellKeyed) :
    ∀ leaf ∈ node.leaves, ∀ text ∈ leaf.pathTexts, IsSegmentText text := by
  induction wellKeyed with
  | scalar _ => simp [YamlNode.leaves, ScalarLeaf.pathTexts]
  | mapping entries nonempty undotted _ _ inductionHypothesis =>
      intro leaf member text onPath
      rw [leaves_mapping] at member
      obtain ⟨child, listed, below⟩ := List.mem_flatMap.mp member
      obtain ⟨entry, entryListed, rfl⟩ := List.mem_map.mp listed
      obtain ⟨leaf, inside, rfl⟩ := List.mem_map.mp below
      rcases List.mem_cons.mp onPath with rfl | deeper
      · exact ⟨nonempty entry entryListed, undotted entry entryListed⟩
      · exact inductionHypothesis entry entryListed leaf inside text deeper
  | sequence items _ inductionHypothesis =>
      intro leaf member text onPath
      rw [YamlNode.leaves, itemLeaves_eq_flatMap] at member
      obtain ⟨child, listed, below⟩ := List.mem_flatMap.mp member
      obtain ⟨item, itemListed, rfl⟩ := List.mem_map.mp listed
      obtain ⟨leaf, inside, rfl⟩ := List.mem_map.mp below
      rcases List.mem_cons.mp onPath with rfl | deeper
      · exact isSegmentText_toString item.2
      · exact inductionHypothesis item.1 (List.fst_mem_of_mem_zipIdx itemListed) leaf inside text
          deeper
  | null => simp [YamlNode.leaves]

/-! ## The key of a leaf -/

/-- The parser's `prefix` at the end of a path. -/
def keyUnder (keyPrefix : String) : List PathSegment → String
  | [] => keyPrefix
  | .key name :: path => keyUnder (childKey keyPrefix name) path
  | .index position :: path => keyUnder (itemKey keyPrefix position) path

/-- The key that a leaf is stored under. -/
def ScalarLeaf.entryKey (leaf : ScalarLeaf) : String := scalarKey (keyUnder "" leaf.path)

/-- Behind a prefix that is not empty every step of the path is written after a dot. -/
theorem toList_keyUnder {keyPrefix : String} (nonempty : keyPrefix ≠ "")
    (path : List PathSegment) :
    (keyUnder keyPrefix path).toList =
      keyPrefix.toList ++ delimit '.' (path.map fun segment => segment.text.toList) := by
  induction path generalizing keyPrefix with
  | nil => simp [keyUnder]
  | cons segment path inductionHypothesis =>
      have longer : keyPrefix ++ "." ++ segment.text ≠ "" := by simp
      have step : keyUnder keyPrefix (segment :: path) =
          keyUnder (keyPrefix ++ "." ++ segment.text) path := by
        cases segment with
        | key name => rw [keyUnder, childKey, if_neg nonempty, PathSegment.text]
        | index position => rw [keyUnder, itemKey, PathSegment.text]
      rw [step, inductionHypothesis longer]
      simp

theorem keyUnder_ne_empty {keyPrefix : String} (nonempty : keyPrefix ≠ "")
    (path : List PathSegment) : keyUnder keyPrefix path ≠ "" := by
  intro empty
  have chars := toList_keyUnder nonempty path
  rw [empty, String.toList_empty, eq_comm, List.append_eq_nil_iff,
    String.toList_eq_nil_iff] at chars
  exact nonempty chars.1

theorem toList_dottedPath_under (segment : PathSegment) (leaf : ScalarLeaf) :
    (leaf.under segment).dottedPath.toList =
      segment.text.toList ++ delimit '.' (leaf.pathTexts.map String.toList) := by
  rw [ScalarLeaf.dottedPath, String.toList_intercalate, ScalarLeaf.pathTexts_under, List.map_cons]
  exact intercalate_cons '.' segment.text.toList _

/-- Below the key of a top-level mapping the prefix is that key. -/
theorem entryKey_under_key {name : String} (nonempty : name ≠ "") (leaf : ScalarLeaf) :
    (leaf.under (.key name)).entryKey = (leaf.under (.key name)).dottedPath := by
  have start : keyUnder "" (leaf.under (.key name)).path = keyUnder name leaf.path := rfl
  rw [ScalarLeaf.entryKey, start, scalarKey, if_neg (keyUnder_ne_empty nonempty leaf.path)]
  apply String.ext
  rw [toList_keyUnder nonempty, toList_dottedPath_under, ScalarLeaf.pathTexts, List.map_map]
  rfl

/-- Below a top-level sequence there is a dot before the position too. -/
theorem toList_entryKey_under_index (position : Nat) (leaf : ScalarLeaf) :
    (leaf.under (.index position)).entryKey.toList =
      delimit '.' ((leaf.under (.index position)).pathTexts.map String.toList) := by
  have start : keyUnder "" (leaf.under (.index position)).path =
      keyUnder ("." ++ toString position) leaf.path := rfl
  have nonempty : "." ++ toString position ≠ "" := by simp
  rw [ScalarLeaf.entryKey, start, scalarKey, if_neg (keyUnder_ne_empty nonempty leaf.path),
    toList_keyUnder nonempty, ScalarLeaf.pathTexts_under, List.map_cons, delimit_cons,
    ScalarLeaf.pathTexts, List.map_map, String.toList_append]
  rfl

/-! ## The stored entries -/

/-- The entry that a leaf leaves behind, below a prefix. -/
def storedEntry (doubles : DoubleLibrary) (keyPrefix : String) (leaf : ScalarLeaf) :
    String × ConfigValue doubles :=
  (scalarKey (keyUnder keyPrefix leaf.path), parseScalar doubles leaf.text)

/-- A node flattens to one entry for each of its leaves. -/
def FlattensToLeaves (doubles : DoubleLibrary) (node : YamlNode) : Prop :=
  ∀ keyPrefix, flatten doubles keyPrefix node =
    .ok (node.leaves.map (storedEntry doubles keyPrefix))

theorem flattenEntries_cons_ok (keyPrefix name : String) (value : YamlNode)
    (rest : List (Except YamlException String × YamlNode)) :
    flattenEntries doubles keyPrefix ((.ok name, value) :: rest) = do
      let first ← flatten doubles (childKey keyPrefix name) value
      let others ← flattenEntries doubles keyPrefix rest
      return first ++ others := rfl

theorem flattenEntries_of_children (entries : List (String × YamlNode)) (keyPrefix : String)
    (children : ∀ entry ∈ entries, FlattensToLeaves doubles entry.2) :
    flattenEntries doubles keyPrefix (entries.map fun entry => (.ok entry.1, entry.2)) =
      .ok ((entryLeaves (entries.map fun entry => (.ok entry.1, entry.2))).map
        (storedEntry doubles keyPrefix)) := by
  induction entries with
  | nil => rfl
  | cons entry rest inductionHypothesis =>
      have first := children entry List.mem_cons_self (childKey keyPrefix entry.1)
      have others := inductionHypothesis fun sibling member =>
        children sibling (List.mem_cons_of_mem _ member)
      rw [List.map_cons, flattenEntries_cons_ok, entryLeaves, first, others, List.map_append,
        List.map_map]
      rfl

theorem flattenItems_of_children (items : List YamlNode) (keyPrefix : String) (index : Nat)
    (children : ∀ item ∈ items, FlattensToLeaves doubles item) :
    flattenItems doubles keyPrefix index items =
      .ok ((itemLeaves index items).map (storedEntry doubles keyPrefix)) := by
  induction items generalizing index with
  | nil => rfl
  | cons item rest inductionHypothesis =>
      have first := children item List.mem_cons_self (itemKey keyPrefix index)
      have others := inductionHypothesis (index + 1) fun sibling member =>
        children sibling (List.mem_cons_of_mem _ member)
      rw [flattenItems, itemLeaves, first, others, List.map_append, List.map_map]
      rfl

theorem YamlNode.WellKeyed.flattensToLeaves {node : YamlNode} (wellKeyed : node.WellKeyed) :
    FlattensToLeaves doubles node := by
  induction wellKeyed with
  | scalar _ => exact fun _ => rfl
  | mapping entries _ _ _ _ inductionHypothesis =>
      intro keyPrefix
      exact flattenEntries_of_children entries keyPrefix inductionHypothesis
  | sequence items _ inductionHypothesis =>
      intro keyPrefix
      exact flattenItems_of_children items keyPrefix 0 inductionHypothesis
  | null => exact fun _ => rfl

/-- Keys that spell out the texts of the paths, behind one lead, differ as the paths do. -/
theorem YamlNode.WellKeyed.nodup_of_lead {root : YamlNode} (wellKeyed : root.WellKeyed)
    (lead : List Char)
    (written : ∀ leaf ∈ root.leaves,
      lead ++ leaf.entryKey.toList = delimit '.' (leaf.pathTexts.map String.toList)) :
    (root.leaves.map ScalarLeaf.entryKey).Nodup := by
  have undotted : ∀ leaf ∈ root.leaves, ∀ text ∈ leaf.pathTexts.map String.toList,
      '.' ∉ text := by
    intro leaf member text listed
    obtain ⟨segment, onPath, rfl⟩ := List.mem_map.mp listed
    exact (wellKeyed.isSegmentText leaf member segment onPath).2
  have distinct := wellKeyed.nodup_pathTexts
  refine List.Nodup.map_on ?_ distinct.of_map
  intro leaf member twin twinMember same
  have texts : leaf.pathTexts.map String.toList = twin.pathTexts.map String.toList := by
    apply delimit_injective (undotted leaf member) (undotted twin twinMember)
    rw [← written leaf member, ← written twin twinMember, same]
  refine List.inj_on_of_nodup_map distinct member twinMember ?_
  exact List.map_injective_iff.mpr (fun _ _ => String.toList_inj.mp) texts

/-- Below a top-level mapping the key is the dotted path. -/
theorem entryKey_of_mapping {entries : List (String × YamlNode)}
    (nonempty : ∀ entry ∈ entries, entry.1 ≠ "") :
    ∀ leaf ∈ (YamlNode.mapping entries).leaves,
      leaf.entryKey = leaf.dottedPath ∧
        '.' :: leaf.dottedPath.toList = delimit '.' (leaf.pathTexts.map String.toList) := by
  intro leaf member
  rw [leaves_mapping] at member
  obtain ⟨child, listed, below⟩ := List.mem_flatMap.mp member
  obtain ⟨entry, entryListed, rfl⟩ := List.mem_map.mp listed
  obtain ⟨leaf, _, rfl⟩ := List.mem_map.mp below
  refine ⟨entryKey_under_key (nonempty entry entryListed) leaf, ?_⟩
  rw [toList_dottedPath_under]
  simp

/-- Different leaves of a document are stored under different keys. -/
theorem YamlNode.WellKeyed.nodup_entryKey {root : YamlNode} (wellKeyed : root.WellKeyed) :
    (root.leaves.map ScalarLeaf.entryKey).Nodup := by
  cases wellKeyed with
  | scalar _ => simp [YamlNode.leaves]
  | mapping entries nonempty undotted distinct children =>
      apply (YamlNode.WellKeyed.mapping entries nonempty undotted distinct children).nodup_of_lead
        ['.']
      intro leaf member
      obtain ⟨key, chars⟩ := entryKey_of_mapping nonempty leaf member
      rw [key]
      exact chars
  | sequence items children =>
      apply (YamlNode.WellKeyed.sequence items children).nodup_of_lead []
      intro leaf member
      rw [YamlNode.leaves, itemLeaves_eq_flatMap] at member
      obtain ⟨child, listed, below⟩ := List.mem_flatMap.mp member
      obtain ⟨item, _, rfl⟩ := List.mem_map.mp listed
      obtain ⟨leaf, _, rfl⟩ := List.mem_map.mp below
      exact toList_entryKey_under_index item.2 leaf
  | null => simp [YamlNode.leaves]

/-- `ParseYamlNode("", root)` on an empty map leaves one entry for each scalar leaf and no
other: different leaves have different keys, and nothing is overwritten. -/
structure StoresLeaves (doubles : DoubleLibrary) (keyOf : ScalarLeaf → String)
    (root : YamlNode) : Prop where
  completes : (parseYamlNode "" root (∅ : Configs doubles)).2 = none
  distinct : (root.leaves.map keyOf).Nodup
  entries : (parseYamlNode "" root (∅ : Configs doubles)).1.entries.Perm
    (root.leaves.map fun leaf => ⟨keyOf leaf, parseScalar doubles leaf.text⟩)

theorem StoresLeaves.keys {keyOf : ScalarLeaf → String} {root : YamlNode}
    (stores : StoresLeaves doubles keyOf root) :
    (parseYamlNode "" root (∅ : Configs doubles)).1.keys.Perm (root.leaves.map keyOf) := by
  have keys := stores.entries.map Sigma.fst
  rwa [List.map_map] at keys

theorem YamlNode.WellKeyed.storesLeaves {root : YamlNode} (wellKeyed : root.WellKeyed) :
    StoresLeaves doubles ScalarLeaf.entryKey root := by
  have stored := (parseYamlNode_follows "" root).stores (∅ : Configs doubles) _
    (wellKeyed.flattensToLeaves "")
  have keysDistinct := wellKeyed.nodup_entryKey
  refine ⟨by rw [stored], keysDistinct, ?_⟩
  have perm := FiniteMap.entries_foldl_insert (root.leaves.map (storedEntry doubles ""))
    (∅ : Configs doubles)
    (by
      rw [List.map_map]
      exact keysDistinct)
    (fun _ _ => AList.notMem_empty _)
  rw [List.map_map, AList.empty_entries, List.append_nil] at perm
  rw [stored]
  exact perm

/-- A document that is one scalar is stored under `root`, and the elements of a top-level
sequence under keys that begin with a dot. -/
theorem root_scalar_and_root_sequence_keys :
    ((YamlNode.scalar (.ok "a")).WellKeyed ∧
      ¬ StoresLeaves ⟨Unit, fun _ => none, fun _ _ => false⟩ ScalarLeaf.dottedPath
        (.scalar (.ok "a"))) ∧
    (YamlNode.sequence [.scalar (.ok "a")]).WellKeyed ∧
      ¬ StoresLeaves ⟨Unit, fun _ => none, fun _ _ => false⟩ ScalarLeaf.dottedPath
        (.sequence [.scalar (.ok "a")]) := by
  refine ⟨⟨.scalar "a", ?_⟩, .sequence _ ?_, ?_⟩
  · intro stores
    have keys := stores.keys
    revert keys
    decide +kernel
  · intro item member
    rw [List.mem_singleton.mp member]
    exact .scalar "a"
  · intro stores
    have keys := stores.keys
    revert keys
    decide +kernel

/-- For every document the leaves are kept apart, under the dotted paths wherever the root
is a mapping and under `root` where the document is one scalar. -/
theorem parseYamlNode_keeps_leaves_apart (root : YamlNode) (wellKeyed : root.WellKeyed) :
    ∃ keyOf : ScalarLeaf → String, StoresLeaves doubles keyOf root ∧
      (∀ entries, root = .map entries → ∀ leaf ∈ root.leaves, keyOf leaf = leaf.dottedPath) ∧
      ∀ scalarStr, root = .scalar (.ok scalarStr) →
        ∀ leaf ∈ root.leaves, keyOf leaf = "root" := by
  refine ⟨ScalarLeaf.entryKey, wellKeyed.storesLeaves, ?_, ?_⟩
  · intro entries isMap leaf member
    cases wellKeyed with
    | scalar _ | sequence _ _ | null => cases isMap
    | mapping entries nonempty _ _ _ => exact (entryKey_of_mapping nonempty leaf member).1
  · intro scalarStr isScalar leaf member
    subst isScalar
    rw [YamlNode.leaves, List.mem_singleton] at member
    subst member
    rfl

/-- A mapping with a sequence of two scalars below one key and a scalar below another. -/
theorem ports_and_name_kept_apart :
    ∃ keyOf : ScalarLeaf → String,
      StoresLeaves ⟨Unit, fun _ => none, fun _ _ => false⟩ keyOf
        (.mapping [("ports", .sequence [.scalar (.ok "80"), .scalar (.ok "81")]),
          ("name", .scalar (.ok "gateway"))]) ∧
      keyOf ⟨[.key "ports", .index 1], "81"⟩ = "ports.1" := by
  obtain ⟨keyOf, stores, dotted, _⟩ := @parseYamlNode_keeps_leaves_apart
    ⟨Unit, fun _ => none, fun _ _ => false⟩
    (.mapping [("ports", .sequence [.scalar (.ok "80"), .scalar (.ok "81")]),
      ("name", .scalar (.ok "gateway"))])
    (.mapping _ (by decide) (by decide) (by decide) (by
      intro entry member
      simp only [List.mem_cons, List.not_mem_nil, or_false] at member
      rcases member with rfl | rfl
      · refine .sequence _ ?_
        intro item listed
        simp only [List.mem_cons, List.not_mem_nil, or_false] at listed
        rcases listed with rfl | rfl <;> exact .scalar _
      · exact .scalar _))
  refine ⟨keyOf, stores, ?_⟩
  rw [dotted _ rfl _ (by decide +kernel)]
  decide +kernel

end TurboCore.Base
