import Mathlib
import TurboCore.Foundation.FiniteMap

/-!
# Parallel lists behind one index

A list of distinct keys with a map from each key to its position, and any number of
value lists parallel to the keys. Deletion swaps the last element into the hole and
repairs one index. Read through the index, every value list is a finite map.
-/

namespace TurboCore.Foundation

universe u

namespace IndexedList

variable {Key : Type} [DecidableEq Key] {Value : Type u}

/-- Exchange two elements; positions outside the list change nothing. -/
def swapAt (values : List Value) (first second : Nat) : List Value :=
  match values[first]?, values[second]? with
  | some here, some there => (values.set first there).set second here
  | _, _ => values

/-- Fill position `hole` with the last element and shorten the list by one. -/
def swapPop (values : List Value) (hole : Nat) : List Value :=
  (if hole ≠ values.length - 1 then swapAt values hole (values.length - 1) else values).dropLast

@[simp] theorem length_swapAt (values : List Value) (first second : Nat) :
    (swapAt values first second).length = values.length := by
  unfold swapAt
  split <;> simp

@[simp] theorem length_swapPop (values : List Value) (hole : Nat) :
    (swapPop values hole).length = values.length - 1 := by
  unfold swapPop
  split_ifs <;> simp

theorem getElem?_swapAt_last {values : List Value} {hole : Nat}
    (inside : hole < values.length) (position : Nat) :
    (swapAt values hole (values.length - 1))[position]? =
      if position = values.length - 1 then values[hole]?
      else if position = hole then values[values.length - 1]? else values[position]? := by
  have last : values.length - 1 < values.length := by omega
  unfold swapAt
  rw [List.getElem?_eq_getElem inside, List.getElem?_eq_getElem last]
  simp only [List.getElem?_set, List.length_set]
  split_ifs <;> first | rfl | omega

/-- The positions before the last keep their element, the hole takes the last one. -/
theorem getElem?_swapPop {values : List Value} {hole : Nat} (inside : hole < values.length)
    (position : Nat) :
    (swapPop values hole)[position]? =
      if position + 1 < values.length then
        if position = hole then values[values.length - 1]? else values[position]?
      else none := by
  unfold swapPop
  rw [List.getElem?_dropLast]
  by_cases before : position + 1 < values.length
  · rw [if_pos before]
    by_cases atEnd : hole = values.length - 1
    · rw [if_neg (not_not.mpr atEnd), if_pos (by omega), if_neg (by omega)]
    · rw [if_pos atEnd, length_swapAt, if_pos (by omega), getElem?_swapAt_last inside,
        if_neg (by omega)]
  · rw [if_neg before, if_neg]
    split_ifs
    · simp only [length_swapAt]
      omega
    · omega

/-- `index` maps exactly the keys of the list, each to its position. -/
def Indexes (keys : List Key) (index : FiniteMap Key Nat) : Prop :=
  ∀ key position, index.lookup key = some position ↔ keys[position]? = some key

/-- The value stored for a key in a list parallel to the keys. -/
def through (index : FiniteMap Key Nat) (values : List Value) (key : Key) : Option Value :=
  (index.lookup key).bind fun position => values[position]?

/-- The index after deletion of `key` from position `hole`: the key that moved into the
hole, if any did, is filed there. -/
def repair (index : FiniteMap Key Nat) (keys : List Key) (key : Key) (hole : Nat) :
    FiniteMap Key Nat :=
  (if hole ≠ keys.length - 1 then
    match keys[keys.length - 1]? with
    | some moved => index.insert moved hole
    | none => index
  else index).erase key

variable {keys : List Key} {index : FiniteMap Key Nat} {values : List Value}

theorem Indexes.nil : Indexes ([] : List Key) ∅ := by
  intro key position
  simp

theorem Indexes.lt {key : Key} {position : Nat} (indexes : Indexes keys index)
    (found : index.lookup key = some position) : position < keys.length := by
  have atPosition := (indexes key position).mp found
  exact (List.getElem?_eq_some_iff.mp atPosition).1

/-- Two keys do not share a position. -/
theorem Indexes.key_eq {first second : Key} {position : Nat} (indexes : Indexes keys index)
    (firstFound : index.lookup first = some position)
    (secondFound : index.lookup second = some position) : first = second := by
  have atFirst := (indexes first position).mp firstFound
  have atSecond := (indexes second position).mp secondFound
  exact Option.some.inj (atFirst.symm.trans atSecond)

/-- Every position is the position of exactly one key. -/
theorem Indexes.existsUnique (indexes : Indexes keys index) {position : Nat}
    (inside : position < keys.length) : ∃! key, index.lookup key = some position := by
  have found := (indexes keys[position] position).mpr (List.getElem?_eq_getElem inside)
  exact ⟨keys[position], found, fun key other => indexes.key_eq other found⟩

theorem through_of_absent {key : Key} (absent : index.lookup key = none) :
    through index values key = none := by
  rw [through, absent]
  rfl

/-- A key read through the index is absent exactly when it is absent from the index. -/
theorem Indexes.isSome_through (indexes : Indexes keys index)
    (parallel : values.length = keys.length) (key : Key) :
    (through index values key).isSome = (index.lookup key).isSome := by
  unfold through
  cases found : index.lookup key with
  | none => rfl
  | some position =>
      have inside := indexes.lt found
      simp [List.getElem?_eq_getElem (parallel ▸ inside)]

/-- A new key at the end. -/
theorem Indexes.push (indexes : Indexes keys index) {key : Key}
    (absent : index.lookup key = none) :
    Indexes (keys ++ [key]) (index.insert key keys.length) := by
  intro query position
  rw [FiniteMap.lookup_insert]
  by_cases same : query = key
  · subst same
    rw [if_pos rfl]
    have notFiled : keys[position]? ≠ some query := by
      intro filed
      rw [(indexes query position).mpr filed] at absent
      cases absent
    rw [List.getElem?_append]
    split_ifs with inside
    · have outside : keys.length ≠ position := by omega
      simp [notFiled, outside]
    · rw [List.getElem?_singleton]
      split_ifs with first
      · simp
        omega
      · simp
        omega
  · rw [if_neg same, indexes query position, List.getElem?_append]
    split_ifs with inside
    · rfl
    · rw [List.getElem?_eq_none (by omega), List.getElem?_singleton]
      split_ifs <;> simp [Ne.symm same]

theorem through_push (indexes : Indexes keys index) (parallel : values.length = keys.length)
    (key : Key) (value : Value) (query : Key) :
    through (index.insert key keys.length) (values ++ [value]) query =
      if query = key then some value else through index values query := by
  unfold through
  rw [FiniteMap.lookup_insert]
  by_cases same : query = key
  · simp [same, ← parallel]
  · rw [if_neg same, if_neg same]
    cases found : index.lookup query with
    | none => rfl
    | some position =>
        have inside := indexes.lt found
        exact List.getElem?_append_left (parallel ▸ inside)

/-- A key that is neither deleted nor moved keeps its position. -/
theorem Indexes.position_of_unmoved (indexes : Indexes keys index) {key query : Key}
    {hole position : Nat} (found : index.lookup key = some hole)
    (foundQuery : index.lookup query = some position) (different : query ≠ key)
    (unmoved : keys[keys.length - 1]? ≠ some query) :
    position + 1 < keys.length ∧ position ≠ hole := by
  have filed := (indexes query position).mp foundQuery
  have notLast : position ≠ keys.length - 1 := by
    intro clash
    rw [clash] at filed
    exact unmoved filed
  have inside := indexes.lt foundQuery
  refine ⟨by omega, ?_⟩
  rintro rfl
  exact different (indexes.key_eq foundQuery found)

/-- Overwriting the value at a key's position. -/
theorem through_set (indexes : Indexes keys index) (parallel : values.length = keys.length)
    {key : Key} {position : Nat} (found : index.lookup key = some position) (value : Value)
    (query : Key) :
    through index (values.set position value) query =
      if query = key then some value else through index values query := by
  unfold through
  by_cases same : query = key
  · subst same
    have inside := indexes.lt found
    simp [found, parallel, inside]
  · rw [if_neg same]
    cases foundQuery : index.lookup query with
    | none => rfl
    | some other =>
        have distinct : position ≠ other := by
          rintro rfl
          exact same (indexes.key_eq foundQuery found)
        simp [List.getElem?_set_ne distinct]

/-- Lookup in the repaired index. -/
theorem Indexes.lookup_repair (indexes : Indexes keys index) {key : Key} {hole : Nat}
    (found : index.lookup key = some hole) (query : Key) :
    (repair index keys key hole).lookup query =
      if query = key then none
      else if keys[keys.length - 1]? = some query then some hole else index.lookup query := by
  have inside := indexes.lt found
  unfold repair
  rw [FiniteMap.lookup_erase]
  by_cases same : query = key
  · simp [same]
  rw [if_neg same, if_neg same]
  have last : keys.length - 1 < keys.length := by omega
  by_cases atEnd : hole = keys.length - 1
  · have lastKey : keys[keys.length - 1]? = some key := by
      rw [← atEnd]
      exact (indexes key hole).mp found
    rw [if_neg (by simp [atEnd]), if_neg]
    rw [lastKey]
    intro clash
    exact same (Option.some.inj clash).symm
  · rw [if_pos atEnd, List.getElem?_eq_getElem last]
    simp only [FiniteMap.lookup_insert, Option.some.injEq]
    by_cases moved : keys[keys.length - 1] = query
    · simp [moved]
    · rw [if_neg moved, if_neg (Ne.symm moved)]

/-- Deletion keeps the index exact. -/
theorem Indexes.swapPop (indexes : Indexes keys index) {key : Key} {hole : Nat}
    (found : index.lookup key = some hole) :
    Indexes (swapPop keys hole) (repair index keys key hole) := by
  have inside := indexes.lt found
  intro query position
  rw [indexes.lookup_repair found, getElem?_swapPop inside]
  by_cases same : query = key
  · subst same
    rw [if_pos rfl]
    -- the deleted key stood at the hole only, so no remaining position holds it
    constructor
    · intro impossible
      cases impossible
    · intro filed
      split_ifs at filed with early atPosition
      · have lastFound := (indexes query _).mpr filed
        rw [found] at lastFound
        have clash := Option.some.inj lastFound
        omega
      · have otherFound := (indexes query _).mpr filed
        rw [found] at otherFound
        exact absurd (Option.some.inj otherFound).symm atPosition
  · rw [if_neg same]
    have atLast := indexes query (keys.length - 1)
    by_cases moved : keys[keys.length - 1]? = some query
    · have lastFound := atLast.mpr moved
      have early : hole ≠ keys.length - 1 := by
        rintro rfl
        exact same (indexes.key_eq lastFound found)
      rw [if_pos moved]
      constructor
      · intro filed
        have position_eq := Option.some.inj filed
        subst position_eq
        rw [if_pos (by omega), if_pos rfl]
        exact moved
      · intro filed
        split_ifs at filed with before atPosition
        · rw [atPosition]
        · have otherFound := (indexes query _).mpr filed
          rw [lastFound] at otherFound
          have clash := Option.some.inj otherFound
          omega
    · rw [if_neg moved, indexes query position]
      constructor
      · intro filed
        have foundQuery := (indexes query position).mpr filed
        obtain ⟨before, notHole⟩ := indexes.position_of_unmoved found foundQuery same moved
        rw [if_pos before, if_neg notHole]
        exact filed
      · intro filed
        split_ifs at filed with before atPosition
        · exact absurd filed moved
        · exact filed

theorem through_swapPop (indexes : Indexes keys index) (parallel : values.length = keys.length)
    {key : Key} {hole : Nat} (found : index.lookup key = some hole) (query : Key) :
    through (repair index keys key hole) (IndexedList.swapPop values hole) query =
      if query = key then none else through index values query := by
  have inside := indexes.lt found
  unfold through
  rw [indexes.lookup_repair found]
  by_cases same : query = key
  · simp [same]
  rw [if_neg same, if_neg same]
  by_cases moved : keys[keys.length - 1]? = some query
  · have lastFound := (indexes query _).mpr moved
    have early : hole ≠ keys.length - 1 := by
      rintro rfl
      exact same (indexes.key_eq lastFound found)
    rw [if_pos moved, lastFound]
    simp only [Option.bind_some]
    rw [getElem?_swapPop (parallel ▸ inside), if_pos (by omega), if_pos rfl, parallel]
  · rw [if_neg moved]
    cases foundQuery : index.lookup query with
    | none => rfl
    | some position =>
        obtain ⟨before, notHole⟩ := indexes.position_of_unmoved found foundQuery same moved
        simp only [Option.bind_some]
        rw [getElem?_swapPop (parallel ▸ inside), if_pos (by omega), if_neg notHole]

theorem map_swapAt {Image : Type u} (image : Value → Image) (values : List Value)
    (first second : Nat) :
    (swapAt values first second).map image = swapAt (values.map image) first second := by
  unfold swapAt
  rw [List.getElem?_map, List.getElem?_map]
  cases values[first]? <;> cases values[second]? <;> simp [List.map_set]

theorem map_swapPop {Image : Type u} (image : Value → Image) (values : List Value)
    (hole : Nat) :
    (swapPop values hole).map image = swapPop (values.map image) hole := by
  unfold swapPop
  rw [List.map_dropLast, List.length_map]
  split_ifs <;> simp [map_swapAt]

end IndexedList

end TurboCore.Foundation
