import Mathlib

/-!
# Finite maps with one value type

`AList` over a constant family, read through `lookup`: insertion and erasure as
case distinctions on the key.
-/

namespace TurboCore.Foundation

variable {Key Value : Type} [DecidableEq Key]

/-- A finite map. -/
abbrev FiniteMap (Key Value : Type) := AList fun _ : Key => Value

namespace FiniteMap

theorem lookup_insert (entries : FiniteMap Key Value) (key query : Key) (value : Value) :
    (AList.insert key value entries).lookup query =
      if query = key then some value else entries.lookup query := by
  by_cases same : query = key
  · subst same
    simp
  · rw [if_neg same, AList.lookup_insert_ne same]

theorem lookup_erase (entries : FiniteMap Key Value) (key query : Key) :
    (AList.erase key entries).lookup query =
      if query = key then none else entries.lookup query := by
  by_cases same : query = key
  · subst same
    simp
  · rw [if_neg same, AList.lookup_erase_ne same]

/-- A map that already answers with `value?` under a key, read as if that had been stored. -/
theorem lookup_eq_ite {entries : FiniteMap Key Value} {key : Key} {value? : Option Value}
    (found : entries.lookup key = value?) (query : Key) :
    entries.lookup query = if query = key then value? else entries.lookup query := by
  split_ifs with same
  · rw [same, found]
  · rfl

/-- After a list of insertions a key holds the last value inserted for it, if any. -/
theorem lookup_foldl_insert (insertions : List (Key × Value)) (entries : FiniteMap Key Value)
    (query : Key) :
    (insertions.foldl (fun (built : FiniteMap Key Value) insertion =>
        built.insert insertion.1 insertion.2) entries).lookup query =
      (insertions.reverse.lookup query).or (entries.lookup query) := by
  induction insertions generalizing entries with
  | nil => rfl
  | cons insertion rest inductionHypothesis =>
      obtain ⟨key, value⟩ := insertion
      rw [List.foldl_cons, inductionHypothesis, lookup_insert, List.reverse_cons,
        List.lookup_append, Option.or_assoc]
      congr 1
      by_cases same : query = key
      · simp [same]
      · have different : (query == key) = false := beq_false_of_ne same
        simp [same, List.lookup_cons, different]

/-- Insertions under distinct keys that were absent before overwrite nothing: each leaves an
entry of its own beside the entries that were there. -/
theorem entries_foldl_insert (insertions : List (Key × Value)) (entries : FiniteMap Key Value)
    (distinct : (insertions.map Prod.fst).Nodup)
    (absent : ∀ insertion ∈ insertions, insertion.1 ∉ entries) :
    (insertions.foldl (fun (built : FiniteMap Key Value) insertion =>
        built.insert insertion.1 insertion.2) entries).entries.Perm
      (insertions.map (fun insertion => ⟨insertion.1, insertion.2⟩) ++ entries.entries) := by
  induction insertions generalizing entries with
  | nil => exact List.Perm.refl _
  | cons insertion rest inductionHypothesis =>
      rw [List.map_cons, List.nodup_cons] at distinct
      have headAbsent := absent insertion List.mem_cons_self
      rw [List.foldl_cons]
      refine (inductionHypothesis _ distinct.2 ?_).trans ?_
      · intro later member present
        rcases (AList.mem_insert _).mp present with same | before
        · exact distinct.1 (List.mem_map.mpr ⟨later, member, same⟩)
        · exact absent later (List.mem_cons_of_mem _ member) before
      · rw [AList.entries_insert_of_notMem headAbsent]
        exact List.perm_middle

/-- Of what a pass over the entries yields, the part filed under a key comes from the entry
of that key. -/
theorem filter_flatMap_entries {Item : Type} (entries : FiniteMap Key Value)
    (items : Key → Value → List (Item × Key))
    (own : ∀ key value item, item ∈ items key value → item.2 = key) (query : Key) :
    (entries.entries.flatMap fun entry => items entry.1 entry.2).filter (·.2 = query) =
      ((entries.lookup query).map (items query)).getD [] := by
  obtain ⟨listed, distinct⟩ := entries
  simp only [AList.lookup]
  induction listed with
  | nil => rfl
  | cons entry rest inductionHypothesis =>
      obtain ⟨key, value⟩ := entry
      rw [List.nodupKeys_cons] at distinct
      rw [List.flatMap_cons, List.filter_append, inductionHypothesis distinct.2]
      by_cases same : key = query
      · subst same
        have absent : List.dlookup key rest = none := List.dlookup_eq_none.mpr distinct.1
        have all : (items key value).filter (·.2 = key) = items key value := by
          rw [List.filter_eq_self]
          intro item member
          simpa using own key value item member
        simp [absent, all]
      · have none : (items key value).filter (·.2 = query) = [] := by
          rw [List.filter_eq_nil_iff]
          intro item member
          simpa [own key value item member] using same
        rw [none, List.nil_append, List.dlookup_cons_ne _ _ (Ne.symm same)]

end FiniteMap

end TurboCore.Foundation
