import Mathlib
import TurboCore.Foundation.FiniteMap

/-!
# Indexes from keys to lists of members

A finite map from keys to lists, read with an absent key as the empty list, and
the two bulk updates that keep such an index in step with a table: pushing one
member under several keys and removing it from several keys. The lemmas say what
each update does to the number of occurrences of every member in every list.
-/

namespace TurboCore.Foundation

variable {Key Member : Type} [DecidableEq Key] [DecidableEq Member]

/-- A map from keys to lists of members. -/
abbrev BucketIndex (Key Member : Type) := FiniteMap Key (List Member)

namespace BucketIndex

/-- The list stored under a key; an absent key has the empty list. -/
def bucket (index : BucketIndex Key Member) (key : Key) : List Member :=
  (index.lookup key).getD []

/-- Append a member to one list. -/
def push (member : Member) (index : BucketIndex Key Member) (key : Key) :
    BucketIndex Key Member :=
  index.insert key (index.bucket key ++ [member])

/-- Erase every occurrence of a member from one list. -/
def remove (member : Member) (index : BucketIndex Key Member) (key : Key) :
    BucketIndex Key Member :=
  index.insert key ((index.bucket key).filter (· ≠ member))

omit [DecidableEq Member] in
@[simp] theorem bucket_empty (key : Key) : (∅ : BucketIndex Key Member).bucket key = [] := by
  simp [bucket]

omit [DecidableEq Member] in
theorem bucket_insert (index : BucketIndex Key Member) (key query : Key) (members : List Member) :
    bucket (index.insert key members) query =
      if query = key then members else index.bucket query := by
  simp only [bucket, FiniteMap.lookup_insert]
  split <;> rfl

/-- Pushing a member under each key of a list adds one occurrence for each time
the key stands in the list, and touches no other member. -/
theorem count_foldl_push (keys : List Key) (member other : Member) (query : Key)
    (index : BucketIndex Key Member) :
    ((keys.foldl (push member) index).bucket query).count other =
      (index.bucket query).count other + if other = member then keys.count query else 0 := by
  induction keys generalizing index with
  | nil => simp
  | cons key rest inductionHypothesis =>
      rw [List.foldl_cons, inductionHypothesis, push, bucket_insert]
      by_cases sameKey : query = key
      · subst sameKey
        by_cases sameMember : other = member
        · subst sameMember
          simp [List.count_append]
          omega
        · simp [List.count_append, sameMember, Ne.symm sameMember]
      · simp [sameKey, Ne.symm sameKey]

/-- Removing a member from each key of a list empties these keys of it, and
touches no other member and no other key. -/
theorem count_foldl_remove (keys : List Key) (member other : Member) (query : Key)
    (index : BucketIndex Key Member) :
    ((keys.foldl (remove member) index).bucket query).count other =
      if other = member ∧ query ∈ keys then 0 else (index.bucket query).count other := by
  induction keys generalizing index with
  | nil => simp
  | cons key rest inductionHypothesis =>
      rw [List.foldl_cons, inductionHypothesis, remove, bucket_insert]
      have filtered : ((index.bucket key).filter (· ≠ member)).count other =
          if other = member then 0 else (index.bucket key).count other := by
        by_cases sameMember : other = member
        · subst sameMember
          rw [if_pos rfl, List.count_eq_zero]
          simp
        · rw [if_neg sameMember, List.count_filter (by simpa using sameMember)]
      by_cases sameKey : query = key
      · subst sameKey
        rw [if_pos rfl, filtered]
        by_cases sameMember : other = member
        · simp [sameMember]
        · simp [sameMember]
      · simp [sameKey]

/-- A reader that skips a member reads the same from every list, in the same order, after
the member has been removed from some of them. -/
theorem filterMap_foldl_remove {Entry : Type} (keys : List Key) (member : Member) (query : Key)
    (index : BucketIndex Key Member) (reader : Member → Option Entry)
    (skipped : reader member = none) :
    ((keys.foldl (remove member) index).bucket query).filterMap reader =
      (index.bucket query).filterMap reader := by
  induction keys generalizing index with
  | nil => rfl
  | cons key rest inductionHypothesis =>
      rw [List.foldl_cons, inductionHypothesis, remove, bucket_insert]
      by_cases sameKey : query = key
      · subst sameKey
        rw [if_pos rfl, List.filterMap_filter]
        apply List.filterMap_congr
        intro other _
        by_cases sameMember : other = member
        · simp [sameMember, skipped]
        · simp [sameMember]
      · rw [if_neg sameKey]

end BucketIndex

end TurboCore.Foundation
