import Mathlib

/-!
# Priority queues up to ties

A priority queue by what its operations do to the elements it holds. `less` is the
comparator of a max-heap: the element on top is less than no other, and which one of
several such it is remains open. Taking elements from the top while they meet a condition
splits the queue, and takes them in order.
-/

namespace TurboCore.Foundation

universe u v

/-- The operations of a priority queue and the laws that fix them up to ties. -/
structure PriorityQueue (Element : Type u) (less : Element → Element → Bool) where
  Queue : Type v
  elements : Queue → Multiset Element
  empty : Queue
  size : Queue → Nat
  push : Queue → Element → Queue
  /-- `none` on an empty queue -/
  top : Queue → Option Element
  pop : Queue → Queue
  elements_empty : elements empty = 0
  size_eq : ∀ queue, size queue = (elements queue).card
  elements_push : ∀ queue element, elements (push queue element) = element ::ₘ elements queue
  elements_of_top_eq_none : ∀ queue, top queue = none → elements queue = 0
  not_less_of_top : ∀ queue element, top queue = some element →
    ∀ other ∈ elements queue, less element other = false
  cons_elements_pop : ∀ queue element, top queue = some element →
    element ::ₘ elements (pop queue) = elements queue

namespace PriorityQueue

variable {Element : Type u} {less : Element → Element → Bool}

/-- Pop at most `fuel` elements from the top while they meet the condition. -/
def popUpTo (heap : PriorityQueue.{u, v} Element less) (ready : Element → Bool) :
    Nat → heap.Queue → List Element × heap.Queue
  | 0, queue => ([], queue)
  | fuel + 1, queue =>
      match heap.top queue with
      | none => ([], queue)
      | some element =>
          if ready element then
            let later := heap.popUpTo ready fuel (heap.pop queue)
            (element :: later.1, later.2)
          else ([], queue)

/-- `while (!queue.empty() && ready(queue.top()))`: it ends when the queue does. -/
def popWhile (heap : PriorityQueue.{u, v} Element less) (ready : Element → Bool)
    (queue : heap.Queue) : List Element × heap.Queue :=
  heap.popUpTo ready (heap.size queue) queue

variable (heap : PriorityQueue.{u, v} Element less) (ready : Element → Bool)

/-- The loop moves elements from the queue to the list. -/
theorem elements_popUpTo (fuel : Nat) (queue : heap.Queue) :
    ↑(heap.popUpTo ready fuel queue).1 + heap.elements (heap.popUpTo ready fuel queue).2 =
      heap.elements queue := by
  fun_induction heap.popUpTo ready fuel queue with
  | case1 queue | case2 fuel queue _ | case4 fuel queue element _ _ => simp
  | case3 fuel queue element onTop _ later inductionHypothesis =>
      rw [← Multiset.cons_coe, Multiset.cons_add, inductionHypothesis,
        heap.cons_elements_pop queue element onTop]

theorem ready_of_mem_popUpTo (fuel : Nat) (queue : heap.Queue) :
    ∀ element ∈ (heap.popUpTo ready fuel queue).1, ready element = true := by
  fun_induction heap.popUpTo ready fuel queue with
  | case1 queue | case2 fuel queue _ | case4 fuel queue element _ _ => simp
  | case3 fuel queue element onTop isReady later inductionHypothesis =>
      intro other member
      rcases List.mem_cons.mp member with rfl | below
      · exact isReady
      · exact inductionHypothesis other below

/-- Elements come off the queue in order. -/
theorem pairwise_popUpTo (fuel : Nat) (queue : heap.Queue) :
    (heap.popUpTo ready fuel queue).1.Pairwise (fun first second => less first second = false) := by
  fun_induction heap.popUpTo ready fuel queue with
  | case1 queue | case2 fuel queue _ | case4 fuel queue element _ _ => simp
  | case3 fuel queue element onTop isReady later inductionHypothesis =>
      refine List.Pairwise.cons (fun other member => ?_) inductionHypothesis
      refine heap.not_less_of_top queue element onTop other ?_
      rw [← heap.cons_elements_pop queue element onTop,
        ← heap.elements_popUpTo ready fuel (heap.pop queue)]
      exact Multiset.mem_cons_of_mem (Multiset.mem_add.mpr (.inl (Multiset.mem_coe.mpr member)))

/-- With fuel for all elements the loop stops at an element that is not ready; where
readiness comes with the order, none that is left is ready. -/
theorem not_ready_of_mem_popUpTo
    (closed : ∀ first second, less first second = false → ready second = true →
      ready first = true) (fuel : Nat) (queue : heap.Queue)
    (enough : (heap.elements queue).card ≤ fuel) :
    ∀ element ∈ heap.elements (heap.popUpTo ready fuel queue).2, ready element = false := by
  fun_induction heap.popUpTo ready fuel queue with
  | case1 queue =>
      have none : heap.elements queue = 0 := Multiset.card_eq_zero.mp (Nat.le_zero.mp enough)
      simp [none]
  | case2 fuel queue onTop =>
      have none := heap.elements_of_top_eq_none queue onTop
      simp [none]
  | case3 fuel queue element onTop isReady later inductionHypothesis =>
      refine inductionHypothesis ?_
      rw [← heap.cons_elements_pop queue element onTop, Multiset.card_cons] at enough
      omega
  | case4 fuel queue element onTop notReady =>
      intro other member
      have inOrder := heap.not_less_of_top queue element onTop other member
      by_contra otherReady
      exact notReady (closed element other inOrder (by simpa using otherReady))

/-- The loop splits the queue into what is ready, in order, and what is not. -/
theorem popWhile_spec
    (closed : ∀ first second, less first second = false → ready second = true →
      ready first = true) (queue : heap.Queue) :
    ↑(heap.popWhile ready queue).1 + heap.elements (heap.popWhile ready queue).2 =
        heap.elements queue ∧
      (∀ element ∈ (heap.popWhile ready queue).1, ready element = true) ∧
      (∀ element ∈ heap.elements (heap.popWhile ready queue).2, ready element = false) ∧
      (heap.popWhile ready queue).1.Pairwise (fun first second => less first second = false) :=
  ⟨heap.elements_popUpTo ready _ queue, heap.ready_of_mem_popUpTo ready _ queue,
    heap.not_ready_of_mem_popUpTo ready closed _ queue (heap.size_eq queue).ge,
    heap.pairwise_popUpTo ready _ queue⟩

section SortedBy

variable {Key : Type v} [LinearOrder Key] (key : Element → Key)

/-- A list in ascending order of the keys. -/
structure SortedBy where
  list : List Element
  sorted : list.Pairwise fun first second => key first ≤ key second

/-- The queue that serves the smallest key first, and of equal keys the last one pushed. -/
def sortedBy : PriorityQueue.{u, u} Element (fun first second => key second < key first) where
  Queue := SortedBy key
  elements queue := queue.list
  empty := ⟨[], List.Pairwise.nil⟩
  size queue := queue.list.length
  push queue element :=
    ⟨queue.list.orderedInsert (fun first second => key first ≤ key second) element, by
      have total : Std.Total fun first second : Element => key first ≤ key second :=
        ⟨fun first second => le_total (key first) (key second)⟩
      have trans : IsTrans Element fun first second => key first ≤ key second :=
        ⟨fun _ _ _ => le_trans⟩
      exact queue.sorted.orderedInsert element queue.list⟩
  top queue := queue.list.head?
  pop queue := ⟨queue.list.tail, queue.sorted.tail⟩
  elements_empty := rfl
  size_eq queue := (Multiset.coe_card queue.list).symm
  elements_push queue element := by
    rw [Multiset.cons_coe, Multiset.coe_eq_coe]
    exact List.perm_orderedInsert _ element queue.list
  elements_of_top_eq_none queue none := by
    rw [List.head?_eq_none_iff.mp none, Multiset.coe_nil]
  not_less_of_top queue element onTop other member := by
    obtain ⟨rest, split⟩ := List.head?_eq_some_iff.mp onTop
    have sorted := queue.sorted
    rw [split] at sorted
    rw [split, Multiset.mem_coe] at member
    rw [decide_eq_false_iff_not, not_lt]
    rcases List.mem_cons.mp member with rfl | later
    · exact le_rfl
    · exact List.rel_of_pairwise_cons sorted later
  cons_elements_pop queue element onTop := by
    obtain ⟨rest, split⟩ := List.head?_eq_some_iff.mp onTop
    simp only [split, List.tail_cons, Multiset.cons_coe]

end SortedBy

end PriorityQueue

end TurboCore.Foundation
