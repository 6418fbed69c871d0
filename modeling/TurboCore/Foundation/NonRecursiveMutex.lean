import Mathlib

/-!
# Data behind a non-recursive mutex

The view of one thread: the data and whether the thread holds the mutex that protects
it. Locking the mutex while holding it has no next state, so a procedure that does so
does not return.
-/

namespace TurboCore.Foundation

/-- The data and whether the calling thread holds its mutex. -/
structure Protected (Data : Type) where
  data : Data
  held : Bool

/-- A call made by the thread: the state it returns in, or `none` when it is stuck. -/
abbrev Procedure (Data : Type) := Protected Data → Option (Protected Data)

namespace Procedure

variable {Data Item : Type}

/-- Take the mutex; a thread that holds it already is stuck. -/
def lock : Procedure Data := fun state => if state.held then none else some ⟨state.data, true⟩

/-- A body under a lock guard: the mutex is released when the body is left. -/
def lockGuard (body : Procedure Data) : Procedure Data := fun state => do
  let locked ← lock state
  let left ← body locked
  return ⟨left.data, false⟩

/-- A change of the data that takes no lock. -/
def modify (change : Data → Data) : Procedure Data := fun state =>
  some ⟨change state.data, state.held⟩

/-- A loop that calls a procedure for each item in turn. -/
def forEach (body : Item → Procedure Data) (items : List Item) : Procedure Data := fun state =>
  items.foldlM (fun current item => body item current) state

/-- A second guard on the same mutex is never entered. -/
theorem lockGuard_of_held (body : Procedure Data) {state : Protected Data}
    (held : state.held = true) : lockGuard body state = none := by
  simp [lockGuard, lock, held]

theorem lockGuard_of_free (body : Procedure Data) {state : Protected Data}
    (free : state.held = false) :
    lockGuard body state = (body ⟨state.data, true⟩).map fun left => ⟨left.data, false⟩ := by
  simp only [lockGuard, lock, free, Bool.false_eq_true, if_false, Option.bind_eq_bind,
    Option.bind_some]
  cases body ⟨state.data, true⟩ <;> rfl

/-- A loop of calls that all lock the mutex the thread holds is passed only without items. -/
theorem forEach_of_held (body : Item → Procedure Data) (items : List Item)
    {state : Protected Data} (stuck : ∀ item, body item state = none) :
    forEach body items state = if items = [] then some state else none := by
  cases items with
  | nil => rfl
  | cons item items =>
      rw [if_neg (List.cons_ne_nil item items), forEach, List.foldlM_cons, stuck item]
      rfl

end Procedure

end TurboCore.Foundation
