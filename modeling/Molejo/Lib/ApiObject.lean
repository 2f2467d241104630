import Mathlib.Data.List.Basic

/-!
# Objects of a cluster

The objects that controllers share through an API server come with two counters. The
`resourceVersion` is new with every write, so that a writer can ask that nothing was written since
it read (*optimistic locking*). The `generation` is new with every change of the *spec*, so that
whoever reports about an object in its *status* can say which spec it is reporting on.

A `Slot` is the place of an object with a given name: the object that is there now, if one is, and
every version that has ever been there, which is what a controller may have read at some time. The
fields say what the server promises, and each operation proves it again: who read the version that
is there now, read what is there now.

Reports are lists of *conditions*, at most one of each type, which `setCondition` replaces.
-/

namespace ApiObject

/-! ### Objects -/

/-- One version of an object. -/
structure Object (μ σ τ : Type*) where
  uid : ℕ
  resourceVersion : ℕ
  generation : ℕ
  metadata : μ
  spec : σ
  status : τ
deriving DecidableEq

/-- The place of an object: what is there now, and all that has been there. -/
structure Slot (μ σ τ : Type*) where
  current : Option (Object μ σ τ)
  past : List (Object μ σ τ)
  /-- The last `resourceVersion` that was given out. -/
  revision : ℕ
  current_mem : ∀ o ∈ current, o ∈ past
  le_revision : ∀ o ∈ past, o.resourceVersion ≤ revision
  unique : ∀ o ∈ past, ∀ o' ∈ past, o.resourceVersion = o'.resourceVersion → o = o'

namespace Slot

variable {μ σ τ : Type*}

/-- Nothing has been there. -/
def empty : Slot μ σ τ where
  current := none
  past := []
  revision := 0
  current_mem := by simp
  le_revision := by simp
  unique := by simp

/-- Write a version of the object. -/
def put (s : Slot μ σ τ) (o : Object μ σ τ) : Slot μ σ τ where
  current := some { o with resourceVersion := s.revision + 1 }
  past := { o with resourceVersion := s.revision + 1 } :: s.past
  revision := s.revision + 1
  current_mem := by simp
  le_revision q hq := by
    rcases List.mem_cons.mp hq with rfl | hq
    · exact Nat.le_refl _
    · exact Nat.le_succ_of_le (s.le_revision q hq)
  unique q hq q' hq' hrv := by
    have hlt : ∀ r ∈ s.past, r.resourceVersion ≠ s.revision + 1 := fun r hr =>
      Nat.ne_of_lt (Nat.lt_succ_of_le (s.le_revision r hr))
    rcases List.mem_cons.mp hq with rfl | hq <;> rcases List.mem_cons.mp hq' with rfl | hq'
    · rfl
    · exact absurd hrv.symm (hlt q' hq')
    · exact absurd hrv (hlt q hq)
    · exact s.unique q hq q' hq' hrv

/-- Create an object. -/
def create (s : Slot μ σ τ) (metadata : μ) (spec : σ) (status : τ) : Slot μ σ τ :=
  s.put ⟨s.revision + 1, 0, 1, metadata, spec, status⟩

/-- Write the metadata and the spec of the object. Nothing is written if nothing changes. -/
def apply [DecidableEq μ] [DecidableEq σ] (s : Slot μ σ τ) (metadata : μ) (spec : σ) :
    Slot μ σ τ :=
  match s.current with
  | none => s
  | some o =>
    if metadata = o.metadata ∧ spec = o.spec then s
    else s.put { o with
      metadata := metadata
      spec := spec
      generation := if spec = o.spec then o.generation else o.generation + 1 }

/-- Write the status of the object. -/
def setStatus (s : Slot μ σ τ) (status : τ) : Slot μ σ τ :=
  match s.current with
  | none => s
  | some o => s.put { o with status := status }

/-- Write the status of the object, if it is still as it was read. -/
def patchStatus (s : Slot μ σ τ) (seen : Object μ σ τ) (status : τ) : Slot μ σ τ :=
  match s.current with
  | none => s
  | some o =>
    if seen.resourceVersion = o.resourceVersion then s.put { o with status := status } else s

/-- Delete the object. -/
def delete (s : Slot μ σ τ) : Slot μ σ τ where
  current := none
  past := s.past
  revision := s.revision
  current_mem := by simp
  le_revision := s.le_revision
  unique := s.unique

section Results

variable {s : Slot μ σ τ} {o : Object μ σ τ}

/-- **What writing a spec does to the object.** Either the spec stays, and the generation with it,
or the generation is a new one; the status is the same. -/
theorem current_apply [DecidableEq μ] [DecidableEq σ] (h : s.current = some o) (metadata : μ)
    (spec : σ) :
    ∃ q, (s.apply metadata spec).current = some q ∧ q.uid = o.uid ∧ q.metadata = metadata ∧
      q.spec = spec ∧ q.status = o.status ∧
      (q.generation = o.generation ∧ spec = o.spec ∨ q.generation = o.generation + 1) := by
  simp only [apply, h]
  split
  · next hsame => exact ⟨o, h, rfl, hsame.1.symm, hsame.2.symm, rfl, .inl ⟨rfl, hsame.2⟩⟩
  · refine ⟨_, rfl, rfl, rfl, rfl, rfl, ?_⟩
    by_cases hspec : spec = o.spec
    · exact .inl ⟨if_pos hspec, hspec⟩
    · exact .inr (if_neg hspec)

theorem current_setStatus (h : s.current = some o) (status : τ) :
    ∃ q, (s.setStatus status).current = some q ∧ q.uid = o.uid ∧ q.metadata = o.metadata ∧
      q.generation = o.generation ∧ q.spec = o.spec ∧ q.status = status := by
  simp only [setStatus, h]
  exact ⟨_, rfl, rfl, rfl, rfl, rfl, rfl⟩

end Results

end Slot

/-! ### Conditions -/

/-- `metav1.ConditionStatus`. -/
inductive ConditionStatus
  | true
  | false
  | unknown
deriving DecidableEq

/-- `metav1.Condition`, without the time of its last transition. -/
structure Condition (κ : Type*) where
  type : κ
  status : ConditionStatus
  observedGeneration : ℕ
  reason : String
  message : String
deriving DecidableEq

variable {κ : Type*} [DecidableEq κ]

/-- `meta.SetStatusCondition`. -/
def setCondition : List (Condition κ) → Condition κ → List (Condition κ)
  | [], condition => [condition]
  | c :: conditions, condition =>
    if c.type = condition.type then condition :: conditions
    else c :: setCondition conditions condition

end ApiObject
