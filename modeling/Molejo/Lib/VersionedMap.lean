import Mathlib.Data.List.Basic

/-!
# Versioned maps with compare-and-set

A key–value store that keeps every version of every entry: version `k` of a key is
the `k`-th value written under it, the current version of a key that was never
written is zero, and a write names the version it expects to replace. A
`VersionedMap κ ν` is the function from keys to the lists of their values, oldest
first.

The two facts that protocols over such a store rest on are that a write leaves
every version written before it in place (`VersionedMap.get_write_of_get`) and
that a version, once current, is never undone
(`VersionedMap.current_le_current_write`). Only deleting a key takes its versions away.
-/

/-- Every version of every entry, oldest first. -/
def VersionedMap (κ ν : Type*) := κ → List ν

namespace VersionedMap

variable {κ ν : Type*}

/-- The store nothing has been written to. -/
def empty : VersionedMap κ ν := fun _ => []

instance : Inhabited (VersionedMap κ ν) := ⟨empty⟩

/-- The current version of a key; zero when it was never written. -/
def current (m : VersionedMap κ ν) (k : κ) : ℕ := (m k).length

/-- The value at a version of a key. Versions start at one. -/
def get (m : VersionedMap κ ν) (k : κ) : ℕ → Option ν
  | 0 => none
  | n + 1 => (m k)[n]?

variable [DecidableEq κ]

/-- Append a version to a key. -/
def write (m : VersionedMap κ ν) (k : κ) (v : ν) : VersionedMap κ ν :=
  fun l => if l = k then m k ++ [v] else m l

/-- Compare-and-set: write `v` under `k` if the current version is `cas`, and return the
version created; `none` when the comparison fails. -/
def put (m : VersionedMap κ ν) (k : κ) (v : ν) (cas : ℕ) : Option (ℕ × VersionedMap κ ν) :=
  if m.current k = cas then some (cas + 1, m.write k v) else none

/-- Forget all versions of a key. -/
def delete (m : VersionedMap κ ν) (k : κ) : VersionedMap κ ν :=
  fun l => if l = k then [] else m l

variable {m m' : VersionedMap κ ν} {k l : κ} {v w : ν} {n cas : ℕ}

theorem put_eq_some : m.put k v cas = some (n, m') ↔
    m.current k = cas ∧ n = cas + 1 ∧ m' = m.write k v := by
  unfold put
  by_cases h : m.current k = cas
  · simp [h, eq_comm]
  · simp [h]

omit [DecidableEq κ] in
/-- A version that can be read has been written. -/
theorem le_current_of_get (h : m.get k n = some w) : n ≤ m.current k := by
  cases n with
  | zero => exact Nat.zero_le _
  | succ =>
    obtain ⟨hlt, -⟩ := List.getElem?_eq_some_iff.mp h
    exact hlt

omit [DecidableEq κ] in
@[simp] theorem current_empty : (empty : VersionedMap κ ν).current k = 0 := rfl

@[simp] theorem current_write_self : (m.write k v).current k = m.current k + 1 := by
  simp [current, write]

theorem current_write_of_ne (h : l ≠ k) : (m.write k v).current l = m.current l := by
  simp [current, write, h]

/-- **Versions only grow.** -/
theorem current_le_current_write : m.current l ≤ (m.write k v).current l := by
  by_cases h : l = k
  · subst h
    simp
  · exact Nat.le_of_eq (current_write_of_ne h).symm

theorem get_write_of_ne (h : l ≠ k) : (m.write k v).get l n = m.get l n := by
  cases n with
  | zero => rfl
  | succ => simp [get, write, h]

/-- The value just written is at the version just created. -/
theorem get_write_self : (m.write k v).get k (m.current k + 1) = some v := by
  simp [get, write, current]

/-- **Written versions are immutable.** -/
theorem get_write_of_get (h : m.get l n = some w) : (m.write k v).get l n = some w := by
  by_cases hl : l = k
  · subst hl
    cases n with
    | zero => exact h
    | succ =>
      obtain ⟨hlt, -⟩ := List.getElem?_eq_some_iff.mp h
      simp only [get, write, if_true]
      rw [List.getElem?_append_left hlt]
      exact h
  · rw [get_write_of_ne hl]
    exact h

@[simp] theorem current_delete_self : (m.delete k).current k = 0 := by
  simp [current, delete]

theorem current_delete_of_ne (h : l ≠ k) : (m.delete k).current l = m.current l := by
  simp [current, delete, h]

end VersionedMap
