import Mathlib.Data.List.Nodup
import Mathlib.Data.List.Perm.Subperm

/-!
# Tables with an identity column

A relational table as a program sees it through SQL: rows carry a generated
identity, a query scans them in the order of that identity, and an update or a
deletion acts on all the rows meeting a condition. A `Table ρ` is a list of
identities paired with rows, and it carries the two facts a database guarantees
about an identity column – identities increase along the list, and the sequence
that generates them is ahead of all of them – so that no proof has to recover
them.

| SQL | here |
|---|---|
| `INSERT INTO t VALUES (r)` | `Table.insert t r` |
| `UPDATE t SET f WHERE p` | `Table.modify t p f` |
| `DELETE FROM t WHERE p` | `Table.delete t p` |
| `EXISTS (SELECT 1 FROM t WHERE p)` | `Table.Any t p` |
| `SELECT … WHERE p ORDER BY id LIMIT 1` | `Table.first t p` |
| `SELECT … WHERE p ORDER BY id` | `Table.select t p` |

All reasoning goes through `Table.lookup`, the row at an identity: each operation
comes with the equation for the `lookup` of its result, and each query with its
meaning in terms of `lookup`. A table is thus used as the partial function it
denotes, and computed as the list it is.
-/

/-- A table: rows in the order of their generated identities. -/
structure Table (ρ : Type*) where
  /-- The rows, each with its identity. -/
  rows : List (ℕ × ρ)
  /-- The identity the next inserted row receives. -/
  nextId : ℕ
  /-- Identities are distinct, and the rows stand in their order. -/
  sorted : (rows.map Prod.fst).Pairwise (· < ·)
  /-- The sequence is ahead of every identity handed out. -/
  bounded : ∀ i ∈ rows.map Prod.fst, i < nextId

namespace Table

variable {ρ : Type*}

/-! ### Operations -/

/-- The table without rows; identity columns start at one. -/
def empty : Table ρ where
  rows := []
  nextId := 1
  sorted := List.Pairwise.nil
  bounded := by simp

instance : Inhabited (Table ρ) := ⟨empty⟩

/-- The row at an identity. -/
def lookup (t : Table ρ) (i : ℕ) : Option ρ :=
  (t.rows.find? fun x => x.1 = i).map Prod.snd

/-- Insert a row under the next identity. -/
def insert (t : Table ρ) (r : ρ) : Table ρ where
  rows := t.rows ++ [(t.nextId, r)]
  nextId := t.nextId + 1
  sorted := by
    simpa [List.pairwise_append, t.sorted] using fun i r h =>
      t.bounded i (List.mem_map_of_mem (f := Prod.fst) h)
  bounded := by
    intro i hi
    rw [List.map_append, List.mem_append] at hi
    rcases hi with hi | hi
    · exact Nat.lt_succ_of_lt (t.bounded i hi)
    · have : i = t.nextId := by simpa using hi
      omega

section Conditional

variable (t : Table ρ) (p : ℕ → ρ → Prop) [∀ i r, Decidable (p i r)]

/-- Apply `f` to every row meeting `p`. -/
def modify (f : ρ → ρ) : Table ρ where
  rows := t.rows.map fun x => (x.1, if p x.1 x.2 then f x.2 else x.2)
  nextId := t.nextId
  sorted := by simpa [Function.comp_def] using t.sorted
  bounded := by simpa [Function.comp_def] using t.bounded

/-- Remove every row meeting `p`. -/
def delete : Table ρ where
  rows := t.rows.filter fun x => ¬ p x.1 x.2
  nextId := t.nextId
  sorted := t.sorted.sublist (List.filter_sublist.map _)
  bounded := fun i hi => t.bounded i ((List.filter_sublist.map _).subset hi)

/-- Some row meets `p`. -/
def Any : Prop := ∃ x ∈ t.rows, p x.1 x.2

instance : Decidable (t.Any p) :=
  inferInstanceAs (Decidable (∃ x ∈ t.rows, p x.1 x.2))

/-- The rows meeting `p`, in the order of their identities. -/
def select : List (ℕ × ρ) := t.rows.filter fun x => p x.1 x.2

/-- The row of least identity among those meeting `p`. -/
def first : Option (ℕ × ρ) := t.rows.find? fun x => p x.1 x.2

end Conditional

/-! ### Rows and identities -/

section Lookup

variable {t : Table ρ} {i j : ℕ} {r q : ρ}

theorem eq_of_mem_rows (hr : (i, r) ∈ t.rows) (hq : (i, q) ∈ t.rows) : r = q := by
  have hnd : (t.rows.map Prod.fst).Nodup := t.sorted.imp Nat.ne_of_lt
  have := List.inj_on_of_nodup_map hnd hr hq rfl
  exact (Prod.mk.inj this).2

/-- **The rows of a table are the graph of its `lookup`.** -/
theorem mem_rows_iff : (i, r) ∈ t.rows ↔ t.lookup i = some r := by
  constructor
  · intro h
    unfold lookup
    cases hf : t.rows.find? fun x => x.1 = i with
    | none =>
      have := List.find?_eq_none.mp hf _ h
      simp at this
    | some x =>
      obtain ⟨j, q⟩ := x
      have hj : j = i := by simpa using List.find?_some hf
      subst hj
      have : q = r := eq_of_mem_rows (List.mem_of_find?_eq_some hf) h
      simp [this]
  · intro h
    obtain ⟨⟨j, q⟩, hf, hq⟩ := Option.map_eq_some_iff.mp h
    have hj : j = i := by simpa using List.find?_some hf
    have hqr : q = r := hq
    subst hj
    subst hqr
    exact List.mem_of_find?_eq_some hf

theorem lt_nextId (h : t.lookup i = some r) : i < t.nextId :=
  t.bounded i (List.mem_map_of_mem (f := Prod.fst) (mem_rows_iff.mpr h))

theorem lookup_nextId (t : Table ρ) : t.lookup t.nextId = none := by
  cases h : t.lookup t.nextId with
  | none => rfl
  | some => exact absurd (lt_nextId h) (Nat.lt_irrefl _)

end Lookup

/-! ### The lookups of a result -/

section Results

variable {t : Table ρ} {i j : ℕ} {r q : ρ}

/-- What is known of the row that is there is known of the row that was found. -/
theorem of_found {x : Option ρ} {P : ρ → Prop} (h : ∃ r, x = some r ∧ P r) (hq : x = some q) :
    P q := by
  obtain ⟨_, hr, hp⟩ := h
  exact Option.mem_unique hr hq ▸ hp

@[simp] theorem lookup_empty : (empty : Table ρ).lookup i = none := rfl

/-- Anything can be said of the rows of a table that is empty. -/
theorem of_lookup_empty {C : Prop} (h : t = empty) (hr : t.lookup i = some r) : C := by
  rw [h] at hr
  cases hr

@[simp] theorem nextId_insert : (t.insert r).nextId = t.nextId + 1 := rfl

@[simp] theorem lookup_insert_eq_some :
    (t.insert r).lookup i = some q ↔ (i = t.nextId ∧ q = r) ∨ t.lookup i = some q := by
  rw [← mem_rows_iff, ← mem_rows_iff]
  simp only [insert, List.mem_append, List.mem_singleton, Prod.mk.injEq]
  exact or_comm

theorem lookup_insert_self : (t.insert r).lookup t.nextId = some r :=
  lookup_insert_eq_some.mpr (.inl ⟨rfl, rfl⟩)

theorem lookup_insert_of_lookup (h : t.lookup i = some q) : (t.insert r).lookup i = some q :=
  lookup_insert_eq_some.mpr (.inr h)

theorem exists_lookup_insert {P : ℕ → ρ → Prop} (r : ρ) :
    (∃ i q, t.lookup i = some q ∧ P i q) → ∃ i q, (t.insert r).lookup i = some q ∧ P i q
  | ⟨i, q, hq, h⟩ => ⟨i, q, lookup_insert_of_lookup hq, h⟩

/-- A condition on every row survives an insertion when the new row meets it. -/
theorem forall_insert {P : ℕ → ρ → Prop} (h : ∀ i q, t.lookup i = some q → P i q)
    (hr : P t.nextId r) : ∀ i q, (t.insert r).lookup i = some q → P i q := by
  intro i q hq
  rcases lookup_insert_eq_some.mp hq with ⟨rfl, rfl⟩ | hq
  · exact hr
  · exact h i q hq

/-- A relation between any two rows survives an insertion when the new row takes part in it. -/
theorem forall_pairs_insert {R : ℕ → ρ → ℕ → ρ → Prop}
    (h : ∀ i q j q', t.lookup i = some q → t.lookup j = some q' → R i q j q')
    (hself : R t.nextId r t.nextId r)
    (hnew : ∀ i q, t.lookup i = some q → R t.nextId r i q ∧ R i q t.nextId r) :
    ∀ i q j q', (t.insert r).lookup i = some q → (t.insert r).lookup j = some q' →
      R i q j q' := by
  intro i q j q' hi hj
  rw [lookup_insert_eq_some] at hi hj
  rcases hi with ⟨rfl, rfl⟩ | hi
  · rcases hj with ⟨rfl, rfl⟩ | hj
    · exact hself
    · exact (hnew j q' hj).1
  · rcases hj with ⟨rfl, rfl⟩ | hj
    · exact (hnew i q hi).2
    · exact h i q j q' hi hj

variable {p : ℕ → ρ → Prop} [∀ i r, Decidable (p i r)] {f : ρ → ρ}

@[simp] theorem lookup_modify :
    (t.modify p f).lookup i = (t.lookup i).map fun r => if p i r then f r else r := by
  ext q
  rw [← mem_rows_iff, Option.map_eq_some_iff]
  simp only [modify, List.mem_map, Prod.exists, Prod.mk.injEq, mem_rows_iff]
  constructor
  · rintro ⟨_, r, hr, rfl, hq⟩
    exact ⟨r, hr, hq⟩
  · rintro ⟨r, hr, hq⟩
    exact ⟨i, r, hr, rfl, hq⟩

theorem lookup_modify_of_pos (h : t.lookup i = some r) (hp : p i r) :
    (t.modify p f).lookup i = some (f r) := by
  simp [h, hp]

theorem lookup_modify_of_neg (h : t.lookup i = some r) (hp : ¬ p i r) :
    (t.modify p f).lookup i = some r := by
  simp [h, hp]

/-- A row is still there after an update, with what it has and the update keeps. -/
theorem exists_lookup_modify {P : ρ → Prop} (h : t.lookup i = some r) (hr : P r)
    (hf : p i r → P (f r)) : ∃ r', (t.modify p f).lookup i = some r' ∧ P r' := by
  by_cases hp : p i r
  · exact ⟨f r, lookup_modify_of_pos h hp, hf hp⟩
  · exact ⟨r, lookup_modify_of_neg h hp, hr⟩

theorem not_lookup_modify (h : t.lookup i = none) : (t.modify p f).lookup i ≠ some r := by
  simp [h]

/-- A row of an updated table comes from a row of the table, updated or left alone. -/
theorem lookup_modify_eq_some :
    (t.modify p f).lookup i = some q ↔
      ∃ r, t.lookup i = some r ∧ ((p i r ∧ q = f r) ∨ (¬ p i r ∧ q = r)) := by
  rw [lookup_modify, Option.map_eq_some_iff]
  refine exists_congr fun r => and_congr_right fun _ => ?_
  by_cases hp : p i r
  · simp [hp, eq_comm]
  · simp [hp, eq_comm]

/-- A condition on every row survives an update when the updated rows meet it. -/
theorem forall_modify {P : ℕ → ρ → Prop} (h : ∀ i q, t.lookup i = some q → P i q)
    (hf : ∀ i q, t.lookup i = some q → p i q → P i (f q)) :
    ∀ i q, (t.modify p f).lookup i = some q → P i q := by
  intro i q hq
  obtain ⟨r, hr, ⟨hp, rfl⟩ | ⟨-, rfl⟩⟩ := lookup_modify_eq_some.mp hq
  · exact hf i r hr hp
  · exact h i q hr

/-- A row of an updated table agrees with the row it comes from in whatever the update keeps. -/
theorem exists_of_lookup_modify {γ : Type*} (h : (t.modify p f).lookup i = some q) (g : ρ → γ)
    (hg : ∀ r, g (f r) = g r) : ∃ r, t.lookup i = some r ∧ g q = g r := by
  obtain ⟨r, hr, ⟨-, rfl⟩ | ⟨-, rfl⟩⟩ := lookup_modify_eq_some.mp h
  · exact ⟨r, hr, hg r⟩
  · exact ⟨q, hr, rfl⟩

@[simp] theorem lookup_delete_eq_some :
    (t.delete p).lookup i = some q ↔ t.lookup i = some q ∧ ¬ p i q := by
  rw [← mem_rows_iff, ← mem_rows_iff]
  simp [delete, List.mem_filter]

theorem forall_pairs_delete {R : ℕ → ρ → ℕ → ρ → Prop}
    (h : ∀ i q j q', t.lookup i = some q → t.lookup j = some q' → R i q j q') :
    ∀ i q j q', (t.delete p).lookup i = some q → (t.delete p).lookup j = some q' → R i q j q' :=
  fun i q j q' hi hj => h i q j q' (lookup_delete_eq_some.mp hi).1 (lookup_delete_eq_some.mp hj).1

end Results

/-! ### The meaning of a query -/

section Queries

variable {t : Table ρ} {p : ℕ → ρ → Prop} [∀ i r, Decidable (p i r)] {i j : ℕ} {r : ρ}

omit [∀ i r, Decidable (p i r)] in
theorem any_iff : t.Any p ↔ ∃ i r, t.lookup i = some r ∧ p i r := by
  simp only [Any, Prod.exists, mem_rows_iff]

omit [∀ i r, Decidable (p i r)] in
theorem not_any_iff : ¬ t.Any p ↔ ∀ i r, t.lookup i = some r → ¬ p i r := by
  simp only [any_iff, not_exists, not_and]

/-- A condition on every row can be evaluated. -/
instance decidableForallLookup : Decidable (∀ i r, t.lookup i = some r → p i r) :=
  decidable_of_iff (∀ x ∈ t.rows, p x.1 x.2)
    ⟨fun h i r hr => h (i, r) (mem_rows_iff.mpr hr), fun h x hx => h x.1 x.2 (mem_rows_iff.mp hx)⟩

theorem mem_select : (i, r) ∈ t.select p ↔ t.lookup i = some r ∧ p i r := by
  simp [select, List.mem_filter, mem_rows_iff]

theorem nodup_select : (t.select p).Nodup := by
  have hrows : t.rows.Nodup := List.Nodup.of_map Prod.fst (t.sorted.imp Nat.ne_of_lt)
  exact hrows.filter _

/-- A query whose answer is among the answers of another one, row by row, is not longer. -/
theorem length_select_le {u : Table ρ} {q : ℕ → ρ → Prop} [∀ i r, Decidable (q i r)]
    (h : ∀ i r, t.lookup i = some r → p i r → ∃ r', u.lookup i = some r' ∧ q i r') :
    (t.select p).length ≤ (u.select q).length := by
  have hids : ((t.select p).map Prod.fst).Nodup :=
    (t.sorted.sublist (List.filter_sublist.map _)).imp Nat.ne_of_lt
  have hsub : (t.select p).map Prod.fst ⊆ (u.select q).map Prod.fst := by
    intro i hi
    obtain ⟨⟨j, r⟩, hr, rfl⟩ := List.mem_map.mp hi
    obtain ⟨hl, hp⟩ := mem_select.mp hr
    obtain ⟨r', hl', hq⟩ := h j r hl hp
    exact List.mem_map.mpr ⟨(j, r'), mem_select.mpr ⟨hl', hq⟩, rfl⟩
  simpa using (hids.subperm hsub).length_le

/-- A query has a shorter answer than one that returns all of its rows and one more. -/
theorem length_select_lt {u : Table ρ} {q : ℕ → ρ → Prop} [∀ i r, Decidable (q i r)]
    (h : ∀ i r, t.lookup i = some r → p i r → ∃ r', u.lookup i = some r' ∧ q i r')
    {k : ℕ} {x : ρ} (hx : u.lookup k = some x) (hq : q k x)
    (hn : ∀ r, t.lookup k = some r → ¬ p k r) :
    (t.select p).length < (u.select q).length := by
  have hids : (k :: (t.select p).map Prod.fst).Nodup := by
    refine List.nodup_cons.mpr ⟨fun hk => ?_,
      (t.sorted.sublist (List.filter_sublist.map _)).imp Nat.ne_of_lt⟩
    obtain ⟨y, hy, rfl⟩ := List.mem_map.mp hk
    obtain ⟨hl, hp⟩ := mem_select.mp hy
    exact hn y.2 hl hp
  have hsub : k :: (t.select p).map Prod.fst ⊆ (u.select q).map Prod.fst := by
    intro i hi
    rcases List.mem_cons.mp hi with rfl | hi
    · exact List.mem_map.mpr ⟨(i, x), mem_select.mpr ⟨hx, hq⟩, rfl⟩
    · obtain ⟨y, hy, rfl⟩ := List.mem_map.mp hi
      obtain ⟨hl, hp⟩ := mem_select.mp hy
      obtain ⟨r', hr', hq'⟩ := h y.1 y.2 hl hp
      exact List.mem_map.mpr ⟨(y.1, r'), mem_select.mpr ⟨hr', hq'⟩, rfl⟩
  have hle := (List.subperm_of_subset hids hsub).length_le
  rw [List.length_cons, List.length_map, List.length_map] at hle
  exact hle

/-- A row that is inserted lengthens the answers it belongs to by one. -/
theorem length_select_insert (hp : p t.nextId r) :
    ((t.insert r).select p).length = (t.select p).length + 1 := by
  simp [select, insert, hp]

/-- An update that takes no row into a query leaves of the answer what meets its condition
afterwards. -/
theorem length_select_modify {q : ℕ → ρ → Prop} [∀ i r, Decidable (q i r)] {f : ρ → ρ}
    (hkeep : ∀ i r, t.lookup i = some r → p i r → q i (f r) → q i r) :
    ((t.modify p f).select q).length = ((t.select q).filter fun x =>
      q x.1 (if p x.1 x.2 then f x.2 else x.2)).length := by
  simp only [select, modify, List.filter_map, List.length_map, List.filter_filter]
  refine congrArg _ (List.filter_congr fun x hx => ?_)
  by_cases hpx : p x.1 x.2
  · have := hkeep x.1 x.2 (mem_rows_iff.mp hx) hpx
    simpa [hpx] using this
  · simp [hpx]

theorem length_select_modify_le {u : Table ρ} {q : ℕ → ρ → Prop} [∀ i r, Decidable (q i r)]
    {f : ρ → ρ} (hu : u = t.modify p f)
    (hkeep : ∀ i r, t.lookup i = some r → p i r → q i (f r) → q i r) :
    (u.select q).length ≤ (t.select q).length := by
  rw [hu, length_select_modify hkeep]
  exact List.length_filter_le _ _

/-- **An update that takes a row out of a query, and none into it, makes the answer shorter.** -/
theorem length_select_modify_lt {u : Table ρ} {q : ℕ → ρ → Prop} [∀ i r, Decidable (q i r)]
    {f : ρ → ρ} (hu : u = t.modify p f)
    (hkeep : ∀ i r, t.lookup i = some r → p i r → q i (f r) → q i r)
    (hr : t.lookup i = some r) (hp : p i r) (hq : q i r) (hn : ¬ q i (f r)) :
    (u.select q).length < (t.select q).length := by
  rw [hu, length_select_modify hkeep]
  refine List.length_filter_lt_length_iff_exists.mpr ⟨(i, r), mem_select.mpr ⟨hr, hq⟩, ?_⟩
  simpa [hp] using hn

theorem first_eq_none : t.first p = none ↔ ∀ i r, t.lookup i = some r → ¬ p i r := by
  simp only [first, List.find?_eq_none, Prod.forall, mem_rows_iff, decide_eq_true_eq]

theorem lookup_of_first (h : t.first p = some (i, r)) : t.lookup i = some r :=
  mem_rows_iff.mp (List.mem_of_find?_eq_some h)

theorem pos_of_first (h : t.first p = some (i, r)) : p i r := by
  simpa using List.find?_some h

/-- **A query ordered by identity returns the oldest row meeting its condition.** -/
theorem le_of_first (h : t.first p = some (i, r)) {q : ρ} (hj : t.lookup j = some q)
    (hq : p j q) : i ≤ j := by
  obtain ⟨-, _, _, hrows, hbefore⟩ := List.find?_eq_some_iff_append.mp h
  have hmem := mem_rows_iff.mpr hj
  have hsorted : t.rows.Pairwise fun x y => x.1 < y.1 := List.pairwise_map.mp t.sorted
  rw [hrows] at hmem hsorted
  rcases List.mem_append.mp hmem with ha | hb
  · exact absurd hq (by simpa using hbefore _ ha)
  · rcases List.mem_cons.mp hb with hb | hb
    · exact Nat.le_of_eq (Prod.mk.inj hb).1.symm
    · have hcons := (List.pairwise_append.mp hsorted).2.1
      exact Nat.le_of_lt ((List.pairwise_cons.mp hcons).1 _ hb)

/-- Rows that are changed, and are not looked for either before or after, do not matter. -/
theorem first_modify_of_not {q : ℕ → ρ → Prop} [∀ i r, Decidable (q i r)] {f : ρ → ρ}
    (h : ∀ i r, q i r → ¬ p i r ∧ ¬ p i (f r)) : (t.modify q f).first p = t.first p := by
  simp only [first, modify]
  induction t.rows with
  | nil => rfl
  | cons x _ ih =>
    rw [List.map_cons, List.find?_cons, List.find?_cons, ih]
    by_cases hq : q x.1 x.2
    · simp [hq, h x.1 x.2 hq]
    · simp [hq]

theorem exists_first (h : t.Any p) : ∃ i r, t.first p = some (i, r) := by
  cases hf : t.first p with
  | none => exact absurd h (not_any_iff.mpr (first_eq_none.mp hf))
  | some x => exact ⟨x.1, x.2, rfl⟩

/-- A query that only one row meets returns it. -/
theorem first_eq_some_of_unique (hl : t.lookup i = some r) (hr : p i r)
    (hu : ∀ j q, t.lookup j = some q → p j q → j = i) : t.first p = some (i, r) := by
  obtain ⟨j, q, hf⟩ := exists_first (any_iff.mpr ⟨i, r, hl, hr⟩)
  obtain rfl := hu j q (lookup_of_first hf) (pos_of_first hf)
  cases hl.symm.trans (lookup_of_first hf)
  exact hf

end Queries

/-! ### Agreement up to a projection

An update often concerns a few columns only. Two tables *agree* in a projection `g`
of their rows if they have the same identities and `g` sees the same at each of
them; what depends on `g` alone is then the same of both. -/

section Agreement

variable {γ : Type*} {g : ρ → γ} {t u v : Table ρ} {i : ℕ} {r : ρ}

/-- The tables have the same identities, and rows that agree in `g`. -/
def Agree (g : ρ → γ) (t u : Table ρ) : Prop :=
  t.nextId = u.nextId ∧ ∀ i, (t.lookup i).map g = (u.lookup i).map g

theorem Agree.refl (g : ρ → γ) (t : Table ρ) : Agree g t t := ⟨rfl, fun _ => rfl⟩

theorem Agree.symm (h : Agree g t u) : Agree g u t := ⟨h.1.symm, fun i => (h.2 i).symm⟩

theorem Agree.trans (h : Agree g t u) (h' : Agree g u v) : Agree g t v :=
  ⟨h.1.trans h'.1, fun i => (h.2 i).trans (h'.2 i)⟩

/-- A row of one table has a counterpart in the other. -/
theorem Agree.exists_lookup (h : Agree g t u) (hr : t.lookup i = some r) :
    ∃ q, u.lookup i = some q ∧ g q = g r := by
  have hm := h.2 i
  rw [hr, Option.map_some] at hm
  exact Option.map_eq_some_iff.mp hm.symm

theorem Agree.not_lookup (h : Agree g t u) (hn : t.lookup i = none) : u.lookup i ≠ some r := by
  intro hr
  obtain ⟨_, hq, -⟩ := h.symm.exists_lookup hr
  cases hn.symm.trans hq

/-- A relation between any two rows that depends on `g` alone. -/
theorem Agree.forall_pairs {R : ℕ → γ → ℕ → γ → Prop} (h : Agree g t u)
    (ht : ∀ i q j q', t.lookup i = some q → t.lookup j = some q' → R i (g q) j (g q')) :
    ∀ i q j q', u.lookup i = some q → u.lookup j = some q' → R i (g q) j (g q') := by
  intro i q j q' hi hj
  obtain ⟨r, hr, heq⟩ := h.symm.exists_lookup hi
  obtain ⟨r', hr', heq'⟩ := h.symm.exists_lookup hj
  exact heq ▸ heq' ▸ ht i r j r' hr hr'

/-- Tables that agree in `g` agree in what can be computed from it. -/
theorem Agree.comp {δ : Type*} (h : Agree g t u) (k : γ → δ) : Agree (fun r => k (g r)) t u := by
  refine ⟨h.1, fun i => ?_⟩
  have hm := congrArg (Option.map k) (h.2 i)
  rwa [Option.map_map, Option.map_map] at hm

/-- An update agrees with the table it updates in whatever it keeps of the rows it changes. -/
theorem agree_modify_of {p : ℕ → ρ → Prop} [∀ i r, Decidable (p i r)] {f : ρ → ρ}
    (hf : ∀ i r, t.lookup i = some r → p i r → g (f r) = g r) : Agree g t (t.modify p f) := by
  refine ⟨rfl, fun i => ?_⟩
  rw [lookup_modify]
  cases hr : t.lookup i with
  | none => rfl
  | some r =>
    show some (g r) = some (g (if p i r then f r else r))
    split
    · next hp => rw [hf i r hr hp]
    · rfl

theorem agree_modify {p : ℕ → ρ → Prop} [∀ i r, Decidable (p i r)] {f : ρ → ρ}
    (hf : ∀ r, g (f r) = g r) : Agree g t (t.modify p f) :=
  agree_modify_of fun _ r _ _ => hf r

theorem forall_pairs_modify {p : ℕ → ρ → Prop} [∀ i r, Decidable (p i r)] {f : ρ → ρ}
    {R : ℕ → γ → ℕ → γ → Prop} (g : ρ → γ)
    (h : ∀ i q j q', t.lookup i = some q → t.lookup j = some q' → R i (g q) j (g q'))
    (hf : ∀ r, g (f r) = g r := by intro _; rfl) :
    ∀ i q j q', (t.modify p f).lookup i = some q → (t.modify p f).lookup j = some q' →
      R i (g q) j (g q') :=
  (agree_modify hf).forall_pairs h

theorem Agree.modify {p : ℕ → ρ → Prop} [∀ i r, Decidable (p i r)] {f : ρ → ρ}
    (h : Agree g t u) (hf : ∀ r, g (f r) = g r) : Agree g t (u.modify p f) :=
  h.trans (agree_modify hf)

end Agreement

/-! ### Evolution -/

section Evolution

variable {R : ℕ → ρ → ρ → Prop} {N : ℕ → ρ → Prop} {t u : Table ρ} {r : ρ}

/-- Every row is still there and has taken a step of `R`, and what is new meets `N`. -/
structure Evolves (R : ℕ → ρ → ρ → Prop) (N : ℕ → ρ → Prop) (t u : Table ρ) : Prop where
  lives : ∀ i r, t.lookup i = some r → ∃ r', u.lookup i = some r' ∧ R i r r'
  new : ∀ i r, t.lookup i = none → u.lookup i = some r → N i r

theorem Evolves.refl (hR : ∀ i r, R i r r) : Evolves R N t t where
  lives i r hr := ⟨r, hr, hR i r⟩
  new _ _ hn hr := nomatch hn.symm.trans hr

theorem Evolves.of_modify {p : ℕ → ρ → Prop} {_ : ∀ i r, Decidable (p i r)} {f : ρ → ρ}
    (hR : ∀ i r, R i r r) (hf : ∀ i r, t.lookup i = some r → p i r → R i r (f r)) :
    Evolves R N t (t.modify p f) where
  lives i r hr := exists_lookup_modify hr (hR i r) (hf i r hr)
  new _ _ hn hr := absurd hr (not_lookup_modify hn)

/-- A row was there before, or is new. -/
theorem Evolves.cases (h : Evolves R N t u) {i : ℕ} (hr : u.lookup i = some r) :
    (∃ q, t.lookup i = some q ∧ R i q r) ∨ N i r := by
  cases hn : t.lookup i with
  | none => exact .inr (h.new i r hn hr)
  | some q => exact .inl ⟨q, rfl, of_found (h.lives i q hn) hr⟩

/-- One more row is new. -/
theorem Evolves.insert (h : Evolves R N t u) (hr : N u.nextId r) : Evolves R N t (u.insert r) where
  lives i q hq := by
    obtain ⟨q', hq', hR⟩ := h.lives i q hq
    exact ⟨q', lookup_insert_of_lookup hq', hR⟩
  new i q hn hq := by
    rcases lookup_insert_eq_some.mp hq with ⟨rfl, rfl⟩ | hq
    · exact hr
    · exact h.new i q hn hq

end Evolution

/-! ### Views -/

section Views

variable {σ : Type*} {v : ρ → σ} {t : Table ρ} {u : Table σ} {p : ℕ → ρ → Prop}
  {_ : ∀ i r, Decidable (p i r)}
  {q : ℕ → σ → Prop} {_ : ∀ i s, Decidable (q i s)} {f : ρ → ρ} {h : σ → σ}

/-- A table of which only some columns are kept. -/
def view (v : ρ → σ) (t : Table ρ) : Table σ where
  rows := t.rows.map fun x => (x.1, v x.2)
  nextId := t.nextId
  sorted := by simpa [Function.comp_def] using t.sorted
  bounded := by simpa [Function.comp_def] using t.bounded

/-- A query that reads the kept columns only. -/
theorem first_view (hq : ∀ i r, q i (v r) ↔ p i r) :
    (t.view v).first q = (t.first p).map fun x => (x.1, v x.2) := by
  simp only [first, view, List.find?_map, Function.comp_def, hq]

/-- An update that reads and writes the kept columns. -/
theorem modify_view (ht : u = t.view v) (hq : ∀ i r, q i (v r) ↔ p i r)
    (hf : ∀ r, v (f r) = h (v r)) : u.modify q h = (t.modify p f).view v := by
  simp only [ht, view, modify, List.map_map, Function.comp_def, hq, apply_ite v, hf]

/-- An update of other columns. -/
theorem view_modify_eq (hf : ∀ r, v (f r) = v r) : (t.modify p f).view v = t.view v := by
  simp only [view, modify, List.map_map, Function.comp_def, apply_ite v, hf, ite_self]

end Views

end Table
