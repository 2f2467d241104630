import Molejo.Lib.Table

/-!
# Tables with a unique column

A unique index on a column makes a table a partial function from the values of that
column to rows. `Table.find k t x` is the row whose column `k` is `x`. As long as the
column is unique (`Table.KeyUnique k t`), insertions, updates and deletions act on
this function pointwise, and the identities of the rows can be forgotten.

A *partial* index only has entries for some of the rows. It is a column with optional values,
`Table.IndexUnique`: two rows never have the same value, and any number of them has none.
-/

namespace Table

variable {ρ κ : Type*} [DecidableEq κ] {k : ρ → κ} {t : Table ρ} {x : κ} {i : ℕ} {r : ρ}

/-- No two rows have the same value in the column `k`. -/
def KeyUnique (k : ρ → κ) (t : Table ρ) : Prop :=
  ∀ i j r q, t.lookup i = some r → t.lookup j = some q → k r = k q → i = j

/-- The row with `x` in the column `k`. -/
def find (k : ρ → κ) (t : Table ρ) (x : κ) : Option ρ :=
  (t.first fun _ r => k r = x).map Prod.snd

theorem exists_of_find (h : t.find k x = some r) : ∃ i, t.lookup i = some r ∧ k r = x := by
  obtain ⟨⟨i, _⟩, hf, rfl⟩ := Option.map_eq_some_iff.mp h
  exact ⟨i, lookup_of_first hf, pos_of_first hf⟩

theorem key_of_find (h : t.find k x = some r) : k r = x :=
  (exists_of_find h).choose_spec.2

theorem find_eq_none : t.find k x = none ↔ ∀ i r, t.lookup i = some r → k r ≠ x := by
  rw [find, Option.map_eq_none_iff, first_eq_none]

/-- A row is found under its own value. -/
theorem find_of_lookup (hu : KeyUnique k t) (h : t.lookup i = some r) :
    t.find k (k r) = some r := by
  cases hf : t.find k (k r) with
  | none => exact absurd rfl (find_eq_none.mp hf i r h)
  | some q =>
    obtain ⟨j, hj, hk⟩ := exists_of_find hf
    obtain rfl := hu j i q r hj h hk
    exact hj.symm.trans h

theorem find_eq_some (hu : KeyUnique k t) :
    t.find k x = some r ↔ ∃ i, t.lookup i = some r ∧ k r = x := by
  constructor
  · exact exists_of_find
  · rintro ⟨_, hi, rfl⟩
    exact find_of_lookup hu hi

/-- A row is the first one with its own value. -/
theorem KeyUnique.first_eq (hu : KeyUnique k t) (h : t.lookup i = some r) (hx : k r = x) :
    (t.first fun _ q => k q = x) = some (i, r) := by
  obtain ⟨j, q, hf⟩ := exists_first (p := fun _ q => k q = x) (any_iff.mpr ⟨i, r, h, hx⟩)
  have hq := lookup_of_first hf
  obtain rfl : j = i := hu j i q r hq h ((pos_of_first hf).trans hx.symm)
  rw [hf, Option.some.inj (hq.symm.trans h)]

omit [DecidableEq κ] in
theorem keyUnique_empty : KeyUnique k (empty : Table ρ) := by
  intro i j r q hi
  cases hi

/-! ### Insertions -/

theorem keyUnique_insert (hu : KeyUnique k t) (hn : t.find k (k r) = none) :
    KeyUnique k (t.insert r) := by
  intro i j a b hi hj hab
  rw [lookup_insert_eq_some] at hi hj
  rcases hi with ⟨rfl, rfl⟩ | hi <;> rcases hj with ⟨rfl, rfl⟩ | hj
  · rfl
  · exact absurd hab.symm (find_eq_none.mp hn _ _ hj)
  · exact absurd hab (find_eq_none.mp hn _ _ hi)
  · exact hu i j a b hi hj hab

theorem find_insert (hu : KeyUnique k t) (hn : t.find k (k r) = none) :
    (t.insert r).find k x = if x = k r then some r else t.find k x := by
  ext q
  rw [find_eq_some (keyUnique_insert hu hn)]
  by_cases hx : x = k r
  · rw [if_pos hx, Option.some.injEq]
    constructor
    · rintro ⟨_, hi, hq⟩
      rcases lookup_insert_eq_some.mp hi with ⟨-, rfl⟩ | hi
      · rfl
      · exact absurd (hq.trans hx) (find_eq_none.mp hn _ _ hi)
    · rintro rfl
      exact ⟨t.nextId, lookup_insert_self, hx.symm⟩
  · rw [if_neg hx, find_eq_some hu]
    constructor
    · rintro ⟨i, hi, hq⟩
      rcases lookup_insert_eq_some.mp hi with ⟨-, rfl⟩ | hi
      · exact absurd hq.symm hx
      · exact ⟨i, hi, hq⟩
    · rintro ⟨i, hi, hq⟩
      exact ⟨i, lookup_insert_of_lookup hi, hq⟩

/-! ### Updates and deletions -/

section Conditional

variable {p : ρ → Prop} [DecidablePred p] {f : ρ → ρ}

omit [DecidableEq κ] in
theorem keyUnique_modify {p : ℕ → ρ → Prop} [∀ i r, Decidable (p i r)] (hu : KeyUnique k t)
    (hf : ∀ r, k (f r) = k r) : KeyUnique k (t.modify p f) := by
  intro i j a b hi hj hab
  obtain ⟨a', ha', hka⟩ := exists_of_lookup_modify hi k hf
  obtain ⟨b', hb', hkb⟩ := exists_of_lookup_modify hj k hf
  exact hu i j a' b' ha' hb' (hka.symm.trans (hab.trans hkb))

theorem find_modify (hu : KeyUnique k t) (hf : ∀ r, k (f r) = k r) :
    (t.modify (fun _ r => p r) f).find k x =
      (t.find k x).map fun r => if p r then f r else r := by
  ext q
  rw [find_eq_some (keyUnique_modify hu hf), Option.map_eq_some_iff]
  constructor
  · rintro ⟨i, hi, hq⟩
    obtain ⟨r, hr, ⟨hp, rfl⟩ | ⟨hp, rfl⟩⟩ := lookup_modify_eq_some.mp hi
    · exact ⟨r, (find_eq_some hu).mpr ⟨i, hr, (hf r).symm.trans hq⟩, if_pos hp⟩
    · exact ⟨q, (find_eq_some hu).mpr ⟨i, hr, hq⟩, if_neg hp⟩
  · rintro ⟨_, hr, rfl⟩
    obtain ⟨i, hi, hx⟩ := exists_of_find hr
    refine ⟨i, ?_, ?_⟩
    · rw [lookup_modify, hi, Option.map_some]
    · split
      · rw [hf, hx]
      · exact hx

/-- Updating the row under one identity. -/
theorem find_modify_eq (hu : KeyUnique k t) (hf : ∀ r, k (f r) = k r) (h : t.lookup i = some r) :
    (t.modify (fun j _ => j = i) f).find k x =
      if x = k r then some (f r) else t.find k x := by
  ext q
  rw [find_eq_some (keyUnique_modify hu hf)]
  by_cases hx : x = k r
  · rw [if_pos hx, Option.some.injEq]
    constructor
    · rintro ⟨j, hj, hq⟩
      obtain ⟨_, ha, ⟨rfl, rfl⟩ | ⟨hji, rfl⟩⟩ := lookup_modify_eq_some.mp hj
      · exact congrArg f (Option.some.inj (h.symm.trans ha))
      · exact absurd (hu j i q r ha h (hq.trans hx)) hji
    · rintro rfl
      exact ⟨i, lookup_modify_of_pos h rfl, (hf r).trans hx.symm⟩
  · rw [if_neg hx, find_eq_some hu]
    constructor
    · rintro ⟨j, hj, hq⟩
      obtain ⟨a, ha, ⟨rfl, rfl⟩ | ⟨-, rfl⟩⟩ := lookup_modify_eq_some.mp hj
      · obtain rfl : a = r := Option.some.inj (ha.symm.trans h)
        exact absurd ((hf a).symm.trans hq).symm hx
      · exact ⟨j, ha, hq⟩
    · rintro ⟨j, hj, hq⟩
      refine ⟨j, lookup_modify_of_neg hj fun hji => hx ?_, hq⟩
      subst hji
      obtain rfl : q = r := Option.some.inj (hj.symm.trans h)
      exact hq.symm

omit [DecidableEq κ] in
theorem keyUnique_delete {p : ℕ → ρ → Prop} [∀ i r, Decidable (p i r)] (hu : KeyUnique k t) :
    KeyUnique k (t.delete p) := by
  intro i j a b hi hj
  exact hu i j a b (lookup_delete_eq_some.mp hi).1 (lookup_delete_eq_some.mp hj).1

theorem find_delete (hu : KeyUnique k t) :
    (t.delete fun _ r => p r).find k x = (t.find k x).filter fun r => ¬ p r := by
  ext q
  rw [find_eq_some (keyUnique_delete hu), Option.filter_eq_some_iff, find_eq_some hu]
  simp only [lookup_delete_eq_some, decide_eq_true_eq]
  constructor
  · rintro ⟨i, ⟨hi, hp⟩, hq⟩
    exact ⟨⟨i, hi, hq⟩, hp⟩
  · rintro ⟨⟨i, hi, hq⟩, hp⟩
    exact ⟨i, ⟨hi, hp⟩, hq⟩

end Conditional

/-! ### Partial indexes -/

section Index

variable {ι : Type*} {n : ρ → Option ι} {y : ι} {p : ℕ → ρ → Prop} [∀ i r, Decidable (p i r)]
  {f : ρ → ρ}

/-- No two rows have the same entry in the index `n`. -/
def IndexUnique (n : ρ → Option ι) (t : Table ρ) : Prop :=
  ∀ i j r q y, t.lookup i = some r → t.lookup j = some q → n r = some y → n q = some y → i = j

theorem indexUnique_empty : IndexUnique n (empty : Table ρ) := by
  intro i j r q y hi
  cases hi

theorem indexUnique_insert (hu : IndexUnique n t)
    (hn : ∀ y, n r = some y → ∀ i q, t.lookup i = some q → n q ≠ some y) :
    IndexUnique n (t.insert r) := by
  intro i j a b y hi hj ha hb
  rw [lookup_insert_eq_some] at hi hj
  rcases hi with ⟨rfl, rfl⟩ | hi <;> rcases hj with ⟨rfl, rfl⟩ | hj
  · rfl
  · exact absurd hb (hn y ha j b hj)
  · exact absurd ha (hn y hb i a hi)
  · exact hu i j a b y hi hj ha hb

/-- An update that at most takes entries out of the index. -/
theorem indexUnique_modify (hu : IndexUnique n t)
    (hf : ∀ i r, t.lookup i = some r → p i r → ∀ y, n (f r) = some y → n r = some y) :
    IndexUnique n (t.modify p f) := by
  have hentry : ∀ {i a y}, (t.modify p f).lookup i = some a → n a = some y →
      ∃ r, t.lookup i = some r ∧ n r = some y := by
    intro i a y hi ha
    obtain ⟨r, hr, ⟨hp, rfl⟩ | ⟨-, rfl⟩⟩ := lookup_modify_eq_some.mp hi
    · exact ⟨r, hr, hf i r hr hp y ha⟩
    · exact ⟨a, hr, ha⟩
  intro i j a b y hi hj ha hb
  obtain ⟨r, hr, hra⟩ := hentry hi ha
  obtain ⟨q, hq, hqb⟩ := hentry hj hb
  exact hu i j r q y hr hq hra hqb

/-- A row is the first one with its entry. -/
theorem IndexUnique.first_eq (hu : IndexUnique n t) (h : t.lookup i = some r) (hp : p i r)
    (hn : ∀ j q, p j q → n q = some y) : t.first p = some (i, r) := by
  obtain ⟨j, q, hf⟩ := exists_first (any_iff.mpr ⟨i, r, h, hp⟩)
  have hq := lookup_of_first hf
  obtain rfl : j = i := hu j i q r y hq h (hn j q (pos_of_first hf)) (hn i r hp)
  rw [hf, Option.some.inj (hq.symm.trans h)]

end Index

end Table
