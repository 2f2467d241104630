import Mathlib.Data.List.Basic

/-!
# Transactions and runs

A stored-state program is a family of *transactions*, each of which either
commits a new state or fails and leaves the state as it was. `Except ε σ` is the
type of one attempt; `Transaction.require` and `Transaction.expect` are the two
ways a transaction checks something before it goes on, and
`Transaction.commit` is what the database makes of the attempt.

A *run* is a list of actions taken one after the other by a step function that is
total: an action whose transaction fails is a step that changes nothing. A
property of every interleaving is then a property of `Transition.run step s acts`
for every list `acts`. Three rules are all that the invariants need:

* `Transition.run_induction`: what holds at the start and is preserved by every
  step holds at the end of every run;
* `Transition.guarded_run_induction`: the same for runs all of whose steps meet a
  condition on the action and on the state before it;
* `Transition.run_rel`: a reflexive and transitive relation between the state
  before a step and the state after it relates the two ends of a run.

How often something happens in a run is `Transition.count`. A *latch* is a property
of states that is never lost; what happens exactly when a latch closes happens at
most once, and has happened once just if the latch is closed
(`Transition.count_latch`).
-/

/-! ### Transactions -/

namespace Transaction

universe u

variable {ε σ : Type*} {α β : Type u}

/-- Go on only if `p` holds, and fail with `e` otherwise. -/
def require (p : Prop) [Decidable p] (e : ε) : Except ε Unit :=
  if p then .ok () else .error e

/-- Go on with the value found, and fail with `e` if there is none. -/
def expect (x : Option α) (e : ε) : Except ε α :=
  match x with
  | some a => .ok a
  | none => .error e

/-- The state after an attempt: a failed transaction is rolled back. -/
def commit (s : σ) : Except ε σ → σ
  | .ok s' => s'
  | .error _ => s

@[simp] theorem commit_ok (s s' : σ) : commit s (.ok s' : Except ε σ) = s' := rfl

@[simp] theorem commit_error (s : σ) (e : ε) : commit s (.error e) = s := rfl

/-- Either the attempt failed and nothing changed, or it committed its result. -/
theorem commit_cases (s : σ) (x : Except ε σ) :
    (∃ e, x = .error e ∧ commit s x = s) ∨ (∃ s', x = .ok s' ∧ commit s x = s') := by
  cases x with
  | error e => exact .inl ⟨e, rfl, rfl⟩
  | ok s' => exact .inr ⟨s', rfl, rfl⟩

@[simp] theorem require_eq_ok {p : Prop} [Decidable p] {e : ε} {u : Unit} :
    require p e = .ok u ↔ p := by
  unfold require
  by_cases hp : p <;> simp [hp]

@[simp] theorem expect_eq_ok {x : Option α} {e : ε} {a : α} :
    expect x e = .ok a ↔ x = some a := by
  cases x <;> simp [expect]

theorem ok_bind {a : α} {f : α → Except ε β} : (Except.ok a >>= f) = f a := rfl

theorem error_bind {e : ε} {f : α → Except ε β} :
    ((Except.error e : Except ε α) >>= f) = .error e := rfl

/-- A sequence of two attempts commits when both do. -/
@[simp] theorem bind_eq_ok {x : Except ε α} {f : α → Except ε β} {b : β} :
    (x >>= f) = .ok b ↔ ∃ a, x = .ok a ∧ f a = .ok b := by
  rcases x with e | a
  · simp only [bind, Except.bind, reduceCtorEq, false_and, exists_false]
  · simp only [bind, Except.bind, Except.ok.injEq, exists_eq_left']

@[simp] theorem pure_eq_ok {a b : α} : (pure a : Except ε α) = .ok b ↔ a = b := by
  simp [pure, Except.pure]

@[simp] theorem mapError_eq_ok {ε' : Type*} {f : ε → ε'} {x : Except ε α} {a : α} :
    x.mapError f = .ok a ↔ x = .ok a := by
  cases x <;> simp [Except.mapError]

/-- When a transaction commits, statement by statement: the rewrite rules that open a transaction
which did. -/
theorem ok_iff :
    (∀ {ε α β : Type} {x : Except ε α} {f : α → Except ε β} {b : β},
      (x >>= f) = .ok b ↔ ∃ a, x = .ok a ∧ f a = .ok b) ∧
    (∀ {ε : Type} {p : Prop} [Decidable p] {e : ε} {u : Unit}, require p e = .ok u ↔ p) ∧
    (∀ {ε α : Type} {x : Option α} {e : ε} {a : α}, expect x e = .ok a ↔ x = some a) ∧
    (∀ {ε α : Type} {a b : α}, (pure a : Except ε α) = .ok b ↔ a = b) ∧
    (∀ {ε ε' α : Type} {f : ε → ε'} {x : Except ε α} {a : α},
      x.mapError f = .ok a ↔ x = .ok a) ∧
    ∀ {p : Prop}, (∃ _ : Unit, p) ↔ p :=
  ⟨bind_eq_ok, require_eq_ok, expect_eq_ok, pure_eq_ok, mapError_eq_ok, exists_const Unit⟩

theorem isOk_iff {x : Except ε α} : x.isOk = true ↔ ∃ a, x = .ok a := by
  cases x <;> simp [Except.isOk, Except.toBool]

theorem toOption_eq_some {x : Except ε α} {a : α} : x.toOption = some a ↔ x = .ok a := by
  cases x <;> simp [Except.toOption]

@[simp] theorem map_eq_ok {f : α → β} {x : Except ε α} {b : β} :
    x.map f = .ok b ↔ ∃ a, x = .ok a ∧ f a = b := by
  cases x <;> simp [Except.map]

/-! What made an attempt fail. -/

instance decidableEqError [DecidableEq ε] (x : Except ε α) (e : ε) : Decidable (x = .error e) :=
  match x with
  | .ok _ => .isFalse nofun
  | .error e' => decidable_of_iff (e' = e) (by simp)

@[simp] theorem require_eq_error {p : Prop} [Decidable p] {e e' : ε} :
    require p e = .error e' ↔ ¬ p ∧ e = e' := by
  unfold require
  by_cases hp : p <;> simp [hp]

@[simp] theorem expect_eq_error {x : Option α} {e e' : ε} :
    expect x e = .error e' ↔ x = none ∧ e = e' := by
  cases x <;> simp [expect]

/-- A sequence of two attempts fails when the first does, or the second after it. -/
@[simp] theorem bind_eq_error {x : Except ε α} {f : α → Except ε β} {e : ε} :
    (x >>= f) = .error e ↔ x = .error e ∨ ∃ a, x = .ok a ∧ f a = .error e := by
  rcases x with e' | a
  · simp only [bind, Except.bind, Except.error.injEq, reduceCtorEq, false_and, exists_false,
      or_false]
  · simp only [bind, Except.bind, reduceCtorEq, Except.ok.injEq, exists_eq_left', false_or]

@[simp] theorem mapError_eq_error {ε' : Type*} {f : ε → ε'} {x : Except ε α} {e : ε'} :
    x.mapError f = .error e ↔ ∃ e', x = .error e' ∧ f e' = e := by
  cases x <;> simp [Except.mapError]

@[simp] theorem pure_ne_error {a : α} {e : ε} : (pure a : Except ε α) ≠ .error e := nofun

/-- What a committed traversal returned came from an element it visited. -/
theorem mem_of_mapM_eq_ok {f : α → Except ε β} {xs : List α} {ys : List β} {y : β}
    (h : xs.mapM f = .ok ys) (hy : y ∈ ys) : ∃ x ∈ xs, f x = .ok y := by
  induction xs generalizing ys with
  | nil =>
    rw [List.mapM_nil, pure_eq_ok] at h
    subst h
    exact absurd hy List.not_mem_nil
  | cons x _ ih =>
    simp only [List.mapM_cons, bind_eq_ok, pure_eq_ok] at h
    obtain ⟨_, hb, _, hbs, rfl⟩ := h
    rcases List.mem_cons.mp hy with rfl | hy
    · exact ⟨x, List.mem_cons_self, hb⟩
    · obtain ⟨z, hz, hfz⟩ := ih hbs hy
      exact ⟨z, List.mem_cons_of_mem _ hz, hfz⟩

/-- A committed traversal returned something for every element. -/
theorem mem_mapM_of_mem {f : α → Except ε β} {xs : List α} {ys : List β} {x : α}
    (h : xs.mapM f = .ok ys) (hx : x ∈ xs) : ∃ y ∈ ys, f x = .ok y := by
  induction xs generalizing ys with
  | nil => exact absurd hx List.not_mem_nil
  | cons _ _ ih =>
    simp only [List.mapM_cons, bind_eq_ok, pure_eq_ok] at h
    obtain ⟨b, hb, _, hbs, rfl⟩ := h
    rcases List.mem_cons.mp hx with rfl | hx
    · exact ⟨b, List.mem_cons_self, hb⟩
    · obtain ⟨y, hy, hfy⟩ := ih hbs hx
      exact ⟨y, List.mem_cons_of_mem _ hy, hfy⟩

/-- The results are those of the elements. -/
theorem mem_mapM_iff {f : α → Except ε β} {xs : List α} {ys : List β} {y : β}
    (h : xs.mapM f = .ok ys) : y ∈ ys ↔ ∃ x ∈ xs, f x = .ok y := by
  refine ⟨mem_of_mapM_eq_ok h, ?_⟩
  rintro ⟨x, hx, hy⟩
  obtain ⟨z, hz, hfz⟩ := mem_mapM_of_mem h hx
  cases hy.symm.trans hfz
  exact hz

/-- A traversal commits if every element does. -/
theorem exists_mapM_eq_ok {f : α → Except ε β} {xs : List α}
    (h : ∀ x ∈ xs, ∃ y, f x = .ok y) : ∃ ys, xs.mapM f = .ok ys := by
  induction xs with
  | nil => exact ⟨[], rfl⟩
  | cons x _ ih =>
    obtain ⟨y, hy⟩ := h x List.mem_cons_self
    obtain ⟨ys, hys⟩ := ih fun z hz => h z (List.mem_cons_of_mem x hz)
    refine ⟨y :: ys, ?_⟩
    simp only [List.mapM_cons, bind_eq_ok, pure_eq_ok]
    exact ⟨y, hy, ys, hys, rfl⟩

/-- Traversals that do the same at every element are the same. -/
theorem mapM_congr_left {f g : α → Except ε β} {xs : List α} (h : ∀ x ∈ xs, f x = g x) :
    xs.mapM f = xs.mapM g := by
  induction xs with
  | nil => rfl
  | cons x _ ih =>
    rw [List.mapM_cons, List.mapM_cons, h x List.mem_cons_self,
      ih fun y hy => h y (List.mem_cons_of_mem x hy)]

/-- What can be read off the results can be read off the elements. -/
theorem map_of_mapM_eq_ok {γ : Type*} {f : α → Except ε β} {g : β → γ} {k : α → γ} {xs : List α}
    {ys : List β} (h : xs.mapM f = .ok ys) (hg : ∀ x y, f x = .ok y → g y = k x) :
    ys.map g = xs.map k := by
  induction xs generalizing ys with
  | nil =>
    rw [List.mapM_nil, pure_eq_ok] at h
    subst h
    rfl
  | cons x _ ih =>
    simp only [List.mapM_cons, bind_eq_ok, pure_eq_ok] at h
    obtain ⟨b, hb, _, hbs, rfl⟩ := h
    rw [List.map_cons, List.map_cons, hg x b hb, ih hbs]

/-- The same for what can be read off only some of them. -/
theorem filterMap_of_mapM_eq_ok {γ : Type*} {f : α → Except ε β} {g : β → Option γ}
    {k : α → Option γ} {xs : List α} {ys : List β} (h : xs.mapM f = .ok ys)
    (hg : ∀ x ∈ xs, ∀ y, f x = .ok y → g y = k x) : ys.filterMap g = xs.filterMap k := by
  induction xs generalizing ys with
  | nil =>
    rw [List.mapM_nil, pure_eq_ok] at h
    subst h
    rfl
  | cons x _ ih =>
    simp only [List.mapM_cons, bind_eq_ok, pure_eq_ok] at h
    obtain ⟨b, hb, _, hbs, rfl⟩ := h
    rw [List.filterMap_cons, List.filterMap_cons, hg x List.mem_cons_self b hb,
      ih hbs fun z hz => hg z (List.mem_cons_of_mem x hz)]

end Transaction

/-! ### Runs -/

namespace Transition

variable {σ α : Type*}

/-- The state after taking the actions one after the other. -/
def run (step : σ → α → σ) (s : σ) (acts : List α) : σ :=
  acts.foldl step s

/-- Every action of the run meets `G` in the state it is taken in. -/
def Guarded (step : σ → α → σ) (G : σ → α → Prop) : σ → List α → Prop
  | _, [] => True
  | s, a :: acts => G s a ∧ Guarded step G (step s a) acts

instance Guarded.decidable (step : σ → α → σ) (G : σ → α → Prop) [∀ s a, Decidable (G s a)] :
    ∀ s acts, Decidable (Guarded step G s acts)
  | _, [] => inferInstanceAs (Decidable True)
  | s, a :: acts =>
    have := Guarded.decidable step G (step s a) acts
    inferInstanceAs (Decidable (G s a ∧ Guarded step G (step s a) acts))

section Rules

variable {step : σ → α → σ} {G : σ → α → Prop} {s : σ} {a : α} {acts : List α}

@[simp] theorem run_nil : run step s [] = s := rfl

@[simp] theorem run_cons : run step s (a :: acts) = run step (step s a) acts := rfl

theorem run_append {acts' : List α} :
    run step s (acts ++ acts') = run step (run step s acts) acts' :=
  List.foldl_append

/-- **The invariant rule.** -/
theorem run_induction {I : σ → Prop} (h₀ : I s) (hstep : ∀ s a, I s → I (step s a)) :
    I (run step s acts) := by
  induction acts generalizing s with
  | nil => exact h₀
  | cons a _ ih => exact ih (hstep s a h₀)

/-- **The invariant rule for guarded runs.** -/
theorem guarded_run_induction {I : σ → Prop} (h₀ : I s)
    (hstep : ∀ s a, I s → G s a → I (step s a)) (hg : Guarded step G s acts) :
    I (run step s acts) := by
  induction acts generalizing s with
  | nil => exact h₀
  | cons a _ ih => exact ih (hstep s a h₀ hg.1) hg.2

theorem Guarded.mono {G' : σ → α → Prop} (hg : Guarded step G s acts)
    (himp : ∀ s a, G s a → G' s a) : Guarded step G' s acts := by
  induction acts generalizing s with
  | nil => trivial
  | cons a _ ih => exact ⟨himp s a hg.1, ih hg.2⟩

/-- A condition on the action alone. -/
theorem guarded_of_forall (h : ∀ a ∈ acts, ∀ s, G s a) : Guarded step G s acts := by
  induction acts generalizing s with
  | nil => trivial
  | cons a _ ih =>
    exact ⟨h a List.mem_cons_self s, ih fun b hb => h b (List.mem_cons_of_mem a hb)⟩

theorem guarded_append {acts' : List α} : Guarded step G s (acts ++ acts') ↔
    Guarded step G s acts ∧ Guarded step G (run step s acts) acts' := by
  induction acts generalizing s with
  | nil => simp [Guarded]
  | cons _ _ ih => simp only [List.cons_append, Guarded, run_cons, ih, and_assoc]

/-- **The monotonicity rule.** A relation from each state to the next relates the ends of a
run, as long as an invariant that the relation may rely on is kept. -/
theorem run_rel {I : σ → Prop} {R : σ → σ → Prop} (hrefl : ∀ s, R s s)
    (htrans : ∀ {s t u}, R s t → R t u → R s u) (h₀ : I s)
    (hstep : ∀ s a, I s → I (step s a) ∧ R s (step s a)) :
    R s (run step s acts) := by
  induction acts generalizing s with
  | nil => exact hrefl s
  | cons a _ ih => exact htrans (hstep s a h₀).2 (ih (hstep s a h₀).1)

end Rules

/-! ### Counting -/

section Counting

variable {step : σ → α → σ} {s : σ} {acts : List α}

/-- The number of actions of the run at which `E` happens. -/
def count (step : σ → α → σ) (E : σ → α → Prop) [∀ s a, Decidable (E s a)] : σ → List α → ℕ
  | _, [] => 0
  | s, a :: acts => (if E s a then 1 else 0) + count step E (step s a) acts

variable {E : σ → α → Prop} [∀ s a, Decidable (E s a)]

/-- A measure of states that grows by one whenever `E` happens counts how often it happens. -/
theorem count_measure (acts : List α) {I : σ → Prop} {m : σ → ℕ} (h₀ : I s)
    (hI : ∀ s a, I s → I (step s a))
    (hm : ∀ s a, I s → m (step s a) = m s + if E s a then 1 else 0) :
    m (run step s acts) = m s + count step E s acts := by
  induction acts generalizing s with
  | nil => rfl
  | cons a _ ih =>
    rw [run_cons, ih (hI s a h₀), hm s a h₀, count, Nat.add_assoc]

/-- **The latch rule.** What happens exactly when a latch closes has happened once if the latch is
closed, and not at all otherwise. -/
theorem count_latch {I P : σ → Prop} [DecidablePred P] (h₀ : I s)
    (hI : ∀ s a, I s → I (step s a)) (hP : ∀ s a, I s → P s → P (step s a))
    (hE : ∀ s a, I s → (E s a ↔ ¬ P s ∧ P (step s a))) (hs : ¬ P s) :
    count step E s acts = if P (run step s acts) then 1 else 0 := by
  have hm := count_measure acts (E := E) (m := fun s => if P s then 1 else 0) h₀ hI
    fun t a ht => by
      by_cases hp : P t
      · simp [hp, hP t a ht hp, hE t a ht]
      · by_cases hq : P (step t a) <;> simp [hp, hq, hE t a ht]
  simpa [hs] using hm.symm

end Counting

end Transition
