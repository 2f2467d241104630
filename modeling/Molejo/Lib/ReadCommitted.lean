import Molejo.Lib.Transition
import Mathlib.Logic.Function.Basic

/-!
# Interleaved transactions and an exclusive lock

A transaction that runs alone is a function of the state. Under the isolation level *read
committed* it is not: every statement reads what is committed at its own moment, and other
transactions may commit between two statements. A `ReadCommitted.Script` is a transaction at
that level of detail: it reads, statement by statement, and ends with the write that it
commits; on its way it may take one exclusive lock, which it then keeps to its end.

A `ReadCommitted.System` is a store, the session that holds the lock, and what each session has
left to do. An event starts a script in a session, lets a session take its next step, or ends a
session without a commit. What a list of events makes of a system is the transition system of
this file: every interleaving of the statements of the scripts is one list of events. Row locks
are not part of it. They only remove interleavings, and what holds in every interleaving here
holds without them.

## The rule

To keep an invariant `I` in all interleavings it is enough to have a preorder `R` on stores
(*what may change while the lock is held by someone else*) such that

* a script that has not taken the lock writes along `R` only, and keeps `I` (`Script.Free`);
* a script that holds the lock keeps `I` with its write, where every two of its statements are
  separated by any change along `R` between stores satisfying `I` (`Script.Held`).

`ReadCommitted.invariant` is this rule. The two predicates are computed along the script, one
rule for each way to build one.
-/

namespace ReadCommitted

variable {σ ε κ α β : Type}

/-! ### Scripts -/

/-- What is left of a transaction that returns an `α`. -/
inductive Script (σ ε α : Type) : Type
  /-- Return `a`. -/
  | pure (a : α)
  /-- Roll back with the error `e`. -/
  | fail (e : ε)
  /-- Take the exclusive lock, waiting until it is free. -/
  | lock (next : Script σ ε α)
  /-- Read what is committed now. -/
  | read (next : σ → Script σ ε α)

/-- The write that a transaction ends with, tried on what is committed at that moment. -/
abbrev Write (σ ε : Type) := σ → Except ε σ

namespace Script

/-- One script after another. -/
def bind : Script σ ε α → (α → Script σ ε β) → Script σ ε β
  | .pure a, f => f a
  | .fail e, _ => .fail e
  | .lock next, f => .lock (next.bind f)
  | .read next, f => .read fun s => (next s).bind f

instance : Monad (Script σ ε) where
  pure := .pure
  bind := .bind

/-- Take the lock. -/
def acquire : Script σ ε Unit := .lock (.pure ())

/-- The answer of one statement. -/
def query (q : σ → α) : Script σ ε α := .read fun s => .pure (q s)

/-- Go on only if `p` holds, and roll back with `e` otherwise. -/
def require (p : Prop) [Decidable p] (e : ε) : Script σ ε Unit :=
  if p then .pure () else .fail e

/-- Go on with the value found, and roll back with `e` if there is none. -/
def expect (x : Option α) (e : ε) : Script σ ε α :=
  match x with
  | some a => .pure a
  | none => .fail e

/-! ### A script that holds the lock -/

section Held

variable (I : σ → Prop) (R : σ → σ → Prop) (Q : σ → α → Prop)

/-- With the lock held, and the committed store moving along `R` within `I` from `s` on, what
the script returns satisfies `Q` of the store it has read last. -/
def Held : Script σ ε α → σ → Prop
  | .pure a, s => Q s a
  | .fail _, _ => True
  | .lock next, s => Held next s
  | .read next, s => ∀ s', R s s' → I s' → Held (next s') s'

variable {I R Q} {s s' : σ} {x : Script σ ε α} {a : α} {e : ε}

@[simp] theorem held_bind {Q : σ → β → Prop} {f : α → Script σ ε β} :
    Held I R Q (x >>= f) s ↔ Held I R (fun s a => Held I R Q (f a) s) x s := by
  induction x generalizing s with
  | pure | fail => rfl
  | lock _ ih => exact ih
  | read _ ih => exact forall_congr' fun s' => imp_congr_right fun _ =>
      imp_congr_right fun _ => ih s'

@[simp] theorem held_query {q : σ → α} :
    Held I R Q (query q : Script σ ε α) s ↔ ∀ s', R s s' → I s' → Q s' (q s') := Iff.rfl

@[simp] theorem held_require {Q : σ → Unit → Prop} {p : Prop} [Decidable p] :
    Held I R Q (require p e : Script σ ε Unit) s ↔ (p → Q s ()) := by
  by_cases hp : p <;> simp [require, hp, Held]

@[simp] theorem held_expect {o : Option α} :
    Held I R Q (expect o e : Script σ ε α) s ↔ ∀ a, o = some a → Q s a := by
  cases o <;> simp [expect, Held]

/-- A script can be left alone while the store moves along `R`. -/
theorem Held.rely [IsTrans σ R] (hQ : ∀ s s' a, R s s' → I s' → Q s a → Q s' a)
    (h : Held I R Q x s) (hr : R s s') (hi : I s') : Held I R Q x s' := by
  induction x generalizing s s' with
  | pure a => exact hQ s s' a hr hi h
  | fail => trivial
  | lock _ ih => exact ih h hr hi
  | read => exact fun s'' hr' hi' => h s'' (trans_of R hr hr') hi'

end Held

/-! ### A script that has not taken the lock -/

section Free

variable (I : σ → Prop) (R : σ → σ → Prop) (P : α → Prop) (Q : σ → α → Prop)

/-- What the script returns satisfies `P` if it never takes the lock, and `Q`, as in `Held`, from
the moment on that it takes it. -/
def Free : Script σ ε α → Prop
  | .pure a => P a
  | .fail _ => True
  | .lock next => ∀ s, I s → Held I R Q next s
  | .read next => ∀ s, I s → Free (next s)

variable {I R P Q} {x : Script σ ε α} {a : α} {e : ε}

@[simp] theorem free_pure : Free I R P Q (Pure.pure a : Script σ ε α) ↔ P a := Iff.rfl

@[simp] theorem free_bind {P : β → Prop} {Q : σ → β → Prop} {f : α → Script σ ε β} :
    Free I R P Q (x >>= f) ↔
      Free I R (fun a => Free I R P Q (f a)) (fun s a => Held I R Q (f a) s) x := by
  induction x with
  | pure | fail => rfl
  | lock => exact forall_congr' fun s => imp_congr_right fun _ => held_bind
  | read _ ih => exact forall_congr' fun s => imp_congr_right fun _ => ih s

@[simp] theorem free_acquire {P : Unit → Prop} {Q : σ → Unit → Prop} :
    Free I R P Q (acquire : Script σ ε Unit) ↔ ∀ s, I s → Q s () := Iff.rfl

@[simp] theorem free_query {q : σ → α} :
    Free I R P Q (query q : Script σ ε α) ↔ ∀ s, I s → P (q s) := Iff.rfl

@[simp] theorem free_expect {o : Option α} :
    Free I R P Q (expect o e : Script σ ε α) ↔ ∀ a, o = some a → P a := by
  cases o <;> simp [expect, Free]

end Free

end Script

/-! ### Systems -/

/-- A store, and the transactions under way on it. -/
structure System (σ ε : Type) where
  /-- What is committed. -/
  store : σ
  /-- The session that holds the lock. -/
  holder : Option ℕ
  /-- What each session has left to do, if a transaction is open in it. -/
  sessions : ℕ → Option (Script σ ε (Write σ ε))

/-- What can happen next. -/
inductive Event (κ : Type)
  /-- A call begins its transaction in a session. -/
  | start (i : ℕ) (call : κ)
  /-- The next statement of a session. -/
  | advance (i : ℕ)
  /-- A session ends without a commit: a cancelled request, a lost connection, a deadlock. -/
  | abort (i : ℕ)

namespace System

variable (y : System σ ε)

/-- No transaction is open. -/
def idle (s : σ) : System σ ε where
  store := s
  holder := none
  sessions := fun _ => none

/-- What session `i` has left becomes `x`. -/
def goOn (i : ℕ) (x : Script σ ε (Write σ ε)) : System σ ε :=
  { y with sessions := Function.update y.sessions i (some x) }

/-- The transaction of session `i` is over, and its lock is released. -/
def close (i : ℕ) : System σ ε :=
  { y with
    holder := if y.holder = some i then none else y.holder
    sessions := Function.update y.sessions i none }

/-- The next statement of session `i`. -/
def advance (i : ℕ) : System σ ε :=
  match y.sessions i with
  | none => y
  | some (.pure write) => { y.close i with store := Transaction.commit y.store (write y.store) }
  | some (.fail _) => y.close i
  | some (.lock next) =>
    if y.holder = none ∨ y.holder = some i then { y.goOn i next with holder := some i } else y
  | some (.read next) => y.goOn i (next y.store)

/-- One event; a session runs one transaction at a time. -/
def step (script : κ → Script σ ε (Write σ ε)) (y : System σ ε) : Event κ → System σ ε
  | .start i call => if y.sessions i = none then y.goOn i (script call) else y
  | .advance i => y.advance i
  | .abort i => y.close i

end System

/-! ### The rule -/

section Rule

variable (I : σ → Prop) (R : σ → σ → Prop)

/-- A write that may be committed without the lock. -/
def Along (w : Write σ ε) : Prop :=
  ∀ s t, I s → w s = .ok t → R s t ∧ I t

/-- A write that may be committed with the lock, after any change along `R` from `s` on. -/
def Keeps (s : σ) (w : Write σ ε) : Prop :=
  ∀ s' t, R s s' → I s' → w s' = .ok t → I t

/-- A script whose commit keeps `I` in every interleaving. -/
def Script.Safe (x : Script σ ε (Write σ ε)) : Prop :=
  x.Free I R (Along I R) (Keeps I R)

/-- What holds between two events. -/
structure System.Safe (y : System σ ε) : Prop where
  store : I y.store
  /-- The lock is held by an open transaction, which is safe from now on. -/
  held : ∀ i, y.holder = some i →
    ∃ x, y.sessions i = some x ∧ x.Held I R (Keeps I R) y.store
  free : ∀ i x, y.sessions i = some x → y.holder ≠ some i → x.Safe I R

variable {I R} {y : System σ ε} {i : ℕ} {x : Script σ ε (Write σ ε)}

theorem Keeps.rely [IsTrans σ R] {s s' : σ} {w : Write σ ε} (hr : R s s')
    (h : Keeps I R s w) : Keeps I R s' w :=
  fun s'' t hr' => h s'' t (trans_of R hr hr')

namespace System

theorem safe_idle {s : σ} (h : I s) : (idle s : System σ ε).Safe I R where
  store := h
  held := nofun
  free := nofun

/-- A session without the lock goes on. -/
theorem Safe.goOn_free (h : y.Safe I R) (hn : y.holder ≠ some i) (hx : x.Safe I R) :
    (y.goOn i x).Safe I R where
  store := h.store
  held j hj := by
    obtain ⟨x', hx', hh⟩ := h.held j hj
    have hne : j ≠ i := fun he => hn (he ▸ hj)
    exact ⟨x', by simpa [goOn, hne] using hx', hh⟩
  free j x' hx' hj := by
    by_cases hji : j = i
    · subst hji
      obtain rfl : x = x' := by simpa [goOn] using hx'
      exact hx
    · exact h.free j x' (by simpa [goOn, hji] using hx') hj

/-- The session that has the lock, or gets it, goes on. -/
theorem Safe.goOn_held (h : y.Safe I R) (hn : y.holder = none ∨ y.holder = some i)
    (hx : x.Held I R (Keeps I R) y.store) :
    ({ y.goOn i x with holder := some i } : System σ ε).Safe I R where
  store := h.store
  held j hj := by
    obtain rfl : i = j := Option.some.inj hj
    exact ⟨x, by simp [goOn], hx⟩
  free j x' hx' hj := by
    have hji : j ≠ i := fun he => hj (by rw [he])
    refine h.free j x' (by simpa [goOn, hji] using hx') ?_
    rcases hn with hn | hn
    · simp [hn]
    · exact hn ▸ hj

/-- A transaction ends, and what is committed at its end is `t`. If it had the lock then `t` is
any store that satisfies `I`, and otherwise one that `R` leads to. -/
theorem Safe.close [IsTrans σ R] (h : y.Safe I R) {t : σ} (ht : I t)
    (hr : y.holder ≠ some i → R y.store t) :
    ({ y.close i with store := t } : System σ ε).Safe I R where
  store := ht
  held j hj := by
    have hi : y.holder ≠ some i := fun he => by simp [System.close, he] at hj
    have hj : y.holder = some j := by simpa [System.close, hi] using hj
    have hji : j ≠ i := fun he => hi (he ▸ hj)
    obtain ⟨x, hx, hh⟩ := h.held j hj
    refine ⟨x, by simpa [System.close, hji] using hx, ?_⟩
    exact hh.rely (fun _ _ _ hr _ => Keeps.rely hr) (hr hi) ht
  free j x hx hj := by
    have hji : j ≠ i := fun he => by simp [System.close, he] at hx
    refine h.free j x (by simpa [System.close, hji] using hx) fun he => hj ?_
    simpa [System.close, he] using hji

theorem Safe.advance [IsPreorder σ R] (h : y.Safe I R) : (y.advance i).Safe I R := by
  -- The session's own script is safe in one of two ways, by whether it holds the lock.
  have hclose : (y.close i).Safe I R := h.close h.store fun _ => refl_of R y.store
  unfold System.advance
  split
  · exact h
  · next write hw =>
    rcases Transaction.commit_cases y.store (write y.store) with ⟨_, -, he⟩ | ⟨t, ht, he⟩
    · rw [he]
      exact hclose
    · rw [he]
      by_cases hi : y.holder = some i
      · obtain ⟨x, hx, hh⟩ := h.held i hi
        cases hw.symm.trans hx
        exact h.close (hh y.store t (refl_of R y.store) h.store ht) fun hn => absurd hi hn
      · have hs := h.free i _ hw hi y.store t h.store ht
        exact h.close hs.2 fun _ => hs.1
  · exact hclose
  · next next hw =>
    split
    · next hn =>
      refine h.goOn_held hn ?_
      by_cases hi : y.holder = some i
      · obtain ⟨x, hx, hh⟩ := h.held i hi
        cases hw.symm.trans hx
        exact hh
      · exact h.free i _ hw hi y.store h.store
    · exact h
  · next next hw =>
    by_cases hi : y.holder = some i
    · obtain ⟨x, hx, hh⟩ := h.held i hi
      cases hw.symm.trans hx
      have := h.goOn_held (.inr hi) (hh y.store (refl_of R y.store) h.store)
      rwa [← hi] at this
    · exact h.goOn_free hi (h.free i _ hw hi y.store h.store)

theorem Safe.step [IsPreorder σ R] {script : κ → Script σ ε (Write σ ε)}
    (hs : ∀ call, (script call).Safe I R) (h : y.Safe I R) (event : Event κ) :
    (y.step script event).Safe I R := by
  cases event with
  | start i call =>
    simp only [System.step]
    split
    · next hn =>
      refine h.goOn_free (fun hi => ?_) (hs call)
      obtain ⟨_, hx, -⟩ := h.held i hi
      exact nomatch hn.symm.trans hx
    · exact h
  | advance => exact h.advance
  | abort => exact h.close h.store fun _ => refl_of R y.store

end System

/-- **Invariants under interleaving.** If the scripts of all calls are safe, then what holds in
the store at the start holds in every store that is ever committed. -/
theorem invariant [IsPreorder σ R] {script : κ → Script σ ε (Write σ ε)}
    (hs : ∀ call, (script call).Safe I R) {s : σ} (h : I s) (events : List (Event κ)) :
    I (Transition.run (System.step script) (System.idle s) events).store :=
  (Transition.run_induction (System.safe_idle h) fun _ event hy => hy.step hs event).store

end Rule

end ReadCommitted
