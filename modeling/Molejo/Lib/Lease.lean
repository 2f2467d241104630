import Molejo.Lib.Table

/-!
# Leased jobs with fencing tokens

A job is done by one worker at a time without anyone watching the workers. A worker
*claims* the job for a while: it gets a lease that expires, and a *fencing token*
that no claim before it had. It may end the job while the lease is good, or give it
back. If it does neither, the job can be claimed again once the lease has expired,
and whatever the slow worker does later carries a token that is no longer the job's.

`Lease.Step now j j'` lists what can happen to a job at time `now`. Three facts
are all that such a protocol promises: tokens never decrease and grow with every
claim, a job that has ended stays as it ended, and a job succeeds only under a
lease that has not expired.

What a worker holds is a copy of the job, with the token the job had when it was
claimed. Copies are never taken back; that a copy is out of date is seen from its token
(`Lease.Ledger`): of two copies of one job the later has the higher token, and no copy
has a higher one than the job.
-/

namespace Lease

/-- Where a job stands. -/
inductive Phase (W : Type*)
  /-- Nobody has it. -/
  | waiting
  /-- A worker has it, until a time. -/
  | held (worker : W) (expires : ℕ)
  /-- It was done. -/
  | succeeded
  /-- It was given up. -/
  | failed

/-- A job: where it stands, and the token of its last claim. -/
structure Job (W : Type*) where
  phase : Phase W
  token : ℕ

variable {W : Type*} {now : ℕ} {j j' : Job W}

/-- A job that nobody has, or had until a time that has passed. -/
def Job.Free (now : ℕ) (j : Job W) : Prop :=
  j.phase = .waiting ∨ ∃ w e, j.phase = .held w e ∧ e < now

/-- A job that has ended. -/
def Job.Ended (j : Job W) : Prop := j.phase = .succeeded ∨ j.phase = .failed

/-- What can happen to a job. -/
inductive Step (now : ℕ) (j : Job W) : Job W → Prop
  | claim (w : W) (e : ℕ) (h : j.Free now) : Step now j ⟨.held w e, j.token + 1⟩
  | succeed (w : W) (e : ℕ) (h : j.phase = .held w e) (ht : now < e) :
      Step now j ⟨.succeeded, j.token⟩
  | requeue (w : W) (e : ℕ) (h : j.phase = .held w e) : Step now j ⟨.waiting, j.token⟩
  | giveUp (h : ¬ j.Ended) : Step now j ⟨.failed, j.token⟩

theorem Job.Free.not_ended (h : j.Free now) : ¬ j.Ended := by
  rcases h with h | ⟨_, _, h, -⟩ <;> simp [Job.Ended, h]

/-- Nothing happens to a job that has ended. -/
theorem Step.not_ended (h : Step now j j') : ¬ j.Ended := by
  cases h with
  | claim _ _ hf => exact hf.not_ended
  | succeed _ _ hp => simp [Job.Ended, hp]
  | requeue _ _ hp => simp [Job.Ended, hp]
  | giveUp hn => exact hn

/-- The job is as it was, or one thing happened to it. -/
def Life (now : ℕ) (j j' : Job W) : Prop := j' = j ∨ Step now j j'

/-- A job that has ended stays as it ended. -/
theorem Life.eq_of_ended (h : Life now j j') (he : j.Ended) : j' = j :=
  h.resolve_right fun hs => hs.not_ended he

/-- A job that has not ended before a step that does not end it was, and is, still to be done. -/
theorem Life.not_ended (h : Life now j j') (he : ¬ j'.Ended) : ¬ j.Ended := by
  rcases h with rfl | h
  · exact he
  · exact h.not_ended

/-! ### Copies -/

section Copies

variable {ρ : Type*} {v : ρ → ℕ × ℕ} {token token' : ℕ → Option ℕ} {held : Table ρ} {k l : ℕ}
  {c d : ρ}

/-- The copies that were handed out agree with the tokens of the jobs; `v` reads the job and the
token off a copy. -/
structure Ledger (v : ρ → ℕ × ℕ) (token : ℕ → Option ℕ) (held : Table ρ) : Prop where
  bounded : ∀ k c, held.lookup k = some c → ∃ t, token (v c).1 = some t ∧ (v c).2 ≤ t
  increasing : ∀ k l c d, k < l → held.lookup k = some c → held.lookup l = some d →
    (v c).1 = (v d).1 → (v c).2 < (v d).2

theorem Ledger.empty : Ledger v token .empty where
  bounded _ _ h := by cases h
  increasing _ _ _ _ _ h := by cases h

/-- Tokens may grow. -/
theorem Ledger.mono (h : Ledger v token held)
    (ht : ∀ i t, token i = some t → ∃ t', token' i = some t' ∧ t ≤ t') :
    Ledger v token' held where
  bounded k c hc := by
    obtain ⟨t, hi, hle⟩ := h.bounded k c hc
    obtain ⟨t', hi', hle'⟩ := ht _ t hi
    exact ⟨t', hi', Nat.le_trans hle hle'⟩
  increasing := h.increasing

/-- A claim hands out a copy with a token that no copy before it had. -/
theorem Ledger.insert (h : Ledger v token held) {t : ℕ} (hold : token (v c).1 = some t)
    (hlt : t < (v c).2) (hnew : token' (v c).1 = some (v c).2)
    (ht : ∀ i t, token i = some t → ∃ t', token' i = some t' ∧ t ≤ t') :
    Ledger v token' (held.insert c) where
  bounded k d hd := by
    rcases Table.lookup_insert_eq_some.mp hd with ⟨-, rfl⟩ | hd
    · exact ⟨_, hnew, Nat.le_refl _⟩
    · exact (h.mono ht).bounded k d hd
  increasing k l d e hkl hd he hjob := by
    rcases Table.lookup_insert_eq_some.mp he with ⟨rfl, rfl⟩ | he
    · rcases Table.lookup_insert_eq_some.mp hd with ⟨rfl, -⟩ | hd
      · exact absurd hkl (Nat.lt_irrefl _)
      · obtain ⟨_, hu, hle⟩ := h.bounded k d hd
        rw [hjob, hold] at hu
        cases hu
        exact Nat.lt_of_le_of_lt hle hlt
    · rcases Table.lookup_insert_eq_some.mp hd with ⟨rfl, -⟩ | hd
      · exact absurd (Nat.lt_trans hkl (Table.lt_nextId he)) (Nat.lt_irrefl _)
      · exact h.increasing k l d e hkl hd he hjob

/-! ### Jobs in a table -/

section Tables

variable {σ : Type*} {tok : σ → ℕ} {jobs jobs' : Table σ}

/-- The tokens of the jobs in a table. -/
def tokens (tok : σ → ℕ) (jobs : Table σ) (i : ℕ) : Option ℕ := (jobs.lookup i).map tok

theorem tokens_eq_some {i n : ℕ} :
    tokens tok jobs i = some n ↔ ∃ j, jobs.lookup i = some j ∧ tok j = n :=
  Option.map_eq_some_iff

theorem tokens_le (hkept : ∀ i j, jobs.lookup i = some j →
      ∃ j', jobs'.lookup i = some j' ∧ tok j ≤ tok j') (i n : ℕ) (hi : tokens tok jobs i = some n) :
    ∃ n', tokens tok jobs' i = some n' ∧ n ≤ n' := by
  obtain ⟨j, hj, rfl⟩ := tokens_eq_some.mp hi
  obtain ⟨j', hj', hle⟩ := hkept i j hj
  exact ⟨tok j', tokens_eq_some.mpr ⟨j', hj', rfl⟩, hle⟩

/-- A step that hands nothing out. -/
theorem Ledger.of_kept (h : Ledger v (tokens tok jobs) held)
    (hkept : ∀ i j, jobs.lookup i = some j → ∃ j', jobs'.lookup i = some j' ∧ tok j ≤ tok j') :
    Ledger v (tokens tok jobs') held :=
  h.mono (tokens_le hkept)

/-- A step that hands out a job with a higher token. -/
theorem Ledger.claim (h : Ledger v (tokens tok jobs) held) {f : σ → σ} {j : σ}
    (hf : ∀ j, tok j < tok (f j)) (hj : jobs.lookup (v c).1 = some j) (hc : (v c).2 = tok (f j)) :
    Ledger v (tokens tok (jobs.modify (fun i _ => i = (v c).1) f)) (held.insert c) := by
  refine h.insert (tokens_eq_some.mpr ⟨j, hj, rfl⟩) (hc ▸ hf j) ?_ (tokens_le fun i j' hj' => ?_)
  · exact tokens_eq_some.mpr ⟨f j, Table.lookup_modify_of_pos hj rfl, hc.symm⟩
  · exact Table.exists_lookup_modify hj' (Nat.le_refl _) fun _ => Nat.le_of_lt (hf j')

/-- **A copy that is not the last has not the token of the job.** -/
theorem Ledger.lt_token (h : Ledger v (tokens tok jobs) held) (hkl : k < l)
    (hc : held.lookup k = some c) (hd : held.lookup l = some d) (hjob : (v c).1 = (v d).1) {j : σ}
    (hj : jobs.lookup (v c).1 = some j) : (v c).2 < tok j := by
  obtain ⟨_, hu, hle⟩ := h.bounded l d hd
  obtain ⟨j', hj', rfl⟩ := tokens_eq_some.mp hu
  cases hj.symm.trans (hjob ▸ hj')
  exact Nat.lt_of_lt_of_le (h.increasing k l c d hkl hc hd hjob) hle

end Tables

end Copies

end Lease
