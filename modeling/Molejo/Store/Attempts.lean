import Molejo.Store.Fencing

/-!
# How often an operation is tried

`Fail` sends an operation back to be tried again only while it has been tried fewer
than eight times. That is the only place where the number is looked at. An attempt
also ends when its lease expires and the operation is claimed again, and when
`ReleaseClaims` takes it from its worker; a completion that is refused leaves the
operation to its lease. None of these has a bound.

So the number of claims is at most eight in the runs where the eighth attempt ends
with a report of its worker (`claims_le_eight`), and not in general
(`nine_claims`): a worker that is killed by each attempt is given the operation for
ever.
-/

namespace Molejo.Store

open Relation Transaction Table Transition

/-- The worker whose claims an action releases. -/
def Action.released? : Action → Option String
  | .releaseClaims worker => some worker
  | _ => none

/-- The action takes the operation `o` under `i` from its worker in the eighth attempt: the lease
has expired and it is claimed again, or it is released. -/
def TakesLast (s : State) (a : Action) (i : ℕ) (o : Operation) : Prop :=
  o.status = .running ∧ 8 ≤ o.attempts ∧
    ((∃ op ∈ claimed s a, op.1 = i) ∨ ∃ worker ∈ a.released?, o.workerId = some worker)
deriving Decidable

/-- No operation is taken from its worker in its eighth attempt. -/
def LastReported (s : State) (a : Action) : Prop :=
  ¬ s.db.operations.Any (TakesLast s a)
deriving Decidable

/-- In the state before, no eighth attempt has lost its lease when an operation is to be claimed, and
none is of the worker whose claims are released. -/
def LastHeld (s : State) (a : Action) : Prop :=
  ¬ s.db.operations.Any fun _ o => o.status = .running ∧ 8 ≤ o.attempts ∧
    (a.IsClaim ∧ (∃ t ∈ o.leaseUntil, t < s.now) ∨
      ∃ worker ∈ a.released?, o.workerId = some worker)

/-- The operation was tried as often as its token says, at most eight times, and fewer if it is
to be tried again. -/
structure Counted (o : Operation) : Prop where
  token : o.attempts = o.fencingToken
  le : o.attempts ≤ 8
  pending : o.status = .pending → o.attempts < 8

/-- Every operation is counted, and every copy of one says how often it was tried. -/
structure AttemptsSound (s : State) : Prop where
  rows : ∀ i o, s.db.operations.lookup i = some o → Counted o
  copies : ∀ k op, s.held.lookup k = some op → op.2.attempts = op.2.fencingToken

section Steps

variable {s s₀ : State} {a : Action} {policy : PublicationPolicy} {i : ℕ} {o o' : Operation}

theorem Counted.new {n : NewOperation} {now : Time} {cluster : ℕ} : Counted (n.row now cluster) :=
  ⟨rfl, Nat.zero_le 8, fun _ => Nat.zero_lt_succ 7⟩

/-- An attempt ends and the operation with it. -/
theorem Counted.ended (h : Counted o) (ha : o'.attempts = o.attempts)
    (ht : o'.fencingToken = o.fencingToken) (hs : o'.status ≠ .pending) : Counted o' :=
  ⟨by rw [ha, ht, h.token], ha ▸ h.le, fun hp => absurd hp hs⟩

theorem report_counted {now : Time} {os : List RuntimeObservation} {db db' : Db}
    (h : ReflTransGen (ReportStep now os) db db')
    (hc : ∀ i o, db.operations.lookup i = some o → Counted o) :
    ∀ i o, db'.operations.lookup i = some o → Counted o := by
  induction h with
  | refl => exact hc
  | tail _ hs ih =>
    cases hs with
    | environments | volumes => exact ih
    | ensureVolume | applyDeployment => exact forall_insert ih .new

/-- An operation that is claimed in an attempt has lost its lease. -/
theorem LastHeld.lastReported (h : LastHeld s a) : LastReported s a := by
  intro hany
  obtain ⟨i, o, hl, hr, hatt, ht⟩ := any_iff.mp hany
  refine h (any_iff.mpr ⟨i, o, hl, hr, hatt, ht.imp_left ?_⟩)
  rintro ⟨op, hop, rfl⟩
  cases a with
  | claimNext worker installation lease =>
    simp only [claimed] at hop
    split at hop
    · next hc =>
      cases hop
      obtain ⟨_, hl', ⟨hc, -⟩, -⟩ := claimNext_eq_ok hc
      cases hl.symm.trans hl'
      rcases hc with hp | ⟨-, hexp⟩
      · cases hr.symm.trans hp
      · exact ⟨⟨worker, installation, lease, rfl⟩, hexp⟩
    · cases hop
  | _ => cases hop

/-- An operation is taken from its worker before its eighth attempt. -/
theorem LastReported.lt (hg : LastReported s a) (hl : s.db.operations.lookup i = some o)
    (hr : o.status = .running)
    (ht : (∃ op ∈ claimed s a, op.1 = i) ∨ ∃ worker ∈ a.released?, o.workerId = some worker) :
    o.attempts < 8 := by
  by_contra hn
  exact hg (any_iff.mpr ⟨i, o, hl, hr, not_lt.mp hn, ht⟩)

theorem AttemptsSound.rows_step (h : AttemptsSound s) (hg : LastReported s a) :
    ∀ i o, (step policy s a).db.operations.lookup i = some o → Counted o := by
  have he := step_effect policy s a
  generalize hs' : step policy s a = s' at he
  cases he with
  | idle | tick | elsewhere | session | create | branch | update | reload => exact h.rows
  | attach | delete | expand | remove | deploy => exact forall_insert h.rows .new
  | createStateful _ _ _ _ _ _ _ _ _ _ _ hv =>
    obtain ⟨_, _, _, _, -, -, rfl, -, rfl⟩ := createAppVolume_eq_ok hv
    exact forall_insert h.rows .new
  | report _ _ _ hr => exact report_counted hr h.rows
  | claim worker installation lease j q _ hj hc hs =>
    rw [(startWork_eq_ok hs).1]
    refine forall_modify h.rows fun i o hl hi => ?_
    subst hi
    have hq : q.attempts < 8 := by
      rcases hc.1 with hp | ⟨hr, -⟩
      · exact (h.rows _ _ hj).pending hp
      · refine hg.lt hj hr (.inl ?_)
        by_contra hn
        have hl' : (step policy s (.claimNext worker installation lease)).db.operations.lookup i =
            some (claimRow s.now lease worker q) := by
          rw [hs', (startWork_eq_ok hs).1]
          exact lookup_modify_of_pos hl rfl
        have ht := step_token policy _ hj hl'
        rw [if_neg hn] at ht
        exact absurd ht (Nat.succ_ne_self q.fencingToken)
    exact ⟨congrArg (· + 1) (h.rows _ _ hj).token, hq, nofun⟩
  | revoke | workspaceDone | volumeDone | environmentDone | deploymentDone =>
    exact forall_modify h.rows fun i o hl _ => (h.rows i o hl).ended rfl rfl nofun
  | failed _ _ _ op _ message =>
    rw [(reportFailure_frame op.2 message).1]
    exact forall_modify h.rows fun i o hl _ => (h.rows i o hl).ended rfl rfl nofun
  | retry _ k _ op _ _ _ _ hk _ _ hr =>
    -- The copy has the token of the row, so it has its number of attempts.
    refine forall_modify h.rows fun i o hl hp => ?_
    have ho := h.rows i o hl
    have hlt : o.attempts < 8 := by
      rw [ho.token, hp.2.2.2.1, ← h.copies k op hk]
      exact hr.2
    exact ⟨ho.token, ho.le, fun _ => hlt⟩
  | release worker =>
    refine forall_modify h.rows fun i o hl hp => ?_
    have ho := h.rows i o hl
    have hlt : o.attempts < 8 := hg.lt hl hp.1 (.inr ⟨worker, rfl, hp.2⟩)
    exact ⟨ho.token, ho.le, fun _ => hlt⟩

theorem AttemptsSound.step (h : AttemptsSound s) (hg : LastReported s a) :
    AttemptsSound (step policy s a) := by
  refine ⟨h.rows_step hg, ?_⟩
  have he := step_effect policy s a
  generalize Store.step policy s a = s' at he
  cases he with
  | claim _ _ _ _ _ _ hl =>
    exact forall_insert h.copies (congrArg (· + 1) (h.rows _ _ hl).token)
  | reload _ _ _ _ _ hl => exact forall_insert h.copies (h.rows _ _ hl).token
  | _ => exact h.copies

theorem Initial.attemptsSound_run (h₀ : Initial s₀) {acts : List Action}
    (hg : Guarded (Store.step policy) LastReported s₀ acts) :
    AttemptsSound (run (Store.step policy) s₀ acts) := by
  refine guarded_run_induction ⟨?_, ?_⟩ (fun s a h hg => h.step hg) hg
  · exact fun _ _ => of_lookup_empty h₀.operations
  · exact fun _ _ => of_lookup_empty h₀.held

theorem AttemptsSound.claims_le {acts : List Action}
    (h : AttemptsSound (run (Store.step policy) s₀ acts)) (h₀ : Initial s₀) (i : ℕ) :
    count (Store.step policy) (fun s a => ∃ op ∈ claimed s a, op.1 = i) s₀ acts ≤ 8 := by
  rw [← tokenOf_run policy acts i h₀, tokenOf]
  cases hl : (run (Store.step policy) s₀ acts).db.operations.lookup i with
  | none => exact Nat.zero_le 8
  | some o =>
    have ho := h.rows i o hl
    exact ho.token.symm.trans_le ho.le

end Steps

/-- **Eight claims.** If no operation is taken from its worker in its eighth attempt, no operation
is claimed more than eight times. -/
theorem claims_le_eight (policy : PublicationPolicy) (s₀ : State) (acts : List Action) (i : ℕ)
    (h₀ : Initial s₀) (hg : Guarded (step policy) LastReported s₀ acts) :
    count (step policy) (fun s a => ∃ op ∈ claimed s a, op.1 = i) s₀ acts ≤ 8 :=
  (h₀.attemptsSound_run hg).claims_le h₀ i

/-- So it is if no eighth attempt loses its lease or its worker. -/
theorem claims_le_eight_of_lastHeld (policy : PublicationPolicy) (s₀ : State) (acts : List Action)
    (i : ℕ) (h₀ : Initial s₀) (hg : Guarded (step policy) LastHeld s₀ acts) :
    count (step policy) (fun s a => ∃ op ∈ claimed s a, op.1 = i) s₀ acts ≤ 8 :=
  (h₀.attemptsSound_run (hg.mono fun _ _ h => h.lastReported)).claims_le h₀ i

/-- An environment is deployed. -/
def deployOnce : List Action :=
  [.createAppEnvironment (newEnvironment "env-one" []),
    .createDeployment (firstDeployment "env-one" 1)]

/-- A worker claims what there is for a minute, and the minute passes. -/
def claimAndDie : List Action :=
  [.claimNext "agent:cls-one" "cls-one" 60, .tick 61]

/-- Two attempts that end with their leases are allowed. -/
theorem claims_le_eight_twice :
    Guarded (step smallPolicy) LastReported smallStore
        (deployOnce ++ claimAndDie ++ claimAndDie) ∧
      count (step smallPolicy) (fun s a => ∃ op ∈ claimed s a, op.1 = 1) smallStore
        (deployOnce ++ claimAndDie ++ claimAndDie) ≤ 8 :=
  have hg : Guarded (step smallPolicy) LastReported smallStore
      (deployOnce ++ claimAndDie ++ claimAndDie) := by decide +kernel
  ⟨hg, claims_le_eight _ _ _ _ smallStore_initial hg⟩

/-- **Nine claims.** The operation of a deployment whose worker dies each time is claimed a ninth
time, and is still running. -/
theorem nine_claims :
    count (step smallPolicy) (fun s a => ∃ op ∈ claimed s a, op.1 = 1) smallStore
        (deployOnce ++ (List.replicate 9 claimAndDie).flatten) = 9 ∧
      ∃ o ∈ (run (step smallPolicy) smallStore
        (deployOnce ++ (List.replicate 9 claimAndDie).flatten)).db.operations.lookup 1,
        o.status = .running := by
  decide +kernel

end Molejo.Store
