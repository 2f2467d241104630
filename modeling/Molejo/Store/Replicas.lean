import Molejo.Store.Fencing

/-!
# Claims of many replicas

In `step` a claim is one step. In truth it is a transaction of several statements that
interleaves with those of other replicas and other streams of the same Agent:

* the transaction begins, and `now()` is that moment for all of its statements;
* it waits for the advisory lock of the installation, which it keeps until it ends;
* the claiming query takes a *snapshot* of what is committed and evaluates its
  conditions on that – in particular that no other operation of the cluster is running;
* it locks the row it has chosen; if the row has changed since the snapshot, the
  conditions are evaluated again with the new row, but everything else is still read
  from the snapshot;
* the new row becomes visible when the transaction commits. Until then whoever wants
  to write the row waits.

This file makes each of these a step of its own. Every other transaction is one step, as
before. `uninterrupted_claim` says that without interleaving the pieces are the claim of
`claimNextForAgent`, and `oneInFlight` that in every interleaving at most one
operation of an installation is running under a lease that has not expired.
-/

namespace Molejo.Store

open Transaction Table Transition

/-! ### Claims in pieces -/

/-- How far a call of `ClaimNextForAgent` has got. -/
inductive ClaimPhase
  /-- Begun, without the advisory lock. -/
  | waiting
  | locked
  /-- The claiming query runs, on this snapshot. -/
  | reading (snapshot : Db)
  /-- The query has locked a row and written a new one, which nobody else sees. -/
  | holding (i : ℕ) (row : Operation)

/-- A call of `ClaimNextForAgent` that has not ended. -/
structure Claimant where
  worker : String
  installation : String
  lease : ℕ
  /-- `now()` of the transaction. -/
  began : Time
  phase : ClaimPhase

/-- The transaction has the advisory lock of its installation. -/
def Claimant.hasLock (c : Claimant) : Bool :=
  match c.phase with
  | .waiting => false
  | .locked | .reading _ | .holding _ _ => true

/-- The row the transaction has locked. -/
def Claimant.lockedRow? (c : Claimant) : Option ℕ :=
  match c.phase with
  | .holding i _ => some i
  | .waiting | .locked | .reading _ => none

/-- The store and all the calls in progress, of any replica. -/
structure Replicas where
  store : State
  claimants : Table Claimant

/-- One thing that happens. -/
inductive Event
  /-- A step that is not a claim. -/
  | other (a : Action)
  | start (worker installation : String) (lease : ℕ)
  | lock (k : ℕ)
  | read (k : ℕ)
  /-- The claiming query gets the row under `i`. -/
  | take (k i : ℕ)
  | commit (k : ℕ)
  /-- The transaction ends without effect. -/
  | rollback (k : ℕ)

/-- The action is a claim. -/
def Action.isClaim : Action → Bool
  | .claimNext _ _ _ => true
  | _ => false

/-- The step to `s'` would write a row that a claim has locked. -/
def Replicas.Waits (r : Replicas) (s' : State) : Prop :=
  r.claimants.Any fun _ c => ∃ i ∈ c.lockedRow?,
    s'.db.operations.lookup i ≠ r.store.db.operations.lookup i
deriving Decidable

/-- Another transaction has the advisory lock of the installation. -/
def Replicas.LockTaken (r : Replicas) (k : ℕ) (installation : String) : Prop :=
  r.claimants.Any fun j d => j ≠ k ∧ d.installation = installation ∧ d.hasLock = true
deriving Decidable

/-- A claim goes on to its next phase. -/
def Replicas.setPhase (r : Replicas) (k : ℕ) (phase : ClaimPhase) : Replicas :=
  { r with
    claimants := r.claimants.modify (fun j _ => j = k) fun c => { c with phase := phase } }

/-- A claim has ended. -/
def Replicas.finish (r : Replicas) (k : ℕ) : Replicas :=
  { r with claimants := r.claimants.delete fun j _ => j = k }

/-- What the claiming query writes if it gets the row under `i`: the row met the conditions in the
snapshot, it meets them as it is now, and nobody has locked it. -/
def Replicas.claimedRow? (r : Replicas) (c : Claimant) (snapshot : Db) (i : ℕ) :
    Option Operation :=
  match snapshot.operations.lookup i, r.store.db.operations.lookup i with
  | some o, some o' =>
    if Claimable c.began snapshot c.installation i o ∧
        Claimable c.began snapshot c.installation i o' ∧
        ¬ r.claimants.Any (fun _ d => d.lockedRow? = some i) then
      some (claimRow c.began c.lease c.worker o')
    else none
  | _, _ => none

/-- The rest of the transaction and its commit. -/
def Replicas.commit (r : Replicas) (k : ℕ) (c : Claimant) (i : ℕ) (row : Operation) : Replicas :=
  match startWork c.began
      { r.store.db with
        operations := r.store.db.operations.modify (fun j _ => j = i) fun _ => row } row with
  | .ok db' =>
    { r.finish k with
      store := { r.store with db := db', held := r.store.held.insert (i, row) } }
  | .error _ => r.finish k

/-- A claim that is under way goes on. -/
def Replicas.proceed (r : Replicas) (k : ℕ) (c : Claimant) : Event → Replicas
  | .lock _ =>
    match c.phase with
    | .waiting => if r.LockTaken k c.installation then r else r.setPhase k .locked
    | _ => r
  | .read _ =>
    match c.phase with
    | .locked => r.setPhase k (.reading r.store.db)
    | _ => r
  | .take _ i =>
    match c.phase with
    | .reading snapshot =>
      match r.claimedRow? c snapshot i with
      | some row => r.setPhase k (.holding i row)
      | none => r
    | _ => r
  | .commit _ =>
    match c.phase with
    | .holding i row => r.commit k c i row
    | _ => r
  | .rollback _ => r.finish k
  | .other _ | .start _ _ _ => r

/-- One step of the replicas. -/
def Replicas.step (policy : PublicationPolicy) (r : Replicas) (e : Event) : Replicas :=
  match e with
  | .other a =>
    if a.isClaim = true ∨ r.Waits (Store.step policy r.store a) then r
    else { r with store := Store.step policy r.store a }
  | .start worker installation lease =>
    if installation = "" then r
    else { r with
      claimants := r.claimants.insert ⟨worker, installation, lease, r.store.now, .waiting⟩ }
  | .lock k | .read k | .take k _ | .commit k | .rollback k =>
    match r.claimants.lookup k with
    | some c => r.proceed k c e
    | none => r

variable {policy : PublicationPolicy} {r r' : Replicas} {e : Event} {s : State} {a : Action}
  {db db' : Db} {i j k : ℕ} {c d : Claimant} {o : Operation}

/-! ### Without interleaving -/

section Uninterrupted

variable (s) (worker installation : String) (lease : ℕ)

/-- One claim in progress that began now. -/
def Replicas.single (phase : ClaimPhase) : Replicas :=
  ⟨s, Table.empty.insert ⟨worker, installation, lease, s.now, phase⟩⟩

/-- **Pieces of a claim.** Without anything in between they are the claim of
`claimNextForAgent`. -/
theorem uninterrupted_claim {op : ClaimedOperation}
    (h : claimNextForAgent s.now lease worker installation s.db = .ok (some (db', op))) :
    (run (Replicas.step policy) ⟨s, .empty⟩
      [.start worker installation lease, .lock 1, .read 1, .take 1 op.1, .commit 1]).store =
    Store.step policy s (.claimNext worker installation lease) := by
  simp only [claimNextForAgent, ok_iff] at h
  obtain ⟨hne, h⟩ := h
  obtain ⟨o, ho, hc, hrow, hs⟩ := claimNext_eq_ok h
  have hstart : Replicas.step policy ⟨s, .empty⟩ (.start worker installation lease) =
      Replicas.single s worker installation lease .waiting := if_neg hne
  have hlock : Replicas.step policy (Replicas.single s worker installation lease .waiting)
      (.lock 1) = Replicas.single s worker installation lease .locked := by
    have hfree : ¬ (Replicas.single s worker installation lease .waiting).LockTaken 1
        installation := by
      rintro ⟨x, hx, hx1, -⟩
      rw [List.mem_singleton.mp hx] at hx1
      exact hx1 rfl
    change (if (Replicas.single s worker installation lease .waiting).LockTaken 1 installation
      then Replicas.single s worker installation lease .waiting
      else (Replicas.single s worker installation lease .waiting).setPhase 1 .locked) = _
    rw [if_neg hfree]
    rfl
  have hread : Replicas.step policy (Replicas.single s worker installation lease .locked)
      (.read 1) = Replicas.single s worker installation lease (.reading s.db) := rfl
  have htake : Replicas.step policy (Replicas.single s worker installation lease (.reading s.db))
      (.take 1 op.1) = Replicas.single s worker installation lease (.holding op.1 op.2) := by
    have hrow' : (Replicas.single s worker installation lease (.reading s.db)).claimedRow?
        ⟨worker, installation, lease, s.now, .reading s.db⟩ s.db op.1 = some op.2 := by
      simp only [Replicas.claimedRow?, Replicas.single, ho]
      refine (if_pos ⟨hc, hc, ?_⟩).trans (congrArg some hrow.symm)
      rintro ⟨x, hx, hx1⟩
      rw [List.mem_singleton.mp hx] at hx1
      cases hx1
    change (match (Replicas.single s worker installation lease (.reading s.db)).claimedRow?
      ⟨worker, installation, lease, s.now, .reading s.db⟩ s.db op.1 with
      | some row => (Replicas.single s worker installation lease (.reading s.db)).setPhase 1
        (.holding op.1 row)
      | none => Replicas.single s worker installation lease (.reading s.db)) = _
    rw [hrow']
    rfl
  simp only [run, List.foldl_cons, List.foldl_nil, hstart, hlock, hread, htake]
  change (Replicas.commit _ 1 _ op.1 op.2).store = claim s worker installation lease
  unfold claim
  rw [h]
  simp only [Replicas.commit, Replicas.single, hs]

theorem uninterrupted_claim_smallStore :
    ∃ s db' op, claimNextForAgent s.now 60 "agent:cls-one" "cls-one" s.db = .ok (some (db', op)) ∧
      (run (Replicas.step smallPolicy) ⟨s, .empty⟩
        [.start "agent:cls-one" "cls-one" 60, .lock 1, .read 1, .take 1 op.1, .commit 1]).store =
      step smallPolicy s (.claimNext "agent:cls-one" "cls-one" 60) :=
  ⟨run (step smallPolicy) smallStore [.createAppEnvironment (newEnvironment "env-one" []),
    .createDeployment (firstDeployment "env-one" 1)],
    _, _, rfl, uninterrupted_claim _ _ _ _ rfl⟩

end Uninterrupted

/-! ### What can happen -/

/-- Everything that one event can lead to. -/
inductive Outcome (policy : PublicationPolicy) (r : Replicas) : Replicas → Prop
  | idle : Outcome policy r r
  | other (a : Action) (ha : a.isClaim = false) (hw : ¬ r.Waits (Store.step policy r.store a)) :
      Outcome policy r { r with store := Store.step policy r.store a }
  | start (c : Claimant) (hi : c.installation ≠ "") (hb : c.began = r.store.now)
      (hp : c.phase = .waiting) :
      Outcome policy r { r with claimants := r.claimants.insert c }
  | lock (k : ℕ) (c : Claimant) (hl : r.claimants.lookup k = some c)
      (ht : ¬ r.LockTaken k c.installation) : Outcome policy r (r.setPhase k .locked)
  | read (k : ℕ) (c : Claimant) (hl : r.claimants.lookup k = some c) (hp : c.phase = .locked) :
      Outcome policy r (r.setPhase k (.reading r.store.db))
  | take (k i : ℕ) (c : Claimant) (snapshot : Db) (o : Operation)
      (hl : r.claimants.lookup k = some c) (hp : c.phase = .reading snapshot)
      (ho : r.store.db.operations.lookup i = some o)
      (hc : Claimable c.began snapshot c.installation i o) :
      Outcome policy r (r.setPhase k (.holding i (claimRow c.began c.lease c.worker o)))
  | commit (k i : ℕ) (c : Claimant) (row : Operation) (db' : Db)
      (hl : r.claimants.lookup k = some c) (hp : c.phase = .holding i row)
      (hs : startWork c.began
        { r.store.db with
          operations := r.store.db.operations.modify (fun j _ => j = i) fun _ => row } row =
            .ok db') :
      Outcome policy r
        { r.finish k with
          store := { r.store with db := db', held := r.store.held.insert (i, row) } }
  | finish (k : ℕ) : Outcome policy r (r.finish k)

theorem claimedRow?_eq_some {snapshot : Db} {row : Operation}
    (h : r.claimedRow? c snapshot i = some row) :
    ∃ o, r.store.db.operations.lookup i = some o ∧
      Claimable c.began snapshot c.installation i o ∧
      row = claimRow c.began c.lease c.worker o := by
  unfold Replicas.claimedRow? at h
  split at h
  · rename_i o o' _ ho'
    split at h
    · rename_i hc
      exact ⟨o', ho', hc.2.1, (Option.some.inj h).symm⟩
    · cases h
  · cases h

theorem proceed_outcome (hl : r.claimants.lookup k = some c) (e : Event) :
    Outcome policy r (r.proceed k c e) := by
  cases e with
  | other | start => exact .idle
  | lock =>
    simp only [Replicas.proceed]
    split
    · split
      · exact .idle
      · rename_i ht
        exact .lock k c hl ht
    · exact .idle
  | read =>
    simp only [Replicas.proceed]
    split
    · rename_i hp
      exact .read k c hl hp
    · exact .idle
  | take _ i =>
    simp only [Replicas.proceed]
    split
    · rename_i snapshot hp
      split
      · rename_i row hrow
        obtain ⟨o, ho, hc, rfl⟩ := claimedRow?_eq_some hrow
        exact .take k i c snapshot o hl hp ho hc
      · exact .idle
    · exact .idle
  | commit =>
    simp only [Replicas.proceed]
    split
    · rename_i i row hp
      unfold Replicas.commit
      split
      · rename_i db' hs
        exact .commit k i c row db' hl hp hs
      · exact .finish k
    · exact .idle
  | rollback => exact .finish k

theorem step_outcome (policy) (r : Replicas) (e : Event) :
    Outcome policy r (r.step policy e) := by
  have hgo (k : ℕ) : Outcome policy r
      (match r.claimants.lookup k with
        | some c => r.proceed k c e
        | none => r) := by
    split
    · rename_i c hl
      exact proceed_outcome hl e
    · exact .idle
  cases e with
  | other a =>
    simp only [Replicas.step]
    split
    · exact .idle
    · rename_i h
      obtain ⟨ha, hw⟩ := not_or.mp h
      exact .other a (Bool.eq_false_iff.mpr ha) hw
  | start worker installation lease =>
    simp only [Replicas.step]
    split
    · exact .idle
    · rename_i hi
      exact .start _ hi rfl rfl
  | lock k => exact hgo k
  | read k => exact hgo k
  | take k => exact hgo k
  | commit k => exact hgo k
  | rollback k => exact hgo k

/-! ### Steps that claim nothing -/

/-- Of the operations that meet `P`, those that are running in `db'` were running in `db`, under
the same lease. -/
def Quiet (P : ℕ → Operation → Prop) (db db' : Db) : Prop :=
  ∀ j p, db'.operations.lookup j = some p → P j p → p.status = .running →
    ∃ q, db.operations.lookup j = some q ∧ q.status = .running ∧ q.leaseUntil = p.leaseUntil ∧
      q.agentInstallationId = p.agentInstallationId

theorem not_isClaim (h : a.isClaim = false) : ¬ a.IsClaim := by
  rintro ⟨worker, installation, lease, rfl⟩
  cases h

theorem step_quiet (policy) (s : State) (h : a.isClaim = false) :
    Quiet (fun _ _ => True) s.db (step policy s a).db := by
  intro j p hl _ hr
  rcases operation_cases policy a hl with ⟨q, hl₀, hf⟩ | ⟨-, hnew, -⟩
  · obtain ⟨hq, hlease⟩ := (hf.running hr).resolve_right (not_isClaim h)
    exact ⟨q, hl₀, hq, hlease.symm, (congrArg Operation.agentInstallationId hf.work :).symm⟩
  · rw [hnew.pending] at hr
    cases hr

/-- An installation is always called the same. -/
theorem step_agree_publicId (policy) (s : State) (a : Action) :
    Table.Agree Installation.publicId s.db.installations (step policy s a).db.installations := by
  rcases (step_outside policy s a).1 with heq | ⟨-, h, -⟩ | ⟨_, _, _, _, -, -, -, hdb⟩
  · rw [heq]
    exact .refl _ _
  · exact h
  · rw [hdb]
    exact agree_modify fun _ => rfl

/-! ### The invariant -/

/-- The operation is running under a lease that is good at `t`. -/
def RunningAt (t : Time) (o : Operation) : Prop :=
  o.status = .running ∧ ∃ e ∈ o.leaseUntil, t ≤ e

theorem RunningAt.mono {t t' : Time} (h : RunningAt t' o) (ht : t ≤ t') : RunningAt t o := by
  obtain ⟨hr, e, he, hle⟩ := h
  exact ⟨hr, e, he, ht.trans hle⟩

/-- **One command in flight.** Of the operations of one installation, at most one is running under
a lease that has not expired. -/
def OneInFlight (s : State) : Prop :=
  ∀ i o j p x, s.db.operations.lookup i = some o → s.db.operations.lookup j = some p →
    o.agentInstallationId = some x → p.agentInstallationId = some x →
    RunningAt s.now o → RunningAt s.now p → i = j

/-- The installation with this identity has this public id. -/
def Named (db : Db) (installation : String) (x : Option ℕ) : Prop :=
  ∃ row ∈ x.bind db.installations.lookup, row.publicId = installation

theorem Named.of_agree {x : Option ℕ} {installation : String} (h : Named db installation x)
    (ha : Table.Agree Installation.publicId db.installations db'.installations) :
    Named db' installation x := by
  obtain ⟨row, hrow, hp⟩ := h
  obtain ⟨y, rfl, hy⟩ := Option.bind_eq_some_iff.mp hrow
  obtain ⟨row', hrow', hp'⟩ := ha.exists_lookup hy
  exact ⟨row', hrow', hp'.trans hp⟩

theorem Named.unique {x : Option ℕ} {m n : String} (hm : Named db m x) (hn : Named db n x) :
    m = n := by
  obtain ⟨row, hrow, rfl⟩ := hm
  obtain ⟨row', hrow', rfl⟩ := hn
  rw [Option.mem_unique hrow hrow']

/-- What a claim in progress may rely on. -/
def ClaimantSound (db : Db) (c : Claimant) : Prop :=
  match c.phase with
  | .waiting | .locked => True
  -- nothing of the installation was claimed since the snapshot
  | .reading snapshot =>
    Table.Agree Installation.publicId snapshot.installations db.installations ∧
    Quiet (fun _ p => Named snapshot c.installation p.agentInstallationId) snapshot db
  -- whatever else of the installation is running has expired when the transaction began
  | .holding i row => ∃ o, db.operations.lookup i = some o ∧
    row = claimRow c.began c.lease c.worker o ∧ Named db c.installation o.agentInstallationId ∧
    ∀ j p, db.operations.lookup j = some p → p.agentInstallationId = o.agentInstallationId →
      RunningAt c.began p → j = i

theorem lockedRow?_eq_some (h : c.lockedRow? = some i) : ∃ row, c.phase = .holding i row := by
  unfold Claimant.lockedRow? at h
  split at h
  · rename_i i' row hp
    obtain rfl : i' = i := Option.some.inj h
    exact ⟨row, hp⟩
  all_goals cases h

/-- Without the lock, a claim relies on nothing. -/
theorem claimantSound_of_not_hasLock (h : c.hasLock = false) : ClaimantSound db c := by
  unfold Claimant.hasLock at h
  unfold ClaimantSound
  split at h
  · trivial
  all_goals cases h

/-- A claim may go on relying on it over a step that claims nothing of its installation and
leaves the row it has locked alone. -/
theorem ClaimantSound.of_quiet (h : ClaimantSound db c)
    (hn : Table.Agree Installation.publicId db.installations db'.installations)
    (hq : Quiet (fun _ p => Named db c.installation p.agentInstallationId) db db')
    (hrow : ∀ i ∈ c.lockedRow?, db'.operations.lookup i = db.operations.lookup i) :
    ClaimantSound db' c := by
  unfold ClaimantSound at h ⊢
  unfold Claimant.lockedRow? at hrow
  split at h
  · trivial
  · trivial
  · rename_i snapshot hp
    obtain ⟨ha, hquiet⟩ := h
    refine ⟨ha.trans hn, fun j p hl hP hr => ?_⟩
    obtain ⟨q, hql, hqr, hlease, hx⟩ := hq j p hl (hP.of_agree ha) hr
    have hP' : Named snapshot c.installation q.agentInstallationId := hx ▸ hP
    obtain ⟨q', hql', hqr', hlease', hx'⟩ := hquiet j q hql hP' hqr
    exact ⟨q', hql', hqr', hlease'.trans hlease, hx'.trans hx⟩
  · rename_i i row hp
    rw [hp] at hrow
    obtain ⟨o, ho, hclaim, hname, halone⟩ := h
    refine ⟨o, (hrow i rfl).trans ho, hclaim, hname.of_agree hn, fun j p hl hx hr => ?_⟩
    have hnamed : Named db c.installation p.agentInstallationId := hx ▸ hname
    obtain ⟨q, hql, hqr, hlease, hqx⟩ := hq j p hl hnamed hr.1
    exact halone j q hql (hqx.trans hx) ⟨hqr, hlease ▸ hr.2⟩

/-- What holds of all replicas at every moment. -/
structure Exclusive (r : Replicas) : Prop where
  one : OneInFlight r.store
  began : ∀ k c, r.claimants.lookup k = some c → c.installation ≠ "" ∧ c.began ≤ r.store.now
  /-- The advisory lock of an installation is had by one. -/
  lock : ∀ k c j d, r.claimants.lookup k = some c → r.claimants.lookup j = some d →
    c.hasLock = true → d.hasLock = true → c.installation = d.installation → k = j
  sound : ∀ k c, r.claimants.lookup k = some c → ClaimantSound r.store.db c

section Step

variable (h : Exclusive r)

include h

theorem Exclusive.other (ha : a.isClaim = false) (hw : ¬ r.Waits (Store.step policy r.store a)) :
    Exclusive { r with store := Store.step policy r.store a } where
  one i o j p x hi hj hox hpx ho hp := by
    have hquiet := step_quiet policy r.store ha
    have hback {i : ℕ} {o : Operation}
        (hl : (Store.step policy r.store a).db.operations.lookup i = some o)
        (hr : RunningAt (Store.step policy r.store a).now o) :
        ∃ q, r.store.db.operations.lookup i = some q ∧
          q.agentInstallationId = o.agentInstallationId ∧ RunningAt r.store.now q := by
      obtain ⟨q, hq, hqr, hlease, hx⟩ := hquiet i o hl trivial hr.1
      exact ⟨q, hq, hx, ⟨hqr, hlease ▸ (hr.mono (now_le_step policy r.store a)).2⟩⟩
    obtain ⟨o', hi', hox', ho'⟩ := hback hi ho
    obtain ⟨p', hj', hpx', hp'⟩ := hback hj hp
    exact h.one i o' j p' x hi' hj' (hox'.trans hox) (hpx'.trans hpx) ho' hp'
  began k c hl := (h.began k c hl).imp_right fun hb => hb.trans (now_le_step policy r.store a)
  lock := h.lock
  sound k c hl := by
    refine (h.sound k c hl).of_quiet (step_agree_publicId policy r.store a)
      (fun j p hj _ => step_quiet policy r.store ha j p hj trivial) fun i hi => ?_
    by_contra hne
    exact hw (any_iff.mpr ⟨k, c, hl, i, hi, hne⟩)

/-- A claim that goes on to a phase it may rely on, with the lock if nobody else has it. -/
theorem Exclusive.setPhase {phase : ClaimPhase} (hl : r.claimants.lookup k = some c)
    (hlock : c.hasLock = true ∨ ¬ r.LockTaken k c.installation)
    (hs : ClaimantSound r.store.db { c with phase := phase }) : Exclusive (r.setPhase k phase) := by
  have hcases {j : ℕ} {d : Claimant} (hd : (r.setPhase k phase).claimants.lookup j = some d) :
      (j = k ∧ d = { c with phase := phase }) ∨ (j ≠ k ∧ r.claimants.lookup j = some d) := by
    obtain ⟨d₀, hd₀, ⟨rfl, rfl⟩ | ⟨hne, rfl⟩⟩ := lookup_modify_eq_some.mp hd
    · exact .inl ⟨rfl, by rw [Option.mem_unique hd₀ hl]⟩
    · exact .inr ⟨hne, hd₀⟩
  have hfree {j : ℕ} {d : Claimant} (hj : j ≠ k) (hd : r.claimants.lookup j = some d)
      (hdl : d.hasLock = true) : d.installation ≠ c.installation := by
    intro heq
    rcases hlock with hc | ht
    · exact hj (h.lock j d k c hd hl hdl hc heq)
    · exact ht (any_iff.mpr ⟨j, d, hd, hj, heq, hdl⟩)
  refine ⟨h.one, fun j d hd => ?_, fun j d j' d' hd hd' hdl hdl' heq => ?_, fun j d hd => ?_⟩
  · rcases hcases hd with ⟨rfl, rfl⟩ | ⟨-, hd⟩
    · exact h.began j c hl
    · exact h.began j d hd
  · rcases hcases hd with ⟨hj, hdc⟩ | ⟨hne, hold⟩ <;>
      rcases hcases hd' with ⟨hj', hdc'⟩ | ⟨hne', hold'⟩
    · exact hj.trans hj'.symm
    · exact absurd (heq.symm.trans (by rw [hdc])) (hfree hne' hold' hdl')
    · exact absurd (heq.trans (by rw [hdc'])) (hfree hne hold hdl)
    · exact h.lock j d j' d' hold hold' hdl hdl' heq
  · rcases hcases hd with ⟨rfl, rfl⟩ | ⟨-, hd⟩
    · exact hs
    · exact h.sound j d hd

/-- The row that the query gets is the only one of its installation that may be running. -/
theorem Exclusive.take {snapshot : Db} (hl : r.claimants.lookup k = some c)
    (hp : c.phase = .reading snapshot) (ho : r.store.db.operations.lookup i = some o)
    (hc : Claimable c.began snapshot c.installation i o) :
    ClaimantSound r.store.db
      { c with phase := .holding i (claimRow c.began c.lease c.worker o) } := by
  have hs := h.sound k c hl
  unfold ClaimantSound at hs
  rw [hp] at hs
  obtain ⟨ha, hquiet⟩ := hs
  obtain ⟨-, -, hname, hbusy⟩ := hc
  have hname : Named snapshot c.installation o.agentInstallationId :=
    hname.resolve_left (h.began k c hl).1
  refine ⟨o, ho, rfl, hname.of_agree ha, fun j p hj hx hr => ?_⟩
  by_contra hji
  -- the other one was running in the snapshot already
  have hnamed : Named snapshot c.installation p.agentInstallationId := hx ▸ hname
  obtain ⟨q, hq, hqr, hlease, hqx⟩ := hquiet j p hj hnamed hr.1
  refine hbusy (any_iff.mpr ⟨j, q, hq, ?_, hqx.trans hx, hqr, hlease ▸ hr.2, hji⟩)
  obtain ⟨row, hrow, -⟩ := hname
  rw [hqx.trans hx]
  rintro heq
  rw [heq] at hrow
  cases hrow

theorem Exclusive.finish (k : ℕ) : Exclusive (r.finish k) := by
  have hold {j : ℕ} {d : Claimant} (hd : (r.finish k).claimants.lookup j = some d) :
      r.claimants.lookup j = some d := (lookup_delete_eq_some.mp hd).1
  exact ⟨h.one, fun j d hd => h.began j d (hold hd),
    fun j d j' d' hd hd' => h.lock j d j' d' (hold hd) (hold hd'),
    fun j d hd => h.sound j d (hold hd)⟩

/-- A claim that commits is the only one of its installation, and the row it writes is the only
one that may be running. -/
theorem Exclusive.commit {row : Operation} (hl : r.claimants.lookup k = some c)
    (hp : c.phase = .holding i row)
    (hs : startWork c.began
      { r.store.db with
        operations := r.store.db.operations.modify (fun j _ => j = i) fun _ => row } row =
          .ok db') :
    Exclusive
      { r.finish k with
        store := { r.store with db := db', held := r.store.held.insert (i, row) } } := by
  obtain ⟨hops, -, -, -, -, hinst, -⟩ := startWork_eq_ok hs
  have hnames : Table.Agree Installation.publicId r.store.db.installations db'.installations :=
    hinst ▸ .refl _ _
  have hsound := h.sound k c hl
  unfold ClaimantSound at hsound
  rw [hp] at hsound
  obtain ⟨o, ho, rfl, hname, halone⟩ := hsound
  have hcases {j : ℕ} {p : Operation} (hj : db'.operations.lookup j = some p) :
      (j = i ∧ p = claimRow c.began c.lease c.worker o) ∨
        (j ≠ i ∧ r.store.db.operations.lookup j = some p) := by
    rw [hops] at hj
    obtain ⟨p₀, hp₀, ⟨rfl, rfl⟩ | ⟨hne, rfl⟩⟩ := lookup_modify_eq_some.mp hj
    · exact .inl ⟨rfl, rfl⟩
    · exact .inr ⟨hne, hp₀⟩
  have hbegan := (h.began k c hl).2
  refine ⟨?_, fun j d hd => (h.finish k).began j d hd, (h.finish k).lock, fun j d hd => ?_⟩
  · intro j p j' p' x hj hj' hpx hpx' hr hr'
    rcases hcases hj with ⟨hji, rfl⟩ | ⟨hne, hold⟩ <;>
      rcases hcases hj' with ⟨hji', rfl⟩ | ⟨hne', hold'⟩
    · exact hji.trans hji'.symm
    · exact absurd (halone j' p' hold' (hpx'.trans hpx.symm) (hr'.mono hbegan)) hne'
    · exact absurd (halone j p hold (hpx.trans hpx'.symm) (hr.mono hbegan)) hne
    · exact h.one j p j' p' x hold hold' hpx hpx' hr hr'
  · obtain ⟨hd, hjk⟩ := lookup_delete_eq_some.mp hd
    have hsd := h.sound j d hd
    -- a claim without the lock relies on nothing, and one with it is about another installation
    by_cases hdl : d.hasLock = true
    · have hother : d.installation ≠ c.installation := fun heq =>
        hjk (h.lock j d k c hd hl hdl (by simp [Claimant.hasLock, hp]) heq)
      refine hsd.of_quiet hnames (fun j' p hj' hnamed hr => ?_) fun i' hi' => ?_
      · rcases hcases hj' with ⟨rfl, rfl⟩ | ⟨-, hold⟩
        · exact absurd (Named.unique hnamed hname) hother
        · exact ⟨p, hold, hr, rfl, rfl⟩
      · obtain ⟨row, hphase⟩ := lockedRow?_eq_some hi'
        unfold ClaimantSound at hsd
        rw [hphase] at hsd
        obtain ⟨o', ho', -, hname', -⟩ := hsd
        rw [hops, ho']
        refine lookup_modify_of_neg ho' ?_
        rintro rfl
        cases ho'.symm.trans ho
        exact hother (hname'.unique hname)
    · exact claimantSound_of_not_hasLock (Bool.eq_false_iff.mpr hdl)

/-- **One event keeps claims exclusive.** -/
theorem Exclusive.step (policy) (e : Event) : Exclusive (r.step policy e) := by
  have ho := step_outcome policy r e
  generalize r.step policy e = r' at ho
  cases ho with
  | idle => exact h
  | other a ha hw => exact h.other ha hw
  | start c hi hb hp =>
    have hlock : c.hasLock = false := by simp [Claimant.hasLock, hp]
    refine ⟨h.one, forall_insert h.began ⟨hi, hb.le⟩, fun j d j' d' hd hd' hdl hdl' heq => ?_,
      forall_insert h.sound (claimantSound_of_not_hasLock hlock)⟩
    rcases lookup_insert_eq_some.mp hd with ⟨-, rfl⟩ | hd
    · exact absurd (hdl.symm.trans hlock) nofun
    rcases lookup_insert_eq_some.mp hd' with ⟨-, rfl⟩ | hd'
    · exact absurd (hdl'.symm.trans hlock) nofun
    exact h.lock j d j' d' hd hd' hdl hdl' heq
  | lock k c hl ht => exact h.setPhase hl (.inr ht) trivial
  | read k c hl hp =>
    refine h.setPhase hl (.inl (by simp [Claimant.hasLock, hp])) ⟨.refl _ _, ?_⟩
    exact fun j p hj _ hr => ⟨p, hj, hr, rfl, rfl⟩
  | take k i c snapshot o hl hp ho hc =>
    exact h.setPhase hl (.inl (by simp [Claimant.hasLock, hp])) (h.take hl hp ho hc)
  | commit k i c row db' hl hp hs => exact h.commit hl hp hs
  | finish k => exact h.finish k

end Step

/-! ### Every interleaving -/

theorem Initial.exclusive (h₀ : Initial s) : Exclusive ⟨s, .empty⟩ where
  one _ _ _ _ _ := of_lookup_empty h₀.operations
  began k c hl := by cases hl
  lock k c j d hl := by cases hl
  sound k c hl := by cases hl

/-- **One command in flight per Agent.** However the claims of any number of replicas and streams
interleave with each other and with everything else, at every moment at most one operation of an
installation is running under a lease that has not expired. -/
theorem oneInFlight (policy : PublicationPolicy) (s₀ : State) (events : List Event)
    (h₀ : Initial s₀) :
    OneInFlight (run (Replicas.step policy) ⟨s₀, .empty⟩ events).store := by
  have h : Exclusive (run (Replicas.step policy) ⟨s₀, .empty⟩ events) :=
    run_induction h₀.exclusive fun r e h => h.step policy e
  exact h.one

/-- Two environments on one cluster, each with a deployment to apply, and two streams of its Agent
that claim at once: the second transaction begins before the first has committed, and gets the
lock only then. -/
def racingStreams : List Event :=
  [.other (.createAppEnvironment (newEnvironment "env-one" [])),
    .other (.createAppEnvironment
      { newEnvironment "env-two" [] with appPublicId := "app-two" }),
    .other (.createDeployment (firstDeployment "env-one" 1)),
    .other (.createDeployment
      { firstDeployment "env-two" 1 with
        deploymentPublicId := "dep-two"
        releasePublicId := "rel-two"
        idempotencyHash := sha256 "deploy-two"
        operationPublicId := "op-two" }),
    .start "agent:cls-one" "cls-one" 60, .start "agent:cls-one" "cls-one" 60,
    .lock 1, .lock 2, .read 1, .take 1 1, .commit 1, .other (.tick 30),
    .lock 2, .read 2, .take 2 2, .commit 2]

theorem oneInFlight_racingStreams :
    Initial smallStore ∧
    OneInFlight (run (Replicas.step smallPolicy) ⟨smallStore, .empty⟩
      racingStreams).store :=
  ⟨smallStore_initial, oneInFlight smallPolicy smallStore racingStreams smallStore_initial⟩

end Molejo.Store
