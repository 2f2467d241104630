import Molejo.Lib.Lease
import Molejo.Store.Rows

/-!
# Operations are leased jobs

Seven functions write the rows of `operations`, under guards that differ: claiming
compares times, completing and failing compare worker, token and lease, releasing
compares the worker only, and revoking a cluster compares neither. This file shows
that all of them together keep the protocol of `Lease`: whatever a step does, an
operation that was there is still there, it is about the same work, and nothing or
one `Lease.Step` happened to it (`step_operation`).

Three facts about operations follow. A call whose worker no longer holds the lease
fails (`execute_of_not_held`). An operation that is `Succeeded` or `Failed` stays so,
and is completed just when it becomes `Succeeded` (`completed_iff`). Its token counts
its claims (`tokenOf_step`).
-/

namespace Molejo

/-- What an operation is about: the columns that never change. -/
def Operation.work (o : Operation) : Operation :=
  { o with
    status := .pending
    attempts := 0
    nextAttemptAt := 0
    leaseUntil := none
    workerId := none
    fencingToken := 0
    errorCode := ""
    errorMessage := ""
    startedAt := none
    completedAt := none }

/-- The job an operation is. -/
def Operation.job (o : Operation) : Lease.Job String where
  phase :=
    match o.status with
    | .pending => .waiting
    | .running => .held (o.workerId.getD "") (o.leaseUntil.getD 0)
    | .succeeded => .succeeded
    | .failed => .failed
  token := o.fencingToken

end Molejo

namespace Molejo.Store

open Transaction Relation Table Transition

variable {op : ClaimedOperation} {db db' : Db} {os : List RuntimeObservation}
  {s₀ : State}

variable {policy : PublicationPolicy} {now : Time} {s : State} {a : Action} {i : ℕ}
  {o o' : Operation}

/-! ### Rows as jobs -/

theorem ended_iff : o.job.Ended ↔ o.status = .succeeded ∨ o.status = .failed := by
  cases h : o.status <;> simp [Lease.Job.Ended, Operation.job, h]

theorem active_iff_not_ended : o.Active ↔ ¬ o.job.Ended := by
  rw [ended_iff, Operation.Active]
  cases o.status <;> simp

theorem LeaseHeld.phase (h : LeaseHeld now op i o) :
    ∃ e, o.job.phase = .held (o.workerId.getD "") e ∧ now < e := by
  obtain ⟨-, hr, -, -, e, he, hlt⟩ := h
  refine ⟨e, ?_, hlt⟩
  simp only [Operation.job, hr, Option.mem_def.mp he, Option.getD_some]

theorem running_phase (h : o.status = .running) :
    ∃ w e, o.job.phase = .held w e :=
  ⟨o.workerId.getD "", o.leaseUntil.getD 0, by simp [Operation.job, h]⟩

theorem Claimable.free {installation : String} (h : Claimable now db installation i o) :
    o.job.Free now := by
  rcases h.1 with hp | ⟨hr, e, he, hlt⟩
  · exact .inl (by simp [Operation.job, hp])
  · refine .inr ⟨o.workerId.getD "", e, ?_, hlt⟩
    simp only [Operation.job, hr, Option.mem_def.mp he, Option.getD_some]

/-! ### What a step does to an operation -/

/-- The action claims an operation, or tries to. -/
def Action.IsClaim (a : Action) : Prop :=
  ∃ worker installation lease, a = .claimNext worker installation lease

/-- The step gives up the operation `o` under `i`: its worker fails it for good, or its cluster is
revoked. -/
inductive GivesUp (s : State) (i : ℕ) (o : Operation) : Action → Prop
  | call (a : Action) (k : ℕ) (f : Operation → Call) (op : ClaimedOperation)
      (code message : String) (retry : Bool) (ha : a.call? = some (k, f))
      (hk : s.held.lookup k = some op) (hf : f op.2 = .fail code message retry)
      (hl : LeaseHeld s.now op i o) (hr : ¬ Retries op.2 retry) : GivesUp s i o a
  | revoke (publicId reason : String) (x : ℕ) (row : Installation)
      (hx : o.agentInstallationId = some x) (hrow : s.db.installations.lookup x = some row)
      (hp : row.publicId = publicId) : GivesUp s i o (.revokeCluster publicId reason)

/-- What may have happened to an operation. -/
structure Causes where
  claimed : Prop
  done : Prop
  givenUp : Prop

/-- What a step may have done to the operation `o` under `i`. -/
def causes (policy : PublicationPolicy) (s : State) (a : Action) (i : ℕ) (o : Operation) :
    Causes where
  claimed := a.IsClaim
  done := ∃ op ∈ completed policy s a, op.1 = i
  givenUp := GivesUp s i o a

/-- The operation under `i` is about the same work, and nothing or one thing happened to it, for
one of the causes `c`. -/
structure Follows (now : Time) (c : Causes) (o o' : Operation) : Prop where
  work : o'.work = o.work
  life : Lease.Life now o.job o'.job
  token : o'.fencingToken = o.fencingToken ∨ c.claimed
  running : o'.status = .running →
    (o.status = .running ∧ o'.leaseUntil = o.leaseUntil) ∨ c.claimed
  done : o'.status = .succeeded → o.status = .succeeded ∨ c.done
  failed : o'.status = .failed → o.status = .failed ∨ c.givenUp

variable {c : Causes}

section Follows

variable (h : Follows now c o o')

include h

theorem Follows.kind : o'.kind = o.kind := (congrArg Operation.kind h.work :)

theorem Follows.appEnvironmentId : o'.appEnvironmentId = o.appEnvironmentId :=
  (congrArg Operation.appEnvironmentId h.work :)

theorem Follows.deploymentId : o'.deploymentId = o.deploymentId :=
  (congrArg Operation.deploymentId h.work :)

theorem Follows.appVolumeId : o'.appVolumeId = o.appVolumeId :=
  (congrArg Operation.appVolumeId h.work :)

theorem Follows.desiredVersion : o'.desiredVersion = o.desiredVersion :=
  (congrArg Operation.desiredVersion h.work :)

/-- What is active was active. -/
theorem Follows.active (ha : o'.Active) : o.Active :=
  active_iff_not_ended.mpr (h.life.not_ended (active_iff_not_ended.mp ha))

end Follows

/-- The row under `i` has a follower in the table. -/
def Survives (now : Time) (c : Causes) (i : ℕ) (o : Operation) (t : Table Operation) : Prop :=
  ∃ o', t.lookup i = some o' ∧ Follows now c o o'

section Survives

variable {t : Table Operation} {p : ℕ → Operation → Prop}
  [∀ i o, Decidable (p i o)] {f : Operation → Operation}

theorem Follows.refl (o : Operation) : Follows now c o o :=
  ⟨rfl, .inl rfl, .inl rfl, fun hr => .inl ⟨hr, rfl⟩, .inl, .inl⟩

theorem Survives.of_lookup (h : t.lookup i = some o) : Survives now c i o t :=
  ⟨o, h, .refl o⟩

theorem Survives.of_modify (h : t.lookup i = some o)
    (hf : p i o → Follows now c o (f o)) : Survives now c i o (t.modify p f) :=
  exists_lookup_modify h (.refl o) hf

end Survives

/-- A report only adds operations. -/
theorem ReportStep.operations_lookup (h : ReportStep now os db db')
    (hl : db.operations.lookup i = some o) : db'.operations.lookup i = some o := by
  cases h with
  | environments | volumes => exact hl
  | ensureVolume | applyDeployment => exact lookup_insert_of_lookup hl

theorem report_operations_lookup (h : ReflTransGen (ReportStep now os) db db')
    (hl : db.operations.lookup i = some o) : db'.operations.lookup i = some o := by
  induction h with
  | refl => exact hl
  | tail _ hs ih => exact hs.operations_lookup ih

theorem Follows.succeed (h : LeaseHeld now op i o) (hd : op.1 = i → c.done) :
    Follows now c o (succeedRow now o) := by
  obtain ⟨e, hp, hlt⟩ := h.phase
  exact ⟨rfl, .inr (.succeed _ e hp hlt), .inl rfl, nofun, fun _ => .inr (hd h.1.symm), nofun⟩

theorem Follows.requeue (h : o.status = .running) (ho : o'.status = .pending)
    (hw : o'.work = o.work) (ht : o'.fencingToken = o.fencingToken) : Follows now c o o' := by
  obtain ⟨w, e, hp⟩ := running_phase h
  have hj : o'.job = ⟨.waiting, o.job.token⟩ := by simp [Operation.job, ho, ht]
  have hne {status : OperationStatus} {C : Prop} (hs : o'.status = status)
      (hne : OperationStatus.pending ≠ status) : C := absurd (ho.symm.trans hs) hne
  refine ⟨hw, .inr ?_, .inl ht, fun hs => hne hs nofun, fun hs => hne hs nofun,
    fun hs => hne hs nofun⟩
  rw [hj]
  exact .requeue w e hp

theorem Follows.giveUp (hc : c.givenUp) (h : o.Active) (ho : o'.status = .failed)
    (hw : o'.work = o.work) (ht : o'.fencingToken = o.fencingToken) : Follows now c o o' := by
  have hj : o'.job = ⟨.failed, o.job.token⟩ := by simp [Operation.job, ho, ht]
  have hne {status : OperationStatus} {C : Prop} (hs : o'.status = status)
      (hne : OperationStatus.failed ≠ status) : C := absurd (ho.symm.trans hs) hne
  refine ⟨hw, .inr ?_, .inl ht, fun hs => hne hs nofun, fun hs => hne hs nofun, fun _ => .inr hc⟩
  rw [hj]
  exact .giveUp (active_iff_not_ended.mp h)

theorem Follows.claim (hc : c.claimed) {lease : ℕ} {worker : String} (h : o.job.Free now) :
    Follows now c o (claimRow now lease worker o) :=
  ⟨rfl, .inr (.claim worker (now + lease) h), .inr hc, fun _ => .inr hc, nofun, nofun⟩

/-- **Operations are leased jobs.** After any step an operation is still there, is about the same
work, and has lived on as a job does. -/
theorem step_operation (policy) (a : Action) (hl : s.db.operations.lookup i = some o) :
    Survives s.now (causes policy s a i o) i o (step policy s a).db.operations := by
  have h := step_effect policy s a
  generalize step policy s a = s' at h
  cases h with
  | idle | tick | elsewhere | session | create | branch | update | reload => exact .of_lookup hl
  | attach | delete | expand | remove | deploy =>
    exact .of_lookup (lookup_insert_of_lookup hl)
  | revoke publicId reason x row hrow hp =>
    exact .of_modify hl fun ho =>
      .giveUp (.revoke publicId reason x row ho.1 hrow hp) ho.2 rfl rfl rfl
  | createStateful _ _ _ _ _ _ _ _ _ _ _ hv =>
    obtain ⟨_, _, _, _, -, -, -, -, rfl⟩ := createAppVolume_eq_ok hv
    exact .of_lookup (lookup_insert_of_lookup hl)
  | report _ _ _ hr => exact .of_lookup (report_operations_lookup hr hl)
  | claim worker installation lease j q _ hj hc hs =>
    rw [(startWork_eq_ok hs).1]
    by_cases hij : i = j
    · subst hij
      cases hl.symm.trans hj
      refine ⟨_, lookup_modify_of_pos hl rfl, .claim ?_ hc.free⟩
      exact ⟨worker, installation, lease, rfl⟩
    · exact .of_lookup (lookup_modify_of_neg hl hij)
  | workspaceDone _ _ _ op _ _ _ _ _ _ hdone =>
    exact .of_modify hl fun hp => .succeed hp fun hi => ⟨op, hdone, hi⟩
  | volumeDone _ _ _ op _ _ _ _ _ _ _ _ _ _ hdone =>
    exact .of_modify hl fun hp => .succeed hp fun hi => ⟨op, hdone, hi⟩
  | environmentDone _ _ _ op _ _ _ _ _ hdone =>
    exact .of_modify hl fun hp => .succeed hp fun hi => ⟨op, hdone, hi⟩
  | deploymentDone _ _ _ op _ _ _ _ _ _ _ _ _ _ _ _ hdone =>
    exact .of_modify hl fun hp => .succeed hp fun hi => ⟨op, hdone, hi⟩
  | retry => exact .of_modify hl fun hp => .requeue hp.2.1 rfl rfl rfl
  | failed a k f op code message retry ha hk hf _ hr =>
    rw [(reportFailure_frame op.2 message).1]
    exact .of_modify hl fun hp =>
      .giveUp (.call a k f op code message retry ha hk hf hp hr) (.inr hp.2.1) rfl rfl rfl
  | release => exact .of_modify hl fun hp => .requeue hp.1 rfl rfl rfl

/-! ### New operations -/

theorem TargetValid.appVolumeId (h : TargetValid o)
    (hk : o.kind = .ensureWorkspace ∨ o.kind = .applyDeployment) : o.appVolumeId = none := by
  rcases h with h | h | h | h
  · exact h.2.2.2
  · exact h.2.2.2
  · exact h.2.2.2
  · rcases hk with hk | hk
    · exact absurd h.1 (by rw [hk]; decide)
    · exact absurd h.1 (by rw [hk]; decide)

/-- An operation on a volume was requested by a user that exists. -/
def Accountable (db : Db) (o : Operation) : Prop :=
  o.appVolumeId ≠ none → ∃ u row, o.requestedByUserId = some u ∧ db.users.lookup u = some row

/-- An operation on a volume is one on the environment of the volume, and unless it removes the
volume, nothing else does. -/
def VolumeKnown (db : Db) (o : Operation) : Prop :=
  ∀ j, o.appVolumeId = some j → ∃ v, db.appVolumes.lookup j = some v ∧
    o.appEnvironmentId = some v.appEnvironmentId ∧
    (o.kind = .deleteVolume ∨ v.deletionRequestedAt = none)

theorem VolumeKnown.of_none (h : o.appVolumeId = none) : VolumeKnown db o := by
  intro j hj
  rw [h] at hj
  cases hj

/-- What is known of an operation that a step from `s` to `db'` added under `i`. -/
structure NewRow (s : State) (db' : Db) (i : ℕ) (o : Operation) : Prop where
  id : s.db.operations.nextId ≤ i
  pending : o.status = .pending
  token : o.fencingToken = 0
  target : TargetValid o
  /-- No other operation of its environment is active. -/
  alone : ∀ k p, db'.operations.lookup k = some p → p.Active → p.appEnvironmentId ≠ none →
    p.appEnvironmentId = o.appEnvironmentId → k = i
  /-- An operation that applies a deployment applies the one its environment desires, for the
  version the environment has. -/
  deployment : o.kind = .applyDeployment → ∃ e ae, o.appEnvironmentId = some e ∧
    db'.appEnvironments.lookup e = some ae ∧ o.deploymentId = ae.desiredDeploymentId ∧
    o.desiredVersion = ae.version
  accountable : Accountable db' o
  volume : VolumeKnown db' o

/-- The operation that was inserted last. -/
theorem NewRow.of_insert {t : Table Operation} {new : NewOperation} {cluster : ℕ}
    (hle : s.db.operations.nextId ≤ t.nextId)
    (ht : db'.operations = t.insert (new.row s.now cluster))
    (hi : Insertable t (new.row s.now cluster))
    (hd : new.kind = .applyDeployment → ∃ e ae, new.appEnvironmentId = some e ∧
      db'.appEnvironments.lookup e = some ae ∧ new.deploymentId = ae.desiredDeploymentId ∧
      new.desiredVersion = ae.version) (hu : Accountable db' (new.row s.now cluster))
    (hv : VolumeKnown db' (new.row s.now cluster)) (hn : t.lookup i = none)
    (hl : db'.operations.lookup i = some o) : NewRow s db' i o := by
  rw [ht] at hl
  rcases lookup_insert_eq_some.mp hl with ⟨rfl, rfl⟩ | hl
  · refine ⟨hle, rfl, rfl, hi.target, fun k p hk ha he hee => ?_, hd, hu, hv⟩
    rw [ht] at hk
    rcases lookup_insert_eq_some.mp hk with ⟨rfl, -⟩ | hk
    · rfl
    · exact absurd (any_iff.mpr ⟨k, p, hk, .inl ⟨ha, he, hee⟩⟩) hi.free
  · rw [hn] at hl
    cases hl

/-- A further write of a report leaves the operations it has added as they are. -/
theorem NewRow.report (h : NewRow s db i o) (hl : db.operations.lookup i = some o)
    (hs : ReportStep s.now os db db') : NewRow s db' i o := by
  have hd (hk : o.kind = .applyDeployment) : ∃ e ae, o.appEnvironmentId = some e ∧
      db'.appEnvironments.lookup e = some ae ∧ o.deploymentId = ae.desiredDeploymentId ∧
      o.desiredVersion = ae.version := by
    obtain ⟨e, _, he, hae, hde, hv⟩ := h.deployment hk
    obtain ⟨ae', hae', hc⟩ := hs.sameCore.environments.exists_lookup hae
    exact ⟨e, ae', he, hae', hde.trans (congrArg AppEnvironment.desiredDeploymentId hc).symm,
      hv.trans (congrArg AppEnvironment.version hc).symm⟩
  have hv : VolumeKnown db' o := by
    intro j hj
    obtain ⟨_, hv, he, hk⟩ := h.volume j hj
    obtain ⟨v', hv', hc⟩ := hs.sameCore.volumes.exists_lookup hv
    exact ⟨v', hv', he.trans (congrArg (some ·.appEnvironmentId) hc).symm,
      hk.imp_right (congrArg AppVolume.deletionRequestedAt hc).trans⟩
  have hins {new : Operation} (hi : Insertable db.operations new) (k : ℕ) (p : Operation)
      (hk : (db.operations.insert new).lookup k = some p) (ha : p.Active)
      (he : p.appEnvironmentId ≠ none) (hee : p.appEnvironmentId = o.appEnvironmentId) : k = i := by
    rcases lookup_insert_eq_some.mp hk with ⟨rfl, rfl⟩ | hk
    · refine absurd (any_iff.mpr ⟨i, o, hl, .inl ⟨.inl h.pending, ?_, hee.symm⟩⟩) hi.free
      exact hee ▸ he
    · exact h.alone k p hk ha he hee
  cases hs with
  | environments | volumes =>
    exact ⟨h.id, h.pending, h.token, h.target, h.alone, hd, h.accountable, hv⟩
  | ensureVolume _ _ _ _ _ _ _ _ _ _ hi =>
    exact ⟨h.id, h.pending, h.token, h.target, hins hi, hd, h.accountable, hv⟩
  | applyDeployment _ _ _ _ _ _ _ _ _ _ _ _ _ hi =>
    exact ⟨h.id, h.pending, h.token, h.target, hins hi, hd, h.accountable, hv⟩

theorem report_operations_nextId (h : ReflTransGen (ReportStep now os) db db') :
    db.operations.nextId ≤ db'.operations.nextId := by
  induction h with
  | refl => exact le_rfl
  | tail _ hs ih =>
    cases hs with
    | environments => exact ih
    | volumes => exact ih
    | ensureVolume => exact ih.trans (Nat.le_succ _)
    | applyDeployment => exact ih.trans (Nat.le_succ _)

/-- What a report added, write by write. -/
theorem newRow_of_report (h : ReflTransGen (ReportStep s.now os) s.db db')
    (hn : s.db.operations.lookup i = none) (hl : db'.operations.lookup i = some o) :
    NewRow s db' i o := by
  induction h generalizing o with
  | refl =>
    rw [hn] at hl
    cases hl
  | @tail db₁ _ hsteps hs ih =>
    cases hlast : db₁.operations.lookup i with
    | some q =>
      cases (hs.operations_lookup hlast).symm.trans hl
      exact (ih hlast).report hlast hs
    | none =>
      -- the last write inserted it
      have hle := report_operations_nextId hsteps
      cases hs with
      | environments => exact absurd hl (by simp [hlast])
      | volumes => exact absurd hl (by simp [hlast])
      | ensureVolume _ _ volumeId v hv hd hk he hvol hu hi =>
        refine .of_insert hle rfl hi (fun h => by rw [hk] at h; cases h) (fun _ => hu) ?_ hlast hl
        intro j hj
        cases hvol.symm.trans hj
        exact ⟨v, hv, he, .inr hd⟩
      | applyDeployment _ _ e _ ae hae _ _ hdep hk he hde hv hi =>
        have hnone := hi.target.appVolumeId (.inr hk)
        exact .of_insert hle rfl hi (fun _ => ⟨e, ae, he, hae, hde.trans hdep.symm, hv⟩)
          (absurd hnone) (.of_none hnone) hlast hl

/-- **What a step adds to the operations**, and where it comes from. -/
theorem step_added (policy) (a : Action) (hn : s.db.operations.lookup i = none)
    (hl : (step policy s a).db.operations.lookup i = some o) :
    NewRow s (step policy s a).db i o ∧ Inserted s a o := by
  have hold {C : Prop} (h : s.db.operations.lookup i = some o) : C := by
    rw [hn] at h
    cases h
  have hadd {new : Operation} (h : (s.db.operations.insert new).lookup i = some o)
      (hin : Inserted s a new) : Inserted s a o := by
    rcases lookup_insert_eq_some.mp h with ⟨-, rfl⟩ | h
    · exact hin
    · exact hold h
  have huser {db' : Db} {new : Operation} {u principalId : ℕ}
      (h : principalIdForUser db' u = .ok principalId) (hu : new.requestedByUserId = some u) :
      Accountable db' new := by
    obtain ⟨row, hrow, -⟩ := principalIdForUser_eq_ok.mp h
    exact fun _ => ⟨u, row, hu, hrow⟩
  have h := step_effect policy s a
  generalize step policy s a = s' at h hl
  cases h with
  | idle | tick | elsewhere | session | create | branch | update | reload => exact hold hl
  | attach request new cluster _ _ hk hi hc =>
    have hnone := hi.target.appVolumeId (.inl hk)
    exact ⟨.of_insert le_rfl rfl hi (fun h => by rw [hk] at h; cases h) (absurd hnone)
      (.of_none hnone) hn hl, hadd hl (.attach request new cluster hk hc)⟩
  | revoke | workspaceDone | volumeDone | environmentDone | deploymentDone | retry | release =>
    exact absurd hl (not_lookup_modify hn)
  | createStateful request _ _ _ _ _ _ _ hp _ _ hv =>
    obtain ⟨_, _, cluster, _, -, hu, rfl, ⟨hi, hc⟩, rfl⟩ := createAppVolume_eq_ok hv
    refine ⟨.of_insert le_rfl rfl hi nofun (huser hu rfl) ?_ hn hl, hadd hl ?_⟩
    · rintro _ ⟨⟩
      exact ⟨_, lookup_insert_self, rfl, .inr rfl⟩
    -- the volume is on the cluster of its environment, which was checked
    obtain ⟨_, _, _, _, rfl, hactive⟩ := placeAppEnvironment_eq_ok hp
    obtain ⟨_, hq, hcl⟩ := Option.bind_eq_some_iff.mp hc
    obtain rfl := Option.mem_unique hq (lookup_modify_of_pos lookup_insert_self rfl)
    obtain rfl := Option.some.inj hcl
    exact .create request _ _ rfl rfl hactive
  | delete request principalId cluster j ae _ _ _ _ hi hf hc =>
    exact ⟨.of_insert le_rfl rfl hi nofun (absurd rfl) (.of_none rfl) hn hl,
      hadd hl (.delete request principalId cluster j ae hf hc)⟩
  | expand change size principalId cluster j v hv _ hi hu hc =>
    obtain ⟨hj, -, -, -, hd⟩ := volumeForChange_eq_ok hv
    refine ⟨.of_insert le_rfl rfl hi nofun (huser hu rfl) ?_ hn hl,
      hadd hl (.expand change size principalId cluster j v hv hc)⟩
    rintro _ ⟨⟩
    exact ⟨_, lookup_modify_of_pos hj rfl, rfl, .inr hd⟩
  | remove change principalId cluster j v hv _ hi hu hc =>
    obtain ⟨hj, -⟩ := volumeForChange_eq_ok hv
    refine ⟨.of_insert le_rfl rfl hi nofun (huser hu rfl) ?_ hn hl,
      hadd hl (.remove change principalId cluster j v hv hc)⟩
    rintro _ ⟨⟩
    exact ⟨_, lookup_modify_of_pos hj rfl, rfl, .inl rfl⟩
  | deploy request j _ _ cluster ae _ _ _ _ hj _ _ _ _ _ _ _ _ hi hf hc =>
    exact ⟨.of_insert le_rfl rfl hi
      (fun _ => ⟨j, _, rfl, lookup_modify_of_pos hj rfl, rfl, rfl⟩) (absurd rfl)
      (.of_none rfl) hn hl, hadd hl (.deploy request j cluster ae hf hc)⟩
  | report _ heartbeat _ hr hc =>
    refine ⟨newRow_of_report hr hn hl, ?_⟩
    cases hh : heartbeat.complete with
    | false => exact hold (hc hh ▸ hl)
    | true => exact inserted_of_report hr hh hn hl
  | claim _ _ _ _ _ _ _ _ hs =>
    rw [(startWork_eq_ok hs).1] at hl
    exact absurd hl (not_lookup_modify hn)
  | failed _ _ _ op _ message =>
    rw [(reportFailure_frame op.2 message).1] at hl
    exact absurd hl (not_lookup_modify hn)

/-- **An operation after a step** was there before, or was added in it. -/
theorem operation_cases (policy) (a : Action)
    (hl : (step policy s a).db.operations.lookup i = some o') :
    (∃ o, s.db.operations.lookup i = some o ∧ Follows s.now (causes policy s a i o) o o') ∨
      s.db.operations.lookup i = none ∧ NewRow s (step policy s a).db i o' ∧ Inserted s a o' := by
  cases hn : s.db.operations.lookup i with
  | none => exact .inr ⟨rfl, step_added policy a hn hl⟩
  | some o => exact .inl ⟨o, rfl, of_found (step_operation policy a hn) hl⟩

theorem TargetValid.deployment (h : TargetValid o) (hk : o.kind = .applyDeployment) :
    o.deploymentId ≠ none := by
  rcases h with h | h | h | h
  · rw [hk] at h
    exact nomatch h.1
  · exact h.2.2.1
  · rw [hk] at h
    exact nomatch h.1
  · rw [hk] at h
    exact absurd h.1 (by decide)

theorem TargetValid.kind_of_deployment (h : TargetValid o) (hd : o.deploymentId ≠ none) :
    o.kind = .applyDeployment := by
  rcases h with h | h | h | h
  · exact absurd h.2.2.1 hd
  · exact h.1
  · exact absurd h.2.2.1 hd
  · exact absurd h.2.2.1 hd

/-- Every operation has the target its kind requires. -/
def TargetsValid (db : Db) : Prop :=
  ∀ i o, db.operations.lookup i = some o → TargetValid o

theorem TargetsValid.step (h : TargetsValid s.db) (policy) (a : Action) :
    TargetsValid (step policy s a).db := by
  intro i o hl
  rcases operation_cases policy a hl with ⟨o₀, hl₀, hf⟩ | ⟨-, hnew, -⟩
  · have ht := h i o₀ hl₀
    unfold TargetValid at ht ⊢
    rwa [hf.kind, hf.appEnvironmentId, hf.deploymentId, hf.appVolumeId]
  · exact hnew.target

/-! ### Calls -/

section Calls

variable {db db' : Db} {op : ClaimedOperation} {call : Call}

/-- A call without the lease fails. -/
theorem execute_of_not_held (h : ¬ db.operations.Any (LeaseHeld now op)) :
    execute policy now db op call = .error .leaseLost := by
  have hlease : completeOperationLease now db op = .error .leaseLost := by
    simp only [completeOperationLease, require, if_neg h]
    rfl
  cases call with
  | completeWorkspace => simp only [execute, completeWorkspace, hlease]; rfl
  | completeVolume => simp only [execute, completeVolume, hlease]; rfl
  | completeAppEnvironmentDeletion =>
    simp only [execute, completeAppEnvironmentDeletion, hlease]
    rfl
  | completeDeployment => simp only [execute, completeDeployment, hlease]; rfl
  | fail => simp only [execute, Store.fail, require, if_neg h]; rfl

/-- A completing call that commits had the lease, and all it does to the operations is to end it. -/
theorem execute_completes (hc : call.Completes) (h : execute policy now db op call = .ok db') :
    db.operations.Any (LeaseHeld now op) ∧
      db'.operations = db.operations.modify (LeaseHeld now op) (succeedRow now) := by
  cases call with
  | completeWorkspace =>
    obtain ⟨_, _, hl, -, rfl⟩ := completeWorkspace_eq_ok h
    exact ⟨hl, rfl⟩
  | completeVolume =>
    obtain ⟨_, _, -, hl, -, -, rfl⟩ := completeVolume_eq_ok.mp h
    exact ⟨hl, rfl⟩
  | completeAppEnvironmentDeletion =>
    obtain ⟨hl, -, rfl⟩ := completeAppEnvironmentDeletion_eq_ok.mp h
    exact ⟨hl, rfl⟩
  | completeDeployment =>
    obtain ⟨_, _, _, _, hl, -, -, -, -, -, rfl⟩ := completeDeployment_eq_ok h
    exact ⟨hl, rfl⟩
  | fail => exact hc.elim

end Calls

theorem step_of_call {k : ℕ} {f : Operation → Call} (ha : a.call? = some (k, f)) :
    step policy s a = s.transact (heldCall policy s k f) := by
  cases a <;> cases ha <;> rfl

/-- The action that completes an operation, the call it makes and the database after it. -/
theorem of_completed (h : completed policy s a = some op) :
    ∃ k f db', a.call? = some (k, f) ∧ s.held.lookup k = some op ∧ (f op.2).Completes ∧
      execute policy s.now s.db op (f op.2) = .ok db' ∧ step policy s a = { s with db := db' } := by
  unfold completed at h
  split at h
  · cases h
  rename_i k f ha
  split at h
  · cases h
  rename_i q hk
  split at h
  swap
  · cases h
  rename_i hc
  obtain rfl : q = op := Option.some.inj h
  cases he : execute policy s.now s.db q (f q.2) with
  | error =>
    rw [he] at hc
    exact absurd hc.2 (by simp [Except.isOk, Except.toBool])
  | ok db' =>
    refine ⟨k, f, db', ha, hk, hc.1, he, ?_⟩
    rw [step_of_call ha, heldCall, hk]
    simp only [he]
    rfl

/-- Completing an operation is done with its lease and makes its row `Succeeded`. -/
theorem lookup_of_completed (h : completed policy s a = some op) :
    ∃ o, s.db.operations.lookup op.1 = some o ∧ LeaseHeld s.now op op.1 o ∧
      (step policy s a).db.operations.lookup op.1 = some (succeedRow s.now o) := by
  obtain ⟨_, _, _, -, -, hc, he, hs⟩ := of_completed h
  obtain ⟨hl, hops⟩ := execute_completes hc he
  obtain ⟨j, o, hj, hheld⟩ := any_iff.mp hl
  obtain rfl : j = op.1 := hheld.1
  refine ⟨o, hj, hheld, ?_⟩
  rw [hs, hops]
  exact lookup_modify_of_pos hj hheld

/-! ### Operations end once -/

/-- The operation under `i` is `Succeeded`. -/
def Succeeded (i : ℕ) (s : State) : Prop :=
  ∃ o ∈ s.db.operations.lookup i, o.status = .succeeded
deriving Decidable

/-- An operation that has ended is no longer changed. -/
theorem step_ended (policy) (a : Action)
    (hl : s.db.operations.lookup i = some o) (he : o.job.Ended) :
    ∃ o', (step policy s a).db.operations.lookup i = some o' ∧ o'.job = o.job := by
  obtain ⟨o', hl', hf⟩ := step_operation policy a hl
  exact ⟨o', hl', hf.life.eq_of_ended he⟩

theorem run_ended (policy) (acts : List Action)
    (hl : s.db.operations.lookup i = some o) (he : o.job.Ended) :
    ∃ o', (run (step policy) s acts).db.operations.lookup i = some o' ∧
      o'.job = o.job := by
  induction acts generalizing s o with
  | nil => exact ⟨o, hl, rfl⟩
  | cons a _ ih =>
    obtain ⟨_, hl₁, hj₁⟩ := step_ended policy a hl he
    obtain ⟨o₂, hl₂, hj₂⟩ := ih hl₁ (hj₁ ▸ he)
    exact ⟨o₂, hl₂, hj₂.trans hj₁⟩

theorem status_eq_of_job_eq (h : o'.job = o.job) : o'.status = o.status := by
  have hp := congrArg Lease.Job.phase h
  cases ho : o.status <;> cases ho' : o'.status <;> simp [Operation.job, ho, ho'] at hp <;> rfl

theorem Succeeded.step (h : Succeeded i s) (a : Action) : Succeeded i (step policy s a) := by
  obtain ⟨_, hl, ho⟩ := h
  obtain ⟨o', hl', hj⟩ := step_ended policy a hl (ended_iff.mpr (.inl ho))
  exact ⟨o', hl', (status_eq_of_job_eq hj).trans ho⟩

/-- An operation is completed just when it becomes `Succeeded`. -/
theorem completed_iff :
    (∃ op ∈ completed policy s a, op.1 = i) ↔
      ¬ Succeeded i s ∧ Succeeded i (step policy s a) := by
  constructor
  · rintro ⟨_, hop, rfl⟩
    obtain ⟨o, hl, hheld, hl'⟩ := lookup_of_completed hop
    refine ⟨?_, succeedRow s.now o, hl', rfl⟩
    rintro ⟨q, hq, hs⟩
    cases hl.symm.trans hq
    rw [hheld.2.1] at hs
    cases hs
  · rintro ⟨hn, o', hl', ho'⟩
    rcases operation_cases policy a hl' with ⟨o, hl, hf⟩ | ⟨-, hnew, -⟩
    · exact (hf.done ho').resolve_left fun hs => hn ⟨o, hl, hs⟩
    · rw [hnew.pending] at ho'
      cases ho'

/-! ### Tokens count claims -/

/-- A step that claims an operation raises its token by one; no other step touches it. -/
theorem step_token (policy) (a : Action) (hl : s.db.operations.lookup i = some o)
    (hl' : (step policy s a).db.operations.lookup i = some o') :
    o'.fencingToken = o.fencingToken + if ∃ op ∈ claimed s a, op.1 = i then 1 else 0 := by
  by_cases ha : a.IsClaim
  · obtain ⟨worker, installation, lease, rfl⟩ := ha
    have hidle (hs : (step policy s (.claimNext worker installation lease)) = s) : o' = o := by
      rw [hs] at hl'
      exact Option.mem_unique hl' hl
    rcases hc : claimNext s.now lease worker installation s.db with e | _ | ⟨_, op⟩
    · rw [hidle (by simp only [step, claim, hc])]
      simp [claimed, hc]
    · rw [hidle (by simp only [step, claim, hc])]
      simp [claimed, hc]
    · obtain ⟨q, hq, -, hop, hs⟩ := claimNext_eq_ok hc
      simp only [step, claim, hc, (startWork_eq_ok hs).1] at hl'
      simp only [claimed, hc, Option.mem_def, Option.some.injEq, exists_eq_left']
      by_cases hi : op.1 = i
      · subst hi
        cases hl.symm.trans hq
        cases (lookup_modify_of_pos hl rfl).symm.trans hl'
        rw [hop, if_pos rfl]
        rfl
      · obtain rfl : o = o' :=
          Option.some.inj ((lookup_modify_of_neg hl (Ne.symm hi)).symm.trans hl')
        rw [if_neg hi]
        rfl
  · have hf := of_found (step_operation policy a hl) hl'
    rw [hf.token.resolve_right ha, if_neg]
    · rfl
    · rintro ⟨_, hop, -⟩
      cases a <;> first | cases hop | exact ha ⟨_, _, _, rfl⟩

/-- The token of an operation, and 0 if there is no such operation. -/
def tokenOf (i : ℕ) (s : State) : ℕ :=
  ((s.db.operations.lookup i).map Operation.fencingToken).getD 0

theorem tokenOf_step (policy) (s : State) (a : Action) :
    tokenOf i (step policy s a) =
      tokenOf i s + if ∃ op ∈ claimed s a, op.1 = i then 1 else 0 := by
  cases hl : s.db.operations.lookup i with
  | some =>
    obtain ⟨_, hl', -⟩ := step_operation policy a hl
    simp only [tokenOf, hl, hl', Option.map_some, Option.getD_some]
    exact step_token policy a hl hl'
  | none =>
    have hclaimed : ¬ ∃ op ∈ claimed s a, op.1 = i := by
      rintro ⟨op, hop, rfl⟩
      cases a with
      | claimNext worker installation lease =>
        simp only [claimed] at hop
        split at hop
        · rename_i hc
          cases hop
          obtain ⟨_, ho, -⟩ := claimNext_eq_ok hc
          rw [hl] at ho
          cases ho
        · cases hop
      | _ => cases hop
    rw [if_neg hclaimed]
    cases hl' : (step policy s a).db.operations.lookup i with
    | none => simp [tokenOf, hl, hl']
    | some => simp [tokenOf, hl, hl', (step_added policy a hl hl').1.token]

/-- From an initial store the token of an operation is the number of times it was claimed. -/
theorem tokenOf_run (policy) (acts : List Action) (i : ℕ) (h₀ : Initial s₀) :
    tokenOf i (run (step policy) s₀ acts) =
      count (step policy) (fun s a => ∃ op ∈ claimed s a, op.1 = i) s₀ acts := by
  rw [count_measure acts (I := fun _ => True) (m := tokenOf i) trivial
    (fun _ _ _ => trivial) fun s a _ => tokenOf_step policy s a]
  simp [tokenOf, h₀.operations]

/-! ### One at a time -/

/-- An environment has at most one active operation: the index
`operations_one_active_per_app_environment`. -/
def OneActive (db : Db) : Prop :=
  ∀ k l o p, db.operations.lookup k = some o → db.operations.lookup l = some p →
    o.Active → p.Active → o.appEnvironmentId ≠ none → o.appEnvironmentId = p.appEnvironmentId →
    k = l

theorem OneActive.step (h : OneActive s.db) (policy) (a : Action) :
    OneActive (step policy s a).db := by
  intro k l o p hk hl ho hp hne he
  rcases operation_cases policy a hl with ⟨p₀, hl₀, hfp⟩ | ⟨-, hnew, -⟩
  · rcases operation_cases policy a hk with ⟨o₀, hk₀, hfo⟩ | ⟨-, hnew, -⟩
    · rw [hfo.appEnvironmentId] at hne he
      rw [hfp.appEnvironmentId] at he
      exact h k l o₀ p₀ hk₀ hl₀ (hfo.active ho) (hfp.active hp) hne he
    · exact (hnew.alone l p hl hp (he ▸ hne) he.symm).symm
  · exact hnew.alone k o hk ho hne he

/-! ### Copies of operations -/

/-- What a worker holds is about the same work as the row it was read from. -/
def CopiesSound (s : State) : Prop :=
  ∀ k op, s.held.lookup k = some op →
    ∃ o, s.db.operations.lookup op.1 = some o ∧ o.work = op.2.work

/-- A step may add a copy of an operation that is there. -/
theorem step_held (policy) (a : Action) {k : ℕ} (hl : (step policy s a).held.lookup k = some op) :
    s.held.lookup k = some op ∨
      ∃ o, s.db.operations.lookup op.1 = some o ∧ o.work = op.2.work := by
  have h := step_effect policy s a
  generalize step policy s a = s' at h hl
  cases h with
  | claim _ _ _ _ o _ hi =>
    rcases lookup_insert_eq_some.mp hl with ⟨-, rfl⟩ | hl
    · exact .inr ⟨o, hi, rfl⟩
    · exact .inl hl
  | reload _ _ _ _ o hi =>
    rcases lookup_insert_eq_some.mp hl with ⟨-, rfl⟩ | hl
    · exact .inr ⟨o, hi, rfl⟩
    · exact .inl hl
  | _ => exact .inl hl

theorem CopiesSound.step (h : CopiesSound s) (policy) (a : Action) :
    CopiesSound (step policy s a) := by
  intro k op hl
  have hold : ∃ o, s.db.operations.lookup op.1 = some o ∧ o.work = op.2.work :=
    (step_held policy a hl).elim (h k op) id
  obtain ⟨_, ho, hw⟩ := hold
  obtain ⟨o', ho', hf⟩ := step_operation policy a ho
  exact ⟨o', ho', hf.work.trans hw⟩

/-- The row of an operation that is being completed: it is about what its copy says, it was
running, and it ends. -/
theorem row_of_completed (hs : CopiesSound s) (h : completed policy s a = some op) :
    ∃ o, s.db.operations.lookup op.1 = some o ∧ o.work = op.2.work ∧ o.status = .running ∧
      (step policy s a).db.operations.lookup op.1 = some (succeedRow s.now o) := by
  obtain ⟨k, _, _, -, hk, -⟩ := of_completed h
  obtain ⟨o, ho, hheld, hl⟩ := lookup_of_completed h
  have hw := of_found (hs k op hk) ho
  exact ⟨o, ho, hw, hheld.2.1, hl⟩

/-! ### Every run -/

theorem Initial.targetsValid_run (h₀ : Initial s₀) (policy)
    (acts : List Action) : TargetsValid (run (Store.step policy) s₀ acts).db := by
  refine run_induction (I := fun s : State => TargetsValid s.db) ?_
    fun s a h => h.step policy a
  exact fun _ _ => of_lookup_empty h₀.operations

theorem Initial.oneActive_run (h₀ : Initial s₀) (policy) (acts : List Action) :
    OneActive (run (Store.step policy) s₀ acts).db := by
  refine run_induction (I := fun s : State => OneActive s.db) ?_
    fun s a h => h.step policy a
  exact fun _ _ _ _ => of_lookup_empty h₀.operations

theorem Initial.copiesSound_run (h₀ : Initial s₀) (policy)
    (acts : List Action) : CopiesSound (run (Store.step policy) s₀ acts) := by
  refine run_induction (I := CopiesSound) ?_ fun s a h => h.step policy a
  exact fun _ _ => of_lookup_empty h₀.held

end Molejo.Store
