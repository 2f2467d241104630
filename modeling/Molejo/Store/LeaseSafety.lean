import Molejo.Store.Fencing

/-!
# Lease safety

An operation is carried out by whoever holds its lease. Workers may be slow, may be
replaced while they work, and may come back late with a result; Agents may repeat a
command. This file shows that none of this matters: in every run, whatever is
interleaved with what, an operation is completed at most once, by a call that carries
the token of its last claim, and what completing it is for – a deployment that is
ready and current, a volume with its size, an archived environment, live endpoints –
is done by that call and by no other step.
-/

namespace Molejo.Store

open Transaction Table Transition

variable {policy : PublicationPolicy} {s : State} {a : Action} {o : Operation}

/-! ### What completing an operation does -/

/-- What completing `op` is for has been done when `a` is. -/
def Applied (policy : PublicationPolicy) (s : State) (a : Action) (op : ClaimedOperation) : Prop :=
  match op.2.kind with
  | .ensureWorkspace => True
  | .applyDeployment => ∃ i d, op.2.deploymentId = some i ∧ s.db.deployments.lookup i = some d ∧
      op.2.appEnvironmentId = some d.appEnvironmentId ∧
      (∃ d', (step policy s a).db.deployments.lookup i = some d' ∧ d'.status = .ready) ∧
      (∀ ae, s.db.appEnvironments.lookup d.appEnvironmentId = some ae →
        ae.desiredDeploymentId = some i →
        ∃ ae', (step policy s a).db.appEnvironments.lookup d.appEnvironmentId = some ae' ∧
          ae'.currentDeploymentId = some i) ∧
      (∀ k result, a = .handleResult k result → result.volumeState ≠ "" →
        ∃ j v, d.appVolumeId = some j ∧ (step policy s a).db.appVolumes.lookup j = some v ∧
          v.observedSizeGiB = result.observedSizeGiB) ∧
      ∀ e ∈ d.configuration.publicEndpoints, ∀ hostname,
        policy.resolve d.workloadKind e = .ok hostname →
        live (registry (step policy s a).db.publicationClaims) hostname =
          some (d.appEnvironmentId, d.configurationVersion)
  | .ensureVolume | .expandVolume | .deleteVolume => ∃ i v, op.2.appVolumeId = some i ∧
      (step policy s a).db.appVolumes.lookup i = some v ∧
      v.runtimeDesiredVersion = op.2.desiredVersion ∧
      ∀ k result, a = .handleResult k result → v.observedSizeGiB = result.observedSizeGiB
  | .deleteAppEnvironment => ∃ e ae, op.2.appEnvironmentId = some e ∧
      (step policy s a).db.appEnvironments.lookup e = some ae ∧ ae.archivedAt = some s.now

/-- Only a good result completes an operation. -/
theorem answer_of_completes {result : RuntimeResult} (h : (answer o result).Completes) :
    answer o result = complete o result := by
  unfold answer at h ⊢
  split_ifs at h ⊢
  · exact h.elim
  · exact h.elim
  · exact h.elim
  · rfl

/-- The volume of a deployment has the size that was reported with it. -/
theorem size_of_completeDeployment {now : Time} {db db' : Db} {op : ClaimedOperation}
    {message release specHash : String} {c : VolumeCompletion} {i : ℕ} {d : Deployment}
    (hi : op.2.deploymentId = some i) (hd : db.deployments.lookup i = some d)
    (h : completeDeployment policy now db op message release specHash (some c) = .ok db') :
    ∃ j v, d.appVolumeId = some j ∧ db'.appVolumes.lookup j = some v ∧
      v.observedSizeGiB = c.observedSizeGiB := by
  simp only [completeDeployment, goLive, ok_iff, completeOperationLease_eq_ok, finishDeployment,
    finishVolume, hi, Option.some.injEq] at h
  obtain ⟨_, ⟨-, rfl⟩, _, rfl, _, -, d', hd', _, ⟨-, -, rfl⟩, _, ⟨_, hv, -, rfl⟩, _, -, rfl⟩ := h
  obtain rfl : d = d' := Option.some.inj (hd.symm.trans hd')
  obtain ⟨j, hj, hl⟩ := Option.bind_eq_some_iff.mp hv
  exact ⟨j, _, hj, lookup_modify_of_pos hl hj.symm, rfl⟩

/-- **Completing an operation applies what it is for.** -/
theorem applied_of_completed (hu : HostnamesUnique s.db.publicationClaims)
    {op : ClaimedOperation} (h : completed policy s a = some op) : Applied policy s a op := by
  obtain ⟨_, _, _, ha, -, hc, he, hs⟩ := of_completed h
  cases a with
  | handleResult _ result =>
    cases ha
    beta_reduce at he hc
    rw [answer_of_completes hc] at he hc
    unfold Applied
    rw [hs]
    cases hk : op.2.kind with
    | ensureWorkspace => trivial
    | deleteAppEnvironment =>
      simp only [complete, hk, execute] at he
      obtain ⟨-, hd, rfl⟩ := completeAppEnvironmentDeletion_eq_ok.mp he
      obtain ⟨e, _, hl, hdel⟩ := any_iff.mp hd
      exact ⟨e, _, hdel.1.symm, lookup_modify_of_pos hl hdel, rfl⟩
    | ensureVolume | expandVolume | deleteVolume =>
      simp only [complete, hk, execute] at he
      obtain ⟨_, _, -, -, hv, -, rfl⟩ := completeVolume_eq_ok.mp he
      obtain ⟨i, hi, hv⟩ := Option.bind_eq_some_iff.mp hv
      refine ⟨i, _, hi, lookup_modify_of_pos hv hi.symm, rfl, ?_⟩
      rintro _ _ ⟨⟩
      rfl
    | applyDeployment =>
      simp only [complete, hk] at he hc
      by_cases hrelease : result.observedRelease = ""
      · rw [if_pos hrelease] at hc
        exact hc.elim
      · rw [if_neg hrelease] at he
        have hok := he
        obtain ⟨i, d, _, _, -, hi, hae, hd, -, hact, rfl⟩ := completeDeployment_eq_ok he
        refine ⟨i, d, hi, hd, hae, ⟨_, lookup_modify_of_pos hd rfl, rfl⟩, ?_, ?_, ?_⟩
        · intro ae hl hdes
          exact ⟨_, lookup_modify_of_pos hl ⟨hae.symm, hdes⟩, rfl⟩
        · rintro _ _ ⟨⟩ hvolume
          rw [if_pos hvolume] at hok
          exact size_of_completeDeployment hi hd hok
        · intro e hmem hostname hres
          obtain ⟨-, _, hr, hreg⟩ := activatePublicationClaims_registry hu hact
          simp only [hreg]
          exact hr.live_eq hmem hres
  | fail =>
    cases ha
    exact hc.elim
  | _ => cases ha

/-- What only the completion of an operation does. -/
structure OnlyByCompletion (policy : PublicationPolicy) (s : State) (a : Action) : Prop where
  ready : ∀ i d, (step policy s a).db.deployments.lookup i = some d → d.status = .ready →
    (∃ d₀, s.db.deployments.lookup i = some d₀ ∧ d₀.status = .ready) ∨
      ∃ op ∈ completed policy s a, op.2.deploymentId = some i
  current : ∀ e ae, (step policy s a).db.appEnvironments.lookup e = some ae →
    ae.currentDeploymentId ≠ none →
    (∃ ae₀, s.db.appEnvironments.lookup e = some ae₀ ∧
      ae₀.currentDeploymentId = ae.currentDeploymentId) ∨
      ∃ op ∈ completed policy s a, op.2.appEnvironmentId = some e ∧
        op.2.deploymentId = ae.currentDeploymentId
  archived : ∀ e ae, (step policy s a).db.appEnvironments.lookup e = some ae →
    ae.archivedAt ≠ none →
    (∃ ae₀, s.db.appEnvironments.lookup e = some ae₀ ∧ ae₀.archivedAt = ae.archivedAt) ∨
      ∃ op ∈ completed policy s a, op.2.appEnvironmentId = some e
  size : ∀ i v₀ v, s.db.appVolumes.lookup i = some v₀ →
    (step policy s a).db.appVolumes.lookup i = some v →
    v.observedSizeGiB = v₀.observedSizeGiB ∨ SizeMayChange policy s a i
  served : ∀ hostname,
    live (registry (step policy s a).db.publicationClaims) hostname =
        live (registry s.db.publicationClaims) hostname ∨
      ∃ op ∈ completed policy s a,
        (∀ x ∈ live (registry s.db.publicationClaims) hostname,
          op.2.appEnvironmentId = some x.1) ∧
        ∀ x ∈ live (registry (step policy s a).db.publicationClaims) hostname,
          op.2.appEnvironmentId = some x.1

theorem onlyByCompletion (policy)
    (hu : HostnamesUnique s.db.publicationClaims) (a : Action) : OnlyByCompletion policy s a where
  ready i d hl hr := by
    cases hl₀ : s.db.deployments.lookup i with
    | none =>
      rw [(step_new_deployment_applied policy a hl₀ hl).1] at hr
      cases hr
    | some d₀ =>
      obtain ⟨-, hready⟩ := of_found (step_deployment policy a hl₀) hl
      exact (hready hr).imp_left fun h => ⟨d₀, rfl, h⟩
  current e ae hl hc := by
    rcases environment_cases policy a hl with ⟨ae₀, hl₀, hstep⟩ | hnew
    · cases hstep with
      | report h => exact .inl ⟨ae₀, hl₀, (congrArg AppEnvironment.currentDeploymentId h).symm⟩
      | current op _ _ _ _ hdone he hde =>
        exact .inr ⟨op, hdone, he, hde⟩
      | _ => exact .inl ⟨ae₀, hl₀, rfl⟩
    · exact absurd hnew.2.1 hc
  archived e ae hl hc := by
    rcases environment_cases policy a hl with ⟨ae₀, hl₀, hstep⟩ | hnew
    · cases hstep with
      | report h => exact .inl ⟨ae₀, hl₀, (congrArg AppEnvironment.archivedAt h).symm⟩
      | archive op _ hdone he => exact .inr ⟨op, hdone, he⟩
      | _ => exact .inl ⟨ae₀, hl₀, rfl⟩
    · exact absurd hnew.2.2.2.1 hc
  size i v₀ v hl₀ hl := by
    obtain ⟨-, hsize⟩ := of_found (step_volume policy a hl₀) hl
    exact hsize
  served hostname := (step_claims policy s a).live_eq hu hostname

/-! ### Every run -/

/-- What the leases guarantee of a run. -/
structure LeaseSafety (policy : PublicationPolicy) (s₀ : State) (acts : List Action) : Prop where
  /-- The fencing token of an operation is the number of times it was claimed. -/
  tokens : ∀ i o, (run (step policy) s₀ acts).db.operations.lookup i = some o →
    o.fencingToken =
      count (step policy) (fun s a => ∃ op ∈ claimed s a, op.1 = i) s₀ acts
  /-- A completing or failing call with another worker or token, or after the lease, changes
  nothing. -/
  stale : ∀ op call o,
    (run (step policy) s₀ acts).db.operations.lookup op.1 = some o →
    (o.workerId ≠ op.2.workerId ∨ o.fencingToken ≠ op.2.fencingToken ∨
      ∀ t ∈ o.leaseUntil, t ≤ (run (step policy) s₀ acts).now) →
    (run (step policy) s₀ acts).transact
        (execute policy (run (step policy) s₀ acts).now
          (run (step policy) s₀ acts).db op call) =
      run (step policy) s₀ acts
  /-- `Succeeded` and `Failed` are never left. -/
  terminal : ∀ i o acts',
    (run (step policy) s₀ acts).db.operations.lookup i = some o →
    o.status = .succeeded ∨ o.status = .failed →
    ∃ o', (run (step policy) s₀ (acts ++ acts')).db.operations.lookup i = some o' ∧
      o'.status = o.status
  /-- An operation that is `Succeeded` was completed once, any other was not. -/
  once : ∀ i,
    count (step policy) (fun s a => ∃ op ∈ completed policy s a, op.1 = i) s₀ acts =
      if Succeeded i (run (step policy) s₀ acts) then 1 else 0
  /-- It was completed with the token of its last claim. -/
  holder : ∀ before a after op, acts = before ++ a :: after →
    op ∈ completed policy (run (step policy) s₀ before) a →
    ∃ o, (run (step policy) s₀ acts).db.operations.lookup op.1 = some o ∧
      o.status = .succeeded ∧ o.fencingToken = op.2.fencingToken
  /-- Completing it does what it is for, -/
  applied : ∀ a op, op ∈ completed policy (run (step policy) s₀ acts) a →
    Applied policy (run (step policy) s₀ acts) a op
  /-- and no other step does that. -/
  only : ∀ a, OnlyByCompletion policy (run (step policy) s₀ acts) a

theorem Initial.hostnamesUnique {s₀ : State} (h : Initial s₀) (policy) (acts : List Action) :
    HostnamesUnique (run (step policy) s₀ acts).db.publicationClaims := by
  refine run_induction (I := fun s : State => HostnamesUnique s.db.publicationClaims) ?_ ?_
  · rw [h.claims]
    exact keyUnique_empty
  · exact fun s a hu => (step_claims policy s a).unique hu

theorem not_held_of_stale {op : ClaimedOperation} (hl : s.db.operations.lookup op.1 = some o)
    (h : o.workerId ≠ op.2.workerId ∨ o.fencingToken ≠ op.2.fencingToken ∨
      ∀ t ∈ o.leaseUntil, t ≤ s.now) : ¬ Held s op := by
  rintro hheld
  obtain ⟨_, q, hq, rfl, -, ⟨-, hw⟩, ht, t, hmem, hlt⟩ := any_iff.mp hheld
  cases hl.symm.trans hq
  rcases h with h | h | h
  · exact h hw
  · exact h ht
  · exact absurd (h t hmem) hlt.not_ge

/-- **Leases are safe.** In every run from an initial store the tokens count claims, stale calls
change nothing, operations end once, and what they are for is done once, by the holder of the last
claim. -/
theorem leaseSafety (policy : PublicationPolicy) (s₀ : State) (acts : List Action)
    (h₀ : Initial s₀) : LeaseSafety policy s₀ acts where
  tokens i o hl := by
    rw [← tokenOf_run policy acts i h₀, tokenOf, hl]
    rfl
  stale op call o hl h := by
    rw [execute_of_not_held (not_held_of_stale hl h)]
    rfl
  terminal i o acts' hl hs := by
    obtain ⟨o', hl', hj⟩ := run_ended policy acts' hl (ended_iff.mpr hs)
    exact ⟨o', run_append ▸ hl', status_eq_of_job_eq hj⟩
  once i := by
    refine count_latch (I := fun _ => True) (P := Succeeded i) trivial
      (fun _ _ _ => trivial) (fun s a _ h => h.step a) (fun s a _ => completed_iff) ?_
    rintro ⟨o, ho, -⟩
    rw [h₀.operations] at ho
    cases ho
  holder before a after op hacts hop := by
    obtain ⟨o, -, hheld, hl⟩ := lookup_of_completed hop
    obtain ⟨o', hl', hj⟩ := run_ended policy after hl (ended_iff.mpr (.inl rfl))
    refine ⟨o', ?_, status_eq_of_job_eq hj, (congrArg Lease.Job.token hj).trans hheld.2.2.2.1⟩
    rw [hacts, run_append]
    exact hl'
  applied a op hop := applied_of_completed (h₀.hostnamesUnique policy acts) hop
  only a := onlyByCompletion policy (h₀.hostnamesUnique policy acts) a

/-- A claim whose lease runs out, a second claim that completes the operation, and the result of
the first, too late. -/
def lateResultRun : List Action :=
  [.createAppEnvironment (newEnvironment "env-one" []),
    .createDeployment (firstDeployment "env-one" 1),
    .claimNext "agent:cls-one" "cls-one" 60, .tick 61,
    .claimNext "agent:cls-one" "cls-one" 60, .handleResult 2 goodResult, .handleResult 1 goodResult]

theorem leaseSafety_lateResultRun :
    Initial smallStore ∧ Succeeded 1 (run (step smallPolicy) smallStore lateResultRun) ∧
      LeaseSafety smallPolicy smallStore lateResultRun :=
  ⟨smallStore_initial, by decide +kernel, leaseSafety smallPolicy smallStore lateResultRun
    smallStore_initial⟩

end Molejo.Store
