import Molejo.Store.Deletion

/-!
# Revoked clusters

Revoking a cluster ends its active operations at once. Two things are left undone. The
deployments those operations were applying keep their status, so that a `Pending` or
`Progressing` deployment may have no operation that will ever move it on. And nothing
keeps the environments of the cluster from being worked on: whoever inserts an operation
takes the cluster from the environment and does not look at its status, so that a user's
request queues work for a cluster that will never claim it.

`KeepsQuiet` excludes the two, and `quiet_of_keepsQuiet` says that nothing else is
needed. Reports of an Agent queue work too, but are taken from active clusters only.
-/

namespace Molejo.Store

open Transaction Relation Table Transition

variable {policy : PublicationPolicy} {s : State} {a : Action} {i k : ℕ} {o : Operation}
  {d : Deployment}

/-! ### Quiet clusters -/

/-- A deployment that is `Pending` or `Progressing`. -/
def UnderWay (d : Deployment) : Prop := d.status = .pending ∨ d.status = .progressing

/-- The cluster is there and its status is `Revoked`. -/
def ClusterRevoked (db : Db) (cluster : ℕ) : Prop :=
  ∃ r ∈ db.installations.lookup cluster, r.status = .revoked
deriving Decidable

/-- **Revoked clusters are quiet**: no active operation is for one of them, and every deployment
that is under way has an operation. -/
structure ClustersQuiet (db : Db) : Prop where
  operations : ∀ k o cluster, db.operations.lookup k = some o → o.Active →
    o.agentInstallationId = some cluster → ¬ ClusterRevoked db cluster
  deployments : ∀ i d, db.deployments.lookup i = some d → UnderWay d → BeingApplied db i

/-- The user's request is for work on the environment. -/
def Action.names (ae : AppEnvironment) : Action → Bool
  | .deleteAppEnvironment request => ae.workspaceId = request.workspaceId ∧
    ae.publicId = request.publicId ∧ ae.archivedAt = none
  | .createDeployment request => ae.workspaceId = request.workspaceId ∧
    ae.publicId = request.appEnvironmentPublicId ∧ ae.archivedAt = none
  | .expandAppVolume change _ | .deleteAppVolume change =>
    ae.publicId = change.appEnvironmentPublicId
  | _ => false

/-- The user's request is for work on an environment of the cluster. -/
def RequestsOn (db : Db) (cluster : ℕ) (a : Action) : Prop :=
  db.appEnvironments.Any fun _ ae => a.names ae = true ∧ ae.clusterId = some cluster
deriving Decidable

/-- A deployment is being applied on the cluster. -/
def ApplyingOn (db : Db) (clusterPublicId : String) : Prop :=
  db.operations.Any fun _ o => o.Active ∧ o.kind = .applyDeployment ∧
    ∃ row ∈ o.agentInstallationId.bind db.installations.lookup, row.publicId = clusterPublicId
deriving Decidable

/-- Nobody asks for work on a revoked cluster, and no cluster is revoked while a deployment is being
applied on it. -/
def KeepsQuiet (s : State) (a : Action) : Prop :=
  (∀ cluster r, s.db.installations.lookup cluster = some r → r.status = .revoked →
    ¬ RequestsOn s.db cluster a) ∧
  ∀ publicId ∈ a.revokes?, ¬ ApplyingOn s.db publicId
deriving Decidable

/-! ### Where an operation goes -/

theorem requestsOn_of_forUpdate {db : Db} {workspaceId : ℕ} {publicId : String}
    {r : ℕ × AppEnvironment} {cluster : ℕ}
    (h : appEnvironmentForUpdate db workspaceId publicId = .ok r)
    (hc : r.2.clusterId = some cluster)
    (ha : ∀ ae : AppEnvironment, ae.workspaceId = workspaceId ∧ ae.publicId = publicId ∧
      ae.archivedAt = none → a.names ae = true) : RequestsOn db cluster a := by
  obtain ⟨hl, hrow⟩ := appEnvironmentForUpdate_eq_ok h
  exact any_iff.mpr ⟨r.1, r.2, hl, ha r.2 hrow, hc⟩

theorem requestsOn_of_forChange {db : Db} {change : VolumeChange} {r : ℕ × AppVolume}
    {cluster : ℕ} (h : volumeForChange db change = .ok r)
    (hc : PlacedOn db r.2.appEnvironmentId cluster)
    (ha : ∀ ae : AppEnvironment, ae.publicId = change.appEnvironmentPublicId →
      a.names ae = true) : RequestsOn db cluster a := by
  obtain ⟨-, -, ⟨ae, hae, hp⟩, -⟩ := volumeForChange_eq_ok h
  have hcl := of_found (Option.bind_eq_some_iff.mp hc) hae
  exact any_iff.mpr ⟨_, ae, hae, ha ae hp, hcl⟩

/-- **Where a new operation goes**: to a cluster that is active, or to the cluster of the
environment a user has named. -/
theorem Inserted.cluster (h : Inserted s a o) :
    ∃ cluster, o.agentInstallationId = some cluster ∧
      (ClusterActive s.db cluster ∨ RequestsOn s.db cluster a) := by
  cases h with
  | attach _ _ cluster _ hc => exact ⟨cluster, rfl, .inl hc⟩
  | create _ _ cluster _ _ hc => exact ⟨cluster, rfl, .inl hc⟩
  | delete _ _ cluster _ _ hf hc =>
    exact ⟨cluster, rfl, .inr (requestsOn_of_forUpdate hf hc fun _ => decide_eq_true)⟩
  | expand _ _ _ cluster _ _ hv hc =>
    exact ⟨cluster, rfl, .inr (requestsOn_of_forChange hv hc fun _ => decide_eq_true)⟩
  | remove _ _ cluster _ _ hv hc =>
    exact ⟨cluster, rfl, .inr (requestsOn_of_forChange hv hc fun _ => decide_eq_true)⟩
  | deploy _ _ cluster _ hf hc =>
    exact ⟨cluster, rfl, .inr (requestsOn_of_forUpdate hf hc fun _ => decide_eq_true)⟩
  | ensureVolume _ _ _ cluster _ _ hc => exact ⟨cluster, rfl, .inl hc⟩
  | applyDeployment _ _ _ cluster _ _ _ _ _ _ _ _ _ hc =>
    exact ⟨cluster, rfl, .inl hc⟩

/-- The same clusters stay revoked, or one is revoked. -/
theorem step_revoked (policy) (s : State) (a : Action) :
    SameRevoked s.db.installations (step policy s a).db.installations ∨
      ∃ cluster reason, (step policy s a).db = Store.revoke s.now s.db cluster reason := by
  rcases (step_outside policy s a).1 with heq | ⟨-, -, hr⟩ | ⟨_, reason, cluster, _, -, -, -, hdb⟩
  · rw [heq]
    exact .inl fun _ => Iff.rfl
  · exact .inl hr
  · exact .inr ⟨cluster, trimSpace reason, hdb⟩

/-! ### Deployments move on with their operations -/

/-- An operation given up by its worker takes its deployment with it. -/
theorem degraded_of_fail {j : ℕ} {f : Operation → Call} {op : ClaimedOperation}
    {code message : String} {retry : Bool} (ha : a.call? = some (j, f))
    (hj : s.held.lookup j = some op) (hf : f op.2 = .fail code message retry) (hl : Held s op)
    (hr : ¬ Retries op.2 retry) (hk : op.2.kind = .applyDeployment)
    (hd : op.2.deploymentId = some i) {d' : Deployment}
    (hl₀ : s.db.deployments.lookup i = some d)
    (hl' : (step policy s a).db.deployments.lookup i = some d') : d'.status = .degraded := by
  have hcall : heldCall policy s j f = .ok (reportFailure s.now
      { s.db with
        operations := s.db.operations.modify (LeaseHeld s.now op) (failRow s.now code message) }
      op.2 message) := by
    simp only [heldCall, hj, hf, execute]
    exact fail_eq_ok.mpr ⟨hl, by rw [if_neg hr]⟩
  rw [step_of_call ha, hcall] at hl'
  have hrow := hl'.symm.trans (reportFailure_deployment op.2 message hl₀)
  rw [if_pos ⟨hk, hd⟩] at hrow
  rw [Option.some.inj hrow]

/-- **A deployment that stays under way keeps its operation**, unless the cluster is revoked. -/
theorem beingApplied_lives (policy) (hc : CopiesSound s)
    (hu : HostnamesUnique s.db.publicationClaims) (hg : KeepsQuiet s a)
    (h : BeingApplied s.db i) (hl₀ : s.db.deployments.lookup i = some d) {d' : Deployment}
    (hl : (step policy s a).db.deployments.lookup i = some d') (hd' : UnderWay d') :
    BeingApplied (step policy s a).db i := by
  obtain ⟨k, o, hk, hact, hkind, hd⟩ := h
  obtain ⟨o', ho', hf⟩ := step_operation policy a hk
  have hne {status : OperationStatus} (hs : o.status = status) (h : ¬ (status = .pending ∨
      status = .running)) : False := h (hs ▸ hact)
  have hlives (ha : o'.Active) : BeingApplied (step policy s a).db i :=
    ⟨k, o', ho', ha, hf.kind.trans hkind, hf.deploymentId.trans hd⟩
  cases hs : o'.status with
  | pending => exact hlives (.inl hs)
  | running => exact hlives (.inr hs)
  | succeeded =>
    obtain ⟨op, hop, he⟩ := (hf.done hs).resolve_left fun h => hne h (by decide)
    have hw := work_of_completed hc hk hop he
    have hkind' : op.2.kind = .applyDeployment :=
      (congrArg Operation.kind hw :).symm.trans hkind
    have happ := applied_of_completed hu hop
    simp only [Applied, hkind'] at happ
    obtain ⟨j, -, hj, -, -, ⟨_, hq, hready⟩, -⟩ := happ
    have hji : op.2.deploymentId = some i :=
      (congrArg Operation.deploymentId hw :).symm.trans hd
    cases hji.symm.trans hj
    rw [Option.mem_unique hl hq] at hd'
    rcases hd' with h | h <;> cases hready.symm.trans h
  | failed =>
    cases (hf.failed hs).resolve_left fun h => hne h (by decide) with
    | call _ j _ op _ _ _ ha hj hfail hheld hr =>
      obtain ⟨q, hq, hw⟩ := hc j op hj
      obtain rfl : k = op.1 := hheld.1
      cases hk.symm.trans hq
      have hdeg := degraded_of_fail ha hj hfail (any_iff.mpr ⟨_, o, hk, hheld⟩) hr
        ((congrArg Operation.kind hw :).symm.trans hkind)
        ((congrArg Operation.deploymentId hw :).symm.trans hd) hl₀ hl
      rcases hd' with h | h <;> cases hdeg.symm.trans h
    | revoke publicId _ _ row hx hrow hp =>
      refine absurd (any_iff.mpr ⟨k, o, hk, hact, hkind, row, ?_, hp⟩) (hg.2 publicId rfl)
      rw [hx]
      exact hrow

/-! ### Every run -/

/-- What is known in every state. -/
structure QuietSound (s : State) : Prop where
  copies : CopiesSound s
  hostnames : HostnamesUnique s.db.publicationClaims
  quiet : ClustersQuiet s.db

theorem Initial.quietSound (h₀ : Initial s) : QuietSound s where
  copies _ _ := of_lookup_empty h₀.held
  hostnames := by
    rw [h₀.claims]
    exact keyUnique_empty
  quiet :=
    { operations _ _ _ := of_lookup_empty h₀.operations
      deployments i d hd := by
        rw [h₀.deployments] at hd
        cases hd }

theorem QuietSound.step_operations (h : QuietSound s) (hg : KeepsQuiet s a) {cluster : ℕ}
    (hk : (step policy s a).db.operations.lookup k = some o) (ha : o.Active)
    (hx : o.agentInstallationId = some cluster) :
    ¬ ClusterRevoked (step policy s a).db cluster := by
  intro hrev
  rcases step_revoked policy s a with hsame | ⟨revoked, _, hdb⟩
  · have hrev₀ : ClusterRevoked s.db cluster := (hsame cluster).mp hrev
    rcases operation_cases policy a hk with ⟨o₀, hk₀, hf⟩ | ⟨-, -, hins⟩
    · exact h.quiet.operations k o₀ cluster hk₀ (hf.active ha)
        ((congrArg Operation.agentInstallationId hf.work :).symm.trans hx) hrev₀
    · have hnew := of_found hins.cluster hx
      obtain ⟨r, hr, hs⟩ := hrev₀
      rcases hnew with ⟨r', hr', hs'⟩ | hreq
      · cases hr.symm.trans hr'
        rw [hs] at hs'
        cases hs'
      · exact hg.1 cluster r hr hs hreq
  · -- what was active on the revoked cluster has failed
    rw [hdb] at hk hrev
    obtain ⟨_, hk₀, ⟨-, rfl⟩ | ⟨hn, rfl⟩⟩ := lookup_modify_eq_some.mp hk
    · rcases ha with ha | ha <;> cases ha
    · obtain ⟨r, hr, hs⟩ := hrev
      obtain ⟨_, hr₀, ⟨rfl, rfl⟩ | ⟨-, rfl⟩⟩ := lookup_modify_eq_some.mp hr
      · exact hn ⟨hx, ha⟩
      · exact h.quiet.operations k o cluster hk₀ ha hx ⟨r, hr₀, hs⟩

theorem QuietSound.step (h : QuietSound s) (hg : KeepsQuiet s a) (policy) :
    QuietSound (step policy s a) where
  copies := h.copies.step policy a
  hostnames := (step_claims policy s a).unique h.hostnames
  quiet :=
    { operations k o cluster hk ha hx := h.step_operations hg hk ha hx
      deployments i d hl hd := by
        cases hl₀ : s.db.deployments.lookup i with
        | none => exact (step_new_deployment_applied policy a hl₀ hl).2.1
        | some d₀ =>
          have hstep := of_found (step_deployment_cases policy a hl₀) hl
          have hkept (hd₀ : UnderWay d₀) : BeingApplied (Store.step policy s a).db i :=
            beingApplied_lives policy h.copies h.hostnames hg (h.quiet.deployments i d₀ hl₀ hd₀)
              hl₀ hl hd
          cases hstep with
          | same => exact hkept hd
          | start _ hb => exact hb
          | ready => rcases hd with h | h <;> cases h
          | degrade => rcases hd with h | h <;> cases h }

/-- **Revoked clusters are quiet** in every run in which nobody asks for work on a revoked cluster
and none is revoked while a deployment is being applied on it. -/
theorem quiet_of_keepsQuiet (policy : PublicationPolicy) (s₀ : State) (acts : List Action)
    (h₀ : Initial s₀) (hg : Guarded (step policy) KeepsQuiet s₀ acts) :
    ClustersQuiet (run (step policy) s₀ acts).db :=
  (guarded_run_induction (I := QuietSound) h₀.quietSound
    (fun _ _ h hg => h.step hg policy) hg).quiet

/-- A deployment is applied, and then the cluster is revoked. -/
def quietRevocationRun : List Action :=
  [.createAppEnvironment (newEnvironment "env-one" []),
    .createDeployment (firstDeployment "env-one" 1), .claimNext "agent:cls-one" "cls-one" 60,
    .handleResult 1 goodResult, .revokeCluster "cls-one" "decommissioned"]

theorem quiet_quietRevocationRun :
    (Initial smallStore ∧
      Guarded (step smallPolicy) KeepsQuiet smallStore quietRevocationRun) ∧
    ClusterRevoked (run (step smallPolicy) smallStore quietRevocationRun).db 1 ∧
    ClustersQuiet (run (step smallPolicy) smallStore quietRevocationRun).db :=
  ⟨⟨smallStore_initial, by decide +kernel⟩, by decide +kernel,
    quiet_of_keepsQuiet smallPolicy smallStore quietRevocationRun smallStore_initial
      (by decide +kernel)⟩

/-- The cluster is revoked while a deployment is being applied. -/
def noisyRevocationRun : List Action :=
  [.createAppEnvironment (newEnvironment "env-one" []),
    .createDeployment (firstDeployment "env-one" 1), .revokeCluster "cls-one" "decommissioned"]

/-- The user's next try. -/
def retriedDeployment : DeploymentRequest :=
  { firstDeployment "env-one" 2 with
    deploymentPublicId := "dep-two"
    idempotencyHash := sha256 "deploy-two"
    operationPublicId := "op-two" }

/-- The deployment is `Pending` and nothing applies it; and the user's next try is queued for the
revoked cluster. -/
theorem not_quiet_noisyRevocationRun :
    Initial smallStore ∧
    ¬ ClustersQuiet (run (step smallPolicy) smallStore noisyRevocationRun).db ∧
    ∃ o, (run (step smallPolicy) smallStore (noisyRevocationRun ++
      [.createDeployment retriedDeployment])).db.operations.lookup 2 = some o ∧ o.Active ∧
      o.agentInstallationId = some 1 ∧
      ClusterRevoked (run (step smallPolicy) smallStore (noisyRevocationRun ++
        [.createDeployment retriedDeployment])).db 1 := by
  have hretried : ∃ o ∈ (run (step smallPolicy) smallStore (noisyRevocationRun ++
      [.createDeployment retriedDeployment])).db.operations.lookup 2, o.Active ∧
      o.agentInstallationId = some 1 ∧
      ClusterRevoked (run (step smallPolicy) smallStore (noisyRevocationRun ++
        [.createDeployment retriedDeployment])).db 1 := by decide +kernel
  refine ⟨smallStore_initial, fun h => ?_, hretried⟩
  have hrow : ∃ d ∈ (run (step smallPolicy) smallStore
      noisyRevocationRun).db.deployments.lookup 1, d.status = .pending := by decide +kernel
  have hnone : ¬ (run (step smallPolicy) smallStore
      noisyRevocationRun).db.operations.Any fun _ o => o.Active := by decide +kernel
  obtain ⟨d, hl, hd⟩ := hrow
  obtain ⟨k, o, hk, ha, -⟩ := h.deployments 1 d hl (.inl hd)
  exact hnone (Table.any_iff.mpr ⟨k, o, hk, ha⟩)

end Molejo.Store
