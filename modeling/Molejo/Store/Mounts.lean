import Molejo.Store.Acceptance
import Molejo.Store.DeploymentOrder
import Molejo.Store.Revocation

/-!
# Volumes in use

A volume is protected from removal while it is *attached*: while some deployment that
mounts it is `Pending`, `Progressing` or `Ready`. This is meant to cover the deployment
that is being served, and for a deployment that went well it does. But drift makes the
store apply the served deployment again, and if that fails for good the deployment is
`Degraded`, although it is still the current one and its pods still run. From then on the
volume counts as detached and its removal is accepted.

Drift also works the other way round. What is applied again is the *desired* deployment,
whatever has become of it and of its volume. If its volume is being removed, a snapshot
queues an operation that mounts it again.

`KeepsMounts` excludes the two steps, and `mountsProtected_of_keepsMounts` says that
nothing else endangers a volume in use.
-/

namespace Molejo.Store

open Transaction Relation Table Transition

variable {policy : PublicationPolicy} {s : State} {a : Action} {i j : ℕ} {v : AppVolume}
  {d : Deployment}

/-! ### Volumes in use -/

/-- The current deployment of the volume's environment, which is not archived, mounts the volume. -/
def CurrentMounts (db : Db) (i : ℕ) (v : AppVolume) : Prop :=
  ∃ ae j d, db.appEnvironments.lookup v.appEnvironmentId = some ae ∧ ae.archivedAt = none ∧
    ae.currentDeploymentId = some j ∧ db.deployments.lookup j = some d ∧ d.appVolumeId = some i

/-- The deployment mounts a volume whose removal was requested. -/
def MountsRemoved (db : Db) (d : Deployment) : Prop :=
  ∃ v ∈ d.appVolumeId.bind db.appVolumes.lookup, v.deletionRequestedAt ≠ none
deriving Decidable

/-- **Volumes in use are protected**: one that the current deployment mounts is not removed, and one
that is being removed is not mounted. -/
structure MountsProtected (policy : PublicationPolicy) (s : State) : Prop where
  refused : ∀ change i v, volumeForChange s.db change = .ok (i, v) → CurrentMounts s.db i v →
    (∀ principalId, deleteVolume s.now s.db change principalId = .error .volumeAttached) ∧
      step policy s (.deleteAppVolume change) = s
  applied : ∀ k o j d, s.db.operations.lookup k = some o → o.Active →
    o.kind = .applyDeployment → o.deploymentId = some j → s.db.deployments.lookup j = some d →
    ¬ MountsRemoved s.db d

/-- The call gives up applying a deployment that is current. -/
def DegradesCurrent (db : Db) (op : Operation) : Call → Prop
  | .fail _ _ retry => ¬ Retries op retry ∧ op.kind = .applyDeployment ∧
    db.appEnvironments.Any fun _ ae =>
      ae.currentDeploymentId ≠ none ∧ ae.currentDeploymentId = op.deploymentId
  | _ => False

instance (db : Db) (op : Operation) (call : Call) : Decidable (DegradesCurrent db op call) :=
  match call with
  | .fail _ _ retry => inferInstanceAs (Decidable (¬ Retries op retry ∧
    op.kind = .applyDeployment ∧ db.appEnvironments.Any fun _ ae =>
      ae.currentDeploymentId ≠ none ∧ ae.currentDeploymentId = op.deploymentId))
  | .completeWorkspace | .completeVolume _ _ _ _ | .completeAppEnvironmentDeletion _
  | .completeDeployment _ _ _ _ => inferInstanceAs (Decidable False)

/-- Some environment that is neither archived nor to be deleted desires a deployment whose volume
is being removed. -/
def DesiresRemoved (db : Db) : Prop :=
  db.appEnvironments.Any fun _ ae => ae.archivedAt = none ∧ ae.deletionRequestedAt = none ∧
    ∃ d ∈ ae.desiredDeploymentId.bind db.deployments.lookup, MountsRemoved db d
deriving Decidable

/-- The step does not give up the current deployment, and is no complete snapshot while a deployment
is desired whose volume is being removed. -/
def KeepsMounts (s : State) (a : Action) : Prop :=
  (∀ x ∈ a.call?, ∀ op ∈ s.held.lookup x.1, Held s op → ¬ DegradesCurrent s.db op.2 (x.2 op.2)) ∧
  ∀ heartbeat ∈ a.reports?, heartbeat.complete = true → ¬ DesiresRemoved s.db
deriving Decidable

/-! ### The invariant -/

/-- A deployment that counts as attached. -/
def Serves (d : Deployment) : Prop :=
  d.status = .pending ∨ d.status = .progressing ∨ d.status = .ready

/-- What is known in every state. -/
structure MountsSound (s : State) : Prop where
  ordered : Ordered s.db
  oneActive : OneActive s.db
  /-- The volume of a deployment is one of its environment. -/
  own : ∀ j d i, s.db.deployments.lookup j = some d → d.appVolumeId = some i →
    ∃ v, s.db.appVolumes.lookup i = some v ∧ v.appEnvironmentId = d.appEnvironmentId
  /-- The current deployment counts as attached. -/
  current : ∀ e ae j d, s.db.appEnvironments.lookup e = some ae →
    ae.currentDeploymentId = some j → s.db.deployments.lookup j = some d → Serves d
  applied : ∀ k o j d, s.db.operations.lookup k = some o → o.Active →
    o.kind = .applyDeployment → o.deploymentId = some j → s.db.deployments.lookup j = some d →
    ¬ MountsRemoved s.db d

theorem Initial.mountsSound (h₀ : Initial s) : MountsSound s where
  ordered := h₀.ordered
  oneActive _ _ _ _ := of_lookup_empty h₀.operations
  own _ _ _ := of_lookup_empty h₀.deployments
  current _ _ _ _ := of_lookup_empty h₀.environments
  applied _ _ _ _ := of_lookup_empty h₀.operations

section Step

variable (h : MountsSound s)

include h

theorem MountsSound.step_own (hl : (step policy s a).db.deployments.lookup j = some d)
    (hi : d.appVolumeId = some i) :
    ∃ v, (step policy s a).db.appVolumes.lookup i = some v ∧
      v.appEnvironmentId = d.appEnvironmentId := by
  obtain ⟨v, hv, he⟩ : ∃ v, s.db.appVolumes.lookup i = some v ∧
      v.appEnvironmentId = d.appEnvironmentId := by
    cases hl₀ : s.db.deployments.lookup j with
    | none =>
      obtain ⟨v, hv, he, -⟩ := (step_new_deployment_applied policy a hl₀ hl).2.2 i hi
      exact ⟨v, hv, he⟩
    | some d₀ =>
      obtain ⟨hc, -⟩ := of_found (step_deployment policy a hl₀) hl
      have hvol : d.appVolumeId = d₀.appVolumeId := (congrArg Deployment.appVolumeId hc :)
      have henv : d.appEnvironmentId = d₀.appEnvironmentId :=
        (congrArg Deployment.appEnvironmentId hc :)
      obtain ⟨v, hv, he⟩ := h.own j d₀ i hl₀ (hvol.symm.trans hi)
      exact ⟨v, hv, he.trans henv.symm⟩
  obtain ⟨v', hv', hstep, -⟩ := step_volume policy a hv
  exact ⟨v', hv', hstep.frame.1.trans he⟩

/-- **The deployment that is served stays attached**, unless it is given up. -/
theorem MountsSound.step_current (hg : KeepsMounts s a) {e : ℕ} {ae : AppEnvironment}
    (hae : (step policy s a).db.appEnvironments.lookup e = some ae)
    (hj : ae.currentDeploymentId = some j)
    (hd : (step policy s a).db.deployments.lookup j = some d) : Serves d := by
  rcases environment_cases policy a hae with ⟨ae₀, hae₀, hstep⟩ | hnew
  · rcases hstep.current_eq with heq | ⟨_, _, -, -, hl, hd', hready⟩
    · rw [hj] at heq
      obtain ⟨⟨d₀, hd₀, -⟩, -⟩ := h.ordered.current e ae₀ j hae₀ heq.symm
      have hserves := h.current e ae₀ j d₀ hae₀ heq.symm hd₀
      have hds := of_found (step_deployment_cases policy a hd₀) hd
      cases hds with
      | same => exact hserves
      | start => exact .inr (.inl rfl)
      | ready => exact .inr (.inr rfl)
      | degrade k f op _ _ _ ha hk hf hheld hretry hkind hdep =>
        have hgood := hg.1 (k, f) ha op hk hheld
        simp only [hf, DegradesCurrent] at hgood
        refine absurd ⟨hretry, hkind, any_iff.mpr ⟨e, ae₀, hae₀, ?_, ?_⟩⟩ hgood
        · rw [← heq]
          exact nofun
        · exact heq.symm.trans hdep.symm
    · rw [hj] at hl
      cases hl
      rw [Option.mem_unique hd hd']
      exact .inr (.inr hready)
  · rw [hnew.2.1] at hj
    cases hj

/-- The volume of a deployment that is being applied is not removed in the meantime. -/
theorem MountsSound.step_kept {k : ℕ} {o : Operation}
    (hk : (step policy s a).db.operations.lookup k = some o) (ha : o.Active)
    (hkind : o.kind = .applyDeployment) (he : o.appEnvironmentId = some v.appEnvironmentId)
    (hv : s.db.appVolumes.lookup i = some v) (hd : v.deletionRequestedAt = none) {v' : AppVolume}
    (hv' : (step policy s a).db.appVolumes.lookup i = some v') :
    v'.deletionRequestedAt = none := by
  obtain ⟨hstep, -⟩ := of_found (step_volume policy a hv) hv'
  cases hstep with
  | report hc => exact (congrArg AppVolume.deletionRequestedAt hc :).trans hd
  | expand _ hd => exact hd
  | remove _ hqueued =>
    -- the operation that removes the volume would be the second active one of the environment
    obtain ⟨l, p, hl, hkind', hp, hpe, -⟩ := hqueued
    have hone := h.oneActive.step policy a
    obtain rfl : k = l := hone k l o p hk hl ha (.inl hp) (by rw [he]; exact nofun)
      (he.trans hpe.symm)
    cases hk.symm.trans hl
    rw [hkind] at hkind'
    cases hkind'

/-- An operation that applies a deployment is for an environment whose volume, if the deployment
mounts it, was not being removed. -/
theorem MountsSound.step_mounts (hg : KeepsMounts s a) {k : ℕ} {o : Operation}
    (hk : (step policy s a).db.operations.lookup k = some o) (ha : o.Active)
    (hkind : o.kind = .applyDeployment) (hj : o.deploymentId = some j)
    (hd : (step policy s a).db.deployments.lookup j = some d) (hi : d.appVolumeId = some i) :
    ∃ v, s.db.appVolumes.lookup i = some v ∧ o.appEnvironmentId = some v.appEnvironmentId ∧
      v.deletionRequestedAt = none := by
  -- a deployment that was there, and whose volume was not being removed
  have hold {e : ℕ} {d₀ : Deployment} (he : o.appEnvironmentId = some e)
      (hd₀ : s.db.deployments.lookup j = some d₀) (hde : d₀.appEnvironmentId = e)
      (hkept : ¬ MountsRemoved s.db d₀) :
      ∃ v, s.db.appVolumes.lookup i = some v ∧ o.appEnvironmentId = some v.appEnvironmentId ∧
        v.deletionRequestedAt = none := by
    obtain ⟨hc, -⟩ := of_found (step_deployment policy a hd₀) hd
    have hvol : d₀.appVolumeId = some i := (congrArg Deployment.appVolumeId hc :).symm.trans hi
    obtain ⟨v, hv, hve⟩ := h.own j d₀ i hd₀ hvol
    refine ⟨v, hv, he.trans (congrArg some (hde.symm.trans hve.symm)), ?_⟩
    by_contra hrem
    refine hkept ⟨v, ?_, hrem⟩
    rw [hvol]
    exact hv
  rcases operation_cases policy a hk with ⟨o₀, hk₀, hf⟩ | ⟨-, -, hins⟩
  · have hkind₀ := hf.kind.symm.trans hkind
    have hj₀ := hf.deploymentId.symm.trans hj
    obtain ⟨e, ae, he, hae, hdes⟩ := h.ordered.active k o₀ hk₀ hkind₀ (hf.active ha)
    obtain ⟨d₀, hd₀, hde⟩ := h.ordered.desired e ae j hae (hdes.symm.trans hj₀)
    exact hold (hf.appEnvironmentId.trans he) hd₀ hde
      (h.applied k o₀ j d₀ hk₀ (hf.active ha) hkind₀ hj₀ hd₀)
  · cases hins with
    | attach _ _ _ hk' => rw [NewOperation.row, hk'] at hkind; cases hkind
    | create _ _ _ hk' => rw [NewOperation.row, hk'] at hkind; cases hkind
    | delete => cases hkind
    | expand => cases hkind
    | remove => cases hkind
    | ensureVolume _ _ _ _ _ hk' =>
      rw [NewOperation.row, hk'] at hkind
      cases hkind
    | deploy =>
      cases hj
      have hnone := lookup_nextId s.db.deployments
      obtain ⟨v, hv, hve, hrem⟩ := (step_new_deployment_applied policy _ hnone hd).2.2 i hi
      obtain ⟨e', ae', he', hae', hdes⟩ := (h.ordered.step policy _).active k _ hk rfl ha
      have hde := of_found ((h.ordered.step policy _).desired e' ae' _ hae' hdes.symm) hd
      exact ⟨v, hv, he'.trans (congrArg some (hde.symm.trans hve.symm)), hrem⟩
    | applyDeployment _ heartbeat _ _ e ae hh _ he hae hna hnd hde =>
      have hdes : ae.desiredDeploymentId = some j := hde.symm.trans hj
      obtain ⟨d₀, hd₀, hde₀⟩ := h.ordered.desired e ae j hae hdes
      refine hold he hd₀ hde₀ fun hrem => hg.2 heartbeat rfl hh ?_
      refine any_iff.mpr ⟨e, ae, hae, hna, hnd, d₀, ?_, hrem⟩
      rw [hdes]
      exact hd₀

theorem MountsSound.step (hg : KeepsMounts s a) (policy) :
    MountsSound (step policy s a) where
  ordered := h.ordered.step policy a
  oneActive := h.oneActive.step policy a
  own _ _ _ := h.step_own
  current _ _ _ _ := h.step_current hg
  applied k o j d hk ha hkind hj hd := by
    rintro ⟨_, hv', hrem⟩
    obtain ⟨_, hi, hv'⟩ := Option.bind_eq_some_iff.mp hv'
    obtain ⟨_, hv, he, hkept⟩ := h.step_mounts hg hk ha hkind hj hd hi
    exact hrem (h.step_kept hk ha hkind he hv hkept hv')

end Step

/-! ### Every run -/

/-- What is attached is not removed. -/
theorem MountsSound.protects (h : MountsSound s) (policy) :
    MountsProtected policy s where
  refused change i v hv hm := by
    obtain ⟨ae, j, d, hae, hna, hj, hd, hi⟩ := hm
    have hattached : Attached s.db i v :=
      ⟨⟨ae, hae, hna⟩, any_iff.mpr ⟨j, d, hd, hi, h.current _ ae j d hae hj hd⟩⟩
    have hrefused (principalId : ℕ) :
        deleteVolume s.now s.db change principalId = .error .volumeAttached := by
      simp only [deleteVolume, hv, ok_bind, require, if_neg (not_not.mpr hattached)]
      rfl
    refine ⟨hrefused, ?_⟩
    simp only [Store.step, State.transact]
    rcases hx : deleteAppVolume s.now s.db change with e | db'
    · rfl
    · rcases changeVolume_eq_ok hx with rfl | ⟨principalId, -, hok⟩
      · rfl
      · rw [hrefused principalId] at hok
        cases hok
  applied := h.applied

/-- **Volumes in use are protected** in every run in which the current deployment is not given up
and no snapshot finds a desired deployment whose volume is being removed. -/
theorem mountsProtected_of_keepsMounts (policy : PublicationPolicy) (s₀ : State)
    (acts : List Action) (h₀ : Initial s₀)
    (hg : Guarded (step policy) KeepsMounts s₀ acts) :
    MountsProtected policy (run (step policy) s₀ acts) :=
  (guarded_run_induction (I := MountsSound) h₀.mountsSound
    (fun _ _ h hg => h.step hg policy) hg).protects policy

/-- A stateful environment is deployed, and a snapshot is taken. -/
def mountedRun : List Action :=
  storageRun ++ [.createDeployment (firstDeployment "env-one" 1),
    .claimNext "agent:cls-one" "cls-one" 60, .handleResult 2 goodResult]

/-- A complete snapshot in which the volume is as it should be, and the deployment is missing. -/
def driftedSnapshot (sequence : ℕ) : Heartbeat where
  clusterPublicId := "cls-one"
  sessionId := "session-one"
  sequence := sequence
  observations := [
    { kind := "AppVolume"
      namespaceName := "ws-one"
      name := "vol-one"
      state := "Ready"
      message := ""
      generation := 1
      observedGeneration := 1
      observedRelease := ""
      observedSizeGiB := 10
      desiredVersion := 1
      specHash := goodResult.specHash }]
  complete := true

theorem mountsProtected_mountedRun :
    (Initial smallStore ∧ Guarded (step smallPolicy) KeepsMounts smallStore
      (mountedRun ++ [.reconcile repairIds (driftedSnapshot 1)])) ∧
    (run (step smallPolicy) smallStore
      (mountedRun ++ [.reconcile repairIds (driftedSnapshot 1)])).db.operations.Any
        (fun k o => k = 3 ∧ o.kind = .applyDeployment ∧ o.Active) ∧
    MountsProtected smallPolicy (run (step smallPolicy) smallStore
      (mountedRun ++ [.reconcile repairIds (driftedSnapshot 1)])) := by
  have hg : Guarded (step smallPolicy) KeepsMounts smallStore
      (mountedRun ++ [.reconcile repairIds (driftedSnapshot 1)]) := by decide +kernel
  exact ⟨⟨smallStore_initial, hg⟩, by decide +kernel,
    mountsProtected_of_keepsMounts smallPolicy smallStore _ smallStore_initial hg⟩

/-- The served deployment is missing, and applying it again fails for good. -/
def degradedMountRun : List Action :=
  mountedRun ++ [.reconcile repairIds (driftedSnapshot 1),
    .claimNext "agent:cls-one" "cls-one" 60, .handleResult 3 (badResult false)]

/-- The volume is removed, and the next snapshot still misses the deployment. -/
def remountedRun : List Action :=
  degradedMountRun ++ [.deleteAppVolume removalRequest, .claimNext "agent:cls-one" "cls-one" 60,
    .handleResult 4 (volumeResult "Retained" 2), .touchAgent "cls-one" "session-one" 2,
    .reconcile repairIds (driftedSnapshot 2)]

/-- The removal of the volume is accepted although the current deployment mounts it; and later the
deployment is about to be applied again although its volume is being removed. -/
theorem not_mountsProtected_degradedMountRun :
    Initial smallStore ∧
    ¬ MountsProtected smallPolicy
      (run (step smallPolicy) smallStore degradedMountRun) ∧
    ∃ o d, (run (step smallPolicy) smallStore remountedRun).db.operations.lookup 5 =
        some o ∧ o.Active ∧ o.kind = .applyDeployment ∧ o.deploymentId = some 1 ∧
      (run (step smallPolicy) smallStore remountedRun).db.deployments.lookup 1 =
        some d ∧
      MountsRemoved (run (step smallPolicy) smallStore remountedRun).db d := by
  have hqueued : ∃ o ∈ (run (step smallPolicy) smallStore remountedRun).db.operations.lookup 5,
      (o.Active ∧ o.kind = .applyDeployment ∧ o.deploymentId = some 1) ∧
      ∃ d ∈ (run (step smallPolicy) smallStore remountedRun).db.deployments.lookup 1,
        MountsRemoved (run (step smallPolicy) smallStore remountedRun).db d := by decide +kernel
  obtain ⟨o, ho, ⟨ha, hk, hd⟩, d, hl, hr⟩ := hqueued
  refine ⟨smallStore_initial, fun h => ?_, o, d, ho, ha, hk, hd, hl, hr⟩
  have hfound : (volumeForChange (run (step smallPolicy) smallStore degradedMountRun).db
      removalRequest).isOk = true := by decide +kernel
  have hone : ∀ i v, (run (step smallPolicy) smallStore
      degradedMountRun).db.appVolumes.lookup i = some v → i = 1 ∧ v.appEnvironmentId = 1 := by
    decide +kernel
  have hmounts : ∃ ae ∈ (run (step smallPolicy) smallStore
      degradedMountRun).db.appEnvironments.lookup 1, (ae.archivedAt = none ∧
      ae.currentDeploymentId = some 1) ∧ ∃ d ∈ (run (step smallPolicy) smallStore
        degradedMountRun).db.deployments.lookup 1, d.appVolumeId = some 1 := by decide +kernel
  have haccepted : (deleteVolume (run (step smallPolicy) smallStore
      degradedMountRun).now (run (step smallPolicy) smallStore degradedMountRun).db
      removalRequest 7).isOk = true := by decide +kernel
  rcases hv : volumeForChange (run (step smallPolicy) smallStore degradedMountRun).db
      removalRequest with e | ⟨i, v⟩
  · rw [hv] at hfound
    cases hfound
  · obtain ⟨rfl, he⟩ := hone i v (volumeForChange_eq_ok hv).1
    obtain ⟨ae, hae, ⟨hna, hc⟩, d, hd, hvol⟩ := hmounts
    rw [(h.refused removalRequest 1 v hv ⟨ae, 1, d, he ▸ hae, hna, hc, hd, hvol⟩).1 7]
      at haccepted
    cases haccepted

end Molejo.Store
