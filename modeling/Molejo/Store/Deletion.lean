import Molejo.Store.LeaseSafety
import Molejo.Store.Storage

/-!
# Requested deletions

Deleting an environment or removing a volume is requested by marking the row and
queueing an operation. The mark is never taken back, and both requests refuse a row
that is marked already. So the operation has to see the deletion through: if it ends
without, nothing can be queued in its place, neither by a user nor by the drift query,
which skips what is marked.

An operation of this kind ends without effect if its worker fails it for good, if the
cluster is revoked, or – for a volume – if the Agent reports the command as done in a
state other than `Retained`. Later, a report or a deployment that still mounts the
volume may take it out of `Retained` again. `KeepsDeletions` excludes these steps, and
`deletions_of_keepsDeletions` says that nothing else strands a deletion.
-/

namespace Molejo.Store

open Transaction Relation Table Transition

variable {o : Operation} {k : ℕ} {op : ClaimedOperation}

/-! ### Deletions that can be seen through -/

/-- A request to delete the environment under its present version, from a user that exists, under
identities that were not used. -/
structure FreshDeletion (db : Db) (ae : AppEnvironment) (request : EnvironmentDeletion) : Prop where
  workspaceId : request.workspaceId = ae.workspaceId
  publicId : request.publicId = ae.publicId
  version : request.version = ae.version
  key : ∃ principalId, principalIdForUser db request.actorId = .ok principalId ∧
    ¬ KeyTaken db.operations request.workspaceId (some request.actorId) principalId
      request.idempotencyHash
  operation : ¬ db.operations.Any fun _ o => o.publicId = request.operationPublicId

/-- The same for a request to remove a volume. -/
structure FreshRemoval (db : Db) (v : AppVolume) (change : VolumeChange) : Prop where
  workspaceId : change.workspaceId = v.workspaceId
  publicId : ∃ ae, db.appEnvironments.lookup v.appEnvironmentId = some ae ∧
    change.appEnvironmentPublicId = ae.publicId
  version : change.expectedVersion = v.version
  key : ∃ principalId, principalIdForUser db change.actorId = .ok principalId ∧
    ¬ KeyTaken db.operations change.workspaceId (some change.actorId) principalId
      change.idempotencyHash
  operation : ¬ db.operations.Any fun _ o => o.publicId = change.operationPublicId

/-- An operation of the given kind on the given environment or volume is active. -/
def ActiveOn (db : Db) (kind : OperationKind) (p : Operation → Prop) : Prop :=
  ∃ k o, db.operations.lookup k = some o ∧ o.Active ∧ o.kind = kind ∧ p o

/-- **No deletion is stranded.** Whatever is to be deleted has an operation that deletes it, or a
further request would queue one. -/
structure DeletionsLive (s : State) : Prop where
  environment : ∀ i ae, s.db.appEnvironments.lookup i = some ae → ae.archivedAt = none →
    ae.deletionRequestedAt ≠ none →
    ActiveOn s.db .deleteAppEnvironment (fun o => o.appEnvironmentId = some i) ∨
    ∀ request, FreshDeletion s.db ae request →
      ∃ db', deleteAppEnvironment s.now s.db request = .ok db' ∧
        Queued db' .deleteAppEnvironment i none
  volume : ∀ i v, s.db.appVolumes.lookup i = some v → v.deletionRequestedAt ≠ none →
    v.observedState ≠ .retained →
    ActiveOn s.db .deleteVolume (fun o => o.appVolumeId = some i) ∨
    ∀ change, FreshRemoval s.db v change →
      ∃ db', deleteAppVolume s.now s.db change = .ok db' ∧
        Queued db' .deleteVolume v.appEnvironmentId (some i)

/-! ### Steps that see deletions through -/

/-- The operation deletes something. -/
def IsDeletion (o : Operation) : Prop := o.kind = .deleteAppEnvironment ∨ o.kind = .deleteVolume
deriving Decidable

/-- The call does not fail a deletion for good, does not end the removal of a volume in another
state than `Retained`, and does not report as mounted a volume that is to be removed. -/
def CallKeeps (db : Db) (op : Operation) : Call → Prop
  | .fail _ _ retry => IsDeletion op → Retries op retry
  | .completeVolume state _ _ _ => op.kind = .deleteVolume → state = "Retained"
  | .completeDeployment _ _ _ volume => volume.isSome = true →
    ∀ d ∈ op.deploymentId.bind db.deployments.lookup,
      ∀ v ∈ d.appVolumeId.bind db.appVolumes.lookup, v.deletionRequestedAt = none
  | .completeWorkspace | .completeAppEnvironmentDeletion _ => True

instance (db : Db) (op : Operation) (call : Call) : Decidable (CallKeeps db op call) :=
  match call with
  | .fail _ _ retry => inferInstanceAs (Decidable (IsDeletion op → Retries op retry))
  | .completeVolume state _ _ _ =>
    inferInstanceAs (Decidable (op.kind = .deleteVolume → state = "Retained"))
  | .completeDeployment _ _ _ volume =>
    inferInstanceAs (Decidable (volume.isSome = true →
      ∀ d ∈ op.deploymentId.bind db.deployments.lookup,
        ∀ v ∈ d.appVolumeId.bind db.appVolumes.lookup, v.deletionRequestedAt = none))
  | .completeWorkspace | .completeAppEnvironmentDeletion _ => inferInstanceAs (Decidable True)

/-- The cluster an action revokes. -/
def Action.revokes? : Action → Option String
  | .revokeCluster publicId _ => some publicId
  | _ => none

/-- The report an action makes. -/
def Action.reports? : Action → Option Heartbeat
  | .reconcile _ heartbeat => some heartbeat
  | _ => none

/-- A deletion on the cluster is active. -/
def DeletionOn (db : Db) (clusterPublicId : String) : Prop :=
  db.operations.Any fun _ o => o.Active ∧ IsDeletion o ∧
    ∃ row ∈ o.agentInstallationId.bind db.installations.lookup, row.publicId = clusterPublicId
deriving Decidable

/-- The report shows a volume that is to be removed, and on which nothing is active, in another
state than `Retained`. -/
def Revives (db : Db) (heartbeat : Heartbeat) : Prop :=
  db.appVolumes.Any fun i v => v.deletionRequestedAt ≠ none ∧
    (¬ db.operations.Any fun _ o => o.Active ∧ o.appVolumeId = some i) ∧
    ∃ o ∈ heartbeat.observations, o.kind ≠ "AppDeployment" ∧ o.name = v.publicId ∧
      o.state ≠ "Retained"
deriving Decidable

/-- The step does not put an end to a deletion that has not had its effect. -/
def KeepsDeletions (s : State) (a : Action) : Prop :=
  (∀ x ∈ a.call?, ∀ op ∈ s.held.lookup x.1, Held s op → CallKeeps s.db op.2 (x.2 op.2)) ∧
  (∀ publicId ∈ a.revokes?, ¬ DeletionOn s.db publicId) ∧
  ∀ heartbeat ∈ a.reports?, ¬ Revives s.db heartbeat
deriving Decidable

/-! ### What is observed of a volume -/

variable {policy : PublicationPolicy} {now : Time} {s : State} {a : Action} {i : ℕ} {db db' : Db}
  {v v' : AppVolume}

/-- Why a step may show the volume `v` under `i` in the given state. -/
inductive Reobserved (s : State) (i : ℕ) (v : AppVolume) (state : VolumeState) : Action → Prop
  | expand (a : Action) (hd : v.deletionRequestedAt = none) : Reobserved s i v state a
  /-- An operation on the volume was claimed or has ended. -/
  | worked (a : Action) (k : ℕ) (o : Operation) (hk : s.db.operations.lookup k = some o)
      (ha : o.Active) (hv : o.appVolumeId = some i) : Reobserved s i v state a
  /-- A deployment that mounts the volume was completed. -/
  | mounted (a : Action) (k : ℕ) (f : Operation → Call) (op : ClaimedOperation)
      (message release specHash : String) (c : VolumeCompletion) (d : Deployment)
      (ha : a.call? = some (k, f)) (hk : s.held.lookup k = some op) (hl : Held s op)
      (hf : f op.2 = .completeDeployment message release specHash (some c))
      (hd : op.2.deploymentId.bind s.db.deployments.lookup = some d)
      (hv : d.appVolumeId = some i) : Reobserved s i v state a
  | reported (ids : ℕ → String) (heartbeat : Heartbeat)
      (hs : Shown heartbeat.observations v.publicId state) :
      Reobserved s i v state (.reconcile ids heartbeat)

/-- Claiming an operation shows in the state of its own volume. -/
theorem startWork_observed (h : startWork now db o = .ok db') (hl : db.appVolumes.lookup i = some v)
    (hl' : db'.appVolumes.lookup i = some v') :
    v' = v ∨ o.appVolumeId = some i := by
  have hsame (h : db'.appVolumes = db.appVolumes) : v' = v ∨ o.appVolumeId = some i := by
    rw [h] at hl'
    exact .inl (Option.mem_unique hl' hl)
  rcases startWork_cases h with ⟨_, rfl⟩ | rfl | ⟨_, rfl⟩ | ⟨-, rfl⟩
  · exact hsame rfl
  · exact hsame rfl
  · obtain ⟨_, hw, ⟨hp, -⟩ | ⟨-, rfl⟩⟩ := lookup_modify_eq_some.mp hl'
    · exact .inr hp.symm
    · exact .inl (Option.mem_unique hw hl)
  · exact hsame rfl

/-- So does failing it. -/
theorem reportFailure_observed {operations : Table Operation} {message : String}
    (hl : db.appVolumes.lookup i = some v)
    (hl' : (reportFailure now { db with operations := operations } o
      message).appVolumes.lookup i = some v') :
    v' = v ∨ o.appVolumeId = some i := by
  unfold reportFailure at hl'
  cases hk : o.kind with
  | ensureVolume | expandVolume | deleteVolume =>
    simp only [hk] at hl'
    obtain ⟨_, hw, ⟨hp, -⟩ | ⟨-, rfl⟩⟩ := lookup_modify_eq_some.mp hl'
    · exact .inr hp.symm
    · exact .inl (Option.mem_unique hw hl)
  | _ =>
    simp only [hk] at hl'
    exact .inl (Option.mem_unique hl' hl)

/-- A report shows a volume in the state it was in, or one that was reported. -/
theorem report_observed {os : List RuntimeObservation}
    (h : ReflTransGen (ReportStep now os) db db') (hl : db.appVolumes.lookup i = some v)
    (hl' : db'.appVolumes.lookup i = some v') :
    v'.observedState = v.observedState ∨ Shown os v.publicId v'.observedState := by
  induction h generalizing v' with
  | refl => exact .inl (congrArg _ (Option.mem_unique hl' hl))
  | @tail _ _ hsteps hs ih =>
    cases hs with
    | volumes _ _ _ hs =>
      obtain ⟨w, hw, ⟨hp, rfl⟩ | ⟨-, rfl⟩⟩ := lookup_modify_eq_some.mp hl'
      · have hc := of_found ((sameCore_of_steps hsteps).volumes.exists_lookup hl) hw
        rcases hs i w hp with h | h
        · rw [h]
          exact ih hw
        · exact .inr ((congrArg AppVolume.publicId hc :) ▸ h)
      · exact ih hw
    | _ => exact ih hl'

/-- The row of an operation that a worker holds under its lease. -/
theorem CopiesSound.active (hs : CopiesSound s) (hk : s.held.lookup k = some op) (hl : Held s op) :
    ∃ o, s.db.operations.lookup op.1 = some o ∧ o.Active ∧ o.work = op.2.work := by
  obtain ⟨o, ho, hw⟩ := hs k op hk
  obtain ⟨j, q, hq, hheld⟩ := any_iff.mp hl
  obtain rfl : j = op.1 := hheld.1
  cases ho.symm.trans hq
  exact ⟨o, ho, .inr hheld.2.1, hw⟩

/-- **What a step shows of a volume.** -/
theorem step_observed (policy) (a : Action) (hs : CopiesSound s)
    (hl : s.db.appVolumes.lookup i = some v)
    (hl' : (step policy s a).db.appVolumes.lookup i = some v') :
    v'.observedState = v.observedState ∨ Reobserved s i v v'.observedState a := by
  have hold (h : s.db.appVolumes.lookup i = some v') :
      v'.observedState = v.observedState ∨ Reobserved s i v v'.observedState a :=
    .inl (congrArg _ (Option.mem_unique h hl))
  have hmod {p : ℕ → AppVolume → Prop} [∀ i v, Decidable (p i v)] {f : AppVolume → AppVolume}
      (h : (s.db.appVolumes.modify p f).lookup i = some v')
      (hf : p i v → (f v).observedState = v.observedState ∨
        Reobserved s i v (f v).observedState a) :
      v'.observedState = v.observedState ∨ Reobserved s i v v'.observedState a := by
    obtain ⟨w, hw, ⟨hp, rfl⟩ | ⟨-, rfl⟩⟩ := lookup_modify_eq_some.mp h
    · cases hl.symm.trans hw
      exact hf hp
    · exact hold hw
  have hheld {state : VolumeState} {k : ℕ} {op : ClaimedOperation}
      (hk : s.held.lookup k = some op) (hh : Held s op) (hv : op.2.appVolumeId = some i) :
      Reobserved s i v state a := by
    obtain ⟨o, ho, hact, hw⟩ := hs.active hk hh
    exact .worked a op.1 o ho hact ((congrArg Operation.appVolumeId hw).trans hv)
  have h := step_effect policy s a
  generalize step policy s a = s' at h hl'
  cases h with
  | createStateful _ _ _ _ _ _ _ _ _ _ _ hv =>
    obtain ⟨_, _, _, _, -, -, -, -, rfl⟩ := createAppVolume_eq_ok hv
    rcases lookup_insert_eq_some.mp hl' with ⟨rfl, -⟩ | hl'
    · exact absurd rfl (lt_nextId hl).ne
    · exact hold hl'
  | expand _ _ _ _ _ w hv =>
    refine hmod hl' ?_
    rintro rfl
    obtain ⟨hj, -, -, -, hd⟩ := volumeForChange_eq_ok hv
    cases hl.symm.trans hj
    exact .inr (.expand _ hd)
  | remove => exact hmod hl' fun _ => .inl rfl
  | report ids heartbeat _ hr =>
    exact (report_observed hr hl hl').imp_right (.reported ids heartbeat)
  | claim _ _ _ j o _ hj hc hw =>
    rcases startWork_observed hw hl hl' with rfl | hv
    · exact .inl rfl
    · exact .inr (.worked _ j o hj (hc.1.imp_right And.left) hv)
  | volumeDone _ _ _ _ _ _ _ _ _ _ _ hk _ hh =>
    exact hmod hl' fun hp => .inr (hheld hk hh hp.symm)
  | deploymentDone a k f op message release specHash _ _ d _ _ ha hk hf hh _ hde _ hd hv =>
    rcases hv with rfl | ⟨c, rfl, rfl⟩
    · exact hold hl'
    · refine hmod hl' fun hp => .inr ?_
      exact .mounted a k f op message release specHash c d ha hk hh hf (by rw [hde]; exact hd)
        hp.symm
  | failed _ _ _ _ _ _ _ _ hk _ hh =>
    rcases reportFailure_observed hl hl' with rfl | hv
    · exact .inl rfl
    · exact .inr (hheld hk hh hv)
  | _ => exact hold hl'

/-! ### Deletions live on -/

/-- A deletion that is active stays active, unless it is completed. -/
theorem deletion_lives (policy) (hc : CopiesSound s) (hg : KeepsDeletions s a)
    (hk : s.db.operations.lookup k = some o) (hact : o.Active) (hdel : IsDeletion o) :
    (∃ o', (step policy s a).db.operations.lookup k = some o' ∧ o'.Active ∧ o'.work = o.work) ∨
      ∃ op ∈ completed policy s a, op.1 = k := by
  obtain ⟨o', ho', hf⟩ := step_operation policy a hk
  have hne {status : OperationStatus} (hs : o.status = status) (h : ¬ (status = .pending ∨
      status = .running)) : False := h (hs ▸ hact)
  cases hs : o'.status with
  | pending => exact .inl ⟨o', ho', .inl hs, hf.work⟩
  | running => exact .inl ⟨o', ho', .inr hs, hf.work⟩
  | succeeded => exact .inr ((hf.done hs).resolve_left fun h => hne h (by decide))
  | failed =>
    exfalso
    cases (hf.failed hs).resolve_left fun h => hne h (by decide) with
    | call _ j f op _ _ _ ha hj hfail hl hr =>
      have hkeeps := hg.1 (j, f) ha op hj (any_iff.mpr ⟨k, o, hk, hl⟩)
      simp only [hfail, CallKeeps] at hkeeps
      obtain ⟨q, hq, hw⟩ := hc j op hj
      obtain rfl : k = op.1 := hl.1
      cases hk.symm.trans hq
      have hkind : o.kind = op.2.kind := (congrArg Operation.kind hw :)
      exact hr (hkeeps (by rwa [IsDeletion, ← hkind]))
    | revoke publicId _ _ row hx hrow hp =>
      refine hg.2.1 publicId rfl (any_iff.mpr ⟨k, o, hk, hact, hdel, row, ?_, hp⟩)
      rw [hx]
      exact hrow

/-- What the copy of a completed operation says, its row says too. -/
theorem work_of_completed (hc : CopiesSound s) (hk : s.db.operations.lookup k = some o)
    (hop : completed policy s a = some op) (he : op.1 = k) : o.work = op.2.work := by
  obtain ⟨q, hq, hw, -⟩ := row_of_completed hc hop
  subst he
  cases hk.symm.trans hq
  exact hw

/-- A volume whose removal was completed is retained. -/
theorem retained_of_completed (hg : KeepsDeletions s a) (hop : completed policy s a = some op)
    (hkind : op.2.kind = .deleteVolume) (hv : op.2.appVolumeId = some i)
    (hl : (step policy s a).db.appVolumes.lookup i = some v') : v'.observedState = .retained := by
  obtain ⟨k, f, _, ha, hk, hcomp, he, hs⟩ := of_completed hop
  obtain ⟨o, ho, hheld, -⟩ := lookup_of_completed hop
  have hkeeps : CallKeeps s.db op.2 (f op.2) :=
    hg.1 (k, f) ha op hk (any_iff.mpr ⟨_, o, ho, hheld⟩)
  cases a with
  | handleResult =>
    cases ha
    beta_reduce at he hcomp hkeeps
    rw [answer_of_completes hcomp] at he hkeeps
    simp only [complete, hkind, execute] at he hkeeps
    obtain ⟨_, _, hobs, -, _, -, rfl⟩ := completeVolume_eq_ok.mp he
    rw [hkeeps hkind] at hobs
    cases hobs
    rw [hs] at hl
    obtain ⟨_, -, ⟨-, rfl⟩ | ⟨hn, -⟩⟩ := lookup_modify_eq_some.mp hl
    · rfl
    · exact absurd hv.symm hn
  | fail =>
    cases ha
    exact hcomp.elim
  | _ => cases ha

/-! ### Every run -/

/-- What is known in every state: whatever is to be deleted has an operation that deletes it, or
is gone. -/
structure Deletions (s : State) : Prop where
  copies : CopiesSound s
  storage : Storage s.db
  hostnames : HostnamesUnique s.db.publicationClaims
  environment : ∀ i ae, s.db.appEnvironments.lookup i = some ae → ae.archivedAt = none →
    ae.deletionRequestedAt ≠ none →
    ActiveOn s.db .deleteAppEnvironment fun o => o.appEnvironmentId = some i
  volume : ∀ i v, s.db.appVolumes.lookup i = some v → v.deletionRequestedAt ≠ none →
    v.observedState = .retained ∨ ActiveOn s.db .deleteVolume fun o => o.appVolumeId = some i

theorem Initial.deletions (h₀ : Initial s) : Deletions s where
  copies _ _ := of_lookup_empty h₀.held
  storage := h₀.storage
  hostnames := by
    rw [h₀.claims]
    exact keyUnique_empty
  environment _ _ := of_lookup_empty h₀.environments
  volume _ _ := of_lookup_empty h₀.volumes

section Step

variable (h : Deletions s) (hg : KeepsDeletions s a)

include h hg

theorem Deletions.step_environment {ae : AppEnvironment}
    (hl : (step policy s a).db.appEnvironments.lookup i = some ae) (hna : ae.archivedAt = none)
    (hd : ae.deletionRequestedAt ≠ none) :
    ActiveOn (step policy s a).db .deleteAppEnvironment fun o => o.appEnvironmentId = some i := by
  rcases environment_cases policy a hl with ⟨ae₀, hl₀, hstep⟩ | hnew
  · have hna₀ := hstep.archivedAt hna
    -- an operation that was there goes on, for its completion would have archived the environment
    have hkept (hd₀ : ae₀.deletionRequestedAt ≠ none) :
        ActiveOn (step policy s a).db .deleteAppEnvironment
          fun o => o.appEnvironmentId = some i := by
      obtain ⟨k, _, hk, hact, hkind, he⟩ := h.environment i ae₀ hl₀ hna₀ hd₀
      rcases deletion_lives policy h.copies hg hk hact (.inl hkind) with
        ⟨o', ho', hact', hw⟩ | ⟨op, hop, hi⟩
      · exact ⟨k, o', ho', hact', (congrArg Operation.kind hw :).trans hkind,
          (congrArg Operation.appEnvironmentId hw :).trans he⟩
      · have hw := work_of_completed h.copies hk hop hi
        have happ := applied_of_completed h.hostnames hop
        have hkind' : op.2.kind = .deleteAppEnvironment :=
          (congrArg Operation.kind hw :).symm.trans hkind
        simp only [Applied, hkind'] at happ
        obtain ⟨e, _, hee, hl', harch⟩ := happ
        have hei : op.2.appEnvironmentId = some i :=
          (congrArg Operation.appEnvironmentId hw :).symm.trans he
        cases hei.symm.trans hee
        rw [Option.mem_unique hl hl', harch] at hna
        cases hna
    cases hstep with
    | report hc => exact hkept (deletionRequestedAt_of_core hc ▸ hd)
    | branch => exact hkept hd
    | update _ _ _ _ hd' => exact absurd hd' hd
    | delete _ _ hq' =>
      obtain ⟨k, o, hk, hkind, hp, he, -⟩ := hq'
      exact ⟨k, o, hk, .inl hp, hkind, he⟩
    | desire _ hd' => exact absurd hd' hd
    | current => exact hkept hd
    | archive => cases hna
  · exact absurd hnew.2.2.1 hd

theorem Deletions.step_volume {v : AppVolume}
    (hl : (step policy s a).db.appVolumes.lookup i = some v) (hd : v.deletionRequestedAt ≠ none) :
    v.observedState = .retained ∨
      ActiveOn (step policy s a).db .deleteVolume fun o => o.appVolumeId = some i := by
  rcases volume_cases policy a hl with ⟨v₀, hl₀, hstep⟩ | hnew
  · cases hstep with
    | expand _ hd₀ => exact absurd hd₀ hd
    | remove _ hq' =>
      obtain ⟨k, o, hk, hkind, hp, -, hv⟩ := hq'
      exact .inr ⟨k, o, hk, .inl hp, hkind, hv⟩
    | report hc =>
      have hd₀ : v₀.deletionRequestedAt ≠ none :=
        (congrArg AppVolume.deletionRequestedAt hc :) ▸ hd
      by_cases hactive : ActiveOn s.db .deleteVolume fun o => o.appVolumeId = some i
      · obtain ⟨k, _, hk, hact, hkind, hv⟩ := hactive
        rcases deletion_lives policy h.copies hg hk hact (.inr hkind) with
          ⟨o', ho', hact', hw⟩ | ⟨op, hop, hi⟩
        · exact .inr ⟨k, o', ho', hact', (congrArg Operation.kind hw :).trans hkind,
            (congrArg Operation.appVolumeId hw :).trans hv⟩
        · have hw := work_of_completed h.copies hk hop hi
          exact .inl (retained_of_completed hg hop
            ((congrArg Operation.kind hw :).symm.trans hkind)
            ((congrArg Operation.appVolumeId hw :).symm.trans hv) hl)
      · -- nothing is active on the volume, which is retained and stays so
        have hret := (h.volume i v₀ hl₀ hd₀).resolve_right hactive
        have hnone {k : ℕ} {o : Operation} (hk : s.db.operations.lookup k = some o)
            (hact : o.Active) (hv : o.appVolumeId = some i) : False :=
          hactive ⟨k, o, hk, hact, h.storage.removing k o i v₀ hk hact hv hl₀ hd₀, hv⟩
        rcases step_observed policy a h.copies hl₀ hl with hsame | hwhy
        · exact .inl (hsame.trans hret)
        · generalize v.observedState = state at hwhy
          cases hwhy with
          | expand _ hd' => exact absurd hd' hd₀
          | worked _ _ _ hk hact hv => exact (hnone hk hact hv).elim
          | mounted _ k f op _ _ _ _ d ha hk hh hf hde hv =>
            have hkeeps := hg.1 (k, f) ha op hk hh
            simp only [hf, CallKeeps] at hkeeps
            refine absurd (hkeeps rfl d hde v₀ ?_) hd₀
            rw [hv]
            exact hl₀
          | reported _ heartbeat hs =>
            obtain ⟨o, ho, hkind, hname, hs⟩ := hs
            refine .inl ?_
            by_contra hne
            refine hg.2.2 heartbeat rfl (any_iff.mpr ⟨i, v₀, hl₀, hd₀, ?_, o, ho, hkind, hname, ?_⟩)
            · rintro hany
              obtain ⟨_, _, hk, hact, hv⟩ := any_iff.mp hany
              exact hnone hk hact hv
            · rintro hr
              rw [hr] at hs
              cases hs
              exact hne rfl
  · exact absurd hnew.kept hd

end Step

theorem Deletions.step (h : Deletions s) (policy) (hg : KeepsDeletions s a) :
    Deletions (step policy s a) where
  copies := h.copies.step policy a
  storage := h.storage.step policy a
  hostnames := (step_claims policy s a).unique h.hostnames
  environment _ _ := h.step_environment hg
  volume _ _ := h.step_volume hg

theorem Deletions.live (h : Deletions s) : DeletionsLive s where
  environment i ae hl hna hd := .inl (h.environment i ae hl hna hd)
  volume i v hl hd hr := .inl ((h.volume i v hl hd).resolve_left hr)

/-- **Deletions are seen through** in every run whose steps do not put an end to one. -/
theorem deletions_of_keepsDeletions (policy : PublicationPolicy) (s₀ : State) (acts : List Action)
    (h₀ : Initial s₀) (hg : Guarded (step policy) KeepsDeletions s₀ acts) :
    DeletionsLive (run (step policy) s₀ acts) :=
  (guarded_run_induction (I := Deletions) h₀.deletions
    (fun _ _ h hg => h.step policy hg) hg).live

/-- A request to delete the first environment, at the version it has. -/
def deletionRequest (publicId : String) (version : ℕ) : EnvironmentDeletion where
  workspaceId := 1
  actorId := 1
  publicId := publicId
  version := version
  idempotencyHash := sha256 ("delete-" ++ toString version)
  payloadHash := sha256 ("payload-delete-" ++ toString version)
  operationPublicId := "op-delete-" ++ toString version

/-- A request to remove its volume. -/
def removalRequest : VolumeChange where
  workspaceId := 1
  actorId := 1
  appEnvironmentPublicId := "env-one"
  expectedVersion := 1
  idempotencyHash := sha256 "remove"
  payloadHash := sha256 "payload-remove"
  operationPublicId := "op-remove"

/-- The result of a command that failed. -/
def badResult (retryable : Bool) : RuntimeResult :=
  { goodResult with errorCode := "runtime_ownership_conflict", retryable := retryable }

/-- A volume is removed and retained; the deletion of its environment fails once and is tried
again. -/
def patientDeletionRun : List Action :=
  [.createAppEnvironment statefulEnvironment, .claimNext "agent:cls-one" "cls-one" 60,
    .handleResult 1 (volumeResult "Ready" 1), .deleteAppVolume removalRequest,
    .claimNext "agent:cls-one" "cls-one" 60, .handleResult 2 (volumeResult "Retained" 2),
    .deleteAppEnvironment (deletionRequest "env-one" 1),
    .claimNext "agent:cls-one" "cls-one" 60, .handleResult 3 (badResult true)]

theorem deletions_patientDeletionRun :
    (Initial smallStore ∧ Guarded (step smallPolicy) KeepsDeletions smallStore
      patientDeletionRun) ∧
    (run (step smallPolicy) smallStore patientDeletionRun).db.appEnvironments.Any
      (fun _ ae => ae.deletionRequestedAt ≠ none ∧ ae.archivedAt = none) ∧
    DeletionsLive (run (step smallPolicy) smallStore patientDeletionRun) :=
  ⟨⟨smallStore_initial, by decide +kernel⟩, by decide +kernel,
    deletions_of_keepsDeletions smallPolicy smallStore patientDeletionRun smallStore_initial
      (by decide +kernel)⟩

/-- The deletion of an environment fails for good. -/
def strandedDeletionRun : List Action :=
  [.createAppEnvironment (newEnvironment "env-one" []),
    .deleteAppEnvironment (deletionRequest "env-one" 1),
    .claimNext "agent:cls-one" "cls-one" 60, .handleResult 1 (badResult false)]

/-- The environment is to be deleted, nothing will delete it, and a further request, for the
version it has, is refused. -/
theorem not_deletions_strandedDeletionRun :
    Initial smallStore ∧
    (¬ DeletionsLive (run (step smallPolicy) smallStore strandedDeletionRun)) ∧
    deleteAppEnvironment (run (step smallPolicy) smallStore strandedDeletionRun).now
      (run (step smallPolicy) smallStore strandedDeletionRun).db
      (deletionRequest "env-one" 2) = .error .versionConflict := by
  have hrefused : deleteAppEnvironment
      (run (step smallPolicy) smallStore strandedDeletionRun).now
      (run (step smallPolicy) smallStore strandedDeletionRun).db
      (deletionRequest "env-one" 2) = .error .versionConflict := by decide +kernel
  refine ⟨smallStore_initial, fun h => ?_, hrefused⟩
  have hrow : ∃ ae ∈ (run (step smallPolicy) smallStore
      strandedDeletionRun).db.appEnvironments.lookup 1, ae.archivedAt = none ∧
      ae.deletionRequestedAt ≠ none ∧ ae.workspaceId = 1 ∧ ae.publicId = "env-one" ∧
      ae.version = 2 := by decide +kernel
  obtain ⟨ae, hl, hna, hd, hw, hp, hv⟩ := hrow
  rcases h.environment 1 ae hl hna hd with ⟨k, o, hk, hact, -⟩ | haccept
  · have hnone : ¬ (run (step smallPolicy) smallStore
        strandedDeletionRun).db.operations.Any fun _ o => o.Active := by decide +kernel
    exact hnone (Table.any_iff.mpr ⟨k, o, hk, hact⟩)
  · obtain ⟨db', hok, -⟩ := haccept (deletionRequest "env-one" 2)
      ⟨hw.symm, hp.symm, hv.symm, ⟨7, by decide +kernel, by decide +kernel⟩, by decide +kernel⟩
    rw [hrefused] at hok
    cases hok

end Molejo.Store
