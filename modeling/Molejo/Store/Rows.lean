import Molejo.Store.Effect
import Molejo.Store.Registry

/-!
# What a step does to a row

`Effect` says what a step does to the database. This file reads it off row by row:
what may happen to an environment, a deployment, a volume and a hostname in one
step, whatever the step is. Rows are never removed from the first three tables.

Four things happen to rows only when an operation is completed. A deployment becomes
ready, an environment gets another current deployment, an environment is archived,
and a hostname is served for another environment or version. The lemmas name the
completed operation in these cases.
-/

namespace Molejo.Store

open Transaction Relation Table

variable {ae : AppEnvironment} {d : Deployment}

variable {policy : PublicationPolicy} {now : Time} {db db' : Db} {s : State} {a : Action} {i : ℕ}

/-! ### Clusters and surroundings -/

/-- **What a step does to the clusters and to its surroundings.** Only sessions and revoking write
the clusters; of the surroundings, the runtime side writes how far workspaces are placed. -/
theorem step_outside (policy) (s : State) (a : Action) :
    ((step policy s a).db.installations = s.db.installations ∨
      (a.OfSession ∧
        Table.Agree Installation.publicId s.db.installations (step policy s a).db.installations ∧
        SameRevoked s.db.installations (step policy s a).db.installations) ∨
      ∃ publicId reason cluster row, a = .revokeCluster publicId reason ∧
        s.db.installations.lookup cluster = some row ∧ row.publicId = publicId ∧
        (step policy s a).db = Store.revoke s.now s.db cluster (trimSpace reason)) ∧
    ((∃ workspaces, (step policy s a).db.toSurroundings =
        { s.db.toSurroundings with workspaces := workspaces }) ∨
      ∃ x, a = .elsewhere x ∧ Surroundings.Keeps s.db.toSurroundings x ∧
        (step policy s a).db.toSurroundings = x) := by
  have h := step_effect policy s a
  generalize step policy s a = s' at h ⊢
  cases h with
  | session _ _ h hr ha => exact ⟨.inr (.inl ⟨ha, h, hr⟩), .inl ⟨_, rfl⟩⟩
  | revoke publicId reason cluster row hrow hp =>
    exact ⟨.inr (.inr ⟨publicId, reason, cluster, row, rfl, hrow, hp, rfl⟩), .inl ⟨_, rfl⟩⟩
  | elsewhere x hx => exact ⟨.inl rfl, .inr ⟨x, rfl, hx, rfl⟩⟩
  | createStateful _ _ _ _ _ _ _ _ _ _ _ hv =>
    obtain ⟨_, _, _, _, -, -, -, -, rfl⟩ := createAppVolume_eq_ok hv
    exact ⟨.inl rfl, .inl ⟨_, rfl⟩⟩
  | report _ _ _ hr =>
    rw [(sameCore_of_steps hr).rest]
    exact ⟨.inl rfl, .inl ⟨_, rfl⟩⟩
  | claim _ _ _ _ _ _ _ _ hs =>
    exact ⟨.inl (startWork_eq_ok hs).2.2.2.2.2.1, .inl (startWork_eq_ok hs).2.2.2.2.1⟩
  | failed _ _ _ op _ message =>
    exact ⟨.inl (reportFailure_frame op.2 message).2.2.2.2.1,
      .inl (reportFailure_frame op.2 message).2.2.2.1⟩
  | _ => exact ⟨.inl rfl, .inl ⟨_, rfl⟩⟩

/-! ### Claims and failures -/

/-- Claiming an operation is written into what is reported of its deployment or volume. -/
theorem startWork_rows {o : Operation} (h : startWork now db o = .ok db') :
    Table.Agree Deployment.core db.deployments db'.deployments ∧
      (∀ i d, db'.deployments.lookup i = some d → d.status = .ready →
        db.deployments.lookup i = some d) ∧
      Table.Agree (fun v => (v.core, v.observedSizeGiB)) db.appVolumes db'.appVolumes := by
  rcases startWork_cases h with ⟨_, rfl⟩ | rfl | ⟨_, rfl⟩ | ⟨-, rfl⟩
  · exact ⟨.refl _ _, fun _ _ hd _ => hd, .refl _ _⟩
  · exact ⟨.refl _ _, fun _ _ hd _ => hd, .refl _ _⟩
  · exact ⟨.refl _ _, fun _ _ hd _ => hd, agree_modify fun _ => rfl⟩
  · refine ⟨agree_modify fun _ => rfl, fun i d hd hr => ?_, .refl _ _⟩
    obtain ⟨_, hd', ⟨-, rfl⟩ | ⟨-, rfl⟩⟩ := lookup_modify_eq_some.mp hd
    · cases hr
    · exact hd'

/-- So is the final failure of an operation. -/
theorem reportFailure_rows (operations : Table Operation) (o : Operation) (message : String) :
    Table.Agree AppEnvironment.core db.appEnvironments
        (reportFailure now { db with operations := operations } o message).appEnvironments ∧
      Table.Agree Deployment.core db.deployments
        (reportFailure now { db with operations := operations } o message).deployments ∧
      (∀ i d, (reportFailure now { db with operations := operations } o
          message).deployments.lookup i = some d →
        d.status = .ready → db.deployments.lookup i = some d) ∧
      Table.Agree (fun v => (v.core, v.observedSizeGiB)) db.appVolumes
        (reportFailure now { db with operations := operations } o message).appVolumes := by
  unfold reportFailure
  cases o.kind with
  | ensureWorkspace => exact ⟨.refl _ _, .refl _ _, fun _ _ hd _ => hd, .refl _ _⟩
  | deleteAppEnvironment =>
    exact ⟨agree_modify fun _ => rfl, .refl _ _, fun _ _ hd _ => hd, .refl _ _⟩
  | applyDeployment =>
    refine ⟨agree_modify fun _ => rfl, agree_modify fun _ => rfl, fun i d hd hr => ?_, .refl _ _⟩
    obtain ⟨_, hd', ⟨-, rfl⟩ | ⟨-, rfl⟩⟩ := lookup_modify_eq_some.mp hd
    · cases hr
    · exact hd'
  | ensureVolume | expandVolume | deleteVolume =>
    exact ⟨agree_modify fun _ => rfl, .refl _ _, fun _ _ hd _ => hd, agree_modify fun _ => rfl⟩

theorem settleEnvironment_core (ae : AppEnvironment) (observed : VolumeState) :
    (settleEnvironment ae observed).core = ae.core := by
  cases observed
  case ready =>
    unfold settleEnvironment
    split_ifs <;> rfl
  all_goals rfl

/-! ### Environments -/

section Core

variable {ae ae' : AppEnvironment} (h : ae'.core = ae.core)

include h

theorem version_of_core : ae'.version = ae.version :=
  (congrArg AppEnvironment.version h :)

theorem desired_of_core : ae'.desiredDeploymentId = ae.desiredDeploymentId :=
  (congrArg AppEnvironment.desiredDeploymentId h :)

theorem current_of_core : ae'.currentDeploymentId = ae.currentDeploymentId :=
  (congrArg AppEnvironment.currentDeploymentId h :)

theorem archivedAt_of_core : ae'.archivedAt = ae.archivedAt :=
  (congrArg AppEnvironment.archivedAt h :)

theorem deletionRequestedAt_of_core : ae'.deletionRequestedAt = ae.deletionRequestedAt :=
  (congrArg AppEnvironment.deletionRequestedAt h :)

end Core

/-- An operation of the given kind, about the given environment or volume, waits to be claimed. -/
def Queued (db : Db) (kind : OperationKind) (appEnvironmentId : ℕ) (appVolumeId : Option ℕ) :
    Prop :=
  ∃ k o, db.operations.lookup k = some o ∧ o.kind = kind ∧ o.status = .pending ∧
    o.appEnvironmentId = some appEnvironmentId ∧ o.appVolumeId = appVolumeId

/-- What may happen to the environment under `i` in one step that leads to `db'`. -/
inductive EnvironmentStep (policy : PublicationPolicy) (s : State) (a : Action) (db' : Db) (i : ℕ)
    (ae : AppEnvironment) : AppEnvironment → Prop
  /-- Nothing, or what is reported of it changes. -/
  | report {ae' : AppEnvironment} (h : ae'.core = ae.core) : EnvironmentStep policy s a db' i ae ae'
  | branch (branch : String) : EnvironmentStep policy s a db' i ae (branchRow branch ae)
  | update (branch : String) (new reserved : RuntimeConfig) (hna : ae.archivedAt = none)
      (hd : ae.deletionRequestedAt = none) :
      EnvironmentStep policy s a db' i ae (configureRow reserved (updateRow branch new ae))
  | delete (hna : ae.archivedAt = none) (hd : ae.deletionRequestedAt = none)
      (hq : Queued db' .deleteAppEnvironment i none) :
      EnvironmentStep policy s a db' i ae (deleteRow s.now ae)
  | desire (hna : ae.archivedAt = none) (hd : ae.deletionRequestedAt = none)
      (hn : ¬ HasActiveOperation s.db.operations i)
      (hdep : ∃ d, db'.deployments.lookup s.db.deployments.nextId = some d ∧
        d.appEnvironmentId = i) :
      EnvironmentStep policy s a db' i ae (desireRow s.db.deployments.nextId ae)
  /-- The operation on the desired deployment was completed. -/
  | current (op : ClaimedOperation) (deploymentId releaseId : ℕ) (message specHash : String)
      (hdone : completed policy s a = some op) (he : op.2.appEnvironmentId = some i)
      (hde : op.2.deploymentId = some deploymentId)
      (hw : ae.desiredDeploymentId = some deploymentId)
      (hr : ∃ d, db'.deployments.lookup deploymentId = some d ∧ d.status = .ready)
      (hact : ∃ d, s.db.deployments.lookup deploymentId = some d ∧
        activatePublicationClaims policy s.db.publicationClaims i d.configurationVersion
          d.workloadKind d.configuration = .ok db'.publicationClaims) :
      EnvironmentStep policy s a db' i ae
        (currentRow deploymentId releaseId message op.2.desiredVersion specHash ae)
  /-- The operation that deletes the environment was completed. -/
  | archive (op : ClaimedOperation) (message : String)
      (hdone : completed policy s a = some op) (he : op.2.appEnvironmentId = some i)
      (hd : ae.deletionRequestedAt ≠ none) (hna : ae.archivedAt = none) :
      EnvironmentStep policy s a db' i ae (archiveRow s.now message ae)

/-- The environment under `i` is still there, and one of these happened to it. -/
def EnvironmentLives (policy : PublicationPolicy) (s : State) (a : Action) (i : ℕ)
    (ae : AppEnvironment) (db' : Db) : Prop :=
  ∃ ae', db'.appEnvironments.lookup i = some ae' ∧ EnvironmentStep policy s a db' i ae ae'

/-- What a new environment is like. -/
def FreshEnvironment (ae : AppEnvironment) : Prop :=
  ae.desiredDeploymentId = none ∧ ae.currentDeploymentId = none ∧
    ae.deletionRequestedAt = none ∧ ae.archivedAt = none ∧ ae.version = 1

/-- What a step that leads to `db'` does to the environments: all that are there stay, and a new one
has no deployment and is not being deleted. -/
structure EnvironmentsStep (policy : PublicationPolicy) (s : State) (a : Action) (db' : Db) :
    Prop where
  lives : ∀ i ae, s.db.appEnvironments.lookup i = some ae → EnvironmentLives policy s a i ae db'
  new : ∀ i ae, s.db.appEnvironments.lookup i = none → db'.appEnvironments.lookup i = some ae →
    (i = s.db.appEnvironments.nextId ∧ ae.configurationVersion = 1) ∧ FreshEnvironment ae

section EnvironmentsStep

variable {ae : AppEnvironment}

theorem EnvironmentsStep.of_agree
    (h : Table.Agree AppEnvironment.core s.db.appEnvironments db'.appEnvironments) :
    EnvironmentsStep policy s a db' where
  lives _ _ hl := by
    obtain ⟨ae', hl', hc⟩ := h.exists_lookup hl
    exact ⟨ae', hl', .report hc⟩
  new _ _ hn hl := absurd hl (h.not_lookup hn)

theorem EnvironmentsStep.of_modify {p : ℕ → AppEnvironment → Prop}
    {_ : ∀ i ae, Decidable (p i ae)} {f : AppEnvironment → AppEnvironment}
    (ht : db'.appEnvironments = s.db.appEnvironments.modify p f)
    (hf : ∀ i ae, s.db.appEnvironments.lookup i = some ae → p i ae →
      EnvironmentStep policy s a db' i ae (f ae)) : EnvironmentsStep policy s a db' where
  lives i ae hl := by
    rw [EnvironmentLives, ht]
    exact exists_lookup_modify hl (.report rfl) (hf i ae hl)
  new _ _ hn hl := absurd (ht ▸ hl) (not_lookup_modify hn)

/-- An environment is created; what is written of it afterwards leaves it new. -/
theorem EnvironmentsStep.of_create {request : NewAppEnvironment} {new : AppEnvironment}
    (hp : placeAppEnvironment s.db request = .ok new)
    (hl : ∀ i ae, s.db.appEnvironments.lookup i = some ae →
      db'.appEnvironments.lookup i = some ae)
    (h : Table.Agree (fun ae => (ae.configurationVersion, FreshEnvironment ae))
      (s.db.appEnvironments.insert new) db'.appEnvironments) :
    EnvironmentsStep policy s a db' where
  lives i ae hi := ⟨ae, hl i ae hi, .report rfl⟩
  new i ae hn hi := by
    obtain ⟨_, hq, hf⟩ := h.symm.exists_lookup hi
    obtain ⟨hv, hf⟩ := Prod.mk.inj hf
    rcases lookup_insert_eq_some.mp hq with ⟨rfl, rfl⟩ | hq
    · obtain ⟨_, _, _, _, rfl, -⟩ := placeAppEnvironment_eq_ok hp
      exact ⟨⟨rfl, hv.symm⟩, hf.mp ⟨rfl, rfl, rfl, rfl, rfl⟩⟩
    · cases hn.symm.trans hq

end EnvironmentsStep

/-- **What a step does to the environments.** -/
theorem step_environments (policy) (s : State) (a : Action) :
    EnvironmentsStep policy s a (step policy s a).db := by
  have h := step_effect policy s a
  generalize step policy s a = s' at h
  cases h with
  | idle | tick | elsewhere | session | attach | reload | workspaceDone | retry | release =>
    exact .of_agree (.refl _ _)
  | revoke | expand | remove => exact .of_agree (agree_modify fun _ => rfl)
  | create _ _ _ _ _ hp =>
    refine .of_create hp (fun i ae hl => ?_) (agree_modify fun _ => rfl)
    exact lookup_modify_of_neg (lookup_insert_of_lookup hl) (lt_nextId hl).ne
  | createStateful _ _ _ _ _ _ _ _ hp _ _ hv =>
    obtain ⟨_, _, _, _, -, -, -, -, rfl⟩ := createAppVolume_eq_ok hv
    refine .of_create hp (fun i ae hl => ?_) ?_
    · exact lookup_modify_of_neg (lookup_modify_of_neg (lookup_insert_of_lookup hl)
        (lt_nextId hl).ne) (lt_nextId hl).ne
    · refine .modify (.modify (.refl _ _) ?_) ?_ <;> exact fun _ => rfl
  | branch _ j b => exact .of_modify (p := fun k _ => k = j) rfl fun _ _ _ _ => .branch b
  | update _ _ b _ _ j ae' new _ reserved _ hj hna hd =>
    refine ⟨fun i ae hl => ?_, fun i ae hn hl => absurd hl (not_lookup_modify (by simp [hn]))⟩
    by_cases hij : i = j
    · subst hij
      cases hl.symm.trans hj
      exact ⟨_, lookup_modify_of_pos (lookup_modify_of_pos hl rfl) rfl,
        .update b new reserved hna hd⟩
    · exact ⟨ae, lookup_modify_of_neg (lookup_modify_of_neg hl hij) hij, .report rfl⟩
  | delete _ _ _ j ae' hj hna hd =>
    refine .of_modify (p := fun k _ => k = j) rfl fun i ae hl hi => ?_
    subst hi
    cases hl.symm.trans hj
    exact .delete hna hd ⟨_, _, lookup_insert_self, rfl, rfl, rfl, rfl⟩
  | deploy _ j _ k _ ae' _ _ _ _ hj hna hd hn =>
    refine .of_modify (p := fun k _ => k = j) rfl fun i ae hl hi => ?_
    subst hi
    cases hl.symm.trans hj
    exact .desire hna hd hn ⟨_, lookup_insert_self, rfl⟩
  | report _ _ _ hr => exact .of_agree (sameCore_of_steps hr).environments
  | claim _ _ _ _ _ _ _ _ hs =>
    refine .of_agree ?_
    rw [(startWork_eq_ok hs).2.1]
    exact .refl _ _
  | volumeDone _ _ _ _ _ _ _ _ observed =>
    exact .of_agree (agree_modify fun ae => settleEnvironment_core ae observed)
  | environmentDone _ _ _ op message _ _ _ _ hdone =>
    exact .of_modify rfl fun _ _ _ hp => .archive op message hdone hp.1.symm hp.2.1 hp.2.2
  | deploymentDone _ _ _ op message _ specHash _ deploymentId d _ _ _ _ _ _ hdone hde he hd _ hc =>
    refine .of_modify rfl fun i ae _ hp => ?_
    cases he.symm.trans hp.1.symm
    exact .current op deploymentId d.releaseId message specHash hdone he hde hp.2
      ⟨_, lookup_modify_of_pos hd rfl, rfl⟩ ⟨d, hd, hc⟩
  | failed _ _ _ op _ message => exact .of_agree (reportFailure_rows _ op.2 message).1

/-- **What a step does to an environment.** -/
theorem step_environment (policy) (a : Action) (hl : s.db.appEnvironments.lookup i = some ae) :
    EnvironmentLives policy s a i ae (step policy s a).db :=
  (step_environments policy s a).lives i ae hl

/-- **An environment after a step** was there before, or is new: it has no deployment then, and is
not being deleted. -/
theorem environment_cases (policy) (a : Action) {ae' : AppEnvironment}
    (hl : (step policy s a).db.appEnvironments.lookup i = some ae') :
    (∃ ae, s.db.appEnvironments.lookup i = some ae ∧
      EnvironmentStep policy s a (step policy s a).db i ae ae') ∨ FreshEnvironment ae' := by
  cases hn : s.db.appEnvironments.lookup i with
  | none => exact .inr ((step_environments policy s a).new i ae' hn hl).2
  | some ae => exact .inl ⟨ae, rfl, of_found (step_environment policy a hn) hl⟩

/-- The version of an environment does not fall. -/
theorem EnvironmentStep.version_le {ae' : AppEnvironment}
    (h : EnvironmentStep policy s a db' i ae ae') : ae.version ≤ ae'.version := by
  cases h with
  | report h => exact (version_of_core h).ge
  | current | archive => exact le_rfl
  | _ => exact Nat.le_succ _

/-- An environment that is not archived was not. -/
theorem EnvironmentStep.archivedAt {ae' : AppEnvironment}
    (h : EnvironmentStep policy s a db' i ae ae') (hna : ae'.archivedAt = none) :
    ae.archivedAt = none := by
  cases h with
  | report h => exact (archivedAt_of_core h).symm.trans hna
  | archive => cases hna
  | _ => exact hna

/-! ### Deployments -/

/-- An active operation applies the deployment under `i`. -/
def BeingApplied (db : Db) (i : ℕ) : Prop :=
  ∃ k o, db.operations.lookup k = some o ∧ o.Active ∧ o.kind = .applyDeployment ∧
    o.deploymentId = some i

/-- What may happen to the deployment `d` under `i` in one step that leads to `db'`. -/
inductive DeploymentStep (policy : PublicationPolicy) (s : State) (a : Action) (db' : Db) (i : ℕ)
    (d : Deployment) : Deployment → Prop
  | same : DeploymentStep policy s a db' i d d
  /-- The operation on it was claimed. -/
  | start (startedAt : Option Time) (h : BeingApplied db' i) :
      DeploymentStep policy s a db' i d { d with status := .progressing, startedAt := startedAt }
  /-- The operation on it was completed. -/
  | ready (op : ClaimedOperation) (message release : String)
      (hdone : completed policy s a = some op) (hd : op.2.deploymentId = some i) :
      DeploymentStep policy s a db' i d (readyRow s.now message release d)
  /-- The operation on it was failed for good. -/
  | degrade (k : ℕ) (f : Operation → Call) (op : ClaimedOperation) (code message : String)
      (retry : Bool) (ha : a.call? = some (k, f)) (hk : s.held.lookup k = some op)
      (hf : f op.2 = .fail code message retry) (hl : Held s op) (hr : ¬ Retries op.2 retry)
      (hkind : op.2.kind = .applyDeployment) (hd : op.2.deploymentId = some i) :
      DeploymentStep policy s a db' i d
        { d with status := .degraded, message := message, completedAt := some s.now }

section DeploymentStep

variable {d d' : Deployment} (h : DeploymentStep policy s a db' i d d')

include h

theorem DeploymentStep.core : d'.core = d.core := by
  cases h <;> rfl

theorem DeploymentStep.of_ready (hr : d'.status = .ready) :
    d.status = .ready ∨ ∃ op ∈ completed policy s a, op.2.deploymentId = some i := by
  cases h with
  | same => exact .inl hr
  | start | degrade => cases hr
  | ready op _ _ hdone hd => exact .inr ⟨op, hdone, hd⟩

end DeploymentStep

/-- Claiming an operation on a deployment puts it in progress, and nothing else. -/
theorem startWork_deployment {o : Operation} (h : startWork now db o = .ok db')
    (hl : db.deployments.lookup i = some d) :
    db'.deployments.lookup i = some d ∨
      o.kind = .applyDeployment ∧ o.deploymentId = some i ∧
        ∃ t, db'.deployments.lookup i = some { d with status := .progressing, startedAt := t } := by
  rcases startWork_cases h with ⟨_, rfl⟩ | rfl | ⟨_, rfl⟩ | ⟨hk, rfl⟩
  · exact .inl hl
  · exact .inl hl
  · exact .inl hl
  · by_cases hi : some i = o.deploymentId
    · exact .inr ⟨hk, hi.symm, _, lookup_modify_of_pos hl hi⟩
    · exact .inl (lookup_modify_of_neg hl hi)

/-- The final failure of an operation on a deployment degrades it, and nothing else. -/
theorem reportFailure_deployment (o : Operation) (message : String)
    (hl : db.deployments.lookup i = some d) :
    (reportFailure now db o message).deployments.lookup i =
      some (if o.kind = .applyDeployment ∧ o.deploymentId = some i then
        { d with status := .degraded, message := message, completedAt := some now } else d) := by
  unfold reportFailure
  cases hk : o.kind with
  | applyDeployment =>
    by_cases hi : o.deploymentId = some i
    · rw [if_pos ⟨rfl, hi⟩]
      exact lookup_modify_of_pos hl hi.symm
    · rw [if_neg fun h => hi h.2]
      exact lookup_modify_of_neg hl fun h => hi h.symm
  | _ => exact hl

/-- Where the row of a new deployment comes from. -/
inductive NewDeployment (policy : PublicationPolicy) (s : State) : Action → Deployment → Prop
  | deploy (request : DeploymentRequest) (e releaseId k : ℕ) (ae : AppEnvironment)
      (revision : Revision) (claims : Table PublicationClaim) (reserved : RuntimeConfig)
      (volume : Option ℕ) (he : s.db.appEnvironments.lookup e = some ae)
      (hk : s.db.revisions.lookup k = some revision) (hke : revision.appEnvironmentId = e)
      (hkv : revision.version = request.configurationVersion)
      (hadopted : adopted s (.createDeployment request) = some (e, ae.workloadKind,
        inheritAllocatedPorts revision.configuration ae.configuration))
      (hr : reservePublicationClaims policy s.db.publicationClaims e revision.version
        ae.workloadKind (inheritAllocatedPorts revision.configuration ae.configuration) =
          .ok (claims, reserved))
      (hf : appEnvironmentForUpdate s.db request.workspaceId request.appEnvironmentPublicId =
        .ok (e, ae))
      (hvol : deploymentVolume s.db e ae.workloadKind = .ok volume) :
      NewDeployment policy s (.createDeployment request)
        (request.row e ae releaseId reserved volume)

/-- What a step does to the deployments. -/
structure DeploymentsStep (policy : PublicationPolicy) (s : State) (a : Action) (db' : Db) :
    Prop where
  lives : ∀ i d, s.db.deployments.lookup i = some d →
    ∃ d', db'.deployments.lookup i = some d' ∧ DeploymentStep policy s a db' i d d'
  new : ∀ i d, s.db.deployments.lookup i = none → db'.deployments.lookup i = some d →
    NewDeployment policy s a d ∧ BeingApplied db' i

theorem DeploymentsStep.of_eq (h : db'.deployments = s.db.deployments) :
    DeploymentsStep policy s a db' where
  lives _ d hl := ⟨d, h ▸ hl, .same⟩
  new _ _ hn hl := by simp [h, hn] at hl

/-- **What a step does to the deployments**, with the cause. Only `createDeployment` makes one,
together with the operation that applies it. -/
theorem step_deployments (policy) (s : State) (a : Action) :
    DeploymentsStep policy s a (step policy s a).db := by
  have h := step_effect policy s a
  generalize step policy s a = s' at h
  cases h with
  | createStateful _ _ _ _ _ _ _ _ _ _ _ hv =>
    obtain ⟨_, _, _, _, -, -, -, -, rfl⟩ := createAppVolume_eq_ok hv
    exact .of_eq rfl
  | deploy request e releaseId k _ ae revision claims reserved volume he _ _ _ hk hke hkv hadopted
      hr _ hf _ hvol =>
    refine ⟨fun _ d hl => ⟨d, lookup_insert_of_lookup hl, .same⟩, fun i d hn hl => ?_⟩
    rcases lookup_insert_eq_some.mp hl with ⟨rfl, rfl⟩ | hl
    · exact ⟨.deploy request e releaseId k ae revision claims reserved volume he hk hke hkv hadopted
        hr hf hvol, _, _, lookup_insert_self, .inl rfl, rfl, rfl⟩
    · exact nomatch hn.symm.trans hl
  | report _ _ _ hr => exact .of_eq (by rw [(sameCore_of_steps hr).rest])
  | claim worker _ lease j o _ hj _ hs =>
    refine ⟨fun i d hl => ?_, fun _ _ hn hl => absurd hl ((startWork_rows hs).1.not_lookup hn)⟩
    rcases startWork_deployment hs hl with hd | ⟨hk, hd, t, hd'⟩
    · exact ⟨d, hd, .same⟩
    · refine ⟨_, hd', .start t ⟨j, claimRow s.now lease worker o, ?_, .inr rfl, hk, hd⟩⟩
      rw [(startWork_eq_ok hs).1]
      exact lookup_modify_of_pos hj rfl
  | deploymentDone _ _ _ op message release _ _ deploymentId _ _ _ _ _ _ _ hdone hde =>
    refine ⟨fun i d hl => exists_lookup_modify (p := fun i _ => i = deploymentId) hl .same ?_,
      fun _ _ hn hl => absurd hl (not_lookup_modify hn)⟩
    rintro rfl
    exact .ready op message release hdone hde
  | failed _ k f op code message retry ha hk hf hheld hr =>
    refine ⟨fun i d hl => ⟨_, reportFailure_deployment op.2 message hl, ?_⟩,
      fun _ _ hn hl => absurd hl ((reportFailure_rows _ op.2 message).2.1.not_lookup hn)⟩
    split_ifs with hd
    · exact .degrade k f op code message retry ha hk hf hheld hr hd.1 hd.2
    · exact .same
  | _ => exact .of_eq rfl

theorem step_deployment_cases (policy) (a : Action) (hl : s.db.deployments.lookup i = some d) :
    ∃ d', (step policy s a).db.deployments.lookup i = some d' ∧
      DeploymentStep policy s a (step policy s a).db i d d' :=
  (step_deployments policy s a).lives i d hl

theorem newDeployment_of_step (policy) (a : Action) (hn : s.db.deployments.lookup i = none)
    (hl : (step policy s a).db.deployments.lookup i = some d) :
    NewDeployment policy s a d ∧ BeingApplied (step policy s a).db i :=
  (step_deployments policy s a).new i d hn hl

/-- What may happen to the deployment under `i` in one step: it stays what it is, and it becomes
ready only if the operation on it was completed. -/
def DeploymentLives (policy : PublicationPolicy) (s : State) (a : Action) (i : ℕ)
    (d : Deployment) (t : Table Deployment) : Prop :=
  ∃ d', t.lookup i = some d' ∧ d'.core = d.core ∧
    (d'.status = .ready → d.status = .ready ∨
      ∃ op ∈ completed policy s a, op.2.deploymentId = some i)

/-- **What a step does to a deployment.** -/
theorem step_deployment (policy) (a : Action) (hl : s.db.deployments.lookup i = some d) :
    DeploymentLives policy s a i d (step policy s a).db.deployments := by
  obtain ⟨d', hl', hstep⟩ := step_deployment_cases policy a hl
  exact ⟨d', hl', hstep.core, hstep.of_ready⟩

/-- A new deployment is `Pending`, and an operation applies it. -/
theorem step_new_deployment_applied (policy) (a : Action) (hn : s.db.deployments.lookup i = none)
    (hl : (step policy s a).db.deployments.lookup i = some d) :
    d.status = .pending ∧ BeingApplied (step policy s a).db i ∧
      ∀ j ∈ d.appVolumeId, ∃ v, s.db.appVolumes.lookup j = some v ∧
        v.appEnvironmentId = d.appEnvironmentId ∧ v.deletionRequestedAt = none := by
  obtain ⟨⟨⟩, happlied⟩ := newDeployment_of_step policy a hn hl
  rename_i hvol
  exact ⟨rfl, happlied, fun j hj => volume_of_deploymentVolume hvol hj⟩

/-! ### Volumes -/

/-- What may happen to the volume under `i` in one step that leads to `db'`. -/
inductive VolumeStep (s : State) (db' : Db) (i : ℕ) (v : AppVolume) : AppVolume → Prop
  /-- Nothing, or what is reported of it changes. -/
  | report {v' : AppVolume} (h : v'.core = v.core) : VolumeStep s db' i v v'
  | expand (size : ℤ) (hd : v.deletionRequestedAt = none) : VolumeStep s db' i v (expandRow size v)
  | remove (hd : v.deletionRequestedAt = none)
      (hq : Queued db' .deleteVolume v.appEnvironmentId (some i)) :
      VolumeStep s db' i v (removeRow s.now v)

/-- The operation is about the volume under `i`, or deploys something that mounts it. -/
def Concerns (s : State) (o : Operation) (i : ℕ) : Prop :=
  o.appVolumeId = some i ∨
    ∃ d ∈ o.deploymentId.bind s.db.deployments.lookup, d.appVolumeId = some i

/-- The size of the volume under `i` may be written: an operation that concerns it is completed,
or an Agent reports. -/
def SizeMayChange (policy : PublicationPolicy) (s : State) (a : Action) (i : ℕ) : Prop :=
  (∃ op ∈ completed policy s a, Concerns s op.2 i) ∨ ∃ ids heartbeat, a = .reconcile ids heartbeat

/-- The volume under `i` is still there, and its size was only written when it may be. -/
def VolumeLives (policy : PublicationPolicy) (s : State) (a : Action) (i : ℕ) (v : AppVolume)
    (db' : Db) : Prop :=
  ∃ v', db'.appVolumes.lookup i = some v' ∧ VolumeStep s db' i v v' ∧
    (v'.observedSizeGiB = v.observedSizeGiB ∨ SizeMayChange policy s a i)

/-- What is known of a volume that a step from `s` to `db'` added under `i`. -/
structure NewVolume (s : State) (db' : Db) (i : ℕ) (v : AppVolume) : Prop where
  id : i = s.db.appVolumes.nextId
  version : v.version = 1
  kept : v.deletionRequestedAt = none
  /-- The other volumes of its environment are being removed. -/
  alone : ∀ j w, s.db.appVolumes.lookup j = some w → w.appEnvironmentId = v.appEnvironmentId →
    w.deletionRequestedAt ≠ none
  queued : ∃ k o, db'.operations.lookup k = some o ∧ o.appVolumeId = some i

/-- What a step does to the volumes. -/
structure VolumesStep (policy : PublicationPolicy) (s : State) (a : Action) (db' : Db) : Prop where
  lives : ∀ i v, s.db.appVolumes.lookup i = some v → VolumeLives policy s a i v db'
  new : ∀ i v, s.db.appVolumes.lookup i = none → db'.appVolumes.lookup i = some v →
    NewVolume s db' i v

theorem VolumesStep.of_agree
    (h : Table.Agree (fun v => (v.core, v.observedSizeGiB)) s.db.appVolumes db'.appVolumes) :
    VolumesStep policy s a db' where
  lives _ _ hl := by
    obtain ⟨v', hl', hc⟩ := h.exists_lookup hl
    exact ⟨v', hl', .report (congrArg Prod.fst hc), .inl (congrArg Prod.snd hc)⟩
  new _ _ hn hl := absurd hl (h.not_lookup hn)

theorem VolumesStep.of_modify {p : ℕ → AppVolume → Prop} {_ : ∀ i v, Decidable (p i v)}
    {f : AppVolume → AppVolume} (ht : db'.appVolumes = s.db.appVolumes.modify p f)
    (hf : ∀ i v, s.db.appVolumes.lookup i = some v → p i v → VolumeStep s db' i v (f v) ∧
      ((f v).observedSizeGiB = v.observedSizeGiB ∨ SizeMayChange policy s a i)) :
    VolumesStep policy s a db' where
  lives i v hl := by
    rw [VolumeLives, ht]
    exact exists_lookup_modify hl ⟨.report rfl, .inl rfl⟩ (hf i v hl)
  new _ _ hn hl := absurd (ht ▸ hl) (not_lookup_modify hn)

/-- **What a step does to the volumes.** A volume is only made with its environment. -/
theorem step_volumes (policy) (s : State) (a : Action) :
    VolumesStep policy s a (step policy s a).db := by
  have h := step_effect policy s a
  generalize step policy s a = s' at h
  cases h with
  | createStateful _ _ _ _ _ _ _ _ _ _ _ hv =>
    obtain ⟨_, _, _, _, ho, -, rfl, -, rfl⟩ := createAppVolume_eq_ok hv
    refine ⟨fun _ v hl => ⟨v, lookup_insert_of_lookup hl, .report rfl, .inl rfl⟩,
      fun i v hn hl => ?_⟩
    rcases lookup_insert_eq_some.mp hl with ⟨rfl, rfl⟩ | hl
    · refine ⟨rfl, rfl, rfl, fun j w hj he hd => ?_, _, _, lookup_insert_self, rfl⟩
      exact ho (any_iff.mpr ⟨j, w, hj, .inr ⟨he, hd⟩⟩)
    · exact nomatch hn.symm.trans hl
  | expand _ size _ _ j v' hv =>
    refine .of_modify (p := fun k _ => k = j) rfl ?_
    rintro _ v hl rfl
    obtain ⟨hj, -, -, -, hd⟩ := volumeForChange_eq_ok hv
    cases hl.symm.trans hj
    exact ⟨.expand size hd, .inl rfl⟩
  | remove _ _ _ j v' hv =>
    refine .of_modify (p := fun k _ => k = j) rfl ?_
    rintro _ v hl rfl
    obtain ⟨hj, -, -, -, hd⟩ := volumeForChange_eq_ok hv
    cases hl.symm.trans hj
    exact ⟨.remove hd ⟨_, _, lookup_insert_self, rfl, rfl, rfl, rfl⟩, .inl rfl⟩
  | report ids heartbeat _ hr =>
    have hs := (sameCore_of_steps hr).volumes
    refine ⟨fun i v hl => ?_, fun _ _ hn hl => absurd hl (hs.not_lookup hn)⟩
    obtain ⟨v', hl', hv⟩ := hs.exists_lookup hl
    exact ⟨v', hl', .report hv, .inr (.inr ⟨ids, heartbeat, rfl⟩)⟩
  | claim _ _ _ _ _ _ _ _ hs => exact .of_agree (startWork_rows hs).2.2
  | volumeDone _ k _ op _ _ _ _ _ _ _ _ _ _ hdone =>
    exact .of_modify (p := fun k _ => some k = op.2.appVolumeId) rfl fun i v _ hp =>
      ⟨.report rfl, .inr (.inl ⟨op, hdone, .inl hp.symm⟩)⟩
  | deploymentDone _ k _ op _ _ _ _ _ d _ _ _ _ _ _ hdone hde _ hd hv =>
    rcases hv with rfl | ⟨_, -, rfl⟩
    · exact .of_agree (.refl _ _)
    · exact .of_modify (p := fun k _ => some k = d.appVolumeId) rfl fun i v _ hp =>
        ⟨.report rfl, .inr (.inl ⟨op, hdone, .inr ⟨d, by rw [hde]; exact hd, hp.symm⟩⟩)⟩
  | failed _ _ _ op _ message => exact .of_agree (reportFailure_rows _ op.2 message).2.2.2
  | _ => exact .of_agree (.refl _ _)

theorem step_volume (policy) (a : Action) {v : AppVolume} (hl : s.db.appVolumes.lookup i = some v) :
    VolumeLives policy s a i v (step policy s a).db :=
  (step_volumes policy s a).lives i v hl

/-! ### Hostnames -/

/-- What may happen to the publication claims in one step that leads to `db'`. -/
inductive ClaimsStep (policy : PublicationPolicy) (s : State) (a : Action) (db' : Db) : Prop
  | same (h : db'.publicationClaims = s.db.publicationClaims)
  /-- A configuration was reserved, for a new environment or one that is there. -/
  | reserve (i v : ℕ) (kind : WorkloadKind) (configuration reserved : RuntimeConfig)
      (h : reservePublicationClaims policy s.db.publicationClaims i v kind configuration =
        .ok (db'.publicationClaims, reserved))
      (ha : adopted s a = some (i, kind, configuration) ∨ s.db.appEnvironments.lookup i = none)
  /-- A deployment was completed. If it is still desired, it is current now. -/
  | activate (op : ClaimedOperation) (j : ℕ) (d : Deployment)
      (hdone : completed policy s a = some op) (hde : op.2.deploymentId = some j)
      (he : op.2.appEnvironmentId = some d.appEnvironmentId)
      (hd : s.db.deployments.lookup j = some d)
      (hw : ∀ ae, s.db.appEnvironments.lookup d.appEnvironmentId = some ae →
        ae.desiredDeploymentId = some j →
        ∃ ae', db'.appEnvironments.lookup d.appEnvironmentId = some ae' ∧
          ae'.currentDeploymentId = some j)
      (h : activatePublicationClaims policy s.db.publicationClaims d.appEnvironmentId
        d.configurationVersion d.workloadKind d.configuration = .ok db'.publicationClaims)
  /-- An environment was archived. -/
  | archive (op : ClaimedOperation) (hdone : completed policy s a = some op)
      (hw : ∃ e ae', op.2.appEnvironmentId = some e ∧ db'.appEnvironments.lookup e = some ae' ∧
        ae'.archivedAt ≠ none)
      (h : db'.publicationClaims = s.db.publicationClaims.delete fun _ c =>
        some c.appEnvironmentId = op.2.appEnvironmentId)

/-- **What a step does to the publication claims.** -/
theorem step_claims (policy) (s : State) (a : Action) :
    ClaimsStep policy s a (step policy s a).db := by
  have h := step_effect policy s a
  generalize step policy s a = s' at h
  cases h with
  | create _ _ _ _ _ _ _ ha => exact .reserve _ _ _ _ _ ha.reserves (.inr (lookup_nextId _))
  | createStateful _ _ _ _ _ _ _ _ _ _ ha hv =>
    obtain ⟨_, _, _, _, -, -, -, -, rfl⟩ := createAppVolume_eq_ok hv
    exact .reserve _ _ _ _ _ ha.reserves (.inr (lookup_nextId _))
  | update _ _ _ _ _ _ _ _ _ _ _ _ _ _ _ ha had =>
    exact .reserve _ _ _ _ _ ha.reserves (.inl had)
  | deploy _ _ _ _ _ _ _ _ _ _ _ _ _ _ _ _ _ had hr =>
    exact .reserve _ _ _ _ _ hr (.inl had)
  | report _ _ _ hr =>
    refine .same ?_
    rw [(sameCore_of_steps hr).rest]
  | claim _ _ _ _ _ _ _ _ hs => exact .same (startWork_eq_ok hs).2.2.1
  | environmentDone _ _ _ op _ _ _ _ _ hdone hd =>
    obtain ⟨e, _, hl, hdel⟩ := any_iff.mp hd
    exact .archive op hdone ⟨e, _, hdel.1.symm, lookup_modify_of_pos hl hdel, nofun⟩ rfl
  | deploymentDone _ _ _ op _ _ _ _ deploymentId d _ _ _ _ _ _ hdone hde he hd _ hc =>
    exact .activate op deploymentId d hdone hde he hd
      (fun ae hl hdes => ⟨_, lookup_modify_of_pos hl ⟨he.symm, hdes⟩, rfl⟩) hc
  | failed _ _ _ op _ message => exact .same (reportFailure_frame op.2 message).2.1
  | _ => exact .same rfl

theorem ClaimsStep.unique (h : ClaimsStep policy s a db')
    (hu : HostnamesUnique s.db.publicationClaims) : HostnamesUnique db'.publicationClaims := by
  cases h with
  | same h => exact h ▸ hu
  | reserve _ _ _ _ _ h => exact (reservePublicationClaims_registry hu h).1
  | activate _ _ _ _ _ _ _ _ h => exact (activatePublicationClaims_registry hu h).1
  | archive _ _ _ h =>
    rw [h]
    exact keyUnique_delete hu

theorem ClaimsStep.rowsValid (h : ClaimsStep policy s a db')
    (hu : HostnamesUnique s.db.publicationClaims)
    (hv : RowsValid (registry s.db.publicationClaims)) :
    RowsValid (registry db'.publicationClaims) := by
  cases h with
  | same h => exact h ▸ hv
  | reserve _ _ _ _ _ h =>
    obtain ⟨-, _, hr, hreg⟩ := reservePublicationClaims_registry hu h
    rw [hreg]
    exact rowsValid_released (hr.rowsValid hv)
  | activate _ _ _ _ _ _ _ _ h =>
    obtain ⟨-, _, hr, hreg⟩ := activatePublicationClaims_registry hu h
    rw [hreg]
    exact fun hostname c hc => hr.rowsValid hv hostname c (Option.filter_eq_some_iff.mp hc).1
  | archive _ _ _ h =>
    rw [h, withdraw_registry hu]
    exact fun hostname c hc => hv hostname c (Option.filter_eq_some_iff.mp hc).1

/-- What is served under a hostname changes only when an operation of its environment is
completed. -/
theorem ClaimsStep.live_eq (h : ClaimsStep policy s a db')
    (hu : HostnamesUnique s.db.publicationClaims) (hostname : String) :
    live (registry db'.publicationClaims) hostname =
        live (registry s.db.publicationClaims) hostname ∨
      ∃ op ∈ completed policy s a, (∀ x ∈ live (registry s.db.publicationClaims) hostname,
          op.2.appEnvironmentId = some x.1) ∧
        ∀ x ∈ live (registry db'.publicationClaims) hostname, op.2.appEnvironmentId = some x.1 := by
  cases h with
  | same h => exact .inl (by rw [h])
  | reserve _ _ _ _ _ h =>
    obtain ⟨-, _, hr, hreg⟩ := reservePublicationClaims_registry hu h
    rw [hreg, live_released, hr.live_eq]
    exact .inl rfl
  | activate op _ _ hdone _ he _ _ h =>
    obtain ⟨-, _, hr, hreg⟩ := activatePublicationClaims_registry hu h
    rw [hreg]
    rcases hr.live_other hostname with hl | ⟨hb, ha⟩
    · exact .inl hl
    · refine .inr ⟨op, hdone, fun x hx => ?_, fun x hx => ?_⟩
      · rw [he, hb x hx]
      · rw [he, ha x hx]
  | archive op hdone _ h =>
    rw [h, withdraw_registry hu]
    rcases live_withdrawn hostname with hl | ⟨hb, ha⟩
    · exact .inl hl
    · exact .inr ⟨op, hdone, hb, ha⟩

/-! ### New operations -/

/-- What an action may insert: an operation, with what was known when it did. -/
inductive Inserted (s : State) : Action → Operation → Prop
  | attach (request : Attachment) (new : NewOperation) (cluster : ℕ)
      (hk : new.kind = .ensureWorkspace) (hc : ClusterActive s.db cluster) :
      Inserted s (.attachWorkspaceCluster request) (new.row s.now cluster)
  | create (request : NewAppEnvironment) (new : NewOperation) (cluster : ℕ)
      (hk : new.kind = .ensureVolume) (he : new.appEnvironmentId = some s.db.appEnvironments.nextId)
      (hc : ClusterActive s.db cluster) :
      Inserted s (.createAppEnvironment request) (new.row s.now cluster)
  | delete (request : EnvironmentDeletion) (principalId cluster e : ℕ) (ae : AppEnvironment)
      (hf : appEnvironmentForUpdate s.db request.workspaceId request.publicId = .ok (e, ae))
      (hc : ae.clusterId = some cluster) :
      Inserted s (.deleteAppEnvironment request)
        ((request.operation principalId e ae).row s.now cluster)
  | expand (change : VolumeChange) (size : ℤ) (principalId cluster j : ℕ) (v : AppVolume)
      (hv : volumeForChange s.db change = .ok (j, v))
      (hc : PlacedOn s.db v.appEnvironmentId cluster) :
      Inserted s (.expandAppVolume change size)
        ((change.operation principalId j v .expandVolume).row s.now cluster)
  | remove (change : VolumeChange) (principalId cluster j : ℕ) (v : AppVolume)
      (hv : volumeForChange s.db change = .ok (j, v))
      (hc : PlacedOn s.db v.appEnvironmentId cluster) :
      Inserted s (.deleteAppVolume change)
        ((change.operation principalId j v .deleteVolume).row s.now cluster)
  | deploy (request : DeploymentRequest) (e cluster : ℕ) (ae : AppEnvironment)
      (hf : appEnvironmentForUpdate s.db request.workspaceId request.appEnvironmentPublicId =
        .ok (e, ae))
      (hc : ae.clusterId = some cluster) :
      Inserted s (.createDeployment request)
        ((request.operation e ae s.db.deployments.nextId).row s.now cluster)
  /-- A snapshot has found a volume drifted. -/
  | ensureVolume (ids : ℕ → String) (heartbeat : Heartbeat) (new : NewOperation) (cluster : ℕ)
      (hh : heartbeat.complete = true) (hk : new.kind = .ensureVolume)
      (hc : ClusterActive s.db cluster) :
      Inserted s (.reconcile ids heartbeat) (new.row s.now cluster)
  /-- A snapshot has found a deployment drifted. -/
  | applyDeployment (ids : ℕ → String) (heartbeat : Heartbeat) (new : NewOperation)
      (cluster e : ℕ) (ae : AppEnvironment) (hh : heartbeat.complete = true)
      (hk : new.kind = .applyDeployment) (he : new.appEnvironmentId = some e)
      (hae : s.db.appEnvironments.lookup e = some ae) (ha : ae.archivedAt = none)
      (hd : ae.deletionRequestedAt = none) (hde : new.deploymentId = ae.desiredDeploymentId)
      (hc : ClusterActive s.db cluster) :
      Inserted s (.reconcile ids heartbeat) (new.row s.now cluster)

variable {k : ℕ} {o : Operation}

/-- What a report inserts. -/
theorem inserted_of_report {ids : ℕ → String} {heartbeat : Heartbeat} {db' : Db}
    (h : ReflTransGen (ReportStep s.now heartbeat.observations) s.db db')
    (hh : heartbeat.complete = true) (hn : s.db.operations.lookup k = none)
    (hl : db'.operations.lookup k = some o) : Inserted s (.reconcile ids heartbeat) o := by
  induction h with
  | refl =>
    rw [hn] at hl
    cases hl
  | @tail db₁ _ hsteps hs ih =>
    have hcore := sameCore_of_steps hsteps
    have hback {cluster : ℕ} (hc : ClusterActive db₁ cluster) : ClusterActive s.db cluster := by
      unfold ClusterActive at hc
      rw [hcore.rest] at hc
      exact hc
    cases hs with
    | environments => exact ih hl
    | volumes => exact ih hl
    | ensureVolume new cluster _ _ _ _ hk _ _ _ _ hc =>
      rcases lookup_insert_eq_some.mp hl with ⟨-, rfl⟩ | hl
      · exact .ensureVolume ids heartbeat new cluster hh hk (hback hc)
      · exact ih hl
    | applyDeployment new cluster e _ _ hae ha hd hdep hk he hde _ _ hc =>
      rcases lookup_insert_eq_some.mp hl with ⟨-, rfl⟩ | hl
      · obtain ⟨ae₀, hae₀, heq⟩ := hcore.environments.symm.exists_lookup hae
        exact .applyDeployment ids heartbeat new cluster e ae₀ hh hk he hae₀
          ((archivedAt_of_core heq).trans ha) ((deletionRequestedAt_of_core heq).trans hd)
          (hde.trans ((desired_of_core heq).trans hdep).symm) (hback hc)
      · exact ih hl

end Molejo.Store
