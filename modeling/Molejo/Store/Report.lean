import Molejo.Store.Observation

/-!
# What a report does, write by write

A report of an Agent is one transaction, but it may touch many rows: it records what
was seen of each object and queues an operation for each that has drifted. This file
takes the transaction apart. Each write is a `ReportStep`, which says what the write
does to the database it is applied to and what was known of the row then;
`reconcileAgentObservations_steps` says that a committed report is a sequence of
such writes. An invariant of the store therefore only has to be checked for one write
at a time.

Most writes are harmless: they change what is *reported* of an environment or a
volume and keep the rest, which is what `AppEnvironment.core` and `AppVolume.core`
express.
-/

namespace Molejo.Store

open Transaction Relation Table

variable {seen : List RuntimeObservation} {cluster : ℕ} {heartbeat : Heartbeat}
  {targets : List DriftTarget}

/-! ### The writes -/

/-- One of the objects is the volume with this public id, in this state. -/
def Shown (os : List RuntimeObservation) (publicId : String) (state : VolumeState) : Prop :=
  ∃ o ∈ os, o.kind ≠ "AppDeployment" ∧ o.name = publicId ∧
    VolumeState.ofString? o.state = some state

/-- One write of a report of the objects `os`. -/
inductive ReportStep (now : Time) (os : List RuntimeObservation) (db : Db) : Db → Prop
  /-- What is reported of environments changes. -/
  | environments (p : ℕ → AppEnvironment → Prop) [∀ i ae, Decidable (p i ae)]
      (f : AppEnvironment → AppEnvironment) (hf : ∀ ae, (f ae).core = ae.core) :
      ReportStep now os db { db with appEnvironments := db.appEnvironments.modify p f }
  /-- What is reported of volumes changes. -/
  | volumes (p : ℕ → AppVolume → Prop) [∀ i v, Decidable (p i v)]
      (f : AppVolume → AppVolume) (hf : ∀ v, (f v).core = v.core)
      (hs : ∀ i v, p i v → (f v).observedState = v.observedState ∨
        Shown os v.publicId (f v).observedState) :
      ReportStep now os db { db with appVolumes := db.appVolumes.modify p f }
  /-- A volume that is not being removed is provisioned again. -/
  | ensureVolume (new : NewOperation) (cluster volumeId : ℕ) (v : AppVolume)
      (hv : db.appVolumes.lookup volumeId = some v) (hd : v.deletionRequestedAt = none)
      (hk : new.kind = .ensureVolume) (he : new.appEnvironmentId = some v.appEnvironmentId)
      (hvol : new.appVolumeId = some volumeId)
      (hu : ∃ u row, new.requestedByUserId = some u ∧ db.users.lookup u = some row)
      (hi : Insertable db.operations (new.row now cluster)) (hc : ClusterActive db cluster) :
      ReportStep now os db { db with operations := db.operations.insert (new.row now cluster) }
  /-- The desired deployment of an environment is applied again, for the version the environment
  has. -/
  | applyDeployment (new : NewOperation) (cluster appEnvironmentId deploymentId : ℕ)
      (ae : AppEnvironment) (hae : db.appEnvironments.lookup appEnvironmentId = some ae)
      (ha : ae.archivedAt = none) (hd : ae.deletionRequestedAt = none)
      (hdep : ae.desiredDeploymentId = some deploymentId)
      (hk : new.kind = .applyDeployment) (he : new.appEnvironmentId = some appEnvironmentId)
      (hde : new.deploymentId = some deploymentId) (hv : new.desiredVersion = ae.version)
      (hi : Insertable db.operations (new.row now cluster)) (hc : ClusterActive db cluster) :
      ReportStep now os db { db with operations := db.operations.insert (new.row now cluster) }

/-- What every write of a report keeps. -/
structure SameCore (db db' : Db) : Prop where
  environments : Table.Agree AppEnvironment.core db.appEnvironments db'.appEnvironments
  volumes : Table.Agree AppVolume.core db.appVolumes db'.appVolumes
  rest : db' =
    { db with
      appEnvironments := db'.appEnvironments
      appVolumes := db'.appVolumes
      operations := db'.operations }

theorem SameCore.refl (db : Db) : SameCore db db := ⟨.refl _ _, .refl _ _, rfl⟩

theorem SameCore.trans {a b c : Db} (h : SameCore a b) (h' : SameCore b c) : SameCore a c := by
  refine ⟨h.environments.trans h'.environments, h.volumes.trans h'.volumes, ?_⟩
  rw [h'.rest, h.rest]

theorem ReportStep.sameCore {now : Time} {os : List RuntimeObservation} {db db' : Db}
    (h : ReportStep now os db db') : SameCore db db' := by
  cases h with
  | environments _ _ hf => exact ⟨agree_modify hf, .refl _ _, rfl⟩
  | volumes _ _ hf => exact ⟨.refl _ _, agree_modify hf, rfl⟩
  | ensureVolume | applyDeployment => exact ⟨.refl _ _, .refl _ _, rfl⟩

theorem sameCore_of_steps {now : Time} {os : List RuntimeObservation} {db db' : Db}
    (h : ReflTransGen (ReportStep now os) db db') : SameCore db db' := by
  induction h with
  | refl => exact .refl db
  | tail _ hs ih => exact ih.trans hs.sameCore

/-! ### Recording -/

section Recording

variable {now : Time} {os : List RuntimeObservation} {db : Db} {clusterId : ℕ}

theorem observe_steps (o : RuntimeObservation)
    (h : ∀ state, o.kind ≠ "AppDeployment" → VolumeState.ofString? o.state = some state →
      Shown os o.name state) :
    ReflTransGen (ReportStep now os) db (observe now clusterId db o) := by
  unfold observe
  split
  · split
    · rename_i state _
      exact .tail
        (.single (.environments (fun _ ae => RunsAs db clusterId o.namespaceName o.name ae)
          (seenRow now o) fun _ => rfl))
        (.environments (fun i ae => RunsAs db clusterId o.namespaceName o.name ae ∧
          ¬ HasActiveOperation db.operations i) (reportedRow state o.message) fun _ => rfl)
    · exact .refl
  · rename_i hk
    split
    · rename_i state hs
      refine .single (.volumes _ (observedRow state o) (fun _ => rfl) fun i v hv => .inr ?_)
      rw [hv.1]
      exact h state hk hs
    · exact .refl

theorem foldl_observe_steps (clusterId : ℕ) (h : ∀ o ∈ seen, ∀ state, o.kind ≠ "AppDeployment" →
      VolumeState.ofString? o.state = some state → Shown os o.name state) :
    ReflTransGen (ReportStep now os) db (seen.foldl (observe now clusterId) db) := by
  induction seen generalizing db with
  | nil => exact .refl
  | cons o _ ih =>
    exact (observe_steps o (h o List.mem_cons_self)).trans
      (ih fun p hp => h p (List.mem_cons_of_mem o hp))

/-- Normalising a report leaves kinds, names and states alone. -/
theorem shown_of_normalized (h : normalizeRuntimeObservations os = .ok seen) :
    ∀ o ∈ seen, ∀ state, o.kind ≠ "AppDeployment" →
      VolumeState.ofString? o.state = some state → Shown os o.name state := by
  simp only [normalizeRuntimeObservations, ok_iff] at h
  obtain ⟨-, rfl⟩ := h
  intro o ho state hk hs
  obtain ⟨o₀, ho₀, rfl⟩ := List.mem_map.mp ho
  exact ⟨o₀, ho₀, hk, rfl, hs⟩

end Recording

/-! ### Queueing -/

section Queueing

variable {now : Time} {os : List RuntimeObservation} {db db' : Db} {clusterId : ℕ}
  {target : DriftTarget}

/-- The target is a volume that is not being removed. -/
def VolumeTarget (db : Db) (target : DriftTarget) : Prop :=
  ∃ v, db.appVolumes.lookup target.subjectId = some v ∧ v.deletionRequestedAt = none ∧
    v.appEnvironmentId = target.environmentId

/-- The target is the desired deployment of an environment that is neither archived nor being
deleted, under the version the environment has. -/
def DeploymentTarget (db : Db) (target : DriftTarget) : Prop :=
  ∃ ae, db.appEnvironments.lookup target.environmentId = some ae ∧ ae.archivedAt = none ∧
    ae.deletionRequestedAt = none ∧ ae.desiredDeploymentId = some target.subjectId ∧
    ae.version = target.desiredVersion

theorem ClusterActive.of_sameCore (h : ClusterActive db cluster) (hs : SameCore db db') :
    ClusterActive db' cluster := by
  unfold ClusterActive
  rw [hs.rest]
  exact h

/-- A heartbeat is accepted from an active cluster only. -/
theorem sessionOf_active (h : sessionOf db heartbeat = .ok cluster) : ClusterActive db cluster := by
  simp only [sessionOf, ok_iff] at h
  obtain ⟨r, hr, -, rfl⟩ := h
  exact ⟨r.2, lookup_of_first hr, (pos_of_first hr).2⟩

/-- The environment is on an active cluster. -/
def OnActiveCluster (db : Db) (appEnvironmentId : ℕ) : Prop :=
  ∃ cluster, PlacedOn db appEnvironmentId cluster ∧ ClusterActive db cluster

theorem OnActiveCluster.of_sameCore {e : ℕ} (h : OnActiveCluster db e) (hs : SameCore db db') :
    OnActiveCluster db' e := by
  obtain ⟨cluster, hp, ha⟩ := h
  obtain ⟨_, hae, hcl⟩ := Option.bind_eq_some_iff.mp hp
  obtain ⟨_, hae', hc⟩ := hs.environments.exists_lookup hae
  refine ⟨cluster, ?_, ha.of_sameCore hs⟩
  rw [PlacedOn, hae']
  exact (congrArg AppEnvironment.clusterId hc :).trans hcl

theorem OnActiveCluster.active {e : ℕ} (h : OnActiveCluster db e) (hp : PlacedOn db e cluster) :
    ClusterActive db cluster := by
  have ha := of_found h hp
  exact ha

theorem VolumeTarget.of_sameCore (h : VolumeTarget db target) (hs : SameCore db db') :
    VolumeTarget db' target := by
  obtain ⟨_, hv, hd, he⟩ := h
  obtain ⟨v', hv', hc⟩ := hs.volumes.exists_lookup hv
  exact ⟨v', hv', (congrArg AppVolume.deletionRequestedAt hc).trans hd,
    (congrArg AppVolume.appEnvironmentId hc).trans he⟩

theorem DeploymentTarget.of_sameCore (h : DeploymentTarget db target) (hs : SameCore db db') :
    DeploymentTarget db' target := by
  obtain ⟨_, hae, ha, hd, hdep, hv⟩ := h
  obtain ⟨ae', hae', hc⟩ := hs.environments.exists_lookup hae
  exact ⟨ae', hae', (congrArg AppEnvironment.archivedAt hc).trans ha,
    (congrArg AppEnvironment.deletionRequestedAt hc).trans hd,
    (congrArg AppEnvironment.desiredDeploymentId hc).trans hdep,
    (congrArg AppEnvironment.version hc).trans hv⟩

theorem volumeTarget_of_mem (h : volumeDriftCandidates db clusterId = .ok targets)
    (ht : target ∈ targets) :
    VolumeTarget db target ∧ PlacedOn db target.environmentId clusterId := by
  obtain ⟨⟨_, v⟩, hr, htarget⟩ := mem_of_mapM_eq_ok h ht
  obtain ⟨hv, ⟨ae, hae, hcl, -⟩, -, hd, -⟩ := mem_select.mp hr
  simp only [volumeTarget, ok_iff] at htarget
  obtain ⟨_, -, _, -, rfl⟩ := htarget
  exact ⟨⟨v, hv, hd, rfl⟩, Option.bind_eq_some_iff.mpr ⟨ae, hae, hcl⟩⟩

theorem deploymentTarget_of_mem (h : deploymentDriftCandidates db clusterId = .ok targets)
    (ht : target ∈ targets) :
    DeploymentTarget db target ∧ PlacedOn db target.environmentId clusterId := by
  obtain ⟨⟨_, ae⟩, hr, htarget⟩ := mem_of_mapM_eq_ok h ht
  obtain ⟨hae, hcl, ha, hd, -⟩ := mem_select.mp hr
  simp only [deploymentTarget, ok_iff] at htarget
  obtain ⟨_, hdep, _, -, _, -, rfl⟩ := htarget
  exact ⟨⟨ae, hae, ha, hd, hdep, rfl⟩, Option.bind_eq_some_iff.mpr ⟨ae, hae, hcl⟩⟩

theorem enqueueVolumeReconciliation_steps {publicId : String} {existed : Bool}
    (ht : VolumeTarget db target) (ha : OnActiveCluster db target.environmentId)
    (h : enqueueVolumeReconciliation now publicId db target existed = .ok db') :
    ReflTransGen (ReportStep now os) db db' := by
  simp only [enqueueVolumeReconciliation, ok_iff, insertOperationForPrincipal_eq_ok] at h
  obtain ⟨v, hv, _, hp, _, ⟨cluster, hcl, hi, rfl⟩, rfl⟩ := h
  obtain ⟨row, hrow, -⟩ := principalIdForUser_eq_ok.mp hp
  obtain ⟨hd, he⟩ := of_found ht hv
  -- the generation, the operation, and the note on the environment are three writes
  refine .tail (.tail (.single (.volumes (fun i _ => i = target.subjectId) repairVolumeRow
    (fun _ => rfl) fun _ _ _ => .inl rfl)) (.ensureVolume _ cluster target.subjectId
      (repairVolumeRow v) ?_ hd rfl ?_ rfl ?_ hi (ha.active hcl)))
        (.environments (fun i _ => i = target.environmentId) (reportedRow .progressing _)
          fun _ => rfl)
  · exact lookup_modify_of_pos hv rfl
  · exact congrArg some he.symm
  · exact ⟨target.actorId, row, rfl, hrow⟩

theorem enqueueRuntimeReconciliation_steps {publicId : String} {existed : Bool}
    (ht : DeploymentTarget db target) (hac : OnActiveCluster db target.environmentId)
    (h : enqueueRuntimeReconciliation now publicId db target existed = .ok db') :
    ReflTransGen (ReportStep now os) db db' := by
  simp only [enqueueRuntimeReconciliation, ok_iff, insertOperationForPrincipal_eq_ok] at h
  obtain ⟨ae, hae, cluster, hcl, hi, rfl⟩ := h
  obtain ⟨ha, hd, hdep, hv⟩ := of_found ht hae
  have hplaced : PlacedOn db target.environmentId cluster := by
    rw [PlacedOn, lookup_modify_of_pos hae rfl] at hcl
    rw [PlacedOn, hae]
    exact hcl
  exact .tail (.single (.environments (fun i _ => i = target.environmentId)
    (repairEnvironmentRow _) fun _ => rfl))
    (.applyDeployment _ cluster target.environmentId target.subjectId (repairEnvironmentRow _ ae)
      (lookup_modify_of_pos hae rfl) ha hd hdep rfl rfl rfl hv.symm hi (hac.active hplaced))

/-- A loop over candidates is a sequence of writes, if each candidate stays what it is under the
writes before it. -/
theorem repair_steps {ids : ℕ → String} {kind : String}
    {enqueue : String → Db → DriftTarget → Bool → Except Err Db} {T : Db → DriftTarget → Prop}
    (hT : ∀ a b t, T a t → SameCore a b → T b t)
    (henqueue : ∀ publicId a b t existed, T a t → enqueue publicId a t existed = .ok b →
      ReflTransGen (ReportStep now os) a b) (ht : ∀ t ∈ targets, T db t)
    (h : repair ids kind seen enqueue db targets = .ok db') :
    ReflTransGen (ReportStep now os) db db' := by
  induction targets generalizing db with
  | nil =>
    cases h
    exact .refl
  | cons t _ ih =>
    simp only [repair] at h
    split at h
    · obtain ⟨_, he, hr⟩ := bind_eq_ok.mp h
      have hsteps := henqueue _ _ _ _ _ (ht t List.mem_cons_self) he
      refine hsteps.trans (ih (fun u hu => ?_) hr)
      exact hT _ _ _ (ht u (List.mem_cons_of_mem t hu)) (sameCore_of_steps hsteps)
    · exact ih (fun u hu => ht u (List.mem_cons_of_mem t hu)) h

theorem repairDrift_steps {ids : ℕ → String} (hc : ClusterActive db clusterId)
    (h : repairDrift now ids db clusterId seen = .ok db') :
    ReflTransGen (ReportStep now os) db db' := by
  simp only [repairDrift, bind_eq_ok] at h
  obtain ⟨_, hvol, db₁, hr, _, hdep, hr'⟩ := h
  have h₁ : ReflTransGen (ReportStep now os) db db₁ := by
    refine repair_steps (T := fun db t => VolumeTarget db t ∧ OnActiveCluster db t.environmentId)
      (fun _ _ _ ht hs => ⟨ht.1.of_sameCore hs, ht.2.of_sameCore hs⟩) ?_ (fun t ht => ?_) hr
    · exact fun _ _ _ _ _ ht => enqueueVolumeReconciliation_steps ht.1 ht.2
    · obtain ⟨htarget, hp⟩ := volumeTarget_of_mem hvol ht
      exact ⟨htarget, clusterId, hp, hc⟩
  have h₂ : ReflTransGen (ReportStep now os) db₁ db' := by
    refine repair_steps
      (T := fun db t => DeploymentTarget db t ∧ OnActiveCluster db t.environmentId)
      (fun _ _ _ ht hs => ⟨ht.1.of_sameCore hs, ht.2.of_sameCore hs⟩) ?_ (fun t ht => ?_) hr'
    · exact fun _ _ _ _ _ ht => enqueueRuntimeReconciliation_steps ht.1 ht.2
    · obtain ⟨htarget, hp⟩ := deploymentTarget_of_mem hdep (List.mem_filter.mp ht).1
      exact ⟨htarget, clusterId, hp, hc.of_sameCore (sameCore_of_steps h₁)⟩
  exact h₁.trans h₂

/-- **A committed report is a sequence of writes.** -/
theorem reconcileAgentObservations_steps {ids : ℕ → String}
    (h : reconcileAgentObservations now ids db heartbeat = .ok db') :
    ReflTransGen (ReportStep now heartbeat.observations) db db' := by
  simp only [reconcileAgentObservations, ok_iff] at h
  obtain ⟨-, normalized, hn, cluster, hs, h⟩ := h
  have hsteps : ReflTransGen (ReportStep now heartbeat.observations) db
      (normalized.foldl (observe now cluster) db) :=
    foldl_observe_steps cluster (shown_of_normalized hn)
  refine hsteps.trans ?_
  unfold repairIfComplete at h
  split at h
  · exact repairDrift_steps ((sessionOf_active hs).of_sameCore (sameCore_of_steps hsteps)) h
  · cases h
    exact .refl

/-- Only a complete snapshot queues operations. -/
theorem reconcileAgentObservations_operations {ids : ℕ → String}
    (h : reconcileAgentObservations now ids db heartbeat = .ok db')
    (hc : heartbeat.complete = false) : db'.operations = db.operations := by
  simp only [reconcileAgentObservations, repairIfComplete, ok_iff] at h
  obtain ⟨-, normalized, -, _, -, h⟩ := h
  rw [if_neg (by simp [hc])] at h
  cases h
  induction normalized generalizing db with
  | nil => rfl
  | cons _ _ ih =>
    rw [List.foldl_cons, ih]
    unfold observe
    split
    · split <;> rfl
    · split <;> rfl

end Queueing

end Molejo.Store
