import Molejo.Store.Report
import Molejo.Store.System

/-!
# What a step can do

`step` runs eighteen kinds of action, most of them transactions with many ways to
fail. This file says once what can come of them: `Effect policy s a s'` lists every
state `s'` that a step may lead to, with what was known when it did, and
`step_effect` says that the list is complete. Everything else that is proved of the
store is proved by going through this list.

Three groups of constructors matter later.

* A configuration is adopted by `create`, `createStateful`, `update` and `deploy`;
  each carries the reservation it made.
* An operation is inserted by `attach`, `createStateful`, `expand`, `remove`,
  `delete`, `deploy` and `report`.
* A claim is ended by the six constructors from `workspaceDone` to `failed`, each of
  which carries the lease it was done under.
-/

namespace Molejo.Store

open Transaction Relation Table

/-- The row under `op` is the one a worker holds, under a lease that is good at `now`. -/
abbrev Held (s : State) (op : ClaimedOperation) : Prop :=
  s.db.operations.Any (LeaseHeld s.now op)

/-- Everything that one step can lead to. -/
inductive Effect (policy : PublicationPolicy) (s : State) : Action → State → Prop
  /-- The transaction failed, or had nothing to do. -/
  | idle (a : Action) : Effect policy s a s
  | tick (seconds : ℕ) : Effect policy s (.tick seconds) { s with now := s.now + seconds }
  | elsewhere (x : Surroundings) (h : Surroundings.Keeps s.db.toSurroundings x) :
      Effect policy s (.elsewhere x) { s with db := { s.db with toSurroundings := x } }
  /-- A session was opened or touched. -/
  | session (a : Action) (installations : Table Installation)
      (h : Table.Agree Installation.publicId s.db.installations installations)
      (hr : SameRevoked s.db.installations installations) (ha : a.OfSession) :
      Effect policy s a { s with db := { s.db with installations := installations } }
  | attach (request : Attachment) (new : NewOperation) (cluster : ℕ) (wc : WorkspaceCluster)
      (he : new.appEnvironmentId = none) (hk : new.kind = .ensureWorkspace)
      (hi : Insertable s.db.operations (new.row s.now cluster))
      (hc : ClusterActive s.db cluster) :
      Effect policy s (.attachWorkspaceCluster request)
        { s with
          db := { s.db with
            workspaceClusters := s.db.workspaceClusters.insert wc
            operations := s.db.operations.insert (new.row s.now cluster) } }
  | revoke (publicId reason : String) (installationId : ℕ) (row : Installation)
      (hrow : s.db.installations.lookup installationId = some row)
      (hp : row.publicId = publicId) :
      Effect policy s (.revokeCluster publicId reason)
        { s with db := Store.revoke s.now s.db installationId (trimSpace reason) }
  /-- An environment was created and adopted its configuration. -/
  | create (request : NewAppEnvironment) (ae : AppEnvironment)
      (claims : Table PublicationClaim) (reserved : RuntimeConfig) (bound : Table BoundParameter)
      (hp : placeAppEnvironment s.db request = .ok ae)
      (hu : ¬ s.db.appEnvironments.Any fun _ e => e.publicId = ae.publicId)
      (ha : Adopts policy { s.db with appEnvironments := s.db.appEnvironments.insert ae }
        s.db.appEnvironments.nextId ae ae.configuration claims reserved bound) :
      Effect policy s (.createAppEnvironment request)
        { s with
          db := adoptedDb { s.db with appEnvironments := s.db.appEnvironments.insert ae }
            s.db.appEnvironments.nextId ae.configurationVersion claims reserved bound }
  /-- The same, and its volume was created. -/
  | createStateful (request : NewAppEnvironment) (ae : AppEnvironment)
      (claims : Table PublicationClaim) (reserved : RuntimeConfig) (bound : Table BoundParameter)
      (db' : Db) (volume : VolumeRequest) (ids : VolumeIds)
      (hp : placeAppEnvironment s.db request = .ok ae)
      (hu : ¬ s.db.appEnvironments.Any fun _ e => e.publicId = ae.publicId)
      (ha : Adopts policy { s.db with appEnvironments := s.db.appEnvironments.insert ae }
        s.db.appEnvironments.nextId ae ae.configuration claims reserved bound)
      (hv : createAppVolume s.now
        (adoptedDb { s.db with appEnvironments := s.db.appEnvironments.insert ae }
          s.db.appEnvironments.nextId ae.configurationVersion claims reserved bound)
        request.workspaceId request.actorId s.db.appEnvironments.nextId ae volume ids = .ok db') :
      Effect policy s (.createAppEnvironment request) { s with db := db' }
  /-- Only the branch of an environment changed. -/
  | branch (a : Action) (i : ℕ) (branch : String) :
      Effect policy s a
        { s with
          db := { s.db with
            appEnvironments := s.db.appEnvironments.modify (fun j _ => j = i)
              (branchRow branch) } }
  /-- An environment adopted another configuration. -/
  | update (workspaceId : ℕ) (publicId branch : String) (configuration : RuntimeConfig)
      (version i : ℕ) (ae : AppEnvironment) (new : RuntimeConfig)
      (claims : Table PublicationClaim) (reserved : RuntimeConfig) (bound : Table BoundParameter)
      (hl : s.db.appEnvironments.lookup i = some ae) (hna : ae.archivedAt = none)
      (hd : ae.deletionRequestedAt = none)
      (hnew : new = inheritAllocatedPorts (normalizeRuntimeConfig configuration)
        ae.configuration)
      (ha : Adopts policy
        { s.db with
          appEnvironments := s.db.appEnvironments.modify (fun j _ => j = i)
            (updateRow branch new) }
        i (updateRow branch new ae) new claims reserved bound)
      (hadopted : adopted s (.updateAppEnvironment workspaceId publicId branch configuration
        version) = some (i, ae.workloadKind, new)) :
      Effect policy s (.updateAppEnvironment workspaceId publicId branch configuration version)
        { s with
          db := adoptedDb
            { s.db with
              appEnvironments := s.db.appEnvironments.modify (fun j _ => j = i)
                (updateRow branch new) }
            i (updateRow branch new ae).configurationVersion claims reserved bound }
  /-- The deletion of an environment was requested. -/
  | delete (request : EnvironmentDeletion) (principalId cluster i : ℕ) (ae : AppEnvironment)
      (hl : s.db.appEnvironments.lookup i = some ae) (hna : ae.archivedAt = none)
      (hd : ae.deletionRequestedAt = none) (hn : ¬ HasActiveOperation s.db.operations i)
      (hi : Insertable s.db.operations ((request.operation principalId i ae).row s.now cluster))
      (hf : appEnvironmentForUpdate s.db request.workspaceId request.publicId = .ok (i, ae))
      (hc : ae.clusterId = some cluster) :
      Effect policy s (.deleteAppEnvironment request)
        { s with
          db := { s.db with
            appEnvironments := s.db.appEnvironments.modify (fun j _ => j = i) (deleteRow s.now)
            operations := s.db.operations.insert
              ((request.operation principalId i ae).row s.now cluster) } }
  | expand (change : VolumeChange) (size : ℤ) (principalId cluster i : ℕ) (v : AppVolume)
      (hv : volumeForChange s.db change = .ok (i, v)) (hs : v.requestedSizeGiB < size)
      (hi : Insertable s.db.operations
        ((change.operation principalId i v .expandVolume).row s.now cluster))
      (hu : principalIdForUser s.db change.actorId = .ok principalId)
      (hc : PlacedOn s.db v.appEnvironmentId cluster) :
      Effect policy s (.expandAppVolume change size)
        { s with
          db := { s.db with
            appVolumes := s.db.appVolumes.modify (fun j _ => j = i) (expandRow size)
            operations := s.db.operations.insert
              ((change.operation principalId i v .expandVolume).row s.now cluster)
            appEnvironments := s.db.appEnvironments.modify (fun j _ => j = v.appEnvironmentId)
              (storageProgress "persistent storage is being expanded") } }
  /-- The removal of a volume was requested. -/
  | remove (change : VolumeChange) (principalId cluster i : ℕ) (v : AppVolume)
      (hv : volumeForChange s.db change = .ok (i, v)) (hn : ¬ Attached s.db i v)
      (hi : Insertable s.db.operations
        ((change.operation principalId i v .deleteVolume).row s.now cluster))
      (hu : principalIdForUser s.db change.actorId = .ok principalId)
      (hc : PlacedOn s.db v.appEnvironmentId cluster) :
      Effect policy s (.deleteAppVolume change)
        { s with
          db := { s.db with
            appVolumes := s.db.appVolumes.modify (fun j _ => j = i) (removeRow s.now)
            operations := s.db.operations.insert
              ((change.operation principalId i v .deleteVolume).row s.now cluster)
            appEnvironments := s.db.appEnvironments.modify
              (fun j ae => j = v.appEnvironmentId ∧ ae.archivedAt = none)
              (storageProgress "persistent storage removal is in progress") } }
  /-- A deployment was created and is desired now. -/
  | deploy (request : DeploymentRequest) (i releaseId j cluster : ℕ) (ae : AppEnvironment)
      (revision : Revision) (claims : Table PublicationClaim) (reserved : RuntimeConfig)
      (volume : Option ℕ)
      (hl : s.db.appEnvironments.lookup i = some ae) (hna : ae.archivedAt = none)
      (hd : ae.deletionRequestedAt = none) (hn : ¬ HasActiveOperation s.db.operations i)
      (hj : s.db.revisions.lookup j = some revision) (hje : revision.appEnvironmentId = i)
      (hjv : revision.version = request.configurationVersion)
      (hadopted : adopted s (.createDeployment request) = some (i, ae.workloadKind,
        inheritAllocatedPorts revision.configuration ae.configuration))
      (hr : reservePublicationClaims policy s.db.publicationClaims i revision.version
        ae.workloadKind (inheritAllocatedPorts revision.configuration ae.configuration) =
          .ok (claims, reserved))
      (hi : Insertable s.db.operations
        ((request.operation i ae s.db.deployments.nextId).row s.now cluster))
      (hf : appEnvironmentForUpdate s.db request.workspaceId request.appEnvironmentPublicId =
        .ok (i, ae))
      (hc : ae.clusterId = some cluster)
      (hvol : deploymentVolume s.db i ae.workloadKind = .ok volume) :
      Effect policy s (.createDeployment request)
        { s with
          db := { s.db with
            publicationClaims := claims
            deployments := s.db.deployments.insert (request.row i ae releaseId reserved volume)
            appEnvironments := s.db.appEnvironments.modify (fun j _ => j = i)
              (desireRow s.db.deployments.nextId)
            operations := s.db.operations.insert
              ((request.operation i ae s.db.deployments.nextId).row s.now cluster) } }
  | report (ids : ℕ → String) (heartbeat : Heartbeat) (db' : Db)
      (h : ReflTransGen (ReportStep s.now heartbeat.observations) s.db db')
      (hc : heartbeat.complete = false → db'.operations = s.db.operations) :
      Effect policy s (.reconcile ids heartbeat) { s with db := db' }
  | claim (worker installation : String) (lease i : ℕ) (o : Operation) (db' : Db)
      (hl : s.db.operations.lookup i = some o) (hc : Claimable s.now s.db installation i o)
      (hs : startWork s.now
        { s.db with
          operations := s.db.operations.modify (fun j _ => j = i)
            fun _ => claimRow s.now lease worker o }
        (claimRow s.now lease worker o) = .ok db') :
      Effect policy s (.claimNext worker installation lease)
        { s with db := db', held := s.held.insert (i, claimRow s.now lease worker o) }
  | reload (installation publicId : String) (token i : ℕ) (o : Operation)
      (hl : s.db.operations.lookup i = some o) (hr : o.status = .running) :
      Effect policy s (.reload installation publicId token)
        { s with held := s.held.insert (i, o) }
  | workspaceDone (a : Action) (k : ℕ) (f : Operation → Call) (op : ClaimedOperation)
      (workspaces : Table Workspace) (clusters : Table WorkspaceCluster)
      (ha : a.call? = some (k, f)) (hk : s.held.lookup k = some op)
      (hf : f op.2 = .completeWorkspace) (hl : Held s op)
      (hdone : completed policy s a = some op)
      (hw : Table.Agree Workspace.namespaceName s.db.workspaces workspaces) :
      Effect policy s a
        { s with
          db := { s.db with
            operations := s.db.operations.modify (LeaseHeld s.now op) (succeedRow s.now)
            workspaces := workspaces
            workspaceClusters := clusters } }
  | volumeDone (a : Action) (k : ℕ) (f : Operation → Call) (op : ClaimedOperation)
      (state message : String) (size : ℤ) (specHash : String) (observed : VolumeState)
      (v : AppVolume) (ha : a.call? = some (k, f)) (hk : s.held.lookup k = some op)
      (hf : f op.2 = .completeVolume state message size specHash) (hl : Held s op)
      (hdone : completed policy s a = some op)
      (ho : VolumeState.ofString? state = some observed)
      (hv : op.2.appVolumeId.bind s.db.appVolumes.lookup = some v)
      (hvv : v.version = op.2.desiredVersion) :
      Effect policy s a
        { s with
          db := { s.db with
            operations := s.db.operations.modify (LeaseHeld s.now op) (succeedRow s.now)
            appVolumes := s.db.appVolumes.modify (fun i _ => some i = op.2.appVolumeId)
              (preparedRow observed message size op.2.desiredVersion specHash)
            appEnvironments := s.db.appEnvironments.modify
              (fun i ae => some i = op.2.appEnvironmentId ∧ ae.archivedAt = none)
              fun ae => settleEnvironment ae observed } }
  | environmentDone (a : Action) (k : ℕ) (f : Operation → Call) (op : ClaimedOperation)
      (message : String) (ha : a.call? = some (k, f)) (hk : s.held.lookup k = some op)
      (hf : f op.2 = .completeAppEnvironmentDeletion message) (hl : Held s op)
      (hdone : completed policy s a = some op)
      (hd : s.db.appEnvironments.Any (Deleting op.2)) :
      Effect policy s a
        { s with
          db := { s.db with
            operations := s.db.operations.modify (LeaseHeld s.now op) (succeedRow s.now)
            appEnvironments := s.db.appEnvironments.modify (Deleting op.2)
              (archiveRow s.now message)
            publicationClaims := s.db.publicationClaims.delete fun _ c =>
              some c.appEnvironmentId = op.2.appEnvironmentId } }
  | deploymentDone (a : Action) (k : ℕ) (f : Operation → Call) (op : ClaimedOperation)
      (message release specHash : String) (completion : Option VolumeCompletion)
      (deploymentId : ℕ) (d : Deployment) (volumes : Table AppVolume)
      (claims : Table PublicationClaim)
      (ha : a.call? = some (k, f)) (hk : s.held.lookup k = some op)
      (hf : f op.2 = .completeDeployment message release specHash completion) (hl : Held s op)
      (hdone : completed policy s a = some op)
      (hde : op.2.deploymentId = some deploymentId)
      (he : op.2.appEnvironmentId = some d.appEnvironmentId)
      (hd : s.db.deployments.lookup deploymentId = some d)
      (hv : volumes = s.db.appVolumes ∨ ∃ c, completion = some c ∧ volumes =
        s.db.appVolumes.modify (fun i _ => some i = d.appVolumeId) (mountedRow c))
      (hc : activatePublicationClaims policy s.db.publicationClaims d.appEnvironmentId
        d.configurationVersion d.workloadKind d.configuration = .ok claims) :
      Effect policy s a
        { s with
          db := { s.db with
            operations := s.db.operations.modify (LeaseHeld s.now op) (succeedRow s.now)
            deployments := s.db.deployments.modify (fun i _ => i = deploymentId)
              (readyRow s.now message release)
            appEnvironments := s.db.appEnvironments.modify (StillDesired op.2 deploymentId)
              (currentRow deploymentId d.releaseId message op.2.desiredVersion specHash)
            appVolumes := volumes
            publicationClaims := claims } }
  | retry (a : Action) (k : ℕ) (f : Operation → Call) (op : ClaimedOperation)
      (code message : String) (retry : Bool) (ha : a.call? = some (k, f))
      (hk : s.held.lookup k = some op) (hf : f op.2 = .fail code message retry)
      (hl : Held s op) (hr : Retries op.2 retry) :
      Effect policy s a
        { s with
          db := { s.db with
            operations := s.db.operations.modify (LeaseHeld s.now op)
              (retryRow s.now code message) } }
  | failed (a : Action) (k : ℕ) (f : Operation → Call) (op : ClaimedOperation)
      (code message : String) (retry : Bool) (ha : a.call? = some (k, f))
      (hk : s.held.lookup k = some op) (hf : f op.2 = .fail code message retry)
      (hl : Held s op) (hr : ¬ Retries op.2 retry) :
      Effect policy s a
        { s with
          db := reportFailure s.now
            { s.db with
              operations := s.db.operations.modify (LeaseHeld s.now op)
                (failRow s.now code message) }
            op.2 message }
  | release (worker : String) :
      Effect policy s (.releaseClaims worker) { s with db := releaseClaims s.now s.db worker }

/-! ### The list is complete -/

section Inversion

variable {policy : PublicationPolicy} {s : State}

/-- A transaction that commits leads where its result says; one that fails leads nowhere. -/
theorem transact_effect {a : Action} {x : Except Err Db}
    (h : ∀ db', x = .ok db' → Effect policy s a { s with db := db' }) :
    Effect policy s a (s.transact x) := by
  cases x with
  | error => exact .idle a
  | ok db' => exact h db' rfl

/-! The transactions. A request that was carried out before has nothing to do. -/

section Transactions

variable {db' : Db}

theorem activateAgent_effect {publicId sessionId : String}
    (h : activateAgent s.db publicId sessionId = .ok db') :
    Effect policy s (.activateAgent publicId sessionId) { s with db := db' } := by
  simp only [activateAgent, ok_iff] at h
  obtain ⟨-, r, hr, hn, rfl⟩ := h
  refine .session _ _ (agree_modify fun _ => rfl) (sameRevoked_modify fun i row hl hi => ?_) trivial
  subst hi
  cases hl.symm.trans (lookup_of_first hr)
  exact iff_of_false (by rintro ⟨⟩) hn

theorem touchAgent_effect {publicId sessionId : String} {sequence : ℕ}
    (h : touchAgent s.db publicId sessionId sequence = .ok db') :
    Effect policy s (.touchAgent publicId sessionId sequence) { s with db := db' } := by
  simp only [touchAgent, ok_iff] at h
  obtain ⟨-, _, -, -, rfl⟩ := h
  exact .session _ _ (agree_modify fun _ => rfl) (sameRevoked_modify fun _ _ _ _ => Iff.rfl) trivial

theorem revokeCluster_effect {publicId reason : String}
    (h : revokeCluster s.now s.db publicId reason = .ok db') :
    Effect policy s (.revokeCluster publicId reason) { s with db := db' } := by
  simp only [revokeCluster, ok_iff] at h
  obtain ⟨-, r, hr, h⟩ := h
  split at h
  · cases h
    exact .idle _
  · cases h
    exact .revoke publicId reason r.1 r.2 (lookup_of_first hr) (pos_of_first hr)

theorem attachWorkspaceCluster_effect {request : Attachment}
    (h : attachWorkspaceCluster s.now s.db request = .ok db') :
    Effect policy s (.attachWorkspaceCluster request) { s with db := db' } := by
  simp only [attachWorkspaceCluster, bind_eq_ok] at h
  obtain ⟨_, -, existing, -, h⟩ := h
  cases existing with
  | some =>
    cases h
    exact .idle _
  | none =>
    simp only [attachCluster, ok_iff, insertRow_eq_ok] at h
    obtain ⟨cluster, hc, _, -, -, _, ⟨hi, rfl⟩, rfl⟩ := h
    exact .attach request _ cluster.1 _ rfl rfl hi
      ⟨cluster.2, lookup_of_first hc, (pos_of_first hc).2⟩

theorem createAppEnvironment_effect {request : NewAppEnvironment}
    (h : createAppEnvironment policy s.now s.db request = .ok db') :
    Effect policy s (.createAppEnvironment request) { s with db := db' } := by
  simp only [createAppEnvironment, ok_iff, insertAppEnvironment] at h
  obtain ⟨-, ae, hp, _, ⟨hu, -, rfl⟩, _, ha, hv⟩ := h
  obtain ⟨claims, reserved, bound, hadopts, rfl⟩ := adoptConfiguration_eq_ok ha
  unfold createVolumeOf at hv
  split at hv
  · rename_i volume ids _ _
    exact .createStateful request ae claims reserved bound db' volume ids hp hu hadopts hv
  · cases hv
    exact .create request ae claims reserved bound hp hu hadopts

theorem updateAppEnvironment_effect {workspaceId : ℕ} {publicId branch : String}
    {configuration : RuntimeConfig} {version : ℕ}
    (h : updateAppEnvironment policy s.db workspaceId publicId branch configuration version =
      .ok db') :
    Effect policy s (.updateAppEnvironment workspaceId publicId branch configuration version)
      { s with db := db' } := by
  simp only [updateAppEnvironment, ok_iff] at h
  obtain ⟨⟨i, ae⟩, hf, ⟨-, hd⟩, hc⟩ := h
  unfold changeConfiguration at hc
  split at hc
  · split at hc
    · cases hc
      exact .idle _
    · cases hc
      exact .branch _ i branch
  · obtain ⟨hl, -, -, hna⟩ := appEnvironmentForUpdate_eq_ok hf
    obtain ⟨claims, reserved, bound, hadopts, rfl⟩ := adoptConfiguration_eq_ok hc
    have hadopted : adopted s (.updateAppEnvironment workspaceId publicId branch configuration
        version) = some (i, ae.workloadKind, inheritAllocatedPorts
          (normalizeRuntimeConfig configuration) ae.configuration) := by
      simp only [adopted, hf]
    exact .update workspaceId publicId branch configuration version i ae _ claims reserved bound
      hl hna hd rfl hadopts hadopted

theorem deleteAppEnvironment_effect {request : EnvironmentDeletion}
    (h : deleteAppEnvironment s.now s.db request = .ok db') :
    Effect policy s (.deleteAppEnvironment request) { s with db := db' } := by
  simp only [deleteAppEnvironment, bind_eq_ok] at h
  obtain ⟨principalId, -, existing, -, h⟩ := h
  cases existing with
  | some =>
    cases h
    exact .idle _
  | none =>
    simp only [requestDeletion, ok_iff, insertOperationForPrincipal_eq_ok, Prod.exists] at h
    obtain ⟨i, ae, hf, ⟨-, hd⟩, hn, cluster, hc, hi, rfl⟩ := h
    obtain ⟨hl, -, -, hna⟩ := appEnvironmentForUpdate_eq_ok hf
    rw [PlacedOn, lookup_modify_of_pos hl rfl] at hc
    exact .delete request principalId cluster i ae hl hna hd hn hi hf hc

theorem expandAppVolume_effect {change : VolumeChange} {size : ℤ}
    (h : expandAppVolume s.now s.db change size = .ok db') :
    Effect policy s (.expandAppVolume change size) { s with db := db' } := by
  obtain rfl | ⟨principalId, hu, h⟩ := changeVolume_eq_ok h
  · exact .idle _
  simp only [expandVolume, ok_iff, insertOperationForPrincipal_eq_ok, Prod.exists] at h
  obtain ⟨i, v, hv, _, _, -, ⟨-, hs, -⟩, -, _, ⟨cluster, hc, hi, rfl⟩, rfl⟩ := h
  exact .expand change size principalId cluster i v hv hs hi hu hc

theorem deleteAppVolume_effect {change : VolumeChange}
    (h : deleteAppVolume s.now s.db change = .ok db') :
    Effect policy s (.deleteAppVolume change) { s with db := db' } := by
  obtain rfl | ⟨principalId, hu, h⟩ := changeVolume_eq_ok h
  · exact .idle _
  simp only [deleteVolume, ok_iff, insertOperationForPrincipal_eq_ok, Prod.exists] at h
  obtain ⟨i, v, hv, hn, _, ⟨cluster, hc, hi, rfl⟩, rfl⟩ := h
  exact .remove change principalId cluster i v hv hn hi hu hc

theorem createDeployment_effect {request : DeploymentRequest}
    (h : createDeployment policy s.now s.db request = .ok db') :
    Effect policy s (.createDeployment request) { s with db := db' } := by
  simp only [createDeployment, bind_eq_ok] at h
  obtain ⟨existing, -, h⟩ := h
  cases existing with
  | some =>
    cases h
    exact .idle _
  | none =>
    obtain ⟨i, ae, releaseId, revision, claims, reserved, volume, cluster, _, hf, hd, hn, hrev,
      hr, rfl, ⟨hi, hc, hvol⟩, rfl⟩ := deploy_eq_ok h
    obtain ⟨hl, -, -, hna⟩ := appEnvironmentForUpdate_eq_ok hf
    obtain ⟨j, hj, hje, hjv⟩ := configurationRevision_eq_ok hrev
    have hadopted : adopted s (.createDeployment request) = some (i, ae.workloadKind,
        inheritAllocatedPorts revision.configuration ae.configuration) := by
      simp only [adopted, hf, hrev]
    exact .deploy request i releaseId j cluster ae revision claims reserved volume hl hna hd hn
      hj hje hjv hadopted hr hi hf hc hvol

end Transactions

theorem heldCall_effect {a : Action} {k : ℕ} {f : Operation → Call}
    (ha : a.call? = some (k, f)) : Effect policy s a (s.transact (heldCall policy s k f)) := by
  refine transact_effect fun db' h => ?_
  unfold heldCall at h
  split at h
  · cases h
  rename_i op hk
  have hdone (hc : (f op.2).Completes) : completed policy s a = some op := by
    simp only [completed, ha, hk]
    exact if_pos ⟨hc, by rw [h]; rfl⟩
  cases hf : f op.2 with
  | completeWorkspace =>
    rw [hf] at h
    obtain ⟨workspaces, clusters, hl, hw, rfl⟩ := completeWorkspace_eq_ok h
    exact .workspaceDone a k f op workspaces clusters ha hk hf hl (hdone (hf ▸ trivial)) hw
  | completeVolume state message size specHash =>
    rw [hf] at h
    obtain ⟨observed, v, ho, hl, hv, ⟨hvv, -, -⟩, rfl⟩ := completeVolume_eq_ok.mp h
    exact .volumeDone a k f op state message size specHash observed v ha hk hf hl
      (hdone (hf ▸ trivial)) ho hv hvv
  | completeAppEnvironmentDeletion message =>
    rw [hf] at h
    obtain ⟨hl, hd, rfl⟩ := completeAppEnvironmentDeletion_eq_ok.mp h
    exact .environmentDone a k f op message ha hk hf hl (hdone (hf ▸ trivial)) hd
  | completeDeployment message release specHash volume =>
    rw [hf] at h
    obtain ⟨deploymentId, d, volumes, claims, hl, hde, he, hd, hv, hc, rfl⟩ :=
      completeDeployment_eq_ok h
    exact .deploymentDone a k f op message release specHash volume deploymentId d volumes claims
      ha hk hf hl (hdone (hf ▸ trivial)) hde he hd hv hc
  | fail code message retry =>
    rw [hf] at h
    obtain ⟨hl, rfl⟩ := fail_eq_ok.mp h
    by_cases hr : Retries op.2 retry
    · rw [if_pos hr]
      exact .retry a k f op code message retry ha hk hf hl hr
    · rw [if_neg hr]
      exact .failed a k f op code message retry ha hk hf hl hr

theorem claim_effect (worker installation : String) (lease : ℕ) :
    Effect policy s (.claimNext worker installation lease) (claim s worker installation lease) := by
  unfold claim
  split
  · rename_i db' op h
    obtain ⟨o, hl, hc, ho, hs⟩ := claimNext_eq_ok h
    obtain ⟨i, q⟩ := op
    obtain rfl : q = claimRow s.now lease worker o := ho
    exact .claim worker installation lease i o db' hl hc hs
  · exact .idle _

theorem reload_effect (installation publicId : String) (token : ℕ) :
    Effect policy s (.reload installation publicId token)
      (reload s installation publicId token) := by
  unfold reload
  split
  · rename_i op h
    have hf := expect_eq_ok.mp h
    exact .reload installation publicId token op.1 op.2 (lookup_of_first hf)
      (pos_of_first hf).2.2.1
  · exact .idle _

/-- **Every step is on the list.** -/
theorem step_effect (policy) (s : State) (a : Action) :
    Effect policy s a (step policy s a) := by
  cases a with
  | tick seconds => exact .tick seconds
  | elsewhere x =>
    simp only [step]
    split
    · rename_i h
      exact .elsewhere x h
    · exact .idle _
  | activateAgent => exact transact_effect fun _ => activateAgent_effect
  | touchAgent => exact transact_effect fun _ => touchAgent_effect
  | attachWorkspaceCluster => exact transact_effect fun _ => attachWorkspaceCluster_effect
  | revokeCluster => exact transact_effect fun _ => revokeCluster_effect
  | createAppEnvironment => exact transact_effect fun _ => createAppEnvironment_effect
  | updateAppEnvironment => exact transact_effect fun _ => updateAppEnvironment_effect
  | deleteAppEnvironment => exact transact_effect fun _ => deleteAppEnvironment_effect
  | expandAppVolume => exact transact_effect fun _ => expandAppVolume_effect
  | deleteAppVolume => exact transact_effect fun _ => deleteAppVolume_effect
  | createDeployment => exact transact_effect fun _ => createDeployment_effect
  | reconcile ids heartbeat =>
    refine transact_effect fun db' h => ?_
    exact .report ids heartbeat db' (reconcileAgentObservations_steps h)
      (reconcileAgentObservations_operations h)
  | claimNext worker installation lease => exact claim_effect worker installation lease
  | reload installation publicId token => exact reload_effect installation publicId token
  | handleResult | fail => exact heldCall_effect rfl
  | releaseClaims worker => exact .release worker

end Inversion

theorem now_le_step (policy) (s : State) (a : Action) : s.now ≤ (step policy s a).now := by
  have h := step_effect policy s a
  generalize step policy s a = s' at h
  cases h with
  | tick => exact Nat.le_add_right _ _
  | _ => exact Nat.le_refl _

end Molejo.Store
