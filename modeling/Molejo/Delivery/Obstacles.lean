import Molejo.Delivery.Worker
import Molejo.Store.Saving

/-!
# What is in the way of a worker

After a conflict a worker goes on with the next target of its batch; after any other error it
gives up the batch. Whether it will can be seen before: a worker comes to a target whose
environment was archived, or is about to create a deployment for which something is missing –
the release, the revision of the configuration, the cluster, or the endpoints of the revision,
which the environment must have reserved. If none of this is the case (`Served`), everything
that can still be in the way is a conflict (`tolerated_of_deployable`), and the worker goes on
(`advance_ne_idle`).
-/

namespace Molejo.Delivery

open Transaction Table Transition

variable {policy : PublicationPolicy} {s : State} {a : Action} {db : Db} {i : ℕ}
  {x : TargetSnapshot}

/-! ### Nothing is missing -/

/-- The operation was asked for under the key of the target, in the name of the user. -/
def UsesKey (t : Target) (u : User) (o : Operation) : Prop :=
  o.workspaceId = t.workspaceId ∧ o.requestedByPrincipalId = u.principalId ∧
    o.idempotencyHash = t.key
deriving Decidable

/-- The row is the environment of the target, and was not archived. -/
def EnvironmentOf (x : TargetSnapshot) (ae : AppEnvironment) : Prop :=
  ae.workspaceId = x.target.workspaceId ∧ ae.publicId = x.appEnvironmentPublicId ∧
    ae.archivedAt = none
deriving Decidable

/-- The endpoint can be published, and the environment has reserved what it is published under. -/
def EndpointReserved (policy : PublicationPolicy) (db : Db) (i : ℕ) (kind : WorkloadKind)
    (e : PublicEndpoint) : Prop :=
  ∃ hostname ∈ (policy.resolve kind e).toOption, (e.type = .tcp → Store.TcpOpen policy) ∧
    Store.ClaimValid (Store.reservation i 0 e hostname (Store.storedPort e)) ∧
    db.publicationClaims.Any fun _ c => c.hostname = hostname ∧ c.appEnvironmentId = i ∧
      Store.Backs false e c.endpointType c.externalPort ∧ c.desiredConfigurationVersion ≠ none
deriving Decidable

/-- No two endpoints have one hostname, and each is reserved. -/
def EndpointsReserved (policy : PublicationPolicy) (db : Db) (i : ℕ) (kind : WorkloadKind)
    (es : List PublicEndpoint) : Prop :=
  Store.HostnamesDistinct policy kind es ∧ ∀ e ∈ es, EndpointReserved policy db i kind e
deriving Decidable

/-- The environment has a cluster, the release is available, and the revision is there with all its
endpoints reserved. -/
def Provided (policy : PublicationPolicy) (db : Db) (x : TargetSnapshot)
    (configurationVersion i : ℕ) (ae : AppEnvironment) : Prop :=
  ae.clusterId ≠ none ∧
  (db.releases.Any fun _ r => r.publicId = x.releasePublicId ∧
    r.workspaceId = x.target.workspaceId ∧ r.appId = ae.appId ∧ r.available = true) ∧
  (db.revisions.Any fun _ r => r.appEnvironmentId = i ∧ r.version = configurationVersion) ∧
  ¬ db.revisions.Any fun _ r => (r.appEnvironmentId = i ∧ r.version = configurationVersion) ∧
    ¬ EndpointsReserved policy db i ae.workloadKind
      (inheritAllocatedPorts r.configuration ae.configuration).publicEndpoints
deriving Decidable

/-- The user of the target is there. What was asked for under the key of the target is a deployment;
if nothing was, the environment was not archived and provides what is needed, and the public ids are
free. -/
def Deployable (policy : PublicationPolicy) (db : Db) (x : TargetSnapshot)
    (configurationVersion : ℕ) (deploymentPublicId operationPublicId : String) : Prop :=
  (∃ u ∈ db.users.lookup x.target.requestedByUserId, ¬ db.operations.Any fun _ o =>
    UsesKey x.target u o ∧ ¬ ∃ d ∈ o.deploymentId, db.deployments.lookup d ≠ none) ∧
  (KeyUsed db x.target ∨
    (db.appEnvironments.Any fun _ ae => EnvironmentOf x ae) ∧
    (¬ db.appEnvironments.Any fun i ae =>
      EnvironmentOf x ae ∧ ¬ Provided policy db x configurationVersion i ae) ∧
    (¬ db.deployments.Any fun _ d => d.publicId = deploymentPublicId) ∧
    ¬ db.operations.Any fun _ o => o.publicId = operationPublicId)
deriving Decidable

/-- The target a worker is about to begin with. -/
def beginsWith (s : State) : Action → Option TargetSnapshot
  | .advance w _ _ =>
    match s.workers w with
    | .loop (x :: _) => some x
    | _ => none
  | _ => none

/-- **Nothing is in the way of the worker**: the environment of a target that is due for a
deployment was not archived, the row of any other target is there, and a deployment that is about
to be created lacks nothing. -/
def Served (policy : PublicationPolicy) (s : State) (a : Action) : Prop :=
  (∀ x ∈ beginsWith s a, if x.target.status = .deployPending
    then s.store.db.appEnvironments.Any fun _ ae => EnvironmentOf x ae
    else s.targets.lookup x.id ≠ none) ∧
  ∀ q ∈ creates s a, Deployable policy s.store.db q.1 q.2.1 q.2.2.1 q.2.2.2
deriving Decidable

/-! ### Then there are only conflicts -/

/-- The claims are as the indexes of their table keep them. -/
structure ClaimsIndexed (s : State) : Prop where
  hostnames : Store.HostnamesUnique s.store.db.publicationClaims
  ports : Store.PortsUnique (Store.registry s.store.db.publicationClaims)

theorem Initial.claimsIndexed (h₀ : Initial s) (policy : PublicationPolicy) : ClaimsIndexed s :=
  have h : Store.SavedSound policy s.store := h₀.store.savedSound
  ⟨h.unique, h.ports⟩

theorem ClaimsIndexed.step (h : ClaimsIndexed s) (policy) (a : Action) :
    ClaimsIndexed (step policy s a) := by
  rcases step_store policy s a with ⟨a', ha'⟩ | ⟨_, hr⟩
  · have hclaims := Store.step_claims policy s.store a'
    refine ⟨?_, ?_⟩ <;> rw [ha']
    · exact hclaims.unique h.hostnames
    · exact hclaims.portsUnique h.hostnames h.ports
  · refine ⟨?_, ?_⟩ <;> rw [hr]
    · exact h.hostnames
    · exact h.ports

theorem EndpointsReserved.saved {kind : WorkloadKind} {es : List PublicEndpoint}
    (hu : Store.HostnamesUnique db.publicationClaims) (h : EndpointsReserved policy db i kind es) :
    Store.Saved policy (Store.registry db.publicationClaims) i kind es := by
  refine ⟨h.1, fun e he => ?_⟩
  obtain ⟨hostname, hres, htcp, ⟨hname, hhost, hport, -⟩, hrow⟩ := h.2 e he
  obtain ⟨k, c, hk, rfl, ho, hb, hdesired⟩ := any_iff.mp hrow
  exact ⟨c.hostname, ⟨Store.mem_toOption_iff.mp hres, htcp, fun _ _ =>
    ⟨hname, hhost, hport, .inl (Option.some_ne_none _)⟩⟩, c, find_of_lookup hu hk, ho, hb, hdesired⟩

section Refused

variable {configurationVersion version principalId : ℕ}
  {current deploymentPublicId operationPublicId : String} {e : Err}

/-- A new deployment of a target that has what it needs is refused only for a conflict. -/
theorem tolerated_of_provided (hs : ClaimsIndexed s)
    (henv : s.store.db.appEnvironments.Any fun _ ae => EnvironmentOf x ae)
    (hprovided : ¬ s.store.db.appEnvironments.Any fun i ae =>
      EnvironmentOf x ae ∧ ¬ Provided policy s.store.db x configurationVersion i ae)
    (hdeployment : ¬ s.store.db.deployments.Any fun _ d => d.publicId = deploymentPublicId)
    (hoperation : ¬ s.store.db.operations.Any fun _ o => o.publicId = operationPublicId)
    (he : Store.deploy policy s.store.now s.store.db (x.request principalId configurationVersion
      version current deploymentPublicId operationPublicId) = .error e) : Tolerated e := by
  rcases Store.deploy_eq_error he with ⟨-, hnone⟩ | ⟨i, ae, hf, hreason⟩
  · obtain ⟨k, ae, hk, hae⟩ := any_iff.mp henv
    exact absurd hae (first_eq_none.mp hnone k ae hk)
  obtain ⟨hl, hw, hp, hna⟩ := Store.appEnvironmentForUpdate_eq_ok hf
  obtain ⟨hcluster, hrelease, hrevision, hendpoints⟩ :=
    not_not.mp (not_and.mp (not_any_iff.mp hprovided i ae hl) ⟨hw, hp, hna⟩)
  rcases hreason with rfl | rfl | ⟨-, hnone⟩ | ⟨-, hnone⟩ | ⟨revision, hrev, hres⟩ |
    ⟨-, hid | hid⟩ | ⟨-, hnone⟩
  · exact .inl rfl
  · exact .inr (.inl rfl)
  · obtain ⟨k, r, hk, hr⟩ := any_iff.mp hrelease
    exact absurd hr (first_eq_none.mp hnone k r hk)
  · obtain ⟨k, r, hk, hr⟩ := any_iff.mp hrevision
    exact absurd hr (first_eq_none.mp hnone k r hk)
  · obtain ⟨k, hk, hr⟩ := Store.configurationRevision_eq_ok hrev
    have hreserved := not_not.mp (not_and.mp (not_any_iff.mp hendpoints k revision hk) hr)
    obtain ⟨_, hok⟩ := Store.reserveEndpoints_isOk revision.version hs.hostnames hs.ports
      (hreserved.saved hs.hostnames)
    simp only [Store.reservePublicationClaims, hok] at hres
    cases hres
  · exact absurd hid hdeployment
  · exact absurd hid hoperation
  · exact absurd hnone hcluster

/-- **A deployment that lacks nothing is refused only for a conflict.** -/
theorem tolerated_of_deployable (hs : ClaimsIndexed s)
    (h : Deployable policy s.store.db x configurationVersion deploymentPublicId operationPublicId)
    (he : createDeployment policy s.store.now s.store.db x configurationVersion version current
      deploymentPublicId operationPublicId = .error e) : Tolerated e := by
  obtain ⟨⟨u, hu, hkey⟩, hnew⟩ := h
  simp only [createDeployment, Store.principalIdForUser_eq_ok.mpr ⟨u, hu, rfl⟩, ok_bind,
    returnedDeployment, Store.createDeployment, TargetSnapshot.request] at he
  cases hexisting : Store.operationByPrincipalIdempotency s.store.db x.target.workspaceId
      u.principalId x.target.key
      (sha256 (x.releasePublicId ++ "\n" ++ current ++ "\n" ++ x.target.commitSha)) with
  | error e' =>
    -- the key was used for another request
    simp only [hexisting, error_bind] at he
    cases he
    unfold Store.operationByPrincipalIdempotency at hexisting
    split at hexisting
    · cases hexisting
    · split at hexisting <;> cases hexisting
      decide
  | ok existing =>
    simp only [hexisting, ok_bind] at he
    unfold Store.operationByPrincipalIdempotency at hexisting
    split at hexisting
    · -- the key is new, so the deployment is
      next hf =>
      cases hexisting
      have hunused : ¬ KeyUsed s.store.db x.target := by
        rintro ⟨u', hu', hused⟩
        cases hu.symm.trans hu'
        obtain ⟨k, o, hk, ho⟩ := any_iff.mp hused
        exact first_eq_none.mp hf k o hk ho
      obtain ⟨henv, hprovided, hdeployment, hoperation⟩ := hnew.resolve_left hunused
      simp only [bind_eq_error, pure_ne_error, false_or, and_false, exists_false, or_false] at he
      obtain ⟨_, -, he⟩ := he
      exact tolerated_of_provided hs henv hprovided hdeployment hoperation he
    · -- the request is repeated, and its deployment is returned
      next q hf =>
      split at hexisting <;> cases hexisting
      obtain ⟨d, hd, hrow⟩ := not_not.mp
        (not_and.mp (not_any_iff.mp hkey q.1 q.2 (lookup_of_first hf)) (pos_of_first hf))
      obtain ⟨_, hrow⟩ := Option.ne_none_iff_exists'.mp hrow
      simp only [Option.mem_def.mp hd, hrow, expect, ok_bind] at he
      cases he

end Refused

/-- **A worker with nothing in its way does not give up its batch.** -/
theorem advance_ne_idle (hs : ClaimsIndexed s) {w : ℕ}
    {deploymentPublicId operationPublicId : String}
    (h : Served policy s (.advance w deploymentPublicId operationPublicId))
    (hx : x ∈ (s.workers w).snapshots) :
    (advance policy s w deploymentPublicId operationPublicId).workers w ≠ .idle := by
  have hgo {e : Err} (he : Tolerated e) (rest : List TargetSnapshot) :
      afterError e rest ≠ .idle := by
    rw [afterError, if_pos he]
    rintro ⟨⟩
  unfold advance
  split
  -- without a batch there is nothing to give up
  · next hw =>
    rw [hw] at hx
    exact absurd hx List.not_mem_nil
  · next hw =>
    rw [hw] at hx
    exact absurd hx List.not_mem_nil
  -- reading the environment of a target, or marking it
  · next y rest hw =>
    have hy := h.1 y (by simp only [beginsWith, hw]; rfl)
    unfold begin
    split
    · next hpending =>
      rw [if_pos hpending] at hy
      obtain ⟨i, ae, hf⟩ := exists_first hy
      have hfound : findAppEnvironment s.store.db y = .ok (i, ae) := expect_eq_ok.mpr hf
      simp only [hfound, State.setPhase_self]
      rintro ⟨⟩
    · next hpending =>
      rw [if_neg hpending] at hy
      obtain ⟨t, ht⟩ := Option.ne_none_iff_exists'.mp hy
      split
      · simp only [markDeliveryTarget, ht, expect, ok_bind, State.transact, pure, Except.pure,
          State.setPhase_self]
        rintro ⟨⟩
      · rw [State.setPhase_self]
        rintro ⟨⟩
  -- creating a deployment
  · next y configurationVersion version current rest hw =>
    have hy := h.2 _ (by simp only [creates, hw]; rfl)
    split
    · rw [State.setPhase_self]
      rintro ⟨⟩
    · next hc =>
      rw [State.setPhase_self]
      exact hgo (tolerated_of_deployable hs hy hc) rest
  -- attaching it: the only error is a conflict
  · unfold State.transact
    split
    · rw [State.setPhase_self]
      rintro ⟨⟩
    · next hattach =>
      simp only [attachDeliveryDeployment, bind_eq_error, require_eq_error, pure_ne_error, and_false,
        exists_false, or_false] at hattach
      rw [State.setPhase_self, ← hattach.2]
      exact hgo (.inl rfl) _

end Molejo.Delivery
