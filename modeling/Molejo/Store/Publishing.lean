import Molejo.Store.DeploymentOrder

/-!
# What is published stays published

A deployment is made from a configuration whose endpoints were just reserved. While
it is being applied, and as long as it is current, its environment should keep the
hostnames and ports of these endpoints: they are being served, or are about to be.

The claims do not guarantee this. A hostname has one row, and the row is rewritten in
place whenever the environment's configuration is edited. An edit may drop the row of
an endpoint that is only about to be served, and may turn the row of one that is
served into something else. This file says exactly which edits do no harm
(`KeepsInFlight`, `KeepsCurrent`), shows that runs without others keep what they
should, and gives two runs in which it is lost.

The argument is about one row at a time. `ClaimsStep.row` says what a step can do to
a row that an environment owns: nothing that matters; or it is rewritten for an
endpoint of a new configuration; or a deployment of the environment was completed; or
the environment was archived.
-/

namespace Molejo.Store

open Transaction Table Transition

variable {kind : WorkloadKind} {k : ℕ} {o : Operation}

variable {policy : PublicationPolicy} {s : State} {a : Action} {db db' : Db} {i : ℕ}
  {hostname : String} {c : PublicationClaim} {d : Deployment} {e e' : PublicEndpoint}
  {exact : Bool}

/-! ### Endpoints and rows -/

/-- A row with this type and port serves the endpoint. Its type is compared only if `exact`. -/
def Backs (exact : Bool) (e : PublicEndpoint) (type : EndpointType) (port : Option ℤ) : Prop :=
  (exact = true → type = e.type) ∧ (e.type = .tcp → port = some e.externalPort)
deriving Decidable

/-- The environment owns a row under the hostname that serves the endpoint. -/
def Owns (exact : Bool) (db : Db) (i : ℕ) (e : PublicEndpoint) (hostname : String) : Prop :=
  db.publicationClaims.Any fun _ c => c.appEnvironmentId = i ∧ c.hostname = hostname ∧
    Backs exact e c.endpointType c.externalPort
deriving Decidable

/-- The environment owns a row for every endpoint of the deployment. -/
def Backed (exact : Bool) (policy : PublicationPolicy) (db : Db) (i : ℕ) (d : Deployment) : Prop :=
  ∀ e ∈ d.configuration.publicEndpoints,
    ∃ hostname ∈ (policy.resolve d.workloadKind e).toOption, Owns exact db i e hostname
deriving Decidable

theorem mem_toOption_iff {x : Except Err String} : hostname ∈ x.toOption ↔ x = .ok hostname := by
  cases x <;> simp [Except.toOption, eq_comm]

theorem owns_iff (hu : HostnamesUnique db.publicationClaims) :
    Owns exact db i e hostname ↔ ∃ c, registry db.publicationClaims hostname = some c ∧
      c.appEnvironmentId = i ∧ Backs exact e c.endpointType c.externalPort := by
  unfold Owns
  rw [any_iff]
  constructor
  · rintro ⟨_, c, hk, ho, rfl, hb⟩
    exact ⟨c, find_of_lookup hu hk, ho, hb⟩
  · rintro ⟨c, hc, ho, hb⟩
    obtain ⟨k, hk, hh⟩ := exists_of_find hc
    exact ⟨k, c, hk, ho, hh, hb⟩

/-! ### The properties -/

/-- **In-flight publication.** An environment owns a row for every endpoint of a deployment that is
being applied to it. -/
def InFlightPublication (exact : Bool) (policy : PublicationPolicy) (db : Db) : Prop :=
  ∀ k o, db.operations.lookup k = some o → o.kind = .applyDeployment ∧ o.Active →
    ∀ i ∈ o.appEnvironmentId, ∀ d ∈ o.deploymentId.bind db.deployments.lookup,
      Backed exact policy db i d
deriving Decidable

/-- **Live publication.** An environment that is not archived owns a row for every endpoint of its
current deployment. -/
def LivePublication (policy : PublicationPolicy) (db : Db) : Prop :=
  ∀ i ae, db.appEnvironments.lookup i = some ae → ae.archivedAt = none →
    ∀ d ∈ ae.currentDeploymentId.bind db.deployments.lookup, Backed true policy db i d
deriving Decidable

/-! ### Edits that do no harm -/

/-- An Agent reports. -/
def Action.isReport : Action → Bool
  | .reconcile _ _ => true
  | _ => false

/-- The external port an endpoint of a configuration asks for. -/
def requestedPort (policy : PublicationPolicy) (db : Db) (i : ℕ) (kind : WorkloadKind)
    (e : PublicEndpoint) : Option ℤ :=
  match e.type with
  | .http => none
  | .tcp => (policy.resolve kind e).toOption.map (allocatedPort db.publicationClaims i e)

/-- The configuration has, for every endpoint of the deployment whose hostname it uses, an endpoint
of the same kind there. -/
def Agrees (exact : Bool) (policy : PublicationPolicy) (db : Db) (i : ℕ) (kind : WorkloadKind)
    (configuration : RuntimeConfig) (d : Deployment) : Prop :=
  ∀ e ∈ d.configuration.publicEndpoints, ∀ e' ∈ configuration.publicEndpoints,
    policy.resolve kind e' = policy.resolve d.workloadKind e →
    Backs exact e e'.type (requestedPort policy db i kind e')
deriving Decidable

/-- The configuration uses every hostname of the deployment that is not being served. -/
def Covers (policy : PublicationPolicy) (db : Db) (kind : WorkloadKind)
    (configuration : RuntimeConfig) (d : Deployment) : Prop :=
  ∀ e ∈ d.configuration.publicEndpoints,
    (∃ e' ∈ configuration.publicEndpoints,
      policy.resolve kind e' = policy.resolve d.workloadKind e) ∨
    db.publicationClaims.Any fun _ c => policy.resolve d.workloadKind e = .ok c.hostname ∧
      c.currentConfigurationVersion ≠ none
deriving Decidable

/-- The action is not a report, and a configuration it reserves has no hostname twice and does no
harm to a deployment that is being applied. -/
def KeepsInFlight (exact : Bool) (policy : PublicationPolicy) (s : State) (a : Action) : Prop :=
  a.isReport = false ∧ ∀ x ∈ adopted s a,
    HostnamesDistinct policy x.2.1 x.2.2.publicEndpoints ∧
    ∀ k o, s.db.operations.lookup k = some o →
      o.kind = .applyDeployment ∧ o.Active ∧ o.appEnvironmentId = some x.1 →
      ∀ d ∈ o.deploymentId.bind s.db.deployments.lookup,
        Agrees exact policy s.db x.1 x.2.1 x.2.2 d ∧ Covers policy s.db x.2.1 x.2.2 d
deriving Decidable

/-- A configuration that the action reserves does no harm to the current deployment. -/
def KeepsCurrent (policy : PublicationPolicy) (s : State) (a : Action) : Prop :=
  ∀ x ∈ adopted s a, ∀ ae ∈ s.db.appEnvironments.lookup x.1,
    ∀ d ∈ ae.currentDeploymentId.bind s.db.deployments.lookup,
      Agrees true policy s.db x.1 x.2.1 x.2.2 d
deriving Decidable

/-! ### One row over one step -/

/-- The row was rewritten for an endpoint of a configuration that the action reserves for the
environment. -/
def RewrittenFor (policy : PublicationPolicy) (s : State) (a : Action) (i : ℕ) (hostname : String)
    (c c' : PublicationClaim) : Prop :=
  ∃ kind configuration, adopted s a = some (i, kind, configuration) ∧
    ∃ e ∈ configuration.publicEndpoints, policy.resolve kind e = .ok hostname ∧
      c'.endpointType = e.type ∧ MayGet (some c) i e c'.externalPort

/-- What a step does to the row `c` of environment `i`. -/
inductive RowStep (policy : PublicationPolicy) (s : State) (a : Action) (db' : Db) (i : ℕ)
    (hostname : String) (c : PublicationClaim) : Prop
  | kept (c' : PublicationClaim) (hc : registry db'.publicationClaims hostname = some c')
      (ho : c'.appEnvironmentId = i)
      (hl : c'.currentConfigurationVersion = c.currentConfigurationVersion)
      (h : c'.endpointType = c.endpointType ∧ c'.externalPort = c.externalPort ∨
        RewrittenFor policy s a i hostname c c')
  | completed (op : ClaimedOperation) (j : ℕ) (d : Deployment)
      (hdone : completed policy s a = some op) (hde : op.2.deploymentId = some j)
      (he : op.2.appEnvironmentId = some i) (hd : s.db.deployments.lookup j = some d)
      (hw : ∀ ae, s.db.appEnvironments.lookup i = some ae → ae.desiredDeploymentId = some j →
        ∃ ae', db'.appEnvironments.lookup i = some ae' ∧ ae'.currentDeploymentId = some j)
      (h : activatePublicationClaims policy s.db.publicationClaims i d.configurationVersion
        d.workloadKind d.configuration = .ok db'.publicationClaims)
  | archived (op : ClaimedOperation) (ae' : AppEnvironment)
      (hdone : Store.completed policy s a = some op) (he : op.2.appEnvironmentId = some i)
      (hl : db'.appEnvironments.lookup i = some ae') (hna : ae'.archivedAt ≠ none)

/-- **What a step does to a row.** The environment is there, and a configuration that is reserved
for it has no hostname twice, and has this one unless the row is served. -/
theorem ClaimsStep.row (h : ClaimsStep policy s a db') (hu : HostnamesUnique s.db.publicationClaims)
    (hex : s.db.appEnvironments.lookup i ≠ none)
    (hc : registry s.db.publicationClaims hostname = some c) (ho : c.appEnvironmentId = i)
    (hkeep : ∀ kind configuration, adopted s a = some (i, kind, configuration) →
      HostnamesDistinct policy kind configuration.publicEndpoints ∧
      ((∃ e ∈ configuration.publicEndpoints, policy.resolve kind e = .ok hostname) ∨
        c.currentConfigurationVersion ≠ none)) :
    RowStep policy s a db' i hostname c := by
  cases h with
  | same h => exact .kept c (h ▸ hc) ho rfl (.inl ⟨rfl, rfl⟩)
  | reserve k v kind configuration reserved h hadopted =>
    obtain ⟨-, r, hr, hreg⟩ := reservePublicationClaims_registry hu h
    by_cases hki : k = i
    · subst hki
      have had := hadopted.resolve_right hex
      obtain ⟨hdist, huse⟩ := hkeep kind configuration had
      by_cases hmem : ∃ e ∈ configuration.publicEndpoints, policy.resolve kind e = .ok hostname
      · -- the row is the one reserved for the endpoint
        obtain ⟨e, he, hres⟩ := hmem
        obtain ⟨x, port, hx, hrow⟩ := hr.of_mem hdist he
        obtain rfl : x = hostname := Except.ok.inj (hx.symm.trans hres)
        have hc' := hrow.row
        rw [hc] at hc'
        refine .kept (rewritten (some c) (reservation k v e x port)) ?_ rfl rfl
          (.inr ⟨kind, configuration, had, e, he, hres, rfl, ?_⟩)
        · rw [hreg, released, hc', Option.bind_some, if_neg]
          rintro ⟨-, hne⟩
          exact hne rfl
        · exact hc ▸ hrow.granted
      · -- the configuration does not use the hostname, so the row is being served
        have hlive := huse.resolve_left hmem
        have hc' : r hostname = some c := by
          rw [hr.eq_of_forall_ne fun e he hres => hmem ⟨e, he, hres⟩]
          exact hc
        by_cases hdes : c.desiredConfigurationVersion ≠ some v
        · refine .kept { c with desiredConfigurationVersion := none } ?_ ho rfl (.inl ⟨rfl, rfl⟩)
          rw [hreg, released, hc', Option.bind_some, if_pos ⟨ho, hdes⟩, if_neg hlive]
        · refine .kept c ?_ ho rfl (.inl ⟨rfl, rfl⟩)
          rw [hreg, released, hc', Option.bind_some, if_neg fun hx => hdes hx.2]
    · -- another environment cannot write the row
      have hne : c.appEnvironmentId ≠ k := fun hx => hki (hx.symm.trans ho)
      refine .kept c ?_ ho rfl (.inl ⟨rfl, rfl⟩)
      rw [hreg, released, (hr.of_other hc hne).1, Option.bind_some, if_neg fun hx => hne hx.1]
  | activate op j d hdone hde he hd hw h =>
    by_cases hdi : d.appEnvironmentId = i
    · subst hdi
      exact .completed op j d hdone hde he hd hw h
    · obtain ⟨-, _, hr, hreg⟩ := activatePublicationClaims_registry hu h
      have hne : c.appEnvironmentId ≠ d.appEnvironmentId := fun hx => hdi (hx.symm.trans ho)
      refine .kept c ?_ ho rfl (.inl ⟨rfl, rfl⟩)
      rw [hreg, settled]
      rcases hr.row hostname with ⟨-, q, hq, hqo, -⟩ | ⟨-, hr'⟩
      · cases hc.symm.trans hq
        exact absurd hqo hne
      · rw [hr', hc, Option.filter_some, if_pos]
        simp [hne]
  | archive op hdone hw h =>
    obtain ⟨x, ae', hx, hl, hna⟩ := hw
    by_cases hxi : x = i
    · subst hxi
      exact .archived op ae' hdone hx hl hna
    · refine .kept c ?_ ho rfl (.inl ⟨rfl, rfl⟩)
      rw [h, withdraw_registry hu, withdrawn, hc, Option.filter_some, if_pos]
      simp only [hx, Option.some.injEq, decide_eq_true_eq]
      exact fun hcx => hxi (hcx.symm.trans ho)

/-- A row rewritten for an endpoint that asks for the right port still serves what it served. -/
theorem Backs.rewritten {port : Option ℤ} (h : Backs exact e c.endpointType c.externalPort)
    (hu : HostnamesUnique db.publicationClaims)
    (hc : registry db.publicationClaims hostname = some c) (hv : ClaimValid c)
    (hres : policy.resolve kind e' = .ok hostname)
    (hg : Backs exact e e'.type (requestedPort policy db i kind e'))
    (hm : MayGet (some c) i e' port) : Backs exact e e'.type port := by
  refine ⟨hg.1, fun htcp => ?_⟩
  have hreq := hg.2 htcp
  have hpos : 1 ≤ e.externalPort := hv.port_pos (h.2 htcp)
  unfold requestedPort at hreq
  unfold MayGet at hm
  cases ht : e'.type with
  | http =>
    simp only [ht] at hreq
    cases hreq
  | tcp =>
    simp only [ht, hres, Except.toOption, Option.map_some, Option.some.injEq,
      allocatedPort_eq hu, hc] at hreq
    simp only [ht] at hm
    obtain ⟨_, rfl, hn⟩ := hm
    rw [hn (by omega), hreq]

theorem Backed.of_core {d' : Deployment} (h : Backed exact policy db i d)
    (hc : d'.core = d.core) : Backed exact policy db i d' := by
  change Backed exact policy db i d'.core
  rw [hc]
  exact h

/-! ### New deployments -/

/-- Apart from reports, only `createDeployment` queues the application of a deployment, and it has
just reserved the endpoints of that deployment. -/
theorem step_new_application (policy) (a : Action) (hr : a.isReport = false)
    (hn : s.db.operations.lookup k = none) (hins : Inserted s a o)
    (hl : (step policy s a).db.operations.lookup k = some o) (hk : o.kind = .applyDeployment) :
    ∃ i j v kind configuration reserved d, adopted s a = some (i, kind, configuration) ∧
      reservePublicationClaims policy s.db.publicationClaims i v kind configuration =
        .ok ((step policy s a).db.publicationClaims, reserved) ∧
      o.appEnvironmentId = some i ∧ o.deploymentId = some j ∧
      (step policy s a).db.deployments.lookup j = some d ∧ d.configuration = reserved ∧
      d.workloadKind = kind := by
  obtain ⟨request, rfl⟩ : ∃ request, a = .createDeployment request := by
    cases hins with
    | attach _ _ _ hkind | create _ _ _ hkind => exact nomatch hkind.symm.trans hk
    | delete | expand | remove => cases hk
    | deploy request => exact ⟨request, rfl⟩
    | ensureVolume | applyDeployment => cases hr
  have h := step_effect policy s (.createDeployment request)
  generalize step policy s (.createDeployment request) = s' at h hl
  cases h with
  | idle | session | branch => exact nomatch hn.symm.trans hl
  | workspaceDone | volumeDone | environmentDone | deploymentDone | retry =>
    exact absurd hl (not_lookup_modify hn)
  | failed _ _ _ op _ message =>
    rw [(reportFailure_frame op.2 message).1] at hl
    exact absurd hl (not_lookup_modify hn)
  | deploy _ i _ _ _ ae revision _ reserved _ _ _ _ _ _ _ _ had hres =>
    rcases lookup_insert_eq_some.mp hl with ⟨-, rfl⟩ | hl
    · exact ⟨i, s.db.deployments.nextId, revision.version, ae.workloadKind, _, reserved, _, had,
        hres, rfl, rfl, lookup_insert_self, rfl, rfl⟩
    · exact nomatch hn.symm.trans hl

/-- The row an endpoint was given serves the endpoint that is stored. -/
theorem backs_withPort {row : Option PublicationClaim} {port : Option ℤ} (h : MayGet row i e port) :
    Backs exact (withPort e port) e.type port := by
  unfold MayGet at h
  constructor
  · intro _
    cases port <;> rfl
  · intro htcp
    have ht : e.type = .tcp := by cases port <;> exact htcp
    simp only [ht] at h
    obtain ⟨_, rfl, -⟩ := h
    rfl

/-- A deployment whose endpoints were just reserved is backed. -/
theorem backed_of_reserve {claims : Table PublicationClaim} {v : ℕ}
    {configuration reserved : RuntimeConfig} (hu : HostnamesUnique claims)
    (hdist : HostnamesDistinct policy kind configuration.publicEndpoints)
    (h : reservePublicationClaims policy claims i v kind configuration =
      .ok (db.publicationClaims, reserved)) (hconf : d.configuration = reserved)
    (hkind : d.workloadKind = kind) : Backed exact policy db i d := by
  obtain ⟨hu', _, hr, hreg⟩ := reservePublicationClaims_registry hu h
  intro e he
  rw [hconf] at he
  obtain ⟨e₀, -, hostname, port, rfl, hres, hrow⟩ := hr.of_mem_stored hdist he
  have hres' : policy.resolve d.workloadKind (withPort e₀ port) = .ok hostname := by
    rw [hkind, resolve_withPort, hres]
  refine ⟨hostname, mem_toOption_iff.mpr hres', (owns_iff hu').mpr ?_⟩
  refine ⟨rewritten (registry claims hostname) (reservation i v e₀ hostname port), ?_, rfl,
    backs_withPort hrow.granted⟩
  rw [hreg, released, hrow.row, Option.bind_some, if_neg]
  rintro ⟨-, hne⟩
  exact hne rfl

/-! ### Deployments that are being applied -/

/-- What a run that keeps deployments in flight keeps. -/
structure Published (exact : Bool) (policy : PublicationPolicy) (s : State) : Prop where
  ordered : Ordered s.db
  targets : TargetsValid s.db
  oneActive : OneActive s.db
  copies : CopiesSound s
  unique : HostnamesUnique s.db.publicationClaims
  valid : RowsValid (registry s.db.publicationClaims)
  inFlight : InFlightPublication exact policy s.db

/-- The endpoints of a configuration that the action reserves use the hostname, unless it is
served. -/
theorem Covers.use {configuration : RuntimeConfig} (h : Covers policy db kind configuration d)
    (hu : HostnamesUnique db.publicationClaims) (he : e ∈ d.configuration.publicEndpoints)
    (hres : policy.resolve d.workloadKind e = .ok hostname)
    (hc : registry db.publicationClaims hostname = some c) :
    (∃ e' ∈ configuration.publicEndpoints, policy.resolve kind e' = .ok hostname) ∨
      c.currentConfigurationVersion ≠ none := by
  rcases h e he with ⟨e', he', heq⟩ | hany
  · exact .inl ⟨e', he', heq.trans hres⟩
  · obtain ⟨_, q, hk, hq, hlive⟩ := any_iff.mp hany
    obtain rfl : hostname = q.hostname := Except.ok.inj (hres.symm.trans hq)
    cases (find_of_lookup hu hk).symm.trans hc
    exact .inr hlive

section Published

variable (h : Published exact policy s)

include h

/-- What is held for a deployment is the copy of an operation that applies it. -/
theorem Published.applies {op : ClaimedOperation} {j : ℕ}
    (ho : s.db.operations.lookup op.1 = some o) (hw : o.work = op.2.work)
    (hi : op.2.appEnvironmentId = some i) (hj : op.2.deploymentId = some j) :
    o.kind = .applyDeployment ∧ o.appEnvironmentId = some i ∧ o.deploymentId = some j := by
  have hoj : o.deploymentId = some j := (congrArg Operation.deploymentId hw :).trans hj
  exact ⟨(h.targets op.1 o ho).kind_of_deployment (by simp [hoj]),
    (congrArg Operation.appEnvironmentId hw :).trans hi, hoj⟩

/-- While an operation of an environment stays active, no operation of the environment is
completed. -/
theorem Published.not_completed {o' : Operation} (hk : s.db.operations.lookup k = some o)
    (hk' : (step policy s a).db.operations.lookup k = some o') (ha : o'.Active)
    (hf : Follows s.now (causes policy s a k o) o o') (hi : o.appEnvironmentId = some i)
    {op : ClaimedOperation} (hdone : completed policy s a = some op) :
    op.2.appEnvironmentId ≠ some i := by
  intro he
  obtain ⟨q, hq, hw, hrun, hq'⟩ := row_of_completed h.copies hdone
  have hqe : q.appEnvironmentId = op.2.appEnvironmentId :=
    (congrArg Operation.appEnvironmentId hw :)
  have hkop : k = op.1 :=
    h.oneActive k op.1 o q hk hq (hf.active ha) (.inr hrun) (by simp [hi])
      (hi.trans (hqe.trans he).symm)
  subst hkop
  cases hk'.symm.trans hq'
  rcases ha with ha | ha <;> cases ha

/-- A deployment that stays in flight stays backed. -/
theorem Published.backed (hg : KeepsInFlight exact policy s a) {j : ℕ} {o' : Operation}
    (hk : s.db.operations.lookup k = some o)
    (hk' : (step policy s a).db.operations.lookup k = some o') (ha : o'.Active)
    (hf : Follows s.now (causes policy s a k o) o o') (hkind : o.kind = .applyDeployment)
    (hi : o.appEnvironmentId = some i) (hj : o.deploymentId = some j)
    (hd : s.db.deployments.lookup j = some d) :
    Backed exact policy (step policy s a).db i d := by
  have hex : s.db.appEnvironments.lookup i ≠ none := by
    obtain ⟨x, _, hx, hae, -⟩ := h.ordered.active k o hk hkind (hf.active ha)
    cases hx.symm.trans hi
    simp [hae]
  have hmem : d ∈ o.deploymentId.bind s.db.deployments.lookup := by
    rw [hj]
    exact hd
  have hstep := step_claims policy s a
  intro e he
  obtain ⟨hostname, hres, hown⟩ := h.inFlight k o hk ⟨hkind, hf.active ha⟩ i hi d hmem e he
  obtain ⟨c, hc, ho, hb⟩ := (owns_iff h.unique).mp hown
  refine ⟨hostname, hres, (owns_iff (hstep.unique h.unique)).mpr ?_⟩
  have hguard {kind : WorkloadKind} {configuration : RuntimeConfig}
      (had : adopted s a = some (i, kind, configuration)) :
      HostnamesDistinct policy kind configuration.publicEndpoints ∧
        Agrees exact policy s.db i kind configuration d ∧
        Covers policy s.db kind configuration d := by
    obtain ⟨hdist, hkeep⟩ := hg.2 _ had
    exact ⟨hdist, hkeep k o hk ⟨hkind, hf.active ha, hi⟩ d hmem⟩
  have hrow := hstep.row h.unique hex hc ho fun kind configuration had =>
    ⟨(hguard had).1, (hguard had).2.2.use h.unique he (mem_toOption_iff.mp hres) hc⟩
  cases hrow with
  | kept c' hc' ho' _ hcase =>
    rcases hcase with ⟨ht, hp⟩ | ⟨_, _, had, e', he', hres', ht, hm⟩
    · exact ⟨c', hc', ho', by rwa [ht, hp]⟩
    · refine ⟨c', hc', ho', ?_⟩
      rw [ht]
      refine hb.rewritten h.unique hc (h.valid hostname c hc) hres' ?_ hm
      exact (hguard had).2.1 e he e' he' (hres'.trans (mem_toOption_iff.mp hres).symm)
  | completed _ _ _ hdone _ hoe =>
    exact absurd hoe (h.not_completed hk hk' ha hf hi hdone)
  | archived _ _ hdone hoe => exact absurd hoe (h.not_completed hk hk' ha hf hi hdone)

/-- **One step keeps deployments in flight backed.** -/
theorem Published.step (hg : KeepsInFlight exact policy s a) :
    Published exact policy (step policy s a) := by
  have hstep := step_claims policy s a
  refine ⟨h.ordered.step policy a, h.targets.step policy a, h.oneActive.step policy a,
    h.copies.step policy a, hstep.unique h.unique, hstep.rowsValid h.unique h.valid, ?_⟩
  rintro k o' hk' ⟨hkind, ha⟩ i hi d' hd'
  obtain ⟨j, hj, hdl⟩ := Option.bind_eq_some_iff.mp hd'
  rcases operation_cases policy a hk' with ⟨o, hk, hf⟩ | ⟨hk, -, hins⟩
  · rw [hf.kind] at hkind
    rw [hf.appEnvironmentId] at hi
    rw [hf.deploymentId] at hj
    -- the deployment was there before: it is the desired one
    obtain ⟨x, ae, _, hae, hdes⟩ := h.ordered.active k o hk hkind (hf.active ha)
    obtain ⟨_, hdl₀, -⟩ := h.ordered.desired x ae j hae (hdes.symm.trans hj)
    obtain ⟨hcore, -⟩ := of_found (step_deployment policy a hdl₀) hdl
    exact (h.backed hg hk hk' ha hf hkind hi hj hdl₀).of_core hcore
  · obtain ⟨i₁, j₁, _, _, _, _, d, had, hres, hi₁, hj₁, hdl₁, hconf, hknd⟩ :=
      step_new_application policy a hg.1 hk hins hk' hkind
    cases hi.symm.trans hi₁
    cases hj.symm.trans hj₁
    cases hdl₁.symm.trans hdl
    exact backed_of_reserve h.unique (hg.2 _ had).1 hres hconf hknd

end Published

/-! ### Activation does not fail -/

/-- The endpoints can all be activated if and only if the environment owns a row for every
hostname. -/
theorem activateEndpoints_isOk {claims : Table PublicationClaim} {v : ℕ} {es : List PublicEndpoint} :
    (∃ claims', activateEndpoints policy i v kind claims es = .ok claims') ↔
      ∀ e ∈ es, ∃ hostname, policy.resolve kind e = .ok hostname ∧
        claims.Any fun _ c => c.appEnvironmentId = i ∧ c.hostname = hostname := by
  induction es generalizing claims with
  | nil => exact ⟨fun _ _ he => absurd he List.not_mem_nil, fun _ => ⟨claims, rfl⟩⟩
  | cons e es ih =>
    -- activating one endpoint changes no owner and no hostname
    have hkept (hostname x : String) : ((claims.modify (fun _ c => c.appEnvironmentId = i ∧
        c.hostname = hostname) (served v)).Any fun _ c => c.appEnvironmentId = i ∧ c.hostname = x) ↔
          claims.Any fun _ c => c.appEnvironmentId = i ∧ c.hostname = x := by
      constructor <;> intro hany <;> obtain ⟨k, c, hk, hc⟩ := any_iff.mp hany
      · obtain ⟨_, hq, ⟨-, rfl⟩ | ⟨-, rfl⟩⟩ := lookup_modify_eq_some.mp hk <;>
          exact any_iff.mpr ⟨k, _, hq, hc⟩
      · exact any_iff.mpr ⟨k, exists_lookup_modify hk hc fun _ => hc⟩
    constructor
    · rintro ⟨_, h⟩
      simp only [activateEndpoints, activateEndpoint, ok_iff] at h
      obtain ⟨_, ⟨hostname, hres, hany, rfl⟩, h⟩ := h
      refine List.forall_mem_cons.mpr ⟨⟨hostname, hres, hany⟩, fun e he => ?_⟩
      obtain ⟨x, hx, hown⟩ := ih.mp ⟨_, h⟩ e he
      exact ⟨x, hx, (hkept hostname x).mp hown⟩
    · intro h
      obtain ⟨⟨hostname, hres, hany⟩, hrest⟩ := List.forall_mem_cons.mp h
      obtain ⟨claims', hc'⟩ := ih.mpr fun e he =>
        (hrest e he).imp fun x hx => ⟨hx.1, (hkept hostname x).mpr hx.2⟩
      refine ⟨claims', ?_⟩
      simp only [activateEndpoints, activateEndpoint, hres, ok_iff, Except.ok.injEq,
        exists_eq_left']
      exact ⟨_, ⟨hany, rfl⟩, hc'⟩

/-- A deployment can go live if and only if its environment owns a row for every hostname. -/
theorem activatePublicationClaims_isOk {claims : Table PublicationClaim} {v : ℕ}
    {configuration : RuntimeConfig} :
    (∃ claims', activatePublicationClaims policy claims i v kind configuration = .ok claims') ↔
      ∀ e ∈ configuration.publicEndpoints, ∃ hostname, policy.resolve kind e = .ok hostname ∧
        claims.Any fun _ c => c.appEnvironmentId = i ∧ c.hostname = hostname := by
  rw [← activateEndpoints_isOk (v := v)]
  simp only [activatePublicationClaims, ok_iff]
  constructor
  · rintro ⟨_, c, hc, -⟩
    exact ⟨c, hc⟩
  · rintro ⟨c, hc⟩
    exact ⟨_, c, hc, rfl⟩

theorem Backed.activates (h : Backed exact policy db i d) (v : ℕ) :
    ∃ claims, activatePublicationClaims policy db.publicationClaims i v d.workloadKind
      d.configuration = .ok claims := by
  refine activatePublicationClaims_isOk.mpr fun e he => ?_
  obtain ⟨hostname, hres, hown⟩ := h e he
  obtain ⟨k, c, hk, ho, hh, -⟩ := any_iff.mp hown
  exact ⟨hostname, mem_toOption_iff.mp hres, any_iff.mpr ⟨k, c, hk, ho, hh⟩⟩

/-- Completing a deployment fails with a conflict only if its endpoints cannot be activated. -/
theorem completeDeployment_eq_conflict {now : Time} {op : ClaimedOperation}
    {message release specHash : String} {volume : Option VolumeCompletion}
    (h : completeDeployment policy now db op message release specHash volume =
      .error .publicationConflict) :
    ∃ j d, db.operations.Any (LeaseHeld now op) ∧ op.2.deploymentId = some j ∧
      op.2.appEnvironmentId = some d.appEnvironmentId ∧ db.deployments.lookup j = some d ∧
      activatePublicationClaims policy db.publicationClaims d.appEnvironmentId
        d.configurationVersion d.workloadKind d.configuration = .error .publicationConflict := by
  have hvolume {db : Db} {o : Operation} {d : Deployment} :
      finishVolume db o d volume ≠ .error .publicationConflict := by
    cases volume with
    | none => exact nofun
    | some =>
      simp only [finishVolume, ne_eq, bind_eq_error, expect_eq_error, require_eq_error,
        pure_ne_error, reduceCtorEq, and_false, or_self, exists_false, not_false_eq_true]
  simp only [completeDeployment, completeOperationLease, finishDeployment, goLive, bind_eq_error,
    require_eq_error, expect_eq_error, bind_eq_ok, require_eq_ok, expect_eq_ok, pure_eq_ok,
    pure_ne_error, exists_const, reduceCtorEq, and_false, or_false, false_or, hvolume] at h
  obtain ⟨_, ⟨hl, rfl⟩, j, hj, i, hi, d, hd, _, ⟨hde, -, rfl⟩, _, hv, hact⟩ := h
  obtain rfl : d.appEnvironmentId = i := by
    rw [hi] at hde
    exact Option.some.inj hde
  refine ⟨j, d, hl, hj, hi, hd, ?_⟩
  rcases finishVolume_eq_ok.mp hv with ⟨-, rfl⟩ | ⟨_, _, -, -, -, rfl⟩ <;> exact hact

/-! ### Runs that keep what is in flight -/

/-- No worker's call that completes a deployment fails because of its endpoints. -/
def NeverConflicts (policy : PublicationPolicy) (s : State) : Prop :=
  ∀ k op, s.held.lookup k = some op → ∀ message release specHash volume,
    completeDeployment policy s.now s.db op message release specHash volume ≠
      .error .publicationConflict

theorem Published.neverConflicts (h : Published exact policy s) : NeverConflicts policy s := by
  intro k op hk message release specHash volume hconflict
  obtain ⟨_, d, hheld, hj, hi, hd, hact⟩ := completeDeployment_eq_conflict hconflict
  obtain ⟨_, o, ho, rfl, hrun, -⟩ := any_iff.mp hheld
  have hw := of_found (h.copies k op hk) ho
  obtain ⟨hkind, hoi, hoj⟩ := h.applies ho hw hi hj
  have hb := h.inFlight op.1 o ho ⟨hkind, .inr hrun⟩ d.appEnvironmentId hoi d
    (by rw [hoj]; exact hd)
  obtain ⟨_, hok⟩ := hb.activates d.configurationVersion
  rw [hok] at hact
  cases hact

theorem Initial.published (h₀ : Initial s) : Published exact policy s where
  ordered := h₀.ordered
  targets := h₀.targetsValid_run policy []
  oneActive := h₀.oneActive_run policy []
  copies := h₀.copiesSound_run policy []
  unique := by
    rw [h₀.claims]
    exact keyUnique_empty
  valid := by
    rw [h₀.claims]
    exact fun _ _ hc => nomatch hc
  inFlight _ _ := of_lookup_empty h₀.operations

/-- **Orderly edits keep what is in flight.** In a run whose edits do no harm to a deployment that
is being applied, an environment owns the hostname and the port of every endpoint of such a
deployment, and completing it never fails because of them. -/
theorem inFlightPublication_of_keepsInFlight (policy : PublicationPolicy) (s₀ : State)
    (acts : List Action) (h₀ : Initial s₀)
    (hg : Guarded (step policy) (KeepsInFlight false policy) s₀ acts) :
    InFlightPublication false policy (run (step policy) s₀ acts).db ∧
      NeverConflicts policy (run (step policy) s₀ acts) := by
  have h : Published false policy (run (step policy) s₀ acts) :=
    guarded_run_induction h₀.published (fun s a h hg => h.step hg) hg
  exact ⟨h.inFlight, h.neverConflicts⟩

/-- An HTTP endpoint with the given label. -/
def webEndpoint (label : String) : PublicEndpoint :=
  ⟨"web", .http, "http", "default", label, 0⟩

/-- A TCP endpoint with the given label. -/
def tcpEndpoint (label : String) : PublicEndpoint :=
  ⟨"raw", .tcp, "http", "default", label, 0⟩

/-- A deployment of one endpoint, and an edit that adds another while it is applied. -/
def orderlyEditRun : List Action :=
  [.createAppEnvironment (newEnvironment "env-one" [webEndpoint "one"]),
    .createDeployment (firstDeployment "env-one" 1),
    .updateAppEnvironment 1 "env-one" "main"
      (smallConfig [webEndpoint "one", tcpEndpoint "two"]) 2,
    .claimNext "agent:cls-one" "cls-one" 60]

theorem inFlightPublication_orderlyEditRun :
    (Initial smallStore ∧ Guarded (step smallPolicy) (KeepsInFlight false smallPolicy)
      smallStore orderlyEditRun) ∧
    InFlightPublication false smallPolicy
      (run (step smallPolicy) smallStore orderlyEditRun).db ∧
    NeverConflicts smallPolicy (run (step smallPolicy) smallStore orderlyEditRun) :=
  ⟨⟨smallStore_initial, by decide +kernel⟩,
    inFlightPublication_of_keepsInFlight smallPolicy smallStore orderlyEditRun smallStore_initial
      (by decide +kernel)⟩

/-- A deployment of one endpoint, and an edit that replaces its hostname before it is applied. -/
def hastyEditRun : List Action :=
  [.createAppEnvironment (newEnvironment "env-one" [webEndpoint "one"]),
    .createDeployment (firstDeployment "env-one" 1),
    .updateAppEnvironment 1 "env-one" "main" (smallConfig [webEndpoint "two"]) 2,
    .claimNext "agent:cls-one" "cls-one" 60]

/-- The row of the first hostname is gone, and the deployment cannot be completed. -/
theorem not_inFlightPublication_hastyEditRun :
    ¬ InFlightPublication false smallPolicy
        (run (step smallPolicy) smallStore hastyEditRun).db ∧
      heldCall smallPolicy (run (step smallPolicy) smallStore hastyEditRun) 1
        (fun op => answer op goodResult) = .error .publicationConflict := by
  decide +kernel

end Molejo.Store
