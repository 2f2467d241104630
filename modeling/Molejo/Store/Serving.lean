import Molejo.Store.Publishing

/-!
# What is served stays reserved

The endpoints of the current deployment of an environment are being served, so nobody
else should be given their hostnames or ports. The rows that say so are marked: they
have a current version, and a row with a current version is dropped only when a later
deployment is completed or the environment is archived.

The mark protects the row, not what the row says. An edit that uses the hostname for
an endpoint of another type, or under another name, rewrites the type and the port of
a row that is being served, and the port it served is free for others from then on.
`KeepsCurrent` excludes exactly such edits.
-/

namespace Molejo.Store

open Transaction Table Transition

variable {policy : PublicationPolicy} {s : State} {a : Action} {db db' : Db} {i : ℕ}
  {d : Deployment}

/-! ### Rows that are served -/

/-- Every endpoint of the deployment has a row of the environment that serves it. -/
def Served (policy : PublicationPolicy) (db : Db) (i : ℕ) (d : Deployment) : Prop :=
  ∀ e ∈ d.configuration.publicEndpoints, ∃ hostname c,
    policy.resolve d.workloadKind e = .ok hostname ∧
    registry db.publicationClaims hostname = some c ∧ c.appEnvironmentId = i ∧
    Backs true e c.endpointType c.externalPort ∧ c.currentConfigurationVersion ≠ none

theorem Served.backed (h : Served policy db i d) (hu : HostnamesUnique db.publicationClaims) :
    Backed true policy db i d := by
  intro e he
  obtain ⟨hostname, c, hres, hc, ho, hb, -⟩ := h e he
  exact ⟨hostname, mem_toOption_iff.mpr hres, (owns_iff hu).mpr ⟨c, hc, ho, hb⟩⟩

theorem Served.of_core {d' : Deployment} (h : Served policy db i d) (hc : d'.core = d.core) :
    Served policy db i d' := by
  change Served policy db i d'.core
  rw [hc]
  exact h

/-- A deployment that was backed is served once its endpoints are activated. -/
theorem Backed.served {v : ℕ}
    (h : Backed true policy db i d) (hu : HostnamesUnique db.publicationClaims)
    (hact : activatePublicationClaims policy db.publicationClaims i v d.workloadKind
      d.configuration = .ok db'.publicationClaims) : Served policy db' i d := by
  obtain ⟨-, _, hr, hreg⟩ := activatePublicationClaims_registry hu hact
  intro e he
  obtain ⟨hostname, hres, hown⟩ := h e he
  obtain ⟨c, hc, ho, hb⟩ := (owns_iff hu).mp hown
  have hres := mem_toOption_iff.mp hres
  rcases hr.row hostname with ⟨-, q, hq, -, hr'⟩ | ⟨hn, -⟩
  · cases hc.symm.trans hq
    refine ⟨hostname, Store.served v c, hres, ?_, ho, hb, nofun⟩
    rw [hreg, settled, hr', Option.filter_some, if_pos]
    simp [Store.served]
  · exact absurd hres (hn e he)

/-! ### The invariant -/

/-- What a run keeps that harms neither deployments in flight nor current ones. -/
structure PublishedLive (policy : PublicationPolicy) (s : State) : Prop
    extends Published true policy s where
  live : ∀ i ae j d, s.db.appEnvironments.lookup i = some ae → ae.archivedAt = none →
    ae.currentDeploymentId = some j → s.db.deployments.lookup j = some d → Served policy s.db i d

section Step

variable (h : PublishedLive policy s)

include h

/-- The deployment of an operation that is being completed is backed. -/
theorem PublishedLive.backed_of_completed {op : ClaimedOperation} {j : ℕ}
    (hdone : completed policy s a = some op) (hi : op.2.appEnvironmentId = some i)
    (hj : op.2.deploymentId = some j) (hd : s.db.deployments.lookup j = some d) :
    Backed true policy s.db i d := by
  obtain ⟨o, ho, hw, hrun, -⟩ := row_of_completed h.copies hdone
  obtain ⟨hkind, hoi, hoj⟩ := h.applies ho hw hi hj
  exact h.inFlight op.1 o ho ⟨hkind, .inr hrun⟩ i hoi d (by rw [hoj]; exact hd)

/-- The deployment of an operation that is being completed is the desired one. -/
theorem PublishedLive.desired_of_completed {op : ClaimedOperation} {j : ℕ} {ae : AppEnvironment}
    (hdone : completed policy s a = some op) (hi : op.2.appEnvironmentId = some i)
    (hj : op.2.deploymentId = some j) (hl : s.db.appEnvironments.lookup i = some ae) :
    ae.desiredDeploymentId = some j := by
  obtain ⟨o, ho, hw, hrun, -⟩ := row_of_completed h.copies hdone
  obtain ⟨hkind, hoi, hoj⟩ := h.applies ho hw hi hj
  obtain ⟨x, ae₀, hx, hae, hdes⟩ := h.ordered.active op.1 o ho hkind (.inr hrun)
  cases hx.symm.trans hoi
  cases hl.symm.trans hae
  exact hdes.symm.trans hoj

/-- A deployment that stays current stays served. -/
theorem PublishedLive.served_step (hg : KeepsInFlight true policy s a)
    (hgc : KeepsCurrent policy s a) {ae ae' : AppEnvironment} {j : ℕ}
    (hl : s.db.appEnvironments.lookup i = some ae) (hna : ae.archivedAt = none)
    (hj : ae.currentDeploymentId = some j) (hd : s.db.deployments.lookup j = some d)
    (hl' : (step policy s a).db.appEnvironments.lookup i = some ae') (hna' : ae'.archivedAt = none)
    (hj' : ae'.currentDeploymentId = some j) : Served policy (step policy s a).db i d := by
  have hstep := step_claims policy s a
  intro e he
  obtain ⟨hostname, c, hres, hc, ho, hb, hlive⟩ := h.live i ae j d hl hna hj hd e he
  have hrow := hstep.row h.unique (by simp [hl]) hc ho fun kind configuration had =>
    ⟨(hg.2 _ had).1, .inr hlive⟩
  cases hrow with
  | kept c' hc' ho' hcur hcase =>
    refine ⟨hostname, c', hres, hc', ho', ?_, hcur ▸ hlive⟩
    rcases hcase with ⟨ht, hp⟩ | ⟨_, _, had, e', he', hres', ht, hm⟩
    · rwa [ht, hp]
    · rw [ht]
      refine hb.rewritten h.unique hc (h.valid hostname c hc) hres' ?_ hm
      exact hgc _ had ae hl d (by rw [hj]; exact hd) e he e' he' (hres'.trans hres.symm)
  | completed _ k d₁ hdone hde hoe hd₁ hw hact =>
    -- what was completed is desired, hence current now
    have hj₁ := of_found (hw ae hl (h.desired_of_completed hdone hoe hde hl)) hl'
    cases hj'.symm.trans hj₁
    cases hd.symm.trans hd₁
    exact (h.backed_of_completed hdone hoe hde hd).served h.unique hact e he
  | archived _ ae₁ _ _ hl₁ hna₁ =>
    cases hl'.symm.trans hl₁
    exact absurd hna' hna₁

/-- **One step keeps what is served.** -/
theorem PublishedLive.step (hg : KeepsInFlight true policy s a) (hgc : KeepsCurrent policy s a) :
    PublishedLive policy (step policy s a) := by
  refine ⟨h.toPublished.step hg, ?_⟩
  intro i ae' j d' hl' hna' hj' hd'
  rcases environment_cases policy a hl' with ⟨ae, hl, hstep⟩ | hnew
  · have hna := hstep.archivedAt hna'
    -- either the deployment was current already, or it was just completed
    have hkept (hj : ae.currentDeploymentId = some j) :
        Served policy (Store.step policy s a).db i d' := by
      obtain ⟨⟨_, hd, -⟩, -⟩ := h.ordered.current i ae j hl hj
      obtain ⟨hcore, -⟩ := of_found (step_deployment policy a hd) hd'
      exact (h.served_step hg hgc hl hna hj hd hl' hna' hj').of_core hcore
    cases hstep with
    | report hc => exact hkept ((current_of_core hc).symm.trans hj')
    | current _ k _ _ _ hdone hoe hde _ _ hact =>
      obtain rfl : k = j := Option.some.inj hj'
      obtain ⟨_, hd, hact⟩ := hact
      obtain ⟨hcore, -⟩ := of_found (step_deployment policy a hd) hd'
      exact ((h.backed_of_completed hdone hoe hde hd).served h.unique hact).of_core hcore
    | _ => exact hkept hj'
  · rw [hnew.2.1] at hj'
    cases hj'

end Step

/-! ### Runs that keep what is served -/

/-- No other environment can be given the hostname of an endpoint that is served, or its port. -/
def ServedExclusively (policy : PublicationPolicy) (db : Db) : Prop :=
  ∀ i ae j d, db.appEnvironments.lookup i = some ae → ae.archivedAt = none →
    ae.currentDeploymentId = some j → db.deployments.lookup j = some d →
    ∀ e ∈ d.configuration.publicEndpoints, ∀ hostname,
      policy.resolve d.workloadKind e = .ok hostname →
    ∀ k v kind configuration claims reserved, k ≠ i →
      reservePublicationClaims policy db.publicationClaims k v kind configuration =
        .ok (claims, reserved) →
    ∀ e' ∈ reserved.publicEndpoints, policy.resolve kind e' ≠ .ok hostname ∧
      (e.type = .tcp → e'.type = .tcp → e'.externalPort ≠ e.externalPort)

theorem PublishedLive.livePublication (h : PublishedLive policy s) :
    LivePublication policy s.db := by
  intro i ae hl hna d hd
  obtain ⟨j, hj, hdl⟩ := Option.bind_eq_some_iff.mp hd
  exact (h.live i ae j d hl hna hj hdl).backed h.unique

theorem PublishedLive.servedExclusively (h : PublishedLive policy s) :
    ServedExclusively policy s.db := by
  intro i ae j d hl hna hj hd e he hostname hres k v kind configuration claims reserved hk hreserve
    e' he'
  obtain ⟨x, c, hx, hc, ho, hb, -⟩ := h.live i ae j d hl hna hj hd e he
  obtain rfl : x = hostname := Except.ok.inj (hx.symm.trans hres)
  obtain ⟨-, _, hr, -⟩ := reservePublicationClaims_registry h.unique hreserve
  have hne : c.appEnvironmentId ≠ k := fun hck => hk (hck.symm.trans ho)
  obtain ⟨hhost, hport⟩ := (hr.of_other hc hne).2 e' he'
  refine ⟨hhost, fun htcp htcp' heq => hport htcp' ?_⟩
  rw [hb.2 htcp, heq]

theorem Initial.publishedLive (h₀ : Initial s) : PublishedLive policy s where
  toPublished := h₀.published
  live _ _ _ _ := of_lookup_empty h₀.environments

/-- **Orderly edits keep what is served.** In a run whose edits do no harm to the endpoints of
deployments that are current or being applied, an environment owns the hostname, with the type and
the port, of every endpoint it serves, and no other environment can be given them. -/
theorem livePublication_of_keepsCurrent (policy : PublicationPolicy) (s₀ : State)
    (acts : List Action) (h₀ : Initial s₀)
    (hg : Guarded (step policy)
      (fun s a => KeepsInFlight true policy s a ∧ KeepsCurrent policy s a) s₀ acts) :
    LivePublication policy (run (step policy) s₀ acts).db ∧
      ServedExclusively policy (run (step policy) s₀ acts).db := by
  have h : PublishedLive policy (run (step policy) s₀ acts) :=
    guarded_run_induction h₀.publishedLive (fun s a h hg => h.step hg.1 hg.2) hg
  exact ⟨h.livePublication, h.servedExclusively⟩

/-- A TCP endpoint is deployed and served, and an edit adds an HTTP endpoint on another hostname. -/
def orderlyServingRun : List Action :=
  [.createAppEnvironment (newEnvironment "env-one" [tcpEndpoint "one"]),
    .createDeployment (firstDeployment "env-one" 1),
    .claimNext "agent:cls-one" "cls-one" 60, .handleResult 1 goodResult,
    .updateAppEnvironment 1 "env-one" "main"
      (smallConfig [tcpEndpoint "one", webEndpoint "two"]) 2]

theorem livePublication_orderlyServingRun :
    (Initial smallStore ∧ Guarded (step smallPolicy)
      (fun s a => KeepsInFlight true smallPolicy s a ∧ KeepsCurrent smallPolicy s a) smallStore
      orderlyServingRun) ∧
    LivePublication smallPolicy
      (run (step smallPolicy) smallStore orderlyServingRun).db ∧
    ServedExclusively smallPolicy
      (run (step smallPolicy) smallStore orderlyServingRun).db :=
  ⟨⟨smallStore_initial, by decide +kernel⟩,
    livePublication_of_keepsCurrent smallPolicy smallStore orderlyServingRun smallStore_initial
      (by decide +kernel)⟩

/-- A TCP endpoint is deployed and served, its hostname is edited to be an HTTP endpoint, and an
environment of another application asks for a TCP endpoint. -/
def rewrittenRowRun : List Action :=
  [.createAppEnvironment (newEnvironment "env-one" [tcpEndpoint "one"]),
    .createDeployment (firstDeployment "env-one" 1),
    .claimNext "agent:cls-one" "cls-one" 60, .handleResult 1 goodResult,
    .updateAppEnvironment 1 "env-one" "main" (smallConfig [webEndpoint "one"]) 2,
    .createAppEnvironment
      { newEnvironment "env-two" [tcpEndpoint "two"] with appPublicId := "app-two" }]

/-- The first environment still serves port 7000, but the second one owns it. -/
theorem not_livePublication_rewrittenRowRun :
    ¬ LivePublication smallPolicy
        (run (step smallPolicy) smallStore rewrittenRowRun).db ∧
      (run (step smallPolicy) smallStore rewrittenRowRun).db.publicationClaims.Any
        fun _ c => c.appEnvironmentId = 2 ∧ c.externalPort = some 7000 := by
  decide +kernel

end Molejo.Store
