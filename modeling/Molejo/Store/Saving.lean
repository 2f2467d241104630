import Mathlib.Data.List.Pairwise
import Molejo.Store.Publishing

/-!
# What is saved can be deployed

Saving a configuration reserves its endpoints. The point is that nobody else can take
a hostname or a port between saving a configuration and deploying it, so that
deploying the newest revision is never refused because of its endpoints.

Reservations are kept by version. Whoever reserves last names a version, and the rows
of the environment that this version does not use are given up unless they are being
served. Deploying an *older* revision reserves too: it gives up the rows of the newer
one that was saved, and another environment may take them. `KeepsSaved` excludes this
and a configuration that uses one hostname twice.

The invariant `SavedSound` says, of every endpoint of a saved configuration, that the
environment has a row for it that is *desired*. It is the mark that matters here: a
row that is desired survives the completion of whatever deployment, and no
reservation of another environment touches it.
-/

namespace Molejo.Store

open Transaction Table Transition

variable {policy : PublicationPolicy} {s : State} {a : Action} {db db' : Db} {i j v : ℕ}
  {kind : WorkloadKind} {claims claims' : Table PublicationClaim} {r r' : Registry}
  {e e' : PublicEndpoint} {es es' : List PublicEndpoint} {hostname : String}
  {c : PublicationClaim} {ae : AppEnvironment}

/-! ### The properties -/

/-- **Saved publication.** An environment that is not archived owns a row for every endpoint of the
configuration it has saved. -/
def SavedPublication (policy : PublicationPolicy) (db : Db) : Prop :=
  ∀ i ae, db.appEnvironments.lookup i = some ae → ae.archivedAt = none →
    ∀ e ∈ ae.configuration.publicEndpoints,
      ∃ hostname ∈ (policy.resolve ae.workloadKind e).toOption, Owns false db i e hostname
deriving Decidable

/-- Deploying the newest revision of an environment is never refused because of its endpoints. -/
def LatestDeployable (policy : PublicationPolicy) (now : Time) (db : Db) : Prop :=
  ∀ request i ae, appEnvironmentForUpdate db request.workspaceId request.appEnvironmentPublicId =
      .ok (i, ae) → request.configurationVersion = ae.configurationVersion →
    createDeployment policy now db request ≠ .error .publicationConflict ∧
      createDeployment policy now db request ≠ .error .publicationUnavailable

/-! ### Reservations that do no harm -/

/-- The configuration of the environment that the action creates, with its kind. -/
def Action.created : Action → Option (WorkloadKind × RuntimeConfig)
  | .createAppEnvironment request =>
    some (request.workloadKind, normalizeRuntimeConfig request.configuration)
  | _ => none

/-- The configuration version that the action deploys. -/
def Action.deploys : Action → Option ℕ
  | .createDeployment request => some request.configurationVersion
  | _ => none

/-- Reserving the configuration keeps what is reserved for every endpoint of the saved one. -/
def Carries (policy : PublicationPolicy) (db : Db) (i : ℕ) (kind : WorkloadKind)
    (configuration saved : RuntimeConfig) : Prop :=
  ∀ e ∈ saved.publicEndpoints, ∃ e' ∈ configuration.publicEndpoints,
    policy.resolve kind e' = policy.resolve kind e ∧
      Backs false e e'.type (requestedPort policy db i kind e')
deriving Decidable

/-- A configuration that the action saves has no hostname twice, and a revision that it deploys is
the newest one, or has no hostname twice either and carries what is saved. -/
def KeepsSaved (policy : PublicationPolicy) (s : State) (a : Action) : Prop :=
  (∀ x ∈ a.created, HostnamesDistinct policy x.1 x.2.publicEndpoints) ∧
  ∀ x ∈ adopted s a, ∀ ae ∈ s.db.appEnvironments.lookup x.1,
    a.deploys = some ae.configurationVersion ∨
      HostnamesDistinct policy x.2.1 x.2.2.publicEndpoints ∧
        (a.deploys ≠ none → Carries policy s.db x.1 x.2.1 x.2.2 ae.configuration)
deriving Decidable

/-! ### Endpoints that can be reserved again -/

/-- The port an endpoint is stored with. -/
def storedPort (e : PublicEndpoint) : Option ℤ :=
  match e.type with
  | .http => none
  | .tcp => some e.externalPort

/-- TCP endpoints can be published. -/
def TcpOpen (policy : PublicationPolicy) : Prop :=
  policy.tcpEnabled = true ∧ 1 ≤ policy.tcpMinimumPort ∧
    policy.tcpMinimumPort ≤ policy.tcpMaximumPort
deriving Decidable

/-- The endpoint was reserved once under this policy, so nothing about it is wrong. -/
structure Publishable (policy : PublicationPolicy) (kind : WorkloadKind) (e : PublicEndpoint)
    (hostname : String) : Prop where
  resolves : policy.resolve kind e = .ok hostname
  tcpOpen : e.type = .tcp → TcpOpen policy
  valid : ∀ i v, ClaimValid (reservation i v e hostname (storedPort e))

/-- The environment has a row under the hostname that serves the endpoint and is desired. -/
def Keeps (r : Registry) (i : ℕ) (e : PublicEndpoint) (hostname : String) : Prop :=
  ∃ c, r hostname = some c ∧ c.appEnvironmentId = i ∧
    Backs false e c.endpointType c.externalPort ∧ c.desiredConfigurationVersion ≠ none

/-- Everything that is saved of a configuration is reserved. -/
structure Saved (policy : PublicationPolicy) (r : Registry) (i : ℕ) (kind : WorkloadKind)
    (es : List PublicEndpoint) : Prop where
  distinct : HostnamesDistinct policy kind es
  kept : ∀ e ∈ es, ∃ hostname, Publishable policy kind e hostname ∧ Keeps r i e hostname

/-- Two hostnames never have the same port. -/
def PortsUnique (r : Registry) : Prop :=
  ∀ x y c q, r x = some c → r y = some q → c.externalPort ≠ none →
    c.externalPort = q.externalPort → x = y

/-- A stored endpoint asks for the port it has. -/
theorem Publishable.port_ne_zero (h : Publishable policy kind e hostname) (ht : e.type = .tcp) :
    e.externalPort ≠ 0 := by
  have hv := (h.valid 0 0).port_pos (n := e.externalPort) (by
    simp only [reservation, storedPort, ht])
  omega

/-- The ports of a configuration are inherited from itself, if what its endpoints are found by tells
them apart. -/
theorem inheritAllocatedPorts_self {configuration : RuntimeConfig} {α : Type}
    {key : PublicEndpoint → α}
    (hkey : ∀ e e', e.type = e'.type → e.name = e'.name → e.domainId = e'.domainId →
      e.hostnameLabel = e'.hostnameLabel → key e = key e')
    (h : configuration.publicEndpoints.Pairwise fun e e' => key e ≠ key e') :
    inheritAllocatedPorts configuration configuration = configuration := by
  have : Std.Symm fun e e' => key e ≠ key e' := ⟨fun _ _ h => h.symm⟩
  have hport (e : PublicEndpoint) (he : e ∈ configuration.publicEndpoints) :
      inheritedPort e configuration = e.externalPort := by
    unfold inheritedPort
    cases hf : configuration.publicEndpoints.find? fun existing =>
        existing.type = e.type ∧ existing.name = e.name ∧ existing.domainId = e.domainId ∧
          existing.hostnameLabel = e.hostnameLabel with
    | none => simpa using List.find?_eq_none.mp hf e he
    | some =>
      have hp := List.find?_some hf
      simp only [decide_eq_true_eq] at hp
      obtain ⟨ht, hn, hd, hl⟩ := hp
      by_contra hne
      exact List.Pairwise.forall h (List.mem_of_find?_eq_some hf) he
        (fun heq => hne (congrArg PublicEndpoint.externalPort heq)) (hkey _ _ ht hn hd hl)
  have hmap : (inheritAllocatedPorts configuration configuration).publicEndpoints =
      configuration.publicEndpoints := by
    refine (List.map_congr_left fun e he => ?_).trans (List.map_id _)
    cases ht : e.type with
    | http => rfl
    | tcp =>
      obtain ⟨_, _, _, _, _, _⟩ := e
      simp only [hport _ he, id, ← ht]
  exact congrArg (fun es => ({ configuration with publicEndpoints := es } : RuntimeConfig)) hmap

/-- A configuration without a hostname twice inherits its own ports. -/
theorem HostnamesDistinct.inherit_self {configuration : RuntimeConfig}
    (h : HostnamesDistinct policy kind configuration.publicEndpoints) :
    inheritAllocatedPorts configuration configuration = configuration :=
  inheritAllocatedPorts_self (fun _ _ ht _ hd hl => by
    simp only [PublicationPolicy.resolve, ht, hd, hl]) h

/-- A saved configuration carries itself. -/
theorem Saved.carries {configuration : RuntimeConfig}
    (h : Saved policy (registry db.publicationClaims) i kind configuration.publicEndpoints) :
    Carries policy db i kind configuration configuration := by
  intro e he
  obtain ⟨_, hp, -⟩ := h.kept e he
  refine ⟨e, he, rfl, nofun, fun ht => ?_⟩
  simp only [requestedPort, ht, hp.resolves, Except.toOption, Option.map_some, allocatedPort,
    if_pos (hp.port_ne_zero ht)]

/-! ### What becomes of a row that is desired -/

/-- Reserving for another environment leaves the row alone. -/
theorem Keeps.of_other (h : Keeps r i e hostname) (hr : Reserves policy j v kind r es r' es')
    (hij : i ≠ j) : Keeps (released j v r') i e hostname := by
  obtain ⟨c, hc, ho, hb, hd⟩ := h
  have hne : c.appEnvironmentId ≠ j := fun hx => hij (ho.symm.trans hx)
  refine ⟨c, ?_, ho, hb, hd⟩
  rw [released, (hr.of_other hc hne).1, Option.bind_some, if_neg fun hx => hne hx.1]

/-- Completing a deployment drops no row that is desired. -/
theorem Keeps.of_activates (h : Keeps r i e hostname) (hr : Activates policy j v kind r es r') :
    Keeps (settled j v r') i e hostname := by
  obtain ⟨c, hc, ho, hb, hd⟩ := h
  rcases hr.row hostname with ⟨-, q, hq, -, hr'⟩ | ⟨-, hr'⟩
  · cases hc.symm.trans hq
    refine ⟨served v c, ?_, ho, hb, hd⟩
    rw [settled, hr', Option.filter_some, if_pos (by simp [served])]
  · refine ⟨c, ?_, ho, hb, hd⟩
    rw [settled, hr', hc, Option.filter_some, if_pos (by simp [hd])]

/-- Archiving another environment leaves the row alone. -/
theorem Keeps.of_withdrawn {x : Option ℕ} (h : Keeps r i e hostname) (hx : x ≠ some i) :
    Keeps (withdrawn x r) i e hostname := by
  obtain ⟨c, hc, ho, hb, hd⟩ := h
  refine ⟨c, ?_, ho, hb, hd⟩
  rw [withdrawn, hc, Option.filter_some, if_pos]
  simp only [ho, decide_eq_true_eq]
  exact fun hxi => hx hxi.symm

/-- Reserving a configuration of the environment keeps the row if the configuration has an endpoint
there that asks for the same port. -/
theorem Keeps.of_reserves (hu : HostnamesUnique db.publicationClaims)
    (hv : RowsValid (registry db.publicationClaims))
    (h : Keeps (registry db.publicationClaims) i e hostname)
    (hr : Reserves policy i v kind (registry db.publicationClaims) es r' es')
    (hdist : HostnamesDistinct policy kind es) (he' : e' ∈ es)
    (hres : policy.resolve kind e' = .ok hostname)
    (hg : Backs false e e'.type (requestedPort policy db i kind e')) :
    Keeps (released i v r') i e hostname := by
  obtain ⟨c, hc, _, hb, _⟩ := h
  obtain ⟨x, port, hx, hrow⟩ := hr.of_mem hdist he'
  obtain rfl : x = hostname := Except.ok.inj (hx.symm.trans hres)
  refine ⟨rewritten (some c) (reservation i v e' x port), ?_, rfl, ?_, nofun⟩
  · rw [released, hrow.row, hc, Option.bind_some, if_neg]
    rintro ⟨-, hne⟩
    exact hne rfl
  · exact hb.rewritten hu hc (hv x c hc) hres hg (hc ▸ hrow.granted)

theorem Reserves.resolve_eq (h : Reserves policy i v kind r es r' es') :
    es'.map (policy.resolve kind) = es.map (policy.resolve kind) := by
  induction h with
  | nil => rfl
  | cons _ _ _ _ _ _ ih => rw [List.map_cons, List.map_cons, resolve_withPort, ih]

theorem storedPort_withPort {row : Option PublicationClaim} {port : Option ℤ}
    (h : MayGet row i e port) : storedPort (withPort e port) = port := by
  unfold MayGet at h
  cases ht : e.type with
  | http =>
    simp only [ht] at h
    subst h
    simp only [storedPort, withPort, ht]
  | tcp =>
    simp only [ht] at h
    obtain ⟨_, rfl, -⟩ := h
    simp only [storedPort, withPort, ht]

/-- The endpoints of a configuration that was just reserved are saved. -/
theorem Reserves.saved (hr : Reserves policy i v kind r es r' es')
    (hdist : HostnamesDistinct policy kind es)
    (htcp : ∀ e ∈ es', e.type = .tcp → TcpOpen policy) :
    Saved policy (released i v r') i kind es' := by
  refine ⟨?_, fun e he => ?_⟩
  · have hmap : (es.map (policy.resolve kind)).Pairwise (· ≠ ·) := List.pairwise_map.mpr hdist
    rw [← hr.resolve_eq] at hmap
    exact List.pairwise_map.mp hmap
  · obtain ⟨e₀, -, hostname, port, rfl, hres, hrow⟩ := hr.of_mem_stored hdist he
    refine ⟨hostname, ⟨by rw [resolve_withPort, hres], htcp _ he, fun k w => ?_⟩, ?_⟩
    · obtain ⟨hname, hhost, htype, -⟩ := hrow.valid
      rw [storedPort_withPort hrow.granted]
      cases port <;> exact ⟨hname, hhost, htype, .inl nofun⟩
    · refine ⟨rewritten (r hostname) (reservation i v e₀ hostname port), ?_, rfl, ?_, nofun⟩
      · rw [released, hrow.row, Option.bind_some, if_neg]
        rintro ⟨-, hne⟩
        exact hne rfl
      · exact backs_withPort hrow.granted

/-- A reservation that went through has asked for TCP only if TCP endpoints can be published. -/
theorem tcpOpen_of_reserve
    (h : reserveEndpoints policy i v kind claims es = .ok (claims', es')) :
    ∀ e ∈ es', e.type = .tcp → TcpOpen policy := by
  induction es generalizing claims claims' es' with
  | nil =>
    cases h
    exact nofun
  | cons e _ ih =>
    simp only [reserveEndpoints, reserveEndpoint, ok_iff] at h
    obtain ⟨_, ⟨_, -, port, hp, _, -, rfl⟩, ⟨_, _⟩, ht, ⟨⟩⟩ := h
    refine List.forall_mem_cons.mpr ⟨fun htcp => ?_, ih ht⟩
    have htype : e.type = .tcp := by cases port <;> exact htcp
    simp only [externalPort, htype, ok_iff] at hp
    exact hp.1

/-- **A configuration that was reserved is saved.** -/
theorem saved_of_reserve {configuration reserved : RuntimeConfig} (hu : HostnamesUnique claims)
    (hdist : HostnamesDistinct policy kind configuration.publicEndpoints)
    (h : reservePublicationClaims policy claims i v kind configuration =
      .ok (claims', reserved)) :
    Saved policy (registry claims') i kind reserved.publicEndpoints := by
  obtain ⟨-, _, hr, hreg⟩ := reservePublicationClaims_registry hu h
  simp only [reservePublicationClaims, ok_iff] at h
  obtain ⟨⟨_, _⟩, he, ⟨⟩⟩ := h
  rw [hreg]
  exact hr.saved hdist (tcpOpen_of_reserve he)

/-! ### Ports -/

/-- Rows that keep their ports keep them apart. -/
theorem PortsUnique.of_rows (h : PortsUnique r)
    (hr : ∀ x c, r' x = some c → ∃ q, r x = some q ∧ q.externalPort = c.externalPort) :
    PortsUnique r' := by
  intro x y c q hc hq hne heq
  obtain ⟨c₀, hc₀, hpc⟩ := hr x c hc
  obtain ⟨q₀, hq₀, hpq⟩ := hr y q hq
  exact h x y c₀ q₀ hc₀ hq₀ (by rwa [hpc]) (by rw [hpc, hpq, heq])

theorem Reserves.portsUnique (h : Reserves policy i v kind r es r' es') (hp : PortsUnique r) :
    PortsUnique r' := by
  induction h with
  | nil => exact hp
  | @cons _ _ _ _ _ hostname _ _ _ _ _ hf _ ih =>
    refine ih fun x y c q hc hq hne heq => ?_
    by_cases hx : x = hostname <;> by_cases hy : y = hostname
    · exact hx.trans hy.symm
    · subst hx
      rw [Function.update_self] at hc
      rw [Function.update_of_ne hy] at hq
      cases hc
      exact absurd heq.symm (hf y hy q hq (heq ▸ hne))
    · subst hy
      rw [Function.update_self] at hq
      rw [Function.update_of_ne hx] at hc
      cases hq
      exact absurd heq (hf x hx c hc hne)
    · rw [Function.update_of_ne hx] at hc
      rw [Function.update_of_ne hy] at hq
      exact hp x y c q hc hq hne heq

theorem portsUnique_released (h : PortsUnique r) : PortsUnique (released i v r) := by
  refine h.of_rows fun x c hc => ?_
  obtain ⟨q, hq, hqc⟩ := Option.bind_eq_some_iff.mp hc
  refine ⟨q, hq, ?_⟩
  split_ifs at hqc <;> cases hqc <;> rfl

theorem ClaimsStep.portsUnique (h : ClaimsStep policy s a db')
    (hu : HostnamesUnique s.db.publicationClaims)
    (hp : PortsUnique (registry s.db.publicationClaims)) :
    PortsUnique (registry db'.publicationClaims) := by
  cases h with
  | same h => exact h ▸ hp
  | reserve _ _ _ _ _ h =>
    obtain ⟨-, _, hr, hreg⟩ := reservePublicationClaims_registry hu h
    rw [hreg]
    exact portsUnique_released (hr.portsUnique hp)
  | activate _ _ d _ _ _ _ _ h =>
    obtain ⟨-, _, hr, hreg⟩ := activatePublicationClaims_registry hu h
    rw [hreg]
    refine hp.of_rows fun x c hc => ?_
    have hc := (Option.filter_eq_some_iff.mp hc).1
    rcases hr.row x with ⟨-, q, hq, -, hr'⟩ | ⟨-, hr'⟩
    · cases hr'.symm.trans hc
      exact ⟨q, hq, rfl⟩
    · exact ⟨c, hr'.symm.trans hc, rfl⟩
  | archive _ _ _ h =>
    rw [h, withdraw_registry hu]
    exact hp.of_rows fun x c hc => ⟨c, (Option.filter_eq_some_iff.mp hc).1, rfl⟩

/-! ### What a step does to what is saved -/

/-- What an environment has saved. -/
def savedOf (ae : AppEnvironment) : WorkloadKind × ℕ × RuntimeConfig :=
  (ae.workloadKind, ae.configurationVersion, ae.configuration)

/-- The environments of `db'` that another environment than `i` had before have saved the same. -/
def SavedBut (db db' : Db) (i : ℕ) : Prop :=
  ∀ k ≠ i, ∀ ae', db'.appEnvironments.lookup k = some ae' →
    ∃ ae, db.appEnvironments.lookup k = some ae ∧ savedOf ae' = savedOf ae

/-- What may happen in one step to what is saved and to the claims for it. -/
inductive SavedStep (policy : PublicationPolicy) (s : State) (a : Action) (db' : Db) : Prop
  /-- No configuration was saved. -/
  | kept (hs : Table.Agree savedOf s.db.appEnvironments db'.appEnvironments)
      (hrev : db'.revisions = s.db.revisions)
      (hc : ∀ i ae', db'.appEnvironments.lookup i = some ae' → ae'.archivedAt = none →
        ∀ e hostname, Keeps (registry s.db.publicationClaims) i e hostname →
          Keeps (registry db'.publicationClaims) i e hostname)
  /-- A revision was deployed. -/
  | deployed (i j : ℕ) (ae : AppEnvironment) (revision : Revision) (reserved : RuntimeConfig)
      (hs : Table.Agree savedOf s.db.appEnvironments db'.appEnvironments)
      (hrev : db'.revisions = s.db.revisions)
      (hl : s.db.appEnvironments.lookup i = some ae) (hna : ae.archivedAt = none)
      (hj : s.db.revisions.lookup j = some revision) (hje : revision.appEnvironmentId = i)
      (hd : a.deploys = some revision.version)
      (had : adopted s a = some (i, ae.workloadKind,
        inheritAllocatedPorts revision.configuration ae.configuration))
      (h : reservePublicationClaims policy s.db.publicationClaims i revision.version
        ae.workloadKind (inheritAllocatedPorts revision.configuration ae.configuration) =
          .ok (db'.publicationClaims, reserved))
  /-- A configuration was saved, with the environment or instead of an earlier one. -/
  | saved (i v : ℕ) (kind : WorkloadKind) (configuration reserved : RuntimeConfig)
      (ae' : AppEnvironment)
      (hg : a.created = some (kind, configuration) ∧ s.db.appEnvironments.lookup i = none ∨
        ∃ ae, s.db.appEnvironments.lookup i = some ae ∧ ae.configurationVersion < v ∧
          adopted s a = some (i, kind, configuration) ∧ a.deploys = none)
      (hrev : db'.revisions = s.db.revisions.insert ⟨i, v, reserved⟩)
      (hl : db'.appEnvironments.lookup i = some ae') (hs : savedOf ae' = (kind, v, reserved))
      (ho : SavedBut s.db db' i)
      (h : reservePublicationClaims policy s.db.publicationClaims i v kind configuration =
        .ok (db'.publicationClaims, reserved))

/-- A new environment saves its configuration. -/
theorem savedStep_of_create {request : NewAppEnvironment} {reserved : RuntimeConfig}
    (hp : placeAppEnvironment s.db request = .ok ae)
    (ht : Table.Agree savedOf ((s.db.appEnvironments.insert ae).modify
      (fun i _ => i = s.db.appEnvironments.nextId) (configureRow reserved)) db'.appEnvironments)
    (hrev : db'.revisions = s.db.revisions.insert
      ⟨s.db.appEnvironments.nextId, ae.configurationVersion, reserved⟩)
    (h : reservePublicationClaims policy s.db.publicationClaims s.db.appEnvironments.nextId
      ae.configurationVersion ae.workloadKind ae.configuration =
        .ok (db'.publicationClaims, reserved)) :
    SavedStep policy s (.createAppEnvironment request) db' := by
  obtain ⟨projectId, appId, stageId, clusterId, rfl, -⟩ := placeAppEnvironment_eq_ok hp
  have hrow := lookup_modify_of_pos (p := fun i _ => i = s.db.appEnvironments.nextId)
    (f := configureRow reserved) (lookup_insert_self (t := s.db.appEnvironments)
      (r := request.row projectId appId stageId clusterId)) rfl
  obtain ⟨ae', hl, hs⟩ := ht.exists_lookup hrow
  refine .saved _ 1 _ _ reserved ae' (.inl ⟨rfl, lookup_nextId _⟩) hrev hl hs ?_ h
  intro k hk q hq
  obtain ⟨q₁, hq₁, hs₁⟩ := ht.symm.exists_lookup hq
  obtain ⟨_, hq₀, ⟨rfl, -⟩ | ⟨-, rfl⟩⟩ := lookup_modify_eq_some.mp hq₁
  · exact absurd rfl hk
  · rcases lookup_insert_eq_some.mp hq₀ with ⟨rfl, -⟩ | hq₀
    · exact absurd rfl hk
    · exact ⟨q₁, hq₀, hs₁.symm⟩

/-- **What a step does to what is saved.** -/
theorem step_saved (policy) (a : Action) (hu : HostnamesUnique s.db.publicationClaims) :
    SavedStep policy s a (step policy s a).db := by
  have hidle {t : Table AppEnvironment}
      (hs : Table.Agree AppEnvironment.core s.db.appEnvironments t) :
      Table.Agree savedOf s.db.appEnvironments t := hs.comp savedOf
  have h := step_effect policy s a
  generalize step policy s a = s' at h
  cases h with
  | idle | tick | elsewhere | session | attach | reload | workspaceDone | retry | release =>
    exact .kept (.refl _ _) rfl fun _ _ _ _ _ _ h => h
  | revoke | branch | delete | expand | remove =>
    exact .kept (agree_modify fun _ => rfl) rfl fun _ _ _ _ _ _ h => h
  | create _ _ _ _ _ hp _ ha => exact savedStep_of_create hp (.refl _ _) rfl ha.reserves
  | createStateful _ _ _ _ _ _ _ _ hp _ ha hv =>
    obtain ⟨_, _, _, _, -, -, -, -, rfl⟩ := createAppVolume_eq_ok hv
    exact savedStep_of_create hp (agree_modify fun _ => rfl) rfl ha.reserves
  | update _ _ _ _ _ j ae new _ reserved _ hj _ _ _ ha had =>
    refine .saved j _ _ new reserved _ (.inr ⟨ae, hj, Nat.lt_succ_self _, had, rfl⟩) rfl
      (lookup_modify_of_pos (lookup_modify_of_pos hj rfl) rfl) rfl ?_ ha.reserves
    intro k hk q hq
    obtain ⟨_, hq₁, ⟨rfl, -⟩ | ⟨-, rfl⟩⟩ := lookup_modify_eq_some.mp hq
    · exact absurd rfl hk
    · obtain ⟨_, hq₀, ⟨rfl, -⟩ | ⟨-, rfl⟩⟩ := lookup_modify_eq_some.mp hq₁
      · exact absurd rfl hk
      · exact ⟨q, hq₀, rfl⟩
  | deploy _ i _ j _ ae revision _ reserved _ hl hna _ _ hj hje hjv had hr =>
    exact .deployed i j ae revision reserved (agree_modify fun _ => rfl) rfl hl hna hj hje
      (congrArg some hjv.symm) had hr
  | report _ _ _ hr =>
    have hcore := sameCore_of_steps hr
    refine .kept (hidle hcore.environments) ?_ ?_
    · rw [hcore.rest]
    · rw [hcore.rest]
      exact fun _ _ _ _ _ _ h => h
  | claim _ _ _ _ _ _ _ _ hs =>
    obtain ⟨-, he, hcl, hrev, -⟩ := startWork_eq_ok hs
    refine .kept ?_ hrev ?_
    · rw [he]
      exact .refl _ _
    · rw [hcl]
      exact fun _ _ _ _ _ _ h => h
  | volumeDone _ _ _ _ _ _ _ _ observed =>
    exact .kept (hidle (agree_modify fun ae => settleEnvironment_core ae observed)) rfl
      fun _ _ _ _ _ _ h => h
  | environmentDone _ k _ _ _ _ _ _ _ _ hd =>
    refine .kept (agree_modify fun _ => rfl) rfl fun i ae' hl hna e hostname h => ?_
    rw [withdraw_registry hu]
    refine h.of_withdrawn fun hx => ?_
    -- otherwise the environment was archived
    obtain ⟨k, q, hk, hdel⟩ := any_iff.mp hd
    cases hdel.1.trans hx
    obtain ⟨ae, hae, ⟨-, rfl⟩ | ⟨hn, -⟩⟩ := lookup_modify_eq_some.mp hl
    · cases hna
    · cases hk.symm.trans hae
      exact hn hdel
  | deploymentDone _ _ _ _ _ _ _ _ _ _ _ claims _ _ _ _ _ _ _ _ _ hc =>
    obtain ⟨-, _, hr, hreg⟩ := activatePublicationClaims_registry hu hc
    refine .kept (agree_modify fun _ => rfl) rfl fun i ae' hl hna e hostname h => ?_
    show Keeps (registry claims) i e hostname
    rw [hreg]
    exact h.of_activates hr
  | failed _ _ _ op _ message =>
    refine .kept (hidle (reportFailure_rows _ op.2 message).1)
      (reportFailure_frame op.2 message).2.2.1 ?_
    rw [(reportFailure_frame op.2 message).2.1]
    exact fun _ _ _ _ _ _ h => h

/-! ### What every run keeps -/

/-- Every revision is of an environment and no newer than its configuration, and the newest one is
its configuration. -/
def LatestSaved (db : Db) : Prop :=
  ∀ j r, db.revisions.lookup j = some r →
    ∃ ae, db.appEnvironments.lookup r.appEnvironmentId = some ae ∧
      r.version ≤ ae.configurationVersion ∧
      (r.version = ae.configurationVersion → r.configuration = ae.configuration)

/-- What a run that keeps saved configurations keeps. -/
structure SavedSound (policy : PublicationPolicy) (s : State) : Prop where
  unique : HostnamesUnique s.db.publicationClaims
  valid : RowsValid (registry s.db.publicationClaims)
  ports : PortsUnique (registry s.db.publicationClaims)
  /-- The newest revision is the configuration that is saved. -/
  newest : ∀ j r, s.db.revisions.lookup j = some r →
    ∃ ae, s.db.appEnvironments.lookup r.appEnvironmentId = some ae ∧
      r.version ≤ ae.configurationVersion ∧
      (r.version = ae.configurationVersion → r.configuration = ae.configuration)
  saved : ∀ i ae, s.db.appEnvironments.lookup i = some ae → ae.archivedAt = none →
    Saved policy (registry s.db.publicationClaims) i ae.workloadKind
      ae.configuration.publicEndpoints

theorem Saved.mono (h : Saved policy r i kind es)
    (hk : ∀ e ∈ es, ∀ hostname, Publishable policy kind e hostname → Keeps r i e hostname →
      Keeps r' i e hostname) : Saved policy r' i kind es := by
  refine ⟨h.distinct, fun e he => ?_⟩
  obtain ⟨hostname, hp, hkept⟩ := h.kept e he
  exact ⟨hostname, hp, hk e he hostname hp hkept⟩

theorem savedOf_eq {ae' : AppEnvironment} (h : savedOf ae' = savedOf ae) :
    ae'.workloadKind = ae.workloadKind ∧ ae'.configurationVersion = ae.configurationVersion ∧
      ae'.configuration = ae.configuration :=
  ⟨congrArg Prod.fst h, congrArg (·.2.1) h, congrArg (·.2.2) h⟩

/-- The newest revision of an environment stays what it has saved. -/
theorem LatestSaved.step (h : LatestSaved s.db)
    (hstep : SavedStep policy s a (step policy s a).db) : LatestSaved (step policy s a).db := by
  intro j q hj
  have hsame (hs : Table.Agree savedOf s.db.appEnvironments
        (Store.step policy s a).db.appEnvironments)
      (hj : s.db.revisions.lookup j = some q) :
      ∃ ae, (Store.step policy s a).db.appEnvironments.lookup q.appEnvironmentId = some ae ∧
        q.version ≤ ae.configurationVersion ∧
        (q.version = ae.configurationVersion → q.configuration = ae.configuration) := by
    obtain ⟨_, hl, hle, heq⟩ := h j q hj
    obtain ⟨ae', hl', hsaved⟩ := hs.exists_lookup hl
    obtain ⟨-, hv, hc⟩ := savedOf_eq hsaved
    exact ⟨ae', hl', hv ▸ hle, fun hq => (heq (hq.trans hv)).trans hc.symm⟩
  cases hstep with
  | kept hs hrev => exact hsame hs (hrev ▸ hj)
  | deployed _ _ _ _ _ hs hrev => exact hsame hs (hrev ▸ hj)
  | saved i v _ _ reserved ae' hg hrev hl hs ho =>
    have hv : ae'.configurationVersion = v := congrArg (·.2.1) hs
    have hc : ae'.configuration = reserved := congrArg (·.2.2) hs
    rw [hrev] at hj
    rcases lookup_insert_eq_some.mp hj with ⟨-, rfl⟩ | hj
    · exact ⟨ae', hl, hv.ge, fun _ => hc.symm⟩
    · obtain ⟨ae, hae, hle, heq⟩ := h j q hj
      by_cases hqi : q.appEnvironmentId = i
      · subst hqi
        rcases hg with ⟨-, hn⟩ | ⟨ae₀, hae₀, _, -⟩
        · rw [hn] at hae
          cases hae
        · cases hae.symm.trans hae₀
          exact ⟨ae', hl, by omega, fun hq => by omega⟩
      · obtain ⟨q', hq', -⟩ := step_environment policy a hae
        have hsaved := of_found (ho _ hqi q' hq') hae
        obtain ⟨-, hv, hc⟩ := savedOf_eq hsaved
        exact ⟨q', hq', hv ▸ hle, fun hq => (heq (hq.trans hv)).trans hc.symm⟩

section SavedSound

variable (h : SavedSound policy s)

include h

/-- A revision that may be deployed carries what is saved. -/
theorem SavedSound.carries (hg : KeepsSaved policy s a) {revision : Revision}
    (hl : s.db.appEnvironments.lookup i = some ae) (hna : ae.archivedAt = none)
    (hj : s.db.revisions.lookup j = some revision) (hje : revision.appEnvironmentId = i)
    (hd : a.deploys = some revision.version)
    (had : adopted s a = some (i, ae.workloadKind,
      inheritAllocatedPorts revision.configuration ae.configuration)) :
    HostnamesDistinct policy ae.workloadKind
        (inheritAllocatedPorts revision.configuration ae.configuration).publicEndpoints ∧
      Carries policy s.db i ae.workloadKind
        (inheritAllocatedPorts revision.configuration ae.configuration) ae.configuration := by
  rcases hg.2 _ had ae hl with hlatest | ⟨hdist, hc⟩
  · have hsaved := h.saved i ae hl hna
    obtain ⟨ae₀, hae₀, -, heq⟩ := h.newest j revision hj
    rw [hje] at hae₀
    cases hl.symm.trans hae₀
    rw [heq (Option.mem_unique hd hlatest), hsaved.distinct.inherit_self]
    exact ⟨hsaved.distinct, hsaved.carries⟩
  · exact ⟨hdist, hc (by simp [hd])⟩

/-- What an environment has saved stays reserved. -/
theorem SavedSound.step_saved (hstep : SavedStep policy s a (step policy s a).db)
    (hg : KeepsSaved policy s a) (i : ℕ) (ae' : AppEnvironment)
    (hl' : (step policy s a).db.appEnvironments.lookup i = some ae')
    (hna' : ae'.archivedAt = none) :
    Saved policy (registry (step policy s a).db.publicationClaims) i ae'.workloadKind
      ae'.configuration.publicEndpoints := by
  have hold (hs : ∃ ae, s.db.appEnvironments.lookup i = some ae ∧ savedOf ae' = savedOf ae)
      (hk : ∀ ae, s.db.appEnvironments.lookup i = some ae → ae.archivedAt = none →
        ∀ e ∈ ae.configuration.publicEndpoints, ∀ hostname,
          Publishable policy ae.workloadKind e hostname →
          Keeps (registry s.db.publicationClaims) i e hostname →
          Keeps (registry (step policy s a).db.publicationClaims) i e hostname) :
      Saved policy (registry (step policy s a).db.publicationClaims) i ae'.workloadKind
        ae'.configuration.publicEndpoints := by
    obtain ⟨ae, hl, hsaved⟩ := hs
    obtain ⟨hkind, -, hconf⟩ := savedOf_eq hsaved
    have hna := (of_found (step_environment policy a hl) hl').archivedAt hna'
    rw [hkind, hconf]
    exact (h.saved i ae hl hna).mono (hk ae hl hna)
  cases hstep with
  | kept hs _ hc =>
    refine hold (hs.symm.exists_lookup hl' |>.imp fun ae hae => ⟨hae.1, hae.2.symm⟩) ?_
    exact fun _ _ _ e _ hostname _ hk => hc i ae' hl' hna' e hostname hk
  | deployed k _ ae₀ _ _ hs _ hl₀ _ hj hje hd had hres =>
    obtain ⟨-, _, hr, hreg⟩ := reservePublicationClaims_registry h.unique hres
    refine hold (hs.symm.exists_lookup hl' |>.imp fun ae hae => ⟨hae.1, hae.2.symm⟩) ?_
    intro ae hl hna e he hostname hp hk
    rw [hreg]
    by_cases hik : i = k
    · subst hik
      cases hl.symm.trans hl₀
      obtain ⟨hdist, hc⟩ := h.carries hg hl hna hj hje hd had
      obtain ⟨_, he', heq, hb⟩ := hc e he
      exact hk.of_reserves h.unique h.valid hr hdist he' (heq.trans hp.resolves) hb
    · exact hk.of_other hr hik
  | saved k _ kind _ reserved ae₀ hgk _ hl₀ hs ho hres =>
    by_cases hik : i = k
    · subst hik
      cases hl'.symm.trans hl₀
      have hkind : ae'.workloadKind = kind := congrArg Prod.fst hs
      have hconf : ae'.configuration = reserved := congrArg (·.2.2) hs
      rw [hkind, hconf]
      refine saved_of_reserve h.unique ?_ hres
      rcases hgk with ⟨hcr, -⟩ | ⟨ae, hl, -, had, hd⟩
      · exact hg.1 _ hcr
      · rcases hg.2 _ had ae hl with hx | ⟨hdist, -⟩
        · rw [hd] at hx
          cases hx
        · exact hdist
    · obtain ⟨-, _, hr, hreg⟩ := reservePublicationClaims_registry h.unique hres
      refine hold (ho i hik ae' hl') fun ae hl hna e he hostname hp hk => ?_
      rw [hreg]
      exact hk.of_other hr hik

/-- **One step keeps what is saved.** -/
theorem SavedSound.step (hg : KeepsSaved policy s a) : SavedSound policy (step policy s a) := by
  have hclaims := step_claims policy s a
  have hstep := Store.step_saved policy a h.unique
  exact ⟨hclaims.unique h.unique, hclaims.rowsValid h.unique h.valid,
    hclaims.portsUnique h.unique h.ports, LatestSaved.step h.newest hstep, h.step_saved hstep hg⟩

end SavedSound

/-! ### Deploying what is saved -/

/-- An endpoint that is kept can be reserved again, and only its own row is written. -/
theorem reserveEndpoint_isOk (v : ℕ) (hu : HostnamesUnique claims)
    (hports : PortsUnique (registry claims)) (hp : Publishable policy kind e hostname)
    (hk : Keeps (registry claims) i e hostname) :
    ∃ claims₁ e₁, reserveEndpoint policy claims i v kind e = .ok (claims₁, e₁) ∧
      HostnamesUnique claims₁ ∧ PortsUnique (registry claims₁) ∧
      ∀ x ≠ hostname, registry claims₁ x = registry claims x := by
  obtain ⟨c, hc, ho, hb, -⟩ := hk
  have hport : externalPort policy claims i e hostname = .ok (storedPort e) := by
    unfold externalPort storedPort
    cases ht : e.type with
    | http => rfl
    | tcp =>
      have hne := hp.port_ne_zero ht
      have halloc : allocatedPort claims i e hostname = e.externalPort := by
        rw [allocatedPort, if_pos hne]
      simp only [halloc, if_neg hne, ok_iff]
      exact ⟨hp.tcpOpen ht, trivial⟩
  have hmay : MayGet (registry claims hostname) i e (storedPort e) :=
    mayGet_of_externalPort hu hport
  obtain ⟨⟨k, q⟩, hf, rfl⟩ := Option.map_eq_some_iff.mp hc
  -- the row that has the port is the one of the hostname
  have hfree : ¬ PortTaken claims k (reservation i v e hostname (storedPort e)) := by
    intro htaken
    obtain ⟨j, q', hj, hjk, hsome, heq⟩ := any_iff.mp htaken
    have htcp : e.type = .tcp := by
      cases ht : e.type with
      | tcp => rfl
      | http =>
        simp only [reservation, storedPort, ht] at heq
        exact absurd heq hsome
    have hq : q.externalPort = storedPort e := by
      rw [hb.2 htcp]
      simp only [storedPort, htcp]
    have hsame := hports q'.hostname hostname q' q (find_of_lookup hu hj) hc hsome
      (heq.trans hq.symm)
    exact hjk (hu j k q' q hj (lookup_of_first hf)
      (hsame.trans (pos_of_first hf).symm))
  have hup : ∃ claims₁,
      upsertClaim claims (reservation i v e hostname (storedPort e)) = .ok claims₁ := by
    have hf' : (claims.first fun _ c => c.hostname =
        (reservation i v e hostname (storedPort e)).hostname) = some (k, q) := hf
    simp only [upsertClaim, hf', ok_iff]
    exact ⟨_, ⟨hp.valid i v, hfree, ho⟩, rfl⟩
  obtain ⟨claims₁, hup⟩ := hup
  obtain ⟨hu₁, hvalid, howner, hpf, hreg⟩ := upsertClaim_registry hu rfl hup
  refine ⟨claims₁, withPort e (storedPort e), ?_, hu₁, ?_, fun x hx => ?_⟩
  · simp only [reserveEndpoint, hp.resolves, hport, hup, ok_iff, Except.ok.injEq, exists_eq_left']
  · rw [hreg]
    exact (Reserves.cons hp.resolves hmay hvalid howner hpf (.nil _)).portsUnique hports
  · rw [hreg]
    exact Function.update_of_ne hx _ _

/-- What is saved can be reserved again. -/
theorem reserveEndpoints_isOk (v : ℕ) (hu : HostnamesUnique claims)
    (hports : PortsUnique (registry claims)) (h : Saved policy (registry claims) i kind es) :
    ∃ x, reserveEndpoints policy i v kind claims es = .ok x := by
  induction es generalizing claims with
  | nil => exact ⟨_, rfl⟩
  | cons _ es ih =>
    obtain ⟨hne, hdist⟩ := List.pairwise_cons.mp h.distinct
    obtain ⟨⟨_, hp, hk⟩, hrest⟩ := List.forall_mem_cons.mp h.kept
    obtain ⟨claims₁, e₁, hok, hu₁, hports₁, hreg⟩ := reserveEndpoint_isOk v hu hports hp hk
    have hsaved : Saved policy (registry claims₁) i kind es := by
      refine ⟨hdist, fun e' he' => ?_⟩
      obtain ⟨x, hpx, c, hc, hkeep⟩ := hrest e' he'
      refine ⟨x, hpx, c, ?_, hkeep⟩
      rw [hreg x, hc]
      rintro rfl
      exact hne e' he' (hp.resolves.trans hpx.resolves.symm)
    obtain ⟨x, hx⟩ := ih hu₁ hports₁ hsaved
    refine ⟨(x.1, e₁ :: x.2), ?_⟩
    simp only [reserveEndpoints, hok, hx, ok_iff, Except.ok.injEq, exists_eq_left']

/-- A deployment is refused because of its endpoints only if they cannot be reserved. -/
theorem createDeployment_eq_refused {now : Time} {request : DeploymentRequest} {err : Err}
    (herr : err = .publicationConflict ∨ err = .publicationUnavailable)
    (h : createDeployment policy now db request = .error err) :
    ∃ i ae revision, appEnvironmentForUpdate db request.workspaceId
        request.appEnvironmentPublicId = .ok (i, ae) ∧
      configurationRevision db i request.configurationVersion = .ok revision ∧
      reservePublicationClaims policy db.publicationClaims i revision.version ae.workloadKind
        (inheritAllocatedPorts revision.configuration ae.configuration) = .error err := by
  simp only [createDeployment, bind_eq_error] at h
  rcases h with h | ⟨existing, -, h⟩
  · unfold operationByPrincipalIdempotency at h
    split at h
    · cases h
    · split at h <;> cases h
      rcases herr with h | h <;> cases h
  cases existing with
  | some => cases h
  | none =>
    rcases deploy_eq_error h with ⟨rfl, -⟩ | ⟨i, ae, hf, hreason⟩
    · rcases herr with h | h <;> cases h
    · rcases hreason with rfl | rfl | ⟨rfl, -⟩ | ⟨rfl, -⟩ | ⟨revision, hrev, hres⟩ | ⟨rfl, -⟩ | ⟨rfl, -⟩
      all_goals first
        | exact ⟨i, ae, revision, hf, hrev, hres⟩
        | rcases herr with h | h <;> cases h

/-- Deploying the newest revision is not refused. -/
theorem SavedSound.latestDeployable (h : SavedSound policy s) :
    LatestDeployable policy s.now s.db := by
  intro request i ae hf hv
  have hno {err : Err} (herr : err = .publicationConflict ∨ err = .publicationUnavailable) :
      createDeployment policy s.now s.db request ≠ .error err := by
    intro hrefused
    obtain ⟨k, q, revision, hk, hrev, hres⟩ := createDeployment_eq_refused herr hrefused
    obtain ⟨rfl, rfl⟩ : i = k ∧ ae = q := by
      rw [hf] at hk
      cases hk
      exact ⟨rfl, rfl⟩
    obtain ⟨hl, -, -, hna⟩ := appEnvironmentForUpdate_eq_ok hf
    obtain ⟨j, hj, hje, hjv⟩ := configurationRevision_eq_ok hrev
    obtain ⟨ae₀, hae₀, -, heq⟩ := h.newest j revision hj
    rw [hje] at hae₀
    cases hl.symm.trans hae₀
    have hsaved := h.saved i ae hl hna
    rw [heq (hjv.trans hv), hsaved.distinct.inherit_self] at hres
    obtain ⟨_, hx⟩ := reserveEndpoints_isOk revision.version h.unique h.ports hsaved
    simp only [reservePublicationClaims, hx] at hres
    cases hres
  exact ⟨hno (.inl rfl), hno (.inr rfl)⟩

theorem SavedSound.savedPublication (h : SavedSound policy s) : SavedPublication policy s.db := by
  intro i ae hl hna e he
  obtain ⟨hostname, hp, c, hc, ho, hb, -⟩ := (h.saved i ae hl hna).kept e he
  exact ⟨hostname, mem_toOption_iff.mpr hp.resolves, (owns_iff h.unique).mpr ⟨c, hc, ho, hb⟩⟩

theorem Initial.savedSound (h₀ : Initial s) : SavedSound policy s where
  unique := by
    rw [h₀.claims]
    exact keyUnique_empty
  valid := by
    rw [h₀.claims]
    exact fun _ _ hc => nomatch hc
  ports := by
    rw [h₀.claims]
    exact fun _ _ _ _ hc => nomatch hc
  newest _ _ := of_lookup_empty h₀.revisions
  saved _ _ := of_lookup_empty h₀.environments

/-- **What is saved stays reserved.** In a run that deploys no older revision which gives up what is
saved, and saves no configuration with one hostname twice, an environment owns the hostname and the
port of every endpoint of the configuration it has saved, and deploying its newest revision is never
refused because of them. -/
theorem savedPublication_of_keepsSaved (policy : PublicationPolicy) (s₀ : State)
    (acts : List Action) (h₀ : Initial s₀)
    (hg : Guarded (step policy) (KeepsSaved policy) s₀ acts) :
    SavedPublication policy (run (step policy) s₀ acts).db ∧
      LatestDeployable policy (run (step policy) s₀ acts).now
        (run (step policy) s₀ acts).db := by
  have h : SavedSound policy (run (step policy) s₀ acts) :=
    guarded_run_induction h₀.savedSound (fun s a h hg => h.step hg) hg
  exact ⟨h.savedPublication, h.latestDeployable⟩

/-- A request to deploy a version of the configuration, at the version of the environment. -/
def deploymentOf (configurationVersion version : ℕ) : DeploymentRequest :=
  { firstDeployment "env-one" version with configurationVersion := configurationVersion }

/-- A configuration is saved, a second one is saved, and the second one is deployed. -/
def savedRun : List Action :=
  [.createAppEnvironment (newEnvironment "env-one" [webEndpoint "one"]),
    .updateAppEnvironment 1 "env-one" "main"
      (smallConfig [webEndpoint "one", tcpEndpoint "two"]) 1,
    .createDeployment (deploymentOf 2 2),
    .claimNext "agent:cls-one" "cls-one" 60,
    .handleResult 1 { goodResult with desiredVersion := 3 }]

theorem savedPublication_savedRun :
    (Initial smallStore ∧ Guarded (step smallPolicy) (KeepsSaved smallPolicy)
      smallStore savedRun) ∧
    SavedPublication smallPolicy (run (step smallPolicy) smallStore savedRun).db ∧
    LatestDeployable smallPolicy (run (step smallPolicy) smallStore savedRun).now
      (run (step smallPolicy) smallStore savedRun).db :=
  ⟨⟨smallStore_initial, by decide +kernel⟩,
    savedPublication_of_keepsSaved smallPolicy smallStore savedRun smallStore_initial
      (by decide +kernel)⟩

/-- A second configuration is saved and the first one is deployed. -/
def rollbackRun : List Action :=
  [.createAppEnvironment (newEnvironment "env-one" [webEndpoint "one"]),
    .updateAppEnvironment 1 "env-one" "main" (smallConfig [webEndpoint "two"]) 1,
    .createDeployment (deploymentOf 1 2)]

/-- The deployment is completed, and meanwhile another environment takes the hostname. -/
def rollbackThenTakenRun : List Action :=
  rollbackRun ++
    [.createAppEnvironment
      { newEnvironment "env-two" [webEndpoint "two"] with appPublicId := "app-two" },
    .claimNext "agent:cls-one" "cls-one" 60,
    .handleResult 1 { goodResult with desiredVersion := 3 }]

/-- The request to deploy the second configuration after all. -/
def secondDeployment : DeploymentRequest :=
  { deploymentOf 2 3 with
    deploymentPublicId := "dep-two"
    expectedCurrentDeploymentPublicId := "dep-one"
    idempotencyHash := sha256 "deploy-two"
    payloadHash := sha256 "payload-two"
    operationPublicId := "op-two" }

/-- The hostname that is saved is not reserved any more, and deploying what is saved is refused. -/
theorem not_savedPublication_rollbackRun :
    ¬ SavedPublication smallPolicy (run (step smallPolicy) smallStore rollbackRun).db ∧
      createDeployment smallPolicy 0
        (run (step smallPolicy) smallStore rollbackThenTakenRun).db secondDeployment =
          .error .publicationConflict := by
  decide +kernel

end Molejo.Store
