import Molejo.Store.DeploymentOrder
import Molejo.Store.Fidelity

/-!
# What configurations bind

A configuration names versions of parameters, and gives each a name in the environment of the
workload. When it is stored, each binding is looked up (`bindParameter`), and a row of
`app_environment_parameter_bindings` is inserted for it. The query asks that the parameter is not
archived and that the version is there. It does not ask whether the version is ready.

This module says what one step of the store does to the revisions and to those rows
(`step_bindings`), and what deployments and operations have to do with revisions (`Traced`): a
deployment carries the bindings and the variables of one revision of its environment, and an
operation on a deployment is one on the environment of it.
-/

namespace Molejo.Store

open Transaction Parameters Table

variable {ae : AppEnvironment}

/-! ### Storing a configuration -/

/-- The binding names this version of this parameter of the workspace. -/
structure BindsTo (t : Tables) (workspaceId : ℕ) (b : ParameterBinding) (i j : ℕ) (p : Parameter)
    (v : ParameterVersion) : Prop where
  parameter : t.parameters.lookup i = some p
  workspace : p.workspaceId = workspaceId
  publicId : p.publicId = b.parameterPublicId
  row : t.versions.lookup j = some v
  parameterId : v.parameterId = i
  version : v.version = b.parameterVersion

/-- The binding was found when it was stored. -/
def Bindable (t : Tables) (workspaceId : ℕ) (b : ParameterBinding) : Prop :=
  ∃ i j p v, BindsTo t workspaceId b i j p v ∧ p.archivedAt = none

/-- The row was inserted for one of the bindings. -/
def BoundFor (t : Tables) (workspaceId : ℕ) (bindings : List ParameterBinding)
    (x : BoundParameter) : Prop :=
  ∃ b ∈ bindings, ∃ i j p v, BindsTo t workspaceId b i j p v ∧ p.archivedAt = none ∧
    x.parameterId = i ∧ x.parameterVersion = v.version

section Storing

variable {db db' : Db} {workspaceId e : ℕ} {bound bound' : Table BoundParameter}

theorem bindParameter_eq_ok {b : ParameterBinding}
    (h : bindParameter db workspaceId e bound b = .ok bound') :
    ∃ i j p v, BindsTo db.toTables workspaceId b i j p v ∧ p.archivedAt = none ∧
      bound' = bound.insert ⟨e, b.name, i, b.parameterVersion⟩ := by
  simp only [bindParameter, bind_eq_ok, expect_eq_ok, require_eq_ok, pure_eq_ok, Prod.exists] at h
  obtain ⟨i, p, hp, -, hv, -, -, rfl⟩ := h
  obtain ⟨hws, hid, hlive⟩ := pos_of_first hp
  obtain ⟨j, v, hv, hvi, hvv⟩ := any_iff.mp hv
  exact ⟨i, j, p, v, ⟨lookup_of_first hp, hws, hid, hv, hvi, hvv⟩, hlive, rfl⟩

theorem bindParameters_eq_ok {bindings : List ParameterBinding}
    (h : bindings.foldlM (bindParameter db workspaceId e) bound = .ok bound') :
    (∀ b ∈ bindings, Bindable db.toTables workspaceId b) ∧
      ∀ k x, bound'.lookup k = some x →
        bound.lookup k = some x ∨ BoundFor db.toTables workspaceId bindings x := by
  induction bindings generalizing bound with
  | nil =>
    cases h
    exact ⟨fun _ hb => absurd hb List.not_mem_nil, fun _ _ hx => .inl hx⟩
  | cons b _ ih =>
    simp only [List.foldlM_cons, bind_eq_ok] at h
    obtain ⟨_, hb, hrest⟩ := h
    obtain ⟨i, j, p, v, hbinds, hlive, rfl⟩ := bindParameter_eq_ok hb
    obtain ⟨hall, hrows⟩ := ih hrest
    refine ⟨fun c hc => ?_, fun k x hx => ?_⟩
    · rcases List.mem_cons.mp hc with rfl | hc
      · exact ⟨i, j, p, v, hbinds, hlive⟩
      · exact hall c hc
    · rcases hrows k x hx with hx | ⟨c, hc, hrest⟩
      · rcases lookup_insert_eq_some.mp hx with ⟨-, rfl⟩ | hx
        · exact .inr ⟨b, List.mem_cons_self, i, j, p, v, hbinds, hlive, rfl, hbinds.version.symm⟩
        · exact .inl hx
      · exact .inr ⟨c, List.mem_cons_of_mem b hc, hrest⟩

/-- What adopting a configuration does, with what its bindings are. -/
theorem adoptConfiguration_bindings {policy : PublicationPolicy} {configuration : RuntimeConfig}
    (h : adoptConfiguration policy db e ae configuration = .ok db') :
    ∃ reserved, reserved.parameters = configuration.parameters ∧
      (¬ db.revisions.Any fun _ r => r.appEnvironmentId = e ∧ r.version = ae.configurationVersion) ∧
      db'.revisions = db.revisions.insert ⟨e, ae.configurationVersion, reserved⟩ ∧
      db'.appEnvironments = db.appEnvironments.modify (fun i _ => i = e) (configureRow reserved) ∧
      (∀ b ∈ configuration.parameters, Bindable db.toTables ae.workspaceId b) ∧
      ∀ k x, db'.boundParameters.lookup k = some x → db.boundParameters.lookup k = some x ∨
        BoundFor db.toTables ae.workspaceId configuration.parameters x := by
  simp only [adoptConfiguration, replaceParameterBindings, insertRevision, ok_iff, Prod.exists] at h
  obtain ⟨_, reserved, hr, _, ⟨_, hbound, rfl⟩, hn, rfl⟩ := h
  have hparameters := parameters_of_reserve hr
  rw [hparameters] at hbound
  obtain ⟨hall, hrows⟩ := bindParameters_eq_ok hbound
  refine ⟨reserved, hparameters, hn, rfl, rfl, hall, fun k x hx => ?_⟩
  rcases hrows k x hx with hx | hx
  · exact .inl (lookup_delete_eq_some.mp hx).1
  · exact .inr hx

end Storing

/-! ### One step of the store -/

/-- The bindings of the configuration that a request stores, with its workspace. -/
def Action.bindings? : Action → Option (ℕ × List ParameterBinding)
  | .createAppEnvironment new => some (new.workspaceId, new.configuration.parameters)
  | .updateAppEnvironment workspaceId _ _ configuration _ =>
    some (workspaceId, configuration.parameters)
  | _ => none

variable {policy : PublicationPolicy} {s : State} {a : Action}

/-- What may happen in one step to revisions and to the rows of bindings. -/
inductive BindingStep (s : State) (a : Action) (db' : Db) : Prop
  /-- Nothing. -/
  | kept (hrev : db'.revisions = s.db.revisions)
      (hbound : db'.boundParameters = s.db.boundParameters)
  /-- A configuration was stored. -/
  | stored (workspaceId i v : ℕ) (reserved : RuntimeConfig) (ae' : AppEnvironment)
      (ha : a.bindings? = some (workspaceId, reserved.parameters))
      (hnew : ¬ s.db.revisions.Any fun _ r => r.appEnvironmentId = i ∧ r.version = v)
      (hrev : db'.revisions = s.db.revisions.insert ⟨i, v, reserved⟩)
      (hl : db'.appEnvironments.lookup i = some ae') (hws : ae'.workspaceId = workspaceId)
      (hbinds : ∀ b ∈ reserved.parameters, Bindable s.db.toTables workspaceId b)
      (hbound : ∀ k x, db'.boundParameters.lookup k = some x →
        s.db.boundParameters.lookup k = some x ∨
          BoundFor s.db.toTables workspaceId reserved.parameters x)

/-- The environment that an update is about is one of the workspace. -/
theorem workspaceId_of_adopted {workspaceId version i : ℕ} {publicId branch : String}
    {configuration new : RuntimeConfig} {kind : WorkloadKind}
    (h : adopted s (.updateAppEnvironment workspaceId publicId branch configuration version) =
      some (i, kind, new)) (hl : s.db.appEnvironments.lookup i = some ae) :
    ae.workspaceId = workspaceId := by
  dsimp only [adopted] at h
  split at h
  · next k q hq =>
    obtain ⟨rfl, -⟩ := Prod.mk.inj (Option.some.inj h)
    obtain ⟨hq, hws, -⟩ := appEnvironmentForUpdate_eq_ok hq
    cases hl.symm.trans hq
    exact hws
  · cases h

/-- A new environment stores its configuration. -/
theorem bindingStep_of_create {request : NewAppEnvironment} {adopted db' : Db}
    (hp : placeAppEnvironment s.db request = .ok ae)
    (ha : adoptConfiguration policy { s.db with appEnvironments := s.db.appEnvironments.insert ae }
      s.db.appEnvironments.nextId ae ae.configuration = .ok adopted)
    (hrev : db'.revisions = adopted.revisions)
    (hbound : db'.boundParameters = adopted.boundParameters)
    (henv : Table.Agree AppEnvironment.workspaceId adopted.appEnvironments db'.appEnvironments) :
    BindingStep s (.createAppEnvironment request) db' := by
  obtain ⟨projectId, appId, stageId, clusterId, rfl, -⟩ := placeAppEnvironment_eq_ok hp
  obtain ⟨reserved, hparameters, hn, hrev', henv', hall, hrows⟩ := adoptConfiguration_bindings ha
  have hrow := lookup_modify_of_pos (p := fun i _ => i = s.db.appEnvironments.nextId)
    (f := configureRow reserved) (lookup_insert_self (t := s.db.appEnvironments)
      (r := request.row projectId appId stageId clusterId)) rfl
  rw [henv'] at henv
  obtain ⟨ae', hl, hws⟩ := henv.exists_lookup hrow
  refine .stored request.workspaceId _ _ reserved ae' ?_ hn (hrev.trans hrev') hl hws
    (hparameters ▸ hall) fun k x hx => ?_
  · rw [hparameters]
    rfl
  · rw [hparameters]
    exact hrows k x (hbound ▸ hx)

/-- **What a step of the store does to revisions and bindings.** -/
theorem step_bindings (policy) (s : State) (a : Action) :
    BindingStep s a (step policy s a).db := by
  have h := step_effect policy s a
  generalize step policy s a = s' at h
  cases h with
  | create _ _ _ _ _ hp _ ha => exact bindingStep_of_create hp ha.ok rfl rfl (.refl _ _)
  | createStateful _ _ _ _ _ _ _ _ hp _ ha hv =>
    obtain ⟨_, _, _, _, -, -, -, -, rfl⟩ := createAppVolume_eq_ok hv
    exact bindingStep_of_create hp ha.ok rfl rfl (agree_modify fun _ => rfl)
  | update workspaceId _ b configuration _ i ae new _ _ _ hi _ _ hnew ha had =>
    obtain ⟨reserved, hparameters, hn, hrev, henv, hall, hrows⟩ := adoptConfiguration_bindings ha.ok
    have hws := workspaceId_of_adopted had hi
    have hbindings : configuration.parameters = reserved.parameters := by
      rw [hparameters, hnew]
      rfl
    refine .stored workspaceId i _ reserved _ ?_ hn hrev
      (lookup_modify_of_pos (lookup_modify_of_pos hi rfl) rfl) hws ?_ ?_
    · rw [← hbindings]
      rfl
    · rw [hparameters, ← hws]
      exact hall
    · rw [hparameters, ← hws]
      exact hrows
  | report _ _ _ hr =>
    rw [(sameCore_of_steps hr).rest]
    exact .kept rfl rfl
  | claim _ _ _ _ _ _ _ _ hs =>
    obtain ⟨-, -, -, hrev, -, -, hbound⟩ := startWork_eq_ok hs
    exact .kept hrev hbound
  | failed =>
    exact .kept (reportFailure_frame _ _).2.2.1 (reportFailure_frame _ _).2.2.2.2.2
  | _ => exact .kept rfl rfl

/-- A revision stays. -/
theorem step_revision (policy) (a : Action) {k : ℕ} {r : Revision}
    (h : s.db.revisions.lookup k = some r) : (step policy s a).db.revisions.lookup k = some r := by
  cases step_bindings policy s a with
  | kept hrev => exact hrev ▸ h
  | stored _ _ _ _ _ _ _ hrev =>
    rw [hrev]
    exact lookup_insert_of_lookup h

/-! ### Deployments, operations and revisions -/

/-- The environment stays in its workspace. -/
theorem EnvironmentStep.workspaceId {db' : Db} {i : ℕ} {ae' : AppEnvironment}
    (h : EnvironmentStep policy s a db' i ae ae') : ae'.workspaceId = ae.workspaceId := by
  cases h with
  | report h => exact (congrArg AppEnvironment.workspaceId h :)
  | _ => rfl

/-- The deployment has the bindings and the variables of this revision of its environment, which
is one of its workspace. -/
structure DeployedFrom (db : Db) (d : Deployment) (r : Revision) : Prop where
  environment : r.appEnvironmentId = d.appEnvironmentId
  version : r.version = d.configurationVersion
  parameters : d.configuration.parameters = r.configuration.parameters
  runtimeVariables : d.configuration.runtimeVariables = r.configuration.runtimeVariables
  workspace : ∃ ae, db.appEnvironments.lookup d.appEnvironmentId = some ae ∧
    ae.workspaceId = d.workspaceId

/-- A deployment is of a revision, and an operation on it is on its environment. -/
structure Traced (db : Db) : Prop where
  revision : ∀ k r l q, db.revisions.lookup k = some r → db.revisions.lookup l = some q →
    r.appEnvironmentId = q.appEnvironmentId → r.version = q.version → k = l
  environment : ∀ k r, db.revisions.lookup k = some r →
    ∃ ae, db.appEnvironments.lookup r.appEnvironmentId = some ae
  deployment : ∀ j d, db.deployments.lookup j = some d →
    ∃ k r, db.revisions.lookup k = some r ∧ DeployedFrom db d r
  operation : ∀ k o j, db.operations.lookup k = some o → o.deploymentId = some j →
    ∃ d, db.deployments.lookup j = some d ∧ o.appEnvironmentId = some d.appEnvironmentId

theorem Initial.traced (h : Initial s) : Traced s.db where
  revision k r l q hk := by rw [h.revisions] at hk; cases hk
  environment k r hk := by rw [h.revisions] at hk; cases hk
  deployment j d hd := by rw [h.deployments] at hd; cases hd
  operation k o j hk := by rw [h.operations] at hk; cases hk

/-- A new deployment is created from a revision. -/
theorem step_new_deployment_revision (policy) (a : Action) {j : ℕ}
    {d : Deployment} (hn : s.db.deployments.lookup j = none)
    (hl : (step policy s a).db.deployments.lookup j = some d) :
    ∃ k r, s.db.revisions.lookup k = some r ∧ DeployedFrom s.db d r := by
  obtain ⟨⟨⟩, -⟩ := newDeployment_of_step policy a hn hl
  rename_i request e _ k ae revision _ reserved _ he hk hke hkv _ hr hf _
  have hreserved : reserved.parameters = revision.configuration.parameters ∧
      reserved.runtimeVariables = revision.configuration.runtimeVariables := by
    simp only [reservePublicationClaims, ok_iff] at hr
    obtain ⟨⟨_, _⟩, -, ⟨⟩⟩ := hr
    exact ⟨rfl, rfl⟩
  obtain ⟨-, hws, -⟩ := appEnvironmentForUpdate_eq_ok hf
  exact ⟨k, revision, hk, hke, hkv, hreserved.1, hreserved.2, ae, he, hws⟩

/-- The environment of a deployment stays in its workspace. -/
theorem DeployedFrom.step {d : Deployment} {r : Revision} (h : DeployedFrom s.db d r)
    (policy) (a : Action) : DeployedFrom (step policy s a).db d r := by
  obtain ⟨_, hae, hws⟩ := h.workspace
  obtain ⟨ae', hae', hstep⟩ := step_environment policy a hae
  exact ⟨h.environment, h.version, h.parameters, h.runtimeVariables, ae', hae',
    hstep.workspaceId.trans hws⟩

theorem DeployedFrom.of_core {db : Db} {d d' : Deployment} {r : Revision}
    (hc : d'.core = d.core) (h : DeployedFrom db d r) : DeployedFrom db d' r := by
  have hcore : DeployedFrom db d.core r := ⟨h.1, h.2, h.3, h.4, h.5⟩
  rw [← hc] at hcore
  exact ⟨hcore.1, hcore.2, hcore.3, hcore.4, hcore.5⟩

/-- **Every step keeps deployments traced.** -/
theorem Traced.step (h : Traced s.db) (ho : Ordered s.db) (policy)
    (a : Action) : Traced (step policy s a).db := by
  refine ⟨fun k r l q hk hl he hv => ?_, fun k r hk => ?_, fun j d' hd' => ?_,
    fun k o' j hk hj => ?_⟩
  · cases step_bindings policy s a with
    | kept hrev =>
      rw [hrev] at hk hl
      exact h.revision k r l q hk hl he hv
    | stored _ _ _ _ _ _ hnew hrev =>
      rw [hrev] at hk hl
      rw [not_any_iff] at hnew
      rcases lookup_insert_eq_some.mp hk with ⟨rfl, rfl⟩ | hk' <;>
        rcases lookup_insert_eq_some.mp hl with ⟨rfl, rfl⟩ | hl'
      · rfl
      · exact absurd ⟨he.symm, hv.symm⟩ (hnew l q hl')
      · exact absurd ⟨he, hv⟩ (hnew k r hk')
      · exact h.revision k r l q hk' hl' he hv
  · have hlives : ∀ {e : ℕ} {ae : AppEnvironment}, s.db.appEnvironments.lookup e = some ae →
        ∃ ae', (Store.step policy s a).db.appEnvironments.lookup e = some ae' := fun hae => by
      obtain ⟨ae', hae', -⟩ := step_environment policy a hae
      exact ⟨ae', hae'⟩
    cases step_bindings policy s a with
    | kept hrev =>
      obtain ⟨_, hae⟩ := h.environment k r (hrev ▸ hk)
      exact hlives hae
    | stored _ _ _ _ ae' _ _ hrev hl =>
      rw [hrev] at hk
      rcases lookup_insert_eq_some.mp hk with ⟨rfl, rfl⟩ | hk
      · exact ⟨ae', hl⟩
      · obtain ⟨_, hae⟩ := h.environment k r hk
        exact hlives hae
  · cases hd : s.db.deployments.lookup j with
    | none =>
      obtain ⟨k, r, hr, hfrom⟩ := step_new_deployment_revision policy a hd hd'
      exact ⟨k, r, step_revision policy a hr, hfrom.step policy a⟩
    | some d =>
      obtain ⟨hcore, -⟩ := of_found (step_deployment policy a hd) hd'
      obtain ⟨k, r, hr, hfrom⟩ := h.deployment j d hd
      exact ⟨k, r, step_revision policy a hr, (hfrom.step policy a).of_core hcore⟩
  · rcases operation_cases policy a hk with ⟨o, hk₀, hf⟩ | ⟨-, hnew, -⟩
    · obtain ⟨_, hd, he⟩ := h.operation k o j hk₀ (hf.deploymentId ▸ hj)
      obtain ⟨d', hd', hid⟩ := deployment_step policy a hd rfl
      exact ⟨d', hd', hf.appEnvironmentId.trans (he.trans (congrArg some hid.symm))⟩
    · have hkind := hnew.target.kind_of_deployment (by simp [hj])
      obtain ⟨e, ae, he, hae, hdesired, -⟩ := hnew.deployment hkind
      obtain ⟨d, hd, hid⟩ := (ho.step policy a).desired e ae j hae (hdesired.symm.trans hj)
      exact ⟨d, hd, he.trans (congrArg some hid.symm)⟩

/-- Deployments and operations are not in the tables of parameters. -/
theorem Traced.putTables {db : Db} (h : Traced db) (t : Tables) : Traced (putTables db t) where
  revision := h.revision
  environment := h.environment
  deployment j d hd := by
    obtain ⟨k, r, hr, hfrom⟩ := h.deployment j d hd
    exact ⟨k, r, hr, hfrom.environment, hfrom.version, hfrom.parameters, hfrom.runtimeVariables,
      hfrom.workspace⟩
  operation := h.operation

theorem Ordered.putTables {db : Db} (h : Ordered db) (t : Tables) : Ordered (putTables db t) :=
  ⟨h.desired, h.current, h.active, h.bound, h.order⟩

end Molejo.Store
