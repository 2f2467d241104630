import Molejo.Store.Acceptance
import Molejo.Store.Revocation

/-!
# When repairs come to rest

A complete snapshot that shows drift of an environment queues an operation that repairs it.
What drift is measured against – the version and the digest that were applied last – is
written when an operation is completed, and only then. If the repair fails for good, the next
heartbeat finds the same drift and queues the next repair. Nothing bounds this, and as long as
one of the repairs is active, a new deployment of the environment is refused.

So repairs come to rest just where there is nothing to repair: if a snapshot shows no drift of
an environment that has no active operation, the same snapshot never queues anything for it.
This file proves that (`quiesces_of_driftFree`) and follows one environment, whose first
deployment has failed, through arbitrarily many repairs of it.
-/

namespace Molejo.Store

open Transaction Relation Table Transition

variable {cluster : ℕ} {t : DriftTarget} {kind : String}

variable {policy : PublicationPolicy} {now : Time} {s : State} {a : Action} {db db' : Db}
  {e g i j k : ℕ} {ae : AppEnvironment} {o : Operation} {shown seen : List RuntimeObservation}

/-! ### The property -/

/-- The operations of an environment, of whatever status. -/
def operationsOf (db : Db) (e : ℕ) : List (ℕ × Operation) :=
  db.operations.select fun _ o => o.appEnvironmentId = some e

/-- What an Agent reports with a heartbeat. -/
def Action.heartbeat? : Action → Option Heartbeat
  | .reconcile _ heartbeat => some heartbeat
  | _ => none

/-- Nobody asks for work on the environment, the reports of its cluster are the complete snapshot
`shown`, and no operation of the environment is completed. -/
def Undisturbed (policy : PublicationPolicy) (e : ℕ) (shown : List RuntimeObservation) (s : State)
    (a : Action) : Prop :=
  (∀ ae ∈ s.db.appEnvironments.lookup e, a.names ae = false) ∧
  (∀ heartbeat ∈ a.heartbeat?, ∀ cluster, sessionOf s.db heartbeat = .ok cluster →
    PlacedOn s.db e cluster → heartbeat.complete = true ∧ heartbeat.observations = shown) ∧
  ∀ op ∈ completed policy s a, op.2.appEnvironmentId ≠ some e

/-- **Repairs come to rest.** However a run goes on in which the snapshot is reported over and over
and no operation of the environment is completed, there is a bound on the operations the
environment gets; and it can always go on to a point from which on none of them is active. -/
def Quiesces (policy : PublicationPolicy) (e : ℕ) (shown : List RuntimeObservation) (s : State) :
    Prop :=
  (∃ n, ∀ acts, Guarded (step policy) (Undisturbed policy e shown) s acts →
    (operationsOf (run (step policy) s acts).db e).length ≤ n) ∧
  ∀ acts, Guarded (step policy) (Undisturbed policy e shown) s acts →
    ∃ more, Guarded (step policy) (Undisturbed policy e shown)
        (run (step policy) s acts) more ∧
      ∀ rest, Guarded (step policy) (Undisturbed policy e shown)
          (run (step policy) (run (step policy) s acts) more) rest →
        ¬ HasActiveOperation (run (step policy)
          (run (step policy) (run (step policy) s acts) more)
          rest).db.operations e

/-! ### Snapshots without drift -/

/-- The snapshot shows the object under the version and the digest that were applied last. -/
def ShownAs (shown : List RuntimeObservation) (kind key : String) (version : ℕ) (hash : String) :
    Prop :=
  ∃ o ∈ shown.find? fun o => o.kind = kind ∧ o.key = key,
    o.desiredVersion = version ∧ o.specHash = hash
deriving Decidable

/-- The snapshot shows the deployment that the environment desires, if it is to have one, as it was
applied last. -/
def DeploymentShown (db : Db) (shown : List RuntimeObservation) (ae : AppEnvironment) : Prop :=
  ae.deletionRequestedAt = none → ae.desiredDeploymentId ≠ none →
    ∃ w ∈ db.workspaces.lookup ae.workspaceId,
      ShownAs shown "AppDeployment" (runtimeObservationKey w.namespaceName ae.runtimeName)
        ae.runtimeDesiredVersion (ae.runtimeSpecHash.getD "")
deriving Decidable

/-- The snapshot shows the volume, if it is to be there, as it was applied last. -/
def VolumeShown (db : Db) (shown : List RuntimeObservation) (v : AppVolume) : Prop :=
  v.deletionRequestedAt = none → v.desiredState = .ready →
    ∃ w ∈ db.workspaces.lookup v.workspaceId,
      ShownAs shown "AppVolume" (runtimeObservationKey w.namespaceName v.publicId)
        v.runtimeDesiredVersion (v.runtimeSpecHash.getD "")
deriving Decidable

/-- The snapshot shows no drift of the environment. -/
def DriftFree (db : Db) (shown : List RuntimeObservation) (e : ℕ) : Prop :=
  ∀ ae ∈ db.appEnvironments.lookup e, ae.archivedAt = none →
    DeploymentShown db shown ae ∧
      ∀ j v, db.appVolumes.lookup j = some v → v.appEnvironmentId = e → VolumeShown db shown v
deriving Decidable

/-! ### What drift is measured against -/

/-- What drift of the deployment of an environment is measured against. -/
def appliedOf (ae : AppEnvironment) :=
  (ae.workspaceId, ae.clusterId, ae.runtimeName, ae.desiredDeploymentId, ae.archivedAt,
    ae.deletionRequestedAt, ae.runtimeDesiredVersion, ae.runtimeSpecHash)

/-- What drift of a volume is measured against. -/
def appliedVolume (v : AppVolume) :=
  (v.publicId, v.workspaceId, v.appEnvironmentId, v.desiredState, v.deletionRequestedAt,
    v.runtimeDesiredVersion, v.runtimeSpecHash)

/-- What drift of the environment is measured against is the same in both databases. -/
structure AppliedKept (db db' : Db) (e : ℕ) : Prop where
  environment : ∀ ae, db.appEnvironments.lookup e = some ae →
    ∃ ae', db'.appEnvironments.lookup e = some ae' ∧ appliedOf ae' = appliedOf ae
  volumes : ∀ j v', db'.appVolumes.lookup j = some v' → v'.appEnvironmentId = e →
    ∃ v, db.appVolumes.lookup j = some v ∧ appliedVolume v' = appliedVolume v
  workspaces : ∀ i w, db.workspaces.lookup i = some w →
    ∃ w', db'.workspaces.lookup i = some w' ∧ w'.namespaceName = w.namespaceName

theorem AppliedKept.of_agree
    (he : Table.Agree appliedOf db.appEnvironments db'.appEnvironments)
    (hv : Table.Agree appliedVolume db.appVolumes db'.appVolumes)
    (hw : Table.Agree Workspace.namespaceName db.workspaces db'.workspaces) :
    AppliedKept db db' e where
  environment _ hl := he.exists_lookup hl
  volumes j v' hl _ := by
    obtain ⟨v, hv, heq⟩ := hv.symm.exists_lookup hl
    exact ⟨v, hv, heq.symm⟩
  workspaces _ _ hl := hw.exists_lookup hl

theorem AppliedKept.trans {db₁ : Db} (h : AppliedKept db db₁ e) (h' : AppliedKept db₁ db' e) :
    AppliedKept db db' e where
  environment ae hl := by
    obtain ⟨ae₁, hl₁, heq₁⟩ := h.environment ae hl
    obtain ⟨ae', hl', heq'⟩ := h'.environment ae₁ hl₁
    exact ⟨ae', hl', heq'.trans heq₁⟩
  volumes j v' hl he := by
    obtain ⟨v₁, hl₁, heq₁⟩ := h'.volumes j v' hl he
    have henv : v₁.appEnvironmentId = e := (congrArg (·.2.2.1) heq₁).symm.trans he
    obtain ⟨v, hv, heq⟩ := h.volumes j v₁ hl₁ henv
    exact ⟨v, hv, heq₁.trans heq⟩
  workspaces i w hl := by
    obtain ⟨w₁, hl₁, heq₁⟩ := h.workspaces i w hl
    obtain ⟨w', hl', heq'⟩ := h'.workspaces i w₁ hl₁
    exact ⟨w', hl', heq'.trans heq₁⟩

theorem AppliedKept.placed (h : AppliedKept db db' e) (hl : db.appEnvironments.lookup e = some ae)
    (hp : PlacedOn db' e cluster) :
    PlacedOn db e cluster := by
  obtain ⟨ae', hl', heq⟩ := h.environment ae hl
  have hc : ae'.clusterId = ae.clusterId := congrArg (·.2.1) heq
  unfold PlacedOn at hp ⊢
  rw [hl', Option.bind_some] at hp
  rw [hl, Option.bind_some, ← hc, hp]

/-- A snapshot that shows no drift goes on showing none. -/
theorem DriftFree.of_kept (h : DriftFree db shown e) (hk : AppliedKept db db' e)
    (hl : db.appEnvironments.lookup e = some ae) : DriftFree db' shown e := by
  obtain ⟨ae', hl', heq⟩ := hk.environment ae hl
  simp only [appliedOf, Prod.mk.injEq] at heq
  obtain ⟨hws, -, hname, hdes, harch, hdel, hver, hhash⟩ := heq
  rintro q hq hna
  cases hl'.symm.trans hq
  obtain ⟨hdep, hvol⟩ := h ae hl (harch.symm.trans hna)
  refine ⟨fun hnd hne => ?_, fun j v' hv' he hnd hready => ?_⟩
  · obtain ⟨w, hw, hs⟩ := hdep (hdel.symm.trans hnd) (hdes ▸ hne)
    obtain ⟨w', hw', hns⟩ := hk.workspaces _ w hw
    refine ⟨w', ?_, ?_⟩
    · rw [hws]
      exact hw'
    · rw [hns, hname, hver, hhash]
      exact hs
  · obtain ⟨v, hv, heq⟩ := hk.volumes j v' hv' he
    simp only [appliedVolume, Prod.mk.injEq] at heq
    obtain ⟨hid, hws, henv, hds, hdel, hver, hhash⟩ := heq
    obtain ⟨w, hw, hs⟩ := hvol j v hv (henv.symm.trans he) (hdel.symm.trans hnd)
      (hds.symm.trans hready)
    obtain ⟨w', hw', hns⟩ := hk.workspaces _ w hw
    refine ⟨w', ?_, ?_⟩
    · rw [hws]
      exact hw'
    · rw [hns, hid, hver, hhash]
      exact hs

/-! ### What a report queues -/

/-- Sanitising messages changes nothing about drift. -/
theorem not_drifted_of_shown (hn : normalizeRuntimeObservations shown = .ok seen)
    (h : ShownAs shown kind t.key t.expectedVersion t.expectedHash) : ¬ t.Drifted kind seen := by
  simp only [normalizeRuntimeObservations, ok_iff] at hn
  obtain ⟨-, rfl⟩ := hn
  obtain ⟨o, ho, hv, hh⟩ := h
  refine fun hd => hd { o with message := sanitizeRuntimeMessage o.message } ?_ ⟨hv, hh⟩
  have hfind : (shown.map fun o => { o with message := sanitizeRuntimeMessage o.message }).find?
      (fun o => o.kind = kind ∧ o.key = t.key) =
      (shown.find? fun o => o.kind = kind ∧ o.key = t.key).map
        fun o => { o with message := sanitizeRuntimeMessage o.message } := List.find?_map ..
  rw [DriftTarget.seen, hfind, Option.mem_def.mp ho]
  rfl

/-- Repairs leave what drift is measured against, and what they queue is for environments of
targets that `Q` holds of. -/
def Repairs (e : ℕ) (Q : DriftTarget → Prop) (db db' : Db) : Prop :=
  AppliedKept db db' e ∧ ∀ k o, db'.operations.lookup k = some o →
    db.operations.lookup k = some o ∨ ∃ t, Q t ∧ o.appEnvironmentId = some t.environmentId

/-- What a loop queues is for something that has drifted. -/
theorem repair_repairs {ids : ℕ → String}
    {enqueue : String → Db → DriftTarget → Bool → Except Err Db}
    (henqueue : ∀ publicId a b t existed, enqueue publicId a t existed = .ok b →
      Repairs e (· = t) a b) {targets : List DriftTarget}
    (h : repair ids kind seen enqueue db targets = .ok db') :
    Repairs e (fun t => t ∈ targets ∧ t.Drifted kind seen) db db' := by
  induction targets generalizing db with
  | nil =>
    cases h
    exact ⟨.of_agree (.refl _ _) (.refl _ _) (.refl _ _), fun _ _ => .inl⟩
  | cons t targets ih =>
    simp only [repair] at h
    have hmem (u : DriftTarget) (hu : u ∈ targets ∧ u.Drifted kind seen) :
        u ∈ t :: targets ∧ u.Drifted kind seen := hu.imp_left (List.mem_cons_of_mem t)
    split at h
    · next hd =>
      obtain ⟨_, he, hr⟩ := bind_eq_ok.mp h
      obtain ⟨hkept, hqueued⟩ := henqueue _ _ _ _ _ he
      obtain ⟨hkept', hqueued'⟩ := ih hr
      refine ⟨hkept.trans hkept', fun k o hl => ?_⟩
      rcases hqueued' k o hl with hl₁ | ⟨u, hu, hoe⟩
      · refine (hqueued k o hl₁).imp_right ?_
        rintro ⟨_, rfl, hoe⟩
        exact ⟨_, ⟨List.mem_cons_self, hd⟩, hoe⟩
      · exact .inr ⟨u, hmem u hu, hoe⟩
    · obtain ⟨hkept, hqueued⟩ := ih h
      exact ⟨hkept, fun k o hl => (hqueued k o hl).imp_right (.imp fun u h => ⟨hmem u h.1, h.2⟩)⟩

theorem enqueueVolumeReconciliation_repairs (publicId : String) (db db' : Db) (t : DriftTarget)
    (existed : Bool) (h : enqueueVolumeReconciliation now publicId db t existed = .ok db') :
    Repairs e (· = t) db db' := by
  simp only [enqueueVolumeReconciliation, ok_iff, insertOperationForPrincipal_eq_ok] at h
  obtain ⟨_, -, _, -, _, ⟨_, -, -, rfl⟩, rfl⟩ := h
  refine ⟨.of_agree (agree_modify fun _ => rfl) (agree_modify fun _ => rfl) (.refl _ _), ?_⟩
  exact forall_insert (fun _ _ => .inl) (.inr ⟨t, rfl, rfl⟩)

theorem enqueueRuntimeReconciliation_repairs (publicId : String) (db db' : Db) (t : DriftTarget)
    (existed : Bool) (h : enqueueRuntimeReconciliation now publicId db t existed = .ok db') :
    Repairs e (· = t) db db' := by
  simp only [enqueueRuntimeReconciliation, ok_iff, insertOperationForPrincipal_eq_ok] at h
  obtain ⟨_, -, _, -, -, rfl⟩ := h
  refine ⟨.of_agree (agree_modify fun _ => rfl) (.refl _ _) (.refl _ _), ?_⟩
  exact forall_insert (fun _ _ => .inl) (.inr ⟨t, rfl, rfl⟩)

/-- A volume that is shown as it was applied is not queued. -/
theorem DriftFree.not_volume {volumes : List DriftTarget} (h : DriftFree db shown e)
    (hn : normalizeRuntimeObservations shown = .ok seen)
    (hv : volumeDriftCandidates db cluster = .ok volumes) (ht : t ∈ volumes)
    (he : t.environmentId = e) : ¬ t.Drifted "AppVolume" seen := by
  obtain ⟨⟨i, v⟩, hr, htarget⟩ := mem_of_mapM_eq_ok hv ht
  obtain ⟨hl, ⟨ae, hae, -, hna⟩, -, hdel, hready, -⟩ := mem_select.mp hr
  have henv : v.appEnvironmentId = e := (volumeTarget_eq_ok htarget).1.symm.trans he
  simp only [volumeTarget, ok_iff] at htarget
  obtain ⟨_, -, workspace, hw, rfl⟩ := htarget
  have hs := of_found ((h ae (henv ▸ hae) hna).2 i v hl henv hdel hready) hw
  exact not_drifted_of_shown hn hs

/-- A deployment that is shown as it was applied is not queued. -/
theorem DriftFree.not_deployment {deployments : List DriftTarget} (h : DriftFree db shown e)
    (hn : normalizeRuntimeObservations shown = .ok seen)
    (hd : deploymentDriftCandidates db cluster = .ok deployments) (ht : t ∈ deployments)
    (he : t.environmentId = e) : ¬ t.Drifted "AppDeployment" seen := by
  obtain ⟨⟨i, ae⟩, hr, htarget⟩ := mem_of_mapM_eq_ok hd ht
  obtain ⟨hl, -, hna, hdel, -, -, -⟩ := mem_select.mp hr
  have henv : i = e := (deploymentTarget_eq_ok htarget).1.symm.trans he
  subst henv
  simp only [deploymentTarget, ok_iff] at htarget
  obtain ⟨_, hdep, _, -, workspace, hw, rfl⟩ := htarget
  have hs := of_found ((h ae hl hna).1 hdel (hdep ▸ Option.some_ne_none _)) hw
  exact not_drifted_of_shown hn hs

theorem Observed.applied (h : Observed db db') : AppliedKept db db' e := by
  refine .of_agree (h.environments.comp appliedOf) (h.volumes.comp appliedVolume) ?_
  rw [h.workspaces]
  exact .refl _ _

/-- What drift is measured against is the same after a report. -/
theorem reconcile_applied {ids : ℕ → String} {heartbeat : Heartbeat}
    (h : reconcileAgentObservations now ids db heartbeat = .ok db') : AppliedKept db db' e := by
  simp only [reconcileAgentObservations, ok_iff] at h
  obtain ⟨-, normalized, -, cluster, -, h⟩ := h
  refine (foldl_observe_observed now cluster db normalized).applied.trans ?_
  unfold repairIfComplete at h
  split at h
  · simp only [repairDrift, bind_eq_ok] at h
    obtain ⟨_, -, _, hr, _, -, hr'⟩ := h
    exact (repair_repairs enqueueVolumeReconciliation_repairs hr).1.trans
      (repair_repairs enqueueRuntimeReconciliation_repairs hr').1
  · cases h
    exact .of_agree (.refl _ _) (.refl _ _) (.refl _ _)

/-- **A report that shows no drift of an environment queues nothing for it.** The report may be an
incomplete one, or that of another cluster. -/
theorem reconcile_inserts_nothing {ids : ℕ → String} {heartbeat : Heartbeat}
    (hl : db.appEnvironments.lookup e = some ae) (hd : DriftFree db shown e)
    (hshown : ∀ cluster, sessionOf db heartbeat = .ok cluster → PlacedOn db e cluster →
      heartbeat.complete = true ∧ heartbeat.observations = shown)
    (h : reconcileAgentObservations now ids db heartbeat = .ok db')
    (hk : db'.operations.lookup k = some o) (hoe : o.appEnvironmentId = some e) :
    db.operations.lookup k = some o := by
  simp only [reconcileAgentObservations, ok_iff] at h
  obtain ⟨-, normalized, hn, cluster, hs, h⟩ := h
  have hobserved := foldl_observe_observed now cluster db normalized
  have hkept : AppliedKept db (normalized.foldl (observe now cluster) db) e := hobserved.applied
  rw [← hobserved.operations]
  unfold repairIfComplete at h
  split at h
  swap
  · cases h
    exact hk
  simp only [repairDrift, bind_eq_ok] at h
  obtain ⟨_, hvol, _, hr, _, hdep, hr'⟩ := h
  obtain ⟨hkept₀, hqueued⟩ := repair_repairs (e := e) enqueueVolumeReconciliation_repairs hr
  obtain ⟨-, hqueued'⟩ := repair_repairs (e := e) enqueueRuntimeReconciliation_repairs hr'
  have hkept₁ := hkept.trans hkept₀
  rcases hqueued' k o hk with hk₁ | ⟨t, ⟨ht, hdt⟩, hte⟩
  · rcases hqueued k o hk₁ with hk₀ | ⟨t, ⟨ht, hdt⟩, hte⟩
    · exact hk₀
    · cases hoe.symm.trans hte
      obtain ⟨-, hobs⟩ := hshown cluster hs (hkept.placed hl (volumeTarget_of_mem hvol ht).2)
      rw [hobs] at hn
      exact absurd hdt ((hd.of_kept hkept hl).not_volume hn hvol ht rfl)
  · cases hoe.symm.trans hte
    have ht := (List.mem_filter.mp ht).1
    obtain ⟨-, hobs⟩ := hshown cluster hs (hkept₁.placed hl (deploymentTarget_of_mem hdep ht).2)
    rw [hobs] at hn
    exact absurd hdt ((hd.of_kept hkept₁ hl).not_deployment hn hdep ht rfl)

/-! ### What a step does to an environment that is left alone -/

theorem startWork_applied (h : startWork now db o = .ok db') : AppliedKept db db' e := by
  rcases startWork_cases h with ⟨_, rfl⟩ | rfl | ⟨_, rfl⟩ | ⟨-, rfl⟩
  · exact .of_agree (.refl _ _) (.refl _ _) (agree_modify fun _ => rfl)
  · exact .of_agree (.refl _ _) (.refl _ _) (.refl _ _)
  · exact .of_agree (.refl _ _) (agree_modify fun _ => rfl) (.refl _ _)
  · exact .of_agree (.refl _ _) (.refl _ _) (.refl _ _)

theorem reportFailure_applied (operations : Table Operation) (o : Operation) (message : String) :
    AppliedKept db (reportFailure now { db with operations := operations } o message) e := by
  unfold reportFailure
  cases o.kind with
  | ensureWorkspace =>
    exact .of_agree (.refl _ _) (.refl _ _) (agree_modify fun _ => rfl)
  | applyDeployment | deleteAppEnvironment =>
    exact .of_agree (agree_modify fun _ => rfl) (.refl _ _) (.refl _ _)
  | ensureVolume | expandVolume | deleteVolume =>
    exact .of_agree (agree_modify fun _ => rfl) (agree_modify fun _ => rfl) (.refl _ _)

theorem settleEnvironment_applied (ae : AppEnvironment) (observed : VolumeState) :
    appliedOf (settleEnvironment ae observed) = appliedOf ae :=
  (congrArg appliedOf (settleEnvironment_core ae observed) :)

/-- An update of other environments. -/
theorem AppliedKept.of_modify {p : ℕ → AppEnvironment → Prop} {_ : ∀ i ae, Decidable (p i ae)}
    {f : AppEnvironment → AppEnvironment}
    (he : db'.appEnvironments = db.appEnvironments.modify p f)
    (hp : ∀ ae, db.appEnvironments.lookup e = some ae → p e ae → appliedOf (f ae) = appliedOf ae)
    (hv : ∀ j v', db'.appVolumes.lookup j = some v' → v'.appEnvironmentId = e →
      ∃ v, db.appVolumes.lookup j = some v ∧ appliedVolume v' = appliedVolume v)
    (hw : db'.workspaces = db.workspaces) : AppliedKept db db' e where
  environment ae hl := by
    rw [he]
    exact exists_lookup_modify hl rfl (hp ae hl)
  volumes := hv
  workspaces i w hl := ⟨w, hw ▸ hl, rfl⟩

section Alone

variable (hs : Storage s.db) (hc : CopiesSound s)
  (hidle : ¬ HasActiveOperation s.db.operations e)

include hc hidle

/-- No operation of an environment without active ones is completed. -/
theorem not_completed_of_idle {op : ClaimedOperation} (hdone : completed policy s a = some op) :
    op.2.appEnvironmentId ≠ some e := by
  intro he
  obtain ⟨o, ho, hw, hrun, -⟩ := row_of_completed hc hdone
  have hoe : o.appEnvironmentId = op.2.appEnvironmentId :=
    (congrArg Operation.appEnvironmentId hw :)
  exact hidle (any_iff.mpr ⟨op.1, o, ho, hoe.trans he, .inr hrun⟩)

include hs

/-- **What drift of an environment is measured against stays**, while the environment has no active
operation and nobody asks for work on it. -/
theorem step_applied (policy) (a : Action)
    (hl : s.db.appEnvironments.lookup e = some ae) (hnames : a.names ae = false) :
    AppliedKept s.db (step policy s a).db e := by
  have hne : e ≠ s.db.appEnvironments.nextId := (lt_nextId hl).ne
  have hsame : AppliedKept s.db s.db e := .of_agree (.refl _ _) (.refl _ _) (.refl _ _)
  have hno {C : Prop} (h : a.names ae = true) : C := by
    rw [hnames] at h
    cases h
  have hreport (ids : ℕ → String) (heartbeat : Heartbeat) (ha : a = .reconcile ids heartbeat) :
      AppliedKept s.db (step policy s a).db e := by
    subst ha
    simp only [step, State.transact]
    cases hr : reconcileAgentObservations s.now ids s.db heartbeat with
    | error => exact hsame
    | ok => exact reconcile_applied hr
  have h := step_effect policy s a
  generalize step policy s a = s' at h hreport
  cases h with
  | idle | tick | reload => exact hsame
  | elsewhere _ hx =>
    exact ⟨fun ae hl => ⟨ae, hl, rfl⟩, fun j v hv _ => ⟨v, hv, rfl⟩, fun i w hw => hx.2 i w hw⟩
  | session | attach | retry | release => exact .of_agree (.refl _ _) (.refl _ _) (.refl _ _)
  | revoke | branch => exact .of_agree (agree_modify fun _ => rfl) (.refl _ _) (.refl _ _)
  | create =>
    refine ⟨fun ae hl => ⟨ae, ?_, rfl⟩, fun j v hv _ => ⟨v, hv, rfl⟩, fun i w hw => ⟨w, hw, rfl⟩⟩
    exact lookup_modify_of_neg (lookup_insert_of_lookup hl) hne
  | createStateful _ _ _ _ _ _ _ _ _ _ _ hv =>
    obtain ⟨_, _, _, _, -, -, -, -, rfl⟩ := createAppVolume_eq_ok hv
    refine ⟨fun ae hl => ⟨ae, ?_, rfl⟩, fun j v hv he => ?_, fun i w hw => ⟨w, hw, rfl⟩⟩
    · exact lookup_modify_of_neg
        (lookup_modify_of_neg (lookup_insert_of_lookup hl) hne) hne
    · rcases lookup_insert_eq_some.mp hv with ⟨-, rfl⟩ | hv
      · exact absurd he.symm hne
      · exact ⟨v, hv, rfl⟩
  | update =>
    refine .of_agree ?_ (.refl _ _) (.refl _ _)
    refine .modify (agree_modify ?_) ?_ <;> exact fun _ => rfl
  | delete request _ _ j ae' hj _ _ _ _ hf =>
    refine .of_modify (p := fun k _ => k = j) rfl (fun q hq he => ?_)
      (fun j v hv _ => ⟨v, hv, rfl⟩) rfl
    subst he
    obtain rfl : ae = ae' := Option.mem_unique hl hj
    exact hno (decide_eq_true (appEnvironmentForUpdate_eq_ok hf).2)
  | expand =>
    exact .of_agree (agree_modify fun _ => rfl) (agree_modify fun _ => rfl) (.refl _ _)
  | remove change _ _ _ v hv =>
    refine .of_modify (p := fun k ae => k = v.appEnvironmentId ∧ ae.archivedAt = none) rfl ?_
      (fun k w hw he => ?_) rfl
    · exact fun _ _ _ => rfl
    obtain ⟨w₀, hw₀, ⟨rfl, rfl⟩ | ⟨-, rfl⟩⟩ := lookup_modify_eq_some.mp hw
    · -- the request names the environment of the volume
      obtain ⟨hj, -, ⟨q, hq, hp⟩, -⟩ := volumeForChange_eq_ok hv
      obtain rfl : w₀ = v := Option.mem_unique hw₀ hj
      have hew : w₀.appEnvironmentId = e := he
      obtain rfl : ae = q := Option.some.inj (hl.symm.trans (hew ▸ hq))
      exact hno (decide_eq_true hp)
    · exact ⟨w, hw₀, rfl⟩
  | deploy request j _ k _ ae' _ _ _ _ hj _ _ _ _ _ _ _ _ _ hf =>
    refine .of_modify (p := fun k _ => k = j) rfl (fun q hq he => ?_)
      (fun j v hv _ => ⟨v, hv, rfl⟩) rfl
    subst he
    obtain rfl : ae = ae' := Option.mem_unique hl hj
    exact hno (decide_eq_true (appEnvironmentForUpdate_eq_ok hf).2)
  | report ids heartbeat => exact hreport ids heartbeat rfl
  | claim _ _ _ _ _ _ _ _ hst =>
    have hst := startWork_applied (e := e) hst
    exact ⟨hst.environment, hst.volumes, hst.workspaces⟩
  | workspaceDone _ _ _ _ _ _ _ _ _ _ _ hw =>
    exact .of_agree (.refl _ _) (.refl _ _) hw
  | volumeDone _ k _ op _ _ _ _ observed _ _ _ _ _ hdone =>
    refine .of_modify (p := fun k ae => some k = op.2.appEnvironmentId ∧ ae.archivedAt = none) rfl
      (fun q _ _ => settleEnvironment_applied q observed) (fun j w hw he => ?_) rfl
    obtain ⟨w₀, hw₀, ⟨hj, rfl⟩ | ⟨-, rfl⟩⟩ := lookup_modify_eq_some.mp hw
    · -- the volume of an operation is one of its environment
      obtain ⟨o, ho, hwork, -⟩ := row_of_completed hc hdone
      have hov : o.appVolumeId = op.2.appVolumeId := (congrArg Operation.appVolumeId hwork :)
      have hoe : o.appEnvironmentId = op.2.appEnvironmentId :=
        (congrArg Operation.appEnvironmentId hwork :)
      have hue := of_found (hs.belongs op.1 o j ho (hov.trans hj.symm)) hw₀
      have hew : w₀.appEnvironmentId = e := he
      exact absurd (hoe.symm.trans (hue.trans (congrArg some hew)))
        (not_completed_of_idle hc hidle hdone)
    · exact ⟨w, hw₀, rfl⟩
  | environmentDone _ _ _ _ _ _ _ _ _ hdone =>
    refine .of_modify rfl (fun q hq hp => ?_) (fun j v hv _ => ⟨v, hv, rfl⟩) rfl
    exact absurd hp.1.symm (not_completed_of_idle hc hidle hdone)
  | deploymentDone _ _ _ _ _ _ _ _ _ _ _ _ _ _ _ _ hdone _ _ _ hv =>
    refine .of_modify rfl (fun q hq hp => ?_) ?_ rfl
    · exact absurd hp.1.symm (not_completed_of_idle hc hidle hdone)
    · intro j w hw _
      rcases hv with rfl | ⟨_, -, rfl⟩
      · exact ⟨w, hw, rfl⟩
      · obtain ⟨w₀, hw₀, heq⟩ := exists_of_lookup_modify hw appliedVolume fun _ => rfl
        exact ⟨w₀, hw₀, heq⟩
  | failed _ _ _ op _ message => exact reportFailure_applied _ op.2 message

end Alone

/-! ### Nothing is queued -/

/-- An operation that is inserted for an environment that is there was asked for by a user, or is a
repair. -/
theorem Inserted.names (h : Inserted s a o) (htarget : TargetValid o)
    (hl : s.db.appEnvironments.lookup e = some ae) (hoe : o.appEnvironmentId = some e) :
    a.names ae = true ∨ ∃ ids heartbeat, a = .reconcile ids heartbeat := by
  have hupdate {workspaceId : ℕ} {publicId : String} {r : ℕ × AppEnvironment}
      (hf : appEnvironmentForUpdate s.db workspaceId publicId = .ok r) (hr : some r.1 = some e) :
      ae.workspaceId = workspaceId ∧ ae.publicId = publicId ∧ ae.archivedAt = none := by
    obtain ⟨hq, hrow⟩ := appEnvironmentForUpdate_eq_ok hf
    rw [Option.some.inj hr, hl] at hq
    rwa [← Option.some.inj hq] at hrow
  have hchange {change : VolumeChange} {r : ℕ × AppVolume}
      (hv : volumeForChange s.db change = .ok r) (hr : some r.2.appEnvironmentId = some e) :
      ae.publicId = change.appEnvironmentPublicId := by
    obtain ⟨-, -, ⟨_, hq, hp⟩, -⟩ := volumeForChange_eq_ok hv
    rw [Option.some.inj hr, hl] at hq
    rwa [← Option.some.inj hq] at hp
  cases h with
  | attach _ _ _ hk =>
    rcases htarget with ⟨-, he, -⟩ | ⟨hkind, -⟩ | ⟨hkind, -⟩ | ⟨hkind, -⟩
    · rw [he] at hoe
      cases hoe
    all_goals
      simp [NewOperation.row, hk] at hkind
  | create _ _ _ _ he =>
    cases he.symm.trans hoe
    exact absurd hl (by rw [lookup_nextId]; exact nofun)
  | delete _ _ _ _ _ hf => exact .inl (decide_eq_true (hupdate hf hoe))
  | expand _ _ _ _ _ _ hv =>
    exact .inl (decide_eq_true (hchange hv hoe))
  | remove _ _ _ _ _ hv => exact .inl (decide_eq_true (hchange hv hoe))
  | deploy _ _ _ _ hf => exact .inl (decide_eq_true (hupdate hf hoe))
  | ensureVolume ids heartbeat => exact .inr ⟨ids, heartbeat, rfl⟩
  | applyDeployment ids heartbeat => exact .inr ⟨ids, heartbeat, rfl⟩

/-- What holds of an environment that is at rest. -/
structure AtRest (shown : List RuntimeObservation) (e : ℕ) (s : State) : Prop where
  storage : Storage s.db
  targets : TargetsValid s.db
  copies : CopiesSound s
  lives : ∃ ae, s.db.appEnvironments.lookup e = some ae
  idle : ¬ HasActiveOperation s.db.operations e
  driftFree : DriftFree s.db shown e

section AtRest

variable (h : AtRest shown e s) (hg : Undisturbed policy e shown s a)

include h hg

/-- The operations of an environment at rest are those it had. -/
theorem AtRest.operation (hk : (step policy s a).db.operations.lookup k = some o)
    (hoe : o.appEnvironmentId = some e) :
    ∃ o₀, s.db.operations.lookup k = some o₀ ∧ o₀.appEnvironmentId = some e ∧
      (o.Active → o₀.Active) := by
  obtain ⟨ae, hl⟩ := h.lives
  rcases operation_cases policy a hk with ⟨o₀, hk₀, hf⟩ | ⟨hk₀, hnew, hins⟩
  · exact ⟨o₀, hk₀, hf.appEnvironmentId.symm.trans hoe, hf.active⟩
  · rcases hins.names hnew.target hl hoe with hnames | ⟨ids, heartbeat, rfl⟩
    · rw [hg.1 ae hl] at hnames
      cases hnames
    · -- a report, and the environment has not drifted
      simp only [step, State.transact] at hk
      cases hr : reconcileAgentObservations s.now ids s.db heartbeat with
      | error =>
        rw [hr] at hk
        cases hk₀.symm.trans hk
      | ok =>
        rw [hr] at hk
        have hold := reconcile_inserts_nothing hl h.driftFree
          (fun cluster hs hp => hg.2.1 heartbeat rfl cluster hs hp) hr hk hoe
        cases hk₀.symm.trans hold

/-- **One step leaves it at rest.** -/
theorem AtRest.step : AtRest shown e (step policy s a) := by
  obtain ⟨ae, hl⟩ := h.lives
  have hkept := step_applied h.storage h.copies h.idle policy a hl (hg.1 ae hl)
  obtain ⟨ae', hl', -⟩ := hkept.environment ae hl
  refine ⟨h.storage.step policy a, h.targets.step policy a, h.copies.step policy a, ⟨ae', hl'⟩,
    fun hactive => ?_, h.driftFree.of_kept hkept hl⟩
  obtain ⟨k, _, hk, hoe, ha⟩ := any_iff.mp hactive
  obtain ⟨o₀, hk₀, hoe₀, ha₀⟩ := h.operation hg hk hoe
  exact h.idle (any_iff.mpr ⟨k, o₀, hk₀, hoe₀, ha₀ ha⟩)

/-- The environment gets no operation. -/
theorem AtRest.length_le :
    (operationsOf (Store.step policy s a).db e).length ≤ (operationsOf s.db e).length := by
  refine length_select_le fun k o hk hoe => ?_
  obtain ⟨o₀, hk₀, hoe₀, -⟩ := h.operation hg hk hoe
  exact ⟨o₀, hk₀, hoe₀⟩

end AtRest

/-- An environment at rest stays at rest and gets no operation. -/
theorem AtRest.run (h : AtRest shown e s) {acts : List Action}
    (hg : Guarded (Store.step policy) (Undisturbed policy e shown) s acts) :
    AtRest shown e (run (Store.step policy) s acts) ∧
      (operationsOf (run (Store.step policy) s acts).db e).length ≤
        (operationsOf s.db e).length :=
  guarded_run_induction
    (I := fun s' => AtRest shown e s' ∧
      (operationsOf s'.db e).length ≤ (operationsOf s.db e).length) ⟨h, le_rfl⟩
    (fun _ _ h hg => ⟨h.1.step hg, (h.1.length_le hg).trans h.2⟩) hg

/-- **Where there is no drift, repairs come to rest.** If a snapshot shows no drift of an
environment that has no active operation, then, however often it is reported, no operation is
queued for the environment, and none of its operations is ever active. -/
theorem quiesces_of_driftFree (policy : PublicationPolicy) (s₀ : State) (acts : List Action)
    (h₀ : Initial s₀) (e : ℕ) (shown : List RuntimeObservation)
    (hlives : ∃ ae, (run (step policy) s₀ acts).db.appEnvironments.lookup e = some ae)
    (hidle : ¬ HasActiveOperation (run (step policy) s₀ acts).db.operations e)
    (hdrift : DriftFree (run (step policy) s₀ acts).db shown e) :
    Quiesces policy e shown (run (step policy) s₀ acts) := by
  have hrest : AtRest shown e (run (step policy) s₀ acts) :=
    ⟨h₀.storage_run policy acts, h₀.targetsValid_run policy acts, h₀.copiesSound_run policy acts,
      hlives, hidle, hdrift⟩
  refine ⟨⟨_, fun more hg => (hrest.run hg).2⟩, fun more hg => ⟨[], trivial, fun rest hg' => ?_⟩⟩
  exact ((hrest.run hg).1.run hg').1.idle

/-- A deployment that succeeds. -/
def appliedRun : List Action :=
  [.createAppEnvironment (newEnvironment "env-one" []),
    .createDeployment (firstDeployment "env-one" 1),
    .claimNext "agent:cls-one" "cls-one" 60, .handleResult 1 goodResult]

/-- The deployment of `appliedRun`, as its cluster shows it. -/
def appliedObservation : RuntimeObservation where
  kind := "AppDeployment"
  namespaceName := "ws-one"
  name := "ap-env-one"
  state := "Ready"
  message := ""
  generation := 1
  observedGeneration := 1
  observedRelease := "rel-one"
  observedSizeGiB := 0
  desiredVersion := 2
  specHash := goodResult.specHash

/-- What was applied is shown, and repairs come to rest. -/
theorem quiesces_appliedRun :
    Quiesces smallPolicy 1 [appliedObservation]
      (run (step smallPolicy) smallStore appliedRun) :=
  quiesces_of_driftFree smallPolicy smallStore appliedRun smallStore_initial 1
    [appliedObservation] ⟨_, rfl⟩ (by decide +kernel) (by decide +kernel)

/-! ### Repairs without end -/

/-- Repairs of different generations have different keys. -/
theorem generation_of_reconcileKey {tag : String} {m n : ℕ}
    (h : reconcileKey tag e j m = reconcileKey tag e j n) : m = n := by
  have htext := congrArg (fun d : Digest => d.text.toList) h
  simp only [reconcileKey, sha256, String.toList_append, Nat.toString_eq_repr, Nat.toList_repr,
    List.append_cancel_left_eq] at htext
  refine eq_of_toDigits_append_colon (x := []) (y := []) ?_
  rw [htext]

/-- The first deployment of an environment fails for good; then its Agent connects. -/
def failedRun : List Action :=
  [.createAppEnvironment (newEnvironment "env-one" []),
    .createDeployment (firstDeployment "env-one" 1),
    .claimNext "agent:cls-one" "cls-one" 60, .handleResult 1 (badResult false),
    .activateAgent "cls-one" "session-one", .touchAgent "cls-one" "session-one" 1]

/-- The environment after its deployment failed once more: whatever the reports of its Agent are
compared with is as before, only the number of repairs has grown. -/
structure Stuck (g : ℕ) (s : State) : Prop where
  now : s.now = 0
  installation : ∃ r, s.db.installations.rows = [(1, r)] ∧ r.publicId = "cls-one" ∧
    r.status = .active ∧ r.controlSessionId = some "session-one" ∧ r.controlSessionSequence = 1
  environment : ∃ ae, s.db.appEnvironments.rows = [(1, ae)] ∧ ae.reconciliationGeneration = g ∧
    ae.clusterId = some 1 ∧ ae.archivedAt = none ∧ ae.deletionRequestedAt = none ∧
    ae.workspaceId = 1 ∧ ae.desiredDeploymentId = some 1 ∧ ae.version = 2
  deployment : ∃ d, s.db.deployments.lookup 1 = some d ∧ d.requestedByPrincipalId = 7
  workspace : ∃ w, s.db.workspaces.lookup 1 = some w
  volumes : s.db.appVolumes.rows = []
  ended : ∀ k o, s.db.operations.lookup k = some o → ¬ o.Active
  publicIds : ∀ k o, s.db.operations.lookup k = some o →
    ∀ n, s.db.operations.nextId ≤ n → o.publicId ≠ repairIds n
  keys : ∀ k o, s.db.operations.lookup k = some o →
    ∀ n, g < n → o.idempotencyHash ≠ reconcileKey "runtime-reconcile" 1 1 n

/-- The repair of the given generation. -/
def repairOperation (publicId : String) (g : ℕ) : Operation :=
  NewOperation.row
    { publicId := publicId
      workspaceId := 1
      appEnvironmentId := some 1
      deploymentId := some 1
      appVolumeId := none
      requestedByUserId := none
      requestedByPrincipalId := 7
      kind := .applyDeployment
      idempotencyHash := reconcileKey "runtime-reconcile" 1 1 g
      payloadHash := reconcileKey "runtime-reconcile" 1 1 g
      desiredVersion := 2 } 0 1

/-- The environment with the repair queued. -/
def queuedRow : AppEnvironment → AppEnvironment :=
  repairEnvironmentRow "runtime resource is missing; reconciliation queued"

/-- The store with the repair queued. -/
def queuedDb (db : Db) (g : ℕ) : Db :=
  { db with
    appEnvironments := db.appEnvironments.modify (fun i _ => i = 1) queuedRow
    operations := db.operations.insert (repairOperation (repairIds db.operations.nextId) g) }

theorem Stuck.lookup_environment (h : Stuck g s) :
    ∃ ae, s.db.appEnvironments.lookup 1 = some ae ∧ s.db.appEnvironments.rows = [(1, ae)] ∧
    ae.reconciliationGeneration = g ∧
    ae.clusterId = some 1 ∧ ae.archivedAt = none ∧ ae.deletionRequestedAt = none ∧
    ae.workspaceId = 1 ∧ ae.desiredDeploymentId = some 1 ∧ ae.version = 2 := by
  obtain ⟨ae, hrows, hae⟩ := h.environment
  exact ⟨ae, mem_rows_iff.mp (by rw [hrows]; exact List.mem_singleton_self _), hrows, hae⟩

theorem Stuck.sessionOf_eq (h : Stuck g s) : sessionOf s.db emptySnapshot = .ok 1 := by
  obtain ⟨_, hrows, hp, hs, hc, hq⟩ := h.installation
  simp [sessionOf, Table.first, hrows, emptySnapshot, hp, hs, hc, hq, expect, require]

/-- The repair is not refused. -/
theorem Stuck.insertable (h : Stuck g s) :
    Insertable s.db.operations (repairOperation (repairIds s.db.operations.nextId) (g + 1)) where
  publicId := not_any_iff.mpr fun i o hl => h.publicIds i o hl _ le_rfl
  desiredVersion := Nat.two_pos
  target := by
    simp [TargetValid, repairOperation, NewOperation.row]
  free := by
    rw [operationTaken_iff (e := 1) rfl (by simp [repairOperation, NewOperation.row]), not_or]
    refine ⟨not_any_iff.mpr fun i o hl hp => h.ended i o hl hp.2,
      not_any_iff.mpr fun i o hl hp => h.keys i o hl _ (Nat.lt_succ_self g) hp.2.1⟩

/-- Nothing was seen of the environment, so it is repaired once more. -/
theorem Stuck.reconcile (h : Stuck g s) :
    reconcileAgentObservations s.now repairIds s.db emptySnapshot =
      .ok (queuedDb s.db (g + 1)) := by
  obtain ⟨ae, hl, hrows, hgen, hc, ha, hd, hw, hdep, hver⟩ := h.lookup_environment
  obtain ⟨_, hdl, hprincipal⟩ := h.deployment
  obtain ⟨w, hwl⟩ := h.workspace
  have hidle : ¬ HasActiveOperation s.db.operations 1 :=
    not_any_iff.mpr fun i o hl hp => h.ended i o hl hp.2
  have hcandidate : DeploymentCandidate s.db 1 1 ae := by
    refine ⟨hc, ha, hd, ?_, ?_, hidle⟩
    · simp [hw, hwl]
    · simp [hdep, hdl]
  have hvolumes : volumeDriftCandidates s.db 1 = .ok [] := by
    simp [volumeDriftCandidates, Table.select, h.volumes, pure_eq_ok]
  have htargets : deploymentDriftCandidates s.db 1 = .ok
      [{ workspaceId := 1, environmentId := 1, subjectId := 1, actorId := 7, desiredVersion := 2,
         expectedVersion := ae.runtimeDesiredVersion,
         expectedHash := ae.runtimeSpecHash.getD "",
         key := runtimeObservationKey w.namespaceName ae.runtimeName }] := by
    simp [deploymentDriftCandidates, Table.select, hrows, hcandidate, deploymentTarget, expect,
      hdep, hdl, hw, hwl, hprincipal, hver]
  have hplaced : PlacedOn { s.db with
      appEnvironments := s.db.appEnvironments.modify (fun i _ => i = 1) queuedRow } 1 1 := by
    simp [PlacedOn, lookup_modify_of_pos hl (f := queuedRow) (p := fun i _ => i = 1) rfl]
    exact hc
  have hinserted : insertOperationForPrincipal s.now { s.db with
      appEnvironments := s.db.appEnvironments.modify (fun i _ => i = 1) queuedRow } 1
      { publicId := repairIds s.db.operations.nextId, workspaceId := 1, appEnvironmentId := some 1,
        deploymentId := some 1, appVolumeId := none, requestedByUserId := none,
        requestedByPrincipalId := 7, kind := .applyDeployment,
        idempotencyHash := reconcileKey "runtime-reconcile" 1 1 (g + 1),
        payloadHash := reconcileKey "runtime-reconcile" 1 1 (g + 1), desiredVersion := 2 } =
      .ok (queuedDb s.db (g + 1)) := by
    rw [h.now]
    exact insertOperationForPrincipal_eq_ok.mpr ⟨1, hplaced, h.insertable, rfl⟩
  have hdrifted : ∀ t : DriftTarget, t.Drifted "AppDeployment" [] := fun t o ho => by cases ho
  simp only [reconcileAgentObservations, bind_eq_ok, require_eq_ok]
  refine ⟨(), by decide, [], rfl, 1, h.sessionOf_eq, ?_⟩
  simp only [repairIfComplete, emptySnapshot, if_true, List.foldl_nil, repairDrift, hvolumes,
    ok_bind, repair, htargets, List.filter_nil, List.map_nil, List.not_mem_nil, not_false_iff,
    decide_true, List.filter_cons_of_pos, hdrifted, enqueueRuntimeReconciliation, hl, expect,
    hgen, DriftTarget.seen, List.find?_nil, Option.isSome_none, Bool.false_eq_true, if_false]
  exact bind_eq_ok.mpr ⟨_, hinserted, rfl⟩

/-- The repair, as its worker holds it. -/
def claimedRepair (n g : ℕ) : ClaimedOperation :=
  (n, claimRow 0 60 "agent:cls-one" (repairOperation (repairIds n) g))

/-- The store with the repair claimed. -/
def claimedDb (db : Db) (g : ℕ) : Db :=
  { queuedDb db g with
    operations := (queuedDb db g).operations.modify (fun j _ => j = db.operations.nextId)
      fun _ => (claimedRepair db.operations.nextId g).2
    deployments := db.deployments.modify (fun i _ => some i = some 1) fun d =>
      { d with status := .progressing, startedAt := some (d.startedAt.getD 0) } }

theorem Stuck.claimable (h : Stuck g s) {i : ℕ} {o : Operation} :
    (queuedDb s.db (g + 1)).operations.lookup i = some o ∧
      Claimable 0 (queuedDb s.db (g + 1)) "cls-one" i o ↔
    i = s.db.operations.nextId ∧
      o = repairOperation (repairIds s.db.operations.nextId) (g + 1) := by
  obtain ⟨r, hrows, hp, -⟩ := h.installation
  have hr : s.db.installations.lookup 1 = some r :=
    mem_rows_iff.mp (by rw [hrows]; exact List.mem_singleton_self _)
  constructor
  · rintro ⟨hl, hclaimable, -⟩
    rcases lookup_insert_eq_some.mp hl with hnew | hold
    · exact hnew
    · refine absurd ?_ (h.ended i o hold)
      exact hclaimable.imp id And.left
  · rintro ⟨rfl, rfl⟩
    refine ⟨lookup_insert_self, .inl rfl, le_rfl, .inr ⟨r, hr, hp⟩, ?_⟩
    refine not_any_iff.mpr fun j o hl ⟨_, _, hrunning, _, hj⟩ => ?_
    rcases lookup_insert_eq_some.mp hl with ⟨rfl, -⟩ | hold
    · exact hj rfl
    · exact h.ended j o hold (.inr hrunning)

/-- Nothing else is going on, so the repair is claimed next. -/
theorem Stuck.claimNext (h : Stuck g s) :
    claimNext 0 60 "agent:cls-one" "cls-one" (queuedDb s.db (g + 1)) =
      .ok (some (claimedDb s.db (g + 1), claimedRepair s.db.operations.nextId (g + 1))) := by
  obtain ⟨i, o, hfirst⟩ := exists_first (t := (queuedDb s.db (g + 1)).operations)
    (p := fun i o => Claimable 0 (queuedDb s.db (g + 1)) "cls-one" i o)
    (any_iff.mpr ⟨_, _, h.claimable.mpr ⟨rfl, rfl⟩⟩)
  obtain ⟨rfl, rfl⟩ := h.claimable.mp ⟨lookup_of_first hfirst, pos_of_first hfirst⟩
  obtain ⟨_, hl, -⟩ := h.lookup_environment
  obtain ⟨_, hdl, -⟩ := h.deployment
  have hqueued := lookup_modify_of_pos hl (f := queuedRow) (p := fun i _ => i = 1) rfl
  unfold Store.claimNext
  rw [hfirst]
  simp only [ok_iff]
  refine ⟨claimedDb s.db (g + 1), ?_, rfl⟩
  unfold startWork
  simp only [claimRow, repairOperation, NewOperation.row, ok_iff]
  exact ⟨_, hqueued, _, hdl, rfl⟩

/-- The store after the repair failed for good. -/
def failedDb (db : Db) (g : ℕ) : Db :=
  reportFailure 0
    { claimedDb db g with
      operations := (claimedDb db g).operations.modify
        (LeaseHeld 0 (claimedRepair db.operations.nextId g))
        (failRow 0 "runtime_ownership_conflict" "runtime object ownership conflict") }
    (claimedRepair db.operations.nextId g).2 "runtime object ownership conflict"

theorem lookup_claimedDb : (claimedDb db g).operations.lookup db.operations.nextId =
    some (claimedRepair db.operations.nextId g).2 := by
  exact lookup_modify_of_pos lookup_insert_self rfl

theorem leaseHeld_claimedRepair (n : ℕ) :
    LeaseHeld 0 (claimedRepair n g) n (claimedRepair n g).2 :=
  ⟨rfl, rfl, ⟨by simp [claimedRepair, claimRow], rfl⟩, rfl, _, rfl, by decide⟩

theorem fail_claimedRepair :
    Store.fail 0 (claimedDb db g) (claimedRepair db.operations.nextId g)
      "runtime_ownership_conflict" "runtime object ownership conflict" false =
        .ok (failedDb db g) := by
  refine fail_eq_ok.mpr ⟨any_iff.mpr ⟨_, _, lookup_claimedDb, leaseHeld_claimedRepair _⟩, ?_⟩
  rw [if_neg (by simp [Retries])]
  rfl

/-- An operation after the failure is an operation from before, or the repair, which failed. -/
theorem lookup_failedDb (h : (failedDb db g).operations.lookup k = some o) :
    db.operations.lookup k = some o ∨
      o.publicId = repairIds db.operations.nextId ∧ o.status = .failed ∧
        o.idempotencyHash = reconcileKey "runtime-reconcile" 1 1 g := by
  rw [failedDb, (reportFailure_frame _ _).1] at h
  obtain ⟨_, hq, hfail⟩ := lookup_modify_eq_some.mp h
  obtain ⟨_, hr, hclaim⟩ := lookup_modify_eq_some.mp hq
  rcases lookup_insert_eq_some.mp hr with ⟨rfl, rfl⟩ | hold
  · obtain ⟨-, rfl⟩ | ⟨hne, -⟩ := hclaim
    · obtain ⟨-, rfl⟩ | ⟨hne, -⟩ := hfail
      · exact .inr ⟨rfl, rfl, rfl⟩
      · exact absurd (leaseHeld_claimedRepair _) hne
    · exact absurd rfl hne
  · have hk : k ≠ db.operations.nextId := (lt_nextId hold).ne
    obtain ⟨heq, -⟩ | ⟨-, rfl⟩ := hclaim
    · exact absurd heq hk
    · obtain ⟨hheld, -⟩ | ⟨-, rfl⟩ := hfail
      · exact absurd hheld.1 hk
      · exact .inl hold

/-- What one round does: the missing object is reported, the repair is claimed and fails for good,
and the Agent connects again. -/
def round (k : ℕ) : List Action :=
  [.reconcile repairIds emptySnapshot, .claimNext "agent:cls-one" "cls-one" 60,
    .handleResult k (badResult false), .activateAgent "cls-one" "session-one",
    .touchAgent "cls-one" "session-one" 1]

/-- The row of an installation whose Agent has just connected. -/
def connectedRow (r : Installation) : Installation :=
  { r with
    status := .active
    controlSessionId := some "session-one"
    controlSessionSequence := 0 }

/-- The store with the repair failed and the Agent connected again. -/
def connectedDb (db : Db) (g : ℕ) : Db :=
  { failedDb db g with
    installations := db.installations.modify (fun i _ => i = 1) connectedRow }

/-- The store after a round. -/
def roundDb (db : Db) (g : ℕ) : Db :=
  { connectedDb db g with
    installations := (connectedDb db g).installations.modify (fun i _ => i = 1) fun r =>
      { r with controlSessionSequence := 1 } }

theorem Stuck.activateAgent (h : Stuck g s) :
    Store.activateAgent (failedDb s.db (g + 1)) "cls-one" "session-one" =
      .ok (connectedDb s.db (g + 1)) := by
  obtain ⟨r, hrows, hp, hs, -⟩ := h.installation
  have hsame : (failedDb s.db (g + 1)).installations = s.db.installations := rfl
  simp only [Store.activateAgent, bind_eq_ok, require_eq_ok, expect_eq_ok, pure_eq_ok]
  refine ⟨(), by decide, (1, r), ?_, (), by simp [hs], rfl⟩
  rw [hsame, Table.first, hrows]
  simp [hp]

theorem Stuck.touchAgent (h : Stuck g s) :
    Store.touchAgent (connectedDb s.db (g + 1)) "cls-one" "session-one" 1 =
      .ok (roundDb s.db (g + 1)) := by
  obtain ⟨r, hrows, hp, _, -⟩ := h.installation
  simp only [Store.touchAgent, bind_eq_ok, require_eq_ok, expect_eq_ok, pure_eq_ok]
  refine ⟨(), by decide, (1, connectedRow r), ?_, (), ⟨rfl, rfl, Nat.one_pos⟩, rfl⟩
  simp [connectedDb, Table.first, Table.modify, hrows, connectedRow, hp]

/-- What a round comes to. -/
theorem Stuck.run_round (h : Stuck g s) :
    run (step smallPolicy) s (round s.held.nextId) =
      { s with
        db := roundDb s.db (g + 1)
        held := s.held.insert (claimedRepair s.db.operations.nextId (g + 1)) } := by
  have hreport : step smallPolicy s (.reconcile repairIds emptySnapshot) =
      { s with db := queuedDb s.db (g + 1) } := by
    simp only [step, State.transact, h.reconcile, commit]
  have hclaim : step smallPolicy { s with db := queuedDb s.db (g + 1) }
      (.claimNext "agent:cls-one" "cls-one" 60) =
      { s with
        db := claimedDb s.db (g + 1)
        held := s.held.insert (claimedRepair s.db.operations.nextId (g + 1)) } := by
    simp only [step, claim, h.now, h.claimNext]
  have hfail : step smallPolicy
      { s with
        db := claimedDb s.db (g + 1)
        held := s.held.insert (claimedRepair s.db.operations.nextId (g + 1)) }
      (.handleResult s.held.nextId (badResult false)) =
      { s with
        db := failedDb s.db (g + 1)
        held := s.held.insert (claimedRepair s.db.operations.nextId (g + 1)) } := by
    have hanswer : answer (claimedRepair s.db.operations.nextId (g + 1)).2 (badResult false) =
        .fail "runtime_ownership_conflict" "runtime object ownership conflict" false := rfl
    simp only [step, State.transact, heldCall, lookup_insert_self, hanswer, execute, h.now,
      fail_claimedRepair, commit]
  simp only [round, run, List.foldl_cons, List.foldl_nil, hreport, hclaim, hfail]
  simp only [step, State.transact, h.activateAgent, commit, h.touchAgent]

/-- An action that asks for no work, shows the snapshot if it shows one, and completes nothing. -/
theorem undisturbed_of_call (hnames : ∀ ae, a.names ae = false)
    (hshown : ∀ heartbeat ∈ a.heartbeat?, heartbeat.complete = true ∧
      heartbeat.observations = shown)
    (hcall : ∀ c ∈ a.call?, ∀ op, ¬ (c.2 op).Completes) : Undisturbed policy e shown s a := by
  refine ⟨fun ae _ => hnames ae, fun heartbeat hh _ _ _ => hshown heartbeat hh, fun op hop => ?_⟩
  unfold completed at hop
  split at hop
  · cases hop
  · rename_i k f hf
    split at hop
    · cases hop
    · rw [if_neg fun h => hcall _ hf _ h.1] at hop
      cases hop

/-- Nothing in a round asks for work on the environment, and nothing is completed in it. -/
theorem guarded_round (k : ℕ) (s : State) :
    Guarded (step smallPolicy) (Undisturbed smallPolicy 1 []) s (round k) := by
  have hfails (op : Operation) : ¬ (answer op (badResult false)).Completes := id
  refine ⟨undisturbed_of_call (fun _ => rfl) ?_ nofun,
    undisturbed_of_call (fun _ => rfl) nofun nofun,
    undisturbed_of_call (fun _ => rfl) nofun ?_,
    undisturbed_of_call (fun _ => rfl) nofun nofun,
    undisturbed_of_call (fun _ => rfl) nofun nofun, trivial⟩
  · rintro heartbeat ⟨⟩
    exact ⟨rfl, rfl⟩
  · rintro c ⟨⟩ op
    exact hfails op

/-- **After a round everything is as it was before**, except that there is one more repair. -/
theorem Stuck.round (h : Stuck g s) :
    Stuck (g + 1) (run (step smallPolicy) s (round s.held.nextId)) := by
  obtain ⟨_, hrows, hp, -⟩ := h.installation
  obtain ⟨ae, hae, rfl, hplaced⟩ := h.environment
  obtain ⟨_, hdl, hprincipal⟩ := h.deployment
  rw [h.run_round]
  refine ⟨h.now, ?_, ?_, ?_, h.workspace, h.volumes, fun k o hk => ?_, fun k o hk n hn => ?_,
    fun k o hk n hn => ?_⟩
  · simp only [roundDb, connectedDb, Table.modify, hrows, List.map_cons, List.map_nil, if_true]
    exact ⟨_, rfl, hp, rfl, rfl, rfl⟩
  · refine ⟨degrade "runtime object ownership conflict" (queuedRow ae), ?_, rfl, hplaced⟩
    obtain ⟨-, -, -, -, hdep, -⟩ := hplaced
    simp [roundDb, connectedDb, failedDb, reportFailure, claimedRepair, claimRow, repairOperation,
      NewOperation.row, claimedDb, queuedDb, Table.modify, hae, queuedRow, repairEnvironmentRow,
      hdep]
  · refine ⟨_, lookup_modify_of_pos (lookup_modify_of_pos hdl rfl) rfl, ?_⟩
    exact hprincipal
  · rcases lookup_failedDb hk with hold | ⟨-, hfailed, -⟩
    · exact h.ended k o hold
    · simp [Operation.Active, hfailed]
  · have hlt : s.db.operations.nextId < n := hn
    rcases lookup_failedDb hk with hold | ⟨hid, -⟩
    · exact h.publicIds k o hold n hlt.le
    · rw [hid]
      exact fun heq => hlt.ne (repairIds_injective heq)
  · rcases lookup_failedDb hk with hold | ⟨-, -, hkey⟩
    · exact h.keys k o hold n (Nat.lt_of_succ_lt hn)
    · rw [hkey]
      exact fun heq => hn.ne (generation_of_reconcileKey heq)

/-- A round leaves one more operation of the environment. -/
theorem length_operationsOf_roundDb :
    (operationsOf db 1).length < (operationsOf (roundDb db g) 1).length := by
  have hqueued : (operationsOf (queuedDb db g) 1).length = (operationsOf db 1).length + 1 :=
    length_select_insert rfl
  rw [← Nat.succ_le_iff, Nat.succ_eq_add_one, ← hqueued]
  refine length_select_le fun k o hk he => ?_
  rcases lookup_insert_eq_some.mp hk with ⟨rfl, rfl⟩ | hold
  · exact ⟨_, lookup_modify_of_pos lookup_claimedDb (leaseHeld_claimedRepair _), rfl⟩
  · have hk : k ≠ db.operations.nextId := (lt_nextId hold).ne
    refine ⟨o, ?_, he⟩
    exact lookup_modify_of_neg (lookup_modify_of_neg
      (lookup_insert_of_lookup hold) hk) fun h => hk h.1

/-- There is no bound on the repairs. -/
theorem Stuck.exists_repairs (h : Stuck g s) (n : ℕ) :
    ∃ acts, Guarded (step smallPolicy) (Undisturbed smallPolicy 1 []) s acts ∧
      n ≤ (operationsOf (run (step smallPolicy) s acts).db 1).length := by
  -- One round after the other; each leaves the environment stuck, one generation further.
  suffices ∃ acts g', Guarded (step smallPolicy) (Undisturbed smallPolicy 1 []) s acts ∧
      Stuck g' (run (step smallPolicy) s acts) ∧
      n ≤ (operationsOf (run (step smallPolicy) s acts).db 1).length by
    obtain ⟨acts, -, hg, -, hn⟩ := this
    exact ⟨acts, hg, hn⟩
  induction n with
  | zero => exact ⟨[], g, trivial, h, Nat.zero_le _⟩
  | succ _ ih =>
    obtain ⟨acts, g', hg, hstuck, hn⟩ := ih
    refine ⟨acts ++ Store.round (run (step smallPolicy) s acts).held.nextId, g' + 1,
      guarded_append.mpr ⟨hg, guarded_round _ _⟩, ?_⟩
    rw [run_append]
    refine ⟨hstuck.round, ?_⟩
    rw [hstuck.run_round]
    exact Nat.succ_le_of_lt (hn.trans_lt length_operationsOf_roundDb)

/-- The only operation is the first deployment, which failed. -/
theorem lookup_failedRun
    (h : (run (step smallPolicy) smallStore failedRun).db.operations.lookup k =
      some o) :
    o.status = .failed ∧ o.publicId = "op-one" ∧ o.idempotencyHash = sha256 "deploy-one" := by
  have hall : ∀ k o, (run (step smallPolicy) smallStore failedRun).db.operations.lookup k = some o →
      o.status = .failed ∧ o.publicId = "op-one" ∧ o.idempotencyHash = sha256 "deploy-one" := by
    decide +kernel
  exact hall k o h

theorem stuck_failedRun :
    Stuck 0 (run (step smallPolicy) smallStore failedRun) where
  now := rfl
  installation := ⟨_, rfl, rfl, rfl, rfl, rfl⟩
  environment := ⟨_, rfl, rfl, rfl, rfl, rfl, rfl, rfl, rfl⟩
  deployment := ⟨_, rfl, rfl⟩
  workspace := ⟨_, rfl⟩
  volumes := rfl
  ended k o hk := by simp [Operation.Active, (lookup_failedRun hk).1]
  publicIds k o hk n _ := by
    rw [(lookup_failedRun hk).2.1]
    intro heq
    have hhead := congrArg (fun id : String => id.toList.head?) heq
    simp [repairIds] at hhead
  keys k o hk n _ := by
    rw [(lookup_failedRun hk).2.2]
    intro heq
    have hhead := congrArg (fun d : Digest => d.text.toList.head?) heq
    simp [reconcileKey, sha256] at hhead

/-- **Repairs need not come to rest.** The first deployment failed for good and nothing is going
on, but its object is missing: every report of that queues a repair, and each repair fails as the
deployment did. -/
theorem not_quiesces_failedRun :
    ¬ HasActiveOperation (run (step smallPolicy) smallStore failedRun).db.operations 1 ∧
    ¬ Quiesces smallPolicy 1 [] (run (step smallPolicy) smallStore failedRun) := by
  refine ⟨by decide +kernel, fun ⟨⟨n, hn⟩, _⟩ => ?_⟩
  obtain ⟨acts, hg, hlarge⟩ := stuck_failedRun.exists_repairs (n + 1)
  exact absurd (hlarge.trans (hn acts hg)) (Nat.not_succ_le_self n)

end Molejo.Store
