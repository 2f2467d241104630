import Molejo.Store.Fencing

/-!
# The order of deployments

An environment is deployed many times. What should run is its *desired* deployment,
what is known to run is its *current* one, and the operations that apply deployments
carry the version of the environment they were made for. The Agent relies on these
versions: it takes a command with a higher version to supersede one with a lower.

This file shows that the store never contradicts itself about the order. The
invariant is `Ordered`. Its heart is `bound`: an operation is never for a later
version than its environment has, and one for exactly that version applies the
deployment that is desired. Whoever changes the desired deployment raises the
version, so a later operation – be it of a new deployment or one that a report
queued again – has at least the version of every earlier one, and the same version
only for the same deployment.

Deployments are numbered in the order they are made, and the desired one is always
the last one made for its environment. The current one is set to the desired one
only, so it never goes back.
-/

namespace Molejo.Store

open Transaction Table Transition

variable {policy : PublicationPolicy} {s : State} {a : Action} {db' : Db} {i : ℕ}
  {ae ae' : AppEnvironment}

/-! ### The invariant -/

/-- What the store says about the order of deployments is consistent. -/
structure Ordered (db : Db) : Prop where
  /-- The desired deployment of an environment is one of its own. -/
  desired : ∀ e ae i, db.appEnvironments.lookup e = some ae → ae.desiredDeploymentId = some i →
    ∃ d, db.deployments.lookup i = some d ∧ d.appEnvironmentId = e
  /-- So is the current deployment, which is not later than the desired one. -/
  current : ∀ e ae i, db.appEnvironments.lookup e = some ae → ae.currentDeploymentId = some i →
    (∃ d, db.deployments.lookup i = some d ∧ d.appEnvironmentId = e) ∧
      ∃ j, ae.desiredDeploymentId = some j ∧ i ≤ j
  /-- A deployment that is being applied is the desired one. -/
  active : ∀ k o, db.operations.lookup k = some o → o.kind = .applyDeployment → o.Active →
    ∃ e ae, o.appEnvironmentId = some e ∧ db.appEnvironments.lookup e = some ae ∧
      o.deploymentId = ae.desiredDeploymentId
  /-- No operation is for a later version than its environment has, and one for that version
  applies the desired deployment. -/
  bound : ∀ k o, db.operations.lookup k = some o → o.kind = .applyDeployment →
    ∃ e ae, o.appEnvironmentId = some e ∧ db.appEnvironments.lookup e = some ae ∧
      o.desiredVersion ≤ ae.version ∧
      (o.desiredVersion = ae.version → o.deploymentId = ae.desiredDeploymentId)
  /-- A later operation is for a later version, or for the same deployment. -/
  order : ∀ k l o p, k < l → db.operations.lookup k = some o → db.operations.lookup l = some p →
    o.kind = .applyDeployment → p.kind = .applyDeployment →
    o.appEnvironmentId = p.appEnvironmentId →
    o.desiredVersion ≤ p.desiredVersion ∧
      (o.desiredVersion = p.desiredVersion → o.deploymentId = p.deploymentId)

theorem Initial.ordered (h : Initial s) : Ordered s.db where
  desired e ae i hl := by rw [h.environments] at hl; cases hl
  current e ae i hl := by rw [h.environments] at hl; cases hl
  active k o hl := by rw [h.operations] at hl; cases hl
  bound k o hl := by rw [h.operations] at hl; cases hl
  order k l o p _ hl := by rw [h.operations] at hl; cases hl

/-! ### Environments over one step -/

/-- A step that changes the desired deployment raises the version. -/
theorem EnvironmentStep.desired_of_version (h : EnvironmentStep policy s a db' i ae ae')
    (hv : ae'.version = ae.version) : ae'.desiredDeploymentId = ae.desiredDeploymentId := by
  cases h with
  | report h => exact desired_of_core h
  | desire => exact absurd hv (Nat.succ_ne_self _)
  | _ => rfl

/-- The desired deployment does not change while an operation of the environment is active. -/
theorem EnvironmentStep.desired (h : EnvironmentStep policy s a db' i ae ae')
    (ha : HasActiveOperation s.db.operations i) :
    ae'.desiredDeploymentId = ae.desiredDeploymentId := by
  cases h with
  | report h => exact desired_of_core h
  | desire _ _ hn => exact absurd ha hn
  | _ => rfl

/-- The current deployment changes only to a desired deployment that is ready. -/
theorem EnvironmentStep.current_eq (h : EnvironmentStep policy s a db' i ae ae') :
    ae'.currentDeploymentId = ae.currentDeploymentId ∨
      ∃ j d, ae.desiredDeploymentId = some j ∧ ae'.desiredDeploymentId = some j ∧
        ae'.currentDeploymentId = some j ∧ db'.deployments.lookup j = some d ∧
        d.status = .ready := by
  cases h with
  | report h => exact .inl (current_of_core h)
  | current _ j _ _ _ _ _ _ hw hr =>
    obtain ⟨d, hd, hready⟩ := hr
    exact .inr ⟨j, d, hw, hw, rfl, hd, hready⟩
  | _ => exact .inl rfl

/-! ### The invariant is kept -/

section Step

variable (h : Ordered s.db)

theorem deployment_step {j : ℕ} {d : Deployment} (policy) (a : Action)
    (hd : s.db.deployments.lookup j = some d) {e : ℕ} (he : d.appEnvironmentId = e) :
    ∃ d, (step policy s a).db.deployments.lookup j = some d ∧ d.appEnvironmentId = e := by
  obtain ⟨d', hd', hc, -⟩ := step_deployment policy a hd
  exact ⟨d', hd', (congrArg Deployment.appEnvironmentId hc).trans he⟩

include h in
theorem Ordered.step_desired (e : ℕ) (hl : (step policy s a).db.appEnvironments.lookup e = some ae')
    (hd : ae'.desiredDeploymentId = some i) :
    ∃ d, (step policy s a).db.deployments.lookup i = some d ∧ d.appEnvironmentId = e := by
  rcases environment_cases policy a hl with ⟨ae, hl₀, hstep⟩ | hnew
  · have hkept (hd₀ : ae.desiredDeploymentId = some i) :
        ∃ d, (step policy s a).db.deployments.lookup i = some d ∧ d.appEnvironmentId = e := by
      obtain ⟨_, hdl, hde⟩ := h.desired e ae i hl₀ hd₀
      exact deployment_step policy a hdl hde
    cases hstep with
    | report hc => exact hkept ((desired_of_core hc).symm.trans hd)
    | desire _ _ _ hdep =>
      obtain rfl : s.db.deployments.nextId = i := Option.some.inj hd
      exact hdep
    | _ => exact hkept hd
  · rw [hnew.1] at hd
    cases hd

include h in
theorem Ordered.step_current (e : ℕ) (hl : (step policy s a).db.appEnvironments.lookup e = some ae')
    (hc : ae'.currentDeploymentId = some i) :
    (∃ d, (step policy s a).db.deployments.lookup i = some d ∧ d.appEnvironmentId = e) ∧
      ∃ j, ae'.desiredDeploymentId = some j ∧ i ≤ j := by
  rcases environment_cases policy a hl with ⟨ae, hl₀, hstep⟩ | hnew
  · have hkept (hc₀ : ae.currentDeploymentId = some i) :
        (∃ d, (step policy s a).db.deployments.lookup i = some d ∧ d.appEnvironmentId = e) ∧
          ∃ j d, ae.desiredDeploymentId = some j ∧ i ≤ j ∧ s.db.deployments.lookup j = some d := by
      obtain ⟨⟨_, hd, hde⟩, j, hj, hij⟩ := h.current e ae i hl₀ hc₀
      obtain ⟨d', hd', -⟩ := h.desired e ae j hl₀ hj
      exact ⟨deployment_step policy a hd hde, j, d', hj, hij, hd'⟩
    cases hstep with
    | report heq =>
      obtain ⟨hd, j, -, hj, hij, -⟩ := hkept ((current_of_core heq).symm.trans hc)
      exact ⟨hd, j, (desired_of_core heq).trans hj, hij⟩
    | desire =>
      obtain ⟨hd, _, _, _, hij, hdj⟩ := hkept hc
      exact ⟨hd, _, rfl, hij.trans (lt_nextId hdj).le⟩
    | current _ j _ _ _ _ _ _ hw =>
      obtain rfl : j = i := Option.some.inj hc
      obtain ⟨_, hd, hde⟩ := h.desired e ae j hl₀ hw
      exact ⟨deployment_step policy a hd hde, j, hw, le_rfl⟩
    | _ =>
      obtain ⟨hd, j, -, hj, hij, -⟩ := hkept hc
      exact ⟨hd, j, hj, hij⟩
  · rw [hnew.2.1] at hc
    cases hc

include h in
theorem Ordered.step_active (k : ℕ) {o' : Operation}
    (hl : (step policy s a).db.operations.lookup k = some o') (hk : o'.kind = .applyDeployment)
    (ha : o'.Active) :
    ∃ e ae, o'.appEnvironmentId = some e ∧
      (step policy s a).db.appEnvironments.lookup e = some ae ∧
      o'.deploymentId = ae.desiredDeploymentId := by
  rcases operation_cases policy a hl with ⟨o, hl₀, hf⟩ | ⟨-, hnew, -⟩
  · have ho : o.Active := hf.active ha
    obtain ⟨e, _, he, hae, hd⟩ :=
      h.active k o hl₀ (hf.kind.symm.trans hk) ho
    obtain ⟨ae', hae', hstep⟩ := step_environment policy a hae
    refine ⟨e, ae', hf.appEnvironmentId.trans he, hae', ?_⟩
    rw [hstep.desired (any_iff.mpr ⟨k, o, hl₀, he, ho⟩), ← hd]
    exact hf.deploymentId
  · obtain ⟨e, ae, he, hae, hd, -⟩ := hnew.deployment hk
    exact ⟨e, ae, he, hae, hd⟩

include h in
theorem Ordered.step_bound (k : ℕ) {o' : Operation}
    (hl : (step policy s a).db.operations.lookup k = some o') (hk : o'.kind = .applyDeployment) :
    ∃ e ae, o'.appEnvironmentId = some e ∧
      (step policy s a).db.appEnvironments.lookup e = some ae ∧ o'.desiredVersion ≤ ae.version ∧
      (o'.desiredVersion = ae.version → o'.deploymentId = ae.desiredDeploymentId) := by
  rcases operation_cases policy a hl with ⟨o, hl₀, hf⟩ | ⟨-, hnew, -⟩
  · obtain ⟨e, _, he, hae, _, heq⟩ := h.bound k o hl₀ (hf.kind.symm.trans hk)
    obtain ⟨ae', hae', hstep⟩ := step_environment policy a hae
    have hv : o'.desiredVersion = o.desiredVersion := hf.desiredVersion
    have hmono := hstep.version_le
    refine ⟨e, ae', hf.appEnvironmentId.trans he, hae', by omega, ?_⟩
    intro hveq
    rw [hstep.desired_of_version (by omega), ← heq (by omega)]
    exact hf.deploymentId
  · obtain ⟨e, ae, he, hae, hd, hv⟩ := hnew.deployment hk
    exact ⟨e, ae, he, hae, hv.le, fun _ => hd⟩

include h in
theorem Ordered.step_order (k l : ℕ) {o p : Operation} (hkl : k < l)
    (hk : (step policy s a).db.operations.lookup k = some o)
    (hl : (step policy s a).db.operations.lookup l = some p) (hko : o.kind = .applyDeployment)
    (hkp : p.kind = .applyDeployment) (he : o.appEnvironmentId = p.appEnvironmentId) :
    o.desiredVersion ≤ p.desiredVersion ∧
      (o.desiredVersion = p.desiredVersion → o.deploymentId = p.deploymentId) := by
  rcases operation_cases policy a hl with ⟨p₀, hl₀, hfp⟩ | ⟨-, hnew, -⟩
  · -- both operations are old: an old one has a smaller number than any new one
    rcases operation_cases policy a hk with ⟨o₀, hk₀, hfo⟩ | ⟨-, hnew, -⟩
    · have hord := h.order k l o₀ p₀ hkl hk₀ hl₀ (hfo.kind.symm.trans hko)
        (hfp.kind.symm.trans hkp) (hfo.appEnvironmentId.symm.trans (he.trans hfp.appEnvironmentId))
      rw [hfo.desiredVersion, hfp.desiredVersion, hfo.deploymentId, hfp.deploymentId]
      exact hord
    · have := hnew.id
      have := lt_nextId hl₀
      omega
  · -- the later one is new, and has the version its environment has now
    obtain ⟨e, ae, hpe, hae, hd, hv⟩ := hnew.deployment hkp
    obtain ⟨e', ae', hoe, hae', hle, heq⟩ := h.step_bound k hk hko
    cases hpe.symm.trans (he.symm.trans hoe)
    cases hae.symm.trans hae'
    rw [hv, hd]
    exact ⟨hle, heq⟩

include h in
/-- **One step keeps the order.** -/
theorem Ordered.step (policy) (a : Action) : Ordered (step policy s a).db where
  desired e _ _ := h.step_desired e
  current e _ _ := h.step_current e
  active k _ := h.step_active k
  bound k _ := h.step_bound k
  order k l _ _ := h.step_order k l

end Step

theorem Initial.ordered_run {s₀ : State} (h₀ : Initial s₀) (policy)
    (acts : List Action) : Ordered (run (step policy) s₀ acts).db :=
  run_induction (I := fun s : State => Ordered s.db) h₀.ordered
    fun _ a h => h.step policy a

/-! ### The current deployment -/

/-- The current deployment of an environment does not go back in one step. -/
theorem Ordered.current_le (h : Ordered s.db) (policy) (a : Action)
    (hl : s.db.appEnvironments.lookup i = some ae) {d : ℕ} (hc : ae.currentDeploymentId = some d) :
    ∃ ae' d', (Store.step policy s a).db.appEnvironments.lookup i = some ae' ∧
      ae'.currentDeploymentId = some d' ∧ d ≤ d' := by
  obtain ⟨ae', hl', hstep⟩ := step_environment policy a hl
  rcases hstep.current_eq with heq | ⟨j, _, hw, -, hj, -⟩
  · exact ⟨ae', d, hl', heq.trans hc, le_rfl⟩
  · obtain ⟨-, j', hj', hle⟩ := h.current i ae d hl hc
    cases hw.symm.trans hj'
    exact ⟨ae', j, hl', hj, hle⟩

/-- Nor in a run. -/
theorem Ordered.run_current_le (h : Ordered s.db) (policy)
    (acts : List Action) (hl : s.db.appEnvironments.lookup i = some ae) {d : ℕ}
    (hc : ae.currentDeploymentId = some d) :
    ∃ ae' d', (run (Store.step policy) s acts).db.appEnvironments.lookup i = some ae' ∧
      ae'.currentDeploymentId = some d' ∧ d ≤ d' := by
  induction acts generalizing s ae d with
  | nil => exact ⟨ae, d, hl, hc, le_rfl⟩
  | cons a _ ih =>
    obtain ⟨_, _, hl₁, hc₁, hle₁⟩ := h.current_le policy a hl hc
    obtain ⟨ae₂, d₂, hl₂, hc₂, hle₂⟩ := ih (h.step policy a) hl₁ hc₁
    exact ⟨ae₂, d₂, hl₂, hc₂, hle₁.trans hle₂⟩

/-! ### Every run -/

/-- What a run says about the order of deployments. -/
structure DeploymentOrder (policy : PublicationPolicy) (s₀ : State) (acts : List Action) :
    Prop where
  /-- A deployment that is being applied is the desired one of its environment. -/
  target : ∀ k o, (run (step policy) s₀ acts).db.operations.lookup k = some o →
    o.kind = .applyDeployment → o.Active →
    ∃ e ae i, o.appEnvironmentId = some e ∧
      (run (step policy) s₀ acts).db.appEnvironments.lookup e = some ae ∧
      o.deploymentId = some i ∧ ae.desiredDeploymentId = some i
  /-- The current deployment never goes back. -/
  current : ∀ acts' e ae i,
    (run (step policy) s₀ acts).db.appEnvironments.lookup e = some ae →
    ae.currentDeploymentId = some i →
    ∃ ae' j, (run (step policy) s₀ (acts ++ acts')).db.appEnvironments.lookup e =
        some ae' ∧ ae'.currentDeploymentId = some j ∧ i ≤ j
  /-- It is only ever set to a deployment that is ready. -/
  ready : ∀ a e ae',
    (step policy (run (step policy) s₀ acts) a).db.appEnvironments.lookup e =
      some ae' →
    ((run (step policy) s₀ acts).db.appEnvironments.lookup e).bind
        AppEnvironment.currentDeploymentId = ae'.currentDeploymentId ∨
      ∃ j d, ae'.currentDeploymentId = some j ∧
        (step policy (run (step policy) s₀ acts) a).db.deployments.lookup j = some d ∧
        d.status = .ready
  /-- A later operation on an environment has at least the version of an earlier one, and the
  same version only for the same deployment. -/
  versions : ∀ k l o p, k < l →
    (run (step policy) s₀ acts).db.operations.lookup k = some o →
    (run (step policy) s₀ acts).db.operations.lookup l = some p →
    o.kind = .applyDeployment → p.kind = .applyDeployment →
    o.appEnvironmentId = p.appEnvironmentId →
    o.desiredVersion ≤ p.desiredVersion ∧
      (o.desiredVersion = p.desiredVersion → o.deploymentId = p.deploymentId)

/-- **Deployments are applied in order.** In every run from an initial store what is applied is what
is desired, the current deployment never goes back and was ready when it became current, and the
versions of operations follow the order of deployments. -/
theorem deploymentOrder (policy : PublicationPolicy) (s₀ : State) (acts : List Action)
    (h₀ : Initial s₀) : DeploymentOrder policy s₀ acts where
  target k o hl hk ha := by
    have h := h₀.ordered_run policy acts
    obtain ⟨e, ae, he, hae, hd⟩ := h.active k o hl hk ha
    obtain ⟨i, hi⟩ := Option.ne_none_iff_exists'.mp
      ((h₀.targetsValid_run policy acts k o hl).deployment hk)
    exact ⟨e, ae, i, he, hae, hi, hd.symm.trans hi⟩
  current acts' e ae i hl hc := by
    rw [run_append]
    exact (h₀.ordered_run policy acts).run_current_le policy acts' hl hc
  ready a e ae' hl := by
    cases hl₀ : (run (step policy) s₀ acts).db.appEnvironments.lookup e with
    | none => exact .inl ((step_environments policy _ a).new e ae' hl₀ hl).2.2.1.symm
    | some ae =>
      obtain ⟨q, hq, hstep⟩ := step_environment policy a hl₀
      cases hq.symm.trans hl
      rcases hstep.current_eq with heq | ⟨j, d, -, -, hj, hd, hready⟩
      · exact .inl heq.symm
      · exact .inr ⟨j, d, hj, hd, hready⟩
  versions := (h₀.ordered_run policy acts).order

/-- Two deployments of one environment, the second made after the first was completed. -/
def redeployRun : List Action :=
  [.createAppEnvironment (newEnvironment "env-one" []),
    .createDeployment (firstDeployment "env-one" 1),
    .claimNext "agent:cls-one" "cls-one" 60, .handleResult 1 goodResult,
    .createDeployment
      { firstDeployment "env-one" 2 with
        deploymentPublicId := "dep-two"
        expectedCurrentDeploymentPublicId := "dep-one"
        idempotencyHash := sha256 "deploy-two"
        operationPublicId := "op-two" },
    .claimNext "agent:cls-one" "cls-one" 60,
    .handleResult 2 { goodResult with desiredVersion := 3 }]

theorem deploymentOrder_redeployRun :
    Initial smallStore ∧
      (∃ ae ∈ (run (step smallPolicy) smallStore
        redeployRun).db.appEnvironments.lookup 1, ae.currentDeploymentId = some 2) ∧
      DeploymentOrder smallPolicy smallStore redeployRun :=
  ⟨smallStore_initial, by decide +kernel, deploymentOrder smallPolicy smallStore redeployRun
    smallStore_initial⟩

end Molejo.Store
