import Molejo.Delivery.Lifecycle
import Molejo.Delivery.Obstacles

/-!
# Deliveries across crashes

The deployment of a target is created in one transaction and attached to the target in
another. A worker that crashes in between leaves the target `DeployPending`, and the next
worker asks for the deployment again, under the same key. The key is what makes this
work: the deployment that was created is found by it, and attached, and no other is
created.

But a request is only recognised if it is the same, and part of what is compared is the
current deployment of the environment, as the worker has read it just now. Once the
deployment that was created has become current – which is what it is for – the request is
another one: it is refused, the target is passed over, and it stays `DeployPending` for
ever.

At most one deployment is created for a target whatever happens. That it is attached
takes four conditions on the steps of the workers (`Redelivers`): a request that is
repeated is the one that was recorded, no target whose deployment was created is left out
of a batch, nothing is in the way of a worker that has such a target in its batch, and
targets are marked only while they are as read.
-/

namespace Molejo.Delivery

open Transaction Table Transition

variable {policy : PublicationPolicy} {s : State} {a : Action} {i d : ℕ} {t : Target}
  {x : TargetSnapshot} {w : ℕ}

/-! ### One deployment for a target -/

/-- **One deployment for a target**, and it is the one the target gets. -/
structure OneDeployment (policy : PublicationPolicy) (s₀ : State) (acts : List Action) :
    Prop where
  /-- After a deployment for a target was created, no other is. -/
  once : ∀ before a between b after, acts = before ++ a :: (between ++ b :: after) →
    ∀ i ∈ deploysFor policy (run (step policy) s₀ before) a,
      i ∉ deploysFor policy (run (step policy) s₀ (before ++ a :: between)) b
  /-- When a worker has gone through a batch that it has read since, the target has the
  deployment. -/
  attached : ∀ before a between w pass after,
    acts = before ++ a :: (between ++ .poll w :: (pass ++ after)) →
    ∀ i ∈ deploysFor policy (run (step policy) s₀ before) a,
    (∀ b ∈ pass, b ≠ .poll w ∧ b ≠ .stop w) →
    (run (step policy) s₀ (before ++ a :: (between ++ .poll w :: pass))).workers w =
      .idle →
    ∃ t, (run (step policy) s₀
        (before ++ a :: (between ++ .poll w :: pass))).targets.lookup i = some t ∧
      t.status ≠ .deployPending ∧
      t.deploymentId = some (run (step policy) s₀ before).store.db.deployments.nextId

/-- The key of the target was used, but the target is still `DeployPending`. -/
def Unattached (db : Db) (t : Target) : Prop := t.status = .deployPending ∧ KeyUsed db t
deriving Decidable

/-- The target a deployment is asked for, with the hash of the request. -/
def asksFor (s : State) : Action → Option (Target × Digest)
  | .advance w _ _ =>
    match s.workers w with
    | .deploy x _ _ current _ => some (x.target,
        sha256 (x.releasePublicId ++ "\n" ++ current ++ "\n" ++ x.target.commitSha))
    | _ => none
  | _ => none

/-- What is asked for under a key that was used is what was asked for. -/
def Repeats (s : State) (a : Action) : Prop :=
  ∀ q ∈ asksFor s a, ∀ u ∈ s.store.db.users.lookup q.1.requestedByUserId,
    ¬ s.store.db.operations.Any fun _ o => UsesKey q.1 u o ∧ o.payloadHash ≠ q.2
deriving Decidable

/-- The step does not fail a target whose deployment was created. -/
def Redelivers (policy : PublicationPolicy) (s : State) (a : Action) : Prop :=
  MarksCurrent s a ∧ Repeats s a ∧ (∀ y ∈ leftOut s a, ¬ Unattached s.store.db y.2) ∧
    ∀ w ∈ a.advancer?, ∀ x ∈ (s.workers w).snapshots, Unattached s.store.db x.target →
      Served policy s a
deriving Decidable

/-! ### What a key stands for -/

/-- The key of the target stands for the deployment `d`: the first operation under it applies that
deployment. -/
def StandsFor (db : Db) (t : Target) (d : ℕ) : Prop :=
  ∃ u k o, db.users.lookup t.requestedByUserId = some u ∧ db.operations.lookup k = some o ∧
    UsesKey t u o ∧ o.deploymentId = some d ∧
    (∀ j p, db.operations.lookup j = some p → UsesKey t u p → k ≤ j) ∧
    db.deployments.lookup d ≠ none

theorem StandsFor.keyUsed {db : Db} (h : StandsFor db t d) : KeyUsed db t := by
  obtain ⟨u, k, o, hu, hk, huses, -⟩ := h
  exact ⟨u, hu, any_iff.mpr ⟨k, o, hk, huses⟩⟩

theorem StandsFor.of_core {db : Db} {t' : Target} (hc : t'.core = t.core)
    (h : StandsFor db t d) : StandsFor db t' d := by
  change StandsFor db t'.core d
  rw [hc]
  exact h

theorem UsesKey.of_work {u : User} {o o' : Operation} (hw : o'.work = o.work)
    (h : UsesKey t u o) : UsesKey t u o' := by
  change UsesKey t u o'.work
  rw [hw]
  exact h

/-- What a key stands for lasts. -/
theorem StandsFor.step (h : StandsFor s.store.db t d) (policy) (a : Action) :
    StandsFor (step policy s a).store.db t d := by
  obtain ⟨u, k, o, hu, hk, huses, hd, hfirst, hrow⟩ := h
  rcases step_store policy s a with ⟨a', ha'⟩ | ⟨_, hr⟩
  · rw [ha']
    obtain ⟨o', ho', hf⟩ := Store.step_operation policy a' hk
    obtain ⟨_, hq⟩ := Option.ne_none_iff_exists'.mp hrow
    obtain ⟨_, hq', -⟩ := Store.step_deployment policy a' hq
    refine ⟨u, k, o', Store.step_user policy a' hu, ho', huses.of_work hf.work,
      hf.deploymentId.trans hd, fun j p hj hp => ?_, ?_⟩
    · rcases Store.operation_cases policy a' hj with ⟨p₀, hl, hf'⟩ | ⟨-, hnew, -⟩
      · exact hfirst j p₀ hl (hp.of_work hf'.work.symm)
      · -- a new operation comes after all others
        exact (lt_nextId hk).le.trans hnew.id
    · rw [hq']
      nofun
  · rw [hr]
    exact ⟨u, k, o, hu, hk, huses, hd, hfirst, hrow⟩

/-- The query for the key finds the operation. -/
theorem StandsFor.operation {db : Db} (h : StandsFor db t d) {principalId : ℕ}
    (hp : Store.principalIdForUser db t.requestedByUserId = .ok principalId) :
    ∃ k o, (db.operations.first fun _ o => o.workspaceId = t.workspaceId ∧
        o.requestedByPrincipalId = principalId ∧ o.idempotencyHash = t.key) = some (k, o) ∧
      o.deploymentId = some d := by
  obtain ⟨u, k, o, hu, hk, ⟨hw, hpr, hh⟩, hd, hfirst, -⟩ := h
  obtain rfl := of_found (Store.principalIdForUser_eq_ok.mp hp) hu
  obtain ⟨j, q, hf⟩ := exists_first (p := fun _ o => o.workspaceId = t.workspaceId ∧
    o.requestedByPrincipalId = u.principalId ∧ o.idempotencyHash = t.key)
    (any_iff.mpr ⟨k, o, hk, hw, hpr, hh⟩)
  have hle := le_of_first hf hk ⟨hw, hpr, hh⟩
  have hge := hfirst j q (lookup_of_first hf) (pos_of_first hf)
  obtain rfl : j = k := Nat.le_antisymm hle hge
  cases hk.symm.trans (lookup_of_first hf)
  exact ⟨j, o, hf, hd⟩

section Request

variable {principalId configurationVersion version : ℕ}
  {current deploymentPublicId operationPublicId : String}

/-- Whoever asks under the key gets the deployment. -/
theorem StandsFor.eq_of_returned {db : Db} (h : StandsFor db x.target d)
    (hp : Store.principalIdForUser db x.target.requestedByUserId = .ok principalId) {j : ℕ}
    (hj : returnedDeployment db (x.request principalId configurationVersion version current
      deploymentPublicId operationPublicId) = .ok j) : j = d := by
  obtain ⟨_, o, hf, hd⟩ := h.operation hp
  simp only [returnedDeployment, TargetSnapshot.request, bind_eq_ok] at hj
  obtain ⟨_, he, hj⟩ := hj
  simp only [Store.operationByPrincipalIdempotency, hf] at he
  split_ifs at he
  cases he
  simp only [ok_iff] at hj
  obtain ⟨_, hj', _, -, rfl⟩ := hj
  exact Option.mem_unique hj' hd

/-- Whoever repeats the request gets the deployment, and nothing is changed. -/
theorem StandsFor.createDeployment (h : StandsFor s.store.db x.target d)
    (hsame : ∀ u ∈ s.store.db.users.lookup x.target.requestedByUserId, ¬ s.store.db.operations.Any
      fun _ o => UsesKey x.target u o ∧ o.payloadHash ≠
        sha256 (x.releasePublicId ++ "\n" ++ current ++ "\n" ++ x.target.commitSha)) :
    Delivery.createDeployment policy s.store.now s.store.db x configurationVersion version current
      deploymentPublicId operationPublicId = .ok (s.store.db, d) := by
  obtain ⟨u, -, -, hu, -⟩ := id h
  obtain ⟨k, o, hf, hd⟩ := h.operation (Store.principalIdForUser_eq_ok.mpr ⟨u, hu, rfl⟩)
  obtain ⟨-, -, -, -, -, -, -, -, hrow⟩ := id h
  obtain ⟨_, hq⟩ := Option.ne_none_iff_exists'.mp hrow
  have hpayload : o.payloadHash =
      sha256 (x.releasePublicId ++ "\n" ++ current ++ "\n" ++ x.target.commitSha) := by
    by_contra hne
    exact hsame u hu (any_iff.mpr ⟨k, o, lookup_of_first hf, pos_of_first hf, hne⟩)
  have hexisting : Store.operationByPrincipalIdempotency s.store.db x.target.workspaceId
      u.principalId x.target.key
      (sha256 (x.releasePublicId ++ "\n" ++ current ++ "\n" ++ x.target.commitSha)) =
        .ok (some (k, o)) := by
    rw [Store.operationByPrincipalIdempotency, hf]
    exact if_pos hpayload
  simp only [Delivery.createDeployment, ok_iff, Prod.mk.injEq]
  refine ⟨u.principalId, Store.principalIdForUser_eq_ok.mpr ⟨u, hu, rfl⟩, d, ?_, s.store.db, ?_,
    rfl, rfl⟩
  · simp only [returnedDeployment, bind_eq_ok]
    refine ⟨some (k, o), hexisting, ?_⟩
    simp only [hd, expect, ok_bind, hq]
    rfl
  · simp only [Store.createDeployment, bind_eq_ok]
    exact ⟨some (k, o), hexisting, rfl⟩

end Request

/-! ### After the deployment was created -/

/-- The deployment `d` was created for the target `i`: the key of the target stands for it, and
nobody attaches another. -/
structure Tracked (s : State) (i d : ℕ) : Prop where
  row : ∃ t, s.targets.lookup i = some t ∧ StandsFor s.store.db t d ∧
    (t.status = .deployPending ∨ t.status.Past ∧ t.deploymentId = some d)
  attach : ∀ w x j rest, s.workers w = .attach x j rest → x.id = i → j = d

/-- What happens to the target leaves it to `d`. -/
theorem Tracked.targetStep (h : Tracked s i d) (hst : Staged s) (hg : MarksCurrent s a)
    (hl : s.targets.lookup i = some t) {t' : Target}
    (hstep : TargetStep s a (step policy s a) i t t')
    (hs : t.status = .deployPending ∨ t.status.Past ∧ t.deploymentId = some d) :
    t'.status = .deployPending ∨ t'.status.Past ∧ t'.deploymentId = some d := by
  have hmoved := hst.moved hg hl hstep
  rcases hs with hs | ⟨hpast, hd⟩
  · rcases hmoved.status with hsame | hnext
    · exact .inl (hsame.trans hs)
    · rw [hs] at hnext
      generalize ht' : t'.status = status at hnext
      cases hnext
      cases hstep with
      | same => exact absurd (hs.symm.trans ht') nofun
      | mark _ _ _ _ _ _ _ _ _ hm =>
        exact absurd ht' (TargetSnapshot.mark_ne hm).2
      | attach x w j rest hw hi =>
        exact .inr ⟨⟨nofun, nofun⟩, congrArg some (h.attach w x j rest hw hi.symm)⟩
      | supersede => cases ht'
  · refine .inr ⟨?_, (hmoved.deployment hpast).trans hd⟩
    rcases hmoved.status with hsame | hnext
    · exact hsame ▸ hpast
    · exact hpast.next hnext

/-- **What was created for a target stays with it.** -/
theorem Tracked.step (h : Tracked s i d) (hst : Staged s) (policy)
    (a : Action) (hg : MarksCurrent s a) : Tracked (step policy s a) i d where
  row := by
    obtain ⟨_, hl, hstands, hs⟩ := h.row
    obtain ⟨t', hl', hstep⟩ := step_target policy a hl
    exact ⟨t', hl', (hstands.step policy a).of_core hstep.core, h.targetStep hst hg hl hstep hs⟩
  attach w x j rest hw hi := by
    rcases step_workers policy s a w with hsame | ⟨-, hidle⟩ | ⟨-, hloop⟩ | ⟨-, ha⟩
    · exact h.attach w x j rest (hsame.symm.trans hw) hi
    · rw [hidle] at hw
      cases hw
    · rw [hloop] at hw
      cases hw
    · have hknown {y : TargetSnapshot} (hy : y ∈ (s.workers w).snapshots) :
          Known s y := (hst.sound.phase w).known y hy
      obtain ⟨_, hl, hstands, -⟩ := h.row
      generalize Delivery.step policy s a = s' at ha hw
      cases ha with
      | skip _ hp =>
        rw [State.setPhase_self] at hw
        rcases hp with rfl | ⟨_, rfl, -⟩ <;> cases hw
      | read | mark | attach => exact absurd ((State.setPhase_self ..).symm.trans hw) nofun
      | create y _ _ _ _ _ _ _ _ _ hy hp hj =>
        cases (State.setPhase_self ..).symm.trans hw
        subst hi
        have hyk := hknown (y := x) (by rw [hy]; exact List.mem_cons_self)
        exact (hstands.of_core (hyk.core_eq hl).symm).eq_of_returned hp hj

/-- What a new deployment is asked for under stands for it. -/
theorem standsFor_of_deploy {now : Time} {db db' : Db}
    {principalId configurationVersion version : ℕ}
    {current deploymentPublicId operationPublicId : String}
    (hp : Store.principalIdForUser db x.target.requestedByUserId = .ok principalId)
    (hd : Store.deploy policy now db (x.request principalId configurationVersion version current
      deploymentPublicId operationPublicId) = .ok db')
    (hk : ¬ KeyUsed db x.target) : StandsFor db' x.target db.deployments.nextId := by
  obtain ⟨u, hu, rfl⟩ := Store.principalIdForUser_eq_ok.mp hp
  obtain ⟨_, _, _, _, _, _, _, _, _, -, -, -, -, -, rfl, -, rfl⟩ := Store.deploy_eq_ok hd
  refine ⟨u, db.operations.nextId, _, hu, lookup_insert_self, ⟨rfl, rfl, rfl⟩, rfl,
    fun j p hj huses => ?_, ?_⟩
  · rcases lookup_insert_eq_some.mp hj with ⟨rfl, -⟩ | hj
    · exact le_rfl
    · exact absurd ⟨u, hu, any_iff.mpr ⟨j, p, hj, huses⟩⟩ hk
  · change (db.deployments.insert _).lookup db.deployments.nextId ≠ none
    rw [lookup_insert_self]
    nofun

/-- **A deployment that was created for a target is its deployment.** -/
theorem Staged.tracked (h : Staged s) (hd : deploysFor policy s a = some i) :
    Tracked (Delivery.step policy s a) i s.store.db.deployments.nextId := by
  have hnot {t : Target} (hl : s.targets.lookup i = some t) : ¬ Settled s t :=
    h.sound.not_settled hd hl
  obtain ⟨w, x, cv, version, current, rest, _, _, _, _, hw, rfl, hp, hdeploy, hk,
    hstep⟩ := deploysFor_cases hd
  have hx : x ∈ (s.workers w).snapshots := by
    rw [hw]
    exact List.mem_cons_self
  have hknown := (h.sound.phase w).known x hx
  have hpending := (h.sound.phase w).deploy x cv version current rest hw
  obtain ⟨t, hl, hc⟩ := hknown.row
  rw [hstep]
  refine ⟨⟨t, hl, (standsFor_of_deploy hp hdeploy hk).of_core hc, .inl ?_⟩,
    fun v y j rest' hv hi => ?_⟩
  · rcases (h.sound.target x.id t hl).settled with hb | hs | hs
    · exact absurd hb (h.begun w x hx (by rw [hpending]; nofun) t hl)
    · exact hs
    · exact absurd hs (hnot hl)
  · by_cases hvw : v = w
    · subst hvw
      cases (State.setPhase_self ..).symm.trans hv
      rfl
    · -- another worker cannot be this far, since the key was not used
      have hv' := (State.setPhase_of_ne _ _ hvw).symm.trans hv
      have hy := (h.sound.phase v).known y (by rw [show s.workers v = _ from hv']; exact
        List.mem_cons_self)
      have hused := (h.sound.phase v).attach y j rest' hv'
      exact absurd (hused.of_core (hc.symm.trans (hy.core_eq (hi ▸ hl)))) hk

/-! ### Going through a batch -/

/-- The worker will still come to the target `i`, or need not. -/
def Ahead (s : State) (w i : ℕ) : Prop :=
  (∃ t, s.targets.lookup i = some t ∧ t.status.Past) ∨
    ∃ x ∈ (s.workers w).snapshots, x.id = i ∧ x.target.status = .deployPending

/-- A worker that reads a batch will come to the target. -/
theorem Tracked.ahead_poll (h : Tracked s i d) (hg : Redelivers policy s (.poll w)) :
    Ahead (Delivery.step policy s (.poll w)) w i := by
  obtain ⟨t, hl, hstands, hs | ⟨hpast, -⟩⟩ := h.row
  · refine .inr ⟨snapshot s.store.db s.builds i t, ?_, rfl, hs⟩
    have hw : (Delivery.step policy s (.poll w)).workers w =
        .loop (deliveryTargetsToAdvance s.store.db s.builds s.targets) := State.setPhase_self ..
    rw [hw]
    have hmem : (i, t) ∈ s.targets.select fun _ t => t.Open :=
      mem_select.mpr ⟨hl, .inr (.inl hs)⟩
    rw [← List.take_append_drop 50 (s.targets.select fun _ t => t.Open)] at hmem
    rcases List.mem_append.mp hmem with hmem | hmem
    · exact List.mem_map_of_mem hmem
    · exact absurd ⟨hs, hstands.keyUsed⟩ (hg.2.2.1 (i, t) hmem)
  · exact .inl ⟨t, hl, hpast⟩

/-- A target that is past stays so. -/
theorem Staged.past_step (h : Staged s) (policy) (hg : MarksCurrent s a)
    (hl : s.targets.lookup i = some t) (hpast : t.status.Past) :
    ∃ t', (Delivery.step policy s a).targets.lookup i = some t' ∧ t'.status.Past := by
  obtain ⟨t', hl', hstep⟩ := step_target policy a hl
  refine ⟨t', hl', ?_⟩
  rcases (h.moved hg hl hstep).status with hsame | hnext
  · exact hsame ▸ hpast
  · exact hpast.next hnext

/-- **The worker comes to every target of its batch**, unless another has seen to it. -/
theorem Staged.ahead_advance {deploymentPublicId operationPublicId : String} (hst : Staged s)
    (hclaims : ClaimsIndexed s)
    (hg : Redelivers policy s (.advance w deploymentPublicId operationPublicId))
    (hx : x ∈ (s.workers w).snapshots) (hs : x.target.status = .deployPending)
    (hl : s.targets.lookup x.id = some t) (ht : t.status = .deployPending)
    (hstands : StandsFor s.store.db t d) :
    Ahead (advance policy s w deploymentPublicId operationPublicId) w x.id := by
  have hcore := ((hst.sound.phase w).known x hx).core_eq hl
  have hxstands := hstands.of_core hcore.symm
  -- a batch with a target that is not attached is not given up
  have hne := advance_ne_idle hclaims (hg.2.2.2 w rfl x hx ⟨hs, hxstands.keyUsed⟩) hx
  obtain ⟨y, rest, hbatch⟩ := List.exists_cons_of_ne_nil (List.ne_nil_of_mem hx)
  rw [hbatch] at hx
  rcases advance_workers policy deploymentPublicId operationPublicId hbatch with hw' | hw' | hw'
  · exact absurd hw' hne
  · rcases List.mem_cons.mp hx with rfl | hx
    · -- it was the turn of the target, and the transaction was its last
      cases hw : s.workers w <;> rw [hw] at hbatch <;> cases hbatch
      · simp only [advance, hw, begin, if_pos hs] at hw'
        split at hw'
        · cases (State.setPhase_self ..).symm.trans hw'
        · next he =>
          obtain rfl := findAppEnvironment_eq_error he
          cases (State.setPhase_self ..).symm.trans hw'
      · -- the request is recognised
        next current =>
        have hrepeat : ∀ u ∈ s.store.db.users.lookup x.target.requestedByUserId,
            ¬ s.store.db.operations.Any fun _ o => UsesKey x.target u o ∧ o.payloadHash ≠
              sha256 (x.releasePublicId ++ "\n" ++ current ++ "\n" ++ x.target.commitSha) := by
          refine fun u hu => hg.2.1 (x.target, _) ?_ u hu
          simp only [asksFor, hw]
          rfl
        simp only [advance, hw, hxstands.createDeployment hrepeat] at hw'
        cases (State.setPhase_self ..).symm.trans hw'
      · next j =>
        simp only [advance, hw, attachDeliveryDeployment_of_pending j hl ht]
        exact .inl ⟨attachRow j t, lookup_modify_of_pos hl ⟨rfl, ht⟩, by rintro ⟨⟩, by rintro ⟨⟩⟩
    · exact .inr ⟨x, by rw [hw']; exact hx, rfl, hs⟩
  · exact .inr ⟨x, by rw [hw']; exact hx, rfl, hs⟩

/-- A worker that is neither stopped nor made to begin anew will come to the target. -/
theorem Tracked.ahead_step (h : Tracked s i d) (hst : Staged s) (hclaims : ClaimsIndexed s)
    (hg : Redelivers policy s a) (hpoll : a ≠ .poll w) (hstop : a ≠ .stop w) (ha : Ahead s w i) :
    Ahead (Delivery.step policy s a) w i := by
  obtain ⟨t, hl, hstands, ht | ⟨hpast, -⟩⟩ := h.row
  · rcases ha with ⟨t', hl', hpast⟩ | ⟨x, hx, rfl, hs⟩
    · cases hl.symm.trans hl'
      exact absurd ht hpast.2
    · by_cases hadv : a.advancer? = some w
      · cases a with
        | advance =>
          cases hadv
          exact hst.ahead_advance hclaims hg hx hs hl ht hstands
        | _ => cases hadv
      · rcases step_workers policy s a w with hsame | ⟨rfl, -⟩ | ⟨rfl, -⟩ | ⟨hw, -⟩
        · exact .inr ⟨x, hsame ▸ hx, rfl, hs⟩
        · exact absurd rfl hstop
        · exact absurd rfl hpoll
        · exact absurd hw hadv
  · exact .inl (hst.past_step policy hg.1 hl hpast)

/-! ### In every run -/

/-- What a run needs from the moment on at which the deployment was created. -/
theorem Tracked.run (h : Tracked s i d) (hst : Staged s) (policy) {acts : List Action}
    (hg : Guarded (Delivery.step policy) (Redelivers policy) s acts) :
    Staged (run (Delivery.step policy) s acts) ∧
      Tracked (run (Delivery.step policy) s acts) i d :=
  guarded_run_induction (I := fun s => Staged s ∧ Tracked s i d) ⟨hst, h⟩
    (fun _ a h hg => ⟨h.1.step policy a, h.2.step h.1 policy a hg.1⟩) hg

/-- A worker goes through its batch. -/
theorem Tracked.run_pass (h : Tracked s i d) (hst : Staged s) (hclaims : ClaimsIndexed s) (policy)
    {acts : List Action} (hg : Guarded (Delivery.step policy) (Redelivers policy) s acts)
    (hacts : ∀ b ∈ acts, b ≠ .poll w ∧ b ≠ .stop w) (ha : Ahead s w i) :
    Ahead (Transition.run (Delivery.step policy) s acts) w i := by
  induction acts generalizing s with
  | nil => exact ha
  | cons a _ ih =>
    obtain ⟨hpoll, hstop⟩ := hacts a List.mem_cons_self
    exact ih (h.step hst policy a hg.1.1) (hst.step policy a) (hclaims.step policy a) hg.2
      (fun b hb => hacts b (List.mem_cons_of_mem a hb))
      (h.ahead_step hst hclaims hg.1 hpoll hstop ha)

/-- After a deployment for a target was created, its key is used. -/
theorem Staged.once (h : Staged s) (policy)
    (hd : deploysFor policy s a = some i) (acts : List Action) :
    Staged (run (Delivery.step policy) (Delivery.step policy s a) acts) ∧
      ∃ t, (run (Delivery.step policy) (Delivery.step policy s a) acts).targets.lookup
          i = some t ∧
        KeyUsed (run (Delivery.step policy) (Delivery.step policy s a)
          acts).store.db t := by
  refine run_induction (I := fun s => Staged s ∧ ∃ t, s.targets.lookup i = some t ∧
    KeyUsed s.store.db t) ?_ fun s b h => ?_
  · obtain ⟨t, hl, hstands, -⟩ := (h.tracked hd).row
    exact ⟨h.step policy a, t, hl, hstands.keyUsed⟩
  · obtain ⟨hst, _, hl, hk⟩ := h
    obtain ⟨t', hl', hstep⟩ := step_target policy b hl
    exact ⟨hst.step policy b, t', hl', (hk.step policy b).of_core hstep.core⟩

/-- **One deployment for a target** in every run in which requests are repeated as they were, no
target whose deployment was created is left out, nothing is in the way of a worker that has such a
target before it, and targets are marked only while they are as read. -/
theorem oneDeployment_of_redelivers (policy : PublicationPolicy) (s₀ : State)
    (acts : List Action) (h₀ : Initial s₀)
    (hg : Guarded (step policy) (Redelivers policy) s₀ acts) :
    OneDeployment policy s₀ acts := by
  have hstaged (acts : List Action) : Staged (run (step policy) s₀ acts) :=
    run_induction (I := Staged) h₀.staged fun _ a h => h.step policy a
  refine ⟨?_, ?_⟩
  · rintro before a between b after rfl i hi hi'
    obtain ⟨hst, t, hl, hk⟩ := (hstaged before).once policy hi between
    rw [run_append, run_cons] at hi'
    exact hst.sound.not_settled hi' hl (.inl hk)
  · rintro before a between w pass after rfl i hi hpass hidle
    have hafter := (guarded_append.mp hg).2.2
    obtain ⟨hbetween, hpoll, hrest⟩ := guarded_append.mp hafter
    obtain ⟨hst, htracked⟩ :=
      ((hstaged before).tracked hi).run ((hstaged before).step policy a) policy hbetween
    have hclaims : ClaimsIndexed (run (step policy) (step policy (run (step policy) s₀ before) a)
        between) := by
      rw [← run_cons, ← run_append]
      exact run_induction (h₀.claimsIndexed policy) fun _ a h => h.step policy a
    have hahead := (htracked.step hst policy _ hpoll.1).run_pass (hst.step policy (.poll w))
      (hclaims.step policy (.poll w)) policy (guarded_append.mp hrest).1 hpass (htracked.ahead_poll hpoll)
    obtain ⟨-, hend⟩ := (htracked.step hst policy _ hpoll.1).run (hst.step policy (.poll w)) policy
      (guarded_append.mp hrest).1
    simp only [run_append, run_cons] at hidle ⊢
    obtain ⟨t, hl, -, hs⟩ := hend.row
    refine ⟨t, hl, ?_⟩
    rcases hahead with ⟨t', hl', hpast⟩ | ⟨x, hx, -⟩
    · cases hl.symm.trans hl'
      rcases hs with hs | ⟨-, hd⟩
      · exact absurd hs hpast.2
      · exact ⟨hpast.2, hd⟩
    · rw [hidle] at hx
      exact absurd hx List.not_mem_nil

/-- A push is built, and its deployment is created. Then the worker stops. -/
def createdRun : List Action :=
  [.store (.createAppEnvironment (Store.newEnvironment "env-one" [])),
    .createTarget (targetRequest 1 "one"), .claimNextBuild "builder-one" 60,
    .completeBuild 1 "rel-push-one" smallImage, .poll 0, .advance 0 "" "", .advance 0 "" "",
    .poll 0, .advance 0 "" ""]

/-- Another worker goes through the batch. -/
def retryRun : List Action :=
  [.advance 1 "" "", .advance 1 "dep-again" "op-again", .advance 1 "" "", .advance 1 "" ""]

theorem oneDeployment_retryRun :
    (Initial smallDelivery ∧ Guarded (step Store.smallPolicy)
      (Redelivers Store.smallPolicy) smallDelivery
      (createdRun ++ .advance 0 "dep-push-one" "op-push-one" ::
        ([.stop 0] ++ .poll 1 :: (retryRun ++ [])))) ∧
    1 ∈ deploysFor Store.smallPolicy
      (run (step Store.smallPolicy) smallDelivery createdRun)
      (.advance 0 "dep-push-one" "op-push-one") ∧
    OneDeployment Store.smallPolicy smallDelivery
      (createdRun ++ .advance 0 "dep-push-one" "op-push-one" ::
        ([.stop 0] ++ .poll 1 :: (retryRun ++ []))) :=
  ⟨⟨smallDelivery_initial, by decide +kernel⟩, by decide +kernel,
    oneDeployment_of_redelivers Store.smallPolicy smallDelivery _ smallDelivery_initial
      (by decide +kernel)⟩

/-- The worker stops, and the deployment is carried out. -/
def carriedOutRun : List Action :=
  [.stop 0, .store (.claimNext "agent:cls-one" "cls-one" 60),
    .store (.handleResult 1 (deployed "rel-push-one" 2))]

/-- The request that another worker makes is refused, and the target stays `DeployPending`. -/
theorem not_oneDeployment_carriedOutRun :
    Initial smallDelivery ∧
    ¬ OneDeployment Store.smallPolicy smallDelivery
      (createdRun ++ .advance 0 "dep-push-one" "op-push-one" ::
        (carriedOutRun ++ .poll 1 :: (retryRun ++ []))) := by
  refine ⟨smallDelivery_initial, fun h => ?_⟩
  have hpending : ∃ t ∈ (run (step Store.smallPolicy) smallDelivery
      (createdRun ++ .advance 0 "dep-push-one" "op-push-one" ::
        (carriedOutRun ++ .poll 1 :: retryRun))).targets.lookup 1, t.status = .deployPending := by
    decide +kernel
  obtain ⟨t, hl, hs⟩ := hpending
  obtain ⟨t', hl', hne, -⟩ := h.attached createdRun (.advance 0 "dep-push-one" "op-push-one")
    carriedOutRun 1 retryRun [] rfl 1 (by decide +kernel) (by simp [retryRun]) rfl
  cases hl.symm.trans hl'
  exact hne hs

end Molejo.Delivery
