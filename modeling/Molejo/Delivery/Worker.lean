import Molejo.Delivery.System
import Molejo.Store.Storage

/-!
# Delivery workers and their targets

What a delivery worker does is decided by what it has read, and what it has read may be
out of date: two workers may advance the same target, and either of them may have
stopped and started anew in between. Still a worker is never altogether wrong. A build
that has ended stays as it is, and a key that was used stays used; so what a worker
has read of these is true whenever it acts on it (`Known`).

A target is *settled* once the key of its deployment was used or its build was lost.
This lasts, and no deployment is created for a target that is settled. A target that
is neither `Building` nor `DeployPending` is settled, whoever marked it
(`DeliverySound`).
-/

namespace Molejo.Delivery

open Transaction Table

variable {rest : List TargetSnapshot} {db : Db} {s' : State} {builds : Table Build}

variable {policy : PublicationPolicy} {s : State} {a : Action} {i : ℕ} {t : Target}
  {x : TargetSnapshot} {w : ℕ}

/-- The key of the deployment of a target was used in the name of its user. -/
def KeyUsed (db : Db) (t : Target) : Prop :=
  ∃ u ∈ db.users.lookup t.requestedByUserId, db.operations.Any fun _ o =>
    o.workspaceId = t.workspaceId ∧ o.requestedByPrincipalId = u.principalId ∧
      o.idempotencyHash = t.key
deriving Decidable

/-! ### What a delivery worker does -/

/-- The targets a worker has in mind. -/
def Phase.snapshots : Phase → List TargetSnapshot
  | .idle => []
  | .loop rest => rest
  | .deploy t _ _ _ rest => t :: rest
  | .attach t _ rest => t :: rest

/-- The worker whose transaction an action is. -/
def Action.advancer? : Action → Option ℕ
  | .advance w _ _ => some w
  | _ => none

/-- The targets that are open, but not part of the batch that is read. -/
def leftOut (s : State) : Action → List (ℕ × Target)
  | .poll _ => (s.targets.select fun _ t => t.Open).drop 50
  | _ => []

/-- The target a worker is about to create the deployment of, with the version of the configuration
and the public ids. -/
def creates (s : State) : Action → Option (TargetSnapshot × ℕ × String × String)
  | .advance w deploymentPublicId operationPublicId =>
    match s.workers w with
    | .deploy x configurationVersion _ _ _ =>
      some (x, configurationVersion, deploymentPublicId, operationPublicId)
    | _ => none
  | _ => none

/-- Everything that one transaction of a delivery worker can lead to. -/
inductive Advanced (policy : PublicationPolicy) (s : State) (w : ℕ) : State → Prop
  /-- Nothing is written, and the worker goes on or gives up. -/
  | skip (p : Phase) (hp : p = .idle ∨ ∃ rest, p = .loop rest ∧ rest ⊆ (s.workers w).snapshots) :
      Advanced policy s w (s.setPhase w p)
  | read (x : TargetSnapshot) (configurationVersion version : ℕ) (current : String)
      (rest : List TargetSnapshot) (h : s.workers w = .loop (x :: rest))
      (hs : x.target.status = .deployPending) :
      Advanced policy s w (s.setPhase w (.deploy x configurationVersion version current rest))
  | mark (x : TargetSnapshot) (rest : List TargetSnapshot) (status : TargetStatus)
      (code message : String) (h : s.workers w = .loop (x :: rest))
      (hm : x.mark = some (status, code, message)) :
      Advanced policy s w
        ({ s with
          targets := s.targets.modify (fun j _ => j = x.id)
            (markRow s.store.now status code message) }.setPhase w (.loop rest))
  | create (x : TargetSnapshot) (configurationVersion version : ℕ) (current : String)
      (rest : List TargetSnapshot) (principalId i : ℕ)
      (deploymentPublicId operationPublicId : String) (db : Db)
      (h : s.workers w = .deploy x configurationVersion version current rest)
      (hp : Store.principalIdForUser s.store.db x.target.requestedByUserId = .ok principalId)
      (hi : returnedDeployment s.store.db (x.request principalId configurationVersion version
        current deploymentPublicId operationPublicId) = .ok i)
      (hc : Store.createDeployment policy s.store.now s.store.db (x.request principalId
        configurationVersion version current deploymentPublicId operationPublicId) = .ok db) :
      Advanced policy s w
        ({ s with store := { s.store with db := db } }.setPhase w (.attach x i rest))
  | attach (x : TargetSnapshot) (i : ℕ) (rest : List TargetSnapshot)
      (h : s.workers w = .attach x i rest) :
      Advanced policy s w
        ({ s with
          targets := s.targets.modify (fun j t => j = x.id ∧ t.status = TargetStatus.deployPending)
            (attachRow i) }.setPhase w (.loop rest))

theorem afterError_cases (e : Err) (rest : List TargetSnapshot) :
    afterError e rest = .idle ∨ afterError e rest = .loop rest := by
  unfold afterError
  split
  · exact .inr rfl
  · exact .inl rfl

/-- An environment that is not found is one that was archived. -/
theorem findAppEnvironment_eq_error {e : Err} (h : findAppEnvironment db x = .error e) :
    e = .notFound := by
  simp only [findAppEnvironment, Store.appEnvironmentForUpdate, expect_eq_error] at h
  exact h.2.symm

theorem advanced_of_error (e : Err) (h : rest ⊆ (s.workers w).snapshots) :
    Advanced policy s w (s.setPhase w (afterError e rest)) := by
  refine .skip _ ?_
  rcases afterError_cases e rest with he | he
  · exact .inl he
  · exact .inr ⟨rest, he, h⟩

/-- The list is complete. -/
theorem advance_cases (policy) (s : State) (w : ℕ) (deploymentPublicId operationPublicId : String) :
    Advanced policy s w (advance policy s w deploymentPublicId operationPublicId) ∨
      advance policy s w deploymentPublicId operationPublicId = s := by
  unfold advance
  split
  · exact .inr rfl
  · exact .inl (.skip _ (.inl rfl))
  · rename_i x rest h
    have hrest : rest ⊆ (s.workers w).snapshots := by
      rw [h]
      exact List.subset_cons_self x rest
    refine .inl ?_
    unfold begin
    split
    · rename_i hs
      split
      · exact .read x _ _ _ rest h hs
      · rename_i e _
        exact advanced_of_error e hrest
    · split
      · rename_i status code message hm
        unfold State.transact
        split
        · rename_i targets hok
          simp only [markDeliveryTarget, ok_iff] at hok
          obtain ⟨_, -, rfl⟩ := hok
          exact .mark x rest status code message h hm
        · rename_i e _
          exact advanced_of_error e hrest
      · exact .skip _ (.inr ⟨rest, rfl, hrest⟩)
  · rename_i x configurationVersion version current rest h
    have hrest : rest ⊆ (s.workers w).snapshots := by
      rw [h]
      exact List.subset_cons_self x rest
    refine .inl ?_
    split
    · rename_i db i hok
      simp only [createDeployment, ok_iff, Prod.mk.injEq] at hok
      obtain ⟨principalId, hp, _, hi, _, hc, rfl, rfl⟩ := hok
      exact .create x configurationVersion version current rest principalId _ _ _ _ h hp hi hc
    · rename_i e _
      exact advanced_of_error e hrest
  · rename_i x i rest h
    have hrest : rest ⊆ (s.workers w).snapshots := by
      rw [h]
      exact List.subset_cons_self x rest
    refine .inl ?_
    unfold State.transact
    split
    · rename_i targets hok
      simp only [attachDeliveryDeployment, ok_iff] at hok
      obtain ⟨-, rfl⟩ := hok
      exact .attach x i rest h
    · rename_i e _
      exact advanced_of_error e hrest

/-- A worker has in mind only what it had in mind. -/
theorem Advanced.snapshots (h : Advanced policy s w s') :
    (s'.workers w).snapshots ⊆ (s.workers w).snapshots := by
  cases h with
  | skip _ hp =>
    rw [State.setPhase_self]
    rcases hp with rfl | ⟨_, rfl, hrest⟩
    · exact List.nil_subset _
    · exact hrest
  | read _ _ _ _ _ hw =>
    rw [State.setPhase_self, hw]
    exact List.Subset.refl _
  | mark x rest _ _ _ hw =>
    rw [State.setPhase_self, hw]
    exact List.subset_cons_self x rest
  | create _ _ _ _ _ _ _ _ _ _ hw =>
    rw [State.setPhase_self, hw]
    exact List.Subset.refl _
  | attach x _ rest hw =>
    rw [State.setPhase_self, hw]
    exact List.subset_cons_self x rest

/-- A transaction on a target ends its turn. -/
theorem State.transact_workers (s : State) (w : ℕ) (r : Except Err (Table Target)) :
    (s.transact w r rest).workers w = .idle ∨ (s.transact w r rest).workers w = .loop rest := by
  cases r with
  | ok => exact .inr (setPhase_self ..)
  | error e =>
    simp only [transact, setPhase_self]
    exact afterError_cases e rest

/-- A worker gives up, or is done with the first of its targets, or still has them all. -/
theorem advance_workers (policy) (deploymentPublicId operationPublicId : String)
    (hx : (s.workers w).snapshots = x :: rest) :
    (advance policy s w deploymentPublicId operationPublicId).workers w = .idle ∨
      (advance policy s w deploymentPublicId operationPublicId).workers w = .loop rest ∨
      ((advance policy s w deploymentPublicId operationPublicId).workers w).snapshots =
        x :: rest := by
  unfold advance
  split <;> rename_i hw <;> rw [hw] at hx <;> cases hx
  · unfold begin
    split <;> split
    · exact .inr (.inr (by rw [State.setPhase_self]; rfl))
    · rw [State.setPhase_self]
      exact (afterError_cases ..).imp_right .inl
    · exact (s.transact_workers ..).imp_right .inl
    · exact .inr (.inl (State.setPhase_self ..))
  · split
    · exact .inr (.inr (by rw [State.setPhase_self]; rfl))
    · rw [State.setPhase_self]
      exact (afterError_cases ..).imp_right .inl
  · exact (s.transact_workers ..).imp_right .inl

/-- The deployment of a target that waits for it is attached. -/
theorem attachDeliveryDeployment_of_pending {targets : Table Target} (j : ℕ)
    (h : targets.lookup i = some t) (hs : t.status = .deployPending) :
    attachDeliveryDeployment targets i j = .ok (targets.modify
      (fun k t => k = i ∧ t.status = .deployPending) (attachRow j)) := by
  simp only [attachDeliveryDeployment, ok_iff, and_true]
  exact any_iff.mpr ⟨i, t, h, rfl, hs⟩

/-- A worker is where it was, or has stopped, or has read a batch, or has made a transaction. -/
theorem step_workers (policy) (s : State) (a : Action) (w : ℕ) :
    (step policy s a).workers w = s.workers w ∨
      a = .stop w ∧ (step policy s a).workers w = .idle ∨
      a = .poll w ∧ (step policy s a).workers w =
        .loop (deliveryTargetsToAdvance s.store.db s.builds s.targets) ∨
      a.advancer? = some w ∧ Advanced policy s w (step policy s a) := by
  cases a with
  | claimNextBuild | failBuild | createTarget =>
    simp only [step]
    split <;> exact .inl rfl
  | completeBuild =>
    simp only [step]
    split
    · split <;> exact .inl rfl
    · exact .inl rfl
  | poll v =>
    by_cases hv : w = v
    · subst hv
      exact .inr (.inr (.inl ⟨rfl, State.setPhase_self ..⟩))
    · exact .inl (State.setPhase_of_ne _ _ hv)
  | advance v deploymentPublicId operationPublicId =>
    simp only [step]
    rcases advance_cases policy s v deploymentPublicId operationPublicId with ha | ha
    · by_cases hv : w = v
      · subst hv
        exact .inr (.inr (.inr ⟨rfl, ha⟩))
      · generalize advance policy s v deploymentPublicId operationPublicId = s' at ha
        cases ha <;> exact .inl (State.setPhase_of_ne _ _ hv)
    · exact .inl (congrFun (congrArg State.workers ha) w)
  | stop v =>
    by_cases hv : w = v
    · subst hv
      exact .inr (.inl ⟨rfl, State.setPhase_self ..⟩)
    · exact .inl (State.setPhase_of_ne _ _ hv)
  | _ => exact .inl rfl

/-- A batch consists of targets that are open, as they are. -/
theorem mem_deliveryTargetsToAdvance {targets : Table Target}
    (h : x ∈ deliveryTargetsToAdvance db builds targets) :
    ∃ i t, (targets.lookup i = some t ∧ t.Open) ∧ x = snapshot db builds i t := by
  obtain ⟨⟨i, t⟩, hit, rfl⟩ := List.mem_map.mp h
  exact ⟨i, t, mem_select.mp (List.mem_of_mem_take hit), rfl⟩

/-- What a worker has in mind it had in mind before, or is as it is. -/
theorem step_snapshots (policy) (a : Action) (h : x ∈ ((step policy s a).workers w).snapshots) :
    x ∈ (s.workers w).snapshots ∨
      ∃ i t, s.targets.lookup i = some t ∧ x = snapshot s.store.db s.builds i t := by
  rcases step_workers policy s a w with hw | ⟨-, hw⟩ | ⟨-, hw⟩ | ⟨-, ha⟩
  · rw [hw] at h
    exact .inl h
  · rw [hw] at h
    exact absurd h List.not_mem_nil
  · rw [hw] at h
    obtain ⟨i, t, hl, hx⟩ := mem_deliveryTargetsToAdvance h
    exact .inr ⟨i, t, hl.1, hx⟩
  · exact .inl (ha.snapshots h)

/-! ### What lasts -/

/-- The build of a target has succeeded. -/
def BuildDone (builds : Table Build) (t : Target) : Prop :=
  ∃ b ∈ t.buildId.bind builds.lookup, b.status = .succeeded

/-- The build of a target has ended without success. -/
def BuildLost (builds : Table Build) (t : Target) : Prop :=
  ∃ b ∈ t.buildId.bind builds.lookup,
    b.status = .failed ∨ b.status = .timedOut ∨ b.status = .superseded

/-- No deployment will be created for the target any more. -/
def Settled (s : State) (t : Target) : Prop :=
  KeyUsed s.store.db t ∨ BuildLost s.builds t

theorem not_buildLost (h : BuildDone s.builds t) : ¬ BuildLost s.builds t := by
  rintro ⟨c, hc, hs⟩
  have hd := of_found h hc
  rw [hd] at hs
  rcases hs with hs | hs | hs <;> cases hs

/-- A build that has ended stays as it is. -/
theorem step_ended (policy) (a : Action) {b : Build}
    (hl : s.builds.lookup i = some b) (he : ¬ b.Active) :
    (step policy s a).builds.lookup i = some b := by
  obtain ⟨_, hb', hstep⟩ := step_build policy a hl
  cases hstep with
  | same => exact hb'
  | claim _ _ _ hc =>
    exact absurd (hc.2.1.imp_right And.left) he
  | fail _ _ _ _ _ _ hh => exact absurd (.inr hh.2.1) he
  | succeed _ _ _ _ _ hh => exact absurd (.inr hh.2.1) he
  | release _ hr => exact absurd (.inr hr.1) he
  | supersede _ hp => exact absurd (.inl hp) he

theorem BuildDone.step (h : BuildDone s.builds t) (policy) (a : Action) :
    BuildDone (step policy s a).builds t := by
  obtain ⟨b, hb, hs⟩ := h
  obtain ⟨j, hj, hb⟩ := Option.bind_eq_some_iff.mp hb
  refine ⟨b, Option.bind_eq_some_iff.mpr ⟨j, hj, step_ended policy a hb ?_⟩, hs⟩
  simp [Build.Active, hs]

theorem BuildLost.step (h : BuildLost s.builds t) (policy) (a : Action) :
    BuildLost (step policy s a).builds t := by
  obtain ⟨b, hb, hs⟩ := h
  obtain ⟨j, hj, hb⟩ := Option.bind_eq_some_iff.mp hb
  refine ⟨b, Option.bind_eq_some_iff.mpr ⟨j, hj, step_ended policy a hb ?_⟩, hs⟩
  rcases hs with hs | hs | hs <;> simp [Build.Active, hs]

/-- What may happen to the store in one step. -/
inductive StoreStep (policy : PublicationPolicy) (s : State) : Action → Store.State → Prop
  | same (a : Action) : StoreStep policy s a s.store
  | store (a : Store.Action) : StoreStep policy s (.store a) (Store.step policy s.store a)
  | deploy (a : Action) (request : Store.DeploymentRequest) :
      StoreStep policy s a (Store.step policy s.store (.createDeployment request))
  /-- A build is completed, with its release. -/
  | complete (k : ℕ) (releasePublicId image : String) (op : ClaimedBuild) (b : Build)
      (hk : s.held.lookup k = some op) (hb : s.builds.lookup op.1 = some b)
      (hh : BuildHeld op op.1 b)
      (hn : ¬ s.store.db.releases.Any fun _ r => r.buildId = some op.1) :
      StoreStep policy s (.completeBuild k releasePublicId image)
        { s.store with
          db := { s.store.db with
            releases := s.store.db.releases.insert (b.release op.1 releasePublicId) } }

/-- **What a step does to the store.** -/
theorem step_storeStep (policy) (s : State) (a : Action) :
    StoreStep policy s a (step policy s a).store := by
  cases a with
  | store a => exact .store a
  | claimNextBuild | failBuild | createTarget =>
    simp only [step]
    split <;> exact .same _
  | completeBuild k releasePublicId image =>
    simp only [step]
    split
    · rename_i op hk
      split
      · rename_i builds releases h
        obtain ⟨b, hb, hh, hn, -, rfl⟩ := completeBuild_eq_ok h
        exact .complete k releasePublicId image op b hk hb hh hn
      · exact .same _
    · exact .same _
  | advance worker deploymentPublicId operationPublicId =>
    simp only [step]
    rcases advance_cases policy s worker deploymentPublicId operationPublicId with h | h
    · generalize advance policy s worker deploymentPublicId operationPublicId = s' at h
      cases h with
      | create x configurationVersion version current _ principalId _ dp op db _ _ _ hc =>
        have hs : Store.step policy s.store (.createDeployment (x.request principalId
            configurationVersion version current dp op)) = { s.store with db := db } := by
          simp only [Store.step, Store.State.transact, hc, commit_ok]
        exact hs ▸ .deploy _ _
      | _ => exact .same _
    · rw [h]
      exact .same _
  | _ => exact .same _

/-- A step of the system is a step of the store, or changes nothing of it but the releases. -/
theorem step_store (policy) (s : State) (a : Action) :
    (∃ a', (step policy s a).store = Store.step policy s.store a') ∨
      ∃ releases, (step policy s a).store.db = { s.store.db with releases := releases } := by
  have h := step_storeStep policy s a
  generalize (step policy s a).store = store' at h
  cases h with
  | same => exact .inr ⟨s.store.db.releases, rfl⟩
  | store a => exact .inl ⟨a, rfl⟩
  | deploy _ request => exact .inl ⟨.createDeployment request, rfl⟩
  | complete => exact .inr ⟨_, rfl⟩

/-- A key that was used stays used. -/
theorem KeyUsed.step (h : KeyUsed s.store.db t) (policy) (a : Action) :
    KeyUsed (step policy s a).store.db t := by
  obtain ⟨u, hu, hany⟩ := h
  obtain ⟨k, _, hk, hw, hp, hh⟩ := any_iff.mp hany
  rcases step_store policy s a with ⟨a', ha'⟩ | ⟨_, hr⟩
  · rw [ha']
    obtain ⟨o', ho', hf⟩ := Store.step_operation policy a' hk
    refine ⟨u, Store.step_user policy a' hu, any_iff.mpr ⟨k, o', ho', ?_, ?_, ?_⟩⟩
    · exact (congrArg Operation.workspaceId hf.work :).trans hw
    · exact (congrArg Operation.requestedByPrincipalId hf.work :).trans hp
    · exact (congrArg Operation.idempotencyHash hf.work :).trans hh
  · rw [hr]
    exact ⟨u, hu, hany⟩

theorem Settled.step (h : Settled s t) (policy) (a : Action) :
    Settled (step policy s a) t :=
  h.imp (fun hk => hk.step policy a) fun hb => hb.step policy a

section Core

variable {t' : Target} (hc : t'.core = t.core)

include hc

theorem KeyUsed.of_core (h : KeyUsed db t) : KeyUsed db t' := by
  change KeyUsed db t'.core
  rw [hc]
  exact h

theorem BuildDone.of_core (h : BuildDone builds t) : BuildDone builds t' := by
  change BuildDone builds t'.core
  rw [hc]
  exact h

theorem BuildLost.of_core (h : BuildLost builds t) : BuildLost builds t' := by
  change BuildLost builds t'.core
  rw [hc]
  exact h

theorem Settled.of_core (h : Settled s t) : Settled s t' :=
  h.imp (KeyUsed.of_core hc) (BuildLost.of_core hc)

end Core

/-! ### What a step does to a target -/

/-- The build of a target waits. -/
def BuildWaits (builds : Table Build) (t : Target) : Prop :=
  ∃ b ∈ t.buildId.bind builds.lookup, b.status = .pending

/-- What may happen to the target under `i` in one step to `s'`. -/
inductive TargetStep (s : State) (a : Action) (s' : State) (i : ℕ) (t : Target) : Target → Prop
  | same : TargetStep s a s' i t t
  | mark (x : TargetSnapshot) (w : ℕ) (rest : List TargetSnapshot) (status : TargetStatus)
      (code message : String) (ha : a.advancer? = some w) (h : s.workers w = .loop (x :: rest))
      (hi : i = x.id) (hm : x.mark = some (status, code, message)) :
      TargetStep s a s' i t (markRow s.store.now status code message t)
  | attach (x : TargetSnapshot) (w j : ℕ) (rest : List TargetSnapshot)
      (h : s.workers w = .attach x j rest) (hi : i = x.id) (hs : t.status = .deployPending) :
      TargetStep s a s' i t (attachRow j t)
  | supersede (hw : BuildWaits s.builds t) (h : BuildLost s'.builds t) :
      TargetStep s a s' i t (supersedeTargetRow s.store.now t)

theorem TargetStep.core {t' : Target} (h : TargetStep s a s' i t t') :
    t'.core = t.core := by
  cases h <;> rfl

/-- The target under `i` is still there, and one of these happened to it. -/
def TargetLives (s : State) (a : Action) (s' : State) (i : ℕ) (t : Target) : Prop :=
  ∃ t', s'.targets.lookup i = some t' ∧ TargetStep s a s' i t t'

/-- What a delivery worker does to the targets. It makes none. -/
theorem Advanced.targets {N : ℕ → Target → Prop} (h : Advanced policy s w s')
    (ha : a.advancer? = some w) : Evolves (TargetStep s a s') N s.targets s'.targets := by
  have hsame {s' : State} (i : ℕ) (t : Target) : TargetStep s a s' i t t := .same
  cases h with
  | mark x rest status code message h hm =>
    simp only [State.setPhase]
    exact .of_modify hsame fun i t _ hi => .mark x w rest status code message ha h hi hm
  | attach x j rest h =>
    simp only [State.setPhase]
    exact .of_modify hsame fun i t _ hp => .attach x w j rest h hp.1 hp.2
  | _ => exact .refl hsame

/-- **What a step does to the targets.** One that is new has the next identity and is
`Building`. -/
theorem step_targets (policy) (s : State) (a : Action) :
    Evolves (TargetStep s a (step policy s a))
      (fun i t => i = s.targets.nextId ∧ t.status = .building) s.targets
      (step policy s a).targets := by
  have hsame {a : Action} {s' : State} (i : ℕ) (t : Target) : TargetStep s a s' i t t := .same
  cases a with
  | claimNextBuild | failBuild =>
    simp only [step]
    split <;> exact .refl hsame
  | completeBuild =>
    simp only [step]
    split
    · split <;> exact .refl hsame
    · exact .refl hsame
  | createTarget request =>
    simp only [step]
    split
    · rename_i builds targets h
      rcases createDeliveryTargetBuild_eq_ok h with ⟨rfl, rfl⟩ | ⟨-, rfl, rfl⟩
      · exact .refl hsame
      · refine Evolves.insert (u := s.targets.modify _ _) (.of_modify hsame ?_) ⟨rfl, rfl⟩
        rintro i t - ⟨b, hb, ho⟩
        refine .supersede ⟨b, hb, ho.2.1⟩ ?_
        obtain ⟨_, hj, hb⟩ := Option.bind_eq_some_iff.mp hb
        refine ⟨supersedeBuildRow s.store.now b, ?_, .inr (.inr rfl)⟩
        rw [hj]
        exact lookup_insert_of_lookup (lookup_modify_of_pos hb ho)
    · exact .refl hsame
  | advance worker deploymentPublicId operationPublicId =>
    simp only [step]
    rcases advance_cases policy s worker deploymentPublicId operationPublicId with h | h
    · exact h.targets rfl
    · rw [h]
      exact .refl hsame
  | _ => exact .refl hsame

theorem step_target (policy) (a : Action) (hl : s.targets.lookup i = some t) :
    TargetLives s a (step policy s a) i t :=
  (step_targets policy s a).lives i t hl

/-! ### Creating a deployment uses the key -/

/-- If no operation has the key of a request, a deployment for it is new; if one has, none is. -/
theorem createDeployment_key {now : Time} {db' : Db} {request : Store.DeploymentRequest}
    (h : Store.createDeployment policy now db request = .ok db') :
    db' = db ∧ (db.operations.Any fun _ o => o.workspaceId = request.workspaceId ∧
        o.requestedByPrincipalId = request.actorPrincipalId ∧
        o.idempotencyHash = request.idempotencyHash) ∨
      Store.deploy policy now db request = .ok db' ∧
      ¬ db.operations.Any fun _ o => o.workspaceId = request.workspaceId ∧
        o.requestedByPrincipalId = request.actorPrincipalId ∧
        o.idempotencyHash = request.idempotencyHash := by
  simp only [Store.createDeployment, Store.operationByPrincipalIdempotency, bind_eq_ok] at h
  obtain ⟨existing, he, h⟩ := h
  split at he
  · rename_i hf
    cases he
    exact .inr ⟨h, not_any_iff.mpr (first_eq_none.mp hf)⟩
  · rename_i r hf
    split_ifs at he
    cases he
    cases h
    exact .inl ⟨rfl, any_iff.mpr ⟨r.1, r.2, lookup_of_first hf, pos_of_first hf⟩⟩

section Create

variable {db' : Db} {principalId configurationVersion version : ℕ}
  {current deploymentPublicId operationPublicId : String}
  (hp : Store.principalIdForUser s.store.db x.target.requestedByUserId = .ok principalId)
  (hc : Store.createDeployment policy s.store.now s.store.db (x.request principalId
    configurationVersion version current deploymentPublicId operationPublicId) = .ok db')

include hp hc

theorem keyUsed_of_create : KeyUsed db' x.target := by
  obtain ⟨u, hu, rfl⟩ := Store.principalIdForUser_eq_ok.mp hp
  rcases createDeployment_key hc with ⟨rfl, hany⟩ | ⟨hd, -⟩
  · exact ⟨u, hu, hany⟩
  · obtain ⟨_, _, _, _, _, _, _, _, _, -, -, -, -, -, rfl, -, rfl⟩ := Store.deploy_eq_ok hd
    exact ⟨u, hu, any_iff.mpr ⟨_, _, lookup_insert_self, rfl, rfl, rfl⟩⟩

/-- A deployment is only new if the key was not used. -/
theorem not_keyUsed_of_create (hne : db'.deployments.nextId ≠ s.store.db.deployments.nextId) :
    ¬ KeyUsed s.store.db x.target := by
  rintro ⟨u, hu, hany⟩
  obtain rfl := of_found (Store.principalIdForUser_eq_ok.mp hp) hu
  rcases createDeployment_key hc with ⟨rfl, -⟩ | ⟨-, hn⟩
  · exact hne rfl
  · exact hn hany

end Create

/-- A key that was not used stands for the next deployment. -/
theorem returnedDeployment_of_deploy {db' : Db} {now : Time} {request : Store.DeploymentRequest}
    {j : ℕ} (hc : Store.createDeployment policy now db request = .ok db')
    (hne : db'.deployments.nextId ≠ db.deployments.nextId)
    (hj : returnedDeployment db request = .ok j) :
    Store.deploy policy now db request = .ok db' ∧ j = db.deployments.nextId := by
  rcases createDeployment_key hc with ⟨rfl, -⟩ | ⟨hd, hn⟩
  · exact absurd rfl hne
  · refine ⟨hd, ?_⟩
    simp only [returnedDeployment, Store.operationByPrincipalIdempotency,
      first_eq_none.mpr (not_any_iff.mp hn), ok_bind, pure_eq_ok] at hj
    exact hj.symm

/-- When a deployment is created for a target, its worker was about to, and the key was not
used. -/
theorem deploysFor_cases (h : deploysFor policy s a = some i) :
    ∃ w x configurationVersion version current rest principalId deploymentPublicId
      operationPublicId db,
      s.workers w = .deploy x configurationVersion version current rest ∧ x.id = i ∧
      Store.principalIdForUser s.store.db x.target.requestedByUserId = .ok principalId ∧
      Store.deploy policy s.store.now s.store.db (x.request principalId configurationVersion
        version current deploymentPublicId operationPublicId) = .ok db ∧
      ¬ KeyUsed s.store.db x.target ∧
      step policy s a = { s with store := { s.store with db := db } }.setPhase w
        (.attach x s.store.db.deployments.nextId rest) := by
  unfold deploysFor at h
  split at h
  · rename_i w dp op
    split at h
    · rename_i x configurationVersion version current rest hw
      split at h
      · rename_i db j hok
        split_ifs at h with hne
        cases h
        have hstep : step policy s (.advance w dp op) =
            { s with store := { s.store with db := db } }.setPhase w (.attach x j rest) := by
          simp only [step, advance, hw, hok]
        simp only [createDeployment, ok_iff, Prod.mk.injEq] at hok
        obtain ⟨principalId, hp, _, hj, _, hc, rfl, rfl⟩ := hok
        obtain ⟨hd, rfl⟩ := returnedDeployment_of_deploy hc hne hj
        exact ⟨w, x, configurationVersion, version, current, rest, principalId, dp, op, _, hw, rfl,
          hp, hd, not_keyUsed_of_create hp hc hne, hstep⟩
      · cases h
    · cases h
  · cases h

/-! ### What is known -/

/-- What a worker knows of a target it has read. -/
structure Known (s : State) (x : TargetSnapshot) : Prop where
  row : ∃ t, s.targets.lookup x.id = some t ∧ t.core = x.target.core
  done : x.buildStatus = some .succeeded → BuildDone s.builds x.target
  lost : x.buildStatus = some .failed ∨ x.buildStatus = some .timedOut ∨
    x.buildStatus = some .superseded → BuildLost s.builds x.target
  pending : x.target.status = .deployPending → BuildDone s.builds x.target
  deploying : x.target.status = .deploying → Settled s x.target

theorem Known.step (h : Known s x) (policy) (a : Action) :
    Known (step policy s a) x where
  row := by
    obtain ⟨_, ht, hc⟩ := h.row
    obtain ⟨t', ht', hstep⟩ := step_target policy a ht
    exact ⟨t', ht', hstep.core.trans hc⟩
  done hs := (h.done hs).step policy a
  lost hs := (h.lost hs).step policy a
  pending hs := (h.pending hs).step policy a
  deploying hs := (h.deploying hs).step policy a

/-- What is known of a target. -/
structure TargetSound (s : State) (t : Target) : Prop where
  pending : t.status = .deployPending → BuildDone s.builds t
  settled : t.status = .building ∨ t.status = .deployPending ∨ Settled s t

/-- What a worker reads is known. -/
theorem TargetSound.known (h : TargetSound s t) (hl : s.targets.lookup i = some t) :
    Known s (snapshot s.store.db s.builds i t) where
  row := ⟨t, hl, rfl⟩
  done hs := by
    obtain ⟨b, hb, hbs⟩ := Option.map_eq_some_iff.mp hs
    exact ⟨b, hb, hbs⟩
  lost hs := by
    simp only [snapshot, Option.map_eq_some_iff] at hs
    rcases hs with ⟨b, hb, hbs⟩ | ⟨b, hb, hbs⟩ | ⟨b, hb, hbs⟩
    · exact ⟨b, hb, .inl hbs⟩
    · exact ⟨b, hb, .inr (.inl hbs)⟩
    · exact ⟨b, hb, .inr (.inr hbs)⟩
  pending := h.pending
  deploying hs := by
    rcases h.settled with hb | hp | hset
    · cases hs.symm.trans hb
    · cases hs.symm.trans hp
    · exact hset

/-- How a worker marks a target agrees with what it knows. -/
theorem Known.mark (h : Known s x) {status : TargetStatus} {code message : String}
    (hm : x.mark = some (status, code, message)) :
    status = .deployPending ∧ BuildDone s.builds x.target ∨
      status ≠ .deployPending ∧ Settled s x.target := by
  unfold TargetSnapshot.mark at hm
  split at hm
  · split at hm
    · rename_i hb
      cases hm
      exact .inl ⟨rfl, h.done hb⟩
    · rename_i hb
      cases hm
      exact .inr ⟨nofun, .inr (h.lost (.inl hb))⟩
    · rename_i hb
      cases hm
      exact .inr ⟨nofun, .inr (h.lost (.inr (.inl hb)))⟩
    · rename_i hb
      cases hm
      exact .inr ⟨nofun, .inr (h.lost (.inr (.inr hb)))⟩
    · cases hm
  · rename_i hs
    split at hm
    · cases hm
      exact .inr ⟨nofun, h.deploying hs⟩
    · cases hm
      exact .inr ⟨nofun, h.deploying hs⟩
    · cases hm
  · cases hm

/-! ### The invariant -/

/-- What is known where a worker is. -/
structure PhaseSound (s : State) (p : Phase) : Prop where
  known : ∀ x ∈ p.snapshots, Known s x
  deploy : ∀ x configurationVersion version current rest,
    p = .deploy x configurationVersion version current rest → x.target.status = .deployPending
  attach : ∀ x i rest, p = .attach x i rest → KeyUsed s.store.db x.target

theorem PhaseSound.step {p : Phase} (h : PhaseSound s p) (policy)
    (a : Action) : PhaseSound (step policy s a) p where
  known x hx := (h.known x hx).step policy a
  deploy := h.deploy
  attach x i rest hp := (h.attach x i rest hp).step policy a

theorem PhaseSound.of_idle : PhaseSound s .idle where
  known x hx := absurd hx List.not_mem_nil
  deploy x _ _ _ _ h := by cases h
  attach x _ _ h := by cases h

theorem PhaseSound.of_loop (h : ∀ x ∈ rest, Known s x) :
    PhaseSound s (.loop rest) where
  known := h
  deploy x _ _ _ _ h := by cases h
  attach x _ _ h := by cases h

/-- What is known of all targets and all workers. -/
structure DeliverySound (s : State) : Prop where
  target : ∀ i t, s.targets.lookup i = some t → TargetSound s t
  phase : ∀ w, PhaseSound s (s.workers w)

theorem Initial.deliverySound (h : Initial s) : DeliverySound s where
  target _ _ := of_lookup_empty h.targets
  phase w := by
    rw [h.workers w]
    exact .of_idle

/-- A target that a worker has read is the one under its identity, up to how far it has come. -/
theorem Known.core_eq (h : Known s x) (hl : s.targets.lookup x.id = some t) :
    t.core = x.target.core := by
  have hc := of_found (h.row) hl
  exact hc

theorem DeliverySound.targetStep (h : DeliverySound s) {t' : Target}
    (hl : s.targets.lookup i = some t) (hstep : TargetStep s a (step policy s a) i t t') :
    TargetSound (step policy s a) t' := by
  cases hstep with
  | same =>
    exact ⟨fun hs => ((h.target i t hl).pending hs).step policy a,
      (h.target i t hl).settled.imp_right (Or.imp_right fun hs => hs.step policy a)⟩
  | mark x w _ status code message _ hw hi hm =>
    subst hi
    have hx : Known s x := (h.phase w).known x (by rw [hw]; exact List.mem_cons_self)
    have hc := (core_markRow s.store.now status code message t).trans (hx.core_eq hl)
    rcases hx.mark hm with ⟨rfl, hd⟩ | ⟨hne, hset⟩
    · exact ⟨fun _ => (hd.step policy a).of_core hc, .inr (.inl rfl)⟩
    · exact ⟨fun hs => absurd hs hne, .inr (.inr ((hset.step policy a).of_core hc))⟩
  | attach x w j rest hw hi =>
    subst hi
    have hx : Known s x := (h.phase w).known x (by rw [hw]; exact List.mem_cons_self)
    have hc := (core_attachRow j t).trans (hx.core_eq hl)
    have hkey : KeyUsed s.store.db x.target := (h.phase w).attach x j rest hw
    exact ⟨nofun, .inr (.inr (.inl ((hkey.step policy a).of_core hc)))⟩
  | supersede _ hlost =>
    exact ⟨nofun, .inr (.inr (.inr (hlost.of_core (core_supersedeTargetRow _ t))))⟩

/-- What a worker knows after its own transaction. -/
theorem DeliverySound.advanced (h : DeliverySound s) (hs : step policy s a = s')
    (ha : Advanced policy s w s') : PhaseSound s' (s'.workers w) := by
  have hknown {x : TargetSnapshot} (hx : x ∈ (s.workers w).snapshots) : Known s' x :=
    hs ▸ ((h.phase w).known x hx).step policy a
  cases ha with
  | skip _ hp =>
    rw [State.setPhase_self]
    rcases hp with rfl | ⟨_, rfl, hrest⟩
    · exact .of_idle
    · exact .of_loop fun x hx => hknown (hrest hx)
  | read _ _ _ _ _ hw hstatus =>
    rw [hw] at hknown
    rw [State.setPhase_self]
    refine ⟨fun y hy => hknown hy, fun y _ _ _ _ hy => ?_, fun y _ _ hy => ?_⟩
    · cases hy
      exact hstatus
    · cases hy
  | mark x _ _ _ _ hw =>
    rw [hw] at hknown
    rw [State.setPhase_self]
    exact .of_loop fun y hy => hknown (List.mem_cons_of_mem x hy)
  | create _ _ _ _ _ _ _ _ _ _ hw hp _ hc =>
    rw [hw] at hknown
    rw [State.setPhase_self]
    refine ⟨fun y hy => hknown hy, fun y _ _ _ _ hy => ?_, fun y _ _ hy => ?_⟩
    · cases hy
    · cases hy
      exact keyUsed_of_create hp hc
  | attach x _ _ hw =>
    rw [hw] at hknown
    rw [State.setPhase_self]
    exact .of_loop fun y hy => hknown (List.mem_cons_of_mem x hy)

/-- A worker knows what it knew, what it has just read, or what its transaction told it. -/
theorem DeliverySound.step_phase (h : DeliverySound s) (policy) (a : Action)
    (w : ℕ) : PhaseSound (step policy s a) ((step policy s a).workers w) := by
  rcases step_workers policy s a w with hw | ⟨-, hw⟩ | ⟨-, hw⟩ | ⟨-, ha⟩
  · rw [hw]
    exact (h.phase w).step policy a
  · rw [hw]
    exact .of_idle
  · rw [hw]
    refine .of_loop fun x hx => ?_
    obtain ⟨i, t, hl, rfl⟩ := mem_deliveryTargetsToAdvance hx
    exact ((h.target i t hl.1).known hl.1).step policy a
  · exact h.advanced rfl ha

/-- **Every step keeps what is known.** -/
theorem DeliverySound.step (h : DeliverySound s) (policy) (a : Action) :
    DeliverySound (step policy s a) where
  target i t ht := by
    rcases (step_targets policy s a).cases ht with ⟨t₀, hl, hstep⟩ | ⟨-, hb⟩
    · exact h.targetStep hl hstep
    · exact ⟨fun hp => absurd (hb.symm.trans hp) nofun, .inl hb⟩
  phase := h.step_phase policy a

/-- **No deployment is created for a target that is settled.** -/
theorem DeliverySound.not_settled (h : DeliverySound s) (hd : deploysFor policy s a = some i)
    (hl : s.targets.lookup i = some t) : ¬ Settled s t := by
  obtain ⟨w, x, configurationVersion, version, current, rest, -, -, -, -, hw, rfl, -, -, hk, -⟩ :=
    deploysFor_cases hd
  have hx : Known s x := (h.phase w).known x (by rw [hw]; exact List.mem_cons_self)
  have hpending := (h.phase w).deploy x configurationVersion version current rest hw
  have hc := hx.core_eq hl
  rintro (hkey | hlost)
  · exact hk (hkey.of_core hc.symm)
  · exact not_buildLost (hx.pending hpending) (hlost.of_core hc.symm)

end Molejo.Delivery
