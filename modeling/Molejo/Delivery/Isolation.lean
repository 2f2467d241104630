import Molejo.Delivery.Obstacles

/-!
# Targets and their neighbours

A worker goes through the targets of all workspaces in one loop. An error in the loop
means one of two things: a conflict concerns the target alone, and the worker goes on with
the next; any other error ends the call. That an environment was archived is an error of
the second kind. A target that is due for a deployment in such an environment ends every
call at the same place, and no target behind it is ever reached again – in whatever
workspace it is. In the same way the batch consists of the fifty oldest targets that are
open: fifty targets that wait for something keep out every other.

A target is due for a step by what was read of it, and the step is *enabled* if it would
succeed now (`Enabled`). If there are no more than fifty targets open and nothing is in the
way of the worker at any of them (`GoesThrough`), one call performs the step of every target
whose step stays enabled until it is its turn.
-/

namespace Molejo.Delivery

open Transaction Table Transition

variable {policy : PublicationPolicy} {s s₁ : State} {a : Action} {i : ℕ} {t : Target}
  {x y : TargetSnapshot} {w : ℕ} {rest : List TargetSnapshot}

/-! ### Calls -/

/-- The transactions of a call of `AdvanceOnce`, with the public ids drawn for each of them. -/
def advances (w : ℕ) (ids : List (String × String)) : List Action :=
  ids.map fun p => .advance w p.1 p.2

/-- A call of `AdvanceOnce`. -/
def call (w : ℕ) (ids : List (String × String)) : List Action :=
  .poll w :: advances w ids

/-- Each of the calls comes to its end. -/
def Complete (policy : PublicationPolicy) (w : ℕ) : State → List (List (String × String)) → Prop
  | _, [] => True
  | s, ids :: calls => (run (step policy) s (call w ids)).workers w = .idle ∧
    Complete policy w (run (step policy) s (call w ids)) calls

/-- The deployment of the target can be created now, by a worker that has just read its
environment. -/
def Deploys (policy : PublicationPolicy) (s : State) (x : TargetSnapshot) : Prop :=
  ∃ e ae deploymentPublicId operationPublicId r, findAppEnvironment s.store.db x = .ok (e, ae) ∧
    createDeployment policy s.store.now s.store.db x ae.configurationVersion ae.version
      (Store.currentDeploymentPublicId s.store.db ae) deploymentPublicId operationPublicId = .ok r

/-- The step due for a target, as it was read, would succeed now: it is to be marked, or its
deployment can be created. -/
def Enabled (policy : PublicationPolicy) (s : State) (x : TargetSnapshot) : Prop :=
  x.mark ≠ none ∨ x.target.status = .deployPending ∧ Deploys policy s x

/-- The row `t` of a target becomes `t'` by the step due for it: it is marked, or has a
deployment. -/
def Performed (now : Time) (x : TargetSnapshot) (t t' : Target) : Prop :=
  match x.mark with
  | some (status, code, message) => t' = markRow now status code message t
  | none => ∃ d, t' = attachRow d t

/-- **Targets are isolated from each other**: in `n` calls of `AdvanceOnce` the step due for a
target is performed, if it is enabled for as long as it is not performed. -/
def Isolated (n : ℕ) (policy : PublicationPolicy) (s₀ : State) (acts : List Action) : Prop :=
  ∀ before w calls after, acts = before ++ (calls.flatMap (call w) ++ after) →
    calls.length = n →
    (run (step policy) s₀ before).workers w = .idle →
    Complete policy w (run (step policy) s₀ before) calls →
    ∀ i t, (run (step policy) s₀ before).targets.lookup i = some t → t.Open →
    ∀ x, x = snapshot (run (step policy) s₀ before).store.db
      (run (step policy) s₀ before).builds i t →
    (∀ pre post, calls.flatMap (call w) = pre ++ post →
      (run (step policy) s₀ (before ++ pre)).targets.lookup i = some t →
      Enabled policy (run (step policy) s₀ (before ++ pre)) x) →
    ∃ pre post t', calls.flatMap (call w) = pre ++ post ∧
      (run (step policy) s₀ (before ++ pre)).targets.lookup i = some t' ∧
      Performed (run (step policy) s₀ before).store.now x t t'

/-- Every target that is open is read, and nothing is in the way of the worker. -/
def GoesThrough (policy : PublicationPolicy) (s : State) (a : Action) : Prop :=
  leftOut s a = [] ∧ Served policy s a
deriving Decidable

/-! ### One target of a batch -/

/-- What the public ids are only matters if they are taken. -/
theorem createDeployment_eq_error_of_ids {now : Time} {db : Db} {r : Db × ℕ} {e : Err}
    {configurationVersion version : ℕ}
    {current deploymentId operationId deploymentId' operationId' : String}
    (h : createDeployment policy now db x configurationVersion version current deploymentId
      operationId = .ok r)
    (he : createDeployment policy now db x configurationVersion version current deploymentId'
      operationId' = .error e) : e = .publicIDCollision := by
  simp only [createDeployment, ok_iff] at h
  obtain ⟨principalId, hp, j, hj, _, hc, -⟩ := h
  have hj' : returnedDeployment db (x.request principalId configurationVersion version current
      deploymentId' operationId') = .ok j := hj
  simp only [createDeployment, hp, hj', ok_bind, bind_eq_error, pure_ne_error, and_false,
    exists_false, or_false] at he
  simp only [Store.createDeployment, bind_eq_ok] at hc
  obtain ⟨existing, hexisting, hc⟩ := hc
  have hexisting' : Store.operationByPrincipalIdempotency db
      (x.request principalId configurationVersion version current deploymentId'
        operationId').workspaceId principalId x.target.key
      (x.request principalId configurationVersion version current deploymentId'
        operationId').payloadHash = .ok existing := hexisting
  simp only [Store.createDeployment] at he
  change (Store.operationByPrincipalIdempotency db _ principalId x.target.key _ >>= _) = _ at he
  rw [hexisting', ok_bind] at he
  cases existing with
  | some => cases he
  | none => exact Store.deploy_eq_error_of_ids hc he

/-- The worker has the target, as it has read it, before it; and if it is about to create the
deployment of the target, it has just read its environment. -/
structure Coming (s : State) (w : ℕ) (now : Time) (x : TargetSnapshot) : Prop where
  clock : s.store.now = now
  row : s.targets.lookup x.id = some x.target
  mem : x ∈ (s.workers w).snapshots
  own : ∀ y ∈ (s.workers w).snapshots, y.id = x.id → y = x
  deploy : ∀ configurationVersion version current rest,
    s.workers w = .deploy x configurationVersion version current rest →
    x.target.status = .deployPending ∧ ∃ e ae, findAppEnvironment s.store.db x = .ok (e, ae) ∧
      configurationVersion = ae.configurationVersion ∧ version = ae.version ∧
      current = Store.currentDeploymentPublicId s.store.db ae
  attach : ∀ d rest, s.workers w = .attach x d rest → x.target.status = .deployPending

section Turn

variable {now : Time}

/-- The worker goes on with the rest of its batch. -/
theorem Coming.of_loop (hclock : s.store.now = now) (hrow : s.targets.lookup x.id = some x.target)
    (hw : s.workers w = .loop rest) (hx : x ∈ rest) (hown : ∀ y ∈ rest, y.id = x.id → y = x) :
    Coming s w now x where
  clock := hclock
  row := hrow
  mem := by
    rw [hw]
    exact hx
  own := by
    rw [hw]
    exact hown
  deploy _ _ _ _ h := by
    rw [hw] at h
    cases h
  attach _ _ h := by
    rw [hw] at h
    cases h

theorem TargetSnapshot.mark_of_deployPending (h : x.target.status = .deployPending) :
    x.mark = none := by
  unfold TargetSnapshot.mark
  rw [h]

/-- It is the turn of the target. -/
theorem Coming.begin_self (h : Coming s w now x) (hw : s.workers w = .loop (x :: rest))
    (he : Enabled policy s x) :
    (∃ t', (begin s w x rest).targets.lookup x.id = some t' ∧ Performed now x x.target t') ∨
      Coming (begin s w x rest) w now x := by
  have hown := h.own
  rw [hw] at hown
  unfold begin
  split
  · next hs =>
    rcases he with hm | ⟨-, e, ae, -, -, -, hf, -⟩
    · exact absurd (TargetSnapshot.mark_of_deployPending hs) hm
    · rw [hf]
      refine .inr ⟨h.clock, h.row, ?_, ?_, fun _ _ _ _ hd => ?_, fun _ _ ha => ?_⟩
      · rw [State.setPhase_self]
        exact List.mem_cons_self
      · rw [State.setPhase_self]
        exact hown
      · cases (State.setPhase_self ..).symm.trans hd
        exact ⟨hs, e, ae, hf, rfl, rfl, rfl⟩
      · exact absurd ((State.setPhase_self ..).symm.trans ha) nofun
  · next hs =>
    obtain ⟨⟨status, code, message⟩, hm⟩ :=
      Option.ne_none_iff_exists'.mp (he.resolve_right fun hd => hs hd.1)
    have hmark : markDeliveryTarget s.store.now s.targets x.id status code message =
        .ok (s.targets.modify (fun j _ => j = x.id)
          (markRow s.store.now status code message)) := by
      simp only [markDeliveryTarget, h.row, expect, ok_bind]
      rfl
    refine .inl ⟨markRow s.store.now status code message x.target, ?_, ?_⟩
    · simp only [hm, State.transact, hmark]
      exact lookup_modify_of_pos h.row rfl
    · simp only [Performed, hm, h.clock]

/-- It is the turn of another target. -/
theorem Coming.advance_other (h : Coming s w now x) (policy)
    (deploymentPublicId operationPublicId : String)
    (hbatch : (s.workers w).snapshots = y :: rest) (hy : y.id ≠ x.id)
    (hne : (Delivery.advance policy s w deploymentPublicId operationPublicId).workers w ≠ .idle) :
    Coming (Delivery.advance policy s w deploymentPublicId operationPublicId) w now x := by
  have hx : x ∈ y :: rest := hbatch ▸ h.mem
  have hmem : x ∈ ((Delivery.advance policy s w deploymentPublicId
      operationPublicId).workers w).snapshots := by
    rcases advance_workers policy deploymentPublicId operationPublicId hbatch with hw | hw | hw
    · exact absurd hw hne
    · rw [hw]
      exact (List.mem_cons.mp hx).resolve_left fun hxy => hy (congrArg _ hxy.symm)
    · rw [hw]
      exact hx
  rcases advance_cases policy s w deploymentPublicId operationPublicId with ha | ha
  · generalize Delivery.advance policy s w deploymentPublicId operationPublicId = s' at ha hmem
    refine ⟨?_, ?_, hmem, fun z hz => h.own z (ha.snapshots hz), fun _ _ _ _ hd => ?_,
      fun _ _ hd => ?_⟩
    · cases ha <;> exact h.clock
    · cases ha with
      | mark _ _ _ _ _ hw =>
        rw [hw] at hbatch
        cases hbatch
        exact lookup_modify_of_neg h.row fun heq => hy heq.symm
      | attach _ _ _ hw =>
        rw [hw] at hbatch
        cases hbatch
        exact lookup_modify_of_neg h.row fun hp => hy hp.1.symm
      | _ => exact h.row
    · cases ha with
      | skip _ hp =>
        rw [State.setPhase_self] at hd
        rcases hp with rfl | ⟨_, rfl, -⟩ <;> cases hd
      | read _ _ _ _ _ hw =>
        cases (State.setPhase_self ..).symm.trans hd
        rw [hw] at hbatch
        cases hbatch
        exact absurd rfl hy
      | _ => exact absurd ((State.setPhase_self ..).symm.trans hd) nofun
    · cases ha with
      | skip _ hp =>
        rw [State.setPhase_self] at hd
        rcases hp with rfl | ⟨_, rfl, -⟩ <;> cases hd
      | create _ _ _ _ _ _ _ _ _ _ hw =>
        cases (State.setPhase_self ..).symm.trans hd
        rw [hw] at hbatch
        cases hbatch
        exact absurd rfl hy
      | _ => exact absurd ((State.setPhase_self ..).symm.trans hd) nofun
  · rw [ha]
    exact h

/-- **A worker with nothing in its way performs the step of the target, or has it before it.** -/
theorem Coming.advance {deploymentPublicId operationPublicId : String} (h : Coming s w now x)
    (hclaims : ClaimsIndexed s)
    (hg : GoesThrough policy s (.advance w deploymentPublicId operationPublicId))
    (he : Enabled policy s x) :
    (∃ t', (Delivery.advance policy s w deploymentPublicId operationPublicId).targets.lookup
        x.id = some t' ∧ Performed now x x.target t') ∨
      Coming (Delivery.advance policy s w deploymentPublicId operationPublicId) w now x := by
  have hne := advance_ne_idle hclaims hg.2 h.mem
  obtain ⟨y, rest, hbatch⟩ := List.exists_cons_of_ne_nil (List.ne_nil_of_mem h.mem)
  by_cases hy : y.id = x.id
  · obtain rfl := h.own y (hbatch ▸ List.mem_cons_self) hy
    have hown := h.own
    cases hw : s.workers w <;> rw [hw] at hbatch hown <;> cases hbatch
    · simp only [Delivery.advance, hw]
      exact h.begin_self hw he
    · obtain ⟨hs, e, ae, hf, rfl, rfl, rfl⟩ := h.deploy _ _ _ _ hw
      obtain ⟨-, e', ae', dp, op, r, hf', hc⟩ := he.resolve_left fun hm =>
        hm (TargetSnapshot.mark_of_deployPending hs)
      cases hf.symm.trans hf'
      simp only [Delivery.advance, hw] at hne ⊢
      split
      · refine .inr ⟨h.clock, h.row, ?_, ?_, fun _ _ _ _ hd => ?_, fun _ _ _ => hs⟩
        · rw [State.setPhase_self]
          exact List.mem_cons_self
        · rw [State.setPhase_self]
          exact hown
        · cases (State.setPhase_self ..).symm.trans hd
      · -- only ids that are taken could be in the way, and then the worker would give up
        next err hok =>
        obtain rfl := createDeployment_eq_error_of_ids hc hok
        rw [hok] at hne
        exact absurd (State.setPhase_self ..) hne
    · next d =>
      have hs := h.attach d rest hw
      simp only [Delivery.advance, hw, State.transact,
        attachDeliveryDeployment_of_pending d h.row hs]
      refine .inl ⟨attachRow d y.target, lookup_modify_of_pos h.row ⟨rfl, hs⟩, ?_⟩
      simp only [Performed, TargetSnapshot.mark_of_deployPending hs]
      exact ⟨d, rfl⟩
  · exact .inr (h.advance_other policy _ _ hbatch hy hne)

end Turn

/-! ### One call -/

/-- **A worker that comes to the end of its batch has performed the step.** -/
theorem Coming.run {now : Time} (ids : List (String × String)) (h : Coming s w now x)
    (hclaims : ClaimsIndexed s)
    (hg : Guarded (step policy) (GoesThrough policy) s (advances w ids))
    (hidle : (run (step policy) s (advances w ids)).workers w = .idle)
    (he : ∀ pre post, advances w ids = pre ++ post →
      (run (step policy) s pre).targets.lookup x.id = some x.target →
      Enabled policy (run (step policy) s pre) x) :
    ∃ pre post t', advances w ids = pre ++ post ∧
      (run (step policy) s pre).targets.lookup x.id = some t' ∧
      Performed now x x.target t' := by
  induction ids generalizing s with
  | nil =>
    have hmem := h.mem
    rw [show s.workers w = .idle from hidle] at hmem
    exact absurd hmem List.not_mem_nil
  | cons p ids ih =>
    rcases h.advance hclaims hg.1 (he [] _ rfl h.row) with ⟨t', hl, hp⟩ | hnext
    · exact ⟨[.advance w p.1 p.2], advances w ids, t', rfl, hl, hp⟩
    · obtain ⟨pre, post, t', heq, hl, hp⟩ := ih hnext
        (hclaims.step policy (.advance w p.1 p.2)) hg.2 hidle fun pre post heq =>
          he (.advance w p.1 p.2 :: pre) post (congrArg (_ :: ·) heq)
      exact ⟨.advance w p.1 p.2 :: pre, post, t', congrArg (_ :: ·) heq, hl, hp⟩

/-- A worker that has read every target that is open has it before it. -/
theorem coming_poll (policy) (hl : s.targets.lookup i = some t)
    (ho : t.Open) (hg : leftOut s (.poll w) = []) :
    Coming (step policy s (.poll w)) w s.store.now (snapshot s.store.db s.builds i t) := by
  have hw : (step policy s (.poll w)).workers w =
      .loop (deliveryTargetsToAdvance s.store.db s.builds s.targets) := State.setPhase_self ..
  refine .of_loop rfl hl hw ?_ fun y hy hid => ?_
  · have hmem : (i, t) ∈ s.targets.select fun _ t => t.Open := mem_select.mpr ⟨hl, ho⟩
    rw [← List.take_append_drop 50 (s.targets.select fun _ t => t.Open),
      show (s.targets.select fun _ t => t.Open).drop 50 = [] from hg, List.append_nil] at hmem
    exact List.mem_map_of_mem hmem
  · obtain ⟨j, t', ⟨hl', -⟩, rfl⟩ := mem_deliveryTargetsToAdvance hy
    obtain rfl : j = i := hid
    cases hl'.symm.trans hl
    rfl

/-- **Targets are isolated from each other**, and one call is enough, in every run in which workers
read all the targets that are open and nothing is in their way. -/
theorem isolated_of_goesThrough (policy : PublicationPolicy) (s₀ : State) (acts : List Action)
    (h₀ : Initial s₀) (hg : Guarded (step policy) (GoesThrough policy) s₀ acts) :
    Isolated 1 policy s₀ acts := by
  rintro before w calls after rfl hlength hidle hcomplete i t hl ho x rfl he
  obtain ⟨ids, rfl⟩ := List.length_eq_one_iff.mp hlength
  have hcalls : [ids].flatMap (call w) = .poll w :: advances w ids := List.append_nil _
  rw [hcalls] at hg he ⊢
  obtain ⟨-, hcall⟩ := guarded_append.mp hg
  obtain ⟨hpoll, hrest⟩ := hcall
  have hclaims : ClaimsIndexed (run (step policy) s₀ before) :=
    run_induction (h₀.claimsIndexed policy) fun _ a h => h.step policy a
  obtain ⟨pre, post, t', heq, hl', hp⟩ := (coming_poll policy hl ho hpoll.1).run ids
    (hclaims.step policy (.poll w)) (guarded_append.mp hrest).1 hcomplete.1 fun pre post heq hrow => by
      have hnow := he (.poll w :: pre) post (congrArg (_ :: ·) heq)
      rw [run_append] at hnow
      exact hnow hrow
  refine ⟨.poll w :: pre, post, t', congrArg (_ :: ·) heq, ?_, hp⟩
  rw [run_append]
  exact hl'

/-- The target a push makes in the environment `env-two`. -/
def secondTarget : TargetRequest :=
  { targetRequest 2 "two" with
    delivery := ⟨2, "two", 100, 56⟩
    candidate := ⟨1, 1, 2, 2, "env-two", "main", 1⟩ }

/-- A push to each of two environments; both builds succeed. -/
def twoPushes : List Action :=
  [.store (.createAppEnvironment (Store.newEnvironment "env-one" [])),
    .store (.createAppEnvironment
      { Store.newEnvironment "env-two" [] with appPublicId := "app-two" }),
    .createTarget (targetRequest 1 "one"), .claimNextBuild "builder-one" 60,
    .completeBuild 1 "rel-push-one" smallImage, .createTarget secondTarget,
    .claimNextBuild "builder-one" 60, .completeBuild 2 "rel-push-two" smallImage]

theorem isolated_twoPushes :
    (Initial smallDelivery ∧ Guarded (step Store.smallPolicy)
      (GoesThrough Store.smallPolicy) smallDelivery
      (twoPushes ++ ([[("", ""), ("", ""), ("", "")]].flatMap (call 0) ++ []))) ∧
    (run (step Store.smallPolicy) smallDelivery
      (twoPushes ++ call 0 [("", ""), ("", ""), ("", "")])).targets.Any
        (fun i t => i = 2 ∧ t.status = .deployPending) ∧
    Isolated 1 Store.smallPolicy smallDelivery
      (twoPushes ++ ([[("", ""), ("", ""), ("", "")]].flatMap (call 0) ++ [])) :=
  ⟨⟨smallDelivery_initial, by decide +kernel⟩, by decide +kernel,
    isolated_of_goesThrough Store.smallPolicy smallDelivery _ smallDelivery_initial
      (by decide +kernel)⟩

/-! ### A target that is never reached -/

/-- A push to `env-one` is built, and then the environment is deleted. A worker marks the target
`DeployPending`. Then a push to `env-two` is built. -/
def archivedRun : List Action :=
  [.store (.createAppEnvironment (Store.newEnvironment "env-one" [])),
    .store (.createAppEnvironment
      { Store.newEnvironment "env-two" [] with appPublicId := "app-two" }),
    .createTarget (targetRequest 1 "one"), .claimNextBuild "builder-one" 60,
    .completeBuild 1 "rel-push-one" smallImage,
    .store (.deleteAppEnvironment ⟨1, 1, "env-one", 1, sha256 "delete", sha256 "delete",
      "op-delete"⟩),
    .store (.claimNext "agent:cls-one" "cls-one" 60), .store (.handleResult 1 Store.goodResult),
    .poll 0, .advance 0 "" "", .advance 0 "" "", .createTarget secondTarget,
    .claimNextBuild "builder-one" 60, .completeBuild 2 "rel-push-two" smallImage]

section Stuck

variable (hidle : s.workers w = .idle)
  (hbatch : deliveryTargetsToAdvance s.store.db s.builds s.targets = y :: rest)
  (hs : y.target.status = .deployPending)
  (hf : findAppEnvironment s.store.db y = .error .notFound)

include hidle hs hf in
/-- A worker that comes to a target in an archived environment gives up, and nothing has
changed. -/
theorem advance_stuck (policy) :
    step policy (s.setPhase w (.loop (y :: rest))) (.advance w "" "") = s := by
  have herror : findAppEnvironment (s.setPhase w (.loop (y :: rest))).store.db y =
      .error .notFound := hf
  simp only [step, advance, State.setPhase_self, begin, if_pos hs, herror]
  simp only [State.setPhase, Function.update_idem]
  change { s with workers := Function.update s.workers w .idle } = s
  rw [← hidle, Function.update_eq_self]

include hbatch in
theorem poll_stuck (policy) (h : s₁ = s ∨ s₁ = s.setPhase w (.loop (y :: rest))) :
    step policy s₁ (.poll w) = s.setPhase w (.loop (y :: rest)) := by
  rcases h with rfl | rfl
  · simp only [step, hbatch]
  · change (s.setPhase w (.loop (y :: rest))).setPhase w
      (.loop (deliveryTargetsToAdvance s.store.db s.builds s.targets)) = _
    simp only [hbatch, State.setPhase, Function.update_idem]

include hidle hbatch hs hf

/-- However often it is called, nothing changes. -/
theorem run_stuck (policy) {acts : List Action}
    (hacts : ∀ a ∈ acts, a = .poll w ∨ a = .advance w "" "") :
    run (step policy) s acts = s ∨
      run (step policy) s acts = s.setPhase w (.loop (y :: rest)) := by
  refine guarded_run_induction
    (I := fun s₁ => s₁ = s ∨ s₁ = s.setPhase w (.loop (y :: rest)))
    (G := fun _ a => a = .poll w ∨ a = .advance w "" "") (.inl rfl) ?_
    (guarded_of_forall fun a ha _ => hacts a ha)
  rintro s₁ a h (rfl | rfl)
  · exact .inr (poll_stuck hbatch policy h)
  · refine .inl ?_
    rcases h with rfl | rfl
    · simp only [step, advance, hidle]
    · exact advance_stuck hidle hs hf policy

theorem complete_stuck (policy) (n : ℕ) :
    Complete policy w s (List.replicate n [("", "")]) := by
  have hcall : run (step policy) s (call w [("", "")]) = s := by
    change step policy (step policy s (.poll w)) (.advance w "" "") = s
    rw [poll_stuck hbatch policy (.inl rfl), advance_stuck hidle hs hf policy]
  induction n with
  | zero => trivial
  | succ _ ih =>
    rw [List.replicate_succ]
    refine ⟨?_, ?_⟩
    · rw [hcall]
      exact hidle
    · rw [hcall]
      exact ih

/-- A target behind that one waits for ever. -/
theorem not_isolated_of_stuck (policy) {s₀ : State} {before : List Action}
    (hrun : run (step policy) s₀ before = s) (hl : s.targets.lookup i = some t)
    (hstatus : t.status = .building)
    (hm : (snapshot s.store.db s.builds i t).mark = some (.deployPending, "", "")) (n : ℕ) :
    ∃ acts, ¬ Isolated n policy s₀ acts := by
  refine ⟨before ++ ((List.replicate n [("", "")]).flatMap (call w) ++ []), fun h => ?_⟩
  obtain ⟨pre, post, t', heq, hl', hp⟩ := h before w (List.replicate n [("", "")]) [] rfl
    List.length_replicate (by rw [hrun]; exact hidle)
    (by rw [hrun]; exact complete_stuck hidle hbatch hs hf policy n) i t (by rw [hrun]; exact hl)
    (.inl hstatus) (snapshot s.store.db s.builds i t) (by rw [hrun])
    fun _ _ _ _ => .inl (by rw [hm]; nofun)
  have hacts : ∀ a ∈ pre, a = .poll w ∨ a = .advance w "" "" := by
    intro a ha
    have hmem : a ∈ (List.replicate n [("", "")]).flatMap (call w) := by
      rw [heq]
      exact List.mem_append_left post ha
    obtain ⟨_, hids, ha⟩ := List.mem_flatMap.mp hmem
    rw [List.eq_of_mem_replicate hids] at ha
    simpa [call, advances] using ha
  rw [run_append, hrun] at hl'
  obtain rfl : t' = t := by
    rcases run_stuck hidle hbatch hs hf policy hacts with hsame | hsame <;> rw [hsame] at hl' <;>
      exact Option.mem_unique hl' hl
  simp only [Performed, hm] at hp
  have hpending := congrArg Target.status hp
  rw [hstatus] at hpending
  cases hpending

end Stuck

/-- The target in `env-two` waits for ever: no number of calls is enough. -/
theorem not_isolated_archivedRun :
    Initial smallDelivery ∧ ∀ n, ∃ acts, ¬ Isolated n Store.smallPolicy smallDelivery acts := by
  refine ⟨smallDelivery_initial, fun n => ?_⟩
  have hbatch : ∃ y rest, deliveryTargetsToAdvance
      (run (step Store.smallPolicy) smallDelivery archivedRun).store.db
      (run (step Store.smallPolicy) smallDelivery archivedRun).builds
      (run (step Store.smallPolicy) smallDelivery archivedRun).targets = y :: rest ∧
      y.target.status = .deployPending ∧
      findAppEnvironment (run (step Store.smallPolicy) smallDelivery
        archivedRun).store.db y = .error .notFound := by
    refine ⟨_, _, rfl, by decide +kernel, by decide +kernel⟩
  have hrow : ∃ t ∈ (run (step Store.smallPolicy) smallDelivery
      archivedRun).targets.lookup 2, t.status = .building ∧
      (snapshot (run (step Store.smallPolicy) smallDelivery archivedRun).store.db
        (run (step Store.smallPolicy) smallDelivery archivedRun).builds 2 t).mark =
          some (.deployPending, "", "") := by decide +kernel
  obtain ⟨y, rest, hbatch, hs, hf⟩ := hbatch
  obtain ⟨t, hl, hstatus, hm⟩ := hrow
  exact not_isolated_of_stuck (w := 1) rfl hbatch hs hf Store.smallPolicy rfl hl hstatus hm n

end Molejo.Delivery
