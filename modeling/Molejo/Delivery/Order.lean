import Molejo.Delivery.Worker

/-!
# The order of deliveries

Deliveries to one environment are made in the order of its targets, and the workers go
through their batches in that order. But the deployment of a target is refused while
an operation of the environment is active, and a worker that is refused goes on with
the next target of its batch. If the operation ends in between, the later target is
deployed first, and the earlier one with the next batch: the environment goes back to
an older commit.

What a worker knows may be out of date, and two workers may advance the same target.
This does no harm, since no deployment is created for a target that is settled. So it
is enough that a deployment is created only when every earlier target of the
environment is settled or past `Building` and `DeployPending` (`Orderly`), which is so if
workers wait for that before they ask for one (`WaitsTurn`).
-/

namespace Molejo.Delivery

open Transaction Table Transition

variable {policy : PublicationPolicy} {s : State} {a : Action} {i : ℕ} {t : Target}

/-! ### In order -/

/-- **Deliveries are deployed in order**: after a deployment for a target was created, none is
created for an earlier target of the environment. -/
def InOrder (policy : PublicationPolicy) (s₀ : State) (acts : List Action) : Prop :=
  ∀ before a between b after, acts = before ++ a :: (between ++ b :: after) →
    ∀ t₂ ∈ deploysFor policy (run (step policy) s₀ before) a,
    ∀ t₁ ∈ deploysFor policy (run (step policy) s₀ (before ++ a :: between)) b,
    ∀ T₁ T₂,
      (run (step policy) s₀ (before ++ a :: between)).targets.lookup t₁ = some T₁ →
      (run (step policy) s₀ (before ++ a :: between)).targets.lookup t₂ = some T₂ →
      T₁.appEnvironmentId = T₂.appEnvironmentId → ¬ t₁ < t₂

/-- An earlier target of the environment is `Building` or `DeployPending`, and the key of its
deployment was not used. -/
def Overtakes (s : State) (t₂ : ℕ) (T₂ : Target) : Prop :=
  s.targets.Any fun t₁ T₁ => t₁ < t₂ ∧ T₁.appEnvironmentId = T₂.appEnvironmentId ∧
    (T₁.status = .building ∨ T₁.status = .deployPending) ∧ ¬ KeyUsed s.store.db T₁
deriving Decidable

/-- The step does not create a deployment for a target that overtakes another. -/
def Orderly (policy : PublicationPolicy) (s : State) (a : Action) : Prop :=
  ∀ t₂ ∈ deploysFor policy s a, ∀ T₂ ∈ s.targets.lookup t₂, ¬ Overtakes s t₂ T₂
deriving Decidable

/-- A worker that is about to ask for a deployment, whether it will get it or not, overtakes no other
target. -/
def WaitsTurn (s : State) (a : Action) : Prop :=
  ∀ q ∈ creates s a, ∀ T₂ ∈ s.targets.lookup q.1.id, ¬ Overtakes s q.1.id T₂
deriving Decidable

theorem WaitsTurn.orderly (h : WaitsTurn s a) (policy : PublicationPolicy) :
    Orderly policy s a := by
  intro t₂ ht₂
  cases a with
  | advance w deploymentPublicId operationPublicId =>
    simp only [deploysFor] at ht₂
    split at ht₂
    · next x configurationVersion _ _ _ hw =>
      have hcreates : creates s (.advance w deploymentPublicId operationPublicId) =
          some (x, configurationVersion, deploymentPublicId, operationPublicId) := by
        simp only [creates, hw]
      split at ht₂
      · split at ht₂
        · cases ht₂
        · cases ht₂
          exact h _ hcreates
      · cases ht₂
    · cases ht₂
  | _ => cases ht₂

/-! ### In every run -/

/-- Every target of the environment of `i` before it is settled. -/
structure SettledBefore (s : State) (i e : ℕ) : Prop where
  row : ∃ t, s.targets.lookup i = some t ∧ t.appEnvironmentId = e
  settled : ∀ j t, j < i → s.targets.lookup j = some t → t.appEnvironmentId = e → Settled s t

theorem TargetStep.appEnvironmentId {s' : State} {t' : Target} (h : TargetStep s a s' i t t') :
    t'.appEnvironmentId = t.appEnvironmentId :=
  (congrArg Target.appEnvironmentId h.core :)

theorem SettledBefore.step {e : ℕ} (h : SettledBefore s i e) (policy)
    (a : Action) : SettledBefore (step policy s a) i e where
  row := by
    obtain ⟨_, ht, he⟩ := h.row
    obtain ⟨t', ht', hstep⟩ := step_target policy a ht
    exact ⟨t', ht', hstep.appEnvironmentId.trans he⟩
  settled j t hj ht he := by
    rcases (step_targets policy s a).cases ht with ⟨t₀, hl, hstep⟩ | ⟨hnew, -⟩
    · have hset := h.settled j t₀ hj hl (hstep.appEnvironmentId.symm.trans he)
      exact (hset.step policy a).of_core hstep.core
    · -- a new target comes after `i`
      obtain ⟨_, hi, -⟩ := h.row
      have hlt := lt_nextId hi
      omega

/-- When the guard lets a deployment pass, everything before its target is settled. -/
theorem DeliverySound.settledBefore (h : DeliverySound s) (hg : Orderly policy s a)
    (hd : deploysFor policy s a = some i) :
    ∃ e, SettledBefore s i e := by
  obtain ⟨w, x, _, _, _, _, _, _, _, _, hw, rfl, -⟩ := deploysFor_cases hd
  have hx : Known s x := (h.phase w).known x (by rw [hw]; exact List.mem_cons_self)
  obtain ⟨t, ht, -⟩ := hx.row
  refine ⟨t.appEnvironmentId, ⟨t, ht, rfl⟩, fun j t₁ hj hlj he => ?_⟩
  by_contra hset
  refine hg x.id hd t ht
    (any_iff.mpr ⟨j, t₁, hlj, hj, he, ?_, fun hk => hset (.inl hk)⟩)
  rcases (h.target j t₁ hlj).settled with hb | hp | hs
  · exact .inl hb
  · exact .inr hp
  · exact absurd hs hset

theorem Initial.deliverySound_run (h₀ : Initial s) (policy) (acts : List Action) :
    DeliverySound (run (step policy) s acts) :=
  run_induction h₀.deliverySound fun _ a h => h.step policy a

/-- Once everything before a target is settled, it stays so. -/
theorem inOrder_of_settledBefore (policy) {s₀ : State} {acts : List Action} (h₀ : Initial s₀)
    (h : ∀ before a after, acts = before ++ a :: after →
      ∀ i ∈ deploysFor policy (run (step policy) s₀ before) a,
        ∃ e, SettledBefore (run (step policy) s₀ before) i e) : InOrder policy s₀ acts := by
  rintro before a between b after hacts t₂ ht₂ t₁ ht₁ T₁ T₂ hl₁ hl₂ henv hlt
  obtain ⟨e, hbefore⟩ := h before a _ hacts t₂ ht₂
  have hlatch : SettledBefore (run (step policy) s₀ (before ++ a :: between)) t₂ e := by
    rw [run_append, run_cons]
    exact run_induction (I := fun s => SettledBefore s t₂ e) (hbefore.step policy a)
      fun _ a h => h.step policy a
  obtain ⟨T, hT, he⟩ := hlatch.row
  cases hl₂.symm.trans hT
  exact (h₀.deliverySound_run policy _).not_settled ht₁ hl₁
    (hlatch.settled t₁ T₁ hlt hl₁ (henv.trans he))

/-- **Deliveries are deployed in order** in every run in which no target overtakes one that is
waiting. -/
theorem inOrder_of_orderly (policy : PublicationPolicy) (s₀ : State) (acts : List Action)
    (h₀ : Initial s₀) (hg : Guarded (step policy) (Orderly policy) s₀ acts) :
    InOrder policy s₀ acts := by
  refine inOrder_of_settledBefore policy h₀ ?_
  rintro before a after rfl i hi
  exact (h₀.deliverySound_run policy before).settledBefore (guarded_append.mp hg).2.1 hi

/-- So they are if workers wait until it is the turn of a target. -/
theorem inOrder_of_waitsTurn (policy : PublicationPolicy) (s₀ : State) (acts : List Action)
    (h₀ : Initial s₀) (hg : Guarded (step policy) WaitsTurn s₀ acts) : InOrder policy s₀ acts := by
  refine inOrder_of_settledBefore policy h₀ ?_
  rintro before a after rfl i hi
  exact (h₀.deliverySound_run policy before).settledBefore
    ((guarded_append.mp hg).2.1.orderly policy) hi

/-- Two pushes, one after the other; the second is built while the first is deployed. -/
def orderlyDeliveryRun : List Action :=
  [.store (.createAppEnvironment (Store.newEnvironment "env-one" [])),
    .createTarget (targetRequest 1 "one"), .claimNextBuild "builder-one" 60,
    .completeBuild 1 "rel-push-one" smallImage, .poll 0, .advance 0 "" "",
    .poll 0, .advance 0 "" "", .advance 0 "dep-push-one" "op-push-one",
    .createTarget (targetRequest 2 "two"), .advance 0 "" "", .claimNextBuild "builder-one" 60,
    .completeBuild 2 "rel-push-two" smallImage,
    .store (.claimNext "agent:cls-one" "cls-one" 60),
    .store (.handleResult 1 (deployed "rel-push-one" 2)),
    .poll 0, .advance 0 "" "", .advance 0 "" "", .poll 0, .advance 0 "" "",
    .advance 0 "dep-push-two" "op-push-two"]

theorem inOrder_orderlyDeliveryRun :
    (Initial smallDelivery ∧ Guarded (step Store.smallPolicy)
      (Orderly Store.smallPolicy) smallDelivery orderlyDeliveryRun) ∧
    (run (step Store.smallPolicy) smallDelivery
      orderlyDeliveryRun).store.db.deployments.Any
        (fun i d => i = 2 ∧ d.publicId = "dep-push-two") ∧
    InOrder Store.smallPolicy smallDelivery orderlyDeliveryRun :=
  ⟨⟨smallDelivery_initial, by decide +kernel⟩, by decide +kernel,
    inOrder_of_orderly Store.smallPolicy smallDelivery orderlyDeliveryRun smallDelivery_initial
      (by decide +kernel)⟩

/-- Two pushes are built, and a user deploys something else. A worker has read both targets; the
deployment of the first is refused. Then the user's deployment ends, and the worker goes on with
the second target. -/
def overtaking : List Action :=
  [.store (.createAppEnvironment (Store.newEnvironment "env-one" [])),
    .createTarget (targetRequest 1 "one"), .claimNextBuild "builder-one" 60,
    .completeBuild 1 "rel-push-one" smallImage,
    .createTarget (targetRequest 2 "two"), .claimNextBuild "builder-one" 60,
    .completeBuild 2 "rel-push-two" smallImage, .poll 0, .advance 0 "" "", .advance 0 "" "",
    .store (.createDeployment (Store.firstDeployment "env-one" 1)),
    .poll 0, .advance 0 "" "", .advance 0 "dep-push-one" "op-push-one",
    .store (.claimNext "agent:cls-one" "cls-one" 60),
    .store (.handleResult 1 (deployed "rel-one" 2)), .advance 0 "" ""]

/-- The deployment of the second target ends, and the worker reads the next batch. -/
def afterOvertaking : List Action :=
  [.advance 0 "" "", .store (.claimNext "agent:cls-one" "cls-one" 60),
    .store (.handleResult 2 (deployed "rel-push-two" 3)), .poll 0, .advance 0 "" ""]

/-- The second target is deployed first, and then the first. -/
theorem not_inOrder_overtaking :
    Initial smallDelivery ∧
    ¬ InOrder Store.smallPolicy smallDelivery
      (overtaking ++ .advance 0 "dep-push-two" "op-push-two" ::
        (afterOvertaking ++ .advance 0 "dep-push-one" "op-push-one" :: [])) := by
  refine ⟨smallDelivery_initial, fun h => ?_⟩
  have hrows :
      ∃ T₁ ∈ (run (step Store.smallPolicy) smallDelivery (overtaking ++
        .advance 0 "dep-push-two" "op-push-two" :: afterOvertaking)).targets.lookup 1,
      ∃ T₂ ∈ (run (step Store.smallPolicy) smallDelivery (overtaking ++
        .advance 0 "dep-push-two" "op-push-two" :: afterOvertaking)).targets.lookup 2,
      T₁.appEnvironmentId = T₂.appEnvironmentId := by decide +kernel
  obtain ⟨T₁, h₁, T₂, h₂, henv⟩ := hrows
  exact h overtaking _ afterOvertaking _ [] rfl 2 (by decide +kernel) 1 (by decide +kernel) T₁ T₂
    h₁ h₂ henv (by decide)

end Molejo.Delivery
