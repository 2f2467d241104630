import Molejo.Delivery.Worker

/-!
# The life of a target

A target is `Building` until its build has ended, `DeployPending` until it has a
deployment, and `Deploying` until that has come to an end. The only statement that looks
at the status before it writes another is the one that attaches the deployment.
`MarkDeliveryTarget` writes what the worker has concluded from what it has read, and that
may have been long ago: if two workers have read that the build of a target has succeeded,
and the first of them has deployed it in the meantime, then the second puts it back to
`DeployPending`.

It is enough that a worker marks a target only while the target is as the worker has read
it, or is marked so already (`MarksCurrent`). What supersedes a target needs no such
condition: it looks for builds that wait, and the build of a target that is not `Building`
any more has ended (`BuildEnded`).
-/

namespace Molejo.Delivery

open Transaction Table Transition

variable {policy : PublicationPolicy} {s : State} {a : Action} {i : ℕ} {t t' : Target}
  {x : TargetSnapshot} {w : ℕ}

/-! ### Forward -/

/-- `Succeeded`, `Failed` or `Superseded`. -/
def TargetStatus.Terminal (status : TargetStatus) : Prop :=
  status = .succeeded ∨ status = .failed ∨ status = .superseded

/-- What may follow a status. -/
inductive TargetStatus.Next : TargetStatus → TargetStatus → Prop
  | built : Next .building .deployPending
  | buildFailed : Next .building .failed
  | buildSuperseded : Next .building .superseded
  | attached : Next .deployPending .deploying
  | ended (status : TargetStatus) (h : status.Terminal) : Next .deploying status

/-- **Targets only move forward.** -/
structure TargetsForward (policy : PublicationPolicy) (s₀ : State) (acts : List Action) :
    Prop where
  /-- A step leaves the status of a target as it is, or moves it to the next. -/
  forward : ∀ before a after, acts = before ++ a :: after → ∀ i t,
    (run (step policy) s₀ before).targets.lookup i = some t →
    ∃ t', (run (step policy) s₀ (before ++ [a])).targets.lookup i = some t' ∧
      (t'.status = t.status ∨ t.status.Next t'.status)
  /-- A terminal status never changes. -/
  terminal : ∀ before between after, acts = before ++ (between ++ after) → ∀ i t,
    (run (step policy) s₀ before).targets.lookup i = some t → t.status.Terminal →
    ∃ t', (run (step policy) s₀ (before ++ between)).targets.lookup i = some t' ∧
      t'.status = t.status
  /-- A target that is `Deploying` has a deployment, and keeps it. -/
  deployment : ∀ before between after, acts = before ++ (between ++ after) → ∀ i t,
    (run (step policy) s₀ before).targets.lookup i = some t → t.status = .deploying →
    ∃ d t', t.deploymentId = some d ∧
      (run (step policy) s₀ (before ++ between)).targets.lookup i = some t' ∧
      t'.deploymentId = some d

/-- The target an action marks, with the status its worker has read and the one it writes. -/
def marks (s : State) : Action → Option (ℕ × TargetStatus × TargetStatus)
  | .advance w _ _ =>
    match s.workers w with
    | .loop (x :: _) => x.mark.map fun m => (x.id, x.target.status, m.1)
    | _ => none
  | _ => none

/-- A target is only marked while it is as the worker has read it, or is marked so already. -/
def MarksCurrent (s : State) (a : Action) : Prop :=
  ∀ m ∈ marks s a, ∀ t ∈ s.targets.lookup m.1, t.status = m.2.1 ∨ t.status = m.2.2
deriving Decidable

/-! ### Builds that have ended -/

/-- The build of a target has ended. -/
def BuildEnded (builds : Table Build) (t : Target) : Prop :=
  BuildDone builds t ∨ BuildLost builds t

theorem BuildEnded.step (h : BuildEnded s.builds t) (policy) (a : Action) :
    BuildEnded (step policy s a).builds t :=
  h.imp (fun hd => hd.step policy a) fun hl => hl.step policy a

theorem BuildEnded.of_core {builds : Table Build} (hc : t'.core = t.core)
    (h : BuildEnded builds t) : BuildEnded builds t' :=
  h.imp (BuildDone.of_core hc) (BuildLost.of_core hc)

theorem BuildEnded.not_waits (h : BuildEnded s.builds t) : ¬ BuildWaits s.builds t := by
  rintro ⟨b, hb, hs⟩
  rcases h with ⟨c, hc, hd⟩ | ⟨c, hc, hd⟩
  all_goals
    cases hb.symm.trans hc
    simp [hs] at hd

/-- What is known of the stages of targets, besides what workers know. -/
structure Staged (s : State) : Prop where
  sound : DeliverySound s
  ended : ∀ i t, s.targets.lookup i = some t → t.status ≠ .building → BuildEnded s.builds t
  attached : ∀ i t, s.targets.lookup i = some t → t.status = .deploying → t.deploymentId ≠ none
  read : ∀ w, ∀ x ∈ (s.workers w).snapshots, x.target.status ≠ .building →
    BuildEnded s.builds x.target
  begun : ∀ w, ∀ x ∈ (s.workers w).snapshots, x.target.status ≠ .building →
    ∀ t, s.targets.lookup x.id = some t → t.status ≠ .building

theorem Initial.staged (h : Initial s) : Staged s where
  sound := h.deliverySound
  ended _ _ := of_lookup_empty h.targets
  attached _ _ := of_lookup_empty h.targets
  read w x hx := by
    rw [h.workers w] at hx
    cases hx
  begun w x hx := by
    rw [h.workers w] at hx
    cases hx

/-- A target is not marked `Building` or `Deploying`. -/
theorem TargetSnapshot.mark_ne {status : TargetStatus} {code message : String}
    (hm : x.mark = some (status, code, message)) : status ≠ .building ∧ status ≠ .deploying := by
  unfold TargetSnapshot.mark at hm
  split at hm
  · split at hm <;> cases hm <;> exact ⟨nofun, nofun⟩
  · split at hm <;> cases hm <;> exact ⟨nofun, nofun⟩
  · cases hm

/-- A target never goes back to `Building`. -/
theorem TargetStep.status_ne_building {s' : State} (h : TargetStep s a s' i t t')
    (hs : t.status ≠ .building) : t'.status ≠ .building := by
  cases h with
  | same => exact hs
  | mark _ _ _ _ _ _ _ _ _ hm => exact (TargetSnapshot.mark_ne hm).1
  | attach | supersede => nofun

/-- A worker that marks a target knows that its build has ended. -/
theorem Staged.buildEnded (h : Staged s) (hx : x ∈ (s.workers w).snapshots)
    {m : TargetStatus × String × String} (hm : x.mark = some m) :
    BuildEnded s.builds x.target := by
  have hknown := (h.sound.phase w).known x hx
  unfold TargetSnapshot.mark at hm
  split at hm
  · split at hm
    · next hb => exact .inl (hknown.done hb)
    · next hb => exact .inr (hknown.lost (.inl hb))
    · next hb => exact .inr (hknown.lost (.inr (.inl hb)))
    · next hb => exact .inr (hknown.lost (.inr (.inr hb)))
    · cases hm
  · next hs =>
    refine h.read w x hx ?_
    rw [hs]
    nofun
  · cases hm

/-- Whatever happens to a target, its build has ended if it is not `Building`. -/
theorem Staged.targetStep_ended (h : Staged s) (hl : s.targets.lookup i = some t)
    (hstep : TargetStep s a (step policy s a) i t t') (hs : t'.status ≠ .building) :
    BuildEnded (step policy s a).builds t' := by
  cases hstep with
  | same => exact (h.ended i t hl hs).step policy a
  | mark x w _ status code message _ hw hi hm =>
    subst hi
    have hx : x ∈ (s.workers w).snapshots := by
      rw [hw]
      exact List.mem_cons_self
    have hc := ((h.sound.phase w).known x hx).core_eq hl
    exact ((h.buildEnded hx hm).step policy a).of_core
      ((core_markRow s.store.now status code message t).trans hc)
  | attach _ _ j _ _ _ hstatus =>
    refine ((h.ended i t hl ?_).step policy a).of_core (core_attachRow j t)
    rw [hstatus]
    nofun
  | supersede _ hlost => exact .inr (hlost.of_core (core_supersedeTargetRow _ t))

theorem Staged.targetStep_attached (h : Staged s) (hl : s.targets.lookup i = some t)
    (hstep : TargetStep s a (step policy s a) i t t') (hs : t'.status = .deploying) :
    t'.deploymentId ≠ none := by
  cases hstep with
  | same => exact h.attached i t hl hs
  | mark _ _ _ _ _ _ _ _ _ hm =>
    exact absurd hs (TargetSnapshot.mark_ne hm).2
  | attach => nofun
  | supersede => cases hs

/-- **Every step keeps what is known of the stages.** -/
theorem Staged.step (h : Staged s) (policy) (a : Action) :
    Staged (step policy s a) where
  sound := h.sound.step policy a
  ended i t ht hs := by
    rcases (step_targets policy s a).cases ht with ⟨t₀, hl, hstep⟩ | ⟨-, hb⟩
    · exact h.targetStep_ended hl hstep hs
    · exact absurd hb hs
  attached i t ht hs := by
    rcases (step_targets policy s a).cases ht with ⟨t₀, hl, hstep⟩ | ⟨-, hb⟩
    · exact h.targetStep_attached hl hstep hs
    · rw [hs] at hb
      cases hb
  read w x hx hs := by
    rcases step_snapshots policy a hx with hx | ⟨i, t, hl, rfl⟩
    · exact (h.read w x hx hs).step policy a
    · exact (h.ended i t hl hs).step policy a
  begun w x hx hs t ht := by
    obtain ⟨t₀, hl, hs₀⟩ : ∃ t₀, s.targets.lookup x.id = some t₀ ∧ t₀.status ≠ .building := by
      rcases step_snapshots policy a hx with hx | ⟨_, t₀, hl, rfl⟩
      · obtain ⟨t₀, hl, -⟩ := ((h.sound.phase w).known x hx).row
        exact ⟨t₀, hl, h.begun w x hx hs t₀ hl⟩
      · exact ⟨t₀, hl, hs⟩
    have hstep := of_found (step_target policy a hl) ht
    exact hstep.status_ne_building hs₀

/-! ### A step moves forward -/

/-- What a worker makes of what it has read follows it. -/
theorem TargetSnapshot.next_of_mark {status : TargetStatus} {code message : String}
    (hm : x.mark = some (status, code, message)) : x.target.status.Next status := by
  unfold TargetSnapshot.mark at hm
  split at hm
  · next hs =>
    rw [hs]
    split at hm <;> cases hm
    exacts [.built, .buildFailed, .buildFailed, .buildSuperseded]
  · next hs =>
    rw [hs]
    split at hm <;> cases hm
    exacts [.ended _ (.inl rfl), .ended _ (.inr (.inl rfl))]
  · cases hm

theorem TargetStatus.Terminal.not_next {status status' : TargetStatus} (h : status.Terminal) :
    ¬ status.Next status' := by
  rcases h with rfl | rfl | rfl <;> nofun

/-- A target that has been deployed: neither `Building` nor `DeployPending`. -/
def TargetStatus.Past (status : TargetStatus) : Prop :=
  status ≠ .building ∧ status ≠ .deployPending

theorem TargetStatus.Past.next {status status' : TargetStatus} (h : status.Past)
    (hn : status.Next status') : status'.Past := by
  cases hn with
  | built | buildFailed | buildSuperseded => exact absurd rfl h.1
  | attached => exact absurd rfl h.2
  | ended _ ht => rcases ht with rfl | rfl | rfl <;> exact ⟨nofun, nofun⟩

/-- What happens to one target in a step that marks only what is current. -/
structure Moved (t t' : Target) : Prop where
  status : t'.status = t.status ∨ t.status.Next t'.status
  deployment : t.status.Past → t'.deploymentId = t.deploymentId

/-- **A step that marks only what is current moves every target forward.** -/
theorem Staged.moved (h : Staged s) (hg : MarksCurrent s a) (hl : s.targets.lookup i = some t)
    (hstep : TargetStep s a (Delivery.step policy s a) i t t') : Moved t t' := by
  cases hstep with
  | same => exact ⟨.inl rfl, fun _ => rfl⟩
  | mark x _ _ status _ _ ha hw hi hm =>
    subst hi
    refine ⟨?_, fun _ => rfl⟩
    have hmarks : marks s a = some (x.id, x.target.status, status) := by
      cases a with
      | advance =>
        cases ha
        simp only [marks, hw, hm, Option.map_some]
      | _ => cases ha
    rcases hg _ hmarks t hl with hs | hs
    · exact .inr (hs ▸ TargetSnapshot.next_of_mark hm)
    · exact .inl hs.symm
  | attach _ _ _ _ _ _ hs => exact ⟨.inr (hs ▸ .attached), fun hpast => absurd hs hpast.2⟩
  | supersede hwaits =>
    have hs : t.status = .building := by
      by_contra hne
      exact (h.ended i t hl hne).not_waits hwaits
    exact ⟨.inr (hs ▸ .buildSuperseded), fun hpast => absurd hs hpast.1⟩

/-! ### In every run -/

/-- What lasts of a target. -/
structure Onward (t t' : Target) : Prop where
  terminal : t.status.Terminal → t'.status = t.status
  past : t.status.Past → t'.status.Past ∧ t'.deploymentId = t.deploymentId

theorem Onward.moved {t'' : Target} (h : Onward t t') (hm : Moved t' t'') : Onward t t'' where
  terminal ht := by
    rcases hm.status with hs | hn
    · exact hs.trans (h.terminal ht)
    · rw [h.terminal ht] at hn
      exact absurd hn ht.not_next
  past hp := by
    obtain ⟨hp', hd⟩ := h.past hp
    refine ⟨?_, (hm.deployment hp').trans hd⟩
    rcases hm.status with hs | hn
    · exact hs ▸ hp'
    · exact hp'.next hn

/-- A run that marks only what is current moves every target on. -/
theorem Staged.run_onward (h : Staged s) (policy) (acts : List Action)
    (hg : Guarded (Delivery.step policy) MarksCurrent s acts)
    (hl : s.targets.lookup i = some t) :
    ∃ t', (run (Delivery.step policy) s acts).targets.lookup i = some t' ∧
      Onward t t' := by
  refine (guarded_run_induction (I := fun s' => Staged s' ∧ ∃ t',
    s'.targets.lookup i = some t' ∧ Onward t t') ?_ (fun s' a h hg => ?_) hg).2
  · exact ⟨h, t, hl, fun _ => rfl, fun hp => ⟨hp, rfl⟩⟩
  · obtain ⟨hs, _, hl', ho⟩ := h
    obtain ⟨t'', hl'', hstep⟩ := step_target policy a hl'
    exact ⟨hs.step policy a, t'', hl'', ho.moved (hs.moved hg hl' hstep)⟩

/-- **Targets only move forward** in every run in which they are marked only while they are as the
worker has read them. -/
theorem targetsForward_of_marksCurrent (policy : PublicationPolicy) (s₀ : State)
    (acts : List Action) (h₀ : Initial s₀)
    (hg : Guarded (step policy) MarksCurrent s₀ acts) :
    TargetsForward policy s₀ acts := by
  have hstaged (acts : List Action) : Staged (run (step policy) s₀ acts) :=
    run_induction (I := Staged) h₀.staged fun _ a h => h.step policy a
  refine ⟨?_, ?_, ?_⟩
  · rintro before a after rfl i t hl
    obtain ⟨t', hl', hstep⟩ := step_target policy a hl
    refine ⟨t', ?_, ((hstaged before).moved (guarded_append.mp hg).2.1 hl hstep).status⟩
    rw [run_append]
    exact hl'
  · rintro before between after rfl i t hl ht
    rw [guarded_append, guarded_append] at hg
    obtain ⟨t', hl', ho⟩ := (hstaged before).run_onward policy between hg.2.1 hl
    rw [run_append]
    exact ⟨t', hl', ho.terminal ht⟩
  · rintro before between after rfl i t hl hs
    rw [guarded_append, guarded_append] at hg
    obtain ⟨t', hl', ho⟩ := (hstaged before).run_onward policy between hg.2.1 hl
    obtain ⟨d, hd⟩ := Option.ne_none_iff_exists'.mp ((hstaged before).attached i t hl hs)
    refine ⟨d, t', hd, ?_, ?_⟩
    · rw [run_append]
      exact hl'
    · rw [(ho.past (by rw [hs]; exact ⟨nofun, nofun⟩)).2, hd]

/-- A push is built and deployed, and two workers look after it in turn. -/
def deliveredRun : List Action :=
  [.store (.createAppEnvironment (Store.newEnvironment "env-one" [])),
    .createTarget (targetRequest 1 "one"), .claimNextBuild "builder-one" 60,
    .completeBuild 1 "rel-push-one" smallImage, .poll 0, .poll 1, .advance 0 "" "",
    .advance 1 "" "", .poll 0, .advance 0 "" "", .advance 0 "dep-push-one" "op-push-one",
    .advance 0 "" "", .store (.claimNext "agent:cls-one" "cls-one" 60),
    .store (.handleResult 1 (deployed "rel-push-one" 2)), .poll 1, .advance 1 "" ""]

theorem targetsForward_deliveredRun :
    (Initial smallDelivery ∧
      Guarded (step Store.smallPolicy) MarksCurrent smallDelivery deliveredRun) ∧
    (run (step Store.smallPolicy) smallDelivery deliveredRun).targets.Any
      (fun i t => i = 1 ∧ t.status = .succeeded ∧ t.deploymentId = some 1) ∧
    TargetsForward Store.smallPolicy smallDelivery deliveredRun :=
  ⟨⟨smallDelivery_initial, by decide +kernel⟩, by decide +kernel,
    targetsForward_of_marksCurrent Store.smallPolicy smallDelivery deliveredRun
      smallDelivery_initial (by decide +kernel)⟩

/-- Both workers have read that the build has succeeded. The first one has gone on with the target
when the second one acts on it. -/
def staleMarkRun : List Action :=
  [.store (.createAppEnvironment (Store.newEnvironment "env-one" [])),
    .createTarget (targetRequest 1 "one"), .claimNextBuild "builder-one" 60,
    .completeBuild 1 "rel-push-one" smallImage, .poll 1, .poll 0, .advance 0 "" "",
    .poll 0, .advance 0 "" "", .advance 0 "dep-push-one" "op-push-one", .advance 0 "" ""]

/-- The target is `Deploying`, and then `DeployPending` again. -/
theorem not_targetsForward_staleMarkRun :
    Initial smallDelivery ∧
    ¬ TargetsForward Store.smallPolicy smallDelivery (staleMarkRun ++ [.advance 1 "" ""]) := by
  refine ⟨smallDelivery_initial, fun h => ?_⟩
  have hbefore : ∃ t ∈ (run (step Store.smallPolicy) smallDelivery
      staleMarkRun).targets.lookup 1, t.status = .deploying := by decide +kernel
  have hafter : ∃ t ∈ (run (step Store.smallPolicy) smallDelivery
      (staleMarkRun ++ [.advance 1 "" ""])).targets.lookup 1, t.status = .deployPending := by
    decide +kernel
  obtain ⟨t, hl, hs⟩ := hbefore
  obtain ⟨u, hu, hus⟩ := hafter
  obtain ⟨t', hl', hmoved⟩ := h.forward staleMarkRun (.advance 1 "" "") [] rfl 1 t hl
  cases hu.symm.trans hl'
  rw [hs, hus] at hmoved
  rcases hmoved with hmoved | hmoved
  · cases hmoved
  · cases hmoved with
    | ended _ ht => rcases ht with ht | ht | ht <;> cases ht

end Molejo.Delivery
