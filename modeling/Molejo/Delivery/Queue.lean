import Molejo.Delivery.System
import Molejo.Store.Effect

/-!
# Progress of the build queue

A build that is not at its end has to be taken up by somebody: it is running under a
lease, or the query of `ClaimNextBuild` finds it or another build of its environment.
The query asks for fewer than three attempts. A build on its third attempt is
therefore in the hands of the worker that claimed it, and of nobody else: if the lease
runs out, because the worker has crashed, the build stays `Running` and keeps every
other build of the environment waiting; if the worker shuts down in an orderly way, the
build goes back to `Pending`, where the query passes it over.

`KeepsQueue` excludes these two steps. Nothing else stops the queue: in a run without
them a candidate can always be found (`QueueProgress.candidate`), and every build can
be brought to its end (`QueueProgress.ends`), by claims and by workers whose lease is
good: nothing is expected of a worker that may have crashed.
-/

namespace Molejo.Delivery

open Transaction Table Transition

variable {policy : PublicationPolicy} {s : State} {a : Action} {i : ℕ} {b b' : Build}

/-! ### Progress -/

/-- A claim, or the report of a worker whose lease is good. -/
def InTime (s : State) : Action → Prop
  | .claimNextBuild _ _ => True
  | .failBuild k _ _ _ | .completeBuild k _ _ =>
    ∃ op, s.held.lookup k = some op ∧ ¬ op.2.Expired s.store.now
  | _ => False

/-- **The queue makes progress.** -/
structure QueueProgress (policy : PublicationPolicy) (s : State) : Prop where
  /-- An environment with a build that is not at its end, and none under a lease that is good, has
  a candidate. -/
  candidate : ∀ e,
    (∀ i b, s.builds.lookup i = some b → b.appEnvironmentId = e → b.status = .running →
      b.Expired s.store.now) →
    (∃ i b, s.builds.lookup i = some b ∧ b.appEnvironmentId = e ∧ b.Active) →
    ∃ i b, s.builds.lookup i = some b ∧ b.appEnvironmentId = e ∧
      Candidate s.store.now s.builds b
  /-- No build is left forever: from here there is a way to its end. -/
  ends : ∀ i b, s.builds.lookup i = some b → b.Active → ∃ acts b',
    Guarded (step policy) InTime s acts ∧
      (run (step policy) s acts).builds.lookup i = some b' ∧ ¬ b'.Active

/-- The step neither lets the lease of a third attempt run out nor gives up a third attempt. -/
def KeepsQueue (s : State) : Action → Prop
  | .store (.tick seconds) => ¬ s.builds.Any fun _ b =>
    b.status = .running ∧ 3 ≤ b.attempts ∧ b.Expired (s.store.now + seconds)
  | .releaseBuildClaims worker => ¬ s.builds.Any fun _ b => RunBy worker b ∧ 3 ≤ b.attempts
  | _ => True

instance (s : State) (a : Action) : Decidable (KeepsQueue s a) :=
  match a with
  | .store (.tick seconds) => inferInstanceAs (Decidable (¬ s.builds.Any fun _ b =>
      b.status = .running ∧ 3 ≤ b.attempts ∧ b.Expired (s.store.now + seconds)))
  | .releaseBuildClaims worker =>
    inferInstanceAs (Decidable (¬ s.builds.Any fun _ b => RunBy worker b ∧ 3 ≤ b.attempts))
  | .store (.elsewhere _) | .store (.activateAgent _ _) | .store (.touchAgent _ _ _)
  | .store (.attachWorkspaceCluster _) | .store (.revokeCluster _ _)
  | .store (.createAppEnvironment _) | .store (.updateAppEnvironment _ _ _ _ _)
  | .store (.deleteAppEnvironment _) | .store (.expandAppVolume _ _) | .store (.deleteAppVolume _)
  | .store (.createDeployment _) | .store (.reconcile _ _) | .store (.claimNext _ _ _)
  | .store (.reload _ _ _) | .store (.handleResult _ _) | .store (.fail _ _ _ _)
  | .store (.releaseClaims _) | .connect _ _ | .createBuild _ | .claimNextBuild _ _
  | .failBuild _ _ _ _ | .completeBuild _ _ _ | .createTarget _ | .poll _ | .advance _ _ _
  | .stop _ => inferInstanceAs (Decidable True)

/-! ### The invariant -/

/-- What is known of a build, at the given time, from the copies that were handed out. -/
structure BuildSound (now : Time) (held : Table ClaimedBuild) (i : ℕ) (b : Build) : Prop where
  /-- A build has been claimed as often as it was attempted. -/
  counted : b.attempts = b.fencingToken
  pending : b.status = .pending → b.attempts < 3
  running : b.status = .running → b.attempts < 3 ∨ ¬ b.Expired now
  handed : b.status = .running → ∃ k op, held.lookup k = some op ∧ BuildHeld op i b ∧
    op.2.leaseUntil = b.leaseUntil

/-- What is known of the queue. -/
structure QueueSound (s : State) : Prop where
  build : ∀ i b, s.builds.lookup i = some b → BuildSound s.store.now s.held i b
  copy : ∀ k op, s.held.lookup k = some op → op.2.attempts = op.2.fencingToken

theorem Initial.queueSound (h₀ : Initial s) : QueueSound s where
  build _ _ := of_lookup_empty h₀.builds
  copy _ _ := of_lookup_empty h₀.held

/-- Only the clock moves the clock. -/
theorem step_now (policy) (s : State) (a : Action) :
    (step policy s a).store.now = s.store.now ∨
      ∃ seconds, a = .store (.tick seconds) ∧
        (step policy s a).store.now = s.store.now + seconds := by
  cases a with
  | store a =>
    have h := Store.step_effect policy s.store a
    simp only [step]
    generalize Store.step policy s.store a = s' at h
    cases h with
    | tick seconds => exact .inr ⟨seconds, rfl, rfl⟩
    | _ => exact .inl rfl
  | claimNextBuild | failBuild | createTarget =>
    simp only [step]
    split <;> exact .inl rfl
  | completeBuild =>
    simp only [step]
    split
    · split <;> exact .inl rfl
    · exact .inl rfl
  | advance worker =>
    exact .inl (advance_builds policy s worker _ _).2.2
  | _ => exact .inl rfl

/-- A build that was claimed is handed out. -/
theorem handed_of_claim (policy) {worker : String} {lease : ℕ} (hl : s.builds.lookup i = some b)
    (hl' : (step policy s (.claimNextBuild worker lease)).builds.lookup i = some b')
    (hne : b' ≠ b) :
    ∃ k, (step policy s (.claimNextBuild worker lease)).held.lookup k = some (i, b') := by
  simp only [step] at hl' ⊢
  split at hl'
  · rename_i builds' op h
    obtain ⟨-, c, hc, -, hop, rfl⟩ := claimNextBuild_eq_ok h
    obtain ⟨q, hq, ⟨hi, rfl⟩ | ⟨-, rfl⟩⟩ := lookup_modify_eq_some.mp hl'
    · subst hi
      cases hc.symm.trans hq
      refine ⟨s.held.nextId, ?_⟩
      rw [lookup_insert_self, ← hop]
    · exact absurd (Option.mem_unique hq hl) hne
  · exact absurd (Option.mem_unique hl' hl) hne

section Step

variable (h : QueueSound s) (hg : KeepsQueue s a)

include h hg

/-- A build that a step leaves alone is still sound: the clock does not pass the lease of a third
attempt. -/
theorem QueueSound.step_same (policy) (hl : s.builds.lookup i = some b) :
    BuildSound (step policy s a).store.now (step policy s a).held i b := by
  obtain ⟨hcount, hpend, hrun, hhand⟩ := h.build i b hl
  refine ⟨hcount, hpend, fun hs => ?_, fun hs => ?_⟩
  · rcases step_now policy s a with hnow | ⟨_, rfl, hnow⟩
    · rw [hnow]
      exact hrun hs
    · rw [hnow]
      by_cases hatt : b.attempts < 3
      · exact .inl hatt
      · exact .inr fun hexp => hg (any_iff.mpr ⟨i, b, hl, hs, Nat.le_of_not_lt hatt, hexp⟩)
  · obtain ⟨k, op, hk, hh⟩ := hhand hs
    exact ⟨k, op, step_held_of_held policy a hk, hh⟩

theorem QueueSound.step_build (policy) (hl : (step policy s a).builds.lookup i = some b') :
    BuildSound (step policy s a).store.now (step policy s a).held i b' := by
  rcases (step_builds policy s a).cases hl with ⟨b, hl₀, hstep⟩ | ⟨hs, hatt, htok⟩
  · have hold := h.build i b hl₀
    cases hstep with
    | same => exact h.step_same hg policy hl₀
    | claim worker lease =>
      refine ⟨congrArg (· + 1) hold.counted, nofun, fun _ => .inr ?_, fun _ => ?_⟩
      · rintro ⟨_, ⟨⟩, ht⟩
        rcases step_now policy s (.claimNextBuild worker lease) with hnow | ⟨_, ⟨⟩, -⟩
        rw [hnow] at ht
        exact absurd ht (Nat.not_lt.mpr (Nat.le_add_right _ _))
      · have hne : claimRow s.store.now lease worker b ≠ b := fun he =>
          absurd (congrArg Build.attempts he) (Nat.succ_ne_self _)
        obtain ⟨k, hk⟩ := handed_of_claim policy hl₀ hl hne
        exact ⟨k, _, hk, ⟨rfl, rfl, ⟨nofun, rfl⟩, rfl⟩, rfl⟩
    | fail k _ _ _ op hk hh =>
      refine ⟨hold.counted, fun hs => ?_, fun hs => ?_, fun hs => ?_⟩
      · -- only an attempt that its worker counts as one of the first two is tried again
        have hlt : op.2.attempts < 3 := by
          simp only [failRow, failedStatus] at hs
          split_ifs at hs with hretry
          exact hretry.2
        calc b.attempts = b.fencingToken := hold.counted
          _ = op.2.fencingToken := hh.2.2.2
          _ = op.2.attempts := (h.copy k op hk).symm
          _ < 3 := hlt
      all_goals
        simp only [failRow, failedStatus] at hs
        split_ifs at hs
    | succeed =>
      exact ⟨hold.counted, nofun, nofun, nofun⟩
    | release _ hr =>
      refine ⟨hold.counted, fun _ => ?_, nofun, nofun⟩
      by_contra hatt
      exact hg (any_iff.mpr ⟨i, b, hl₀, hr, Nat.le_of_not_lt hatt⟩)
    | supersede => exact ⟨hold.counted, nofun, nofun, nofun⟩
  · refine ⟨hatt.trans htok.symm, fun _ => by omega, fun _ => .inl (by omega), fun hr => ?_⟩
    rw [hs] at hr
    cases hr

theorem QueueSound.step (policy) : QueueSound (step policy s a) where
  build _ _ := h.step_build hg policy
  copy k op hl := by
    rcases step_held policy a hl with hl | ⟨_, _, b, -, hb, hop⟩
    · exact h.copy k op hl
    · rw [hop]
      exact congrArg (· + 1) (h.build _ b hb).counted

end Step

/-! ### Candidates -/

/-- A running build whose lease has run out is a candidate; if none is running, one that waits
is. -/
theorem QueueSound.candidate (h : QueueSound s) (e : ℕ)
    (hexp : ∀ i b, s.builds.lookup i = some b → b.appEnvironmentId = e → b.status = .running →
      b.Expired s.store.now)
    (hact : ∃ i b, s.builds.lookup i = some b ∧ b.appEnvironmentId = e ∧ b.Active) :
    ∃ i b, s.builds.lookup i = some b ∧ b.appEnvironmentId = e ∧
      Candidate s.store.now s.builds b := by
  by_cases hrun : HasRunning s.builds e
  · obtain ⟨i, b, hl, he, hs⟩ := any_iff.mp hrun
    have hb := hexp i b hl he hs
    exact ⟨i, b, hl, he, ((h.build i b hl).running hs).resolve_right (not_not_intro hb),
      .inr ⟨hs, hb⟩, .inl hs⟩
  · obtain ⟨i, b, hl, rfl, hs | hs⟩ := hact
    · exact ⟨i, b, hl, rfl, (h.build i b hl).pending hs, .inl hs, .inr hrun⟩
    · exact absurd (any_iff.mpr ⟨i, b, hl, rfl, hs⟩) hrun

/-! ### Every build can be ended -/

/-- The number of builds that are not at their end. -/
def activeCount (s : State) : ℕ := (s.builds.select fun _ b => b.Active).length

/-- A worker that holds a build can give it up for good. -/
theorem builds_of_failBuild (policy) {k : ℕ} {op : ClaimedBuild}
    (hk : s.held.lookup k = some op) (hl : s.builds.lookup i = some b) (hh : BuildHeld op i b)
    (code message : String) :
    (step policy s (.failBuild k code message false)).builds = s.builds.modify (BuildHeld op)
      (failRow s.store.now (failedStatus op.2.attempts code false) code message) := by
  have hok : failBuild s.store.now s.builds op code message false = .ok (s.builds.modify
      (BuildHeld op)
        (failRow s.store.now (failedStatus op.2.attempts code false) code message)) := by
    refine failBuild_eq_ok.mpr ⟨fun hp => ?_, any_iff.mpr ⟨i, b, hl, hh⟩, rfl⟩
    have hs := hp.1
    simp only [failedStatus, Bool.false_eq_true, false_and, if_false] at hs
    split_ifs at hs
  simp only [step, hk, State.commitBuilds, hok, commit_ok]

theorem not_active_failRow (now : Time) (attempts : ℕ) (code message : String) (b : Build) :
    ¬ (failRow now (failedStatus attempts code false) code message b).Active := by
  unfold failedStatus Build.Active failRow
  by_cases hc : code = "build_timeout" <;> simp [hc]

/-- A running build can be ended within its lease, and no other build is touched. -/
theorem QueueSound.exists_end (h : QueueSound s) (policy) (hl : s.builds.lookup i = some b)
    (hr : b.status = .running) (hlease : ¬ b.Expired s.store.now) :
    ∃ a, InTime s a ∧ KeepsQueue s a ∧ activeCount (Delivery.step policy s a) < activeCount s ∧
      (∃ b', (Delivery.step policy s a).builds.lookup i = some b' ∧ ¬ b'.Active) ∧
      ∀ j c, j ≠ i → s.builds.lookup j = some c →
        (Delivery.step policy s a).builds.lookup j = some c := by
  obtain ⟨k, op, hk, hh, hcopy⟩ := (h.build i b hl).handed hr
  have hstep := builds_of_failBuild policy hk hl hh "build_failed" ""
  have hend := not_active_failRow s.store.now op.2.attempts "build_failed" ""
  refine ⟨.failBuild k "build_failed" "" false, ⟨op, hk, ?_⟩, trivial, ?_, ?_, fun j c hne hj => ?_⟩
  · unfold Build.Expired
    rwa [hcopy]
  · unfold activeCount
    rw [hstep]
    exact length_select_modify_lt rfl (fun j c _ _ hc => absurd hc (hend c)) hl hh (.inr hr)
      (hend b)
  · rw [hstep]
    exact ⟨_, lookup_modify_of_pos hl hh, hend b⟩
  · rw [hstep]
    exact lookup_modify_of_neg hj fun hc => hne (hc.1.trans hh.1.symm)

/-- If there is a candidate, a worker can claim one; as many builds are left. -/
theorem exists_claim (policy) (hcand : s.builds.Any fun _ c => Candidate s.store.now s.builds c) :
    ∃ a, InTime s a ∧ KeepsQueue s a ∧ activeCount (step policy s a) ≤ activeCount s ∧
      ∃ j c, (step policy s a).builds.lookup j = some c ∧ c.status = .running ∧
        ¬ c.Expired (step policy s a).store.now ∧
        ∀ l d, l ≠ j → s.builds.lookup l = some d →
          (step policy s a).builds.lookup l = some d := by
  obtain ⟨builds', op, hok⟩ := exists_claimNextBuild "worker" 1 (by decide) Nat.one_pos
    hcand
  have hstep : (step policy s (.claimNextBuild "worker" 1)).builds = builds' ∧
      (step policy s (.claimNextBuild "worker" 1)).store.now = s.store.now := by
    simp only [step, hok, and_self]
  obtain ⟨-, c, hc, hcc, -, rfl⟩ := claimNextBuild_eq_ok hok
  refine ⟨.claimNextBuild "worker" 1, trivial, trivial, ?_, op.1,
    claimRow s.store.now 1 "worker" c, ?_, rfl, ?_, fun l d hne hd => ?_⟩
  · unfold activeCount
    rw [hstep.1]
    refine length_select_modify_le rfl fun j d hd hj _ => ?_
    subst hj
    cases hc.symm.trans hd
    exact hcc.2.1.imp_right And.left
  · rw [hstep.1]
    exact lookup_modify_of_pos hc rfl
  · rw [hstep.2]
    rintro ⟨_, ⟨⟩, hlt⟩
    exact absurd hlt (Nat.not_lt.mpr (Nat.le_add_right _ _))
  · rw [hstep.1]
    exact lookup_modify_of_neg hd hne

/-- **Every build can be brought to its end**, by induction on the number of builds that are not at
theirs. -/
theorem QueueSound.ends (policy) (n : ℕ) (h : QueueSound s)
    (hn : activeCount s ≤ n) (hl : s.builds.lookup i = some b) (ha : b.Active) :
    ∃ acts b', Guarded (Delivery.step policy) InTime s acts ∧
      (run (Delivery.step policy) s acts).builds.lookup i = some b' ∧ ¬ b'.Active := by
  induction n generalizing s with
  | zero =>
    have hmem : (i, b) ∈ s.builds.select fun _ b => b.Active := mem_select.mpr ⟨hl, ha⟩
    rw [List.eq_nil_of_length_eq_zero (Nat.le_zero.mp hn)] at hmem
    cases hmem
  | succ n ih =>
    -- one build that is running under a good lease is ended; the rest is up to the induction
    have hstop {s : State} (h : QueueSound s) (hn : activeCount s ≤ n + 1)
        {j : ℕ} {c : Build} (hj : s.builds.lookup j = some c) (hc : c.status = .running)
        (hlease : ¬ c.Expired s.store.now) (hother : i ≠ j → s.builds.lookup i = some b) :
        ∃ acts b', Guarded (Delivery.step policy) InTime s acts ∧
          (run (Delivery.step policy) s acts).builds.lookup i = some b' ∧ ¬ b'.Active := by
      obtain ⟨a, hintime, hg, _, ⟨b', hb', hend⟩, hrest⟩ := h.exists_end policy hj hc hlease
      by_cases hij : i = j
      · subst hij
        exact ⟨[a], b', ⟨hintime, trivial⟩, hb', hend⟩
      · obtain ⟨acts, b', hacts, hb'⟩ :=
          ih (h.step hg policy) (by omega) (hrest i b hij (hother hij))
        exact ⟨a :: acts, b', ⟨hintime, hacts⟩, hb'⟩
    by_cases hcand : s.builds.Any fun _ c => Candidate s.store.now s.builds c
    · obtain ⟨a, hintime, hg, hle, _, _, hj, hc, hlease, hrest⟩ := exists_claim policy hcand
      obtain ⟨acts, b', hacts, hb'⟩ := hstop (h.step hg policy) (hle.trans hn) hj hc hlease
        fun hij => hrest i b hij hl
      exact ⟨a :: acts, b', ⟨hintime, hacts⟩, hb'⟩
    · -- without a candidate a build of the environment is running under a good lease
      have hrun : ∃ j c, s.builds.lookup j = some c ∧ c.status = .running ∧
          ¬ c.Expired s.store.now := by
        by_contra hnone
        push Not at hnone
        obtain ⟨j, c, hj, -, hc⟩ := h.candidate b.appEnvironmentId
          (fun j c hj _ hr => hnone j c hj hr) ⟨i, b, hl, rfl, ha⟩
        exact hcand (any_iff.mpr ⟨j, c, hj, hc⟩)
      obtain ⟨j, c, hj, hc, hlease⟩ := hrun
      exact hstop h hn hj hc hlease fun _ => hl

/-! ### Every run -/

theorem QueueSound.progress (h : QueueSound s) (policy) :
    QueueProgress policy s where
  candidate := h.candidate
  ends _ _ := h.ends policy _ le_rfl

/-- **The build queue makes progress** in every run in which no third attempt is lost. -/
theorem queueProgress_of_keepsQueue (policy : PublicationPolicy) (s₀ : State) (acts : List Action)
    (h₀ : Initial s₀) (hg : Guarded (step policy) KeepsQueue s₀ acts) :
    QueueProgress policy (run (step policy) s₀ acts) :=
  (guarded_run_induction (I := QueueSound) h₀.queueSound
    (fun _ _ h hg => h.step hg policy) hg).progress policy

/-- A build is attempted three times: the first worker crashes, the second fails for a passing
reason, the third works within its lease. -/
def patientBuildRun : List Action :=
  [.store (.createAppEnvironment (Store.newEnvironment "env-one" [])),
    .createBuild (buildRequest "bld-one"), .claimNextBuild "builder-one" 60, .store (.tick 61),
    .claimNextBuild "builder-two" 60, .failBuild 2 "source_unavailable" "" true,
    .claimNextBuild "builder-two" 60, .store (.tick 30)]

theorem queueProgress_patientBuildRun :
    (Initial smallDelivery ∧
      Guarded (step Store.smallPolicy) KeepsQueue smallDelivery patientBuildRun) ∧
    (run (step Store.smallPolicy) smallDelivery patientBuildRun).builds.Any
      (fun _ b => b.status = .running ∧ b.attempts = 3) ∧
    QueueProgress Store.smallPolicy (run (step Store.smallPolicy) smallDelivery patientBuildRun) :=
  ⟨⟨smallDelivery_initial, by decide +kernel⟩, by decide +kernel,
    queueProgress_of_keepsQueue Store.smallPolicy smallDelivery patientBuildRun
      smallDelivery_initial (by decide +kernel)⟩

/-- Three workers in a row crash on the same build. -/
def crashedBuildRun : List Action :=
  [.store (.createAppEnvironment (Store.newEnvironment "env-one" [])),
    .createBuild (buildRequest "bld-one"), .claimNextBuild "builder-one" 60, .store (.tick 61),
    .claimNextBuild "builder-one" 60, .store (.tick 61), .claimNextBuild "builder-one" 60,
    .store (.tick 61), .createBuild (buildRequest "bld-two")]

/-- The build is running under a lease that has run out, and neither it nor the one that waits
behind it can be claimed. -/
theorem not_queueProgress_crashedBuildRun :
    Initial smallDelivery ∧
    ¬ QueueProgress Store.smallPolicy
      (run (step Store.smallPolicy) smallDelivery crashedBuildRun) := by
  refine ⟨smallDelivery_initial, fun h => ?_⟩
  have hexp : ∀ i b, (run (step Store.smallPolicy) smallDelivery
      crashedBuildRun).builds.lookup i = some b → (b.status = .running → b.Expired
      (run (step Store.smallPolicy) smallDelivery crashedBuildRun).store.now) := by
    decide +kernel
  have hact : (run (step Store.smallPolicy) smallDelivery crashedBuildRun).builds.Any
      fun _ b => b.appEnvironmentId = 1 ∧ b.Active := by decide +kernel
  have hnone : ¬ (run (step Store.smallPolicy) smallDelivery crashedBuildRun).builds.Any
      fun _ b => Candidate (run (step Store.smallPolicy) smallDelivery
        crashedBuildRun).store.now (run (step Store.smallPolicy) smallDelivery
          crashedBuildRun).builds b := by decide +kernel
  obtain ⟨i, b, hl, -, hc⟩ := h.candidate 1 (fun i b hl _ => hexp i b hl) (Table.any_iff.mp hact)
  exact hnone (Table.any_iff.mpr ⟨i, b, hl, hc⟩)

end Molejo.Delivery
