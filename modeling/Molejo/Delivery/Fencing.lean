import Molejo.Delivery.Queue
import Molejo.Delivery.Worker
import Molejo.Lib.Lease

/-!
# The claims on builds

A build worker that was thought to be dead may still be at work. It may write to the log
of its build, report a failure or an image, long after the build was given to another
worker, was released, was superseded or came to an end. The lease is not looked at by any
of these calls; what they compare is the worker and the fencing token, and this is enough.
A claim gives the build a token that no claim before it had, and a call of an earlier
holder carries an earlier token.

That an environment has at most one running build rests on two things. The query for a
build to claim passes over builds of an environment that has one running; but the query
may have been answered before another worker's claim was committed, and may have skipped
builds that others had locked. What is left to the index `builds_one_running` is modelled
by a claim of a build that is not the first candidate, and for which the query has seen
nothing of the other builds (`claimConcurrently`).
-/

namespace Molejo.Delivery

open Transaction Table Transition

/-! ### Logs and concurrent claims -/

/-- A row of `build_logs`. -/
structure BuildLog where
  buildId : ℕ
  message : String
deriving DecidableEq

/-- A message is cut after 4000 bytes, which may be within a character. -/
def cutMessage (message : String) : Option String :=
  if message.utf8ByteSize ≤ 4000 then some message
  else String.fromUTF8? (message.toUTF8.extract 0 4000)

/-- `AppendBuildLog`; the message is given without surrounding space. The database takes only
whole characters, and among them no `NUL`. -/
def appendBuildLog (builds : Table Build) (logs : Table BuildLog) (op : ClaimedBuild)
    (message : String) : Except Err (Table BuildLog) :=
  if Store.isBlank message = true then .ok logs
  else do
    let text ← expect (cutMessage message) .database
    require ('\x00' ∉ text.toList) .database
    require (builds.Any (BuildHeld op)) .conflict
    pure (logs.insert ⟨op.1, text⟩)

/-- The condition of the query of `ClaimNextBuild` on the build itself. -/
def Claimable (now : Time) (b : Build) : Prop :=
  b.attempts < 3 ∧ (b.status = .pending ∨ b.status = .running ∧ b.Expired now)
deriving Decidable

/-- Another build than the one under `i` is running in its environment. -/
def RunningTaken (builds : Table Build) (i : ℕ) (b : Build) : Prop :=
  builds.Any fun j c => j ≠ i ∧ c.appEnvironmentId = b.appEnvironmentId ∧ c.status = .running
deriving Decidable

/-- `ClaimNextBuild` at the same time as other transactions: the build under `i` is claimed,
whatever the query has seen of the others, unless the index refuses it. -/
def claimConcurrently (now lease : Time) (worker : String) (builds : Table Build) (i : ℕ) :
    Except Err (Table Build × ClaimedBuild) := do
  require (Store.isBlank worker = false ∧ 0 < lease) .invalidArgument
  let b ← expect (builds.lookup i) .notFound
  require (Claimable now b) .notFound
  require (¬ RunningTaken builds i b) .uniqueViolation
  pure (builds.modify (fun j _ => j = i) (claimRow now lease worker),
    (i, claimRow now lease worker b))

/-- Continuous delivery, with the logs of builds. -/
structure BuildState where
  delivery : State
  logs : Table BuildLog

/-- One step. -/
inductive BuildAction
  | delivery (a : Action)
  | claimConcurrently (worker : String) (lease i : ℕ)
  | appendBuildLog (held : ℕ) (message : String)

/-- The releases of builds, with their builds. -/
def managed (releases : Table Release) : List (ℕ × Option ℕ) :=
  (releases.select fun _ r => r.buildId ≠ none).map fun x => (x.1, x.2.buildId)

/-- What an action makes of the tables of other parts of the control plane. -/
def Action.elsewhere? : Action → Option Surroundings
  | .store (.elsewhere x) => some x
  | _ => none

/-- One step. What other parts of the control plane do to releases leaves those of builds alone:
they make and change only others. -/
def BuildState.step (policy : PublicationPolicy) (s : BuildState) : BuildAction → BuildState
  | .delivery a =>
    if ∀ x ∈ a.elsewhere?, managed x.releases = managed s.delivery.store.db.releases then
      { s with delivery := Delivery.step policy s.delivery a }
    else s
  | .claimConcurrently worker lease i =>
    match Delivery.claimConcurrently s.delivery.store.now lease worker s.delivery.builds i with
    | .ok (builds, op) =>
      { s with
        delivery := { s.delivery with builds := builds, held := s.delivery.held.insert op } }
    | .error _ => s
  | .appendBuildLog k message =>
    match s.delivery.held.lookup k with
    | some op =>
      { s with logs := commit s.logs (Delivery.appendBuildLog s.delivery.builds s.logs op message) }
    | none => s

/-- What a run starts from: no build, and no release of one. -/
structure BuildState.Initial (s : BuildState) : Prop where
  delivery : Delivery.Initial s.delivery
  releases : managed s.delivery.store.db.releases = []
  logs : s.logs = .empty

/-- The calls a holder of a build can make. -/
inductive HolderCall
  | appendBuildLog (message : String)
  | failBuild (code message : String) (retryable : Bool)
  | completeBuild (releasePublicId image : String)

/-- The call, with the copy under `k`. -/
def HolderCall.action (k : ℕ) : HolderCall → BuildAction
  | .appendBuildLog message => .appendBuildLog k message
  | .failBuild code message retryable => .delivery (.failBuild k code message retryable)
  | .completeBuild releasePublicId image => .delivery (.completeBuild k releasePublicId image)

/-- The copy under `k` is the last that was handed out of the build `i`. -/
def LatestClaim (s : State) (k i : ℕ) : Prop :=
  (∃ op, s.held.lookup k = some op ∧ op.1 = i) ∧
    ∀ l op, s.held.lookup l = some op → op.1 = i → l ≤ k

/-- The release under `r` is one of the build `i`. -/
def ReleaseOf (s : State) (r i : ℕ) : Prop :=
  ∃ release, s.store.db.releases.lookup r = some release ∧ release.buildId = some i

/-- **Builds are fenced**, in a run of the actions `acts`. -/
structure BuildFencing (policy : PublicationPolicy) (s₀ : BuildState) (acts : List BuildAction) :
    Prop where
  /-- A build yields at most one release, at whatever moments one looks. -/
  oneRelease : ∀ before middle after, acts = before ++ middle ++ after → ∀ r q i,
    ReleaseOf (run (BuildState.step policy) s₀ before).delivery r i →
    ReleaseOf (run (BuildState.step policy) s₀ (before ++ middle)).delivery q i → r = q
  /-- A release is created only by the worker of the latest claim of the build. -/
  byLatest : ∀ before a after, acts = before ++ a :: after → ∀ r i,
    ¬ ReleaseOf (run (BuildState.step policy) s₀ before).delivery r i →
    ReleaseOf (run (BuildState.step policy) s₀ (before ++ [a])).delivery r i →
    ∃ k releasePublicId image, a = (HolderCall.completeBuild releasePublicId image).action k ∧
      LatestClaim (run (BuildState.step policy) s₀ before).delivery k i
  /-- When a build is not running, or was claimed by another since, the calls of a holder change
  nothing. -/
  fenced : ∀ before after, acts = before ++ after → ∀ k op b,
    (run (BuildState.step policy) s₀ before).delivery.held.lookup k = some op →
    (run (BuildState.step policy) s₀ before).delivery.builds.lookup op.1 = some b →
    (b.status ≠ .running ∨
      ¬ LatestClaim (run (BuildState.step policy) s₀ before).delivery k op.1) →
    ∀ call : HolderCall, BuildState.step policy (run (BuildState.step policy) s₀ before)
      (call.action k) = run (BuildState.step policy) s₀ before
  /-- A build that has ended stays as it is. -/
  ended : ∀ before a after, acts = before ++ a :: after → ∀ i b,
    (run (BuildState.step policy) s₀ before).delivery.builds.lookup i = some b →
    ¬ b.Active →
    (run (BuildState.step policy) s₀ (before ++ [a])).delivery.builds.lookup i = some b
  /-- An environment has at most one running build. -/
  oneRunning : ∀ before after, acts = before ++ after → ∀ i j b c,
    (run (BuildState.step policy) s₀ before).delivery.builds.lookup i = some b →
    (run (BuildState.step policy) s₀ before).delivery.builds.lookup j = some c →
    b.status = .running → c.status = .running → b.appEnvironmentId = c.appEnvironmentId → i = j

variable {policy : PublicationPolicy} {s s' : State} {t : BuildState} {i r : ℕ} {b : Build}

/-! ### What a step does to the claims -/

theorem claimConcurrently_eq_ok {now lease : Time} {worker : String} {builds builds' : Table Build}
    {op : ClaimedBuild} (h : claimConcurrently now lease worker builds i = .ok (builds', op)) :
    ∃ b, builds.lookup op.1 = some b ∧ Claimable now b ∧ ¬ RunningTaken builds op.1 b ∧
      op.2 = claimRow now lease worker b ∧
      builds' = builds.modify (fun j _ => j = op.1) (claimRow now lease worker) := by
  simp only [claimConcurrently, ok_iff, Prod.mk.injEq] at h
  obtain ⟨-, b, hb, hc, ht, rfl, rfl⟩ := h
  exact ⟨b, hb, hc, ht, rfl, rfl⟩

/-- What a step that claims nothing does to a build: it keeps the token, and does not start. -/
structure Unclaimed (b b' : Build) : Prop where
  token : b'.fencingToken = b.fencingToken
  environment : b'.appEnvironmentId = b.appEnvironmentId
  running : b'.status = .running → b.status = .running

theorem Unclaimed.refl (b : Build) : Unclaimed b b := ⟨rfl, rfl, id⟩

/-- What a step does to the builds and the copies of workers. -/
inductive Claims (s s' : State) : Prop
  | claim (now lease : Time) (worker : String) (op : ClaimedBuild) (b : Build)
      (hb : s.builds.lookup op.1 = some b) (hc : Claimable now b)
      (hfree : b.status = .running ∨ ¬ RunningTaken s.builds op.1 b)
      (hop : op.2 = claimRow now lease worker b)
      (hbuilds : s'.builds = s.builds.modify (fun j _ => j = op.1) (claimRow now lease worker))
      (hheld : s'.held = s.held.insert op)
  | other (hheld : s'.held = s.held)
      (hkept : ∀ i b, s.builds.lookup i = some b →
        ∃ b', s'.builds.lookup i = some b' ∧ Unclaimed b b')
      (hnew : ∀ i b, s.builds.lookup i = none → s'.builds.lookup i = some b → b.Fresh)

theorem Claims.refl (s : State) : Claims s s :=
  .other rfl (fun _ b hl => ⟨b, hl, .refl b⟩) fun _ _ hn hl => by
    rw [hn] at hl
    cases hl

/-- A step of continuous delivery claims only in `ClaimNextBuild`. -/
theorem step_claimed (policy) (s : State) (a : Action) :
    Claims s (step policy s a) := by
  rcases step_claims policy s a with ⟨worker, lease, _, op, -, h, hs⟩ | ⟨hheld, ha | hs⟩
  · obtain ⟨-, b, hb, ⟨hatt, hst, hfree⟩, hop, rfl⟩ := claimNextBuild_eq_ok h
    rw [hs]
    refine .claim _ _ _ op b hb ⟨hatt, hst⟩ (hfree.imp_right fun hn ht => hn ?_) hop rfl rfl
    obtain ⟨j, c, hc, -, hcr⟩ := any_iff.mp ht
    exact any_iff.mpr ⟨j, c, hc, hcr⟩
  · refine .other hheld (fun i b hl => ?_) (step_builds policy s a).new
    obtain ⟨b', hb', hstep⟩ := step_build policy a hl
    refine ⟨b', hb', ?_⟩
    cases hstep with
    | same => exact .refl b
    | claim worker lease => exact absurd rfl (ha worker lease)
    | fail _ _ _ _ _ _ hh => exact ⟨rfl, rfl, fun _ => hh.2.1⟩
    | succeed | release | supersede => exact ⟨rfl, rfl, nofun⟩
  · rw [hs]
    exact .refl s

theorem BuildState.step_claimed (policy) (t : BuildState) (a : BuildAction) :
    Claims t.delivery (t.step policy a).delivery := by
  cases a with
  | delivery a =>
    simp only [BuildState.step]
    split
    · exact Delivery.step_claimed policy t.delivery a
    · exact .refl _
  | claimConcurrently worker lease i =>
    simp only [BuildState.step]
    split
    · rename_i builds op h
      obtain ⟨b, hb, hc, ht, hop, rfl⟩ := claimConcurrently_eq_ok h
      exact .claim _ _ _ op b hb hc (.inr ht) hop rfl rfl
    · exact .refl _
  | appendBuildLog =>
    simp only [BuildState.step]
    split <;> exact .refl _

/-! ### Tokens -/

/-- The build of a copy, and its token. -/
def copyToken (op : ClaimedBuild) : ℕ × ℕ := (op.1, op.2.fencingToken)

theorem Claims.ledger (h : Claims s s')
    (hl : Lease.Ledger copyToken (Lease.tokens Build.fencingToken s.builds) s.held) :
    Lease.Ledger copyToken (Lease.tokens Build.fencingToken s'.builds) s'.held := by
  cases h with
  | claim _ _ _ _ b hb _ _ hop hbuilds hheld =>
    rw [hheld, hbuilds]
    exact hl.claim (fun b => Nat.lt_succ_self b.fencingToken) hb
      (congrArg Build.fencingToken hop)
  | other hheld hkept =>
    rw [hheld]
    refine hl.of_kept fun i b hb => ?_
    obtain ⟨b', hb', hu⟩ := hkept i b hb
    exact ⟨b', hb', hu.token.ge⟩

/-! ### One running build -/

/-- An environment has at most one running build. -/
def OneRunning (builds : Table Build) : Prop :=
  ∀ i j b c, builds.lookup i = some b → builds.lookup j = some c → b.status = .running →
    c.status = .running → b.appEnvironmentId = c.appEnvironmentId → i = j

theorem Claims.oneRunning (h : Claims s s') (hone : OneRunning s.builds) :
    OneRunning s'.builds := by
  cases h with
  | claim now _ _ op b hb _ hfree _ hbuilds =>
    -- no other build of the environment is running
    have halone (j : ℕ) (c : Build) (hj : s.builds.lookup j = some c) (hr : c.status = .running)
        (he : c.appEnvironmentId = b.appEnvironmentId) : j = op.1 := by
      rcases hfree with hbr | hn
      · exact hone j op.1 c b hj hb hr hbr he
      · by_contra hne
        exact hn (any_iff.mpr ⟨j, c, hj, hne, he, hr⟩)
    -- what runs now is the build that was claimed, or was running before
    have hcase (j : ℕ) (c : Build) (hj : s'.builds.lookup j = some c) (hr : c.status = .running) :
        j = op.1 ∧ c.appEnvironmentId = b.appEnvironmentId ∨ s.builds.lookup j = some c := by
      rw [hbuilds] at hj
      obtain ⟨q, hq, ⟨rfl, rfl⟩ | ⟨-, rfl⟩⟩ := lookup_modify_eq_some.mp hj
      · cases hb.symm.trans hq
        exact .inl ⟨rfl, rfl⟩
      · exact .inr hq
    intro i j c d hi hj hcr hdr he
    rcases hcase i c hi hcr with ⟨rfl, hci⟩ | hi'
    · rcases hcase j d hj hdr with ⟨rfl, -⟩ | hj'
      · rfl
      · exact (halone j d hj' hdr (he.symm.trans hci)).symm
    · rcases hcase j d hj hdr with ⟨rfl, hdj⟩ | hj'
      · exact halone i c hi' hcr (he.trans hdj)
      · exact hone i j c d hi' hj' hcr hdr he
  | other _ hkept hnew =>
    have hold (j : ℕ) (c : Build) (hj : s'.builds.lookup j = some c) (hr : c.status = .running) :
        ∃ q, s.builds.lookup j = some q ∧ q.status = .running ∧
          q.appEnvironmentId = c.appEnvironmentId := by
      cases hq : s.builds.lookup j with
      | none =>
        have hp := (hnew j c hq hj).1
        rw [hr] at hp
        cases hp
      | some q =>
        have hu := of_found (hkept j q hq) hj
        exact ⟨q, rfl, hu.running hr, hu.environment.symm⟩
    intro i j c d hi hj hcr hdr he
    obtain ⟨p, hp, hpr, hpe⟩ := hold i c hi hcr
    obtain ⟨q, hq, hqr, hqe⟩ := hold j d hj hdr
    exact hone i j p q hp hq hpr hqr (hpe.trans (he.trans hqe.symm))

/-! ### Releases -/

theorem mem_managed {releases : Table Release} {j : ℕ} :
    (j, some i) ∈ managed releases ↔
      ∃ release, releases.lookup j = some release ∧ release.buildId = some i := by
  simp only [managed, List.mem_map, Prod.exists, mem_select, Prod.mk.injEq]
  constructor
  · rintro ⟨_, release, ⟨hl, -⟩, rfl, hb⟩
    exact ⟨release, hl, hb⟩
  · rintro ⟨release, hl, hb⟩
    exact ⟨j, release, ⟨hl, hb ▸ Option.some_ne_none _⟩, rfl, hb⟩

/-- What is known of the claims on builds. -/
structure ClaimsSound (s : State) : Prop where
  ledger : Lease.Ledger copyToken (Lease.tokens Build.fencingToken s.builds) s.held
  oneRunning : OneRunning s.builds
  oneRelease : ∀ r q i, ReleaseOf s r i → ReleaseOf s q i → r = q

/-- A copy that is not the last has no hold on the build. -/
theorem ClaimsSound.latestClaim (h : ClaimsSound s) {k : ℕ} {op : ClaimedBuild}
    (hk : s.held.lookup k = some op) (hb : s.builds.lookup op.1 = some b)
    (hh : BuildHeld op op.1 b) : LatestClaim s k op.1 := by
  refine ⟨⟨op, hk, rfl⟩, fun l q hl hq => ?_⟩
  by_contra hlt
  have htok := h.ledger.lt_token (Nat.lt_of_not_le hlt) hk hl hq.symm hb
  exact absurd hh.2.2.2 htok.ne'

/-- What a step of continuous delivery does to the releases of builds. -/
theorem step_managed (policy) (s : State) (a : Action)
    (ha : ∀ x ∈ a.elsewhere?, managed x.releases = managed s.store.db.releases) :
    managed (step policy s a).store.db.releases = managed s.store.db.releases ∨
      ∃ k releasePublicId image op b, a = .completeBuild k releasePublicId image ∧
        s.held.lookup k = some op ∧ s.builds.lookup op.1 = some b ∧ BuildHeld op op.1 b ∧
        (¬ s.store.db.releases.Any fun _ r => r.buildId = some op.1) ∧
        (step policy s a).store.db.releases =
          s.store.db.releases.insert (b.release op.1 releasePublicId) := by
  have hs := step_storeStep policy s a
  generalize (step policy s a).store = store' at hs ⊢
  cases hs with
  | same => exact .inl rfl
  | store a =>
    rcases Store.step_releases policy s.store a with h | ⟨x, rfl, h⟩
    · rw [h]
      exact .inl rfl
    · rw [h]
      exact .inl (ha x rfl)
  | deploy _ request =>
    rcases Store.step_releases policy s.store (.createDeployment request) with h | ⟨_, ⟨⟩, -⟩
    rw [h]
    exact .inl rfl
  | complete k releasePublicId image op b hk hb hh hn =>
    exact .inr ⟨k, releasePublicId, image, op, b, rfl, hk, hb, hh, hn, rfl⟩

/-- **What a step does to the releases of builds**: it keeps those that are there, and the holder
of the latest claim of a build without one may add one. -/
theorem BuildState.step_releases (h : ClaimsSound t.delivery) (policy) (a : BuildAction) :
    (∀ r i, ReleaseOf (t.step policy a).delivery r i ↔ ReleaseOf t.delivery r i) ∨
      ∃ k releasePublicId image i r₀,
        a = (HolderCall.completeBuild releasePublicId image).action k ∧
        LatestClaim t.delivery k i ∧ (∀ r, ¬ ReleaseOf t.delivery r i) ∧
        ∀ r j, ReleaseOf (t.step policy a).delivery r j ↔
          ReleaseOf t.delivery r j ∨ r = r₀ ∧ j = i := by
  have hmanaged {s' : State}
      (hm : managed s'.store.db.releases = managed t.delivery.store.db.releases) (r i : ℕ) :
      ReleaseOf s' r i ↔ ReleaseOf t.delivery r i := by
    unfold ReleaseOf
    rw [← mem_managed, ← mem_managed, hm]
  cases a with
  | delivery a =>
    simp only [BuildState.step]
    split
    · rename_i ha
      rcases step_managed policy t.delivery a ha with
        hm | ⟨k, releasePublicId, image, op, b, rfl, hk, hb, hh, hn, hs⟩
      · exact .inl (hmanaged hm)
      · refine .inr ⟨k, releasePublicId, image, op.1, t.delivery.store.db.releases.nextId, rfl,
          h.latestClaim hk hb hh, fun r ⟨release, hr, hi⟩ => hn (any_iff.mpr ⟨r, _, hr, hi⟩),
          fun r j => ?_⟩
        simp only [ReleaseOf, hs, lookup_insert_eq_some]
        constructor
        · rintro ⟨release, ⟨rfl, rfl⟩ | hr, hj⟩
          · exact .inr ⟨rfl, (Option.some.inj hj).symm⟩
          · exact .inl ⟨release, hr, hj⟩
        · rintro (⟨release, hr, hj⟩ | ⟨rfl, rfl⟩)
          · exact ⟨release, .inr hr, hj⟩
          · exact ⟨_, .inl ⟨rfl, rfl⟩, rfl⟩
    · exact .inl fun _ _ => .rfl
  | claimConcurrently | appendBuildLog =>
    simp only [BuildState.step]
    split <;> exact .inl fun _ _ => .rfl

/-! ### Runs -/

theorem BuildState.Initial.claimsSound (h₀ : t.Initial) : ClaimsSound t.delivery where
  ledger := by
    rw [h₀.delivery.held]
    exact .empty
  oneRunning i j b c hi := by
    rw [h₀.delivery.builds] at hi
    cases hi
  oneRelease r q i hr := by
    have hm := mem_managed.mpr hr
    rw [h₀.releases] at hm
    cases hm

theorem ClaimsSound.step (h : ClaimsSound t.delivery) (policy)
    (a : BuildAction) : ClaimsSound (t.step policy a).delivery where
  ledger := (t.step_claimed policy a).ledger h.ledger
  oneRunning := (t.step_claimed policy a).oneRunning h.oneRunning
  oneRelease r q i hr hq := by
    rcases BuildState.step_releases h policy a with
      hs | ⟨k, releasePublicId, image, j, r₀, -, -, hn, hs⟩
    · exact h.oneRelease r q i ((hs r i).mp hr) ((hs q i).mp hq)
    · rcases (hs r i).mp hr with hr | ⟨rfl, rfl⟩
      · rcases (hs q i).mp hq with hq | ⟨rfl, rfl⟩
        · exact h.oneRelease r q i hr hq
        · exact absurd hr (hn r)
      · rcases (hs q i).mp hq with hq | ⟨rfl, -⟩
        · exact absurd hq (hn q)
        · rfl

theorem ClaimsSound.run (h : ClaimsSound t.delivery) (policy) (acts : List BuildAction) :
    ClaimsSound (run (BuildState.step policy) t acts).delivery :=
  run_induction (I := fun t : BuildState => ClaimsSound t.delivery) h
    fun _ a h => h.step policy a

/-- Releases of builds stay. -/
theorem ClaimsSound.releaseOf_run (h : ClaimsSound t.delivery) (policy)
    (acts : List BuildAction) (hr : ReleaseOf t.delivery r i) :
    ReleaseOf (Transition.run (BuildState.step policy) t acts).delivery r i := by
  have hrun : ClaimsSound (Transition.run (BuildState.step policy) t acts).delivery ∧
      ReleaseOf (Transition.run (BuildState.step policy) t acts).delivery r i := by
    refine run_induction
      (I := fun t : BuildState => ClaimsSound t.delivery ∧ ReleaseOf t.delivery r i) ⟨h, hr⟩ ?_
    rintro t a ⟨h, hr⟩
    refine ⟨h.step policy a, ?_⟩
    rcases BuildState.step_releases h policy a with
      hs | ⟨k, releasePublicId, image, j, r₀, -, -, -, hs⟩
    · exact (hs r i).mpr hr
    · exact (hs r i).mpr (.inl hr)
  exact hrun.2

/-- A build that has ended stays as it is. -/
theorem BuildState.step_ended (policy) (a : BuildAction)
    (hl : t.delivery.builds.lookup i = some b) (he : ¬ b.Active) :
    (t.step policy a).delivery.builds.lookup i = some b := by
  cases a with
  | delivery a =>
    simp only [BuildState.step]
    split
    · exact Delivery.step_ended policy a hl he
    · exact hl
  | claimConcurrently worker lease j =>
    simp only [BuildState.step]
    split
    · rename_i builds op h
      obtain ⟨c, hc, hclaim, -, -, rfl⟩ := claimConcurrently_eq_ok h
      refine lookup_modify_of_neg (p := fun j _ => j = op.1) hl ?_
      rintro rfl
      cases hl.symm.trans hc
      exact he (hclaim.2.imp_right And.left)
    · exact hl
  | appendBuildLog =>
    simp only [BuildState.step]
    split <;> exact hl

/-- The calls with a copy that has no hold on its build change nothing. -/
theorem HolderCall.step_of_not_held (policy) {k : ℕ} {op : ClaimedBuild}
    (hk : t.delivery.held.lookup k = some op) (hn : ¬ t.delivery.builds.Any (BuildHeld op))
    (call : HolderCall) : t.step policy (call.action k) = t := by
  cases call with
  | appendBuildLog message =>
    simp only [HolderCall.action, BuildState.step, hk]
    cases hx : Delivery.appendBuildLog t.delivery.builds t.logs op message with
    | error => rfl
    | ok =>
      unfold Delivery.appendBuildLog at hx
      split at hx
      · cases hx
        rfl
      · simp only [ok_iff] at hx
        obtain ⟨_, -, -, hany, -⟩ := hx
        exact absurd hany hn
  | failBuild code message retryable =>
    simp only [HolderCall.action, BuildState.step, Delivery.step, hk]
    cases hx : Delivery.failBuild t.delivery.store.now t.delivery.builds op code message
      retryable with
    | error => exact ite_self t
    | ok => exact absurd (failBuild_eq_ok.mp hx).2.1 hn
  | completeBuild releasePublicId image =>
    simp only [HolderCall.action, BuildState.step, Delivery.step, hk]
    split
    · split
      · rename_i builds releases hx
        obtain ⟨b, hb, hh, -⟩ := completeBuild_eq_ok hx
        exact absurd (any_iff.mpr ⟨op.1, b, hb, hh⟩) hn
      · rfl
    · rfl

/-- **In every run the builds are fenced**, whichever workers claim, crash, come back or shut down,
and however the clock advances. -/
theorem buildFencing_run (policy : PublicationPolicy) (s₀ : BuildState) (h₀ : s₀.Initial)
    (acts : List BuildAction) : BuildFencing policy s₀ acts where
  oneRelease before middle after _ r q i hr hq := by
    have hsound := h₀.claimsSound.run policy before
    rw [run_append] at hq
    exact (hsound.run policy middle).oneRelease r q i (hsound.releaseOf_run policy middle hr) hq
  byLatest before a after _ r i hn hr := by
    rw [run_append, run_cons] at hr
    rcases BuildState.step_releases (h₀.claimsSound.run policy before) policy a with
      hs | ⟨k, releasePublicId, image, j, r₀, ha, hlatest, -, hs⟩
    · exact absurd ((hs r i).mp hr) hn
    · rcases (hs r i).mp hr with hr | ⟨-, rfl⟩
      · exact absurd hr hn
      · exact ⟨k, releasePublicId, image, ha, hlatest⟩
  fenced before after _ k op b hk hb hor call := by
    refine HolderCall.step_of_not_held policy hk (fun hany => ?_) call
    obtain ⟨i, c, hc, hh⟩ := Table.any_iff.mp hany
    obtain rfl : i = op.1 := hh.1
    cases hb.symm.trans hc
    rcases hor with hs | hl
    · exact hs hh.2.1
    · exact hl ((h₀.claimsSound.run policy before).latestClaim hk hb hh)
  ended before a after _ i b hl he := by
    rw [run_append, run_cons]
    exact BuildState.step_ended policy a hl he
  oneRunning before after _ := (h₀.claimsSound.run policy before).oneRunning

/-- A system without builds. -/
def smallBuilds : BuildState := ⟨smallDelivery, .empty⟩

theorem smallBuilds_initial : smallBuilds.Initial := ⟨smallDelivery_initial, by decide, rfl⟩

/-- Two workers have the same build one after the other, and both try to complete it. -/
def reclaimedRun : List BuildAction :=
  [.delivery (.store (.createAppEnvironment (Store.newEnvironment "env-one" []))),
    .delivery (.createBuild (buildRequest "bld-one")),
    .delivery (.claimNextBuild "builder-one" 60),
    .delivery (.store (.tick 61)),
    .claimConcurrently "builder-two" 60 1,
    .appendBuildLog 1 "late",
    .delivery (.completeBuild 1 "rel-late" smallImage),
    .delivery (.completeBuild 2 "rel-new" smallImage)]

/-- Only the second worker makes a release. -/
theorem buildFencing_reclaimedRun :
    smallBuilds.Initial ∧ BuildFencing Store.smallPolicy smallBuilds reclaimedRun ∧
      (managed (run (BuildState.step Store.smallPolicy) smallBuilds
        reclaimedRun).delivery.store.db.releases).length = 1 ∧
      (∃ r ∈ (run (BuildState.step Store.smallPolicy) smallBuilds
          reclaimedRun).delivery.store.db.releases.select fun _ r => r.buildId = some 1,
        r.2.publicId = "rel-new") :=
  ⟨smallBuilds_initial, buildFencing_run Store.smallPolicy smallBuilds smallBuilds_initial
    reclaimedRun, by decide +kernel, by decide +kernel⟩

end Molejo.Delivery
