import Molejo.Delivery.Target

/-!
# Continuous delivery at work

The system is the store together with the builds, the targets and the workers. Build
workers hold the builds they have claimed, each as it was then, and may use what they
hold at any later time; one that has crashed simply does not. A delivery worker is in
the middle of a batch, and within it possibly in the middle of making a deployment.

A step of a delivery worker is one transaction. Between any two of them everything
else may happen: builds end, operations of the store end, users deploy what they like,
and other delivery workers advance the same targets.
-/

namespace Molejo.Delivery

open Transaction Table

/-! ### States and actions -/

/-- Where a delivery worker is in `AdvanceOnce`. -/
inductive Phase
  | idle
  /-- The targets of the batch that are left. -/
  | loop (rest : List TargetSnapshot)
  /-- It has read the environment of the target: the version of its configuration, its version and
  its current deployment. -/
  | deploy (t : TargetSnapshot) (configurationVersion version : ℕ)
      (currentDeploymentPublicId : String) (rest : List TargetSnapshot)
  /-- It has the deployment of the target. -/
  | attach (t : TargetSnapshot) (deploymentId : ℕ) (rest : List TargetSnapshot)

/-- The state of continuous delivery. -/
structure State where
  store : Store.State
  installations : Table GitHubInstallation
  sources : Table GitHubSource
  builds : Table Build
  targets : Table Target
  /-- Every build handed to a worker, as it was then. -/
  held : Table ClaimedBuild
  /-- The delivery workers. -/
  workers : ℕ → Phase

/-- One step. -/
inductive Action
  /-- A step of the store, its workers, its surroundings or the clock. -/
  | store (a : Store.Action)
  /-- Users and GitHub change which repositories are connected. -/
  | connect (installations : Table GitHubInstallation) (sources : Table GitHubSource)
  | createBuild (request : BuildRequest)
  | claimNextBuild (worker : String) (lease : ℕ)
  | failBuild (held : ℕ) (code message : String) (retryable : Bool)
  | completeBuild (held : ℕ) (releasePublicId image : String)
  | releaseBuildClaims (worker : String)
  | createTarget (request : TargetRequest)
  /-- A delivery worker reads a batch. -/
  | poll (worker : ℕ)
  /-- A delivery worker makes its next transaction, with the public ids it may draw. -/
  | advance (worker : ℕ) (deploymentPublicId operationPublicId : String)
  /-- A delivery worker stops where it is, and starts anew. -/
  | stop (worker : ℕ)

/-! ### Steps -/

/-- The worker goes on from the given phase. -/
def State.setPhase (s : State) (worker : ℕ) (phase : Phase) : State :=
  { s with workers := Function.update s.workers worker phase }

@[simp] theorem State.setPhase_self (s : State) (worker : ℕ) (phase : Phase) :
    (s.setPhase worker phase).workers worker = phase :=
  Function.update_self ..

theorem State.setPhase_of_ne (s : State) {worker w : ℕ} (phase : Phase) (h : w ≠ worker) :
    (s.setPhase worker phase).workers w = s.workers w :=
  Function.update_of_ne h ..

/-- Where a worker goes on after an error. -/
def afterError (e : Err) (rest : List TargetSnapshot) : Phase :=
  if Tolerated e then .loop rest else .idle

/-- A transaction on the targets, after which the worker goes on with the rest of its batch. -/
def State.transact (s : State) (worker : ℕ) (x : Except Err (Table Target))
    (rest : List TargetSnapshot) : State :=
  match x with
  | .ok targets => { s with targets := targets }.setPhase worker (.loop rest)
  | .error e => s.setPhase worker (afterError e rest)

/-- The environment of a target, as `FindAppEnvironment` finds it. -/
def findAppEnvironment (db : Db) (t : TargetSnapshot) : Except Err (ℕ × AppEnvironment) :=
  Store.appEnvironmentForUpdate db t.target.workspaceId t.appEnvironmentPublicId

/-- The body of the loop of `AdvanceOnce`, up to its first transaction. -/
def begin (s : State) (worker : ℕ) (t : TargetSnapshot) (rest : List TargetSnapshot) : State :=
  if t.target.status = .deployPending then
    match findAppEnvironment s.store.db t with
    | .ok (_, ae) => s.setPhase worker (.deploy t ae.configurationVersion ae.version
        (Store.currentDeploymentPublicId s.store.db ae) rest)
    | .error e => s.setPhase worker (afterError e rest)
  else
    match t.mark with
    | some (status, code, message) =>
      s.transact worker (markDeliveryTarget s.store.now s.targets t.id status code message) rest
    | none => s.setPhase worker (.loop rest)

/-- One transaction of a delivery worker. -/
def advance (policy : PublicationPolicy) (s : State) (worker : ℕ)
    (deploymentPublicId operationPublicId : String) : State :=
  match s.workers worker with
  | .idle => s
  | .loop [] => s.setPhase worker .idle
  | .loop (t :: rest) => begin s worker t rest
  | .deploy t configurationVersion version current rest =>
    match createDeployment policy s.store.now s.store.db t configurationVersion version current
        deploymentPublicId operationPublicId with
    | .ok (db, i) =>
      { s with store := { s.store with db := db } }.setPhase worker (.attach t i rest)
    | .error e => s.setPhase worker (afterError e rest)
  | .attach t i rest => s.transact worker (attachDeliveryDeployment s.targets t.id i) rest

/-- A transaction on the builds. -/
def State.commitBuilds (s : State) (x : Except Err (Table Build)) : State :=
  { s with builds := commit s.builds x }

/-- One step. -/
def step (policy : PublicationPolicy) (s : State) : Action → State
  | .store a => { s with store := Store.step policy s.store a }
  | .connect installations sources => { s with installations := installations, sources := sources }
  | .createBuild request => s.commitBuilds
      (createBuildWithMetadata s.store.db s.installations s.sources s.builds request)
  | .claimNextBuild worker lease =>
    match claimNextBuild s.store.now lease worker s.builds with
    | .ok (some (builds, op)) => { s with builds := builds, held := s.held.insert op }
    | _ => s
  | .failBuild k code message retryable =>
    match s.held.lookup k with
    | some op => s.commitBuilds (failBuild s.store.now s.builds op code message retryable)
    | none => s
  | .completeBuild k releasePublicId image =>
    match s.held.lookup k with
    | some op =>
      match completeBuild s.store.now s.store.db.releases s.builds op releasePublicId image with
      | .ok (builds, releases) =>
        { s with
          builds := builds
          store := { s.store with db := { s.store.db with releases := releases } } }
      | .error _ => s
    | none => s
  | .releaseBuildClaims worker => s.commitBuilds (releaseBuildClaims s.builds worker)
  | .createTarget request =>
    match createDeliveryTargetBuild s.store.now s.store.db s.installations s.builds s.targets
        request with
    | .ok (builds, targets) => { s with builds := builds, targets := targets }
    | .error _ => s
  | .poll worker => s.setPhase worker
      (.loop (deliveryTargetsToAdvance s.store.db s.builds s.targets))
  | .advance worker deploymentPublicId operationPublicId =>
    advance policy s worker deploymentPublicId operationPublicId
  | .stop worker => s.setPhase worker .idle

/-- What continuous delivery starts from. -/
structure Initial (s : State) : Prop where
  store : Store.Initial s.store
  builds : s.builds = .empty
  targets : s.targets = .empty
  held : s.held = .empty
  workers : ∀ w, s.workers w = .idle

/-- The target an action creates a deployment for: its worker is about to, and the transaction
commits with a deployment that was not there. -/
def deploysFor (policy : PublicationPolicy) (s : State) : Action → Option ℕ
  | .advance worker deploymentPublicId operationPublicId =>
    match s.workers worker with
    | .deploy t configurationVersion version current _ =>
      match createDeployment policy s.store.now s.store.db t configurationVersion version current
          deploymentPublicId operationPublicId with
      | .ok (db, _) =>
        if db.deployments.nextId = s.store.db.deployments.nextId then none else some t.id
      | .error _ => none
    | _ => none
  | _ => none

/-! ### What a step does to a build -/

/-- What may happen to the build under `i` in one step. -/
inductive BuildStep (s : State) (i : ℕ) (b : Build) : Action → Build → Prop
  | same (a : Action) : BuildStep s i b a b
  | claim (worker : String) (lease : ℕ) (hl : 0 < lease)
      (hc : Candidate s.store.now s.builds b) :
      BuildStep s i b (.claimNextBuild worker lease) (claimRow s.store.now lease worker b)
  | fail (k : ℕ) (code message : String) (retryable : Bool) (op : ClaimedBuild)
      (hk : s.held.lookup k = some op) (hh : BuildHeld op i b) :
      BuildStep s i b (.failBuild k code message retryable)
        (failRow s.store.now (failedStatus op.2.attempts code retryable) code message b)
  | succeed (k : ℕ) (releasePublicId image : String) (op : ClaimedBuild)
      (hk : s.held.lookup k = some op) (hh : BuildHeld op i b) :
      BuildStep s i b (.completeBuild k releasePublicId image) (succeedRow s.store.now b)
  | release (worker : String) (hr : RunBy worker b) :
      BuildStep s i b (.releaseBuildClaims worker) (releaseRow b)
  | supersede (request : TargetRequest) (hp : b.status = .pending) :
      BuildStep s i b (.createTarget request) (supersedeBuildRow s.store.now b)

section Builds

variable {policy : PublicationPolicy} {s : State} {a : Action} {i : ℕ} {b : Build}

/-- The build under `i` is still there, and one of these happened to it. -/
def BuildLives (s : State) (a : Action) (i : ℕ) (b : Build) (builds : Table Build) : Prop :=
  ∃ b', builds.lookup i = some b' ∧ BuildStep s i b a b'

/-- The steps of delivery workers leave the builds alone. -/
theorem advance_builds (policy) (s : State) (worker : ℕ)
    (deploymentPublicId operationPublicId : String) :
    (advance policy s worker deploymentPublicId operationPublicId).builds = s.builds ∧
      (advance policy s worker deploymentPublicId operationPublicId).held = s.held ∧
      (advance policy s worker deploymentPublicId operationPublicId).store.now = s.store.now := by
  unfold advance begin State.transact
  split
  · exact ⟨rfl, rfl, rfl⟩
  · exact ⟨rfl, rfl, rfl⟩
  · split
    · split <;> exact ⟨rfl, rfl, rfl⟩
    · split
      · split <;> exact ⟨rfl, rfl, rfl⟩
      · exact ⟨rfl, rfl, rfl⟩
  · split <;> exact ⟨rfl, rfl, rfl⟩
  · split <;> exact ⟨rfl, rfl, rfl⟩

/-- **What a step does to the builds.** Those that are new wait for their first attempt. -/
theorem step_builds (policy) (s : State) (a : Action) :
    Evolves (fun i b => BuildStep s i b a) (fun _ b => b.Fresh) s.builds
      (step policy s a).builds := by
  have hsame (i : ℕ) (b : Build) : BuildStep s i b a b := .same a
  have hcommit {x : Except Err (Table Build)}
      (h : ∀ builds', x = .ok builds' →
        Evolves (fun i b => BuildStep s i b a) (fun _ b => b.Fresh) s.builds builds') :
      Evolves (fun i b => BuildStep s i b a) (fun _ b => b.Fresh) s.builds
        (s.commitBuilds x).builds := by
    cases x with
    | error => exact .refl hsame
    | ok builds' => exact h builds' rfl
  cases a with
  | createBuild =>
    refine hcommit fun builds' h => ?_
    rcases createBuildWithMetadata_eq_ok h with rfl | ⟨_, hb, rfl⟩
    · exact .refl hsame
    · exact Evolves.insert (.refl hsame) hb
  | claimNextBuild worker lease =>
    simp only [step]
    split
    · rename_i builds' op h
      obtain ⟨hlease, _, hb, hc, -, rfl⟩ := claimNextBuild_eq_ok h
      dsimp only
      refine .of_modify hsame fun i b hl hi => ?_
      subst hi
      cases hl.symm.trans hb
      exact .claim worker lease hlease hc
    · exact .refl hsame
  | failBuild k code message retryable =>
    simp only [step]
    split
    · rename_i op hk
      refine hcommit fun builds' h => ?_
      obtain ⟨-, -, rfl⟩ := failBuild_eq_ok.mp h
      exact .of_modify hsame fun i b _ hh => .fail k code message retryable op hk hh
    · exact .refl hsame
  | completeBuild k releasePublicId image =>
    simp only [step]
    split
    · rename_i op hk
      split
      · rename_i builds' releases h
        obtain ⟨-, -, -, -, rfl, -⟩ := completeBuild_eq_ok h
        dsimp only
        exact .of_modify hsame fun i b _ hh => .succeed k releasePublicId image op hk hh
      · exact .refl hsame
    · exact .refl hsame
  | releaseBuildClaims worker =>
    refine hcommit fun builds' h => ?_
    rw [releaseBuildClaims_eq_ok h]
    exact .of_modify hsame fun i b _ hr => .release worker hr
  | createTarget request =>
    simp only [step]
    split
    · rename_i builds' targets h
      rcases createDeliveryTargetBuild_eq_ok h with ⟨rfl, -⟩ | ⟨-, rfl, -⟩
      · exact .refl hsame
      · refine Evolves.insert (u := s.builds.modify _ _) (.of_modify hsame ?_) ⟨rfl, rfl, rfl⟩
        exact fun i b _ hp => .supersede request hp.2.1
    · exact .refl hsame
  | advance worker =>
    simp only [step, (advance_builds policy s worker _ _).1]
    exact .refl hsame
  | _ => exact .refl hsame

theorem step_build (policy) (a : Action) (hl : s.builds.lookup i = some b) :
    BuildLives s a i b (step policy s a).builds :=
  (step_builds policy s a).lives i b hl

/-- A step hands out a build that was claimed, or nothing. -/
theorem step_claims (policy) (s : State) (a : Action) :
    (∃ worker lease builds op, a = .claimNextBuild worker lease ∧
      claimNextBuild s.store.now lease worker s.builds = .ok (some (builds, op)) ∧
      step policy s a = { s with builds := builds, held := s.held.insert op }) ∨
    (step policy s a).held = s.held ∧
      ((∀ worker lease, a ≠ .claimNextBuild worker lease) ∨ step policy s a = s) := by
  cases a with
  | claimNextBuild worker lease =>
    simp only [step]
    split
    · rename_i builds op h
      exact .inl ⟨worker, lease, builds, op, rfl, h, rfl⟩
    · exact .inr ⟨rfl, .inr rfl⟩
  | failBuild | createTarget =>
    simp only [step]
    split <;> exact .inr ⟨rfl, .inl nofun⟩
  | completeBuild =>
    simp only [step]
    split
    · split <;> exact .inr ⟨rfl, .inl nofun⟩
    · exact .inr ⟨rfl, .inl nofun⟩
  | advance worker =>
    exact .inr ⟨(advance_builds policy s worker _ _).2.1, .inl nofun⟩
  | _ => exact .inr ⟨rfl, .inl nofun⟩

/-- A worker holds what it held, and a build it has just claimed. -/
theorem step_held (policy) (a : Action) {k : ℕ} {op : ClaimedBuild}
    (hl : (step policy s a).held.lookup k = some op) :
    s.held.lookup k = some op ∨ ∃ worker lease b, a = .claimNextBuild worker lease ∧
      s.builds.lookup op.1 = some b ∧ op.2 = claimRow s.store.now lease worker b := by
  rcases step_claims policy s a with ⟨worker, lease, _, _, ha, h, hs⟩ | ⟨hs, -⟩
  · obtain ⟨-, b, hb, -, hq, -⟩ := claimNextBuild_eq_ok h
    rw [hs] at hl
    rcases lookup_insert_eq_some.mp hl with ⟨-, rfl⟩ | hl
    · exact .inr ⟨worker, lease, b, ha, hb, hq⟩
    · exact .inl hl
  · rw [hs] at hl
    exact .inl hl

/-- What was handed out stays handed out. -/
theorem step_held_of_held (policy) (a : Action) {k : ℕ} {op : ClaimedBuild}
    (hk : s.held.lookup k = some op) : (step policy s a).held.lookup k = some op := by
  rcases step_claims policy s a with ⟨_, _, _, _, -, -, hs⟩ | ⟨hs, -⟩
  · rw [hs]
    exact lookup_insert_of_lookup hk
  · rwa [hs]

end Builds

/-! ### A small system -/

/-- The small store, with a repository connected to each of its two applications. -/
def smallDelivery : State where
  store := Store.smallStore
  installations := Table.empty.insert ⟨100, 1, true⟩
  sources := (Table.empty.insert ⟨1, 1, 55⟩).insert ⟨2, 1, 56⟩
  builds := .empty
  targets := .empty
  held := .empty
  workers := fun _ => .idle

theorem smallDelivery_initial : Initial smallDelivery :=
  ⟨Store.smallStore_initial, rfl, rfl, rfl, fun _ => rfl⟩

/-- A commit. -/
def smallCommit : String := "0123456789abcdef0123456789abcdef01234567"

/-- A user's request for a build of the environment `env-one`. -/
def buildRequest (publicId : String) : BuildRequest where
  workspaceId := 1
  actorId := 1
  publicId := publicId
  projectPublicId := "prj-one"
  appPublicId := "app-one"
  appEnvironmentPublicId := "env-one"
  sourceBranch := "main"
  commitSha := smallCommit
  idempotencyHash := sha256 publicId
  payloadHash := sha256 publicId

/-- The target a push makes in the environment `env-one`. -/
def targetRequest (delivery : ℕ) (name : String) : TargetRequest where
  delivery := ⟨delivery, name, 100, 55⟩
  candidate := ⟨1, 1, 1, 1, "env-one", "main", 1⟩
  commitSha := smallCommit
  trigger := .push
  targetPublicId := "tgt-" ++ name
  buildPublicId := "bld-" ++ name

/-- The image of a build. -/
def smallImage : String := "registry/app@sha256:" ++ smallCommit ++ "0123456789abcdef01234567"

/-- The result of deploying a release at a version of the environment. -/
def deployed (release : String) (version : ℕ) : Store.RuntimeResult :=
  { Store.goodResult with desiredVersion := version, observedRelease := release }

end Molejo.Delivery
