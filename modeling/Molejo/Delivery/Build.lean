import Molejo.Store.System

/-!
# Builds

A build turns a commit into a release. It is queued by a user or by a delivery from
GitHub, claimed by a worker for the time of a lease, and ends `Succeeded`, `Failed`,
`TimedOut` or `Superseded`. It may be attempted three times: an attempt that fails
for a passing reason puts it back in the queue, and so does a worker that shuts down.

Four rules are left to the database. An environment has at most one build running, at
most one waiting that a user asked for and at most one waiting that was delivered;
and a delivery makes at most one build for an environment. A statement that would
break one of them fails, and nothing is changed.
-/

namespace Molejo.Delivery

open Transaction Table

/-! ### Rows -/

/-- The column `status` of `builds`. -/
inductive BuildStatus
  | pending
  | running
  | succeeded
  | failed
  | superseded
  | timedOut
deriving DecidableEq

/-- The column `trigger_type` of `builds` and `delivery_targets`. -/
inductive TriggerType
  | manual
  | push
  | release
deriving DecidableEq

/-- A row of `github_installations`; `active` says that `status` is `Active`. -/
structure GitHubInstallation where
  externalId : ℕ
  workspaceId : ℕ
  active : Bool
deriving DecidableEq

/-- A row of `app_github_sources`. -/
structure GitHubSource where
  appId : ℕ
  installationId : ℕ
  repositoryId : ℕ
deriving DecidableEq

/-- A row of `builds`. -/
structure Build where
  publicId : String
  workspaceId : ℕ
  projectId : ℕ
  appId : ℕ
  appEnvironmentId : ℕ
  requestedByUserId : ℕ
  installationExternalId : ℕ
  repositoryId : ℕ
  sourceBranch : String
  commitSha : String
  triggerType : TriggerType
  deliveryId : Option ℕ
  status : BuildStatus
  attempts : ℕ
  workerId : Option String
  fencingToken : ℕ
  leaseUntil : Option Time
  errorCode : Option String
  errorMessage : Option String
  startedAt : Option Time
  completedAt : Option Time
  idempotencyHash : Digest
  payloadHash : Digest
deriving DecidableEq

/-- `Pending` or `Running`. -/
def Build.Active (b : Build) : Prop := b.status = .pending ∨ b.status = .running
deriving Decidable

/-- `domain.Build` as a worker holds it: the key of a row and its columns when it was claimed. -/
abbrev ClaimedBuild := ℕ × Build

/-- The two builds fall under the same of the indexes
`builds_one_pending_manual_per_app_environment` and
`builds_one_pending_delivery_per_app_environment`. -/
def Build.SameQueue (b c : Build) : Prop :=
  b.appEnvironmentId = c.appEnvironmentId ∧ (b.triggerType = .manual ↔ c.triggerType = .manual)
deriving Decidable

/-- Another build than the one under `i` waits in the queue of `b`. -/
def QueueTaken (builds : Table Build) (i : ℕ) (b : Build) : Prop :=
  builds.Any fun j c => j ≠ i ∧ c.status = .pending ∧ c.SameQueue b
deriving Decidable

/-- `INSERT INTO builds`, with the indexes and the unique keys of the table. -/
def insertBuild (builds : Table Build) (b : Build) : Except Err (Table Build) := do
  require (¬ builds.Any fun _ c => c.publicId = b.publicId) .publicIDCollision
  require (¬ (QueueTaken builds builds.nextId b ∨ builds.Any fun _ c =>
    c.workspaceId = b.workspaceId ∧ c.requestedByUserId = b.requestedByUserId ∧
        c.idempotencyHash = b.idempotencyHash ∨
      c.deliveryId ≠ none ∧ c.deliveryId = b.deliveryId ∧
        c.appEnvironmentId = b.appEnvironmentId)) .conflict
  pure (builds.insert b)

/-! ### Creating -/

/-- The text consists of that many lower-case hexadecimal digits. -/
def isHexOfLength (length : ℕ) (text : List Char) : Bool :=
  text.length = length && text.all fun c => c.isDigit || ('a' ≤ c && c ≤ 'f')

/-- `ValidateCommitSHA`. -/
def CommitShaValid (sha : String) : Prop := isHexOfLength 40 sha.toList = true
deriving Decidable

/-- What `NormalizeSourceBranch` accepts; it is applied to a branch without surrounding space. -/
def SourceBranchValid (branch : String) : Prop :=
  Store.isBlank branch = false ∧ branch.length ≤ 255 ∧
    branch.toList.all (!Store.isControl ·) = true
deriving Decidable

/-- The request of `CreateBuildWithMetadata`. -/
structure BuildRequest where
  workspaceId : ℕ
  actorId : ℕ
  publicId : String
  projectPublicId : String
  appPublicId : String
  appEnvironmentPublicId : String
  sourceBranch : String
  commitSha : String
  idempotencyHash : Digest
  payloadHash : Digest

/-- The row of a build that waits for its first attempt. -/
def newBuild (publicId : String) (workspaceId projectId appId appEnvironmentId userId externalId
    repositoryId : ℕ) (sourceBranch commitSha : String) (triggerType : TriggerType)
    (deliveryId : Option ℕ) (idempotencyHash payloadHash : Digest) : Build where
  publicId := publicId
  workspaceId := workspaceId
  projectId := projectId
  appId := appId
  appEnvironmentId := appEnvironmentId
  requestedByUserId := userId
  installationExternalId := externalId
  repositoryId := repositoryId
  sourceBranch := sourceBranch
  commitSha := commitSha
  triggerType := triggerType
  deliveryId := deliveryId
  status := .pending
  attempts := 0
  workerId := none
  fencingToken := 0
  leaseUntil := none
  errorCode := none
  errorMessage := none
  startedAt := none
  completedAt := none
  idempotencyHash := idempotencyHash
  payloadHash := payloadHash

/-- The join the row of a new build is selected from: the environment of the application of the
project, none of them archived, with the source of the application on an active installation. -/
def buildSource (db : Db) (installations : Table GitHubInstallation)
    (sources : Table GitHubSource) (request : BuildRequest) : Except Err Build := do
  let project ← expect (db.projects.first fun _ p => p.workspaceId = request.workspaceId ∧
    p.publicId = request.projectPublicId ∧ p.archivedAt = none) .notFound
  let app ← expect (db.apps.first fun _ a => a.projectId = project.1 ∧
    a.publicId = request.appPublicId ∧ a.archivedAt = none) .notFound
  let ae ← expect (db.appEnvironments.first fun _ ae => ae.appId = app.1 ∧
    ae.publicId = request.appEnvironmentPublicId ∧ ae.archivedAt = none ∧
    ae.deletionRequestedAt = none) .notFound
  let source ← expect (sources.first fun _ src => src.appId = app.1) .notFound
  let installation ← expect (installations.lookup source.2.installationId) .notFound
  require (installation.workspaceId = request.workspaceId ∧ installation.active = true) .notFound
  pure (newBuild request.publicId request.workspaceId project.1 app.1 ae.1 request.actorId
    installation.externalId source.2.repositoryId request.sourceBranch request.commitSha .manual
    none request.idempotencyHash request.payloadHash)

/-- `CreateBuildWithMetadata`: a request made before is answered from the build it made. -/
def createBuildWithMetadata (db : Db) (installations : Table GitHubInstallation)
    (sources : Table GitHubSource) (builds : Table Build) (request : BuildRequest) :
    Except Err (Table Build) := do
  require (SourceBranchValid request.sourceBranch ∧ CommitShaValid request.commitSha)
    .invalidArgument
  match builds.first fun _ b => b.workspaceId = request.workspaceId ∧
      b.requestedByUserId = request.actorId ∧ b.idempotencyHash = request.idempotencyHash with
  | some (_, existing) => do
    require (existing.payloadHash = request.payloadHash) .conflict
    pure builds
  | none => do
    let b ← buildSource db installations sources request
    insertBuild builds b

/-! ### Claiming -/

/-- The lease of a running build has run out. -/
def Build.Expired (now : Time) (b : Build) : Prop := ∃ t ∈ b.leaseUntil, t < now
deriving Decidable

/-- A build of the environment is running. -/
def HasRunning (builds : Table Build) (appEnvironmentId : ℕ) : Prop :=
  builds.Any fun _ b => b.appEnvironmentId = appEnvironmentId ∧ b.status = .running
deriving Decidable

/-- The condition of the query of `ClaimNextBuild`. -/
def Candidate (now : Time) (builds : Table Build) (b : Build) : Prop :=
  b.attempts < 3 ∧ (b.status = .pending ∨ b.status = .running ∧ b.Expired now) ∧
    (b.status = .running ∨ ¬ HasRunning builds b.appEnvironmentId)
deriving Decidable

/-- The row of a build that was claimed. -/
def claimRow (now lease : Time) (worker : String) (b : Build) : Build :=
  { b with
    status := .running
    attempts := b.attempts + 1
    workerId := some worker
    fencingToken := b.fencingToken + 1
    leaseUntil := some (now + lease)
    startedAt := some (b.startedAt.getD now)
    errorCode := none
    errorMessage := none }

/-- `ClaimNextBuild`: the first candidate, claimed; `none` if there is none. -/
def claimNextBuild (now lease : Time) (worker : String) (builds : Table Build) :
    Except Err (Option (Table Build × ClaimedBuild)) := do
  require (Store.isBlank worker = false ∧ 0 < lease) .invalidArgument
  match builds.first fun _ b => Candidate now builds b with
  | none => pure none
  | some (i, b) =>
    pure (some (builds.modify (fun j _ => j = i) (claimRow now lease worker),
      (i, claimRow now lease worker b)))

/-! ### Ending an attempt -/

/-- The guard of the updates that end an attempt: the build is running, under the worker and the
token of the copy. The lease is not compared. -/
def BuildHeld (op : ClaimedBuild) (i : ℕ) (b : Build) : Prop :=
  i = op.1 ∧ b.status = .running ∧ (b.workerId ≠ none ∧ b.workerId = op.2.workerId) ∧
    b.fencingToken = op.2.fencingToken
deriving Decidable

/-- The status `FailBuild` writes. -/
def failedStatus (attempts : ℕ) (code : String) (retryable : Bool) : BuildStatus :=
  if retryable = true ∧ attempts < 3 then .pending
  else if code = "build_timeout" then .timedOut
  else .failed

/-- The row of a build whose attempt has failed. -/
def failRow (now : Time) (status : BuildStatus) (code message : String) (b : Build) : Build :=
  { b with
    status := status
    workerId := none
    leaseUntil := none
    errorCode := some code
    errorMessage := some message
    completedAt := if status = .pending then none else some now }

/-- `FailBuild`. Whether the attempt was the last is read off the copy. -/
def failBuild (now : Time) (builds : Table Build) (op : ClaimedBuild) (code message : String)
    (retryable : Bool) : Except Err (Table Build) := do
  let status := failedStatus op.2.attempts code retryable
  require (¬ (status = .pending ∧ builds.Any fun i b => BuildHeld op i b ∧ QueueTaken builds i b))
    .uniqueViolation
  require (builds.Any (BuildHeld op)) .conflict
  pure (builds.modify (BuildHeld op) (failRow now status code message))

/-- `strings.Cut` at the first `@`: the repository and the digest. -/
def cutImage (image : String) : List Char × List Char :=
  let repository := image.toList.takeWhile (· ≠ '@')
  (repository, image.toList.drop (repository.length + 1))

/-- `ReleaseImageReference` accepts the two parts of the image, and so gives back the image. -/
def ImageValid (image : String) : Prop :=
  (cutImage image).1.length < image.length ∧
  (∃ c ∈ (cutImage image).1.head?, c.isLower = true ∨ c.isDigit = true) ∧
  ((cutImage image).1.all fun c =>
    c.isLower || c.isDigit || c ∈ ['.', '_', ':', '/', '-']) = true ∧
  ':' ∉ (cutImage image).1.reverse.takeWhile (· ≠ '/') ∧
  (cutImage image).2.take 7 = "sha256:".toList ∧
  isHexOfLength 64 ((cutImage image).2.drop 7) = true
deriving Decidable

/-- The row of a build that has succeeded. -/
def succeedRow (now : Time) (b : Build) : Build :=
  { b with
    status := .succeeded
    workerId := none
    leaseUntil := none
    errorCode := none
    errorMessage := none
    completedAt := some now }

/-- The release of a build. -/
def Build.release (b : Build) (i : ℕ) (publicId : String) : Release where
  publicId := publicId
  workspaceId := b.workspaceId
  appId := b.appId
  buildId := some i
  available := true

/-- `CompleteBuild`: the build has succeeded and its release is there. -/
def completeBuild (now : Time) (releases : Table Release) (builds : Table Build)
    (op : ClaimedBuild) (releasePublicId image : String) :
    Except Err (Table Build × Table Release) := do
  require (ImageValid image) .invalidArgument
  let held ← expect (builds.first (BuildHeld op)) .conflict
  require (¬ releases.Any fun _ r => r.publicId = releasePublicId) .publicIDCollision
  require (¬ releases.Any fun _ r => r.buildId = some held.1) .conflict
  pure (builds.modify (BuildHeld op) (succeedRow now),
    releases.insert (held.2.release held.1 releasePublicId))

/-- The row of a build whose worker has shut down. -/
def releaseRow (b : Build) : Build :=
  { b with status := .pending, workerId := none, leaseUntil := none }

/-- The build is running under that worker. -/
def RunBy (worker : String) (b : Build) : Prop := b.status = .running ∧ b.workerId = some worker
deriving Decidable

/-- `ReleaseBuildClaims`: one statement, which fails as a whole if a build of the worker cannot
go back to its queue. -/
def releaseBuildClaims (builds : Table Build) (worker : String) : Except Err (Table Build) := do
  require (¬ builds.Any fun i b => RunBy worker b ∧ QueueTaken builds i b) .uniqueViolation
  pure (builds.modify (fun _ b => RunBy worker b) releaseRow)

/-! ### What a committed transaction did -/

section Specs

variable {now lease : Time} {builds builds' : Table Build} {op : ClaimedBuild}

/-- A build that waits for its first attempt. -/
def Build.Fresh (b : Build) : Prop :=
  b.status = .pending ∧ b.attempts = 0 ∧ b.fencingToken = 0

theorem insertBuild_eq_ok {b : Build} (h : insertBuild builds b = .ok builds') :
    builds' = builds.insert b := by
  simp only [insertBuild, ok_iff] at h
  exact h.2.2.symm

/-- A request for a build changes nothing, or adds one that waits. -/
theorem createBuildWithMetadata_eq_ok {db : Db} {installations : Table GitHubInstallation}
    {sources : Table GitHubSource} {request : BuildRequest}
    (h : createBuildWithMetadata db installations sources builds request = .ok builds') :
    builds' = builds ∨ ∃ b, b.Fresh ∧ builds' = builds.insert b := by
  simp only [createBuildWithMetadata, ok_iff] at h
  obtain ⟨-, h⟩ := h
  split at h
  · simp only [ok_iff] at h
    exact .inl h.2.symm
  · simp only [bind_eq_ok] at h
    obtain ⟨_, hb, hi⟩ := h
    simp only [buildSource, ok_iff] at hb
    obtain ⟨_, -, _, -, _, -, _, -, _, -, -, rfl⟩ := hb
    exact .inr ⟨_, ⟨rfl, rfl, rfl⟩, insertBuild_eq_ok hi⟩

/-- What claiming a build does. -/
theorem claimNextBuild_eq_ok {worker : String}
    (h : claimNextBuild now lease worker builds = .ok (some (builds', op))) :
    0 < lease ∧ ∃ b, builds.lookup op.1 = some b ∧ Candidate now builds b ∧
      op.2 = claimRow now lease worker b ∧
      builds' = builds.modify (fun j _ => j = op.1) (claimRow now lease worker) := by
  simp only [claimNextBuild, ok_iff] at h
  obtain ⟨⟨-, hlease⟩, h⟩ := h
  refine ⟨hlease, ?_⟩
  split at h
  · cases h
  · rename_i i b hf
    cases h
    exact ⟨b, lookup_of_first hf, pos_of_first hf, rfl, rfl⟩

/-- A worker finds a build to claim if there is a candidate. -/
theorem exists_claimNextBuild (worker : String) (lease : ℕ)
    (hw : Store.isBlank worker = false) (hlease : 0 < lease)
    (h : builds.Any fun _ b => Candidate now builds b) :
    ∃ builds' op, claimNextBuild now lease worker builds = .ok (some (builds', op)) := by
  obtain ⟨i, b, hf⟩ := exists_first h
  refine ⟨builds.modify (fun j _ => j = i) (claimRow now lease worker),
    (i, claimRow now lease worker b), ?_⟩
  simp only [claimNextBuild, require, if_pos (And.intro hw hlease), ok_bind, hf]
  rfl

theorem failBuild_eq_ok {code message : String} {retryable : Bool} :
    failBuild now builds op code message retryable = .ok builds' ↔
      (¬ (failedStatus op.2.attempts code retryable = .pending ∧
        builds.Any fun i b => BuildHeld op i b ∧ QueueTaken builds i b)) ∧
      builds.Any (BuildHeld op) ∧
      builds.modify (BuildHeld op)
        (failRow now (failedStatus op.2.attempts code retryable) code message) = builds' := by
  simp only [failBuild, ok_iff]

/-- A build that was completed was held, and had no release. -/
theorem completeBuild_eq_ok {releases releases' : Table Release} {releasePublicId image : String}
    (h : completeBuild now releases builds op releasePublicId image = .ok (builds', releases')) :
    ∃ b, builds.lookup op.1 = some b ∧ BuildHeld op op.1 b ∧
      (¬ releases.Any fun _ r => r.buildId = some op.1) ∧
      builds' = builds.modify (BuildHeld op) (succeedRow now) ∧
      releases' = releases.insert (b.release op.1 releasePublicId) := by
  simp only [completeBuild, ok_iff, Prod.mk.injEq] at h
  obtain ⟨-, ⟨i, b⟩, hf, -, hn, rfl, rfl⟩ := h
  have hh : BuildHeld op i b := pos_of_first hf
  obtain rfl : i = op.1 := hh.1
  exact ⟨b, lookup_of_first hf, hh, hn, rfl, rfl⟩

theorem releaseBuildClaims_eq_ok {worker : String}
    (h : releaseBuildClaims builds worker = .ok builds') :
    builds' = builds.modify (fun _ b => RunBy worker b) releaseRow := by
  simp only [releaseBuildClaims, ok_iff] at h
  exact h.2.symm

end Specs

end Molejo.Delivery
