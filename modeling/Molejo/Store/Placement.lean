import Molejo.Store.System

/-!
# Placing a workspace again

A workspace is prepared on a cluster by an `EnsureWorkspace` operation. If that
fails for good, or the cluster is revoked, something has to ask for it once more.
Two calls look as if they could, and neither does.

`AttachWorkspaceCluster` always inserts a row of `workspace_clusters`, so it is
refused as soon as there is one, whatever state that is in
(`attachWorkspaceCluster_places_iff`). `Bootstrap` looks for an operation that is
still active before it inserts one, but the key it inserts it under is the same at
every call: the operation that failed still holds it (`bootstrap_rerun_iff`).
-/

namespace Molejo.Store

open Transaction Table Transition

variable {now : Time} {db : Db} {i : ℕ}

/-- An operation that prepares the workspace waits to be claimed. -/
def Placing (db : Db) (workspaceId : ℕ) (installationId : Option ℕ) : Prop :=
  ∃ k o, db.operations.lookup k = some o ∧ o.kind = .ensureWorkspace ∧ o.status = .pending ∧
    o.workspaceId = workspaceId ∧ o.agentInstallationId = installationId

/-! ### Attaching -/

/-- The workspace, or one of its namespace, has a row on the cluster. -/
def Placed (db : Db) (workspaceId installationId : ℕ) : Prop :=
  db.workspaceClusters.Any fun _ wc => wc.installationId = installationId ∧
    (wc.workspaceId = workspaceId ∨
      ∃ w ∈ db.workspaces.lookup workspaceId, wc.namespaceName = w.namespaceName)

/-- The cluster `i` of the request is active, its workspace and its user are there, its key and
the id that is drawn for the operation are fresh, and the workspace is not being prepared there. -/
structure Attachable (db : Db) (request : Attachment) (i : ℕ) : Prop where
  cluster : ∃ row, db.installations.first (fun _ r => r.publicId = request.clusterPublicId ∧
    r.status = .active) = some (i, row)
  workspace : ∃ w, db.workspaces.lookup request.workspaceId = some w
  actor : ∃ u, db.users.lookup request.actorId = some u
  key : ∀ k o, db.operations.lookup k = some o → o.workspaceId = request.workspaceId →
    o.idempotencyHash ≠ request.idempotencyHash
  publicId : ∀ k o, db.operations.lookup k = some o → o.publicId ≠ request.operationPublicId
  idle : ∀ k o, db.operations.lookup k = some o → o.kind = .ensureWorkspace →
    o.workspaceId = request.workspaceId → o.agentInstallationId = some i → ¬ o.Active

/-- **A workspace is attached to a cluster once**: a request that could be served is, if and only
if there is no row for it, whatever state that row is in. -/
theorem attachWorkspaceCluster_places_iff {request : Attachment} (h : Attachable db request i) :
    (∃ db', attachWorkspaceCluster now db request = .ok db' ∧
      Placing db' request.workspaceId (some i)) ↔ ¬ Placed db request.workspaceId i := by
  obtain ⟨row, hrow⟩ := h.cluster
  obtain ⟨w, hw⟩ := h.workspace
  obtain ⟨u, hu⟩ := h.actor
  have hkey : operationByPrincipalIdempotency db request.workspaceId u.principalId
      request.idempotencyHash request.payloadHash = .ok none := by
    rw [operationByPrincipalIdempotency, Table.first_eq_none.mpr]
    exact fun k o ho hk => h.key k o ho hk.1 hk.2.2
  have hplaced : Placed db request.workspaceId i ↔ db.workspaceClusters.Any fun _ wc =>
      wc.installationId = i ∧ (wc.workspaceId = request.workspaceId ∨
        wc.namespaceName = w.namespaceName) := by
    simp [Placed, hw]
  simp only [attachWorkspaceCluster, principalIdForUser, hu, hkey, attachCluster, hrow, hw, ok_iff,
    insertRow_eq_ok, hplaced, Option.some.injEq, exists_eq_left', Except.ok.injEq]
  constructor
  · rintro ⟨db', ⟨hno, -⟩, -⟩
    exact hno
  · intro hno
    refine ⟨_, ⟨hno, _, ⟨⟨?_, Nat.one_pos, .inl ⟨rfl, rfl, rfl, rfl⟩, ?_⟩, rfl⟩, rfl⟩,
      _, _, Table.lookup_insert_self, rfl, rfl, rfl, rfl⟩
    · exact Table.not_any_iff.mpr h.publicId
    · refine Table.not_any_iff.mpr fun k o ho => ?_
      rintro (⟨-, hne, he⟩ | ⟨ha, hk, -, hws, hi, -⟩ | ⟨hws, hkey, -⟩)
      · exact hne he
      · exact h.idle k o ho hk hws hi ha
      · exact h.key k o ho hws hkey

/-- The small store before its workspace is placed on the cluster. -/
def unplacedStore : State :=
  { smallStore with
    db := { smallStore.db with
      workspaces := Table.empty.insert ⟨"wsp-one", "ws-one", .pending⟩
      workspaceClusters := .empty } }

/-- A request to place it. -/
def placement (operationPublicId key : String) : Attachment :=
  ⟨1, 1, "cls-one", operationPublicId, sha256 key, sha256 "cls-one"⟩

/-- A first request is served. -/
theorem attachWorkspaceCluster_places_first :
    ∃ db', attachWorkspaceCluster 0 unplacedStore.db (placement "op-one" "one") = .ok db' ∧
      Placing db' 1 (some 1) := by
  have hnone (k : ℕ) (o : Operation) : unplacedStore.db.operations.lookup k ≠ some o := nofun
  refine (attachWorkspaceCluster_places_iff ⟨⟨_, rfl⟩, ⟨_, rfl⟩, ⟨_, rfl⟩, ?_, ?_, ?_⟩).mpr
    (Table.not_any_iff.mpr nofun)
  all_goals exact fun k o ho => absurd ho (hnone k o)

/-- The workspace is placed, and its Agent gives up on it. -/
def givenUpPlacement : State :=
  run (step smallPolicy) unplacedStore
    [.attachWorkspaceCluster (placement "op-one" "one"), .claimNext "agent:cls-one" "cls-one" 60,
      .fail 1 "ownership_conflict" "namespace is owned by another workspace" false]

/-- **A failed placement is not recovered**: the row has failed, the cluster is active, no
operation is, and a request with a fresh key is refused. -/
theorem not_places_givenUpPlacement :
    (∃ wc ∈ givenUpPlacement.db.workspaceClusters.lookup 1, wc.workspaceId = 1 ∧
      wc.installationId = 1 ∧ wc.state = .failed) ∧
      (∃ r ∈ givenUpPlacement.db.installations.lookup 1, r.status = .active) ∧
      (¬ givenUpPlacement.db.operations.Any fun _ o => o.Active) ∧
      (attachWorkspaceCluster 0 givenUpPlacement.db (placement "op-two" "two")).isOk = false := by
  decide +kernel

/-! ### Bootstrapping -/

/-- A user that `Bootstrap` is called with: the name it is found by, and the principal that is made
with it if it is not there. -/
structure BootstrapUser where
  username : String
  principalId : ℕ

/-- The arguments of `Bootstrap`, with the public id it draws for the operation. -/
structure BootstrapRequest where
  publicId : String
  namespaceName : String
  users : List BootstrapUser
  operationPublicId : String

/-- The loop of `Bootstrap` over its users: each is found by name or inserted. The last component
lists their keys. -/
def bootstrapUsers : List BootstrapUser → Table User → List (String × ℕ) →
    Table User × List (String × ℕ) × List ℕ
  | [], users, usernames => (users, usernames, [])
  | u :: rest, users, usernames =>
    match usernames.lookup u.username with
    | some i =>
      let r := bootstrapUsers rest users usernames
      (r.1, r.2.1, i :: r.2.2)
    | none =>
      let r := bootstrapUsers rest (users.insert ⟨u.principalId⟩)
        ((u.username, users.nextId) :: usernames)
      (r.1, r.2.1, users.nextId :: r.2.2)

/-- `UpsertWorkspace`: the workspace of the namespace, or a new one. -/
def upsertWorkspace (db : Db) (publicId namespaceName : String) : Except Err (Db × ℕ × Workspace) :=
  match db.workspaces.first fun _ w => w.namespaceName = namespaceName with
  | some r => .ok (db, r)
  | none => do
    require (¬ db.workspaces.Any fun _ w => w.publicId = publicId) .uniqueViolation
    let w : Workspace := ⟨publicId, namespaceName, .pending⟩
    pure ({ db with workspaces := db.workspaces.insert w }, db.workspaces.nextId, w)

/-- The hash `Bootstrap` uses both as key and as payload: it depends on the workspace only. -/
def bootstrapHash (request : BootstrapRequest) : Digest :=
  sha256 (request.publicId ++ ":ensure-workspace")

/-- The operation of `Bootstrap`. It is not for a cluster yet. -/
def BootstrapRequest.row (request : BootstrapRequest) (now : Time) (workspaceId owner : ℕ)
    (user : User) : Operation :=
  let new : NewOperation :=
    { publicId := request.operationPublicId
      workspaceId := workspaceId
      appEnvironmentId := none
      deploymentId := none
      appVolumeId := none
      requestedByUserId := some owner
      requestedByPrincipalId := user.principalId
      kind := .ensureWorkspace
      idempotencyHash := bootstrapHash request
      payloadHash := bootstrapHash request
      desiredVersion := 1 }
  { new.row now 0 with agentInstallationId := none }

/-- An operation that prepares the workspace is `Pending` or `Running`. -/
def BeingPlaced (operations : Table Operation) (workspaceId : ℕ) : Prop :=
  operations.Any fun _ o => o.workspaceId = workspaceId ∧ o.kind = .ensureWorkspace ∧ o.Active
deriving Decidable

/-- `Bootstrap`, with the index of the users by name. -/
def bootstrap (now : Time) (db : Db) (usernames : List (String × ℕ)) (request : BootstrapRequest) :
    Except Err (Db × List (String × ℕ)) := do
  let (users, usernames, userIds) := bootstrapUsers request.users db.users usernames
  let (db, workspaceId, workspace) ← upsertWorkspace { db with users := users } request.publicId
    request.namespaceName
  let owner ← expect userIds.min? .invalidArgument
  if workspace.bootstrapState ≠ .ready ∧ ¬ BeingPlaced db.operations workspaceId then
    let user ← expect (db.users.lookup owner) .database
    let operations ← insertRow db.operations (request.row now workspaceId owner user)
    pure ({ db with operations := operations }, usernames)
  else pure (db, usernames)

variable {usernames : List (String × ℕ)} {request : BootstrapRequest} {w : Workspace}

/-- The names lead to users that are there. -/
def Indexed (users : Table User) (usernames : List (String × ℕ)) : Prop :=
  ∀ name j, usernames.lookup name = some j → ∃ u, users.lookup j = some u

/-- Whoever `Bootstrap` is called with is a user afterwards. -/
theorem lookup_bootstrapUsers {us : List BootstrapUser} {users : Table User}
    (h : Indexed users usernames) (j : ℕ)
    (hj : j ∈ (bootstrapUsers us users usernames).2.2 ∨ ∃ u, users.lookup j = some u) :
    ∃ u, (bootstrapUsers us users usernames).1.lookup j = some u := by
  induction us generalizing users usernames with
  | nil => simpa [bootstrapUsers] using hj
  | cons x _ ih =>
    cases hx : usernames.lookup x.username with
    | some =>
      simp only [bootstrapUsers, hx, List.mem_cons] at hj ⊢
      refine ih h ?_
      rcases hj with (rfl | hj) | hj
      · exact .inr (h _ _ hx)
      · exact .inl hj
      · exact .inr hj
    | none =>
      simp only [bootstrapUsers, hx, List.mem_cons] at hj ⊢
      refine ih (fun name i hi => ?_) ?_
      · rw [List.lookup_cons] at hi
        split at hi
        · cases hi
          exact ⟨_, lookup_insert_self⟩
        · obtain ⟨u, hu⟩ := h name i hi
          exact ⟨u, lookup_insert_of_lookup hu⟩
      · rcases hj with (rfl | hj) | ⟨u, hu⟩
        · exact .inr ⟨_, lookup_insert_self⟩
        · exact .inl hj
        · exact .inr ⟨u, lookup_insert_of_lookup hu⟩

theorem length_bootstrapUsers (us : List BootstrapUser) (users : Table User) :
    (bootstrapUsers us users usernames).2.2.length = us.length := by
  induction us generalizing users usernames with
  | nil => rfl
  | cons _ _ ih =>
    simp only [bootstrapUsers]
    split <;> exact congrArg (· + 1) (ih _)

/-- The workspace `i` was bootstrapped before, there are users, and the id that is drawn for the
operation is fresh. -/
structure Rerun (db : Db) (usernames : List (String × ℕ)) (request : BootstrapRequest) (i : ℕ)
    (w : Workspace) : Prop where
  workspace : db.workspaces.first (fun _ w => w.namespaceName = request.namespaceName) =
    some (i, w)
  users : request.users ≠ []
  index : Indexed db.users usernames
  publicId : ∀ k o, db.operations.lookup k = some o → o.publicId ≠ request.operationPublicId

/-- The first of the users has not used the key of `Bootstrap` in the workspace. -/
def BootstrapKeyFree (db : Db) (usernames : List (String × ℕ)) (request : BootstrapRequest)
    (i : ℕ) : Prop :=
  ∀ owner ∈ (bootstrapUsers request.users db.users usernames).2.2.min?,
    ∀ user ∈ (bootstrapUsers request.users db.users usernames).1.lookup owner,
      ¬ KeyTaken db.operations i (some owner) user.principalId (bootstrapHash request)

theorem operationTaken_bootstrap {operations : Table Operation} {owner : ℕ} {user : User} :
    OperationTaken operations (request.row now i owner user) ↔
      KeyTaken operations i (some owner) user.principalId (bootstrapHash request) := by
  simp only [OperationTaken, KeyTaken, any_iff]
  refine exists_congr fun k => exists_congr fun o => and_congr_right fun _ => ⟨?_, ?_⟩
  · rintro (⟨-, hne, he⟩ | ⟨-, -, -, -, he, hne⟩ | h)
    · exact absurd he hne
    · exact absurd he hne
    · exact h
  · exact fun h => .inr (.inr h)

/-- **`Bootstrap` can be called again just as long as it has nothing to do, or its key has not been
used.** -/
theorem bootstrap_rerun_iff (h : Rerun db usernames request i w) :
    (∃ db' usernames', bootstrap now db usernames request = .ok (db', usernames') ∧
      (w.bootstrapState ≠ .ready → ¬ BeingPlaced db.operations i → Placing db' i none)) ↔
      w.bootstrapState = .ready ∨ BeingPlaced db.operations i ∨
        BootstrapKeyFree db usernames request i := by
  obtain ⟨owner, howner⟩ : ∃ owner,
      (bootstrapUsers request.users db.users usernames).2.2.min? = some owner := by
    rw [← Option.isSome_iff_exists, List.isSome_min?_iff, ← List.length_pos_iff,
      length_bootstrapUsers]
    exact List.length_pos_iff.mpr h.users
  obtain ⟨user, huser⟩ := lookup_bootstrapUsers h.index owner (.inl (List.min?_mem howner))
  simp only [bootstrap, upsertWorkspace, h.workspace, howner, ok_iff, BootstrapKeyFree, huser,
    Option.mem_def, Option.some.injEq, forall_eq', Except.ok.injEq, exists_eq_left']
  by_cases hidle : w.bootstrapState ≠ .ready ∧ ¬ BeingPlaced db.operations i
  · simp only [if_pos hidle, ok_iff, insertRow_eq_ok, Option.some.injEq, exists_eq_left']
    constructor
    · rintro ⟨_, _, ⟨_, ⟨hi, -⟩, -⟩, -⟩
      exact .inr (.inr fun hk => hi.free (operationTaken_bootstrap.mpr hk))
    · rintro (hr | ha | hk)
      · exact absurd hr hidle.1
      · exact absurd ha hidle.2
      · refine ⟨_, _, ⟨_, ⟨⟨?_, Nat.one_pos, .inl ⟨rfl, rfl, rfl, rfl⟩, ?_⟩, rfl⟩, rfl⟩,
          fun _ _ => ⟨_, _, Table.lookup_insert_self, rfl, rfl, rfl, rfl⟩⟩
        · exact Table.not_any_iff.mpr h.publicId
        · exact fun ht => hk (operationTaken_bootstrap.mp ht)
  · simp only [if_neg hidle, pure_eq_ok]
    refine iff_of_true ⟨_, _, rfl, fun hr ha => absurd ⟨hr, ha⟩ hidle⟩ ?_
    by_cases hr : w.bootstrapState = .ready
    · exact .inl hr
    · exact .inr (.inl (not_not.mp fun ha => hidle ⟨hr, ha⟩))

/-! ### A run -/

/-- `assignLegacyPendingOperations`, called by `EnsureBootstrapAgentInstallation`: operations
without a cluster are for this one, and the workspaces they prepare get a row on it. -/
def assignLegacyPendingOperations (db : Db) (installationId : ℕ) : Db :=
  let operations := db.operations.modify
    (fun _ o => o.agentInstallationId = none ∧ o.status = .pending)
    fun o => { o with agentInstallationId := some installationId }
  { db with
    operations := operations
    workspaceClusters := db.workspaces.rows.foldl (fun t r =>
      if (operations.Any fun _ o => o.workspaceId = r.1 ∧ o.kind = .ensureWorkspace ∧
          o.agentInstallationId = some installationId) ∧
        ¬ t.Any fun _ wc => wc.workspaceId = r.1 ∧ wc.installationId = installationId
      then t.insert ⟨r.1, installationId, r.2.namespaceName, r.2.bootstrapState, "", 0⟩
      else t) db.workspaceClusters }

/-- The store, and the index of its users by name. -/
structure Site where
  store : State
  usernames : List (String × ℕ)

/-- What happens to a workspace that is bootstrapped. -/
inductive SiteAction
  | store (a : Action)
  | bootstrap (request : BootstrapRequest)
  | assignLegacyPendingOperations (installationId : ℕ)

/-- One step. -/
def Site.step (policy : PublicationPolicy) (s : Site) : SiteAction → Site
  | .store a => { s with store := Store.step policy s.store a }
  | .bootstrap request =>
    match bootstrap s.store.now s.store.db s.usernames request with
    | .ok (db, usernames) => { store := { s.store with db := db }, usernames := usernames }
    | .error _ => s
  | .assignLegacyPendingOperations installationId =>
    { s with store :=
      { s.store with db := assignLegacyPendingOperations s.store.db installationId } }

/-- The small store before anything was bootstrapped. -/
def emptySite : Site where
  store :=
    { unplacedStore with
      db := { unplacedStore.db with
        workspaces := .empty
        users := .empty
        projects := .empty
        apps := .empty
        stages := .empty
        releases := .empty } }
  usernames := []

/-- The workspace and its owner. -/
def bootstrapRequest (operationPublicId : String) : BootstrapRequest :=
  ⟨"wsp-one", "ws-one", [⟨"owner", 7⟩], operationPublicId⟩

/-- The workspace is bootstrapped. -/
def bootstrapped : Site :=
  run (Site.step smallPolicy) emptySite [.bootstrap (bootstrapRequest "op-one")]

/-- While its operation waits, `Bootstrap` can be called again. -/
theorem bootstrap_rerun_bootstrapped :
    ∃ db' usernames', bootstrap 0 bootstrapped.store.db bootstrapped.usernames
        (bootstrapRequest "op-two") = .ok (db', usernames') ∧
      (ProvisioningState.pending ≠ .ready → ¬ BeingPlaced bootstrapped.store.db.operations 1 →
        Placing db' 1 none) := by
  have hnames : bootstrapped.usernames = [("owner", 1)] := by decide +kernel
  refine (bootstrap_rerun_iff (w := ⟨"wsp-one", "ws-one", .pending⟩)
    ⟨by decide +kernel, List.cons_ne_nil _ _, fun name j hj => ?_, ?_⟩).mpr
    (.inr (.inl (by decide +kernel)))
  · rw [hnames, List.lookup_cons] at hj
    split at hj
    · cases hj
      exact ⟨⟨7⟩, by decide +kernel⟩
    · cases hj
  · exact Table.not_any_iff.mp (by decide +kernel)

/-- The workspace is bootstrapped, the cluster gets its operation, and the Agent gives up on it. -/
def givenUpBootstrap : Site :=
  run (Site.step smallPolicy) emptySite
    [.bootstrap (bootstrapRequest "op-one"), .assignLegacyPendingOperations 1,
      .store (.claimNext "agent:cls-one" "cls-one" 60),
      .store (.fail 1 "ownership_conflict" "namespace is owned by another workspace" false)]

/-- **`Bootstrap` cannot be called again after its operation failed.** -/
theorem not_rerun_givenUpBootstrap :
    (∃ w ∈ givenUpBootstrap.store.db.workspaces.lookup 1, w.bootstrapState = .failed) ∧
      ¬ BeingPlaced givenUpBootstrap.store.db.operations 1 ∧
      (bootstrap 0 givenUpBootstrap.store.db givenUpBootstrap.usernames
        (bootstrapRequest "op-two")).isOk = false := by
  decide +kernel

end Molejo.Store
