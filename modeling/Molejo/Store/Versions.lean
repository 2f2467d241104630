import Molejo.Store.Fidelity

/-!
# Parameter versions, whatever happens

`Molejo.Parameters.History` says what one transaction does to the versions of parameters. Here the
transactions are taken in any order, with any arguments: a mutation that is completed or abandoned
may have been handed out at any time, to anyone, or not at all. Around them the rest of the store
goes on, and binds versions to environments.

Nothing is purged in these runs. In every state that they reach the versions of each parameter are
`1, …, n`, of which only the last can be pending, and from every state on, what was ready stays
(`versionHistory_run`).
-/

namespace Molejo.Store

open Transaction Parameters Transition

/-- A call on parameters, or any step of the rest of the store. -/
inductive VersionAction
  | store (a : Action)
  | createParameter (workspaceId actorId : ℕ) (publicId path : String) (kind : Kind)
      (description : String) (value : ParameterValue)
  | replaceParameter (workspaceId actorId : ℕ) (publicId path description : String)
      (resourceVersion : ℕ) (value : ParameterValue)
  | archiveParameter (workspaceId : ℕ) (publicId : String) (version : ℕ) (retention : ℤ)
  | beginCreateSecretParameter (workspaceId actorId : ℕ)
      (publicId path description reference : String) (fingerprint : Fingerprint)
      (idempotencyHash payloadHash : Digest)
  | beginReplaceSecretParameter (workspaceId actorId : ℕ) (publicId path description : String)
      (resourceVersion : ℕ) (fingerprint : Fingerprint) (idempotencyHash payloadHash : Digest)
  | completeSecretMutation (mutation : SecretMutation) (backendVersion : ℕ)
  | abandonSecretMutation (mutation : SecretMutation)

/-- The database after a call, if it commits. -/
def callParameters (s : State) : VersionAction → Except Err Db
  | .store _ => .ok s.db
  | .createParameter workspaceId actorId publicId path kind description value =>
    (createParameter s.now s.db.toTables workspaceId actorId publicId path kind description
      value).map (putTables s.db)
  | .replaceParameter workspaceId actorId publicId path description resourceVersion value =>
    (replaceParameter s.now s.db.toTables workspaceId actorId publicId path description
      resourceVersion value).map (putTables s.db)
  | .archiveParameter workspaceId publicId version retention =>
    archiveParameter s.now s.db workspaceId publicId version retention
  | .beginCreateSecretParameter workspaceId actorId publicId path description reference
      fingerprint idempotencyHash payloadHash =>
    (beginCreateSecretParameter s.now s.db.toTables workspaceId actorId publicId path description
      reference fingerprint idempotencyHash payloadHash).map fun r => putTables s.db r.2.2
  | .beginReplaceSecretParameter workspaceId actorId publicId path description resourceVersion
      fingerprint idempotencyHash payloadHash =>
    (beginReplaceSecretParameter s.now s.db.toTables workspaceId actorId publicId path description
      resourceVersion fingerprint idempotencyHash payloadHash).map fun r => putTables s.db r.2.2
  | .completeSecretMutation mutation backendVersion =>
    (completeSecretMutation s.now s.db.toTables mutation backendVersion).map fun r =>
      putTables s.db r.2
  | .abandonSecretMutation mutation => abandonSecretMutation s.db mutation

/-- One step. -/
def versionStep (policy : PublicationPolicy) (s : State) (a : VersionAction) : State :=
  match a with
  | .store a => step policy s (a.keepParameters s.db)
  | a => { s with db := commit s.db (callParameters s a) }

/-- **A call is one change of the tables.** -/
theorem callParameters_change {s : State} {a : VersionAction} {db' : Db}
    (h : callParameters s a = .ok db') : Change .none s.db.toTables db'.toTables := by
  cases a with
  | store =>
    cases h
    exact .same ⟨rfl, rfl, rfl⟩
  | createParameter =>
    obtain ⟨_, ht, rfl⟩ := map_eq_ok.mp h
    exact createParameter_change ht trivial
  | replaceParameter =>
    obtain ⟨_, ht, rfl⟩ := map_eq_ok.mp h
    exact replaceParameter_change ht fun _ _ _ _ _ => trivial
  | archiveParameter =>
    obtain ⟨_, ht, rfl⟩ := archiveParameter_change h
    exact ht
  | beginCreateSecretParameter =>
    obtain ⟨⟨_, _, _⟩, ht, rfl⟩ := map_eq_ok.mp h
    exact beginCreateSecretParameter_change ht trivial
  | beginReplaceSecretParameter =>
    obtain ⟨⟨_, _, _⟩, ht, rfl⟩ := map_eq_ok.mp h
    exact beginReplaceSecretParameter_change ht fun _ _ _ _ _ => trivial
  | completeSecretMutation =>
    obtain ⟨⟨_, _⟩, ht, rfl⟩ := map_eq_ok.mp h
    exact completeSecretMutation_change ht trivial
  | abandonSecretMutation =>
    obtain ⟨_, ht, rfl⟩ := abandonSecretMutation_change h
    exact ht

theorem versionStep_change (policy : PublicationPolicy) (s : State) (a : VersionAction) :
    Change .none s.db.toTables (versionStep policy s a).db.toTables := by
  have hcall : Change .none s.db.toTables (commit s.db (callParameters s a)).toTables := by
    rcases commit_cases s.db (callParameters s a) with ⟨_, -, hc⟩ | ⟨_, hok, hc⟩
    · rw [hc]
      exact .same ⟨rfl, rfl, rfl⟩
    · rw [hc]
      exact callParameters_change hok
  cases a with
  | store a => exact .same (step_tables policy s a)
  | _ => exact hcall

/-- There are no parameters. -/
structure NoParameters (t : Tables) : Prop where
  parameters : t.parameters = .empty
  versions : t.versions = .empty
  reservations : t.reservations = .empty

theorem NoParameters.history {t : Tables} (h : NoParameters t) : History t := by
  obtain ⟨_, _, _, _⟩ := t
  obtain ⟨rfl, rfl, rfl⟩ := h
  constructor <;> intros <;> simp_all

theorem NoParameters.unpurged {t : Tables} (h : NoParameters t) : Unpurged t := by
  obtain ⟨_, _, _, _⟩ := t
  obtain ⟨rfl, rfl, rfl⟩ := h
  constructor <;> intros <;> simp_all

/-- What the runs keep. -/
def Settling (s : State) : Prop := History s.db.toTables ∧ Unpurged s.db.toTables

theorem Settling.step {s : State} (h : Settling s) (policy : PublicationPolicy)
    (a : VersionAction) : Settling (versionStep policy s a) :=
  ⟨h.1.change (versionStep_change policy s a), h.2.change (versionStep_change policy s a)⟩

/-- **The history of every parameter.** In any state that calls on parameters lead to, its versions
are numbered without gaps, only the last can be pending, and only pending ones hold a path; and
whatever is called after that, ready versions stay as they are, and the resource version grows with
every change that can be seen. -/
theorem versionHistory_run (policy : PublicationPolicy) (s : State)
    (hs : NoParameters s.db.toTables) (acts acts' : List VersionAction) :
    VersionHistory (run (versionStep policy) s acts).db.toTables ∧
      Advances (run (versionStep policy) s acts).db.toTables
        (run (versionStep policy) s (acts ++ acts')).db.toTables := by
  have h : Settling (run (versionStep policy) s acts) :=
    run_induction ⟨hs.history, hs.unpurged⟩ fun t a ht => ht.step policy a
  refine ⟨h.1.versionHistory h.2, ?_⟩
  rw [run_append]
  exact run_rel (I := Settling)
    (R := fun t u => Advances t.db.toTables u.db.toTables) (fun t => .refl t.db.toTables)
    .trans h fun t a ht => ⟨ht.step policy a, .change ht.1 (versionStep_change policy t a)⟩

/-- The calls that replace a secret, of which the first mutation is abandoned and completed late:
its completion finds the second mutation under the same number. -/
def lateCompletionCalls : List VersionAction :=
  let publicId := "par-aaaaaaaaaaaaaaaaaaaa"
  let reference := "workspaces/wsp-one/parameters/par-aaaaaaaaaaaaaaaaaaaa"
  let mutation (version : ℕ) : SecretMutation :=
    pendingMutation 0 1 publicId 1 version 1 reference (version - 1)
  let replacement (key : String) : VersionAction :=
    .beginReplaceSecretParameter 1 1 publicId "/new" "" 1 (secretFingerprint key) (sha256 key)
      (sha256 key)
  [ .beginCreateSecretParameter 1 1 publicId "/old" "" reference (secretFingerprint "v")
      (sha256 "v") (sha256 "v"),
    .completeSecretMutation (mutation 1) 1, replacement "a", .abandonSecretMutation (mutation 2),
    replacement "b", .completeSecretMutation (mutation 2) 2 ]

theorem versionHistory_lateCompletion :
    VersionHistory (run (versionStep smallPolicy) smallStore
      lateCompletionCalls).db.toTables :=
  (versionHistory_run smallPolicy smallStore ⟨rfl, rfl, rfl⟩ lateCompletionCalls []).1

-- the late completion made version 2 ready, and the parameter moved
example : ((run (versionStep smallPolicy) smallStore
    lateCompletionCalls).db.parameters.lookup 1).map appearance = some ("/new", "", 2) := by
  decide +kernel

end Molejo.Store
