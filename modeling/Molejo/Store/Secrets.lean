import Molejo.Parameters.Protocol
import Molejo.Store.Bindings

/-!
# Secrets next to the store

`Molejo.Parameters.Protocol` follows each request and each pass through the mutation of a secret,
over the tables of parameters alone. Here the same transactions run next to everything else: text
parameters, environments that bind versions, deployments, and the worker that recovers mutations and
purges parameters.

What requests and workers do with a mutation depends only on what they have seen, and that is all
that the state keeps of them (`SecretState`):

* the mutations that were handed out, by a reservation or by a listing;
* those whose version somebody saw to be the current one of its entry, or wrote;
* those that a worker saw unwritten after their time;
* the parameters that a worker was listed for purging.

Whoever has seen something may act on it at any later time, once, often or never, so that stalls,
crashes, repeated requests and any number of workers are all among the runs.
-/

namespace Molejo.Store

open Transaction Parameters Table

/-! ### States -/

/-- `domain.ParameterPurgeCandidate`. -/
structure ParameterPurgeCandidate where
  parameterId : ℕ
  kind : Kind
  secretReference : String
deriving DecidableEq

/-- `COALESCE(MAX(pv.secret_reference),'')` over the versions of a parameter. -/
def maxReference (db : Db) (parameterId : ℕ) : String :=
  ((db.versions.select fun _ v => v.parameterId = parameterId).filterMap fun x =>
    x.2.secretReference).foldl (fun a b => if a < b then b else a) ""

/-- The rows of `ListParameterPurgeCandidates`. -/
def parameterPurgeCandidates (now : Time) (db : Db) (limit : ℕ) : List ParameterPurgeCandidate :=
  (listParameterPurgeCandidates now db limit).filterMap fun i =>
    (db.parameters.lookup i).map fun p => ⟨i, p.kind, maxReference db i⟩

/-- The store, the key–value store, and what requests and workers have seen. -/
structure SecretState where
  store : State
  kv : VersionedMap String String
  /-- The mutations handed out. -/
  issued : List SecretMutation
  /-- Those found written. -/
  written : List SecretMutation
  /-- Those found unwritten and out of time. -/
  expired : List SecretMutation
  /-- The parameters found due for purging. -/
  listed : List ParameterPurgeCandidate

/-- The steps of requests, of workers, and of the rest of the store. -/
inductive SecretAction
  | store (a : Action)
  | createParameter (workspaceId actorId : ℕ) (publicId path description value : String)
  | replaceParameter (workspaceId actorId : ℕ) (publicId path description : String)
      (resourceVersion : ℕ) (value : String)
  | archiveParameter (workspaceId : ℕ) (publicId : String) (version : ℕ) (retention : ℤ)
  | beginCreate (input : SecretInput)
  | beginReplace (input : SecretInput) (resourceVersion : ℕ)
  /-- A pass lists pending mutations. -/
  | listPending
  /-- A request writes its value. -/
  | put (m : SecretMutation) (value : String)
  /-- A request or a pass reads the current version of the entry. -/
  | inspect (m : SecretMutation)
  | complete (m : SecretMutation)
  | abandon (m : SecretMutation)
  /-- A pass lists parameters to purge. -/
  | listCandidates
  | deleteSecret (candidate : ParameterPurgeCandidate)
  | markParameterPurged (candidate : ParameterPurgeCandidate)

/-! ### Steps -/

/-- `FindParameter`. -/
def findParameter (t : Tables) (workspaceId : ℕ) (publicId : String) :
    Except Err (ℕ × Parameter) :=
  expect (t.parameters.first fun i p => p.workspaceId = workspaceId ∧ p.publicId = publicId ∧
    p.archivedAt = none ∧ p.valueState = .ready ∧
    ((currentVersionRow t i p).any fun w => w.2.valueState = .ready) = true) .notFound

/-- The handler `ReplaceParameter`, for a `PlainText` parameter. -/
def replacePlainText (now : Time) (t : Tables) (workspaceId actorId : ℕ)
    (publicId path description : String) (resourceVersion : ℕ) (value : String) :
    Except Err Tables := do
  let (_, current) ← findParameter t workspaceId publicId
  require (current.kind = .plainText) .conflict
  require (current.version = resourceVersion) .versionConflict
  replaceParameter now t workspaceId actorId publicId path description resourceVersion
    (.plainText value)

namespace SecretState

variable (w : SecretState)

/-- The database. -/
abbrev db : Db := w.store.db

/-- The tables of parameters. -/
abbrev tables : Tables := w.store.db.toTables

/-- Commit a change of the database. -/
def transact (x : Except Err Db) : SecretState :=
  { w with store := { w.store with db := commit w.store.db x } }

/-- Commit a change of the tables of parameters. -/
def transactTables (x : Except Err Tables) : SecretState :=
  w.transact (x.map (putTables w.db))

/-- A reservation hands out its mutation. -/
def begun : Except Err (SecretMutation × Bool × Tables) → SecretState
  | .error _ => w
  | .ok (m, _, tables) => { w.transactTables (.ok tables) with issued := m :: w.issued }

/-- A write that compares the expected version. -/
def put (m : SecretMutation) (value : String) : SecretState :=
  match w.kv.put m.reference value m.expectedBackendVersion with
  | some (_, kv) => { w with kv := kv, written := m :: w.written }
  | none => w

/-- What is seen of the entry of a mutation. -/
def inspect (timeout : Time) (m : SecretMutation) : SecretState :=
  if w.kv.current m.reference = m.backendVersion then { w with written := m :: w.written }
  else if w.kv.current m.reference = m.expectedBackendVersion ∧
      m.createdAt + timeout ≤ w.store.now then { w with expired := m :: w.expired }
  else w

/-- One step; `timeout` is the worker's `MutationTimeout`. -/
def step (policy : PublicationPolicy) (timeout : Time) (w : SecretState) :
    SecretAction → SecretState
  | .store a => { w with store := Store.step policy w.store (a.keepParameters w.db) }
  | .createParameter workspaceId actorId publicId path description value =>
    w.transactTables (createParameter w.store.now w.tables workspaceId actorId publicId path
      .plainText description (.plainText value))
  | .replaceParameter workspaceId actorId publicId path description resourceVersion value =>
    w.transactTables (replacePlainText w.store.now w.tables workspaceId actorId publicId path
      description resourceVersion value)
  | .archiveParameter workspaceId publicId version retention =>
    w.transact (archiveParameter w.store.now w.db workspaceId publicId version retention)
  | .beginCreate x =>
    match w.db.workspaces.lookup x.workspaceId with
    | none => w
    | some workspace => w.begun (beginCreateSecretParameter w.store.now w.tables x.workspaceId
        x.actorId x.publicId x.path x.description (secretReference workspace.publicId x.publicId)
        (secretFingerprint x.value) (sha256 x.idempotencyKey) x.payloadHash)
  | .beginReplace x resourceVersion =>
    w.begun (beginReplaceSecretParameter w.store.now w.tables x.workspaceId x.actorId x.publicId
      x.path x.description resourceVersion (secretFingerprint x.value) (sha256 x.idempotencyKey)
      x.payloadHash)
  | .listPending =>
    match listPendingSecretMutations w.tables 20 with
    | .ok mutations => { w with issued := mutations ++ w.issued }
    | .error _ => w
  | .put m value => if m ∈ w.issued then w.put m value else w
  | .inspect m => if m ∈ w.issued then w.inspect timeout m else w
  | .complete m =>
    if m ∈ w.written then
      w.transactTables ((completeSecretMutation w.store.now w.tables m m.backendVersion).map
        Prod.snd)
    else w
  | .abandon m => if m ∈ w.expired then w.transact (abandonSecretMutation w.db m) else w
  | .listCandidates =>
    { w with listed := parameterPurgeCandidates w.store.now w.db 20 ++ w.listed }
  | .deleteSecret candidate =>
    if candidate ∈ w.listed ∧ candidate.kind = .secret ∧ candidate.secretReference ≠ "" then
      { w with kv := w.kv.delete candidate.secretReference }
    else w
  | .markParameterPurged candidate =>
    if candidate ∈ w.listed then
      w.transact (markParameterPurged w.store.now w.db candidate.parameterId)
    else w

/-- What the runs start from: a store at its start, and no secrets. -/
structure Initial : Prop where
  store : Store.Initial w.store
  parameters : w.db.parameters = .empty
  versions : w.db.versions = .empty
  reservations : w.db.reservations = .empty
  kv : w.kv = .empty
  issued : w.issued = []
  written : w.written = []
  expired : w.expired = []
  listed : w.listed = []

end SecretState

/-! ### What a step does to the tables of parameters -/

/-- A step keeps to rules: texts are stored in `PlainText` parameters, the reference of a secret is
made from ids, a replacement asks for a path, and what is completed was found written. -/
structure SecretAction.Obeys (R : Rules) (w : SecretState) (a : SecretAction) : Prop where
  value : ∀ text, R.value .plainText (.plainText text)
  reference : ∀ workspaceId publicId, R.reference publicId (secretReference workspaceId publicId)
  path : ∀ x resourceVersion, a = .beginReplace x resourceVersion →
    ∀ i p, w.tables.parameters.lookup i = some p → p.workspaceId = x.workspaceId →
      p.publicId = x.publicId → R.path w.tables i x.path
  completed : ∀ m ∈ w.written, R.completed w.tables m

theorem SecretAction.obeys_none (w : SecretState) (a : SecretAction) : a.Obeys .none w :=
  ⟨fun _ => trivial, fun _ _ => trivial, fun _ _ _ _ _ _ _ _ => trivial, fun _ _ => trivial⟩

theorem replacePlainText_change {R : Rules} {now : Time} {t t' : Tables}
    {workspaceId actorId : ℕ} {publicId path description value : String} {resourceVersion : ℕ}
    (h : History t) (hvalue : ∀ text, R.value .plainText (.plainText text))
    (hok : replacePlainText now t workspaceId actorId publicId path description resourceVersion
      value = .ok t') : Change R t t' := by
  simp only [replacePlainText, findParameter, bind_eq_ok, expect_eq_ok, require_eq_ok,
    Prod.exists] at hok
  obtain ⟨i, current, hcurrent, -, hkind, -, -, hok⟩ := hok
  refine replaceParameter_change hok fun j p hp _ hid => ?_
  obtain ⟨-, hid', -⟩ := pos_of_first hcurrent
  have hlookup := lookup_of_first hcurrent
  obtain rfl := h.distinct j p i current hp hlookup (hid.trans hid'.symm)
  cases hp.symm.trans hlookup
  rw [hkind]
  exact hvalue value

/-- The actions by which a worker purges. -/
def SecretAction.purges : SecretAction → Bool
  | .deleteSecret _ => true
  | .markParameterPurged _ => true
  | _ => false

namespace SecretState

variable {R : Rules} {w : SecretState}

/-- The tables changed, and nothing else of the store. -/
def Changed (R : Rules) (w w' : SecretState) : Prop :=
  ∃ t, Change R w.tables t ∧ w'.store = { w.store with db := putTables w.db t }

theorem Changed.of_store {w' : SecretState} (h : w'.store = w.store) : Changed R w w' :=
  ⟨w.tables, .same ⟨rfl, rfl, rfl⟩, h⟩

theorem Changed.tables {w' : SecretState} (h : Changed R w w') :
    Change R w.tables w'.tables := by
  obtain ⟨_, ht, hs⟩ := h
  change Change R w.tables w'.store.db.toTables
  rw [hs]
  exact ht

theorem changed_transactTables {x : Except Err Tables}
    (h : ∀ t, x = .ok t → Change R w.tables t) : Changed R w (w.transactTables x) := by
  cases x with
  | error => exact .of_store rfl
  | ok t => exact ⟨t, h t rfl, rfl⟩

theorem changed_begun {x : Except Err (SecretMutation × Bool × Tables)}
    (h : ∀ m existing t, x = .ok (m, existing, t) → Change R w.tables t) :
    Changed R w (w.begun x) := by
  cases x with
  | error => exact .of_store rfl
  | ok r =>
    obtain ⟨m, existing, t⟩ := r
    exact ⟨t, h m existing t rfl, rfl⟩

/-- **Requests and recovery passes only change the tables of parameters.** -/
theorem changed_step (policy : PublicationPolicy) (timeout : Time) (h : History w.tables)
    (a : SecretAction) (hobeys : a.Obeys R w) (hpurges : a.purges = false) :
    (∃ b, a = .store b) ∨ Changed R w (w.step policy timeout a) := by
  cases a with
  | store b => exact .inl ⟨b, rfl⟩
  | createParameter _ _ _ _ _ value =>
    exact .inr (changed_transactTables fun t ht => createParameter_change ht (hobeys.value value))
  | replaceParameter =>
    exact .inr (changed_transactTables fun t ht => replacePlainText_change h hobeys.value ht)
  | archiveParameter workspaceId publicId version retention =>
    refine .inr ?_
    dsimp only [step]
    cases hx : archiveParameter w.store.now w.db workspaceId publicId version retention with
    | error => exact .of_store rfl
    | ok =>
      obtain ⟨t, ht, rfl⟩ := archiveParameter_change hx
      exact ⟨t, ht, rfl⟩
  | beginCreate =>
    refine .inr ?_
    dsimp only [step]
    split
    · exact .of_store rfl
    · exact changed_begun fun m existing t ht =>
        beginCreateSecretParameter_change ht (hobeys.reference _ _)
  | beginReplace x resourceVersion =>
    exact .inr (changed_begun fun m existing t ht =>
      beginReplaceSecretParameter_change ht (hobeys.path x resourceVersion rfl))
  | listPending =>
    refine .inr ?_
    dsimp only [step]
    split <;> exact .of_store rfl
  | put =>
    refine .inr ?_
    dsimp only [step, put]
    split
    · split <;> exact .of_store rfl
    · exact .of_store rfl
  | inspect =>
    refine .inr ?_
    dsimp only [step, inspect]
    split
    · split
      · exact .of_store rfl
      · split <;> exact .of_store rfl
    · exact .of_store rfl
  | complete m =>
    refine .inr ?_
    dsimp only [step]
    split
    · next hmem =>
      refine changed_transactTables fun t ht => ?_
      obtain ⟨⟨_, _⟩, hr, rfl⟩ := map_eq_ok.mp ht
      exact completeSecretMutation_change hr (hobeys.completed m hmem)
    · exact .of_store rfl
  | abandon m =>
    refine .inr ?_
    dsimp only [step]
    split
    · cases hx : abandonSecretMutation w.db m with
      | error => exact .of_store rfl
      | ok =>
        obtain ⟨t, ht, rfl⟩ := abandonSecretMutation_change hx
        exact ⟨t, ht, rfl⟩
    · exact .of_store rfl
  | listCandidates => exact .inr (.of_store rfl)
  | deleteSecret | markParameterPurged => cases hpurges

/-- The same for every step, whatever the rest of the store does. -/
theorem change_step (policy : PublicationPolicy) (timeout : Time) (h : History w.tables)
    (a : SecretAction) (hobeys : a.Obeys R w) (hpurges : a.purges = false) :
    Change R w.tables (w.step policy timeout a).tables := by
  rcases changed_step policy timeout h a hobeys hpurges with ⟨b, rfl⟩ | hc
  · exact .same (step_tables policy w.store b)
  · exact hc.tables

/-- Only a purge takes values out of the key–value store. -/
theorem get_step (policy : PublicationPolicy) (timeout : Time) {reference value : String} {n : ℕ}
    (a : SecretAction) (hpurges : a.purges = false) (h : w.kv.get reference n = some value) :
    (w.step policy timeout a).kv.get reference n = some value := by
  have hbegun : ∀ x, (w.begun x).kv = w.kv := by
    intro x
    cases x <;> rfl
  cases a with
  | put m v =>
    dsimp only [step, put]
    split
    · split
      · next hput =>
        obtain ⟨-, -, rfl⟩ := VersionedMap.put_eq_some.mp hput
        exact VersionedMap.get_write_of_get h
      · exact h
    · exact h
  | beginCreate =>
    dsimp only [step]
    split
    · exact h
    · rw [hbegun]
      exact h
  | beginReplace =>
    dsimp only [step]
    rw [hbegun]
    exact h
  | listPending | complete | abandon =>
    dsimp only [step]
    split <;> exact h
  | inspect =>
    dsimp only [step, inspect]
    split
    · split
      · exact h
      · split <;> exact h
    · exact h
  | deleteSecret | markParameterPurged => cases hpurges
  | _ => exact h

end SecretState

/-! ### The condition on bindings -/

/-- The bindings that a step stores. -/
def SecretAction.bindings? : SecretAction → Option (ℕ × List ParameterBinding)
  | .store a => a.bindings?
  | _ => none

/-- Where the binding finds a version, that version is ready. -/
def VersionReady (t : Tables) (workspaceId : ℕ) (b : ParameterBinding) : Prop :=
  ∀ i p, t.parameters.lookup i = some p →
    (p.workspaceId = workspaceId ∧ p.publicId = b.parameterPublicId ∧ p.archivedAt = none) →
    ∀ j v, t.versions.lookup j = some v →
      (v.parameterId = i ∧ v.version = b.parameterVersion) → v.valueState = .ready
deriving Decidable

/-- A configuration that is stored binds ready versions only. -/
def SecretAction.BindsReady (w : SecretState) (a : SecretAction) : Prop :=
  ∀ x ∈ a.bindings?, ∀ b ∈ x.2, VersionReady w.tables x.1 b
deriving Decidable

theorem Action.bindings?_keepParameters (db : Db) (a : Action) :
    (a.keepParameters db).bindings? = a.bindings? := by
  cases a <;> rfl

/-- What a binding finds is ready. -/
theorem VersionReady.of_bindsTo {t : Tables} {workspaceId i j : ℕ} {b : ParameterBinding}
    {p : Parameter} {v : ParameterVersion} (h : VersionReady t workspaceId b)
    (hb : BindsTo t workspaceId b i j p v) (hlive : p.archivedAt = none) :
    v.valueState = .ready :=
  h i p hb.parameter ⟨hb.workspace, hb.publicId, hlive⟩ j v hb.row ⟨hb.parameterId, hb.version⟩

/-! ### A small system -/

/-- The small store, without secrets. -/
def smallSecrets : SecretState := ⟨smallStore, .empty, [], [], [], []⟩

theorem smallSecrets_initial : smallSecrets.Initial :=
  ⟨smallStore_initial, rfl, rfl, rfl, rfl, rfl, rfl, rfl, rfl⟩

/-- The mutation that creates the password. -/
def firstPassword : SecretMutation :=
  pendingMutation 0 1 "par-aaaaaaaaaaaaaaaaaaaa" 1 1 1
    "workspaces/wsp-one/parameters/par-aaaaaaaaaaaaaaaaaaaa" 0

/-- The first version of the password, bound to a variable. -/
def passwordBinding : ParameterBinding := ⟨"PASSWORD", "par-aaaaaaaaaaaaaaaaaaaa", 1⟩

end Molejo.Store
