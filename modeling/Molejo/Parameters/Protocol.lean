import Molejo.Lib.VersionedMap
import Molejo.Parameters.Store

/-!
# The secret mutation protocol

Requests and the recovery worker run the transactions of
`Molejo.Parameters.Store` against the key–value store, each a step at a time. A
request that creates or replaces a secret goes through

* `begin`: reserve a version, and keep the mutation handed out;
* `put`: write the value, comparing with the expected version;
* `inspect`, only after a comparison failed: read the current version, and go on
  if it is the one the mutation was to create;
* `complete`: make the version visible.

A recovery pass lists the pending mutations once, then walks the list: it reads
the current version of an entry, and either completes the mutation, or abandons it
when nothing was written and the mutation timed out, or goes to the next. Reading
and acting are separate steps, because between them anything may happen. A pass
acts at most once. The worker then looks for archived parameters to purge; none of
the requests here archives one, and that half of the worker is not part of this
system.

A stall is a request whose next step is taken late, and a crash is one whose next
step is never taken, so both are already among the runs of this system: any step of
any request or pass may come next, or never.

The state also remembers, for each version row ever inserted, the value its request
submitted (`State.submitted`). No step reads it.
-/

namespace Molejo.Parameters

open Transaction

/-! ### States -/

/-- Where the handler of a request stands. -/
inductive RequestPhase
  /-- About to write the value. -/
  | put
  /-- The comparison failed; about to read the current version. -/
  | inspect
  /-- About to complete the mutation with this backend version. -/
  | complete (backendVersion : ℕ)
  /-- The response was sent. -/
  | done
deriving DecidableEq

/-- A request in flight: the value it submitted and the mutation it was handed. -/
structure Request where
  value : String
  mutation : SecretMutation
  phase : RequestPhase

/-- A recovery pass in flight: where `Worker.RunOnce` stands. -/
inductive Pass
  /-- About to inspect the first of these mutations. -/
  | scan (mutations : List SecretMutation)
  /-- Found the mutation's version current; about to complete it. -/
  | complete (m : SecretMutation) (currentVersion : ℕ)
  /-- Found the mutation unwritten and out of time; about to abandon it. -/
  | abandon (m : SecretMutation)
  /-- The pass returned. -/
  | done

/-- The database, the key–value store, the requests and passes in flight, and the values
submitted for the version rows. -/
structure State where
  now : Time
  tables : Tables
  kv : VersionedMap String String
  requests : Table Request
  passes : Table Pass
  submitted : ℕ → Option String

/-- The input of a request, as its handler passes it on to the store. -/
structure SecretInput where
  workspaceId : ℕ
  actorId : ℕ
  publicId : String
  path : String
  description : String
  value : String
  idempotencyKey : String
  payloadHash : Digest

/-- A request for the secret at `/db/password`. -/
def passwordInput (value key : String) : SecretInput where
  workspaceId := 1
  actorId := 1
  publicId := "par-aaaaaaaaaaaaaaaaaaaa"
  path := "/db/password"
  description := ""
  value := value
  idempotencyKey := key
  payloadHash := sha256 value

/-- `secretReference`. -/
def secretReference (workspaceId parameterId : String) : String :=
  "workspaces/" ++ workspaceId ++ "/parameters/" ++ parameterId

/-- Public ids have a fixed length, so a reference ends in only one. -/
theorem publicId_of_reference {pre pre' p q : String} (hp : PublicIdValid p)
    (hq : PublicIdValid q) (h : pre ++ p = pre' ++ q) : p = q := by
  have hl : pre.toList ++ p.toList = pre'.toList ++ q.toList := by
    rw [← String.toList_append, ← String.toList_append, h]
  have hlen : p.toList.length = q.toList.length := by rw [hp.2.1, hq.2.1]
  exact String.toList_inj.mp (List.append_inj_right' hl hlen)

/-- The steps of requests, passes and the clock. -/
inductive Action
  /-- Time passes. -/
  | tick (seconds : ℕ)
  /-- A request to create a secret begins. -/
  | beginCreate (input : SecretInput)
  /-- A request to replace a secret begins. -/
  | beginReplace (input : SecretInput) (resourceVersion : ℕ)
  /-- Request `i` writes its value. -/
  | put (i : ℕ)
  /-- Request `i`, whose comparison failed, reads the current version. -/
  | inspect (i : ℕ)
  /-- Request `i` completes its mutation. -/
  | complete (i : ℕ)
  /-- A recovery pass begins by listing the pending mutations. -/
  | passBegin
  /-- Pass `i` inspects the next mutation. -/
  | passInspect (i : ℕ)
  /-- Pass `i` cannot reach the key–value store and skips the next mutation. -/
  | passSkip (i : ℕ)
  /-- Pass `i` completes or abandons the mutation it settled on. -/
  | passAct (i : ℕ)

/-! ### Steps -/

namespace State

/-- Request `i` moves to another phase. -/
def setPhase (s : State) (i : ℕ) (phase : RequestPhase) : State :=
  { s with requests := s.requests.modify (fun j _ => j = i) fun r => { r with phase := phase } }

/-- Pass `i` moves on. -/
def setPass (s : State) (i : ℕ) (pass : Pass) : State :=
  { s with passes := s.passes.modify (fun j _ => j = i) fun _ => pass }

/-- A row is inserted for the value `v`: what is recorded as submitted afterwards. -/
def recordSubmitted (t : Tables) (submitted : ℕ → Option String) (v : String) (j : ℕ) :
    Option String :=
  if j = t.versions.nextId then some v else submitted j

/-- A request begun with this outcome: it remembers its mutation, and the row it inserted, if it
did, is recorded as made for its value. A replay of a finished mutation is answered at once. -/
def begun (s : State) (value : String) :
    Except Err (SecretMutation × Bool × Tables) → State
  | .error _ => s
  | .ok (m, existing, tables) =>
    { s with
      tables := tables
      requests := s.requests.insert
        { value := value
          mutation := m
          phase := if existing ∧ m.state = .ready then .done else .put }
      submitted := if existing then s.submitted
        else recordSubmitted s.tables s.submitted value }

/-- `CreateParameter` of the handler, up to the reservation. -/
def beginCreate (s : State) (x : SecretInput) : State :=
  match s.tables.workspaces.lookup x.workspaceId with
  | none => s
  | some workspace => s.begun x.value (beginCreateSecretParameter s.now s.tables x.workspaceId
      x.actorId x.publicId x.path x.description (secretReference workspace.publicId x.publicId)
      (secretFingerprint x.value) (sha256 x.idempotencyKey) x.payloadHash)

/-- `ReplaceParameter` of the handler, up to the reservation. -/
def beginReplace (s : State) (x : SecretInput) (resourceVersion : ℕ) : State :=
  s.begun x.value (beginReplaceSecretParameter s.now s.tables x.workspaceId x.actorId x.publicId
    x.path x.description resourceVersion (secretFingerprint x.value) (sha256 x.idempotencyKey)
    x.payloadHash)

/-- The write of `completeSecretMutation` in the handler. -/
def put (s : State) (i : ℕ) (r : Request) : State :=
  match s.kv.put r.mutation.reference r.value r.mutation.expectedBackendVersion with
  | some (version, kv) => { s with kv := kv }.setPhase i (.complete version)
  | none => s.setPhase i .inspect

/-- The inspection after a failed comparison. -/
def inspect (s : State) (i : ℕ) (r : Request) : State :=
  let currentVersion := s.kv.current r.mutation.reference
  if currentVersion = r.mutation.backendVersion ∧ 1 ≤ currentVersion
  then s.setPhase i (.complete currentVersion)
  else s.setPhase i .done

/-- Run `CompleteSecretMutation`, whoever calls it. -/
def complete (s : State) (m : SecretMutation) (backendVersion : ℕ) : State :=
  let result := completeSecretMutation s.now s.tables m backendVersion
  { s with tables := commit s.tables (result.map Prod.snd) }

/-- Run `AbandonSecretMutation`. -/
def abandon (s : State) (m : SecretMutation) : State :=
  { s with tables := commit s.tables (abandonSecretMutation s.tables m) }

/-- What a pass makes of the next mutation on its list. -/
def nextPass (timeout : Time) (s : State) : List SecretMutation → Pass
  | [] => .done
  | m :: rest =>
    let currentVersion := s.kv.current m.reference
    if currentVersion = m.backendVersion then .complete m currentVersion
    else if currentVersion = m.expectedBackendVersion ∧ m.createdAt + timeout ≤ s.now
    then .abandon m
    else .scan rest

/-- The store call a pass settled on. -/
def act (s : State) (i : ℕ) : Pass → State
  | .complete m currentVersion => (s.complete m currentVersion).setPass i .done
  | .abandon m => (s.abandon m).setPass i .done
  | _ => s

end State

/-- One step of the system; `timeout` is the worker's `MutationTimeout`. A step that its request
or pass is not ready for changes nothing. -/
def step (timeout : Time) (s : State) : Action → State
  | .tick seconds => { s with now := s.now + seconds }
  | .beginCreate x => s.beginCreate x
  | .beginReplace x resourceVersion => s.beginReplace x resourceVersion
  | .put i =>
    match s.requests.lookup i with
    | some r => if r.phase = .put then s.put i r else s
    | none => s
  | .inspect i =>
    match s.requests.lookup i with
    | some r => if r.phase = .inspect then s.inspect i r else s
    | none => s
  | .complete i =>
    match s.requests.lookup i with
    | some ⟨_, m, .complete backendVersion⟩ => (s.complete m backendVersion).setPhase i .done
    | _ => s
  | .passBegin =>
    match listPendingSecretMutations s.tables 20 with
    | .ok mutations => { s with passes := s.passes.insert (.scan mutations) }
    | .error _ => s
  | .passInspect i =>
    match s.passes.lookup i with
    | some (.scan mutations) => s.setPass i (s.nextPass timeout mutations)
    | _ => s
  | .passSkip i =>
    match s.passes.lookup i with
    | some (.scan mutations) => s.setPass i (.scan mutations.tail)
    | _ => s
  | .passAct i =>
    match s.passes.lookup i with
    | some pass => s.act i pass
    | none => s

/-- The system before the first request: any workspaces, and nothing else. -/
def initial (now : Time) (workspaces : Table Workspace) : State where
  now := now
  tables := {
    workspaces := workspaces
    parameters := .empty
    versions := .empty
    reservations := .empty }
  kv := .empty
  requests := .empty
  passes := .empty
  submitted := fun _ => none

end Molejo.Parameters
