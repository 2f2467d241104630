import Molejo.Store.BindingObservation
import Molejo.Store.Rows
import Molejo.Lib.Session

/-!
# The order of heartbeats

An Agent that has lost its connection opens another one, and the old stream may still be at
work: a stream handles a heartbeat in several transactions, and between any two of them it may
be held up for as long as it takes. `ActivateAgent` writes the session of the new stream into
the row of the installation, `TouchAgent` the number of a heartbeat, and the transactions that
apply what a heartbeat reports compare both with the row. Nothing else orders the streams.

So an installation is a register of sessions (`Session.Register`), and every one of these
transactions, if it commits, is a step of the register (`step_moved`). What follows is said
of sessions in general in `Molejo.Lib.Session`.

Here any call may be made at any time, with any session and any number, by any number of
streams. Each installation has a log of the calls that were let through; no transaction reads
it.
-/

namespace Molejo.Store

open Transaction Transition Table

/-! ### The system -/

/-- The store with the bindings of its clusters, and for each installation what has happened in its
sessions, the newest first. -/
structure HeartbeatState where
  store : State
  bindings : Bindings
  log : ℕ → List (Session.Event String)

inductive HeartbeatAction
  /-- A step of the store: sessions, heartbeats, observations, revoking, and everything else. -/
  | store (a : Action)
  /-- `ReconcileBindingObservations`. -/
  | reconcileBindings (report : BindingReport)
  /-- Operators change bindings. -/
  | configure (bindings : Bindings)

/-- The installation that a public id names. -/
def installationOf (db : Db) (publicId : String) : Option ℕ :=
  (db.installations.first fun _ r => r.publicId = publicId).map Prod.fst

/-- What a call of the store is in the sessions of an installation, if it commits. -/
def sessionEvent (s : State) : Action → Option (ℕ × Session.Event String)
  | .activateAgent publicId sessionId =>
    if (activateAgent s.db publicId sessionId).isOk = true then
      (installationOf s.db publicId).map fun i => (i, .opened sessionId)
    else none
  | .touchAgent publicId sessionId sequence =>
    if (touchAgent s.db publicId sessionId sequence).isOk = true then
      (installationOf s.db publicId).map fun i => (i, .touched sessionId sequence)
    else none
  | .reconcile ids heartbeat =>
    if (reconcileAgentObservations s.now ids s.db heartbeat).isOk = true then
      (sessionOf s.db heartbeat).toOption.map fun i =>
        (i, .applied heartbeat.sessionId heartbeat.sequence)
    else none
  | .revokeCluster publicId reason =>
    if (revokeCluster s.now s.db publicId reason).isOk = true then
      -- A cluster is revoked once; after that the call changes nothing.
      ((s.db.installations.first fun _ r => r.publicId = publicId).filter
        fun x => x.2.status ≠ .revoked).map fun x => (x.1, .closed)
    else none
  | .tick _ | .elsewhere _ | .attachWorkspaceCluster _ | .createAppEnvironment _
  | .updateAppEnvironment .. | .deleteAppEnvironment _ | .expandAppVolume .. | .deleteAppVolume _
  | .createDeployment _ | .claimNext .. | .reload .. | .handleResult .. | .fail ..
  | .releaseClaims _ => none

namespace HeartbeatState

variable (policy : PublicationPolicy) (s : HeartbeatState)

/-- An event is written into the log of its installation. -/
def record : Option (ℕ × Session.Event String) → ℕ → List (Session.Event String)
  | none => s.log
  | some (i, e) => Function.update s.log i (e :: s.log i)

/-- The bindings change, and `Molejo.Store` sees as much of it as it reads. -/
def setBindings (b : Bindings) : HeartbeatState :=
  { s with
    bindings := b
    store := { s.store with
      db := { s.store.db with storageBindings := b.storage.view ClusterStorageBinding.view } } }

/-- One step. -/
def step : HeartbeatAction → HeartbeatState
  | .store a =>
    { s with store := Store.step policy s.store a, log := s.record (sessionEvent s.store a) }
  | .reconcileBindings report =>
    match reconcileBindingObservations s.store.db s.bindings report with
    | .ok (i, bindings) =>
      { s.setBindings bindings with
        log := s.record (some (i, .applied report.sessionId report.sequence)) }
    | .error _ => s
  | .configure bindings => s.setBindings bindings

/-- No session was ever opened. -/
structure Initial : Prop where
  sessions : ∀ i r, s.store.db.installations.lookup i = some r → r.controlSessionId = none
  log : ∀ i, s.log i = []

end HeartbeatState

/-- **Heartbeats are accepted and applied in order**, for every installation. -/
def HeartbeatOrder (s : HeartbeatState) : Prop :=
  ∀ i, Session.Ordered (s.log i)

/-! ### Installations as registers -/

/-- What the row of an installation says about its session. -/
def register (installations : Table Installation) (i : ℕ) : Session.Register String :=
  match installations.lookup i with
  | some r => ⟨r.controlSessionId, r.controlSessionSequence⟩
  | none => ⟨none, 0⟩

section Register

variable {t : Table Installation} {i j : ℕ} {r : Installation} {f : Installation → Installation}

theorem register_of_lookup (h : t.lookup i = some r) :
    register t i = ⟨r.controlSessionId, r.controlSessionSequence⟩ := by
  rw [register, h]

theorem register_modify_self (h : t.lookup i = some r) :
    register (t.modify (fun k _ => k = i) f) i =
      ⟨(f r).controlSessionId, (f r).controlSessionSequence⟩ :=
  register_of_lookup (lookup_modify_of_pos h rfl)

theorem register_modify_of_ne (h : i ≠ j) :
    register (t.modify (fun k _ => k = j) f) i = register t i := by
  have heq : (t.modify (fun k _ => k = j) f).lookup i = t.lookup i := by
    rw [lookup_modify]
    cases t.lookup i with
    | none => rfl
    | some => simp [h]
  rw [register, register, heq]

end Register

/-- What a step does to an installation and its log: nothing, or one step of the register. -/
def Moved (s s' : HeartbeatState) (i : ℕ) : Prop :=
  (register s'.store.db.installations i = register s.store.db.installations i ∧
    s'.log i = s.log i) ∨
  ∃ e, Session.Step (register s.store.db.installations i) e
      (register s'.store.db.installations i) ∧ s'.log i = e :: s.log i

section Steps

variable {policy : PublicationPolicy} {s s' : HeartbeatState} {a : Action} {i : ℕ}

theorem moved_of_eq (hr : s'.store.db.installations = s.store.db.installations)
    (hl : s'.log = s.log) : Moved s s' i :=
  .inl ⟨hr ▸ rfl, hl ▸ rfl⟩

/-- A transaction on the row of one installation, and its event. -/
theorem moved_of_modify {j : ℕ} {r : Installation} {f : Installation → Installation}
    {e : Session.Event String} (hj : s.store.db.installations.lookup j = some r)
    (hi : s'.store.db.installations = s.store.db.installations.modify (fun k _ => k = j) f)
    (hl : s'.log = s.record (some (j, e)))
    (hs : Session.Step ⟨r.controlSessionId, r.controlSessionSequence⟩ e
      ⟨(f r).controlSessionId, (f r).controlSessionSequence⟩) : Moved s s' i := by
  by_cases hne : i = j
  · subst hne
    refine .inr ⟨e, ?_, ?_⟩
    · rw [hi, register_modify_self hj, register_of_lookup hj]
      exact hs
    · rw [hl, HeartbeatState.record, Function.update_self]
  · refine .inl ⟨?_, ?_⟩
    · rw [hi, register_modify_of_ne hne]
    · rw [hl, HeartbeatState.record, Function.update_of_ne hne]

/-- Something is applied; the row of the installation stays. -/
theorem moved_of_applied {j : ℕ} {r : Installation} {sessionId : String} {sequence : ℕ}
    (hj : s.store.db.installations.lookup j = some r)
    (hi : s'.store.db.installations = s.store.db.installations)
    (hl : s'.log = s.record (some (j, .applied sessionId sequence)))
    (hs : r.controlSessionId = some sessionId) (hn : r.controlSessionSequence = sequence)
    (hpos : 0 < sequence) : Moved s s' i := by
  by_cases hne : i = j
  · subst hne
    refine .inr ⟨_, ?_, by rw [hl, HeartbeatState.record, Function.update_self]⟩
    rw [hi, register_of_lookup hj]
    exact .applied sessionId sequence hs hn hpos
  · refine .inl ⟨by rw [hi], ?_⟩
    rw [hl, HeartbeatState.record, Function.update_of_ne hne]

/-- A call of the store that does not commit. -/
theorem moved_of_error {x : Except Err Db} {e : Err} (hx : x = .error e)
    (hstep : Store.step policy s.store a = s.store.transact x)
    (hevent : sessionEvent s.store a = none) :
    Moved s (s.step policy (.store a)) i := by
  apply moved_of_eq
  · simp only [HeartbeatState.step, hstep, State.transact, hx, commit_error]
  · simp only [HeartbeatState.step, hevent, HeartbeatState.record]

/-- A call of the store that commits an update of the row of an installation. -/
theorem moved_of_ok {x : Except Err Db} {db : Db} {j : ℕ} {r : Installation}
    {f : Installation → Installation} {e : Session.Event String} (hx : x = .ok db)
    (hstep : Store.step policy s.store a = s.store.transact x)
    (hevent : sessionEvent s.store a = some (j, e))
    (hj : s.store.db.installations.lookup j = some r)
    (hi : db.installations = s.store.db.installations.modify (fun k _ => k = j) f)
    (hs : Session.Step ⟨r.controlSessionId, r.controlSessionSequence⟩ e
      ⟨(f r).controlSessionId, (f r).controlSessionSequence⟩) :
    Moved s (s.step policy (.store a)) i := by
  refine moved_of_modify hj ?_ ?_ hs
  · simp only [HeartbeatState.step, hstep, State.transact, hx, commit_ok, hi]
  · simp only [HeartbeatState.step, hevent]

theorem moved_activate (publicId sessionId : String) :
    Moved s (s.step policy (.store (.activateAgent publicId sessionId))) i := by
  cases h : activateAgent s.store.db publicId sessionId with
  | error => exact moved_of_error h rfl (by simp [sessionEvent, h, Except.isOk, Except.toBool])
  | ok =>
    have hok := h
    simp only [activateAgent, ok_iff] at h
    obtain ⟨-, _, hj, -, rfl⟩ := h
    refine moved_of_ok (f := fun r =>
      { r with status := .active, controlSessionId := some sessionId, controlSessionSequence := 0 })
      hok rfl ?_ (lookup_of_first hj) rfl (.opened sessionId)
    simp [sessionEvent, hok, Except.isOk, Except.toBool, installationOf, hj]

theorem moved_touch (publicId sessionId : String) (sequence : ℕ) :
    Moved s (s.step policy (.store (.touchAgent publicId sessionId sequence))) i := by
  cases h : touchAgent s.store.db publicId sessionId sequence with
  | error => exact moved_of_error h rfl (by simp [sessionEvent, h, Except.isOk, Except.toBool])
  | ok =>
    have hok := h
    simp only [touchAgent, ok_iff] at h
    obtain ⟨-, _, hj, ⟨-, hsession, hlt⟩, rfl⟩ := h
    refine moved_of_ok (f := fun r => { r with controlSessionSequence := sequence })
      (e := .touched sessionId sequence) hok rfl ?_ (lookup_of_first hj) rfl ?_
    · simp [sessionEvent, hok, Except.isOk, Except.toBool, installationOf, hj]
    · dsimp only
      rw [hsession]
      exact .touched sessionId sequence rfl hlt

theorem moved_revoke (publicId reason : String) :
    Moved s (s.step policy (.store (.revokeCluster publicId reason))) i := by
  cases h : revokeCluster s.store.now s.store.db publicId reason with
  | error => exact moved_of_error h rfl (by simp [sessionEvent, h, Except.isOk, Except.toBool])
  | ok =>
    have hok := h
    simp only [revokeCluster, ok_iff] at h
    obtain ⟨-, ⟨j, r⟩, hj, h⟩ := h
    by_cases hrevoked : r.status = .revoked
    · rw [if_pos hrevoked] at h
      cases h
      apply moved_of_eq
      · simp only [HeartbeatState.step, Store.step, State.transact, hok, commit_ok]
      · simp [HeartbeatState.step, sessionEvent, hok, Except.isOk, Except.toBool, hj, Option.filter,
          hrevoked, HeartbeatState.record]
    · rw [if_neg hrevoked] at h
      cases h
      refine moved_of_ok (f := fun r =>
        { r with
          status := .revoked
          revokedAt := some s.store.now
          revocationReason := some (trimSpace reason)
          controlSessionId := none
          controlSessionSequence := 0 }) hok rfl ?_ (lookup_of_first hj) rfl .closed
      simp [sessionEvent, hok, Except.isOk, Except.toBool, hj, Option.filter, hrevoked]

theorem moved_reconcile (ids : ℕ → String) (heartbeat : Heartbeat) :
    Moved s (s.step policy (.store (.reconcile ids heartbeat))) i := by
  cases h : reconcileAgentObservations s.store.now ids s.store.db heartbeat with
  | error => exact moved_of_error h rfl (by simp [sessionEvent, h, Except.isOk, Except.toBool])
  | ok =>
    have hi := (step_outside policy s.store (.reconcile ids heartbeat)).1.resolve_right (by
      rintro (⟨hfalse, -⟩ | ⟨_, _, _, _, hne, -⟩)
      · exact hfalse
      · cases hne)
    have hok := h
    simp only [reconcileAgentObservations, ok_iff] at h
    obtain ⟨⟨-, hpos, -⟩, -, -, _, hs, -⟩ := h
    have hsession := hs
    simp only [sessionOf, ok_iff] at hs
    obtain ⟨⟨_, _⟩, hj, ⟨hcurrent, hsequence⟩, rfl⟩ := hs
    refine moved_of_applied (lookup_of_first hj) hi ?_ hcurrent hsequence hpos
    simp [HeartbeatState.step, sessionEvent, hok, Except.isOk, Except.toBool, hsession,
      Except.toOption]

theorem moved_reconcileBindings (report : BindingReport) :
    Moved s (s.step policy (.reconcileBindings report)) i := by
  simp only [HeartbeatState.step]
  split
  · rename_i j bindings h
    simp only [reconcileBindingObservations, ok_iff, Prod.mk.injEq] at h
    obtain ⟨⟨-, ⟨hpos, -⟩, -⟩, ⟨_, _⟩, hj, ⟨hcurrent, hsequence⟩, -, _, -, rfl, rfl⟩ := h
    exact moved_of_applied (lookup_of_first hj) rfl rfl hcurrent hsequence hpos
  · exact moved_of_eq rfl rfl

/-- A call of the store that is not about a session. -/
theorem moved_of_quiet (hevent : sessionEvent s.store a = none) (hs : ¬ a.OfSession)
    (hr : ∀ publicId reason, a ≠ .revokeCluster publicId reason) :
    Moved s (s.step policy (.store a)) i := by
  apply moved_of_eq
  · refine (step_outside policy s.store a).1.resolve_right ?_
    rintro (⟨hsession, -⟩ | ⟨publicId, reason, _, _, heq, -⟩)
    · exact hs hsession
    · exact hr publicId reason heq
  · simp only [HeartbeatState.step, hevent, HeartbeatState.record]

/-- **One step**, of whatever kind, moves every installation as a register of sessions moves. -/
theorem step_moved (policy) (s : HeartbeatState) (a : HeartbeatAction) (i : ℕ) :
    Moved s (s.step policy a) i := by
  cases a with
  | store a =>
    cases a with
    | activateAgent publicId sessionId => exact moved_activate publicId sessionId
    | touchAgent publicId sessionId sequence => exact moved_touch publicId sessionId sequence
    | reconcile ids heartbeat => exact moved_reconcile ids heartbeat
    | revokeCluster publicId reason => exact moved_revoke publicId reason
    | _ => exact moved_of_quiet rfl id nofun
  | reconcileBindings report => exact moved_reconcileBindings report
  | configure => exact moved_of_eq rfl rfl

/-- **Heartbeats are accepted and applied in order**, whatever calls are made and in whatever
order. -/
theorem heartbeatOrder_run (policy : PublicationPolicy) (hs : s.Initial)
    (acts : List HeartbeatAction) :
    HeartbeatOrder (run (HeartbeatState.step policy) s acts) := by
  have hexplains : ∀ i, Session.Explains ((run (HeartbeatState.step policy) s acts).log i)
      (register (run (HeartbeatState.step policy) s acts).store.db.installations i) := by
    refine run_induction (I := fun s : HeartbeatState => ∀ i, Session.Explains (s.log i)
      (register s.store.db.installations i)) (fun i => ?_) (fun s a h i => ?_)
    · rw [hs.log i]
      cases hl : s.store.db.installations.lookup i with
      | none =>
        rw [register, hl]
        exact .init 0
      | some r =>
        rw [register_of_lookup hl, hs.sessions i r hl]
        exact .init _
    · rcases step_moved policy s a i with ⟨hr, hlog⟩ | ⟨e, hstep, hlog⟩
      · rw [hr, hlog]
        exact h i
      · rw [hlog]
        exact (h i).step hstep
  exact fun i => (hexplains i).ordered

end Steps

/-! ### Two streams -/

/-- One cluster, nothing bound. -/
def smallHeartbeats : HeartbeatState where
  store := smallStore
  bindings := ⟨.empty, .empty⟩
  log := fun _ => []

theorem smallHeartbeats_initial : smallHeartbeats.Initial where
  sessions := by
    intro i r h
    rcases lookup_insert_eq_some.mp h with ⟨-, rfl⟩ | h
    · rfl
    · simp at h
  log _ := rfl

/-- A report of that session, on bindings that do not exist. -/
def emptyReport (sessionId : String) (sequence : ℕ) : BindingReport where
  clusterPublicId := "cls-one"
  sessionId := sessionId
  sequence := sequence
  observations := []
  complete := true
  receivedAt := 0

/-- A stream is held up after its second heartbeat was accepted; another one is opened and reports;
then the first goes on. -/
def twoStreams : List HeartbeatAction :=
  [.store (.activateAgent "cls-one" "one"), .store (.touchAgent "cls-one" "one" 1),
    .reconcileBindings (emptyReport "one" 1), .store (.touchAgent "cls-one" "one" 2),
    .store (.activateAgent "cls-one" "two"), .store (.touchAgent "cls-one" "two" 1),
    .reconcileBindings (emptyReport "one" 2), .store (.touchAgent "cls-one" "one" 3),
    .reconcileBindings (emptyReport "two" 1)]

/-- What the first stream still reports and touches is refused. -/
theorem heartbeatOrder_twoStreams :
    (run (HeartbeatState.step smallPolicy) smallHeartbeats twoStreams).log 1 =
        [.applied "two" 1, .touched "two" 1, .opened "two", .touched "one" 2, .applied "one" 1,
          .touched "one" 1, .opened "one"] ∧
      HeartbeatOrder (run (HeartbeatState.step smallPolicy) smallHeartbeats twoStreams) :=
  ⟨by decide +kernel, heartbeatOrder_run smallPolicy smallHeartbeats_initial twoStreams⟩

end Molejo.Store
