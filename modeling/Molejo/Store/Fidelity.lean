import Molejo.Parameters.History
import Molejo.Store.Command
import Molejo.Store.Fencing
import Molejo.Store.Retention

/-!
# A deployment gets the values that its parameters were written with

A binding fixes a version of a parameter, and a version is never written twice. So the command
for a deployment should give its bindings the very texts that were stored for those versions,
whenever it is prepared, or not be prepared at all.

That fails by purging. A purged version is a row without a value, and
`Molejo.Store.resolveParameterBinding` takes a missing value for the empty text: a workload then
starts with an empty variable, and nothing reports it. The uses that archiving and purging look
at are not all the uses there are (see `Molejo.Store.Retention`):

* an old configuration revision can be deployed after its parameters were purged
  (`not_faithful_revisionRun`);
* a deployment that is desired but was never applied keeps being repaired after that.

What is missing is exactly this: when a parameter is purged, no *live* deployment binds it –
none with an active operation, and none that a repair would apply again – and a deployment is
created from a revision only if it binds nothing that was purged. Under these two conditions
(`ParameterAction.Careful`) every command that is prepared for an active operation has the values
that were written (`faithful_of_careful`).

The state keeps what each row of `parameter_versions` was written with. No step reads it.
-/

namespace Molejo.Store

open Transaction Parameters Table Transition

/-! ### States and actions -/

/-- The store, the parameters that maintenance workers have listed, and the text that each version
row was written with. -/
structure ParameterState where
  store : State
  listed : List ℕ
  written : ℕ → Option String

/-- The steps of the store, and those of parameters. -/
inductive ParameterAction
  | store (a : Action)
  | createParameter (workspaceId actorId : ℕ) (publicId path description value : String)
  | replaceParameter (workspaceId actorId : ℕ) (publicId path description : String)
      (resourceVersion : ℕ) (value : String)
  | beginCreateSecret (workspaceId actorId : ℕ) (publicId path description reference : String)
      (fingerprint : Fingerprint) (idempotencyHash payloadHash : Digest)
  | beginReplaceSecret (workspaceId actorId : ℕ) (publicId path description : String)
      (resourceVersion : ℕ) (fingerprint : Fingerprint) (idempotencyHash payloadHash : Digest)
  | completeSecret (mutation : SecretMutation) (backendVersion : ℕ)
  | abandonSecret (mutation : SecretMutation)
  | archiveParameter (workspaceId : ℕ) (publicId : String) (version : ℕ) (retention : ℤ)
  | listParameterPurgeCandidates (limit : ℕ)
  /-- A worker purges a parameter that it has listed, now or before. -/
  | markParameterPurged (parameterId : ℕ)

/-- Other parts of the control plane leave the parameters alone. -/
def Action.keepParameters (db : Db) : Action → Action
  | .elsewhere x => .elsewhere { x with
      parameters := db.parameters, versions := db.versions, reservations := db.reservations }
  | a => a

namespace ParameterState

variable (w : ParameterState)

/-- The database. -/
abbrev db : Db := w.store.db

/-- Commit a change of the database. -/
def transact (x : Except Err Db) : ParameterState :=
  { w with store := { w.store with db := commit w.store.db x } }

/-- Commit a change of the tables of parameters. -/
def transactTables (x : Except Err Tables) : ParameterState :=
  w.transact (x.map (putTables w.db))

/-- Commit a change that writes a version with the text `value`. -/
def write (value : String) (x : Except Err Tables) : ParameterState :=
  match x with
  | .ok _ =>
    { w.transactTables x with
      written := Function.update w.written w.db.versions.nextId (some value) }
  | .error _ => w

/-- One step. -/
def step (policy : PublicationPolicy) (w : ParameterState) : ParameterAction → ParameterState
  | .store a => { w with store := Store.step policy w.store (a.keepParameters w.db) }
  | .createParameter workspaceId actorId publicId path description value =>
    w.write value (createParameter w.store.now w.db.toTables workspaceId actorId publicId path
      .plainText description (.plainText value))
  | .replaceParameter workspaceId actorId publicId path description resourceVersion value =>
    w.write value (replaceParameter w.store.now w.db.toTables workspaceId actorId publicId path
      description resourceVersion (.plainText value))
  | .beginCreateSecret workspaceId actorId publicId path description reference fingerprint
      idempotencyHash payloadHash =>
    w.transactTables ((beginCreateSecretParameter w.store.now w.db.toTables workspaceId actorId
      publicId path description reference fingerprint idempotencyHash payloadHash).map
        fun r => r.2.2)
  | .beginReplaceSecret workspaceId actorId publicId path description resourceVersion fingerprint
      idempotencyHash payloadHash =>
    w.transactTables ((beginReplaceSecretParameter w.store.now w.db.toTables workspaceId actorId
      publicId path description resourceVersion fingerprint idempotencyHash payloadHash).map
        fun r => r.2.2)
  | .completeSecret mutation backendVersion =>
    w.transactTables ((completeSecretMutation w.store.now w.db.toTables mutation
      backendVersion).map Prod.snd)
  | .abandonSecret mutation => w.transact (abandonSecretMutation w.db mutation)
  | .archiveParameter workspaceId publicId version retention =>
    w.transact (archiveParameter w.store.now w.db workspaceId publicId version retention)
  | .listParameterPurgeCandidates limit =>
    { w with listed := w.listed ++ listParameterPurgeCandidates w.store.now w.db limit }
  | .markParameterPurged parameterId =>
    if parameterId ∈ w.listed then w.transact (markParameterPurged w.store.now w.db parameterId)
    else w

/-- What the runs start from: a store at its start, and no parameters. -/
structure Initial : Prop where
  store : Store.Initial w.store
  parameters : w.db.parameters = .empty
  versions : w.db.versions = .empty

/-! ### What a command should say -/

/-- The variable that a binding of a `PlainText` parameter stands for: the text that the version
was written with. -/
def writtenVariable (workspaceId : ℕ) (b : ParameterBinding) : Option Variable := do
  let p ← boundParameter w.db.toTables workspaceId b
  if p.2.kind = .plainText then
    let v ← boundVersion w.db.toTables p.1 b
    let value ← w.written v.1
    some ⟨b.name, value⟩
  else none

/-- The variables of a deployment that come from parameters. -/
def writtenVariables (d : Deployment) : List Variable :=
  d.configuration.parameters.filterMap (w.writtenVariable d.workspaceId)

/-- Every command that is prepared for an active operation on a deployment has the variables of
the configuration and the texts that its `PlainText` bindings were written with. -/
def Faithful (policy : PublicationPolicy) (secrets : String → ℕ → Except Err String) : Prop :=
  ∀ i o d payload intent, w.db.operations.lookup i = some o → o.Active →
    o.deploymentId.bind w.db.deployments.lookup = some d →
    commandPayload policy secrets w.db o = .ok payload → payload.deployment = some intent →
    intent.runtimeVariables = d.configuration.runtimeVariables ++ w.writtenVariables d

end ParameterState

/-! ### The condition -/

/-- The deployment has an active operation, or a repair may give it one. -/
def Live (db : Db) (j : ℕ) : Prop :=
  (db.operations.Any fun _ o => o.deploymentId = some j ∧ o.Active) ∨
  db.appEnvironments.Any fun _ ae => ae.desiredDeploymentId = some j ∧ ae.archivedAt = none ∧
    ae.deletionRequestedAt = none
deriving Decidable

/-- The deployment has a binding of the parameter. -/
def Binds (d : Deployment) (p : Parameter) : Prop :=
  p.workspaceId = d.workspaceId ∧
    ∃ b ∈ d.configuration.parameters, p.publicId = b.parameterPublicId
deriving Decidable

/-- The request of an action that creates a deployment. -/
def ParameterAction.deploys? : ParameterAction → Option DeploymentRequest
  | .store (.createDeployment request) => some request
  | _ => none

/-- The parameter that an action purges. -/
def ParameterAction.purges? : ParameterAction → Option ℕ
  | .markParameterPurged parameterId => some parameterId
  | _ => none

/-- The revision that the deployment would be created from binds no purged `PlainText`
parameter. -/
def RevisionKept (w : ParameterState) (request : DeploymentRequest) : Prop :=
  ∀ c ∈ adopted w.store (.createDeployment request), ∀ b ∈ c.2.2.parameters,
    ∀ i p, w.db.parameters.lookup i = some p → p.workspaceId = request.workspaceId →
      p.publicId = b.parameterPublicId → p.kind = .plainText → p.purgedAt = none
deriving Decidable

/-- No live deployment binds the parameter, if it is a `PlainText` one. -/
def Unused (w : ParameterState) (parameterId : ℕ) : Prop :=
  ∀ p ∈ w.db.parameters.lookup parameterId, p.kind = .plainText →
    ∀ j d, w.db.deployments.lookup j = some d → Live w.db j → ¬ Binds d p
deriving Decidable

/-- A deployment is created only from a revision whose values are kept, and a parameter is purged
only if it is not used. -/
def ParameterAction.Careful (w : ParameterState) (a : ParameterAction) : Prop :=
  (∀ request ∈ a.deploys?, RevisionKept w request) ∧ ∀ i ∈ a.purges?, Unused w i
deriving Decidable

/-! ### What the store does meanwhile -/

section StoreSteps

variable {policy : PublicationPolicy} {s : State} {a : Action} {j : ℕ}

/-- **The store does not write parameters.** -/
theorem step_tables (policy) (s : State) (a : Action) :
    SameParameters s.db.toTables (step policy s (a.keepParameters s.db)).db.toTables := by
  unfold SameParameters
  obtain ⟨_, h⟩ | ⟨_, ha, -, h⟩ := (step_outside policy s (a.keepParameters s.db)).2 <;> rw [h]
  · exact ⟨rfl, rfl, rfl⟩
  · cases a with
    | elsewhere =>
      cases ha
      exact ⟨rfl, rfl, rfl⟩
    | _ => cases ha

/-- Nothing becomes live again: what is live was live, or was just created. -/
theorem live_of_step (policy) (a : Action)
    (h : Live (step policy s a).db j) (hj : j ≠ s.db.deployments.nextId) : Live s.db j := by
  rcases h with h | h
  · obtain ⟨k, o', ho', hd, hact⟩ := any_iff.mp h
    rcases operation_cases policy a ho' with ⟨o, ho, hf⟩ | ⟨-, hnew, hins⟩
    · exact .inl (any_iff.mpr ⟨k, o, ho, hf.deploymentId ▸ hd, hf.active hact⟩)
    · have hkind := hnew.target.kind_of_deployment (by simp [hd])
      cases hins with
      | deploy => exact absurd (Option.some.inj hd).symm hj
      | applyDeployment _ _ _ _ e ae _ _ _ hae hna hdel hde =>
        refine .inr (any_iff.mpr ⟨e, ae, hae, ?_, hna, hdel⟩)
        exact hde.symm.trans hd
      | attach _ _ _ hk => exact nomatch hk.symm.trans hkind
      | create _ _ _ hk => exact nomatch hk.symm.trans hkind
      | ensureVolume _ _ _ _ _ hk => exact nomatch hk.symm.trans hkind
      | _ => exact nomatch hkind
  · obtain ⟨e, ae', hae', hd, hna, hdel⟩ := any_iff.mp h
    rcases environment_cases policy a hae' with ⟨ae, hae, hstep⟩ | hnew
    · refine .inr (any_iff.mpr ⟨e, ae, hae, ?_⟩)
      cases hstep with
      | report hcore =>
        exact ⟨(desired_of_core hcore).symm.trans hd, (archivedAt_of_core hcore).symm.trans hna,
          (deletionRequestedAt_of_core hcore).symm.trans hdel⟩
      | desire => exact absurd (Option.some.inj hd).symm hj
      | delete => exact nomatch hdel
      | archive => exact nomatch hna
      | _ => exact ⟨hd, hna, hdel⟩
    · exact nomatch hd.symm.trans hnew.1

theorem parameters_of_reserve {claims claims' : Table PublicationClaim} {i v : ℕ}
    {kind : WorkloadKind} {configuration reserved : RuntimeConfig}
    (h : reservePublicationClaims policy claims i v kind configuration = .ok (claims', reserved)) :
    reserved.parameters = configuration.parameters := by
  simp only [reservePublicationClaims, ok_iff] at h
  obtain ⟨⟨_, _⟩, -, ⟨⟩⟩ := h
  rfl

end StoreSteps

/-! ### The invariant -/

/-- **What keeps commands faithful.** The rows of a `PlainText` parameter have their texts until it
is purged, and no live deployment binds a parameter that was purged. -/
structure Sound (w : ParameterState) : Prop where
  owned : ∀ j v, w.db.versions.lookup j = some v → v.parameterId < w.db.parameters.nextId
  stored : ∀ i p j v, w.db.parameters.lookup i = some p → p.kind = .plainText →
    p.purgedAt = none → w.db.versions.lookup j = some v → v.parameterId = i →
      ∃ text, v.plaintextValue = some text ∧ w.written j = some text
  live : ∀ j d, w.db.deployments.lookup j = some d → Live w.db j →
    ∀ i p, w.db.parameters.lookup i = some p → p.kind = .plainText → Binds d p →
      p.purgedAt = none

theorem ParameterState.Initial.sound {w : ParameterState} (h : w.Initial) : Sound w where
  owned _ _ := of_lookup_empty h.versions
  stored _ _ _ _ := of_lookup_empty h.parameters
  live j d hd := by
    rw [h.store.deployments] at hd
    cases hd

/-- What no transaction but a purge changes of a parameter. -/
def parameterIdentity (p : Parameter) : Kind × ℕ × String × Option Time :=
  (p.kind, p.workspaceId, p.publicId, p.purgedAt)

/-- A change of the parameters that loses no value: a parameter is an old one, or new and not
purged, and a version is an old one, or new and written with its text if it is one of a
`PlainText` parameter. -/
structure Extends (t t' : Tables) (written written' : ℕ → Option String) : Prop where
  nextId : t.parameters.nextId ≤ t'.parameters.nextId
  parameters : ∀ i p', t'.parameters.lookup i = some p' →
    (∃ p, t.parameters.lookup i = some p ∧ parameterIdentity p' = parameterIdentity p) ∨
      (i = t.parameters.nextId ∧ p'.purgedAt = none)
  versions : ∀ j v', t'.versions.lookup j = some v' →
    (∃ v, t.versions.lookup j = some v ∧ v'.parameterId = v.parameterId ∧
      v'.plaintextValue = v.plaintextValue ∧ written' j = written j) ∨
    (v'.parameterId < t'.parameters.nextId ∧
      ∀ p', t'.parameters.lookup v'.parameterId = some p' → p'.kind = .plainText →
        ∃ text, v'.plaintextValue = some text ∧ written' j = some text)

section Changes

variable {w : ParameterState} {written : ℕ → Option String} {db : Tables}

/-- The state after a change of the parameters. -/
abbrev ParameterState.put (w : ParameterState) (t : Tables) (written : ℕ → Option String) :
    ParameterState :=
  { w with
    store := { w.store with
      db := { w.db with toSurroundings := { w.db.toSurroundings with toTables := t } } }
    written := written }

/-- **A change that loses no value keeps the invariant.** -/
theorem Sound.put (h : Sound w) {t : Tables} (ht : Extends w.db.toTables t w.written written) :
    Sound (w.put t written) where
  owned j v' hv' := by
    rcases ht.versions j v' hv' with ⟨v, hv, hid, -⟩ | ⟨hlt, -⟩
    · rw [hid]
      exact lt_of_lt_of_le (h.owned j v hv) ht.nextId
    · exact hlt
  stored i p' j v' hp' hkind hkept hv' hid := by
    rcases ht.versions j v' hv' with ⟨v, hv, hpar, htext, hwritten⟩ | ⟨-, hnew⟩
    · rw [htext, show (w.put t written).written j = w.written j from hwritten]
      rcases ht.parameters i p' hp' with ⟨p, hp, hsame⟩ | ⟨rfl, -⟩
      · simp only [parameterIdentity, Prod.mk.injEq] at hsame
        obtain ⟨hk, -, -, hpurged⟩ := hsame
        exact h.stored i p j v hp (hk ▸ hkind) (hpurged ▸ hkept) hv (hpar ▸ hid)
      · -- no old version belongs to the new parameter
        have hlt := h.owned j v hv
        rw [← hpar, hid] at hlt
        exact absurd hlt (lt_irrefl _)
    · exact hnew p' (hid ▸ hp') hkind
  live j d hd hlive i p' hp' hkind hbinds := by
    rcases ht.parameters i p' hp' with ⟨p, hp, hsame⟩ | ⟨-, hkept⟩
    · simp only [parameterIdentity, Prod.mk.injEq] at hsame
      obtain ⟨hk, hworkspace, hpublic, hpurged⟩ := hsame
      rw [hpurged]
      refine h.live j d hd hlive i p hp (hk ▸ hkind) ?_
      rwa [Binds, hworkspace, hpublic] at hbinds
    · exact hkept

/-! ### Every transaction on parameters loses no value -/

/-- Callers who store nothing but this text. -/
def textRules (text : Option String) : Rules :=
  { Rules.none with value := fun _ value => ∃ v ∈ text, value = .plainText v }

/-- What was written, after a change by which a text may have been stored. -/
def writtenAfter (t : Tables) (written : ℕ → Option String) (text : Option String) :
    ℕ → Option String :=
  text.elim written fun v => Function.update written t.versions.nextId (some v)

theorem extends_of_change {t t' : Tables} {text : Option String}
    (hc : Change (textRules text) t t') : Extends t t' written (writtenAfter t written text) := by
  have hparam : ∀ i p', t.parameters.lookup i = some p' →
      (∃ p, t.parameters.lookup i = some p ∧ parameterIdentity p' = parameterIdentity p) ∨
        (i = t.parameters.nextId ∧ p'.purgedAt = none) :=
    fun i p hp => .inl ⟨p, hp, rfl⟩
  have hold {j : ℕ} {v v' : ParameterVersion} (hv : t.versions.lookup j = some v)
      (hid : v'.parameterId = v.parameterId) (htext : v'.plaintextValue = v.plaintextValue) :
      ∃ v, t.versions.lookup j = some v ∧ v'.parameterId = v.parameterId ∧
        v'.plaintextValue = v.plaintextValue ∧ writtenAfter t written text j = written j := by
    refine ⟨v, hv, hid, htext, ?_⟩
    cases text with
    | none => rfl
    | some => exact Function.update_of_ne (lt_nextId hv).ne _ _
  have hstored {value : ParameterValue} (hvalue : ∃ v ∈ text, value = .plainText v) :
      ∃ v, value.plainTextValue = some v ∧
        writtenAfter t written text t.versions.nextId = some v := by
    obtain ⟨v, rfl, rfl⟩ := hvalue
    exact ⟨v, rfl, Function.update_self ..⟩
  cases hc with
  | same hsame =>
    exact ⟨(congrArg Table.nextId hsame.1).ge, hsame.1 ▸ hparam,
      fun j v hv => .inl (hold (hsame.2.1 ▸ hv) rfl rfl)⟩
  | create hvalue =>
    exact ⟨Nat.le_succ _, forall_insert hparam (.inr ⟨rfl, rfl⟩),
      forall_insert (fun _ _ hv => .inl (hold hv rfl rfl))
        (.inr ⟨Nat.lt_succ_self _, fun _ _ _ => hstored hvalue⟩)⟩
  | replace hvalue hp =>
    have hlt := lt_nextId hp
    exact ⟨le_rfl, forall_modify hparam fun i p hp _ => .inl ⟨p, hp, rfl⟩,
      forall_insert (fun _ _ hv => .inl (hold hv rfl rfl))
        (.inr ⟨hlt, fun _ _ _ => hstored hvalue⟩)⟩
  | reserveFirst =>
    refine ⟨Nat.le_succ _, forall_insert hparam (.inr ⟨rfl, rfl⟩),
      forall_insert (fun _ _ hv => .inl (hold hv rfl rfl))
        (.inr ⟨Nat.lt_succ_self _, fun p' hp' hkind => ?_⟩)⟩
    -- the new parameter is a secret
    cases hp'.symm.trans lookup_insert_self
    cases hkind
  | reserveNext _ hp hsecret =>
    refine ⟨le_rfl, hparam, forall_insert (fun _ _ hv => .inl (hold hv rfl rfl))
      (.inr ⟨lt_nextId hp, fun p' hp' hkind => ?_⟩)⟩
    cases hp'.symm.trans hp
    exact nomatch hsecret.symm.trans hkind
  | complete =>
    exact ⟨le_rfl, forall_modify hparam fun i p hp _ => .inl ⟨p, hp, rfl⟩,
      forall_modify (fun _ _ hv => .inl (hold hv rfl rfl))
        fun _ _ hv _ => .inl (hold hv rfl rfl)⟩
  | abandon =>
    exact ⟨le_rfl, fun i p hp => hparam i p (lookup_delete_eq_some.mp hp).1,
      fun j v hv => .inl (hold (lookup_delete_eq_some.mp hv).1 rfl rfl)⟩
  | archive =>
    exact ⟨le_rfl, forall_modify hparam fun i p hp _ => .inl ⟨p, hp, rfl⟩,
      fun j v hv => .inl (hold hv rfl rfl)⟩

theorem Sound.changed (h : Sound w) {t : Tables} (hc : Change (textRules none) w.db.toTables t) :
    Sound (w.put t w.written) :=
  h.put (extends_of_change hc)

theorem Sound.transactTables (h : Sound w) {x : Except Err Tables}
    (hx : ∀ t, x = .ok t → Change (textRules none) w.db.toTables t) :
    Sound (w.transactTables x) := by
  cases x with
  | error => exact h
  | ok t => exact h.changed (hx t rfl)

theorem Sound.write (h : Sound w) {value : String} {x : Except Err Tables}
    (hx : ∀ t, x = .ok t → Change (textRules (some value)) w.db.toTables t) :
    Sound (w.write value x) := by
  cases x with
  | error => exact h
  | ok t => exact h.put (extends_of_change (hx t rfl))

/-- **A purge keeps the invariant if no live deployment binds the parameter.** -/
theorem Sound.markParameterPurged (h : Sound w) {i : ℕ} (hu : Unused w i) :
    Sound (w.transact (markParameterPurged w.store.now w.db i)) := by
  cases hx : Store.markParameterPurged w.store.now w.db i with
  | error => exact h
  | ok =>
    rcases markParameterPurged_eq_ok hx with rfl | ⟨⟨_, hp, ha, hn⟩, rfl⟩
    · exact h
    refine ⟨forall_modify h.owned fun j v hv _ => h.owned j v hv,
      fun k q' j v' hq' hkind hkept hv' hid => ?_,
      fun j d hd hlive k q' hq' hkind hbinds => ?_⟩
    · obtain ⟨_, hq, ⟨-, rfl⟩ | ⟨hnot, rfl⟩⟩ := lookup_modify_eq_some.mp hq'
      · exact nomatch hkept
      have hk : k ≠ i := by
        rintro rfl
        cases Option.mem_unique hp hq
        exact hnot ⟨rfl, ha, hn⟩
      obtain ⟨_, hv, ⟨hvi, rfl⟩ | ⟨-, rfl⟩⟩ := lookup_modify_eq_some.mp hv'
      · exact absurd (hid.symm.trans hvi) hk
      · exact h.stored k q' j v' hq hkind hkept hv hid
    · obtain ⟨q, hq, ⟨⟨rfl, -, -⟩, rfl⟩ | ⟨-, rfl⟩⟩ := lookup_modify_eq_some.mp hq'
      · exact absurd hbinds (hu q hq hkind j d hd hlive)
      · exact h.live j d hd hlive k q' hq hkind hbinds

end Changes

/-! ### Runs -/

section Runs

variable {policy : PublicationPolicy} {w : ParameterState}

/-- **A step of the store keeps the invariant**, if it deploys only what is kept. -/
theorem Sound.store (h : Sound w) {a : Action}
    (hc : ∀ request, a = .createDeployment request → RevisionKept w request) :
    Sound { w with store := Store.step policy w.store (a.keepParameters w.db) } := by
  obtain ⟨hpar, hver, -⟩ := step_tables policy w.store a
  refine ⟨fun j v hv => ?_, fun i p j v hp hkind hkept hv hid => ?_,
    fun j d' hd' hlive i p hp hkind hbinds => ?_⟩
  · dsimp only [ParameterState.db] at hv ⊢
    rw [hver] at hv
    rw [hpar]
    exact h.owned j v hv
  · dsimp only [ParameterState.db] at hp hv ⊢
    rw [hpar] at hp
    rw [hver] at hv
    exact h.stored i p j v hp hkind hkept hv hid
  · dsimp only [ParameterState.db] at hp hd' hlive
    rw [hpar] at hp
    cases hd : w.db.deployments.lookup j with
    | some d =>
      obtain ⟨hcore, -⟩ := of_found (step_deployment policy (a.keepParameters w.db) hd) hd'
      have hbinds' : Binds d.core p := hcore ▸ hbinds
      exact h.live j d hd (live_of_step policy _ hlive (lt_nextId hd).ne) i p hp hkind hbinds'
    | none =>
      obtain ⟨hnew, -⟩ := newDeployment_of_step policy _ hd hd'
      obtain ⟨hpw, b, hb, hpb⟩ := hbinds
      generalize ha : a.keepParameters w.db = a' at hnew
      cases hnew with
      | deploy request _ _ _ _ _ _ _ _ _ _ _ _ hadopted hr =>
        replace hb := parameters_of_reserve hr ▸ hb
        have ha : a = .createDeployment request := by cases a <;> first | exact ha | cases ha
        exact hc request ha _ hadopted b hb i p hp hpw hpb hkind

/-- **A careful step keeps the invariant.** -/
theorem Sound.step (h : Sound w) (a : ParameterAction) (hc : a.Careful w) :
    Sound (w.step policy a) := by
  cases a with
  | store =>
    refine h.store fun request hr => hc.1 request ?_
    rw [hr]
    rfl
  | createParameter =>
    exact h.write fun _ ht => createParameter_change ht ⟨_, rfl, rfl⟩
  | replaceParameter =>
    exact h.write fun _ ht => replaceParameter_change ht fun _ _ _ _ _ => ⟨_, rfl, rfl⟩
  | beginCreateSecret =>
    refine h.transactTables fun t ht => ?_
    obtain ⟨⟨_, _, _⟩, hr, rfl⟩ := map_eq_ok.mp ht
    exact beginCreateSecretParameter_change hr trivial
  | beginReplaceSecret =>
    refine h.transactTables fun t ht => ?_
    obtain ⟨⟨_, _, _⟩, hr, rfl⟩ := map_eq_ok.mp ht
    exact beginReplaceSecretParameter_change hr fun _ _ _ _ _ => trivial
  | completeSecret =>
    refine h.transactTables fun t ht => ?_
    obtain ⟨⟨_, _⟩, hr, rfl⟩ := map_eq_ok.mp ht
    exact completeSecretMutation_change hr trivial
  | abandonSecret mutation =>
    dsimp only [ParameterState.step]
    cases hx : abandonSecretMutation w.db mutation with
    | error => exact h
    | ok =>
      obtain ⟨_, ht, rfl⟩ := abandonSecretMutation_change hx
      exact h.changed ht
  | archiveParameter workspaceId publicId version retention =>
    dsimp only [ParameterState.step]
    cases hx : archiveParameter w.store.now w.db workspaceId publicId version retention with
    | error => exact h
    | ok =>
      obtain ⟨_, ht, rfl⟩ := archiveParameter_change hx
      exact h.changed ht
  | listParameterPurgeCandidates => exact ⟨h.owned, h.stored, h.live⟩
  | markParameterPurged i =>
    dsimp only [ParameterState.step]
    split
    · exact h.markParameterPurged (hc.2 i rfl)
    · exact h

/-! ### Commands -/

/-- **What a binding of a live deployment is resolved to.** -/
theorem Sound.resolved (h : Sound w) {j : ℕ} {d : Deployment}
    (hd : w.db.deployments.lookup j = some d) (hlive : Live w.db j) {b : ParameterBinding}
    (hb : b ∈ d.configuration.parameters) {r : ResolvedParameter}
    (hr : resolveParameterBinding w.db.toTables d.workspaceId b = .ok r) :
    plainVariable r = w.writtenVariable d.workspaceId b := by
  simp only [resolveParameterBinding, ok_iff] at hr
  obtain ⟨⟨i, p⟩, hp, ⟨k, v⟩, hv, rfl⟩ := hr
  simp only [plainVariable, ParameterState.writtenVariable, hp, Option.bind_eq_bind,
    Option.bind_some]
  split
  · next hkind =>
    obtain ⟨hworkspace, hpublic⟩ := pos_of_first hp
    have hlookup := lookup_of_first hp
    have hkept := h.live j d hd hlive i p hlookup hkind ⟨hworkspace, b, hb, hpublic⟩
    obtain ⟨_, htext, hwritten⟩ :=
      h.stored i p k v hlookup hkind hkept (lookup_of_first hv) (pos_of_first hv).1
    simp [hv, htext, hwritten]
  · rfl

theorem Sound.faithful (h : Sound w) (policy)
    (secrets : String → ℕ → Except Err String) : w.Faithful policy secrets := by
  intro i o d payload intent ho hactive hd hpayload hintent
  obtain ⟨j, hj, hdj⟩ := Option.bind_eq_some_iff.mp hd
  have hlive : Live w.db j := .inl (any_iff.mpr ⟨i, o, ho, hj, hactive⟩)
  obtain ⟨_, d', -, hd', hx⟩ := commandPayload_deployment hpayload hintent
  cases hd'.symm.trans hd
  simp only [deploymentIntent, ok_iff] at hx
  obtain ⟨_, -, _, -, _, hresolved, _, hadded, rfl⟩ := hx
  obtain ⟨_, -, rfl, -⟩ := variables_of_addParameter hadded
  dsimp only
  have hvars := filterMap_of_mapM_eq_ok hresolved fun b hb r hr => h.resolved hdj hlive hb hr
  rw [hvars]
  rfl

/-- **A deployment gets the values that its parameters were written with.** In every run that
deploys no revision with a purged parameter, and purges no parameter that a live deployment binds,
every command that is prepared for an active operation has the texts that the `PlainText` bindings
of its deployment were written with. -/
theorem faithful_of_careful (policy : PublicationPolicy)
    (secrets : String → ℕ → Except Err String) (w₀ : ParameterState) (h₀ : w₀.Initial)
    (acts : List ParameterAction)
    (hg : Guarded (ParameterState.step policy) (fun w a => a.Careful w) w₀ acts) :
    (run (ParameterState.step policy) w₀ acts).Faithful policy secrets := by
  have h : Sound (run (ParameterState.step policy) w₀ acts) :=
    guarded_run_induction h₀.sound (fun _ a h hc => h.step a hc) hg
  exact h.faithful policy secrets

end Runs

/-! ### Two runs -/

/-- The small store, without parameters. -/
def smallParameters : ParameterState := ⟨smallStore, [], fun _ => none⟩

theorem smallParameters_initial : smallParameters.Initial := ⟨smallStore_initial, rfl, rfl⟩

/-- A request for an environment with the given bindings. -/
def boundEnvironment (bindings : List ParameterBinding) : NewAppEnvironment :=
  { newEnvironment "env-one" [] with
    configuration := { smallConfig [] with parameters := bindings } }

/-- The first version of the parameter of the runs, bound to a variable. -/
def greetingBinding : ParameterBinding := ⟨"GREETING", "par-aaaaaaaaaaaaaaaaaaaa", 1⟩

/-- A parameter is created, and then the text is replaced by another one. -/
def greetingActions : List ParameterAction :=
  [.createParameter 1 1 "par-aaaaaaaaaaaaaaaaaaaa" "/greeting" "" "hello",
    .replaceParameter 1 1 "par-aaaaaaaaaaaaaaaaaaaa" "/greeting" "" 1 "good evening"]

/-- An environment binds the first version, and is deployed. -/
def greetingRun : List ParameterAction :=
  greetingActions ++
    [.store (.createAppEnvironment (boundEnvironment [greetingBinding])),
      .store (.createDeployment (firstDeployment "env-one" 1)),
      .store (.claimNext "agent:cls-one" "cls-one" 60)]

/-- No secret can be read. -/
def noSecrets : String → ℕ → Except Err String := fun _ _ => .error .notFound

theorem faithful_greetingRun :
    (smallParameters.Initial ∧ Guarded (ParameterState.step smallPolicy)
      (fun w a => a.Careful w) smallParameters greetingRun) ∧
    (run (ParameterState.step smallPolicy) smallParameters greetingRun).Faithful
      smallPolicy noSecrets :=
  ⟨⟨smallParameters_initial, by decide +kernel⟩,
    faithful_of_careful smallPolicy noSecrets smallParameters smallParameters_initial greetingRun
      (by decide +kernel)⟩

/-- The environment drops the binding, the parameter is archived and purged, and then the first
configuration is deployed again. -/
def revisionRun : List ParameterAction :=
  greetingActions ++
    [.store (.createAppEnvironment (boundEnvironment [greetingBinding])),
      .store (.updateAppEnvironment 1 "env-one" "main" (smallConfig []) 1),
      .archiveParameter 1 "par-aaaaaaaaaaaaaaaaaaaa" 2 0,
      .listParameterPurgeCandidates 10,
      .markParameterPurged 1,
      .store (.createDeployment (firstDeployment "env-one" 2)),
      .store (.claimNext "agent:cls-one" "cls-one" 60)]

/-- What the first operation of a state would tell the Agent. -/
def ParameterState.firstVariables (w : ParameterState) : Option (List Variable) := do
  let o ← w.db.operations.lookup 1
  let payload ← (commandPayload smallPolicy noSecrets w.db o).toOption
  let intent ← payload.deployment
  some intent.runtimeVariables

/-- **A purged value is deployed as the empty text**: the command is prepared, and its variable is
empty. -/
theorem not_faithful_revisionRun :
    (run (ParameterState.step smallPolicy) smallParameters revisionRun).firstVariables =
      some [⟨"GREETING", ""⟩] ∧
    ¬ (run (ParameterState.step smallPolicy) smallParameters revisionRun).Faithful
      smallPolicy noSecrets := by
  have hcommand : ∃ o ∈ (run (ParameterState.step smallPolicy) smallParameters
      revisionRun).db.operations.lookup 1, o.Active ∧
      ∃ d ∈ o.deploymentId.bind (run (ParameterState.step smallPolicy) smallParameters
        revisionRun).db.deployments.lookup,
      ∃ payload ∈ (commandPayload smallPolicy noSecrets (run
        (ParameterState.step smallPolicy) smallParameters revisionRun).db o).toOption,
      ∃ intent ∈ payload.deployment, intent.runtimeVariables ≠
        d.configuration.runtimeVariables ++ (run (ParameterState.step smallPolicy)
          smallParameters revisionRun).writtenVariables d := by
    decide +kernel
  refine ⟨by decide +kernel, fun h => ?_⟩
  obtain ⟨o, ho, hactive, d, hd, payload, hpayload, intent, hintent, hne⟩ := hcommand
  exact hne (h 1 o d payload intent ho hactive hd (toOption_eq_some.mp hpayload) hintent)

end Molejo.Store
