import Molejo.Runtime.Configuration
import Molejo.Store.Secrets
import Molejo.Store.Versions

/-!
# A configuration has one meaning

A revision of a configuration is stored once. What it means is decided later, whenever a command for
it is prepared: then the versions that it binds are looked up, and the values of secrets are read.
The Agent puts the variables into objects that cannot be changed, under a name that has only the
version of the configuration in it. So all commands for one version had better carry the same
variables (`FixedValues`).

The load-bearing piece is that a bound version is ready. A ready version is never changed
(`Parameters.Advances`), its text is in it, and its secret is at a version of the key–value store,
which only purges take away. A pending version has none of this: when the mutation is abandoned the
row is deleted, and the revision is left with a binding to nothing.

Storing a configuration does not look at the state of the version. With configurations that bind
ready versions the meaning is fixed (`fixedValues_of_bindsReady`); without that condition it is not
(`not_fixedValues_pendingRun`).
-/

namespace Molejo.Runtime

open Transaction Parameters Store Table Transition

variable {intent : DeploymentIntent} {t t' : Tables} {workspaceId e : ℕ} {b : ParameterBinding}

/-! ### The objects of one environment -/

/-- What the Agent does with the objects of an environment. -/
inductive ConfigCall
  | materialize (intent : DeploymentIntent)
  | collect (keep : List String)

/-- Materialize an intent. -/
def materialize (owner : String) (store : ConfigStore) (intent : DeploymentIntent) :
    Except RuntimeErr ConfigStore :=
  (materializeConfiguration store owner intent.configurationVersion intent.runtimeVariables
    intent.secretVariables).map Prod.fst

/-- One call; one that fails leaves what it found. -/
def configStep (owner : String) (store : ConfigStore) : ConfigCall → ConfigStore
  | .materialize intent => commit store (materialize owner store intent)
  | .collect keep => garbageCollectConfiguration store owner keep

/-- The call does not meet an object that it did not want. -/
def ConfigCall.Succeeds (owner : String) (store : ConfigStore) : ConfigCall → Prop
  | .materialize intent => (Runtime.materialize owner store intent).isOk = true
  | .collect _ => True

/-- No object has a name of the environment. -/
structure Unclaimed (owner : String) (store : ConfigStore) : Prop where
  configMaps : ∀ o ∈ store.configMaps, ∀ v, o.name ≠ configMapName owner v
  secrets : ∀ o ∈ store.secrets, ∀ v, o.name ≠ configMapName owner v ++ "-secret"

/-- The objects of the environment have the variables that are meant by their version. -/
structure Materialized (owner : String) (plain secret : ℕ → List Variable) (store : ConfigStore) :
    Prop where
  configMaps : ∀ o ∈ store.configMaps, ∀ v, o.name = configMapName owner v →
    o = ⟨configMapName owner v, owner, v, true, plain v⟩
  secrets : ∀ o ∈ store.secrets, ∀ v, o.name = configMapName owner v ++ "-secret" →
    o = ⟨configMapName owner v ++ "-secret", owner, v, true, secret v⟩

section Materializing

variable {owner : String} {plain secret : ℕ → List Variable} {store : ConfigStore}

/-- The intent has the variables that are meant by its version. -/
def Means (plain secret : ℕ → List Variable) (intent : DeploymentIntent) : Prop :=
  intent.runtimeVariables = plain intent.configurationVersion ∧
    intent.secretVariables = secret intent.configurationVersion

theorem Materialized.materialize (h : Materialized owner plain secret store)
    (hintent : Means plain secret intent) :
    ∃ store', materialize owner store intent = .ok store' ∧
      Materialized owner plain secret store' := by
  obtain ⟨hplain, hsecret⟩ := hintent
  generalize hversion : intent.configurationVersion = v at hplain hsecret
  obtain ⟨store', hok, -, -, hmaps, -, hsecrets⟩ := exists_materializeConfiguration
    (Fits.of_eq rfl fun o ho => h.configMaps o ho v)
    fun _ => .of_eq rfl fun o ho => h.secrets o ho v
  refine ⟨store', ?_, fun o ho n hn => ?_, fun o ho n hn => ?_⟩
  · rw [Runtime.materialize, hversion, hplain, hsecret, hok]
    rfl
  · rcases hmaps o ho with ho | rfl
    · exact h.configMaps o ho n hn
    · obtain rfl := configMapName_injective hn
      rfl
  · rcases hsecrets o ho with ho | rfl
    · exact h.secrets o ho n hn
    · have hname := congrArg String.toList hn
      simp only [secretOf, String.toList_append, List.append_cancel_right_eq] at hname
      obtain rfl := configMapName_injective (String.toList_injective hname)
      rfl

theorem Materialized.collect (h : Materialized owner plain secret store) (keep : List String) :
    Materialized owner plain secret (garbageCollectConfiguration store owner keep) :=
  ⟨fun o ho => h.configMaps o (List.mem_filter.mp ho).1,
    fun o ho => h.secrets o (List.mem_filter.mp ho).1⟩

/-- **Objects of versions with one meaning never conflict.** -/
theorem Materialized.succeeds (h : Materialized owner plain secret store) {calls : List ConfigCall}
    (hcalls : ∀ intent, .materialize intent ∈ calls → Means plain secret intent) :
    Guarded (configStep owner) (fun store c => c.Succeeds owner store) store calls := by
  induction calls generalizing store with
  | nil => trivial
  | cons c _ ih =>
    have hrest := fun intent hintent => hcalls intent (List.mem_cons_of_mem c hintent)
    cases c with
    | materialize intent =>
      obtain ⟨store', hok, hstore⟩ := h.materialize (hcalls intent List.mem_cons_self)
      refine ⟨isOk_iff.mpr ⟨store', hok⟩, ?_⟩
      rw [configStep, hok]
      exact ih hstore hrest
    | collect keep => exact ⟨trivial, ih (h.collect keep) hrest⟩

end Materializing

/-! ### What is claimed -/

/-- The values of the key–value store, as commands read them. -/
def readSecrets (kv : VersionedMap String String) (reference : String) (version : ℕ) :
    Except Err String :=
  expect (kv.get reference version) .notFound

/-- The version that a binding names, as commands find it. -/
def namedVersion (t : Tables) (workspaceId : ℕ) (b : ParameterBinding) :
    Option (ℕ × ParameterVersion) :=
  (boundParameter t workspaceId b).bind fun p => boundVersion t p.1 b

section Claimed

variable (policy : PublicationPolicy) (timeout : Time) (w : SecretState) (acts : List SecretAction)

/-- The state after some of the steps. -/
abbrev after (n : ℕ) : SecretState :=
  run (SecretState.step policy timeout) w (acts.take n)

/-- At some moment this intent was built for an operation on the environment. -/
def BuiltFor (e : ℕ) (intent : DeploymentIntent) : Prop :=
  ∃ n k o payload, (after policy timeout w acts n).db.operations.lookup k = some o ∧
    o.appEnvironmentId = some e ∧
    commandPayload policy (readSecrets (after policy timeout w acts n).kv)
      (after policy timeout w acts n).db o = .ok payload ∧
    payload.deployment = some intent

/-- **Bindings denote fixed values.** -/
structure FixedValues : Prop where
  /-- A binding of a stored configuration names a ready version, and the same one at any later
  moment. -/
  bindings : ∀ n m k r, n ≤ m → (after policy timeout w acts n).db.revisions.lookup k = some r →
    ∃ ae, (after policy timeout w acts n).db.appEnvironments.lookup r.appEnvironmentId = some ae ∧
      ∀ b ∈ r.configuration.parameters, ∃ j v,
        namedVersion (after policy timeout w acts n).tables ae.workspaceId b = some (j, v) ∧
        v.valueState = .ready ∧
        namedVersion (after policy timeout w acts m).tables ae.workspaceId b = some (j, v)
  /-- Commands for one version of the configuration of an environment have the same variables. -/
  commands : ∀ e intent intent', BuiltFor policy timeout w acts e intent →
    BuiltFor policy timeout w acts e intent' →
    intent'.configurationVersion = intent.configurationVersion →
    intent'.runtimeVariables = intent.runtimeVariables ∧
      intent'.secretVariables = intent.secretVariables
  /-- The Agent does not meet an object with other variables. -/
  agent : ∀ e owner store calls, Unclaimed owner store →
    (∀ intent, .materialize intent ∈ calls → BuiltFor policy timeout w acts e intent) →
    Guarded (configStep owner) (fun store c => c.Succeeds owner store) store calls

end Claimed

/-! ### What a step keeps -/

variable {w w' : SecretState}

/-- The binding names a ready version. -/
def NamesReady (t : Tables) (workspaceId : ℕ) (b : ParameterBinding) : Prop :=
  ∃ i j p v, BindsTo t workspaceId b i j p v ∧ v.valueState = .ready

/-- What the runs keep. -/
structure Fixed (w : SecretState) : Prop where
  history : History w.tables
  unpurged : Unpurged w.tables
  ordered : Ordered w.db
  traced : Traced w.db
  ready : ∀ k r ae, w.db.revisions.lookup k = some r →
    w.db.appEnvironments.lookup r.appEnvironmentId = some ae →
    ∀ b ∈ r.configuration.parameters, NamesReady w.tables ae.workspaceId b

/-- What a later state has of an earlier one. -/
structure Keeps (w w' : SecretState) : Prop where
  advances : Advances w.tables w'.tables
  revisions : ∀ k r, w.db.revisions.lookup k = some r → w'.db.revisions.lookup k = some r
  environments : ∀ e ae, w.db.appEnvironments.lookup e = some ae →
    ∃ ae', w'.db.appEnvironments.lookup e = some ae' ∧ ae'.workspaceId = ae.workspaceId
  kv : ∀ reference n value, w.kv.get reference n = some value →
    w'.kv.get reference n = some value

theorem Keeps.refl (w : SecretState) : Keeps w w :=
  ⟨.refl _, fun _ _ h => h, fun _ ae h => ⟨ae, h, rfl⟩, fun _ _ _ h => h⟩

theorem Keeps.trans {w₁ w₂ w₃ : SecretState} (h : Keeps w₁ w₂) (h' : Keeps w₂ w₃) :
    Keeps w₁ w₃ where
  advances := h.advances.trans h'.advances
  revisions k r hr := h'.revisions k r (h.revisions k r hr)
  environments e ae hae := by
    obtain ⟨ae₂, hae₂, hws⟩ := h.environments e ae hae
    obtain ⟨ae₃, hae₃, hws'⟩ := h'.environments e ae₂ hae₂
    exact ⟨ae₃, hae₃, hws'.trans hws⟩
  kv reference n value hv := h'.kv reference n value (h.kv reference n value hv)

/-- **A ready version that is bound stays bound.** -/
theorem bindsTo_of_advances {i j : ℕ} {p : Parameter} {v : ParameterVersion} (h : History t)
    (hu : Unpurged t) (hadvances : Advances t t') (hb : BindsTo t workspaceId b i j p v)
    (hready : v.valueState = .ready) :
    ∃ q, BindsTo t' workspaceId b i j q v ∧ q.kind = p.kind := by
  -- a parameter with a ready version is not being created
  have hp : p.valueState = .ready := by
    obtain ⟨_, hq, _, hplaced⟩ := h.owned j v hb.row
    rw [hb.parameterId] at hq
    cases hq.symm.trans hb.parameter
    cases hstate : p.valueState with
    | ready => rfl
    | purged => exact absurd hstate (hu.parameters i p hb.parameter)
    | pending =>
      rcases hplaced with ⟨-, hle⟩ | ⟨hpending, -⟩
      · rw [settled_of_pending hstate] at hle
        omega
      · exact nomatch hready.symm.trans hpending
  obtain ⟨q, hq, -, hid, -⟩ := hadvances.resource i p hb.parameter hp
  obtain ⟨hpublic, hws, hkind⟩ : q.publicId = p.publicId ∧ q.workspaceId = p.workspaceId ∧
      q.kind = p.kind := by
    simpa only [identity, Prod.mk.injEq] using hid
  exact ⟨q, ⟨hq, hws.trans hb.workspace, hpublic.trans hb.publicId,
    hadvances.ready j v hb.row hready, hb.parameterId, hb.version⟩, hkind⟩

theorem NamesReady.advances (hb : NamesReady t workspaceId b) (h : History t) (hu : Unpurged t)
    (ha : Advances t t') :
    NamesReady t' workspaceId b := by
  obtain ⟨i, j, _, v, hbinds, hready⟩ := hb
  obtain ⟨q, hq, -⟩ := bindsTo_of_advances h hu ha hbinds hready
  exact ⟨i, j, q, v, hq, hready⟩

/-- What a binding names is found by the queries of a command. -/
theorem bound_of_bindsTo {i j : ℕ} {p : Parameter} {v : ParameterVersion} (h : History t)
    (hb : BindsTo t workspaceId b i j p v) :
    boundParameter t workspaceId b = some (i, p) ∧ boundVersion t i b = some (j, v) := by
  refine ⟨first_eq_some_of_unique hb.parameter ⟨hb.workspace, hb.publicId⟩ ?_,
    first_eq_some_of_unique hb.row ⟨hb.parameterId, hb.version⟩ ?_⟩
  · rintro k q hq ⟨-, hid⟩
    exact h.distinct k q i p hq hb.parameter (hid.trans hb.publicId.symm)
  · rintro k x hx ⟨hxi, hxv⟩
    exact h.unique k x j v hx hb.row (hxi.trans hb.parameterId.symm) (hxv.trans hb.version.symm)

theorem Keeps.step (policy) (timeout : Time) (h : Fixed w) (a : SecretAction)
    (hpurges : a.purges = false) : Keeps w (w.step policy timeout a) := by
  have hadvances := Advances.change h.history
    (w.change_step policy timeout h.history a (a.obeys_none w) hpurges)
  have hkv : ∀ reference n value, w.kv.get reference n = some value →
      (w.step policy timeout a).kv.get reference n = some value :=
    fun _ _ _ hv => w.get_step policy timeout a hpurges hv
  rcases w.changed_step policy timeout h.history a (a.obeys_none w) hpurges
    with ⟨b, rfl⟩ | ⟨_, -, hs⟩
  · refine ⟨hadvances, fun k r hr => step_revision policy _ hr, fun e ae hae => ?_, hkv⟩
    obtain ⟨ae', hae', hstep⟩ := step_environment policy (b.keepParameters w.db) hae
    exact ⟨ae', hae', hstep.workspaceId⟩
  · refine ⟨hadvances, fun k r hr => ?_, fun e ae hae => ?_, hkv⟩
    · rw [SecretState.db, hs]
      exact hr
    · rw [SecretState.db, hs]
      exact ⟨ae, hae, rfl⟩

/-- **Storing bindings of ready versions keeps them ready.** -/
theorem Fixed.step (policy) (timeout : Time) (h : Fixed w) (a : SecretAction)
    (hpurges : a.purges = false) (hready : a.BindsReady w) :
    Fixed (w.step policy timeout a) := by
  have hchange := w.change_step policy timeout h.history a (a.obeys_none w) hpurges
  have hadvances := Advances.change h.history hchange
  have hkeeps := Keeps.step policy timeout h a hpurges
  have hold : ∀ k r ae', w.db.revisions.lookup k = some r →
      (w.step policy timeout a).db.appEnvironments.lookup r.appEnvironmentId = some ae' →
      ∀ b ∈ r.configuration.parameters,
        NamesReady (w.step policy timeout a).tables ae'.workspaceId b := by
    intro k r ae' hr hae' b hb
    obtain ⟨ae, hae⟩ := h.traced.environment k r hr
    obtain ⟨_, hq, hws⟩ := hkeeps.environments _ ae hae
    cases hq.symm.trans hae'
    rw [hws]
    exact (h.ready k r ae hr hae b hb).advances h.history h.unpurged hadvances
  rcases w.changed_step policy timeout h.history a (a.obeys_none w) hpurges
    with ⟨b, rfl⟩ | ⟨t, -, hs⟩
  · refine ⟨h.history.change hchange, h.unpurged.change hchange, h.ordered.step policy _,
      h.traced.step h.ordered policy _, fun k r ae' hr hae' => ?_⟩
    cases step_bindings policy w.store (b.keepParameters w.db) with
    | kept hrev => exact hold k r ae' (hrev ▸ hr) hae'
    | stored _ i _ _ _ ha _ hrev hl hws hbinds =>
      change (Store.step policy w.store (b.keepParameters w.db)).db.revisions.lookup k = _ at hr
      rw [hrev] at hr
      rcases lookup_insert_eq_some.mp hr with ⟨-, rfl⟩ | hr
      · intro c hc
        cases hl.symm.trans hae'
        rw [Action.bindings?_keepParameters] at ha
        obtain ⟨i, j, p, x, hbinds, hlive⟩ := hbinds c hc
        have hx := (hready _ ha c hc).of_bindsTo hbinds hlive
        rw [hws]
        exact NamesReady.advances ⟨i, j, p, x, hbinds, hx⟩ h.history h.unpurged hadvances
      · exact hold k r ae' hr hae'
  · refine ⟨h.history.change hchange, h.unpurged.change hchange, ?_, ?_, fun k r ae' hr hae' => ?_⟩
    · rw [SecretState.db, hs]
      exact h.ordered.putTables t
    · rw [SecretState.db, hs]
      exact h.traced.putTables t
    · refine hold k r ae' ?_ hae'
      rw [SecretState.db, hs] at hr
      exact hr

/-! ### Two commands -/

/-- A binding of a ready version is resolved as before. -/
theorem resolveParameterBinding_of_namesReady (h : History t) (h' : History t') (hu : Unpurged t)
    (ha : Advances t t') (hb : NamesReady t workspaceId b) :
    resolveParameterBinding t' workspaceId b = resolveParameterBinding t workspaceId b := by
  obtain ⟨_, _, _, _, hbinds, hready⟩ := hb
  obtain ⟨_, hq, hkind⟩ := bindsTo_of_advances h hu ha hbinds hready
  obtain ⟨hp, hv⟩ := bound_of_bindsTo h hbinds
  obtain ⟨hp', hv'⟩ := bound_of_bindsTo h' hq
  simp only [resolveParameterBinding, hp, hp', hv, hv', expect, ok_bind, hkind]

/-- What a command for a deployment is made from. -/
theorem exists_revision_of_intent {policy : PublicationPolicy}
    {secrets : String → ℕ → Except Err String} {db : Db} {k : ℕ} {o : Operation} {payload : Payload}
    (h : Traced db) (ho : db.operations.lookup k = some o) (he : o.appEnvironmentId = some e)
    (hp : commandPayload policy secrets db o = .ok payload)
    (hi : payload.deployment = some intent) :
    ∃ l r ae rs, db.revisions.lookup l = some r ∧ r.appEnvironmentId = e ∧
      r.version = intent.configurationVersion ∧ db.appEnvironments.lookup e = some ae ∧
      resolveParameterBindings db.toTables ae.workspaceId r.configuration.parameters = .ok rs ∧
      rs.foldlM (addParameter secrets) (r.configuration.runtimeVariables, []) =
        .ok (intent.runtimeVariables, intent.secretVariables) := by
  obtain ⟨_, d, -, hd, hintent⟩ := commandPayload_deployment hp hi
  obtain ⟨j, hj, hd⟩ := Option.bind_eq_some_iff.mp hd
  obtain ⟨_, hd', hid⟩ := h.operation k o j ho hj
  cases hd'.symm.trans hd
  obtain ⟨l, r, hr, hfrom⟩ := h.deployment j d hd
  obtain ⟨ae, hae, hws⟩ := hfrom.workspace
  cases he.symm.trans hid
  simp only [deploymentIntent, ok_iff] at hintent
  obtain ⟨_, -, _, -, rs, hrs, _, hadded, rfl⟩ := hintent
  rw [hfrom.parameters, ← hws] at hrs
  refine ⟨l, r, ae, rs, hr, hfrom.environment, hfrom.version, hae, hrs, ?_⟩
  rw [← hfrom.runtimeVariables]
  exact hadded

/-- **Commands for one version have the same variables.** -/
theorem variables_eq {policy : PublicationPolicy} {k k' : ℕ} {o o' : Operation}
    {payload payload' : Payload} {intent' : DeploymentIntent} (h : Fixed w) (h' : Fixed w')
    (hkeeps : Keeps w w') (ho : w.db.operations.lookup k = some o)
    (he : o.appEnvironmentId = some e)
    (hp : commandPayload policy (readSecrets w.kv) w.db o = .ok payload)
    (hi : payload.deployment = some intent) (ho' : w'.db.operations.lookup k' = some o')
    (he' : o'.appEnvironmentId = some e)
    (hp' : commandPayload policy (readSecrets w'.kv) w'.db o' = .ok payload')
    (hi' : payload'.deployment = some intent')
    (hversion : intent'.configurationVersion = intent.configurationVersion) :
    intent'.runtimeVariables = intent.runtimeVariables ∧
      intent'.secretVariables = intent.secretVariables := by
  obtain ⟨l, r, ae, rs, hr, hre, hrv, hae, hrs, hadded⟩ :=
    exists_revision_of_intent h.traced ho he hp hi
  obtain ⟨l', r', ae', rs', hr', hre', hrv', hae', hrs', hadded'⟩ :=
    exists_revision_of_intent h'.traced ho' he' hp' hi'
  -- both are of one revision, in one workspace
  have hr₁ := hkeeps.revisions l r hr
  obtain rfl := h'.traced.revision l r l' r' hr₁ hr' (hre.trans hre'.symm)
    (hrv.trans (hversion.symm.trans hrv'.symm))
  cases hr₁.symm.trans hr'
  obtain ⟨_, hq, hws⟩ := hkeeps.environments e ae hae
  cases hq.symm.trans hae'
  -- whose bindings are resolved to the same
  have hresolve : resolveParameterBindings w'.tables ae'.workspaceId r.configuration.parameters =
      resolveParameterBindings w.tables ae.workspaceId r.configuration.parameters := by
    rw [hws]
    refine mapM_congr_left fun b hb => ?_
    exact resolveParameterBinding_of_namesReady h.history h'.history h.unpurged hkeeps.advances
      (h.ready l r ae hr (hre ▸ hae) b hb)
  obtain rfl : rs' = rs := Except.ok.inj (hrs'.symm.trans (hresolve.trans hrs))
  obtain ⟨vs, hvs, hsame, -⟩ := variables_of_addParameter hadded
  obtain ⟨vs', hvs', hsame', -⟩ := variables_of_addParameter hadded'
  -- and whose secrets are kept
  have hsecrets : ∀ x ∈ rs'.filter (·.kind = .secret),
      secretVariable (readSecrets w'.kv) x = secretVariable (readSecrets w.kv) x := by
    intro x hx
    obtain ⟨_, -, hy⟩ := mem_mapM_of_mem hvs hx
    rw [hy]
    simp only [secretVariable, readSecrets, ok_iff] at hy ⊢
    obtain ⟨value, hvalue, rfl⟩ := hy
    exact ⟨value, hkeeps.kv _ _ value hvalue, rfl⟩
  cases hvs'.symm.trans ((mapM_congr_left hsecrets).trans hvs)
  exact Prod.mk.inj (hsame'.trans hsame.symm)

/-! ### Whole runs -/

/-- The condition: nothing is purged, and what is bound is ready. -/
def BindsReadyOnly (w : SecretState) (a : SecretAction) : Prop :=
  a.purges = false ∧ a.BindsReady w
deriving Decidable

theorem fixed_of_initial (h : w.Initial) : Fixed w := by
  have hnone : NoParameters w.tables := ⟨h.parameters, h.versions, h.reservations⟩
  refine ⟨hnone.history, hnone.unpurged, h.store.ordered, h.store.traced, fun k r ae hr => ?_⟩
  rw [h.store.revisions] at hr
  cases hr

section Runs

variable {policy : PublicationPolicy} {timeout : Time} {acts : List SecretAction}

/-- What runs under the condition keep, and what they keep of the state they start from. -/
theorem fixed_run (h : Fixed w)
    (hg : Guarded (SecretState.step policy timeout) BindsReadyOnly w acts) :
    Fixed (run (SecretState.step policy timeout) w acts) ∧
      Keeps w (run (SecretState.step policy timeout) w acts) :=
  guarded_run_induction (I := fun u => Fixed u ∧ Keeps w u) ⟨h, .refl w⟩
    (fun _ a hu ha => ⟨hu.1.step policy timeout a ha.1 ha.2,
      hu.2.trans (.step policy timeout hu.1 a ha.1)⟩) hg

/-- The same for any two moments of a run. -/
theorem fixed_after (h : w.Initial)
    (hg : Guarded (SecretState.step policy timeout) BindsReadyOnly w acts) {n m : ℕ}
    (hle : n ≤ m) :
    Fixed (after policy timeout w acts n) ∧ Fixed (after policy timeout w acts m) ∧
      Keeps (after policy timeout w acts n) (after policy timeout w acts m) := by
  have hsplit : acts.take m = acts.take n ++ (acts.take m).drop n := by
    conv_lhs => rw [← List.take_append_drop n (acts.take m), List.take_take, Nat.min_eq_left hle]
  have hm : Guarded (SecretState.step policy timeout) BindsReadyOnly w (acts.take m) :=
    (guarded_append.mp (by rwa [List.take_append_drop])).1
  rw [hsplit, guarded_append] at hm
  have hn := (fixed_run (fixed_of_initial h) hm.1).1
  have hrest := fixed_run hn hm.2
  rw [← run_append, ← hsplit] at hrest
  exact ⟨hn, hrest⟩

/-- The variables of two commands that were built at any two moments. -/
theorem builtFor_variables (h : w.Initial)
    (hg : Guarded (SecretState.step policy timeout) BindsReadyOnly w acts)
    {intent' : DeploymentIntent} (hb : BuiltFor policy timeout w acts e intent)
    (hb' : BuiltFor policy timeout w acts e intent')
    (hversion : intent'.configurationVersion = intent.configurationVersion) :
    intent'.runtimeVariables = intent.runtimeVariables ∧
      intent'.secretVariables = intent.secretVariables := by
  obtain ⟨n, _, _, _, ho, he, hp, hi⟩ := hb
  obtain ⟨m, _, _, _, ho', he', hp', hi'⟩ := hb'
  rcases Nat.le_total n m with hle | hle
  · obtain ⟨hn, hm, hkeeps⟩ := fixed_after h hg hle
    exact variables_eq hn hm hkeeps ho he hp hi ho' he' hp' hi' hversion
  · obtain ⟨hm, hn, hkeeps⟩ := fixed_after h hg hle
    obtain ⟨hplain, hsecret⟩ := variables_eq hm hn hkeeps ho' he' hp' hi' ho he hp hi hversion.symm
    exact ⟨hplain.symm, hsecret.symm⟩

end Runs

open Classical in
/-- **Bindings of ready versions denote fixed values.** -/
theorem fixedValues_of_bindsReady (policy : PublicationPolicy) (timeout : Time) (w : SecretState)
    (hw : w.Initial) (acts : List SecretAction)
    (hg : Guarded (SecretState.step policy timeout) BindsReadyOnly w acts) :
    FixedValues policy timeout w acts where
  bindings n m k r hle hr := by
    obtain ⟨hn, hm, hkeeps⟩ := fixed_after hw hg hle
    obtain ⟨ae, hae⟩ := hn.traced.environment k r hr
    refine ⟨ae, hae, fun b hb => ?_⟩
    obtain ⟨i, j, p, v, hbinds, hready⟩ := hn.ready k r ae hr hae b hb
    obtain ⟨q, hq, -⟩ :=
      bindsTo_of_advances hn.history hn.unpurged hkeeps.advances hbinds hready
    obtain ⟨hp, hv⟩ := bound_of_bindsTo hn.history hbinds
    obtain ⟨hp', hv'⟩ := bound_of_bindsTo hm.history hq
    refine ⟨j, v, ?_, hready, ?_⟩
    · rw [namedVersion, hp, Option.bind_some, hv]
    · rw [namedVersion, hp', Option.bind_some, hv']
  commands e intent intent' hb hb' hversion := builtFor_variables hw hg hb hb' hversion
  agent e owner store calls hstore hcalls := by
    -- the meaning of a version: the variables of any command that was built for it
    let meant (v : ℕ) : List Variable × List Variable :=
      if h : ∃ intent, BuiltFor policy timeout w acts e intent ∧ intent.configurationVersion = v
      then (h.choose.runtimeVariables, h.choose.secretVariables) else ([], [])
    have hmeans : ∀ intent, BuiltFor policy timeout w acts e intent →
        Means (fun v => (meant v).1) (fun v => (meant v).2) intent := by
      intro intent hb
      have hex : ∃ x, BuiltFor policy timeout w acts e x ∧
          x.configurationVersion = intent.configurationVersion := ⟨intent, hb, rfl⟩
      have heq := builtFor_variables hw hg hex.choose_spec.1 hb hex.choose_spec.2.symm
      simp only [Means, meant, dif_pos hex]
      exact heq
    refine Materialized.succeeds
      ⟨fun o ho v hv => absurd hv (hstore.configMaps o ho v),
        fun o ho v hv => absurd hv (hstore.secrets o ho v)⟩
      fun intent hintent => hmeans intent (hcalls intent hintent)

/-! ### Two runs -/

/-- The password is created, and an environment that binds it is deployed. -/
def passwordRun : List SecretAction :=
  [.beginCreate (passwordInput "zero" "k0"), .put firstPassword "zero", .complete firstPassword,
    .store (.createAppEnvironment (boundEnvironment [passwordBinding])),
    .store (.createDeployment (firstDeployment "env-one" 1)),
    .store (.claimNext "agent:cls-one" "cls-one" 60)]

theorem fixedValues_passwordRun :
    (smallSecrets.Initial ∧ Guarded (SecretState.step smallPolicy 60) BindsReadyOnly
      smallSecrets passwordRun) ∧ FixedValues smallPolicy 60 smallSecrets passwordRun :=
  ⟨⟨smallSecrets_initial, by decide +kernel⟩,
    fixedValues_of_bindsReady smallPolicy 60 smallSecrets smallSecrets_initial passwordRun
      (by decide +kernel)⟩

/-- The environment binds the version while it is pending. Then it drops the binding, and the
mutation, which was never written, is abandoned. -/
def pendingRun : List SecretAction :=
  [.beginCreate (passwordInput "zero" "k0"),
    .store (.createAppEnvironment (boundEnvironment [passwordBinding])),
    .store (.updateAppEnvironment 1 "env-one" "main" (smallConfig []) 1),
    .store (.tick 60), .inspect firstPassword, .abandon firstPassword]

/-- The state of the version that the first binding of the first revision names. -/
def firstBinding (w : SecretState) : Option (Option ValueState) := do
  let r ← w.db.revisions.lookup 1
  let b ← r.configuration.parameters.head?
  return (namedVersion w.tables 1 b).map fun x => x.2.valueState

/-- **A pending version can be bound**: it is not ready when the configuration is stored, and after
it was abandoned the configuration, which is still there, names nothing. -/
theorem not_fixedValues_pendingRun :
    smallSecrets.Initial ∧ (∀ a ∈ pendingRun, a.purges = false) ∧
    firstBinding (after smallPolicy 60 smallSecrets pendingRun 2) = some (some .pending) ∧
    firstBinding (after smallPolicy 60 smallSecrets pendingRun 6) = some none ∧
    ¬ FixedValues smallPolicy 60 smallSecrets pendingRun := by
  have hstored : ∃ r ∈ (after smallPolicy 60 smallSecrets pendingRun 2).db.revisions.lookup 1,
      ∃ ae ∈ (after smallPolicy 60 smallSecrets pendingRun 2).db.appEnvironments.lookup
        r.appEnvironmentId, ∃ b ∈ r.configuration.parameters,
      ∃ x ∈ namedVersion (after smallPolicy 60 smallSecrets pendingRun 2).tables ae.workspaceId b,
        x.2.valueState ≠ .ready := by
    decide +kernel
  refine ⟨smallSecrets_initial, by decide, by decide +kernel, by decide +kernel, fun h => ?_⟩
  obtain ⟨r, hr, ae, hae, b, hb, x, hx, hne⟩ := hstored
  obtain ⟨ae', hae', hall⟩ := h.bindings 2 2 1 r (Nat.le_refl 2) hr
  cases hae'.symm.trans hae
  obtain ⟨j, v, hv, hready, -⟩ := hall b hb
  cases hv.symm.trans hx
  exact hne hready

end Molejo.Runtime
