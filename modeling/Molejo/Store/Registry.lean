import Mathlib.Logic.Function.Basic
import Molejo.Lib.Keyed
import Molejo.Store.Publication

/-!
# Publication claims as a registry

Hostnames are unique, so the table of claims is a partial function from hostnames to
rows, its *registry*. This file restates reserving and activating on registries.

* `Reserves` takes the endpoints of a configuration one after the other and writes
  the row of each hostname in place; `released` is what happens afterwards to the
  rows of the environment that the configuration does not want.
* `Activates` marks the rows of a configuration as current, and `settled` drops what
  is neither current nor desired.

The two refinement theorems, `reservePublicationClaims_registry` and
`activatePublicationClaims_registry`, say that the transactions on the table do
exactly this. What matters about a registry is then proved by following the list of
endpoints: a hostname that is not among them keeps its row, a row of another
environment is never written, and a row keeps its current version.
-/

namespace Molejo.Store

open Transaction Table

/-- Who has which hostname. -/
abbrev Registry := String → Option PublicationClaim

/-- The registry a table of claims holds. -/
abbrev registry (claims : Table PublicationClaim) : Registry :=
  claims.find PublicationClaim.hostname

/-- The unique index on `hostname`. -/
abbrev HostnamesUnique (claims : Table PublicationClaim) : Prop :=
  claims.KeyUnique PublicationClaim.hostname

variable {policy : PublicationPolicy} {i v : ℕ} {kind : WorkloadKind}
  {claims claims' : Table PublicationClaim} {r r' : Registry} {e : PublicEndpoint}
  {es es' : List PublicEndpoint} {hostname : String} {c : PublicationClaim}

/-! ### Ports -/

/-- The port an endpoint already has, given the row of its hostname. -/
def grantedPort (row : Option PublicationClaim) (i : ℕ) (e : PublicEndpoint) : ℤ :=
  if e.externalPort ≠ 0 then e.externalPort
  else
    ((row.filter fun c => c.appEnvironmentId = i ∧ c.endpointName = e.name ∧
      c.endpointType = .tcp).bind PublicationClaim.externalPort).getD 0

/-- The ports an endpoint may be given: none for HTTP, for TCP the one it already has. -/
def MayGet (row : Option PublicationClaim) (i : ℕ) (e : PublicEndpoint) (port : Option ℤ) : Prop :=
  match e.type with
  | .http => port = none
  | .tcp => ∃ n, port = some n ∧ (grantedPort row i e ≠ 0 → n = grantedPort row i e)

theorem allocatedPort_eq (hu : HostnamesUnique claims) :
    allocatedPort claims i e hostname = grantedPort (registry claims hostname) i e := by
  unfold allocatedPort grantedPort
  split
  · rfl
  · congr 1
    cases hf : claims.first fun _ c => c.appEnvironmentId = i ∧ c.endpointName = e.name ∧
        c.endpointType = .tcp ∧ c.hostname = hostname with
    | none =>
      have hnone : (registry claims hostname).filter (fun c => decide (c.appEnvironmentId = i ∧
          c.endpointName = e.name ∧ c.endpointType = .tcp)) = none := by
        rw [Option.filter_eq_none_iff]
        intro c hc
        obtain ⟨j, hj, hh⟩ := exists_of_find hc
        have := first_eq_none.mp hf j c hj
        simp only [decide_eq_true_eq]
        rintro ⟨h1, h2, h3⟩
        exact this ⟨h1, h2, h3, hh⟩
      rw [hnone]
      rfl
    | some =>
      obtain ⟨h1, h2, h3, rfl⟩ := pos_of_first hf
      have hrow := find_of_lookup hu (lookup_of_first hf)
      rw [registry, hrow, Option.filter_some, if_pos (by simp [h1, h2, h3])]
      rfl

theorem mayGet_of_externalPort (hu : HostnamesUnique claims) {port : Option ℤ}
    (h : externalPort policy claims i e hostname = .ok port) :
    MayGet (registry claims hostname) i e port := by
  unfold externalPort at h
  unfold MayGet
  cases ht : e.type with
  | http =>
    simp only [ht, Except.ok.injEq] at h
    exact h.symm
  | tcp =>
    simp only [ht, ok_iff] at h
    obtain ⟨-, h⟩ := h
    rw [allocatedPort_eq hu] at h
    split at h
    · rename_i hz
      simp only [ok_iff] at h
      obtain ⟨n, -, rfl⟩ := h
      exact ⟨n, rfl, fun hn => absurd hz hn⟩
    · exact ⟨_, (pure_eq_ok.mp h).symm, fun _ => rfl⟩

/-! ### Reserving -/

/-- The row a reservation leaves under its hostname: a row that was there keeps its current
version. -/
def rewritten (row : Option PublicationClaim) (new : PublicationClaim) : PublicationClaim :=
  { new with currentConfigurationVersion := row.bind PublicationClaim.currentConfigurationVersion }

/-- No other hostname has the port. -/
def PortFree (r : Registry) (hostname : String) (port : Option ℤ) : Prop :=
  ∀ other ≠ hostname, ∀ c ∈ r other, c.externalPort ≠ none → c.externalPort ≠ port

/-- Reserving the endpoints of a configuration one after the other. -/
inductive Reserves (policy : PublicationPolicy) (i v : ℕ) (kind : WorkloadKind) :
    Registry → List PublicEndpoint → Registry → List PublicEndpoint → Prop
  | nil (r : Registry) : Reserves policy i v kind r [] r []
  | cons {r r' : Registry} {e : PublicEndpoint} {es es' : List PublicEndpoint} {hostname : String}
      {port : Option ℤ} (hr : policy.resolve kind e = .ok hostname)
      (hp : MayGet (r hostname) i e port) (hv : ClaimValid (reservation i v e hostname port))
      (ho : ∀ c ∈ r hostname, c.appEnvironmentId = i) (hf : PortFree r hostname port)
      (ht : Reserves policy i v kind (Function.update r hostname
        (some (rewritten (r hostname) (reservation i v e hostname port)))) es r' es') :
      Reserves policy i v kind r (e :: es) r' (withPort e port :: es')

/-- What becomes of the environment's rows that version `v` did not reserve. -/
def released (i v : ℕ) (r : Registry) : Registry := fun hostname =>
  (r hostname).bind fun c =>
    if c.appEnvironmentId = i ∧ c.desiredConfigurationVersion ≠ some v then
      if c.currentConfigurationVersion = none then none
      else some { c with desiredConfigurationVersion := none }
    else some c

/-- An upsert writes the row of its hostname, which is free or the environment's own. -/
theorem upsertClaim_registry {new : PublicationClaim} (hu : HostnamesUnique claims)
    (hn : new.currentConfigurationVersion = none) (h : upsertClaim claims new = .ok claims') :
    HostnamesUnique claims' ∧ ClaimValid new ∧
      (∀ c ∈ registry claims new.hostname, c.appEnvironmentId = new.appEnvironmentId) ∧
      PortFree (registry claims) new.hostname new.externalPort ∧
      registry claims' = Function.update (registry claims) new.hostname
        (some (rewritten (registry claims new.hostname) new)) := by
  unfold upsertClaim at h
  have hport {k : ℕ} (hp : ¬ PortTaken claims k new)
      (hk : ∀ row, claims.lookup k = some row → row.hostname = new.hostname) :
      PortFree (registry claims) new.hostname new.externalPort := by
    intro other hne c hc hsome heq
    obtain ⟨j, hj, rfl⟩ := exists_of_find hc
    refine hp (any_iff.mpr ⟨j, c, hj, ?_, hsome, heq⟩)
    rintro rfl
    exact hne (hk c hj)
  cases hf : claims.first fun _ c => c.hostname = new.hostname with
  | none =>
    simp only [hf, ok_iff] at h
    obtain ⟨⟨hv, hp⟩, rfl⟩ := h
    have hnone : registry claims new.hostname = none := by
      rw [registry, Table.find, hf]
      rfl
    refine ⟨keyUnique_insert hu hnone, hv, ?_, hport hp ?_, ?_⟩
    · rw [hnone]
      rintro c ⟨⟩
    · intro row hrow
      rw [lookup_nextId] at hrow
      cases hrow
    · funext x
      rw [registry, find_insert hu hnone, Function.update_apply, hnone]
      simp only [rewritten, Option.bind_none, ← hn]
  | some x =>
    obtain ⟨_, row⟩ := x
    simp only [hf, ok_iff] at h
    obtain ⟨⟨hv, hp, ho⟩, rfl⟩ := h
    have hk := lookup_of_first hf
    have hh : row.hostname = new.hostname := pos_of_first hf
    have hrow : registry claims new.hostname = some row := hh ▸ find_of_lookup hu hk
    refine ⟨keyUnique_modify hu fun _ => rfl, hv, ?_, hport hp ?_, ?_⟩
    · rw [hrow]
      rintro c ⟨⟩
      exact ho
    · intro row' hrow'
      cases hk.symm.trans hrow'
      exact hh
    · funext x
      have hreg := find_modify_eq (x := x) hu
        (f := fun c : PublicationClaim => { c with
          endpointName := new.endpointName
          endpointType := new.endpointType
          externalPort := new.externalPort
          desiredConfigurationVersion := new.desiredConfigurationVersion })
        (fun _ => rfl) hk
      rw [registry, hreg, Function.update_apply, hrow, hh]
      simp only [rewritten, Option.bind_some, ← hh, ← ho]

/-- The loop of `reservePublicationClaims` on the registry. -/
theorem reserveEndpoints_registry (hu : HostnamesUnique claims)
    (h : reserveEndpoints policy i v kind claims es = .ok (claims', es')) :
    HostnamesUnique claims' ∧
      Reserves policy i v kind (registry claims) es (registry claims') es' := by
  induction es generalizing claims claims' es' with
  | nil =>
    cases h
    exact ⟨hu, .nil _⟩
  | cons _ _ ih =>
    simp only [reserveEndpoints, reserveEndpoint, ok_iff] at h
    obtain ⟨_, ⟨_, hr, _, hp, _, hc, rfl⟩, ⟨_, _⟩, ht, ⟨⟩⟩ := h
    obtain ⟨hu₁, hv, ho, hf, hreg⟩ := upsertClaim_registry hu rfl hc
    obtain ⟨hu₂, hrest⟩ := ih hu₁ ht
    rw [hreg] at hrest
    exact ⟨hu₂, .cons hr (mayGet_of_externalPort hu hp) hv ho hf hrest⟩

theorem releaseUndesired_registry (hu : HostnamesUnique claims) :
    HostnamesUnique (releaseUndesired claims i v) ∧
      registry (releaseUndesired claims i v) = released i v (registry claims) := by
  have hu' := keyUnique_delete (k := PublicationClaim.hostname)
    (p := fun _ c => c.appEnvironmentId = i ∧
      c.currentConfigurationVersion = none ∧ c.desiredConfigurationVersion ≠ some v) hu
  refine ⟨keyUnique_modify hu' fun _ => rfl, funext fun x => ?_⟩
  rw [registry, releaseUndesired, find_modify hu', find_delete hu, released, registry]
  swap
  · exact fun _ => rfl
  cases claims.find PublicationClaim.hostname x with
  | none => rfl
  | some c =>
    simp only [Option.filter_some, Option.bind_some]
    by_cases hi : c.appEnvironmentId = i <;>
      by_cases hc : c.currentConfigurationVersion = none <;>
      by_cases hd : c.desiredConfigurationVersion = some v <;> simp [hi, hc, hd]

/-- **Reserving a configuration, on the registry.** -/
theorem reservePublicationClaims_registry {configuration reserved : RuntimeConfig}
    (hu : HostnamesUnique claims)
    (h : reservePublicationClaims policy claims i v kind configuration =
      .ok (claims', reserved)) :
    HostnamesUnique claims' ∧ ∃ r, Reserves policy i v kind (registry claims)
      configuration.publicEndpoints r reserved.publicEndpoints ∧
      registry claims' = released i v r := by
  simp only [reservePublicationClaims, ok_iff] at h
  obtain ⟨⟨claims₁, _⟩, hr, ⟨⟩⟩ := h
  obtain ⟨hu₁, hres⟩ := reserveEndpoints_registry hu hr
  exact ⟨(releaseUndesired_registry hu₁).1, registry claims₁, hres,
    (releaseUndesired_registry hu₁).2⟩

/-! ### What reserving keeps -/

/-- The environment and version a hostname is served for. -/
def live (r : Registry) (hostname : String) : Option (ℕ × ℕ) :=
  (r hostname).bind fun c => c.currentConfigurationVersion.map fun version =>
    (c.appEnvironmentId, version)

/-- Reserving changes nothing about what is served. -/
theorem Reserves.live_eq (h : Reserves policy i v kind r es r' es') : live r' = live r := by
  induction h with
  | nil => rfl
  | @cons r _ _ _ _ hostname _ _ _ _ ho _ _ ih =>
    refine ih.trans (funext fun x => ?_)
    by_cases hx : x = hostname
    · subst hx
      cases hc : r x with
      | none => simp [live, hc, rewritten]
      | some c => simp [live, hc, rewritten, ← ho c hc, reservation]
    · simp [live, Function.update_of_ne hx]

theorem live_released : live (released i v r) = live r := by
  funext x
  cases hc : r x with
  | none => simp [live, released, hc]
  | some c =>
    simp only [live, released, hc, Option.bind_some]
    split
    · cases hcur : c.currentConfigurationVersion <;> simp
    · rfl

/-- A hostname that the configuration does not have keeps its row. -/
theorem Reserves.eq_of_forall_ne (h : Reserves policy i v kind r es r' es')
    (hn : ∀ e ∈ es, policy.resolve kind e ≠ .ok hostname) : r' hostname = r hostname := by
  induction h with
  | nil => rfl
  | @cons _ _ e _ _ _ _ hr _ _ _ _ _ ih =>
    rw [ih fun e he => hn e (List.mem_cons_of_mem _ he), Function.update_of_ne]
    rintro rfl
    exact hn e List.mem_cons_self hr

theorem resolve_withPort (port : Option ℤ) :
    policy.resolve kind (withPort e port) = policy.resolve kind e := by
  cases port <;> rfl

/-- A row of another environment is not written, and nothing of it is given away. -/
theorem Reserves.of_other (h : Reserves policy i v kind r es r' es') (hc : r hostname = some c)
    (hi : c.appEnvironmentId ≠ i) :
    r' hostname = some c ∧ ∀ e ∈ es', policy.resolve kind e ≠ .ok hostname ∧
      (e.type = .tcp → c.externalPort ≠ some e.externalPort) := by
  induction h with
  | nil => exact ⟨hc, nofun⟩
  | @cons _ _ e _ _ x port hr hp _ ho hf _ ih =>
    have hx : hostname ≠ x := by
      rintro rfl
      exact hi (ho c hc)
    obtain ⟨h1, h2⟩ := ih ((Function.update_of_ne hx _ _).trans hc)
    refine ⟨h1, List.forall_mem_cons.mpr ⟨⟨?_, ?_⟩, h2⟩⟩
    · rw [resolve_withPort, hr]
      rintro ⟨⟩
      exact hx rfl
    · intro htcp heq
      have htcp' : e.type = .tcp := by cases port <;> exact htcp
      simp only [MayGet, htcp'] at hp
      obtain ⟨_, rfl, -⟩ := hp
      exact hf hostname hx c hc (by simp [heq]) heq

/-- No two endpoints of a configuration have the same hostname. -/
def HostnamesDistinct (policy : PublicationPolicy) (kind : WorkloadKind)
    (es : List PublicEndpoint) : Prop :=
  es.Pairwise fun e e' => policy.resolve kind e ≠ policy.resolve kind e'
deriving Decidable

/-- The row under the hostname of `e` is the one that was reserved for `e`, with `port`. -/
structure ReservedFor (i v : ℕ) (r r' : Registry) (e : PublicEndpoint) (hostname : String)
    (port : Option ℤ) : Prop where
  granted : MayGet (r hostname) i e port
  valid : ClaimValid (reservation i v e hostname port)
  owner : ∀ c ∈ r hostname, c.appEnvironmentId = i
  row : r' hostname = some (rewritten (r hostname) (reservation i v e hostname port))

theorem ReservedFor.of_update {x : String} {row : Option PublicationClaim} {port : Option ℤ}
    (h : ReservedFor i v (Function.update r x row) r' e hostname port) (hx : hostname ≠ x) :
    ReservedFor i v r r' e hostname port := by
  obtain ⟨hp, hv, ho, hr⟩ := h
  rw [Function.update_of_ne hx] at hp ho hr
  exact ⟨hp, hv, ho, hr⟩

/-- If the hostnames are distinct, every endpoint ends up with a row of its own. -/
theorem Reserves.of_mem (h : Reserves policy i v kind r es r' es')
    (hd : HostnamesDistinct policy kind es) (he : e ∈ es) :
    ∃ hostname port, policy.resolve kind e = .ok hostname ∧
      ReservedFor i v r r' e hostname port := by
  induction h with
  | nil => cases he
  | @cons _ _ _ _ _ x port hr hp hv ho _ ht ih =>
    obtain ⟨hne, hd⟩ := List.pairwise_cons.mp hd
    rcases List.mem_cons.mp he with rfl | he
    · refine ⟨x, port, hr, hp, hv, ho, ?_⟩
      rw [ht.eq_of_forall_ne fun e' he' h' => hne e' he' (hr.trans h'.symm), Function.update_self]
    · obtain ⟨hostname, port', hres, hrow⟩ := ih hd he
      refine ⟨hostname, port', hres, hrow.of_update ?_⟩
      rintro rfl
      exact hne e he (hr.trans hres.symm)

/-- The endpoints that are stored have the ports of their rows. -/
theorem Reserves.of_mem_stored (h : Reserves policy i v kind r es r' es')
    (hd : HostnamesDistinct policy kind es) (he : e ∈ es') :
    ∃ e₀ ∈ es, ∃ hostname port, e = withPort e₀ port ∧ policy.resolve kind e₀ = .ok hostname ∧
      ReservedFor i v r r' e₀ hostname port := by
  induction h with
  | nil => cases he
  | @cons _ _ e₀ _ _ x port hr hp hv ho _ ht ih =>
    obtain ⟨hne, hd⟩ := List.pairwise_cons.mp hd
    rcases List.mem_cons.mp he with rfl | he
    · refine ⟨e₀, List.mem_cons_self, x, port, rfl, hr, hp, hv, ho, ?_⟩
      rw [ht.eq_of_forall_ne fun e' he' h' => hne e' he' (hr.trans h'.symm), Function.update_self]
    · obtain ⟨e₁, he₁, hostname, port', rfl, hres, hrow⟩ := ih hd he
      refine ⟨e₁, List.mem_cons_of_mem _ he₁, hostname, port', rfl, hres, hrow.of_update ?_⟩
      rintro rfl
      exact hne e₁ he₁ (hr.trans hres.symm)

/-! ### Valid rows -/

/-- Every row satisfies the constraints of the table. -/
def RowsValid (r : Registry) : Prop :=
  ∀ hostname c, r hostname = some c → ClaimValid c

theorem ClaimValid.port_pos {n : ℤ} (h : ClaimValid c) (hn : c.externalPort = some n) : 1 ≤ n := by
  rcases h.2.2.1 with ⟨-, hp⟩ | ⟨-, hp⟩
  · rw [hp] at hn
    cases hn
  · rw [hn] at hp
    simp only [Option.any_some, decide_eq_true_eq] at hp
    exact hp.1

theorem Reserves.rowsValid (h : Reserves policy i v kind r es r' es') (hv : RowsValid r) :
    RowsValid r' := by
  induction h with
  | nil => exact hv
  | @cons _ _ _ _ _ x _ _ _ hres _ _ _ ih =>
    refine ih fun hostname c hc => ?_
    by_cases hx : hostname = x
    · subst hx
      rw [Function.update_self] at hc
      cases hc
      exact ⟨hres.1, hres.2.1, hres.2.2.1, .inl nofun⟩
    · rw [Function.update_of_ne hx] at hc
      exact hv hostname c hc

theorem rowsValid_released (hv : RowsValid r) : RowsValid (released i v r) := by
  intro hostname c hc
  obtain ⟨q, hq, hqc⟩ := Option.bind_eq_some_iff.mp hc
  have hqv := hv hostname q hq
  split_ifs at hqc with h1 h2
  · cases hqc
    exact ⟨hqv.1, hqv.2.1, hqv.2.2.1, .inr h2⟩
  · cases hqc
    exact hqv

/-! ### Activating -/

/-- Marking the rows of a configuration as current, one endpoint after the other. -/
inductive Activates (policy : PublicationPolicy) (i v : ℕ) (kind : WorkloadKind) :
    Registry → List PublicEndpoint → Registry → Prop
  | nil (r : Registry) : Activates policy i v kind r [] r
  | cons {r r' : Registry} {e : PublicEndpoint} {es : List PublicEndpoint} {hostname : String}
      {c : PublicationClaim} (hr : policy.resolve kind e = .ok hostname)
      (hc : r hostname = some c) (ho : c.appEnvironmentId = i)
      (ht : Activates policy i v kind (Function.update r hostname
        (some { c with currentConfigurationVersion := some v })) es r') :
      Activates policy i v kind r (e :: es) r'

/-- What is left once version `v` is current. -/
def settled (i v : ℕ) (r : Registry) : Registry := fun hostname =>
  (r hostname).filter fun c => ¬ (c.appEnvironmentId = i ∧
    c.currentConfigurationVersion ≠ some v ∧ c.desiredConfigurationVersion = none)

theorem activateEndpoint_registry (hu : HostnamesUnique claims)
    (h : activateEndpoint policy claims i v kind e = .ok claims') :
    ∃ hostname c, policy.resolve kind e = .ok hostname ∧ registry claims hostname = some c ∧
      c.appEnvironmentId = i ∧ HostnamesUnique claims' ∧
      registry claims' = Function.update (registry claims) hostname
        (some { c with currentConfigurationVersion := some v }) := by
  simp only [activateEndpoint, ok_iff] at h
  obtain ⟨hostname, hr, hany, rfl⟩ := h
  obtain ⟨_, c, hk, ho, hh⟩ := any_iff.mp hany
  have hc : registry claims hostname = some c := hh ▸ find_of_lookup hu hk
  refine ⟨hostname, c, hr, hc, ho, keyUnique_modify hu fun _ => rfl, funext fun x => ?_⟩
  rw [registry, find_modify hu, Function.update_apply]
  swap
  · exact fun _ => rfl
  by_cases hx : x = hostname
  · rw [if_pos hx, hx, show claims.find _ hostname = some c from hc, Option.map_some,
      if_pos ⟨ho, hh⟩]
  · rw [if_neg hx]
    cases hq : claims.find PublicationClaim.hostname x with
    | none => exact hq.symm
    | some =>
      rw [Option.map_some, if_neg fun hq' => hx ((key_of_find hq).symm.trans hq'.2)]
      exact hq.symm

theorem activateEndpoints_registry (hu : HostnamesUnique claims)
    (h : activateEndpoints policy i v kind claims es = .ok claims') :
    HostnamesUnique claims' ∧
      Activates policy i v kind (registry claims) es (registry claims') := by
  induction es generalizing claims claims' with
  | nil =>
    cases h
    exact ⟨hu, .nil _⟩
  | cons _ _ ih =>
    simp only [activateEndpoints, bind_eq_ok] at h
    obtain ⟨_, h₁, ht⟩ := h
    obtain ⟨_, _, hr, hc, ho, hu₁, hreg⟩ := activateEndpoint_registry hu h₁
    obtain ⟨hu₂, hrest⟩ := ih hu₁ ht
    rw [hreg] at hrest
    exact ⟨hu₂, .cons hr hc ho hrest⟩

/-- **Activating a configuration, on the registry.** -/
theorem activatePublicationClaims_registry {configuration : RuntimeConfig}
    (hu : HostnamesUnique claims)
    (h : activatePublicationClaims policy claims i v kind configuration = .ok claims') :
    HostnamesUnique claims' ∧ ∃ r, Activates policy i v kind (registry claims)
      configuration.publicEndpoints r ∧ registry claims' = settled i v r := by
  simp only [activatePublicationClaims, ok_iff] at h
  obtain ⟨claims₁, h₁, rfl⟩ := h
  obtain ⟨hu₁, ha⟩ := activateEndpoints_registry hu h₁
  refine ⟨keyUnique_delete hu₁, registry claims₁, ha, funext fun x => ?_⟩
  rw [registry, find_delete hu₁, settled]

/-! ### What activating does -/

/-- The row, served for version `v`. -/
def served (v : ℕ) (c : PublicationClaim) : PublicationClaim :=
  { c with currentConfigurationVersion := some v }

/-- The row of a hostname of the configuration is the environment's own and is now served; other
rows are as they were. -/
theorem Activates.row (h : Activates policy i v kind r es r') (hostname : String) :
    (∃ e ∈ es, policy.resolve kind e = .ok hostname) ∧
        (∃ c, r hostname = some c ∧ c.appEnvironmentId = i ∧ r' hostname = some (served v c)) ∨
      (∀ e ∈ es, policy.resolve kind e ≠ .ok hostname) ∧ r' hostname = r hostname := by
  induction h with
  | nil => exact .inr ⟨nofun, rfl⟩
  | @cons _ _ e _ x c hr hc ho _ ih =>
    by_cases hx : hostname = x
    · subst hx
      refine .inl ⟨⟨e, List.mem_cons_self, hr⟩, c, hc, ho, ?_⟩
      rcases ih with ⟨-, _, hc₁, -, hr'⟩ | ⟨-, hr'⟩
      · rw [Function.update_self] at hc₁
        cases hc₁
        exact hr'
      · rw [hr', Function.update_self]
        rfl
    · have hne : policy.resolve kind e ≠ .ok hostname := by
        rw [hr]
        rintro ⟨⟩
        exact hx rfl
      rw [Function.update_of_ne hx] at ih
      rcases ih with ⟨⟨e', he', hre'⟩, hrow⟩ | ⟨hn, hr'⟩
      · exact .inl ⟨⟨e', List.mem_cons_of_mem _ he', hre'⟩, hrow⟩
      · exact .inr ⟨List.forall_mem_cons.mpr ⟨hne, hn⟩, hr'⟩

theorem Activates.rowsValid (h : Activates policy i v kind r es r') (hv : RowsValid r) :
    RowsValid r' := by
  intro hostname c hc
  rcases h.row hostname with ⟨-, q, hq, -, hr'⟩ | ⟨-, hr'⟩
  · cases hr'.symm.trans hc
    have hqv := hv hostname q hq
    exact ⟨hqv.1, hqv.2.1, hqv.2.2.1, .inr nofun⟩
  · exact hv hostname c (hr'.symm.trans hc)

/-- A hostname of the configuration is served for it. -/
theorem Activates.live_eq (h : Activates policy i v kind r es r') (he : e ∈ es)
    (hr : policy.resolve kind e = .ok hostname) : live (settled i v r') hostname = some (i, v) := by
  rcases h.row hostname with ⟨-, c, -, ho, hr'⟩ | ⟨hn, -⟩
  · have hset : settled i v r' hostname = some (served v c) := by
      simp [settled, hr', served]
    simp [live, hset, served, ho]
  · exact absurd hr (hn e he)

theorem env_of_live {x : ℕ × ℕ} (hc : r hostname = some c) (hx : x ∈ live r hostname) :
    x.1 = c.appEnvironmentId := by
  simp only [live, hc, Option.bind_some, Option.mem_def, Option.map_eq_some_iff] at hx
  obtain ⟨_, -, rfl⟩ := hx
  rfl

/-- Activating changes what is served for the environment only. -/
theorem Activates.live_other (h : Activates policy i v kind r es r') (hostname : String) :
    live (settled i v r') hostname = live r hostname ∨
      (∀ x ∈ live r hostname, x.1 = i) ∧ ∀ x ∈ live (settled i v r') hostname, x.1 = i := by
  rcases h.row hostname with ⟨-, c, hc, ho, hr'⟩ | ⟨-, hr'⟩
  · have hset : settled i v r' hostname = some (served v c) := by
      simp [settled, hr', served]
    exact .inr ⟨fun x hx => (env_of_live hc hx).trans ho,
      fun x hx => (env_of_live hset hx).trans ho⟩
  · by_cases hdrop : settled i v r' hostname = r hostname
    · exact .inl (by simp only [live, hdrop])
    · refine .inr ?_
      cases hc : r hostname with
      | none => exact absurd (by simp [settled, hr', hc]) hdrop
      | some c =>
        rw [settled, hr', hc, Option.filter_some] at hdrop
        split at hdrop
        · exact absurd rfl hdrop
        · rename_i hn
          have ho : c.appEnvironmentId = i := by
            by_contra hne
            exact hn (by simp [hne])
          refine ⟨fun x hx => (env_of_live hc hx).trans ho, ?_⟩
          rw [live, settled, hr', hc, Option.filter_some, if_neg hn]
          exact fun x hx => nomatch hx

/-! ### Archiving -/

/-- What is left once an environment is archived. -/
def withdrawn (e : Option ℕ) (r : Registry) : Registry := fun hostname =>
  (r hostname).filter fun c => ¬ some c.appEnvironmentId = e

theorem withdraw_registry {e : Option ℕ} (hu : HostnamesUnique claims) :
    registry (claims.delete fun _ c => some c.appEnvironmentId = e) =
      withdrawn e (registry claims) :=
  funext fun _ => find_delete hu

theorem live_withdrawn {e : Option ℕ} (hostname : String) :
    live (withdrawn e r) hostname = live r hostname ∨
      (∀ x ∈ live r hostname, e = some x.1) ∧
      ∀ x ∈ live (withdrawn e r) hostname, e = some x.1 := by
  cases hc : r hostname with
  | none => exact .inl (by simp [live, withdrawn, hc])
  | some c =>
    by_cases ho : some c.appEnvironmentId = e
    · refine .inr ⟨fun x hx => ?_, ?_⟩
      · rw [env_of_live hc hx, ho]
      · simp [live, withdrawn, hc, Option.filter_some, ho]
    · exact .inl (by simp [live, withdrawn, hc, Option.filter_some, ho])

end Molejo.Store
