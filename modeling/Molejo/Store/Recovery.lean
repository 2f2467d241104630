import Mathlib.Data.String.Basic
import Molejo.Store.Orderly
import Molejo.Store.Versions

/-!
# Secret mutations are resolved

A worker calls `RunOnce` again and again. A call looks at the oldest pending versions, in their
order, and closes the first that it can close: it completes one whose value is written, and abandons
one that is still unwritten after its time. If there is none, it purges one archived parameter. So
the number of pending versions and of archived parameters that are not purged goes down with every
call that has something to do, and when it stands still everything is done
(`resolves_of_keepsClosable`).

The argument needs two things of the state.

* The closing transactions are not refused. `RunOnce` returns at the first error, and the next call
  begins with the same mutation: a mutation that cannot be closed blocks all others, and all purges.
* The value of a pending version is at the expected version or at the next one, so that each call
  finds something to do with the first mutation of its list. This is an invariant of the protocol
  (`Recoverable`), in whatever order requests and workers act on what they have seen.

The first thing is not guaranteed. An environment may bind a pending version, and then the version
cannot be deleted; a secret may be moved to the path of another parameter, and then the move cannot
be completed (`not_resolves_blockedRuns`).
-/

namespace Molejo.Store

open Transaction Parameters Table Transition

variable {reference : String} {i j : ℕ} {p : Parameter} {v : ParameterVersion} {m : SecretMutation}

/-! ### The worker -/

/-- The loop of `RunOnce` over the mutations; nothing is returned if none of them is due. -/
def recoverMutation (timeout : Time) (w : SecretState) : List SecretMutation → Option SecretState
  | [] => none
  | m :: rest =>
    if w.kv.current m.reference = m.backendVersion then
      -- also if this fails, `RunOnce` returns
      some (w.transactTables ((completeSecretMutation w.store.now w.tables m m.backendVersion).map
        Prod.snd))
    else if w.kv.current m.reference = m.expectedBackendVersion ∧
        m.createdAt + timeout ≤ w.store.now then
      some (w.transact (abandonSecretMutation w.db m))
    else recoverMutation timeout w rest

/-- The rest of `RunOnce`: the first candidate is purged. -/
def purgeFirst (w : SecretState) : SecretState :=
  match parameterPurgeCandidates w.store.now w.db 20 with
  | [] => w
  | c :: _ =>
    match c.kind with
    | .secret =>
      if c.secretReference = "" then w
      else { w with kv := w.kv.delete c.secretReference }.transact
        (markParameterPurged w.store.now w.db c.parameterId)
    | .plainText => w.transact (markParameterPurged w.store.now w.db c.parameterId)

/-- `RunOnce`. -/
def runOnce (timeout : Time) (w : SecretState) : SecretState :=
  match listPendingSecretMutations w.tables 20 with
  | .error _ => w
  | .ok mutations => (recoverMutation timeout w mutations).getD (purgeFirst w)

/-! ### What is claimed -/

/-- The time of every pending version is over. -/
def TimedOut (timeout : Time) (w : SecretState) : Prop :=
  ∀ j v, w.db.versions.lookup j = some v → v.valueState = .pending →
    v.createdAt + timeout ≤ w.store.now
deriving Decidable

/-- Nothing is left to be closed, and what was due for purging before is purged. -/
structure Settled (w w' : SecretState) : Prop where
  closed : ∀ j v reference, w'.db.versions.lookup j = some v → v.valueState = .pending →
    v.secretReference = some reference →
    v.secretBackendVersion ≠ some (w'.kv.current reference) ∧
      v.expectedSecretBackendVersion ≠ some (w'.kv.current reference)
  purged : ∀ i p, w.db.parameters.lookup i = some p → PurgeCandidate w.store.now w.db i p →
    ∃ q, w'.db.parameters.lookup i = some q ∧ q.valueState = .purged ∧ q.purgedAt ≠ none

/-- What happens between two calls: anything that stores no configuration. -/
def between (policy : PublicationPolicy) (timeout : Time) (w : SecretState) (gap : List Action) :
    SecretState :=
  run (SecretState.step policy timeout) w (gap.map .store)

/-- The calls of a worker, each after what happened before it. -/
def calls (policy : PublicationPolicy) (timeout : Time) (w : SecretState)
    (gaps : List (List Action)) : SecretState :=
  gaps.foldl (fun w gap => runOnce timeout (between policy timeout w gap)) w

/-- **Mutations resolve**: after some number of calls everything is settled, whatever happens
between them. -/
def Resolves (policy : PublicationPolicy) (timeout : Time) (w : SecretState) : Prop :=
  ∃ N, ∀ gaps : List (List Action), N ≤ gaps.length →
    (∀ gap ∈ gaps, ∀ a ∈ gap, a.bindings? = none) → Settled w (calls policy timeout w gaps)

/-! ### How the tables grow -/

section Growth

variable {t t' : Tables} {kv : VersionedMap String String}

/-- The version is there, and not pending. -/
def SettledVersion (t : Tables) (parameterId version : ℕ) : Prop :=
  ∃ j v, t.versions.lookup j = some v ∧ v.parameterId = parameterId ∧ v.version = version ∧
    v.valueState ≠ .pending

/-- Some version up to this one of the secret under a reference has been settled: none is, if the
reference is of no parameter. -/
def AtMost (t : Tables) (reference : String) (n : ℕ) : Prop :=
  n = 0 ∨ ∃ i p, t.parameters.lookup i = some p ∧ RefersTo p.publicId reference ∧
    n ≤ Parameters.settled p

/-- The parameter of the reference is archived. -/
def Retired (t : Tables) (reference : String) : Prop :=
  ∃ i p, t.parameters.lookup i = some p ∧ RefersTo p.publicId reference ∧ p.archivedAt ≠ none

/-- What a later state has of an earlier one. -/
structure Grows (t t' : Tables) : Prop where
  nextId : t.parameters.nextId ≤ t'.parameters.nextId
  /-- Only a parameter that was being created can be gone. -/
  parameter : ∀ i p, t.parameters.lookup i = some p → p.valueState = .pending ∨
    ∃ q, t'.parameters.lookup i = some q ∧ q.publicId = p.publicId ∧ q.kind = p.kind ∧
      Parameters.settled p ≤ Parameters.settled q ∧ (p.archivedAt ≠ none → q.archivedAt ≠ none)
  version : ∀ i n, SettledVersion t i n → SettledVersion t' i n
  /-- A reference is that of an older version, or of a new parameter. -/
  reference : ∀ j v r, t'.versions.lookup j = some v → v.secretReference = some r →
    t.parameters.nextId ≤ v.parameterId ∨ ∃ k x, t.versions.lookup k = some x ∧
      x.parameterId = v.parameterId ∧ x.secretReference = some r

theorem AtMost.grows {n : ℕ} (h : AtMost t reference n) (hg : Grows t t') :
    AtMost t' reference n := by
  rcases h with rfl | ⟨i, p, hp, href, hle⟩
  · exact .inl rfl
  rcases hg.parameter i p hp with hpending | ⟨q, hq, hid, -, hsettled, -⟩
  · rw [settled_of_pending hpending] at hle
    exact .inl (Nat.le_zero.mp hle)
  · exact .inr ⟨i, q, hq, hid ▸ href, Nat.le_trans hle hsettled⟩

/-- An archived parameter stays. -/
theorem Grows.archived (hg : Grows t t') (h : Orderly t) (hp : t.parameters.lookup i = some p)
    (harchived : p.archivedAt ≠ none) :
    ∃ q, t'.parameters.lookup i = some q ∧ q.publicId = p.publicId ∧ q.kind = p.kind ∧
      q.archivedAt ≠ none := by
  rcases hg.parameter i p hp with hpending | ⟨q, hq, hid, hkind, -, hq'⟩
  · exact absurd (h.history.begun i p hp hpending) (h.idle_of_archived hp harchived)
  · exact ⟨q, hq, hid, hkind, hq' harchived⟩

theorem Retired.grows (hr : Retired t reference) (h : Orderly t) (hg : Grows t t') :
    Retired t' reference := by
  obtain ⟨i, _, hp, href, harchived⟩ := hr
  obtain ⟨q, hq, hid, -, hq'⟩ := hg.archived h hp harchived
  exact ⟨i, q, hq, hid ▸ href, hq'⟩

/-- **Transactions make the tables grow.** -/
theorem Grows.change (h : History t) (hc : Change (orderlyRules kv) t t') : Grows t t' := by
  have hversion : ∀ i n, SettledVersion t i n → SettledVersion t' i n := by
    rintro i n ⟨j, v, hv, hvi, hvn, hsettled⟩
    exact ⟨j, v, hc.version_of_settled h hv hsettled, hvi, hvn, hsettled⟩
  refine ⟨?_, ?_, hversion, ?_⟩
  · cases hc with
    | same hsame => exact Nat.le_of_eq (hsame.1 ▸ rfl)
    | create | reserveFirst => exact Nat.le_succ _
    | _ => exact Nat.le_refl _
  · intro i p hp
    cases hc with
    | same hsame => exact .inr ⟨p, hsame.1 ▸ hp, rfl, rfl, Nat.le_refl _, fun h => h⟩
    | create | reserveFirst =>
      exact .inr ⟨p, lookup_insert_of_lookup hp, rfl, rfl, Nat.le_refl _, fun h => h⟩
    | replace _ hq _ hidle =>
      refine .inr (exists_lookup_modify hp ⟨rfl, rfl, Nat.le_refl _, fun h => h⟩ ?_)
      rintro ⟨rfl, -⟩
      cases hq.symm.trans hp
      have hready := h.not_pending_of_idle hp hidle
      refine ⟨rfl, rfl, ?_, fun h => h⟩
      rw [settled_of_not_pending hready, settled_of_not_pending (by exact hready)]
      exact Nat.le_succ _
    | reserveNext => exact .inr ⟨p, hp, rfl, rfl, Nat.le_refl _, fun h => h⟩
    | complete _ hw hm hpending =>
      refine .inr (exists_lookup_modify hp ⟨rfl, rfl, Nat.le_refl _, fun h => h⟩ ?_)
      rintro rfl
      refine ⟨rfl, rfl, ?_, fun h => h⟩
      rcases h.placed hw (hm.1 ▸ hp) with ⟨hne, -⟩ | ⟨-, hn⟩
      · exact absurd hpending hne
      · rw [settled_of_not_pending (p := Parameter.complete _ _ _ p) nofun]
        exact Nat.le_of_lt (Nat.lt_of_succ_le (Nat.le_of_eq (hn.symm.trans hm.2)))
    | abandon =>
      by_cases hpending : p.valueState = .pending
      · exact .inl hpending
      · exact .inr ⟨p, lookup_delete_eq_some.mpr ⟨hp, fun hdel => hpending hdel.2⟩, rfl, rfl,
          Nat.le_refl _, fun h => h⟩
    | archive =>
      exact .inr (exists_lookup_modify hp ⟨rfl, rfl, Nat.le_refl _, fun h => h⟩
        fun _ => ⟨rfl, rfl, Nat.le_refl _, nofun⟩)
  · intro j v r hv hr
    cases hc with
    | same hsame => exact .inr ⟨j, v, hsame.2.1 ▸ hv, rfl, hr⟩
    | create | reserveFirst =>
      rcases lookup_insert_eq_some.mp hv with ⟨-, rfl⟩ | hv
      · exact .inl (Nat.le_refl _)
      · exact .inr ⟨j, v, hv, rfl, hr⟩
    | replace hvalue =>
      rcases lookup_insert_eq_some.mp hv with ⟨-, rfl⟩ | hv
      · obtain ⟨-, _, rfl⟩ := hvalue
        cases hr
      · exact .inr ⟨j, v, hv, rfl, hr⟩
    | reserveNext _ _ _ _ _ _ hcurrent hid _ href =>
      rcases lookup_insert_eq_some.mp hv with ⟨-, rfl⟩ | hv
      · cases hr
        exact .inr ⟨_, _, hcurrent, hid, href⟩
      · exact .inr ⟨j, v, hv, rfl, hr⟩
    | complete =>
      obtain ⟨x, hx, heq⟩ := exists_of_lookup_modify hv
        (fun x => (x.parameterId, x.secretReference)) fun _ => rfl
      obtain ⟨hxi, hxr⟩ := Prod.mk.inj heq
      exact .inr ⟨j, x, hx, hxi.symm, hxr ▸ hr⟩
    | abandon => exact .inr ⟨j, v, (lookup_delete_eq_some.mp hv).1, rfl, hr⟩
    | archive => exact .inr ⟨j, v, hv, rfl, hr⟩

/-- So does a purge. -/
theorem Grows.purge (h : Orderly t) (now : Time) (hp : t.parameters.lookup i = some p)
    (harchived : p.archivedAt ≠ none) :
    Grows t (purgeTables now t i) := by
  have hidle := h.idle_of_archived hp harchived
  have hready : p.valueState ≠ .pending := h.history.not_pending_of_idle hp hidle
  refine ⟨Nat.le_refl _, fun k q hq => .inr (exists_lookup_modify hq
    ⟨rfl, rfl, Nat.le_refl _, fun h => h⟩ ?_), ?_, ?_⟩
  · rintro ⟨rfl, -⟩
    cases hp.symm.trans hq
    refine ⟨rfl, rfl, ?_, fun h => h⟩
    rw [settled_of_not_pending hready, settled_of_not_pending (p := purgeParameterRow now p) nofun]
    exact Nat.le_refl _
  · rintro k n ⟨j, v, hv, hvi, hvn, hsettled⟩
    exact ⟨j, exists_lookup_modify hv ⟨hvi, hvn, hsettled⟩ fun _ => ⟨hvi, hvn, nofun⟩⟩
  · intro j v r hv hr
    obtain ⟨_, hx, ⟨-, rfl⟩ | ⟨-, rfl⟩⟩ := lookup_modify_eq_some.mp hv
    · cases hr
    · exact .inr ⟨j, v, hx, rfl, hr⟩

/-- The settled versions of a live secret have been written. -/
def Reached (kv : VersionedMap String String) (t : Tables) : Prop :=
  ∀ j v p reference, t.versions.lookup j = some v → t.parameters.lookup v.parameterId = some p →
    p.archivedAt = none → p.kind = .secret → v.secretReference = some reference →
    Parameters.settled p ≤ kv.current reference

/-- **Only written versions are settled.** -/
theorem Reached.change (h : Reached kv t) (ho : Orderly t)
    (hc : Change (orderlyRules kv) t t') : Reached kv t' := by
  have howner : ∀ {j v p q}, t.versions.lookup j = some v →
      (t.parameters.insert q).lookup v.parameterId = some p →
      t.parameters.lookup v.parameterId = some p := by
    intro j v p q hv hp
    rcases lookup_insert_eq_some.mp hp with ⟨hn, -⟩ | hp
    · exact absurd hn (Nat.ne_of_lt (ho.history.owner_lt hv))
    · exact hp
  intro j v p reference hv hp hlive hkind href
  cases hc with
  | same hsame => exact h j v p reference (hsame.2.1 ▸ hv) (hsame.1 ▸ hp) hlive hkind href
  | create hvalue =>
    obtain ⟨rfl, _, rfl⟩ := hvalue
    rcases lookup_insert_eq_some.mp hv with ⟨-, rfl⟩ | hv
    · cases href
    · exact h j v p reference hv (howner hv hp) hlive hkind href
  | replace hvalue hq =>
    obtain ⟨hplain, _, rfl⟩ := hvalue
    rcases lookup_insert_eq_some.mp hv with ⟨-, rfl⟩ | hv
    · cases href
    · obtain ⟨_, hp', ⟨⟨hvi, -⟩, rfl⟩ | ⟨-, rfl⟩⟩ := lookup_modify_eq_some.mp hp
      · rw [hvi] at hp'
        cases hq.symm.trans hp'
        exact nomatch hplain.symm.trans hkind
      · exact h j v p reference hv hp' hlive hkind href
  | reserveFirst =>
    rcases lookup_insert_eq_some.mp hv with ⟨-, rfl⟩ | hv
    · cases lookup_insert_self.symm.trans hp
      exact Nat.zero_le _
    · exact h j v p reference hv (howner hv hp) hlive hkind href
  | reserveNext _ _ _ _ _ _ hcurrent hid _ href' =>
    rcases lookup_insert_eq_some.mp hv with ⟨-, rfl⟩ | hv
    · cases href
      exact h _ _ p _ hcurrent (hid ▸ hp) hlive hkind href'
    · exact h j v p reference hv hp hlive hkind href
  | @complete _ _ k w _ _ hcompleted hw hm hpending =>
    obtain ⟨x, hx, heq⟩ := exists_of_lookup_modify hv
      (fun x => (x.parameterId, x.secretReference)) fun _ => rfl
    obtain ⟨hxi, hxr⟩ := Prod.mk.inj heq
    obtain ⟨p', hp', ⟨hvi, rfl⟩ | ⟨-, rfl⟩⟩ := lookup_modify_eq_some.mp hp
    · -- the row that was completed has the same reference
      have hw' : t.parameters.lookup w.parameterId = some p' := by rw [hm.1, ← hvi]; exact hp'
      obtain ⟨⟨r, hr, -⟩, -⟩ := ho.rows.secret_of_live hw hw' hlive hkind
      obtain rfl := ho.rows.reference j x k w reference r hx hw
        (hxi.symm.trans (hvi.trans hm.1.symm)) (hxr ▸ href) hr
      exact hcompleted k w reference hw hm hpending hr
    · exact h j x p reference hx (hxi ▸ hp') hlive hkind (hxr ▸ href)
  | abandon =>
    exact h j v p reference (lookup_delete_eq_some.mp hv).1
      (lookup_delete_eq_some.mp hp).1 hlive hkind href
  | archive =>
    obtain ⟨_, hp', ⟨-, rfl⟩ | ⟨-, rfl⟩⟩ := lookup_modify_eq_some.mp hp
    · cases hlive
    · exact h j v p reference hv hp' hlive hkind href

theorem Reached.purge (h : Reached kv t) (now : Time) (i : ℕ) :
    Reached kv (purgeTables now t i) := by
  intro j v p reference hv hp hlive hkind href
  obtain ⟨_, hx, ⟨-, rfl⟩ | ⟨-, rfl⟩⟩ := lookup_modify_eq_some.mp hv
  · cases href
  obtain ⟨_, hp', ⟨hQ, rfl⟩ | ⟨-, rfl⟩⟩ := lookup_modify_eq_some.mp hp
  · exact absurd hlive hQ.2.1
  · exact h j v p reference hx hp' hlive hkind href

end Growth

/-! ### The invariant -/

/-- What is known of a mutation that somebody was handed. -/
structure Issued (t : Tables) (m : SecretMutation) : Prop where
  version : m.parameterVersion = m.backendVersion
  backend : m.backendVersion = m.expectedBackendVersion + 1
  atMost : AtMost t m.reference m.expectedBackendVersion
  known : m.parameterId < t.parameters.nextId
  reference : ∀ j v r, t.versions.lookup j = some v → v.parameterId = m.parameterId →
    v.secretReference = some r → r = m.reference

/-- **Every pending version can be closed.** -/
structure Recoverable (w : SecretState) : Prop where
  orderly : Orderly w.tables
  /-- What is bound is not pending. -/
  bound : ∀ k x, w.db.boundParameters.lookup k = some x →
    SettledVersion w.tables x.parameterId x.parameterVersion
  /-- The entry of a live secret is not behind its settled versions. -/
  reached : Reached w.kv w.tables
  /-- No entry is more than one version ahead. -/
  ahead : ∀ reference n, w.kv.current reference = n + 1 → AtMost w.tables reference n
  issued : ∀ m ∈ w.issued, Issued w.tables m
  written : ∀ m ∈ w.written, Issued w.tables m ∧
    (m.backendVersion ≤ w.kv.current m.reference ∨ Retired w.tables m.reference)
  listed : ∀ c ∈ w.listed, ∃ p, w.db.parameters.lookup c.parameterId = some p ∧
    p.archivedAt ≠ none ∧
    (c.kind = .secret → c.secretReference ≠ "" → RefersTo p.publicId c.secretReference)

section Mutations

variable {t t' : Tables} {m : SecretMutation}

theorem Issued.grows (h : Issued t m) (hg : Grows t t') : Issued t' m where
  version := h.version
  backend := h.backend
  atMost := h.atMost.grows hg
  known := Nat.lt_of_lt_of_le h.known hg.nextId
  reference j v r hv hvi hr := by
    rcases hg.reference j v r hv hr with hnew | ⟨k, x, hx, hxi, hxr⟩
    · have hknown := h.known
      omega
    · exact h.reference k x r hx (hxi.trans hvi) hxr

/-- A mutation that describes a version of tables in order. -/
theorem Orderly.issued (h : Orderly t) (hv : t.versions.lookup j = some v) (hm : Describes t m v) :
    Issued t m := by
  obtain ⟨p₀, hp₀, -⟩ := hm.parameter
  have hpending : v.valueState = .pending := by
    by_contra hne
    exact nomatch ((h.rows.row j v p₀ hv hp₀).settled hne).symm.trans hm.expected
  obtain ⟨p, hp, -, -, hrefers, hexpected, hbackend, hversion⟩ := h.describes hv hpending hm
  refine ⟨hversion.trans hbackend.symm, by rw [hbackend, hexpected], ?_, lt_nextId hp, ?_⟩
  · exact .inr ⟨m.parameterId, p, hp, hrefers, Nat.le_of_eq hexpected⟩
  · intro k x r hx hxi hr
    exact h.rows.reference k x j v r m.reference hx hv (hxi.trans hm.parameterId.symm) hr
      hm.reference

end Mutations

section Steps

variable {w w' : SecretState}

/-- Two references that end in one public id are of one parameter. -/
theorem Orderly.eq_of_refersTo {t : Tables} (h : Orderly t) {q : Parameter}
    (hp : t.parameters.lookup i = some p) (hq : t.parameters.lookup j = some q)
    (hpr : RefersTo p.publicId reference) (hqr : RefersTo q.publicId reference) : i = j := by
  obtain ⟨_, rfl⟩ := hpr
  obtain ⟨_, heq⟩ := hqr
  exact h.history.distinct i p j q hp hq
    (publicId_of_reference (h.rows.valid i p hp) (h.rows.valid j q hq) heq)

/-- A mutation that was found written may be completed. -/
theorem Recoverable.completed (h : Recoverable w) (hm : m ∈ w.written) :
    (orderlyRules w.kv).completed w.tables m := by
  intro j v reference hv hnames hpending href
  obtain ⟨hissued, hwritten⟩ := h.written m hm
  obtain rfl := hissued.reference j v reference hv hnames.1 href
  rcases hwritten with hle | ⟨_, _, hq, hrefers, harchived⟩
  · rw [hissued.version]
    exact hle
  · -- its parameter is live, since the version is pending
    obtain ⟨p, hp, -⟩ := h.orderly.history.owned j v hv
    have hrow := h.orderly.rows.row j v p hv hp
    obtain ⟨hlive, hkind, -⟩ := hrow.pending hpending
    obtain ⟨⟨_, hr, hrefers'⟩, -⟩ := hrow.secret hkind (by rw [hpending]; decide)
    cases hr.symm.trans href
    obtain rfl := h.orderly.eq_of_refersTo hp hq hrefers' hrefers
    cases hp.symm.trans hq
    exact absurd hlive harchived

/-- The tables grow, and nobody has seen anything. -/
theorem Recoverable.grow (h : Recoverable w) (ho : Orderly w'.tables)
    (hg : Grows w.tables w'.tables) (hr : Reached w.kv w'.tables)
    (hbound : ∀ k x, w'.db.boundParameters.lookup k = some x →
      w.db.boundParameters.lookup k = some x ∨
        SettledVersion w.tables x.parameterId x.parameterVersion)
    (hw : w' = { w with store := w'.store }) : Recoverable w' := by
  rw [hw]
  refine ⟨ho, fun k x hx => ?_, hr, fun r n hn => (h.ahead r n hn).grows hg,
    fun m hm => (h.issued m hm).grows hg, fun m hm => ?_, fun c hc => ?_⟩
  · rcases hbound k x hx with hx | hx
    · exact hg.version _ _ (h.bound k x hx)
    · exact hg.version _ _ hx
  · obtain ⟨hi, hle | hretired⟩ := h.written m hm
    · exact ⟨hi.grows hg, .inl hle⟩
    · exact ⟨hi.grows hg, .inr (hretired.grows h.orderly hg)⟩
  · obtain ⟨_, hp, harchived, href⟩ := h.listed c hc
    obtain ⟨q, hq, hid, -, hq'⟩ := hg.archived h.orderly hp harchived
    exact ⟨q, hq, hq', hid ▸ href⟩

theorem Recoverable.addIssued (h : Recoverable w) (ms : List SecretMutation)
    (hms : ∀ m ∈ ms, Issued w.tables m) : Recoverable { w with issued := ms ++ w.issued } :=
  ⟨h.orderly, h.bound, h.reached, h.ahead, fun m hm => by
    rcases List.mem_append.mp hm with hm | hm
    · exact hms m hm
    · exact h.issued m hm, h.written, h.listed⟩

theorem Recoverable.addWritten (h : Recoverable w) (hm : m ∈ w.issued)
    (hle : m.backendVersion ≤ w.kv.current m.reference) :
    Recoverable { w with written := m :: w.written } :=
  ⟨h.orderly, h.bound, h.reached, h.ahead, h.issued, fun m' hm' => by
    rcases List.mem_cons.mp hm' with rfl | hm'
    · exact ⟨h.issued m' hm, .inl hle⟩
    · exact h.written m' hm', h.listed⟩

/-- A write that compares versions. -/
theorem Recoverable.put (h : Recoverable w) (hm : m ∈ w.issued) (value : String) :
    Recoverable (w.put m value) := by
  unfold SecretState.put
  split
  · next n kv hput =>
    obtain ⟨hcas, -, rfl⟩ := VersionedMap.put_eq_some.mp hput
    have hissued := h.issued m hm
    refine ⟨h.orderly, h.bound, fun j v p r hv hp hlive hkind hr => ?_, fun r n hn => ?_, h.issued,
      fun m' hm' => ?_, h.listed⟩
    · exact Nat.le_trans (h.reached j v p r hv hp hlive hkind hr)
        VersionedMap.current_le_current_write
    · by_cases hr : r = m.reference
      · subst hr
        rw [VersionedMap.current_write_self, hcas] at hn
        obtain rfl := Nat.succ.inj hn
        exact hissued.atMost
      · rw [VersionedMap.current_write_of_ne hr] at hn
        exact h.ahead r n hn
    · rcases List.mem_cons.mp hm' with rfl | hm'
      · refine ⟨hissued, .inl ?_⟩
        rw [VersionedMap.current_write_self, hcas, hissued.backend]
      · obtain ⟨hi, hle | hretired⟩ := h.written m' hm'
        · exact ⟨hi, .inl (Nat.le_trans hle VersionedMap.current_le_current_write)⟩
        · exact ⟨hi, .inr hretired⟩
  · exact h

/-- The entry of an archived parameter is deleted. -/
theorem Recoverable.deleteSecret (h : Recoverable w) (hr : Retired w.tables reference) :
    Recoverable { w with kv := w.kv.delete reference } := by
  refine ⟨h.orderly, h.bound, fun j v p r hv hp hlive hkind href => ?_, fun r n hn => ?_, h.issued,
    fun m hm => ?_, h.listed⟩
  · have hne : r ≠ reference := by
      rintro rfl
      obtain ⟨_, _, hq, hrefers, harchived⟩ := hr
      obtain ⟨⟨_, hr', hrefers'⟩, -⟩ := h.orderly.rows.secret_of_live hv hp hlive hkind
      cases hr'.symm.trans href
      obtain rfl := h.orderly.eq_of_refersTo hp hq hrefers' hrefers
      cases hp.symm.trans hq
      exact harchived hlive
    rw [VersionedMap.current_delete_of_ne hne]
    exact h.reached j v p r hv hp hlive hkind href
  · by_cases hne : r = reference
    · subst hne
      rw [VersionedMap.current_delete_self] at hn
      cases hn
    · rw [VersionedMap.current_delete_of_ne hne] at hn
      exact h.ahead r n hn
  · obtain ⟨hi, hle | hretired⟩ := h.written m hm
    · by_cases hne : m.reference = reference
      · exact ⟨hi, .inr (hne ▸ hr)⟩
      · refine ⟨hi, .inl ?_⟩
        rw [VersionedMap.current_delete_of_ne hne]
        exact hle
    · exact ⟨hi, .inr hretired⟩

/-- An archived parameter is purged. -/
theorem Recoverable.purge (h : Recoverable w) (hp : w.db.parameters.lookup i = some p)
    (harchived : p.archivedAt ≠ none) (hpurged : p.purgedAt = none) :
    Recoverable { w with store := { w.store with
      db := putTables w.db (purgeTables w.store.now w.tables i) } } :=
  h.grow (h.orderly.purge w.store.now hp harchived hpurged)
    (.purge h.orderly w.store.now hp harchived) (h.reached.purge w.store.now i)
    (fun _ _ hx => .inl hx) rfl

/-- A purge that was asked for, whether or not there was something to purge. -/
theorem Recoverable.markParameterPurged (h : Recoverable w) (i : ℕ) :
    Recoverable (w.transact (markParameterPurged w.store.now w.db i)) := by
  unfold SecretState.transact
  cases hx : Store.markParameterPurged w.store.now w.db i with
  | error => exact h
  | ok =>
    rcases markParameterPurged_eq_ok hx with rfl | ⟨⟨_, hp, harchived, hpurged⟩, rfl⟩
    · exact h
    · exact h.purge hp harchived hpurged

/-- The tables change by a transaction, and nobody has seen anything. -/
theorem Recoverable.changed (h : Recoverable w) (hc : w.Changed (orderlyRules w.kv) w')
    (hw : w' = { w with store := w'.store }) : Recoverable w' := by
  have htables := hc.tables
  obtain ⟨_, -, hs⟩ := hc
  refine h.grow (h.orderly.change htables) (.change h.orderly.history htables)
    (h.reached.change h.orderly htables) (fun k x hx => .inl ?_) hw
  rw [SecretState.db, hs] at hx
  exact hx

/-- A reservation hands out its mutation. -/
theorem Recoverable.begun (h : Recoverable w) {x : Except Err (SecretMutation × Bool × Tables)}
    (hx : ∀ m existing t, x = .ok (m, existing, t) → Change (orderlyRules w.kv) w.tables t ∧
      ∃ j v, t.versions.lookup j = some v ∧ Describes t m v) : Recoverable (w.begun x) := by
  cases x with
  | error => exact h
  | ok r =>
    obtain ⟨m, existing, t⟩ := r
    obtain ⟨hc, _, _, hv, hm⟩ := hx m existing t rfl
    have hw : Recoverable (w.transactTables (.ok t)) :=
      h.changed ⟨t, hc, rfl⟩ rfl
    exact hw.addIssued [m] fun m' hm' => by
      rw [List.mem_singleton.mp hm']
      exact hw.orderly.issued hv hm

end Steps

/-! ### References of candidates -/

section Candidates

variable {db : Db} {i : ℕ}

/-- The references of a parameter. -/
def references (db : Db) (i : ℕ) : List String :=
  (db.versions.select fun _ v => v.parameterId = i).filterMap fun x => x.2.secretReference

theorem mem_references {r : String} : r ∈ references db i ↔
    ∃ j v, db.versions.lookup j = some v ∧ v.parameterId = i ∧ v.secretReference = some r := by
  simp [references, mem_select, and_assoc]

theorem empty_le (s : String) : "" ≤ s := by
  rw [← not_lt, String.lt_iff_toList_lt]
  exact List.not_lt_nil _

theorem maxReference_eq (db : Db) (i : ℕ) : maxReference db i = (references db i).max?.getD "" := by
  have hmax : (fun a b : String => if a < b then b else a) = max :=
    funext fun a => funext fun b => (max_def_lt a b).symm
  rw [maxReference, hmax, List.foldl_max, max_eq_right (empty_le _), references]

theorem maxReference_mem (db : Db) (i : ℕ) :
    maxReference db i = "" ∨ maxReference db i ∈ references db i := by
  rw [maxReference_eq]
  cases hmax : (references db i).max? with
  | none => exact .inl rfl
  | some => exact .inr (List.max?_mem hmax)

theorem maxReference_ne_empty (hr : reference ∈ references db i) (hne : reference ≠ "") :
    maxReference db i ≠ "" := by
  rw [maxReference_eq]
  cases hmax : (references db i).max? with
  | none =>
    rw [List.max?_eq_none_iff.mp hmax] at hr
    cases hr
  | some =>
    rintro rfl
    exact hne (le_antisymm ((List.max?_le_iff hmax).mp le_rfl reference hr) (empty_le _))

/-- What a candidate is. -/
theorem mem_parameterPurgeCandidates {now : Time} {limit : ℕ} {c : ParameterPurgeCandidate}
    (h : c ∈ parameterPurgeCandidates now db limit) :
    ∃ p, db.parameters.lookup c.parameterId = some p ∧ PurgeCandidate now db c.parameterId p ∧
      c.kind = p.kind ∧ c.secretReference = maxReference db c.parameterId := by
  obtain ⟨_, hi, hc⟩ := List.mem_filterMap.mp h
  obtain ⟨p, hp, rfl⟩ := Option.map_eq_some_iff.mp hc
  obtain ⟨⟨_, _⟩, hmem, rfl⟩ := List.mem_map.mp hi
  have hsel := (List.perm_insertionSort _ _).subset (List.take_subset _ _ hmem)
  obtain ⟨hq, hcandidate⟩ := mem_select.mp hsel
  cases hq.symm.trans hp
  exact ⟨p, hp, hcandidate, rfl, rfl⟩

/-- The reference of a candidate is that of its secret. -/
theorem Orderly.refersTo_maxReference (h : Orderly db.toTables)
    (hp : db.parameters.lookup i = some p) (hkind : p.kind = .secret) (hpurged : p.purgedAt = none)
    (hne : maxReference db i ≠ "") : RefersTo p.publicId (maxReference db i) := by
  rcases maxReference_mem db i with heq | hmem
  · exact absurd heq hne
  · obtain ⟨j, v, hv, rfl, href⟩ := mem_references.mp hmem
    have hrow := h.rows.row j v p hv hp
    obtain ⟨⟨_, hr, hrefers⟩, -⟩ := hrow.secret hkind (hrow.unpurged hpurged)
    cases hr.symm.trans href
    exact hrefers

end Candidates

/-! ### The condition, and every step -/

/-- The replacement that a step reserves. -/
def SecretAction.replacement? : SecretAction → Option SecretInput
  | .beginReplace x _ => some x
  | _ => none

/-- A secret is not moved to the path of another active parameter. -/
def SecretAction.MovesFree (w : SecretState) (a : SecretAction) : Prop :=
  ∀ x ∈ a.replacement?, ∀ i p, w.tables.parameters.lookup i = some p →
    (p.workspaceId = x.workspaceId ∧ p.publicId = x.publicId) →
    ∀ j q, w.tables.parameters.lookup j = some q →
      (q.workspaceId = p.workspaceId ∧ q.path = x.path ∧ q.archivedAt = none) → j = i
deriving Decidable

/-- The condition: what is bound is ready, and secrets are moved to free paths. -/
def KeepsClosable (w : SecretState) (a : SecretAction) : Prop := a.BindsReady w ∧ a.MovesFree w
deriving Decidable

section Runs

variable {w : SecretState} {policy : PublicationPolicy} {timeout : Time}

theorem Recoverable.obeys (h : Recoverable w) {a : SecretAction} (ha : a.MovesFree w) :
    a.Obeys (orderlyRules w.kv) w where
  value text := ⟨rfl, text, rfl⟩
  reference workspaceId publicId := ⟨"workspaces/" ++ workspaceId ++ "/parameters/", rfl⟩
  path x resourceVersion := by
    rintro rfl i p hp hws hid p' hp' j q hq hother
    cases hp.symm.trans hp'
    exact ha x rfl i p hp ⟨hws, hid⟩ j q hq hother
  completed m hm := h.completed hm

/-- Steps of the rest of the store. -/
theorem Recoverable.store (policy) (timeout : Time) (h : Recoverable w)
    (a : Action) (ha : (SecretAction.store a).BindsReady w) :
    Recoverable (w.step policy timeout (.store a)) := by
  have hc : Change (orderlyRules w.kv) w.tables (w.step policy timeout (.store a)).tables :=
    .same (step_tables policy w.store a)
  refine h.grow (h.orderly.change hc) (.change h.orderly.history hc) (h.reached.change h.orderly hc)
    (fun k x hx => ?_) rfl
  cases step_bindings policy w.store (a.keepParameters w.db) with
  | kept _ hbound =>
    left
    rw [← hbound]
    exact hx
  | stored _ i v _ _ hbindings _ _ _ _ hbinds hbound =>
    rw [Action.bindings?_keepParameters] at hbindings
    rcases hbound k x hx with hx | ⟨b, hb, _, j, _, v, hbinds, hlive, rfl, hversion⟩
    · exact .inl hx
    · have hready := (ha _ hbindings b hb).of_bindsTo hbinds hlive
      exact .inr ⟨j, v, hbinds.row, hbinds.parameterId, hversion.symm, by rw [hready]; decide⟩

/-- **Every step keeps pending versions closable.** -/
theorem Recoverable.step (h : Recoverable w) (a : SecretAction) (ha : KeepsClosable w a) :
    Recoverable (w.step policy timeout a) := by
  have hobeys := h.obeys ha.2
  have hchanged := w.changed_step policy timeout h.orderly.history a hobeys
  cases a with
  | store b => exact h.store policy timeout b ha.1
  | createParameter | replaceParameter | archiveParameter =>
    rcases hchanged rfl with ⟨_, hb⟩ | hc
    · cases hb
    · exact h.changed hc rfl
  | beginCreate =>
    dsimp only [SecretState.step]
    split
    · exact h
    · exact h.begun fun m existing t ht => ⟨beginCreateSecretParameter_change ht
        (hobeys.reference _ _), beginCreateSecretParameter_describes ht⟩
  | beginReplace x resourceVersion =>
    exact h.begun fun m existing t ht => ⟨beginReplaceSecretParameter_change ht
      (hobeys.path x resourceVersion rfl), beginReplaceSecretParameter_describes ht⟩
  | listPending =>
    dsimp only [SecretState.step]
    split
    · next ms hms =>
      refine h.addIssued ms fun m hm => ?_
      obtain ⟨_, _, hv, hd, -⟩ := listPendingSecretMutations_eq_ok hms hm
      exact h.orderly.issued hv hd
    · exact h
  | put m value =>
    dsimp only [SecretState.step]
    split
    · next hm => exact h.put hm value
    · exact h
  | inspect m =>
    dsimp only [SecretState.step, SecretState.inspect]
    split
    · next hm =>
      split
      · next hcurrent => exact h.addWritten hm (Nat.le_of_eq hcurrent.symm)
      · split
        · exact ⟨h.orderly, h.bound, h.reached, h.ahead, h.issued, h.written, h.listed⟩
        · exact h
    · exact h
  | complete m | abandon m =>
    rcases hchanged rfl with ⟨_, hb⟩ | hc
    · cases hb
    · refine h.changed hc ?_
      dsimp only [SecretState.step]
      split <;> rfl
  | listCandidates =>
    refine ⟨h.orderly, h.bound, h.reached, h.ahead, h.issued, h.written, fun c hc => ?_⟩
    rcases List.mem_append.mp hc with hc | hc
    · obtain ⟨p, hp, hcandidate, hkind, href⟩ := mem_parameterPurgeCandidates hc
      refine ⟨p, hp, hcandidate.1, fun hsecret hne => ?_⟩
      rw [href] at hne ⊢
      exact h.orderly.refersTo_maxReference hp (hkind.symm.trans hsecret) hcandidate.2.1 hne
    · exact h.listed c hc
  | deleteSecret c =>
    dsimp only [SecretState.step]
    split
    · next hc =>
      obtain ⟨p, hp, harchived, href⟩ := h.listed c hc.1
      exact h.deleteSecret ⟨c.parameterId, p, hp, href hc.2.1 hc.2.2, harchived⟩
    · exact h
  | markParameterPurged c =>
    dsimp only [SecretState.step]
    split
    · exact h.markParameterPurged c.parameterId
    · exact h

theorem NoParameters.orderly {t : Tables} (h : NoParameters t) : Orderly t := by
  have hhistory := h.history
  obtain ⟨_, _, _, _⟩ := t
  obtain ⟨rfl, rfl, rfl⟩ := h
  refine ⟨hhistory, ⟨⟨Nat.le_refl 1, rfl⟩, ?_, ?_, ?_, ?_⟩, ?_, ?_, ?_⟩ <;>
    · intros
      simp_all

theorem recoverable_of_initial (h : w.Initial) : Recoverable w := by
  have hnone : NoParameters w.tables := ⟨h.parameters, h.versions, h.reservations⟩
  refine ⟨hnone.orderly, fun k x hx => ?_, fun j v p r hv => ?_, fun r n hn => ?_, ?_, ?_, ?_⟩
  · rw [h.store.boundParameters] at hx
    cases hx
  · rw [hnone.versions] at hv
    cases hv
  · rw [h.kv, VersionedMap.current_empty] at hn
    cases hn
  · rw [h.issued]
    exact nofun
  · rw [h.written]
    exact nofun
  · rw [h.listed]
    exact nofun

end Runs

/-! ### One call of the worker -/

/-- What one call does. -/
inductive Pass (w : SecretState) : SecretState → Prop
  | completed {m : SecretMutation} {j : ℕ} {v : ParameterVersion} {path description : String}
      (hv : w.db.versions.lookup j = some v) (hpending : v.valueState = .pending)
      (hm : m.Names v)
      (hc : Change (orderlyRules w.kv) w.tables
        (completeTables w.store.now w.tables m path description)) :
      Pass w { w with store := { w.store with
        db := putTables w.db (completeTables w.store.now w.tables m path description) } }
  | abandoned {m : SecretMutation} {j : ℕ} {v : ParameterVersion}
      (hv : w.db.versions.lookup j = some v) (hpending : v.valueState = .pending)
      (hm : m.Names v) :
      Pass w { w with store := { w.store with db := putTables w.db (abandonTables w.tables m) } }
  | purged {kv : VersionedMap String String} {i : ℕ} {p : Parameter}
      (hp : w.db.parameters.lookup i = some p) (hc : PurgeCandidate w.store.now w.db i p)
      (hkv : kv = w.kv ∨ ∃ reference, kv = w.kv.delete reference ∧ Retired w.tables reference) :
      Pass w { w with kv := kv, store := { w.store with
        db := putTables w.db (purgeTables w.store.now w.tables i) } }
  | rested (hidle : ∀ j v, w.db.versions.lookup j = some v → v.valueState ≠ .pending)
      (hnone : ∀ i p, w.db.parameters.lookup i = some p →
        ¬ PurgeCandidate w.store.now w.db i p) : Pass w w

section Worker

variable {w w' : SecretState} {timeout : Time}

/-- A listing of candidates shows one if there is one. -/
theorem parameterPurgeCandidates_ne_nil {now : Time} {db : Db} {limit : ℕ}
    (hp : db.parameters.lookup i = some p) (hc : PurgeCandidate now db i p) :
    parameterPurgeCandidates now db (limit + 1) ≠ [] := by
  intro hnil
  -- the ids that are listed
  have hids : listParameterPurgeCandidates now db (limit + 1) = [] := by
    rw [List.eq_nil_iff_forall_not_mem]
    intro k hk
    obtain ⟨⟨k', q⟩, hmem, rfl⟩ := List.mem_map.mp hk
    have hsel := (List.perm_insertionSort _ _).subset (List.take_subset _ _ hmem)
    obtain ⟨hq, -⟩ := mem_select.mp hsel
    have hlisted : (⟨k', q.kind, maxReference db k'⟩ : ParameterPurgeCandidate) ∈
        parameterPurgeCandidates now db (limit + 1) := by
      refine List.mem_filterMap.mpr ⟨k', hk, ?_⟩
      rw [hq]
      rfl
    rw [hnil] at hlisted
    cases hlisted
  simp only [listParameterPurgeCandidates, List.map_eq_nil_iff, List.take_eq_nil_iff,
    Nat.succ_ne_zero, false_or] at hids
  have hmem := (List.perm_insertionSort (fun x y : ℕ × Parameter =>
    x.2.purgeAfter.getD 0 < y.2.purgeAfter.getD 0 ∨
      (x.2.purgeAfter.getD 0 = y.2.purgeAfter.getD 0 ∧ x.1 ≤ y.1))
    (db.parameters.select (PurgeCandidate now db))).symm.subset (mem_select.mpr ⟨hp, hc⟩)
  rw [hids] at hmem
  cases hmem

/-- The candidates are purged one after the other. -/
theorem Recoverable.pass_purgeFirst (h : Recoverable w)
    (hidle : ∀ j v, w.db.versions.lookup j = some v → v.valueState ≠ .pending) :
    Pass w (purgeFirst w) := by
  unfold purgeFirst
  split
  · next hnil =>
    exact .rested hidle fun i p hp hc => parameterPurgeCandidates_ne_nil hp hc hnil
  · next c rest hlist =>
    obtain ⟨p, hp, hc, hkind, href⟩ :=
      mem_parameterPurgeCandidates (hlist ▸ List.mem_cons_self (a := c) (l := rest))
    have hok := h.orderly.markParameterPurged_isOk w.store.now hp hc.1 hc.2.1
    rw [hok]
    split
    · next hsecret =>
      -- the secret of a candidate has a reference
      obtain ⟨j, v, hv, hvi⟩ := any_iff.mp hc.2.2.2.1
      have hrow := h.orderly.rows.row j v p hv (hvi ▸ hp)
      obtain ⟨⟨_, hr, pre, rfl⟩, -⟩ :=
        hrow.secret (hkind.symm.trans hsecret) (hrow.unpurged hc.2.1)
      have hne : pre ++ p.publicId ≠ "" := by
        intro hempty
        have hlength := congrArg (fun s : String => s.toList.length) hempty
        have hvalid := (h.orderly.rows.valid _ p hp).2.1
        simp only [String.toList_append, List.length_append, hvalid, String.toList_empty,
          List.length_nil] at hlength
        omega
      have hmax := maxReference_ne_empty (mem_references.mpr ⟨j, v, hv, hvi, hr⟩) hne
      rw [if_neg (href ▸ hmax)]
      refine .purged hp hc (.inr ⟨c.secretReference, rfl, c.parameterId, p, hp, ?_, hc.1⟩)
      rw [href]
      exact h.orderly.refersTo_maxReference hp (hkind.symm.trans hsecret) hc.2.1 hmax
    · exact .purged hp hc (.inl rfl)

/-- The entry of a pending version is at one of two versions. -/
theorem Recoverable.current_eq (h : Recoverable w) (hv : w.db.versions.lookup j = some v)
    (hpending : v.valueState = .pending) (hm : Describes w.tables m v) :
    w.kv.current m.reference = m.backendVersion ∨
      w.kv.current m.reference = m.expectedBackendVersion := by
  obtain ⟨p, hp, hlive, hkind, hrefers, _, _, -⟩ :=
    h.orderly.describes hv hpending hm
  have hlower := h.reached j v p m.reference hv (hm.parameterId ▸ hp) hlive hkind hm.reference
  have hupper : w.kv.current m.reference ≤ Parameters.settled p + 1 := by
    cases hn : w.kv.current m.reference with
    | zero => exact Nat.zero_le _
    | succ n =>
      rcases h.ahead m.reference n hn with rfl | ⟨_, _, hq, hrefers', hle⟩
      · exact Nat.succ_le_succ (Nat.zero_le _)
      · obtain rfl := h.orderly.eq_of_refersTo hp hq hrefers hrefers'
        cases hp.symm.trans hq
        exact Nat.succ_le_succ hle
  omega

/-- **A call closes a mutation, or purges a parameter, or there is nothing to do.** -/
theorem Recoverable.pass (h : Recoverable w) (ht : TimedOut timeout w) :
    Pass w (runOnce timeout w) := by
  obtain ⟨ms, hms, hne⟩ := h.orderly.listPendingSecretMutations_isOk 19
  unfold runOnce
  rw [hms]
  cases ms with
  | nil =>
    refine h.pass_purgeFirst fun j v hv hpending => ?_
    exact hne v.parameterId (hasPendingVersion_iff.mpr ⟨j, v, hv, rfl, hpending⟩) rfl
  | cons m rest =>
    obtain ⟨j, v, hv, hm, hpending, hcreated⟩ :=
      listPendingSecretMutations_eq_ok hms List.mem_cons_self
    have hnames : m.Names v := ⟨hm.parameterId, hm.version⟩
    have htime : m.createdAt + timeout ≤ w.store.now := by
      rw [hcreated]
      exact ht j v hv hpending
    dsimp only [recoverMutation]
    split
    · next hcurrent =>
      obtain ⟨_, _, _, hok⟩ :=
        h.orderly.completeSecretMutation_isOk w.store.now hv hpending hnames
      rw [hok]
      refine .completed hv hpending hnames (completeSecretMutation_change hok ?_)
      intro k x reference hx hxm _ hr
      have hissued := h.orderly.issued hv hm
      obtain rfl := hissued.reference k x reference hx hxm.1 hr
      exact Nat.le_of_eq (hissued.version.trans hcurrent.symm)
    · next hcurrent =>
      rcases h.current_eq hv hpending hm with hbackend | hexpected
      · exact absurd hbackend hcurrent
      have hbound : ¬ BoundVersion w.db m.parameterId m.parameterVersion := by
        intro hbound
        obtain ⟨k, x, hx, hxi, hxv⟩ := any_iff.mp hbound
        obtain ⟨_, _, hy, hyi, hyv, hsettled⟩ := h.bound k x hx
        obtain rfl := h.orderly.history.eq_of_names hv hnames hy
          ⟨hyi.trans hxi, hyv.trans hxv⟩
        cases hv.symm.trans hy
        exact hsettled hpending
      rw [if_pos ⟨hexpected, htime⟩, h.orderly.abandonSecretMutation_isOk hv hpending hnames hbound]
      exact .abandoned hv hpending hnames

/-- **A call keeps pending versions closable.** -/
theorem Recoverable.of_pass (h : Recoverable w) (hp : Pass w w') : Recoverable w' := by
  cases hp with
  | completed _ _ _ hc => exact h.changed ⟨_, hc, rfl⟩ rfl
  | abandoned hv hpending hm => exact h.changed ⟨_, .abandon hv hm hpending, rfl⟩ rfl
  | purged hp hc hkv =>
    rcases hkv with rfl | ⟨_, rfl, hretired⟩
    · exact h.purge hp hc.1 hc.2.1
    · exact (h.deleteSecret hretired).purge hp hc.1 hc.2.1
  | rested => exact h

/-! ### What calls leave -/

/-- A pending version was pending before. -/
theorem Pass.pending (hp : Pass w w') (hv : w'.db.versions.lookup j = some v)
    (hpending : v.valueState = .pending) :
    w.db.versions.lookup j = some v := by
  cases hp with
  | completed | purged =>
    obtain ⟨_, hx, ⟨-, rfl⟩ | ⟨-, rfl⟩⟩ := lookup_modify_eq_some.mp hv
    · cases hpending
    · exact hx
  | abandoned => exact (lookup_delete_eq_some.mp hv).1
  | rested => exact hv

/-- A call takes no time. -/
theorem Pass.now (hp : Pass w w') : w'.store.now = w.store.now := by
  cases hp <;> rfl

/-- The mutation of a pending version is not that of an archived parameter. -/
theorem Recoverable.ne_of_archived (h : Recoverable w) (hv : w.db.versions.lookup j = some v)
    (hpending : v.valueState = .pending) (hm : m.Names v) (hp : w.db.parameters.lookup i = some p)
    (harchived : p.archivedAt ≠ none) :
    i ≠ m.parameterId := by
  rintro rfl
  exact harchived ((h.orderly.rows.row j v p hv (hm.1 ▸ hp)).pending hpending).1

/-- The parameter is purged. -/
def Purged (w : SecretState) (i : ℕ) : Prop :=
  ∃ q, w.db.parameters.lookup i = some q ∧ q.valueState = .purged ∧ q.purgedAt ≠ none

theorem Purged.pass (hi : Purged w i) (h : Recoverable w) (hp : Pass w w') :
    Purged w' i := by
  obtain ⟨q, hq, hstate, hpurged⟩ := hi
  have harchived := h.orderly.rows.purged i q hq hpurged
  cases hp with
  | completed hv hpending hm =>
    exact ⟨q, lookup_modify_of_neg hq (h.ne_of_archived hv hpending hm hq harchived), hstate,
      hpurged⟩
  | abandoned =>
    exact ⟨q, lookup_delete_eq_some.mpr ⟨hq, fun hdel => nomatch hstate.symm.trans hdel.2⟩,
      hstate, hpurged⟩
  | purged => exact ⟨q, lookup_modify_of_neg hq fun hQ => hpurged hQ.2.2, hstate, hpurged⟩
  | rested => exact ⟨q, hq, hstate, hpurged⟩

/-- The parameter is due for purging. -/
def Due (w : SecretState) (i : ℕ) : Prop :=
  ∃ p, w.db.parameters.lookup i = some p ∧ PurgeCandidate w.store.now w.db i p

/-- A candidate is purged, or stays one. -/
theorem Due.pass (hi : Due w i) (h : Recoverable w) (hp : Pass w w') :
    Due w' i ∨ Purged w' i := by
  obtain ⟨q, hq, hcandidate⟩ := hi
  obtain ⟨harchived, hunpurged, htime, hversion, hbound⟩ := hcandidate
  obtain ⟨k, x, hx, hxi⟩ := any_iff.mp hversion
  cases hp with
  | completed hv hpending hm =>
    have hne := h.ne_of_archived hv hpending hm hq harchived
    refine .inl ⟨q, lookup_modify_of_neg hq hne, harchived, hunpurged, htime,
      any_iff.mpr ⟨k, x, lookup_modify_of_neg hx fun hnames => ?_, hxi⟩, hbound⟩
    exact hne (hxi.symm.trans hnames.1)
  | abandoned hv hpending hm =>
    have hne := h.ne_of_archived hv hpending hm hq harchived
    refine .inl ⟨q, lookup_delete_eq_some.mpr ⟨hq, fun hdel => hne hdel.1⟩, harchived,
      hunpurged, htime, any_iff.mpr ⟨k, x, lookup_delete_eq_some.mpr
        ⟨hx, fun hnames => ?_⟩, hxi⟩, hbound⟩
    exact hne (hxi.symm.trans hnames.1.1)
  | @purged _ l _ _ _ _ =>
    by_cases hl : i = l
    · subst hl
      exact .inr ⟨_, lookup_modify_of_pos hq ⟨rfl, harchived, hunpurged⟩, rfl, nofun⟩
    · refine .inl ⟨q, lookup_modify_of_neg hq fun hQ => hl hQ.1, harchived, hunpurged, htime,
        any_iff.mpr ⟨k, x, lookup_modify_of_neg hx fun hxl => ?_, hxi⟩, hbound⟩
      exact hl (hxi.symm.trans hxl)
  | rested => exact .inl ⟨q, hq, harchived, hunpurged, htime, hversion, hbound⟩

/-- What there is to do: pending versions, and archived parameters that are not purged. -/
def workload (w : SecretState) : ℕ :=
  (w.db.versions.select fun _ v => v.valueState = .pending).length +
    (w.db.parameters.select fun _ p => p.archivedAt ≠ none ∧ p.purgedAt = none).length

/-- **A call that does something leaves less to do.** -/
theorem Pass.workload_lt (hp : Pass w w') : workload w' < workload w ∨
    (w' = w ∧ (∀ j v, w.db.versions.lookup j = some v → v.valueState ≠ .pending) ∧
      ∀ i, ¬ Due w i) := by
  cases hp with
  | completed hv hpending hm =>
    dsimp only [workload, SecretState.db, putTables, completeTables]
    refine .inl (Nat.add_lt_add_of_lt_of_le (length_select_modify_lt rfl ?_ hv hm hpending ?_)
      (length_select_modify_le rfl ?_))
    · exact fun _ _ _ _ => nofun
    · exact nofun
    · exact fun _ _ _ _ h => h
  | abandoned hv hpending hm =>
    refine .inl (Nat.add_lt_add_of_lt_of_le (length_select_lt (fun k x hx hx' => ?_) hv
      hpending fun r hr _ => ?_) (length_select_le fun k q hq hq' => ?_))
    · exact ⟨x, (lookup_delete_eq_some.mp hx).1, hx'⟩
    · obtain ⟨hr, hkept⟩ := lookup_delete_eq_some.mp hr
      cases hv.symm.trans hr
      exact hkept ⟨hm, hpending⟩
    · exact ⟨q, (lookup_delete_eq_some.mp hq).1, hq'⟩
  | purged hp hc =>
    dsimp only [workload, SecretState.db, putTables, purgeTables]
    refine .inl (Nat.add_lt_add_of_le_of_lt (length_select_modify_le rfl ?_)
      (length_select_modify_lt rfl ?_ hp ⟨rfl, hc.1, hc.2.1⟩ ⟨hc.1, hc.2.1⟩ ?_))
    · exact fun _ _ _ _ => nofun
    · exact fun _ _ _ hQ _ => hQ.2
    · exact fun hn => nomatch hn.2
  | rested hidle hnone => exact .inr ⟨rfl, hidle, fun i ⟨p, hp, hc⟩ => hnone i p hp hc⟩

end Worker

/-! ### What happens between calls -/

section Between

variable {w w' : SecretState} {policy : PublicationPolicy} {timeout : Time}

/-- Time passes, and parameters and bindings stay. -/
structure Uneventful (w w' : SecretState) : Prop where
  now : w.store.now ≤ w'.store.now
  parameters : w'.db.parameters = w.db.parameters
  versions : w'.db.versions = w.db.versions
  bound : w'.db.boundParameters = w.db.boundParameters

/-- What happens between two calls leaves the work as it is. -/
theorem Recoverable.between (policy) (timeout : Time) (h : Recoverable w)
    {gap : List Action} (hgap : ∀ a ∈ gap, a.bindings? = none) :
    Recoverable (between policy timeout w gap) ∧ Uneventful w (between policy timeout w gap) := by
  induction gap generalizing w with
  | nil => exact ⟨h, Nat.le_refl _, rfl, rfl, rfl⟩
  | cons a _ ih =>
    have ha := hgap a List.mem_cons_self
    have hready : (SecretAction.store a).BindsReady w := by
      intro x hx
      rw [show (SecretAction.store a).bindings? = none from ha] at hx
      cases hx
    have hsame := step_tables policy w.store a
    obtain ⟨hrest, hnow, hparameters, hversions, hbound⟩ :=
      ih (h.store policy timeout a hready)
        fun b hb => hgap b (List.mem_cons_of_mem a hb)
    refine ⟨hrest, Nat.le_trans (now_le_step policy w.store _) hnow, hparameters.trans hsame.1,
      hversions.trans hsame.2.1, hbound.trans ?_⟩
    cases step_bindings policy w.store (a.keepParameters w.db) with
    | kept _ hbound => exact hbound
    | stored _ _ _ _ _ hbindings =>
      rw [Action.bindings?_keepParameters, ha] at hbindings
      cases hbindings

theorem Uneventful.timedOut (hq : Uneventful w w') (ht : TimedOut timeout w) :
    TimedOut timeout w' :=
  fun j v hv hpending => Nat.le_trans (ht j v (hq.versions ▸ hv) hpending) hq.now

theorem Uneventful.due (hq : Uneventful w w') (hi : Due w i) : Due w' i := by
  obtain ⟨p, hp, harchived, hunpurged, ⟨at_, hat, hle⟩, hversion, hbound⟩ := hi
  exact ⟨p, hq.parameters ▸ hp, harchived, hunpurged, ⟨at_, hat, Nat.le_trans hle hq.now⟩,
    hq.versions ▸ hversion, hq.bound ▸ hbound⟩

theorem Uneventful.workload (hq : Uneventful w w') : workload w' = workload w := by
  rw [Store.workload, Store.workload, hq.versions, hq.parameters]

theorem Pass.timedOut (hp : Pass w w') (ht : TimedOut timeout w) : TimedOut timeout w' := by
  intro j v hv hpending
  rw [hp.now]
  exact ht j v (hp.pending hv hpending) hpending

/-- What neither calls nor what happens between them undoes. -/
theorem calls_induction {P : SecretState → Prop} (hquiet : ∀ w w', Uneventful w w' → P w → P w')
    (hpass : ∀ w w', Recoverable w → Pass w w' → P w → P w') {gaps : List (List Action)}
    (hgaps : ∀ gap ∈ gaps, ∀ a ∈ gap, a.bindings? = none) (h : Recoverable w)
    (ht : TimedOut timeout w) (hw : P w) : P (calls policy timeout w gaps) := by
  induction gaps generalizing w with
  | nil => exact hw
  | cons gap _ ih =>
    obtain ⟨hbetween, hq⟩ := h.between policy timeout (hgaps gap List.mem_cons_self)
    have hp := hbetween.pass (hq.timedOut ht)
    exact ih (fun g hg => hgaps g (List.mem_cons_of_mem gap hg)) (hbetween.of_pass hp)
      (hp.timedOut (hq.timedOut ht)) (hpass _ _ hbetween hp (hquiet _ _ hq hw))

/-- **Enough calls settle everything.** -/
theorem settled_calls {gaps : List (List Action)}
    (hgaps : ∀ gap ∈ gaps, ∀ a ∈ gap, a.bindings? = none) (h : Recoverable w)
    (ht : TimedOut timeout w) (hle : workload w ≤ gaps.length) :
    Settled w (calls policy timeout w gaps) := by
  induction gaps generalizing w with
  | nil =>
    obtain ⟨hversions, hparameters⟩ := Nat.add_eq_zero_iff.mp (Nat.le_zero.mp hle)
    rw [List.length_eq_zero_iff] at hversions hparameters
    refine ⟨fun j v r hv hpending _ => ?_, fun i p hp hc => ?_⟩
    · have hmem : (j, v) ∈ w.db.versions.select fun _ v => v.valueState = .pending :=
        mem_select.mpr ⟨hv, hpending⟩
      rw [hversions] at hmem
      cases hmem
    · have hmem : (i, p) ∈ w.db.parameters.select
          fun _ p => p.archivedAt ≠ none ∧ p.purgedAt = none :=
        mem_select.mpr ⟨hp, hc.1, hc.2.1⟩
      rw [hparameters] at hmem
      cases hmem
  | cons gap gaps ih =>
    have hrest := fun g hg => hgaps g (List.mem_cons_of_mem gap hg)
    obtain ⟨hbetween, hq⟩ := h.between policy timeout (hgaps gap List.mem_cons_self)
    have htime := hq.timedOut ht
    have hp := hbetween.pass htime
    have hnext := hbetween.of_pass hp
    have htime' := hp.timedOut htime
    change Settled w (calls policy timeout (runOnce timeout (between policy timeout w gap)) gaps)
    rcases hp.workload_lt with hlt | ⟨hsame, hidle, hnone⟩
    · rw [hq.workload] at hlt
      have hsettled := ih hrest hnext htime' (by rw [List.length_cons] at hle; omega)
      refine ⟨hsettled.closed, fun i p hi hc => ?_⟩
      rcases (hq.due ⟨p, hi, hc⟩).pass hbetween hp with ⟨q, hq', hc'⟩ | hpurged
      · exact hsettled.purged i q hq' hc'
      · exact calls_induction (P := fun w => Purged w i)
          (fun _ _ hq hi => by obtain ⟨q, hl, hrest⟩ := hi; exact ⟨q, hq.parameters ▸ hl, hrest⟩)
          (fun _ _ h hp hi => hi.pass h hp) hrest hnext htime' hpurged
    · -- there was nothing to do, and nothing comes up later
      have hclosed : ∀ j v, (calls policy timeout (runOnce timeout (between policy timeout w gap))
          gaps).db.versions.lookup j = some v → v.valueState ≠ .pending :=
        calls_induction (P := fun w => ∀ j v, w.db.versions.lookup j = some v →
            v.valueState ≠ .pending)
          (fun _ _ hq hidle j v hv => hidle j v (hq.versions ▸ hv))
          (fun _ _ _ hp hidle j v hv hpending => hidle j v (hp.pending hv hpending) hpending)
          hrest hnext htime' (by rw [hsame]; exact hidle)
      exact ⟨fun j v r hv hpending _ => absurd hpending (hclosed j v hv),
        fun i p hi hc => absurd (hq.due ⟨p, hi, hc⟩) (hnone i)⟩

end Between

/-- **Mutations resolve, if what is bound is ready and secrets are moved to free paths.** -/
theorem resolves_of_keepsClosable (policy : PublicationPolicy) (timeout : Time) (w : SecretState)
    (hw : w.Initial) (acts : List SecretAction)
    (hg : Guarded (SecretState.step policy timeout) KeepsClosable w acts)
    (ht : TimedOut timeout (run (SecretState.step policy timeout) w acts)) :
    Resolves policy timeout (run (SecretState.step policy timeout) w acts) := by
  have h : Recoverable (run (SecretState.step policy timeout) w acts) :=
    guarded_run_induction (recoverable_of_initial hw) (fun _ a h ha => h.step a ha) hg
  exact ⟨workload _, fun gaps hle hgaps => settled_calls hgaps h ht hle⟩

/-! ### A worker that is blocked -/

section Blocked

variable {timeout : Time} {w : SecretState}

/-- The first mutation that is listed is due, but the transaction that would close it is refused. -/
def Blocked (timeout : Time) (w : SecretState) : Prop :=
  ∃ ms ∈ (listPendingSecretMutations w.tables 20).toOption, ∃ m ∈ ms.head?,
    (w.kv.current m.reference = m.backendVersion ∧
      (completeSecretMutation w.store.now w.tables m m.backendVersion).isOk = false) ∨
    (w.kv.current m.reference ≠ m.backendVersion ∧
      w.kv.current m.reference = m.expectedBackendVersion ∧
      m.createdAt + timeout ≤ w.store.now ∧ (abandonSecretMutation w.db m).isOk = false)
deriving Decidable

/-- **A worker that is blocked does nothing at all.** -/
theorem Blocked.runOnce_eq (h : Blocked timeout w) : runOnce timeout w = w := by
  obtain ⟨_, hms, m, hm, hrefused⟩ := h
  obtain ⟨_, rfl⟩ := List.head?_eq_some_iff.mp hm
  unfold runOnce
  rw [toOption_eq_some.mp hms]
  dsimp only [recoverMutation]
  rcases hrefused with ⟨hcurrent, hrefused⟩ | ⟨hne, hcurrent, htime, hrefused⟩
  · rw [if_pos hcurrent]
    cases hx : completeSecretMutation w.store.now w.tables m m.backendVersion with
    | error => rfl
    | ok =>
      rw [hx] at hrefused
      cases hrefused
  · rw [if_neg hne, if_pos ⟨hcurrent, htime⟩]
    cases hx : abandonSecretMutation w.db m with
    | error => rfl
    | ok =>
      rw [hx] at hrefused
      cases hrefused

/-- However often it is called. -/
theorem Blocked.calls_eq (h : Blocked timeout w) (policy) (n : ℕ) :
    calls policy timeout w (List.replicate n []) = w := by
  induction n with
  | zero => rfl
  | succ _ ih =>
    rw [List.replicate_succ, calls, List.foldl_cons, show between policy timeout w [] = w from rfl,
      h.runOnce_eq]
    exact ih

theorem Blocked.not_resolves (h : Blocked timeout w) (policy) :
    ¬ Resolves policy timeout w := by
  rintro ⟨N, hN⟩
  have hsettled := hN (List.replicate N []) (by simp) fun gap hgap a ha => by
    rw [List.eq_of_mem_replicate hgap] at ha
    cases ha
  rw [h.calls_eq policy N] at hsettled
  obtain ⟨_, hms, m, hm, hrefused⟩ := h
  obtain ⟨_, rfl⟩ := List.head?_eq_some_iff.mp hm
  obtain ⟨j, v, hv, hd, hpending, -⟩ :=
    listPendingSecretMutations_eq_ok (toOption_eq_some.mp hms) List.mem_cons_self
  obtain ⟨hbackend, hexpected⟩ := hsettled.closed j v m.reference hv hpending hd.reference
  rcases hrefused with ⟨hcurrent, -⟩ | ⟨-, hcurrent, -⟩
  · exact hbackend (by rw [hcurrent]; exact hd.backend)
  · exact hexpected (by rw [hcurrent]; exact hd.expected)

end Blocked

/-! ### Three runs -/

/-- One secret was written but not completed, another one was never written, and a text is archived
and due. -/
def leftoverRun : List SecretAction :=
  [.beginCreate (passwordInput "zero" "k0"), .put firstPassword "zero",
    .beginCreate { passwordInput "one" "k1" with
      publicId := "par-bbbbbbbbbbbbbbbbbbbb", path := "/db/token" },
    .createParameter 1 1 "par-cccccccccccccccccccc" "/greeting" "" "hello",
    .archiveParameter 1 "par-cccccccccccccccccccc" 1 0, .store (.tick 60)]

theorem resolves_leftoverRun :
    (smallSecrets.Initial ∧ Guarded (SecretState.step smallPolicy 60) KeepsClosable
      smallSecrets leftoverRun ∧
      TimedOut 60 (run (SecretState.step smallPolicy 60) smallSecrets leftoverRun)) ∧
    Resolves smallPolicy 60
      (run (SecretState.step smallPolicy 60) smallSecrets leftoverRun) :=
  ⟨⟨smallSecrets_initial, by decide +kernel, by decide +kernel⟩,
    resolves_of_keepsClosable smallPolicy 60 smallSecrets smallSecrets_initial leftoverRun
      (by decide +kernel) (by decide +kernel)⟩

-- three calls do it: a completion, an abandonment and a purge
example : ((calls smallPolicy 60 (run (SecretState.step smallPolicy 60) smallSecrets
    leftoverRun) [[], [], []]).db.parameters.rows.map fun x => (x.1, x.2.valueState)) =
      [(1, .ready), (3, .purged)] := by
  decide +kernel

/-- A text that is archived and due. -/
def dueGreeting : List SecretAction :=
  [.createParameter 1 1 "par-cccccccccccccccccccc" "/greeting" "" "hello",
    .archiveParameter 1 "par-cccccccccccccccccccc" 1 0]

/-- An environment binds a pending version, which is never written. -/
def boundRun : List SecretAction :=
  dueGreeting ++ [.beginCreate (passwordInput "zero" "k0"),
    .store (.createAppEnvironment (boundEnvironment [passwordBinding])), .store (.tick 60)]

/-- A secret is moved to the path of a parameter that is there, and its next version is written. -/
def movedRun : List SecretAction :=
  dueGreeting ++ [.createParameter 1 1 "par-bbbbbbbbbbbbbbbbbbbb" "/db/user" "" "root",
    .beginCreate { passwordInput "zero" "k0" with publicId := "par-dddddddddddddddddddd" },
    .listPending, .put ⟨3, "par-dddddddddddddddddddd", 1, 1, 1,
      "workspaces/wsp-one/parameters/par-dddddddddddddddddddd", 0, 1, .pending, 0⟩ "zero",
    .complete ⟨3, "par-dddddddddddddddddddd", 1, 1, 1,
      "workspaces/wsp-one/parameters/par-dddddddddddddddddddd", 0, 1, .pending, 0⟩,
    .beginReplace { passwordInput "one" "k1" with
      publicId := "par-dddddddddddddddddddd", path := "/db/user" } 1,
    .put ⟨3, "par-dddddddddddddddddddd", 1, 2, 1,
      "workspaces/wsp-one/parameters/par-dddddddddddddddddddd", 1, 2, .pending, 0⟩ "one",
    .store (.tick 60)]

/-- **One mutation that cannot be closed stops the worker**: the first run ends with a version that
is bound, the second with a path that is taken. In both a text is due for purging, and stays. -/
theorem not_resolves_blockedRuns :
    smallSecrets.Initial ∧
    (∀ acts ∈ [boundRun, movedRun],
      TimedOut 60 (run (SecretState.step smallPolicy 60) smallSecrets acts) ∧
      (∃ p ∈ (run (SecretState.step smallPolicy 60) smallSecrets
        acts).db.parameters.lookup 1, PurgeCandidate 60 (run
          (SecretState.step smallPolicy 60) smallSecrets acts).db 1 p) ∧
      ¬ Resolves smallPolicy 60
        (run (SecretState.step smallPolicy 60) smallSecrets acts)) := by
  refine ⟨smallSecrets_initial, fun acts hacts => ?_⟩
  simp only [List.mem_cons, List.not_mem_nil, or_false] at hacts
  rcases hacts with rfl | rfl
  · have hblocked : Blocked 60
        (run (SecretState.step smallPolicy 60) smallSecrets boundRun) := by
      decide +kernel
    exact ⟨by decide +kernel, by decide +kernel, hblocked.not_resolves smallPolicy⟩
  · have hblocked : Blocked 60
        (run (SecretState.step smallPolicy 60) smallSecrets movedRun) := by
      decide +kernel
    exact ⟨by decide +kernel, by decide +kernel, hblocked.not_resolves smallPolicy⟩

end Molejo.Store
