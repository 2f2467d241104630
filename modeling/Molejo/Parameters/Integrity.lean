import Molejo.Parameters.Rows

/-!
# Integrity of secret values

A ready version row promises a value: the one submitted by the request that
reserved it. This file says when the promise is kept.

It is not kept always. A mutation is named by its parameter and version number,
and both closing transactions trust that name. If a request stalls long enough for
the recovery worker to abandon its reservation, a second request may reserve *the
same version of the same parameter*, and expects the same backend version. When the
stalled write then lands, it satisfies the comparison, and whichever party completes
the mutation next makes the second request's row ready over the first request's
value. The same happens when the write lands between the worker's reading of the
current version and its abandonment. `StaleWrite` and `LateAbandon` name these two
steps, and they are all that can go wrong: a run that takes neither keeps every
promise.

The invariant that carries this is split in two. `Shape` is about the tables alone:
a version row belongs to a parameter whose public id ends its reference, its backend
version is its version, and it is ready up to the parameter's settled version or
pending just above it. `Values` adds the key–value store: what a ready row names is
there, an entry stands at the settled version unless a pending mutation has already
written the next one, and then it wrote its own value.
-/

namespace Molejo.Parameters

open Transaction State Table Transition

variable {v : String} {j i : ℕ} {w : ParameterVersion} {t' t : Tables} {m : SecretMutation}
  {r : Request}

/-! ### The shape of the tables -/

/-- A version row as a secret parameter has them. -/
structure Fits (p : Parameter) (w : ParameterVersion) : Prop where
  suffix : ∃ pre, w.secretReference = some (pre ++ p.publicId)
  backend : w.secretBackendVersion = some w.version
  positive : 1 ≤ w.version
  state : (w.valueState = .ready ∧ w.version ≤ settled p) ∨
    (w.valueState = .pending ∧ w.version = settled p + 1)
  expected : ∀ e, w.expectedSecretBackendVersion = some e → e + 1 = w.version

/-- The tables are as reservations, completions and abandonments leave them. -/
structure Shape (t : Tables) : Prop where
  fits : ∀ j w, t.versions.lookup j = some w →
    ∃ p, t.parameters.lookup w.parameterId = some p ∧ Fits p w
  valid : ∀ i p, t.parameters.lookup i = some p → PublicIdValid p.publicId
  distinct : ∀ i p j q, t.parameters.lookup i = some p → t.parameters.lookup j = some q →
    p.publicId = q.publicId → i = j
  reference : ∀ j w k x, t.versions.lookup j = some w → t.versions.lookup k = some x →
    w.parameterId = x.parameterId → w.secretReference = x.secretReference
  version : ∀ j w k x, t.versions.lookup j = some w → t.versions.lookup k = some x →
    w.parameterId = x.parameterId → w.version = x.version → j = k
  shown : ∀ i p, t.parameters.lookup i = some p → p.valueState ≠ .pending →
    ∃ j w, t.versions.lookup j = some w ∧ w.parameterId = i ∧ w.valueState = .ready

/-- The key–value store agrees with the tables and with what was submitted. -/
structure Values (t : Tables) (kv : VersionedMap String String) (submitted : ℕ → Option String) :
    Prop where
  fingerprint : ∀ j w, t.versions.lookup j = some w →
    ∃ v, submitted j = some v ∧ w.fingerprint = some (secretFingerprint v)
  ready : ∀ j w ref, t.versions.lookup j = some w → w.valueState = .ready →
    w.secretReference = some ref → kv.get ref w.version = submitted j
  pending : ∀ j w ref, t.versions.lookup j = some w → w.valueState = .pending →
    w.secretReference = some ref → kv.current ref + 1 = w.version ∨
      (kv.current ref = w.version ∧ kv.get ref w.version = submitted j)
  idle : ∀ i p j w ref, t.parameters.lookup i = some p → ¬ HasPendingVersion t i →
    t.versions.lookup j = some w → w.parameterId = i → w.secretReference = some ref →
    kv.current ref = settled p
  orphan : ∀ ref, kv.current ref ≠ 0 →
    ∃ j w, t.versions.lookup j = some w ∧ w.secretReference = some ref

namespace Shape

variable {t : Tables} {j k : ℕ} {w x : ParameterVersion} {p : Parameter} {ref : String}

theorem reference_isSome (h : Shape t) (hw : t.versions.lookup j = some w) :
    ∃ ref, w.secretReference = some ref := by
  obtain ⟨_, -, hfit⟩ := h.fits j w hw
  obtain ⟨_, hpre⟩ := hfit.suffix
  exact ⟨_, hpre⟩

/-- **An entry belongs to one parameter.** -/
theorem parameterId_of_reference (h : Shape t) (hw : t.versions.lookup j = some w)
    (hx : t.versions.lookup k = some x) (hr : w.secretReference = x.secretReference) :
    w.parameterId = x.parameterId := by
  obtain ⟨p, hp, hpw⟩ := h.fits j w hw
  obtain ⟨q, hq, hqx⟩ := h.fits k x hx
  obtain ⟨pre, hpre⟩ := hpw.suffix
  obtain ⟨pre', hpre'⟩ := hqx.suffix
  have heq : pre ++ p.publicId = pre' ++ q.publicId := by
    rw [hpre, hpre'] at hr
    exact Option.some.inj hr
  exact h.distinct _ _ _ _ hp hq
    (publicId_of_reference (h.valid _ _ hp) (h.valid _ _ hq) heq)

end Shape

/-- What is done to secrets only: nothing is stored without a mutation. -/
def secretRules : Rules := ⟨fun _ _ => False, RefersTo, fun _ _ _ => True, fun _ _ => True⟩

/-- Secrets whose versions and rows are in order. -/
structure Tidy (t : Tables) : Prop where
  history : History t
  unpurged : Unpurged t
  rows : OrderlyRows t
  secret : ∀ i p, t.parameters.lookup i = some p → p.kind = .secret

namespace Tidy

variable {t t' : Tables} {j : ℕ} {w : ParameterVersion} {p : Parameter}

theorem change (h : Tidy t) (hc : Change secretRules t t') : Tidy t' where
  history := h.history.change hc
  unpurged := h.unpurged.change hc
  rows := h.rows.change h.history False.elim (fun hr => hr) hc
  secret := by
    cases hc with
    | same hsame => exact hsame.1 ▸ h.secret
    | create hvalue | replace hvalue => exact hvalue.elim
    | reserveFirst => exact forall_insert h.secret rfl
    | reserveNext => exact h.secret
    | complete | archive => exact forall_modify h.secret fun i p hp _ => h.secret i p hp
    | abandon => exact fun i p hp => h.secret i p (lookup_delete_eq_some.mp hp).1

theorem fits (h : Tidy t) (hw : t.versions.lookup j = some w)
    (hp : t.parameters.lookup w.parameterId = some p) : Fits p w := by
  have hrow := h.rows.row j w p hw hp
  have hpurged := h.unpurged.versions j w hw
  obtain ⟨⟨_, href, pre, rfl⟩, hbackend⟩ := hrow.secret (h.secret _ p hp) hpurged
  obtain ⟨_, -, hpos, -⟩ := h.history.owned j w hw
  refine ⟨⟨pre, href⟩, hbackend, hpos, ?_, fun e he => ?_⟩
  · rcases h.history.placed hw hp with ⟨_, hle⟩ | hpending
    · exact .inl ⟨by cases hs : w.valueState <;> simp_all, hle⟩
    · exact .inr hpending
  · by_cases hpending : w.valueState = .pending
    · obtain ⟨-, -, ⟨_, he', hversion⟩, -⟩ := hrow.pending hpending
      cases he.symm.trans he'
      exact hversion
    · exact nomatch (hrow.settled hpending).symm.trans he

theorem shape (h : Tidy t) : Shape t where
  fits j w hw := by
    obtain ⟨p, hp, -⟩ := h.history.owned j w hw
    exact ⟨p, hp, h.fits hw hp⟩
  valid := h.rows.valid
  distinct := h.history.distinct
  reference j w k x hw hx hid := by
    obtain ⟨_, hp, -⟩ := h.history.owned j w hw
    obtain ⟨_, hr⟩ := (h.fits hw hp).suffix
    obtain ⟨_, hr'⟩ := (h.fits hx (hid ▸ hp)).suffix
    rw [hr, hr', h.rows.reference j w k x _ _ hw hx hid hr hr']
  version := h.history.unique
  shown i p hp hne := by
    obtain ⟨j, w, hw, rfl, _⟩ := h.history.filled i p p.currentVersion hp
      (h.history.shown i p hp hne) (settled_of_not_pending hne).ge
    refine ⟨j, w, hw, rfl, ?_⟩
    rcases (h.fits hw hp).state with ⟨hready, -⟩ | ⟨-, hnext⟩
    · exact hready
    · rw [settled_of_not_pending hne] at hnext
      omega

end Tidy

/-! ### Reserving -/

section Reserve

variable {t : Tables} {kv : VersionedMap String String} {submitted : ℕ → Option String}

theorem recordSubmitted_nextId :
    recordSubmitted t submitted v t.versions.nextId = some v := if_pos rfl

theorem recordSubmitted_of_lookup (hw : t.versions.lookup j = some w) :
    recordSubmitted t submitted v j = submitted j :=
  if_neg (Nat.ne_of_lt (lt_nextId hw))

/-- **A reservation keeps the values**: the new row expects the version the entry stands at. -/
theorem values_reserve {ref : String} (hv : Values t kv submitted)
    (hversions : t'.versions = t.versions.insert w) (hpending : w.valueState = .pending)
    (hfp : w.fingerprint = some (secretFingerprint v)) (href : w.secretReference = some ref)
    (hcur : kv.current ref + 1 = w.version)
    (hparams : ∀ i p j x, t'.parameters.lookup i = some p → t.versions.lookup j = some x →
      x.parameterId = i → t.parameters.lookup i = some p) :
    Values t' kv (recordSubmitted t submitted v) := by
  have hcases : ∀ {j x}, t'.versions.lookup j = some x →
      (j = t.versions.nextId ∧ x = w) ∨ t.versions.lookup j = some x := by
    intro j x hx
    rwa [hversions, lookup_insert_eq_some] at hx
  have hkeep : ∀ {j x}, t.versions.lookup j = some x → t'.versions.lookup j = some x := by
    intro j x hx
    rw [hversions]
    exact lookup_insert_of_lookup hx
  refine ⟨fun j x hx => ?_, fun j x r hx hs hr => ?_, fun j x r hx hs hr => ?_,
    fun i p j x r hp hnone hx hid hr => ?_, fun r hne => ?_⟩
  · rcases hcases hx with ⟨rfl, rfl⟩ | hx
    · exact ⟨v, recordSubmitted_nextId, hfp⟩
    · rw [recordSubmitted_of_lookup hx]
      exact hv.fingerprint j x hx
  · rcases hcases hx with ⟨rfl, rfl⟩ | hx
    · rw [hpending] at hs
      cases hs
    · rw [recordSubmitted_of_lookup hx]
      exact hv.ready j x r hx hs hr
  · rcases hcases hx with ⟨rfl, rfl⟩ | hx
    · cases href.symm.trans hr
      exact .inl hcur
    · rw [recordSubmitted_of_lookup hx]
      exact hv.pending j x r hx hs hr
  · rcases hcases hx with ⟨rfl, rfl⟩ | hx'
    · exact absurd (any_iff.mpr ⟨_, _, hx, hid, hpending⟩) hnone
    · refine hv.idle i p j x r (hparams i p j x hp hx' hid) (fun hany => ?_) hx' hid hr
      obtain ⟨k, y, hy, hyp⟩ := any_iff.mp hany
      exact hnone (any_iff.mpr ⟨k, y, hkeep hy, hyp⟩)
  · obtain ⟨j, x, hx, hr⟩ := hv.orphan r hne
    exact ⟨j, x, hkeep hx, hr⟩

variable {now : Time} {workspaceId actorId : ℕ} {publicId path description reference v : String}
  {key payload : Digest} {reservations : Table Reservation}

theorem values_create (h : Shape t) (hv : Values t kv submitted) (hvalid : PublicIdValid publicId)
    (hfresh : ∀ j q, t.parameters.lookup j = some q → q.publicId ≠ publicId)
    (href : ∃ pre, reference = pre ++ publicId) :
    Values { t with
      parameters := t.parameters.insert (pendingParameter workspaceId publicId path description)
      versions := t.versions.insert (pendingVersion now t.parameters.nextId 1 actorId reference 0
        (secretFingerprint v) key payload path description)
      reservations } kv (recordSubmitted t submitted v) := by
  obtain ⟨pre, rfl⟩ := href
  refine values_reserve hv rfl rfl rfl rfl ?_ fun i p j w hp hw hid => ?_
  · -- an entry under the new reference would belong to a parameter with the new public id
    by_contra hne
    obtain ⟨j, w, hw, href⟩ := hv.orphan (pre ++ publicId) fun h0 => hne (by rw [h0]; rfl)
    obtain ⟨p, hp, hfit⟩ := h.fits j w hw
    obtain ⟨pre', hpre'⟩ := hfit.suffix
    have heq : pre' ++ p.publicId = pre ++ publicId := Option.mem_unique hpre' href
    exact hfresh _ _ hp (publicId_of_reference (h.valid _ _ hp) hvalid heq)
  · obtain ⟨_, hq, -⟩ := h.fits j w hw
    rw [hid] at hq
    rcases lookup_insert_eq_some.mp hp with ⟨rfl, -⟩ | hp
    · exact absurd (lt_nextId hq) (Nat.lt_irrefl _)
    · exact hp

theorem settled_of_ready {p : Parameter} (hp : p.valueState = .ready) :
    settled p = p.currentVersion :=
  if_neg (by rw [hp]; decide)

end Reserve

/-! ### Writing -/

section Write

variable {t : Tables} {kv : VersionedMap String String} {submitted : ℕ → Option String}

/-- **A write made under its own reservation keeps the values**: the row the mutation names is
pending, expects what the entry stands at, and was reserved for the value written. -/
theorem values_write (ht : Tidy t) (hv : Values t kv submitted) {ref : String}
    (hw : t.versions.lookup j = some w) (href : w.secretReference = some ref)
    (hcur : kv.current ref + 1 = w.version) (hfp : w.fingerprint = some (secretFingerprint v)) :
    Values t (kv.write ref v) submitted := by
  have h := ht.shape
  have hsub : submitted j = some v := by
    obtain ⟨v', hv', hfp'⟩ := hv.fingerprint j w hw
    rw [hfp] at hfp'
    have : v = v' := congrArg Fingerprint.value (Option.some.inj hfp')
    rw [hv', this]
  have hpending : w.valueState = .pending := by
    obtain ⟨_, _, hfit⟩ := h.fits j w hw
    rcases hfit.state with ⟨hready, -⟩ | ⟨hpending, -⟩
    · -- a ready row's version is written already
      have hget := hv.ready j w ref hw hready href
      rw [hsub] at hget
      have := VersionedMap.le_current_of_get hget
      omega
    · exact hpending
  refine ⟨hv.fingerprint, fun k x r hx hs hr => ?_, fun k x r hx hs hr => ?_,
    fun i p k x r hp hnone hx hid hr => ?_, fun r hne => ?_⟩
  · obtain ⟨_, hu, -⟩ := hv.fingerprint k x hx
    rw [hu]
    exact VersionedMap.get_write_of_get ((hv.ready k x r hx hs hr).trans hu)
  · by_cases hrr : r = ref
    · subst hrr
      have hid : w.parameterId = x.parameterId :=
        h.parameterId_of_reference hw hx (href.trans hr.symm)
      obtain rfl := ht.history.eq_of_pending hw hx hid hpending hs
      cases hw.symm.trans hx
      refine .inr ⟨?_, ?_⟩
      · rw [VersionedMap.current_write_self, hcur]
      · rw [← hcur, VersionedMap.get_write_self, hsub]
    · rw [VersionedMap.current_write_of_ne hrr, VersionedMap.get_write_of_ne hrr]
      exact hv.pending k x r hx hs hr
  · have hrr : r ≠ ref := by
      rintro rfl
      have hid' : w.parameterId = x.parameterId :=
        h.parameterId_of_reference hw hx (href.trans hr.symm)
      exact hnone (any_iff.mpr ⟨j, w, hw, hid'.trans hid, hpending⟩)
    rw [VersionedMap.current_write_of_ne hrr]
    exact hv.idle i p k x r hp hnone hx hid hr
  · by_cases hrr : r = ref
    · exact ⟨j, w, hw, hrr ▸ href⟩
    · rw [VersionedMap.current_write_of_ne hrr] at hne
      exact hv.orphan r hne

end Write

/-! ### Closing -/

section Close

variable {t : Tables} {kv : VersionedMap String String} {submitted : ℕ → Option String}
  {m : SecretMutation} {j : ℕ} {w : ParameterVersion} {ref : String}

variable {now : Time} {path description : String}

/-- **A completion keeps the values** when the version it makes ready has been written: by the
invariant it was written by the request the row was reserved for. -/
theorem values_complete (ht : Tidy t) (hv : Values t kv submitted)
    (hw : t.versions.lookup j = some w) (hm : m.Names w) (hpending : w.valueState = .pending)
    (href : w.secretReference = some ref) (hwritten : w.version ≤ kv.current ref) :
    Values (completeTables now t m path description) kv submitted := by
  obtain ⟨hcur, hget⟩ : kv.current ref = w.version ∧ kv.get ref w.version = submitted j := by
    rcases hv.pending j w ref hw hpending href with hcur | hdone
    · omega
    · exact hdone
  refine ⟨forall_modify hv.fingerprint fun k y hy _ => hv.fingerprint k y hy,
    fun k x r hx hs hr => ?_, fun k x r hx hs hr => ?_,
    fun i p k x r hp hnone hx hid hr => ?_, fun r hne => ?_⟩
  · obtain ⟨_, hy, ⟨hmy, rfl⟩ | ⟨-, rfl⟩⟩ := lookup_modify_eq_some.mp hx
    · obtain rfl := ht.history.eq_of_names hw hm hy hmy
      cases hw.symm.trans hy
      cases href.symm.trans hr
      exact hget
    · exact hv.ready k x r hy hs hr
  · obtain ⟨_, hy, ⟨-, rfl⟩ | ⟨-, rfl⟩⟩ := lookup_modify_eq_some.mp hx
    · cases hs
    · exact hv.pending k x r hy hs hr
  · obtain ⟨y, hy, hxy⟩ := exists_of_lookup_modify hx
      (fun x => (x.parameterId, x.secretReference)) fun _ => rfl
    obtain ⟨hxi, hxr⟩ := Prod.mk.inj hxy
    obtain ⟨_, hq, ⟨hi, rfl⟩ | ⟨hi, rfl⟩⟩ := lookup_modify_eq_some.mp hp
    · have hrr : w.secretReference = y.secretReference := by
        refine ht.shape.reference j w k y hw hy ?_
        rw [← hxi, hid, hi, hm.1]
      obtain rfl : ref = r := Option.some.inj (href.symm.trans (hrr.trans (hxr.symm.trans hr)))
      rw [hcur]
      exact hm.2
    · refine hv.idle i p k y r hq (fun hany => ?_) hy (hxi.symm.trans hid) (hxr.symm.trans hr)
      obtain ⟨l, z, hz, hzi, hzs⟩ := any_iff.mp hany
      refine hnone (any_iff.mpr ⟨l, z, lookup_modify_of_neg hz fun hn => hi ?_, hzi, hzs⟩)
      rw [← hzi, hn.1]
  · obtain ⟨k, x, hx, hr⟩ := hv.orphan r hne
    exact ⟨k, exists_lookup_modify hx hr fun _ => hr⟩

/-- **An abandonment keeps the values** when nothing was written for the row it deletes. -/
theorem values_abandon (ht : Tidy t) (hv : Values t kv submitted)
    (hw : t.versions.lookup j = some w) (hm : m.Names w) (hpending : w.valueState = .pending)
    (href : w.secretReference = some ref) (hunwritten : kv.current ref ≠ w.version) :
    Values (abandonTables t m) kv submitted := by
  have h := ht.shape
  have hcur : kv.current ref + 1 = w.version := by
    rcases hv.pending j w ref hw hpending href with hcur | ⟨hdone, -⟩
    · exact hcur
    · exact absurd hdone hunwritten
  obtain ⟨p, hp, hfit⟩ := h.fits j w hw
  have hsettled : w.version = settled p + 1 := by
    rcases hfit.state with ⟨hs, -⟩ | ⟨-, hs⟩
    · rw [hpending] at hs
      cases hs
    · exact hs
  refine ⟨fun k x hx => ?_, fun k x r hx hs hr => ?_, fun k x r hx hs hr => ?_,
    fun i q k x r hq hnone hx hid hr => ?_, fun r hne => ?_⟩
  · exact hv.fingerprint k x (lookup_delete_eq_some.mp hx).1
  · exact hv.ready k x r (lookup_delete_eq_some.mp hx).1 hs hr
  · exact hv.pending k x r (lookup_delete_eq_some.mp hx).1 hs hr
  · have hx' := (lookup_delete_eq_some.mp hx).1
    have hq' := (lookup_delete_eq_some.mp hq).1
    by_cases hi : i = m.parameterId
    · -- the abandoned row was the pending one of this parameter
      have hqp : q = p := by
        rw [hi, ← hm.1] at hq'
        exact Option.mem_unique hq' hp
      have hrr := h.reference j w k x hw hx' (by rw [hm.1, hid, hi])
      cases href.symm.trans (hrr.trans hr)
      rw [hqp]
      omega
    · refine hv.idle i q k x r hq' (fun hany => ?_) hx' hid hr
      obtain ⟨l, z, hz, hzi, hzs⟩ := any_iff.mp hany
      refine hnone (any_iff.mpr ⟨l, z, lookup_delete_eq_some.mpr ⟨hz, ?_⟩, hzi, hzs⟩)
      rintro ⟨hn, -⟩
      exact hi (hzi.symm.trans hn.1)
  · obtain ⟨k, x, hx, hr⟩ := hv.orphan r hne
    by_cases hgone : m.Names x ∧ x.valueState = .pending
    · -- an entry that was written to still has the row its parameter shows
      obtain rfl := ht.history.eq_of_names hw hm hx hgone.1
      cases hw.symm.trans hx
      cases href.symm.trans hr
      have hpp : p.valueState ≠ .pending := by
        intro hpp
        rw [settled, if_pos hpp] at hsettled
        omega
      obtain ⟨l, z, hz, hzi, hzs⟩ := h.shown _ p hp hpp
      refine ⟨l, z, lookup_delete_eq_some.mpr ⟨hz, ?_⟩, ?_⟩
      · rintro ⟨-, hpend⟩
        rw [hzs] at hpend
        cases hpend
      · exact (h.reference l z k w hz hw hzi).trans href
    · exact ⟨k, x, lookup_delete_eq_some.mpr ⟨hx, hgone⟩, hr⟩

end Close

/-! ### Mutations in flight -/

/-- What a party holding a mutation may rely on. -/
structure Held (t : Tables) (m : SecretMutation) : Prop where
  known : m.parameterId < t.parameters.nextId
  backend : m.backendVersion = m.parameterVersion
  expected : m.expectedBackendVersion + 1 = m.parameterVersion
  reference : ∀ j w, t.versions.lookup j = some w → w.parameterId = m.parameterId →
    w.secretReference = some m.reference

/-- The tables moved on: rows of a known parameter keep its reference, and identities of
parameters are not handed out again. -/
structure Later (t t' : Tables) : Prop where
  nextId : t.parameters.nextId ≤ t'.parameters.nextId
  reference : ∀ j w, t'.versions.lookup j = some w → t.parameters.nextId ≤ w.parameterId ∨
    ∃ k x, t.versions.lookup k = some x ∧ x.parameterId = w.parameterId ∧
      x.secretReference = w.secretReference

theorem Later.refl (t : Tables) : Later t t :=
  ⟨le_rfl, fun j w hw => .inr ⟨j, w, hw, rfl, rfl⟩⟩

theorem Later.change (hc : Change secretRules t t') : Later t t' := by
  have hsame : ∀ j w, t.versions.lookup j = some w → t.parameters.nextId ≤ w.parameterId ∨
      ∃ k x, t.versions.lookup k = some x ∧ x.parameterId = w.parameterId ∧
        x.secretReference = w.secretReference :=
    (Later.refl t).reference
  cases hc with
  | same h => exact ⟨(congrArg Table.nextId h.1).ge, h.2.1 ▸ hsame⟩
  | create hvalue | replace hvalue => exact hvalue.elim
  | reserveFirst => exact ⟨Nat.le_succ _, forall_insert hsame (.inl le_rfl)⟩
  | reserveNext _ _ _ _ _ _ hcurrent hid _ href =>
    exact ⟨le_rfl, forall_insert hsame (.inr ⟨_, _, hcurrent, hid, href⟩)⟩
  | complete => exact ⟨le_rfl, forall_modify hsame fun j w hw _ => hsame j w hw⟩
  | abandon => exact ⟨le_rfl, fun j w hw => hsame j w (lookup_delete_eq_some.mp hw).1⟩
  | archive => exact ⟨le_rfl, hsame⟩

theorem Held.later (h : Held t m) (hl : Later t t') :
    Held t' m := by
  refine ⟨lt_of_lt_of_le h.known hl.nextId, h.backend, h.expected, fun j w hw hid => ?_⟩
  rcases hl.reference j w hw with hnew | ⟨k, x, hx, hxi, hxr⟩
  · have := h.known
    omega
  · rw [← hxr]
    exact h.reference k x hx (hxi.trans hid)

/-- A mutation read off a row is held. -/
theorem Describes.held (h : Shape t) (hw : t.versions.lookup j = some w) (hd : Describes t m w) :
    Held t m := by
  obtain ⟨_, hp, hfit⟩ := h.fits j w hw
  refine ⟨?_, ?_, ?_, fun k x hx hid => ?_⟩
  · rw [← hd.parameterId]
    exact lt_nextId hp
  · have hb := hfit.backend
    rw [hd.backend, hd.version] at hb
    exact Option.some.inj hb
  · rw [hfit.expected _ hd.expected, hd.version]
  · rw [← hd.reference]
    exact h.reference k x j w hx hw (hid.trans hd.parameterId.symm)

/-- The version a mutation was to create has been created. -/
def Written (kv : VersionedMap String String) (m : SecretMutation) : Prop :=
  m.backendVersion ≤ kv.current m.reference

/-- What is known of a request in flight. -/
def Request.Sound (t : Tables) (kv : VersionedMap String String) (r : Request) : Prop :=
  Held t r.mutation ∧ ∀ b, r.phase = .complete b → Written kv r.mutation

/-- What is known of a recovery pass in flight. -/
def Pass.Sound (t : Tables) (kv : VersionedMap String String) : Pass → Prop
  | .scan mutations => ∀ m ∈ mutations, Held t m
  | .complete m _ => Held t m ∧ Written kv m
  | .abandon m => Held t m
  | .done => True

/-- The invariant of the system. -/
structure Sound (s : State) : Prop where
  shape : Shape s.tables
  values : Values s.tables s.kv s.submitted
  requests : ∀ i r, s.requests.lookup i = some r → r.Sound s.tables s.kv
  passes : ∀ i c, s.passes.lookup i = some c → c.Sound s.tables s.kv

section Moves

variable {s : State} {t : Tables} {kv : VersionedMap String String}
  {submitted : ℕ → Option String}

theorem Request.Sound.later (h : r.Sound s.tables s.kv) (hl : Later s.tables t)
    (hkv : ∀ ref, s.kv.current ref ≤ kv.current ref) : r.Sound t kv :=
  ⟨h.1.later hl, fun b hb => le_trans (h.2 b hb) (hkv _)⟩

theorem Pass.Sound.later {c : Pass} (h : c.Sound s.tables s.kv) (hl : Later s.tables t)
    (hkv : ∀ ref, s.kv.current ref ≤ kv.current ref) : c.Sound t kv := by
  cases c with
  | scan => exact fun m hm => (h m hm).later hl
  | complete => exact ⟨h.1.later hl, le_trans h.2 (hkv _)⟩
  | abandon => exact Held.later h hl
  | done => trivial

/-- What is in flight stays sound while the stores move on under it. -/
theorem Sound.move (h : Sound s) (hshape : Shape t) (hvalues : Values t kv submitted)
    (hl : Later s.tables t) (hkv : ∀ ref, s.kv.current ref ≤ kv.current ref) :
    Sound { s with tables := t, kv := kv, submitted := submitted } :=
  ⟨hshape, hvalues, fun i r hr => (h.requests i r hr).later hl hkv,
    fun i c hc => (h.passes i c hc).later hl hkv⟩

theorem Sound.setPhase (h : Sound s) {phase : RequestPhase}
    (hp : ∀ r, s.requests.lookup i = some r → ∀ b, phase = .complete b → Written s.kv r.mutation) :
    Sound (s.setPhase i phase) := by
  refine ⟨h.shape, h.values, forall_modify h.requests fun j r hr hj => ?_, h.passes⟩
  exact ⟨(h.requests j r hr).1, hp r (hj ▸ hr)⟩

theorem Sound.setPass (h : Sound s) {c : Pass} (hc : c.Sound s.tables s.kv) :
    Sound (s.setPass i c) := by
  exact ⟨h.shape, h.values, h.requests, forall_modify h.passes fun _ _ _ _ => hc⟩

/-! ### The steps of a request -/

/-- A transaction leaves the system sound when it keeps the values. -/
theorem Sound.changed (h : Sound s) (ht : Tidy s.tables) (hc : Change secretRules s.tables t)
    (hvalues : Values t s.kv submitted) : Sound { s with tables := t, submitted := submitted } :=
  h.move (ht.change hc).shape hvalues (.change hc) fun _ => le_rfl

/-- A reservation leaves the system sound when its transaction does. -/
theorem Sound.begun (h : Sound s) (ht : Tidy s.tables) {value : String}
    {result : Except Err (SecretMutation × Bool × Tables)}
    (hr : ∀ m existing t, result = .ok (m, existing, t) → Change secretRules s.tables t ∧
      (∃ j w, t.versions.lookup j = some w ∧ Describes t m w) ∧
      ((existing = true ∧ t = s.tables) ∨ (existing = false ∧
        Values t s.kv (recordSubmitted s.tables s.submitted value)))) :
    Sound (s.begun value result) := by
  cases result with
  | error => exact h
  | ok x =>
    obtain ⟨m, existing, t⟩ := x
    obtain ⟨hc, ⟨_, _, hw, hd⟩, hcase⟩ := hr m existing t rfl
    have hmoved : Sound { s with
        tables := t
        submitted := if existing then s.submitted
          else recordSubmitted s.tables s.submitted value } := by
      rcases hcase with ⟨rfl, rfl⟩ | ⟨rfl, hvalues⟩
      · exact h
      · exact h.changed ht hc hvalues
    refine ⟨hmoved.shape, hmoved.values, forall_insert hmoved.requests
      ⟨hd.held hmoved.shape hw, fun b hb => ?_⟩, hmoved.passes⟩
    change (if existing = true ∧ m.state = .ready then RequestPhase.done else .put) = _ at hb
    split at hb <;> cases hb

theorem Sound.beginCreate (h : Sound s) (ht : Tidy s.tables) (x : SecretInput) :
    Sound (s.beginCreate x) := by
  unfold State.beginCreate
  split
  · exact h
  · rename_i workspace _
    have href : RefersTo x.publicId (secretReference workspace.publicId x.publicId) :=
      ⟨"workspaces/" ++ workspace.publicId ++ "/parameters/", rfl⟩
    refine h.begun ht fun m existing t hok => ⟨beginCreateSecretParameter_change hok href,
      beginCreateSecretParameter_describes hok, ?_⟩
    rcases beginCreateSecretParameter_eq_ok hok with
      ⟨rfl, rfl, -⟩ | ⟨rfl, hvalid, hfresh, -, -, rfl, rfl⟩
    · exact .inl ⟨rfl, rfl⟩
    · exact .inr ⟨rfl, values_create h.shape h.values hvalid hfresh href⟩

theorem Sound.beginReplace (h : Sound s) (ht : Tidy s.tables) (x : SecretInput)
    (resourceVersion : ℕ) : Sound (s.beginReplace x resourceVersion) := by
  refine h.begun ht fun m existing t hok =>
    ⟨beginReplaceSecretParameter_change hok fun _ _ _ _ _ => trivial,
      beginReplaceSecretParameter_describes hok, ?_⟩
  rcases beginReplaceSecretParameter_eq_ok hok with ⟨rfl, rfl, -⟩ |
    ⟨rfl, i, p, j, current, ref, backend, hp, -, hready, hnone, hc, hci, -, href, -, -, -, rfl, rfl⟩
  · exact .inl ⟨rfl, rfl⟩
  · refine .inr ⟨rfl, values_reserve h.values rfl rfl rfl rfl ?_ fun _ _ _ _ hp' _ _ => hp'⟩
    rw [h.values.idle i p j current ref hp hnone hc hci href, settled_of_ready hready]
    rfl

/-- The rows a stored mutation names carry its reference and its version. -/
theorem Held.row (h : Held t m) (hw : t.versions.lookup j = some w) (hm : m.Names w) :
    w.secretReference = some m.reference ∧ w.version = m.backendVersion :=
  ⟨h.reference j w hw hm.1, hm.2.trans h.backend.symm⟩

/-- **Completing a written mutation is sound**, whoever does it. -/
theorem Sound.complete (h : Sound s) (ht : Tidy s.tables) (hm : Held s.tables m)
    (hwritten : Written s.kv m) (backendVersion : ℕ) :
    Sound (s.complete m backendVersion) := by
  unfold State.complete
  cases hres : completeSecretMutation s.now s.tables m backendVersion with
  | error => exact h
  | ok x =>
    obtain ⟨_, t⟩ := x
    have hc : Change secretRules s.tables t := completeSecretMutation_change hres trivial
    obtain ⟨_, _, hw, hnames, ⟨-, rfl⟩ | ⟨hpending, _, _, -, -, rfl⟩⟩ :=
      completeSecretMutation_eq_ok hres
    · exact h
    · obtain ⟨href, hversion⟩ := hm.row hw hnames
      exact h.changed ht hc
        (values_complete ht h.values hw hnames hpending href (hversion ▸ hwritten))

/-- **Abandoning an unwritten mutation is sound.** -/
theorem Sound.abandon (h : Sound s) (ht : Tidy s.tables) (hm : Held s.tables m)
    (hunwritten : ∀ j w, s.tables.versions.lookup j = some w → m.Names w →
      w.valueState = .pending → w.secretBackendVersion ≠ some (s.kv.current m.reference)) :
    Sound (s.abandon m) := by
  unfold State.abandon
  cases hres : abandonSecretMutation s.tables m with
  | error => exact h
  | ok t =>
    have hc : Change secretRules s.tables t := abandonSecretMutation_change hres
    rcases abandonSecretMutation_eq_ok hres with rfl | ⟨⟨j, w, hw, hnames, hpending⟩, rfl⟩
    · exact h
    · obtain ⟨href, _⟩ := hm.row hw hnames
      refine h.changed ht hc (values_abandon ht h.values hw hnames hpending href fun he => ?_)
      obtain ⟨_, -, hfit⟩ := h.shape.fits j w hw
      exact hunwritten j w hw hnames hpending (by rw [hfit.backend, he])

end Moves

/-! ### The two steps that break the promise -/

/-- Request `i` is about to write and its comparison will succeed, but the version its mutation
names is not, or no longer, reserved for the value it writes. -/
def StaleWrite (s : State) (i : ℕ) : Prop :=
  ∃ r ∈ s.requests.lookup i, r.phase = .put ∧
    s.kv.current r.mutation.reference = r.mutation.expectedBackendVersion ∧
    ¬ s.tables.versions.Any fun _ w =>
      r.mutation.Names w ∧ w.fingerprint = some (secretFingerprint r.value)
deriving Decidable

/-- The mutation a pass is about to abandon. -/
def Pass.abandons : Pass → Option SecretMutation
  | .abandon m => some m
  | _ => none

/-- Pass `i` is about to abandon a pending version that has been written since it looked. -/
def LateAbandon (s : State) (i : ℕ) : Prop :=
  ∃ m ∈ (s.passes.lookup i).bind Pass.abandons, s.tables.versions.Any fun _ w =>
    m.Names w ∧ w.valueState = .pending ∧
      w.secretBackendVersion = some (s.kv.current m.reference)
deriving Decidable

/-- A step that is neither a stale write nor a late abandonment. -/
def Undisturbed (s : State) : Action → Prop
  | .put i => ¬ StaleWrite s i
  | .passAct i => ¬ LateAbandon s i
  | _ => True

instance (s : State) : ∀ a, Decidable (Undisturbed s a)
  | .put i => inferInstanceAs (Decidable (¬ StaleWrite s i))
  | .passAct i => inferInstanceAs (Decidable (¬ LateAbandon s i))
  | .tick _ | .beginCreate _ | .beginReplace _ _ | .inspect _ | .complete _ | .passBegin
  | .passInspect _ | .passSkip _ => inferInstanceAs (Decidable True)

variable {s : State}

/-- A write under its own reservation is sound. -/
theorem Sound.put (h : Sound s) (ht : Tidy s.tables) (hr : s.requests.lookup i = some r)
    (hphase : r.phase = .put) (hfresh : ¬ StaleWrite s i) : Sound (s.put i r) := by
  have hheld := (h.requests i r hr).1
  unfold State.put
  cases hput : s.kv.put r.mutation.reference r.value r.mutation.expectedBackendVersion with
  | none =>
    refine h.setPhase fun r' _ b hb => ?_
    cases hb
  | some x =>
    obtain ⟨_, kv⟩ := x
    obtain ⟨hcur, rfl, rfl⟩ := VersionedMap.put_eq_some.mp hput
    have hany : s.tables.versions.Any fun _ w =>
        r.mutation.Names w ∧ w.fingerprint = some (secretFingerprint r.value) := by
      by_contra hnone
      exact hfresh ⟨r, hr, hphase, hcur, hnone⟩
    obtain ⟨_, w, hw, hnames, hfp⟩ := any_iff.mp hany
    obtain ⟨href, hversion⟩ := hheld.row hw hnames
    have hnext : s.kv.current r.mutation.reference + 1 = w.version := by
      rw [hcur, hheld.expected, hnames.2]
    have hmoved : Sound { s with kv := s.kv.write r.mutation.reference r.value } :=
      h.move h.shape (values_write ht h.values hw href hnext hfp) (Later.refl _)
        fun _ => VersionedMap.current_le_current_write
    refine hmoved.setPhase fun r' hr' b _ => ?_
    cases hr.symm.trans hr'
    change r.mutation.backendVersion ≤ VersionedMap.current _ _
    rw [VersionedMap.current_write_self, hnext, hversion]

theorem Sound.inspect (h : Sound s) (hr : s.requests.lookup i = some r) :
    Sound (s.inspect i r) := by
  unfold State.inspect
  dsimp only
  split
  · rename_i hcur
    refine h.setPhase fun r' hr' b _ => ?_
    cases hr.symm.trans hr'
    exact hcur.1.ge
  · refine h.setPhase fun r' _ b hb => ?_
    cases hb

theorem nextPass_sound {timeout : Time} {mutations : List SecretMutation}
    (hm : ∀ m ∈ mutations, Held s.tables m) :
    (s.nextPass timeout mutations).Sound s.tables s.kv := by
  cases mutations with
  | nil => trivial
  | cons m rest =>
    have hhead := hm m List.mem_cons_self
    unfold State.nextPass
    dsimp only
    split
    · rename_i hcur
      exact ⟨hhead, hcur.ge⟩
    · split
      · exact hhead
      · exact fun m' hm' => hm m' (List.mem_cons_of_mem _ hm')

/-- **Every step that is neither a stale write nor a late abandonment is sound.** -/
theorem Sound.step (h : Sound s) (ht : Tidy s.tables) (timeout : Time) (a : Action)
    (ha : Undisturbed s a) : Sound (step timeout s a) := by
  cases a with
  | tick => exact ⟨h.shape, h.values, h.requests, h.passes⟩
  | beginCreate x => exact h.beginCreate ht x
  | beginReplace x resourceVersion => exact h.beginReplace ht x resourceVersion
  | put i =>
    simp only [Parameters.step]
    split
    · rename_i r hr
      split
      · exact h.put ht hr ‹_› ha
      · exact h
    · exact h
  | inspect i =>
    simp only [Parameters.step]
    split
    · rename_i r hr
      split
      · exact h.inspect hr
      · exact h
    · exact h
  | complete i =>
    simp only [Parameters.step]
    split
    · rename_i value m backendVersion hr
      obtain ⟨hheld, hwritten⟩ := h.requests i _ hr
      refine (h.complete ht hheld (hwritten backendVersion rfl) backendVersion).setPhase ?_
      intro r' _ b hb
      cases hb
    · exact h
  | passBegin =>
    simp only [Parameters.step]
    split
    · rename_i mutations hlist
      refine ⟨h.shape, h.values, h.requests, forall_insert h.passes fun m hm => ?_⟩
      obtain ⟨_, _, hw, hd, -⟩ := listPendingSecretMutations_eq_ok hlist hm
      exact hd.held h.shape hw
    · exact h
  | passInspect i =>
    simp only [Parameters.step]
    split
    · rename_i mutations hc
      exact h.setPass (nextPass_sound (h.passes i _ hc))
    · exact h
  | passSkip i =>
    simp only [Parameters.step]
    split
    · rename_i mutations hc
      exact h.setPass fun m hm => h.passes i _ hc m (List.mem_of_mem_tail hm)
    · exact h
  | passAct i =>
    simp only [Parameters.step]
    split
    · rename_i c hc
      have hsound := h.passes i c hc
      cases c with
      | scan => exact h
      | done => exact h
      | complete _ v => exact (h.complete ht hsound.1 hsound.2 v).setPass trivial
      | abandon m =>
        refine (h.abandon ht hsound fun j w hw hnames hp hb => ha ?_).setPass trivial
        exact ⟨m, by rw [hc]; rfl, any_iff.mpr ⟨j, w, hw, hnames, hp, hb⟩⟩
    · exact h

/-- **What a step does to the tables.** -/
theorem change_step (timeout : Time) (s : State) (a : Action) :
    Change secretRules s.tables (step timeout s a).tables := by
  have hsame : Change secretRules s.tables s.tables := .same ⟨rfl, rfl, rfl⟩
  have hcomplete (m : SecretMutation) (b : ℕ) :
      Change secretRules s.tables (s.complete m b).tables := by
    unfold State.complete
    cases hres : completeSecretMutation s.now s.tables m b with
    | error => exact hsame
    | ok => exact completeSecretMutation_change hres trivial
  cases a with
  | beginCreate x =>
    simp only [Parameters.step, State.beginCreate]
    split
    · exact hsame
    · rename_i workspace _
      unfold State.begun
      split
      · exact hsame
      · rename_i hok
        exact beginCreateSecretParameter_change hok
          ⟨"workspaces/" ++ workspace.publicId ++ "/parameters/", rfl⟩
  | beginReplace x resourceVersion =>
    simp only [Parameters.step, State.beginReplace]
    unfold State.begun
    split
    · exact hsame
    · rename_i hok
      exact beginReplaceSecretParameter_change hok fun _ _ _ _ _ => trivial
  | complete =>
    simp only [Parameters.step]
    split
    · exact hcomplete _ _
    · exact hsame
  | passAct i =>
    simp only [Parameters.step]
    split
    · rename_i c hc
      cases c with
      | scan | done => exact hsame
      | complete m v => exact hcomplete m v
      | abandon m =>
        dsimp only [State.act, State.abandon, State.setPass]
        cases hres : abandonSecretMutation s.tables m with
        | error => exact hsame
        | ok => exact abandonSecretMutation_change hres
    · exact hsame
  | put i | inspect i =>
    simp only [Parameters.step, State.put, State.inspect]
    split
    · split
      · split <;> exact hsame
      · exact hsame
    · exact hsame
  | tick => exact hsame
  | passBegin | passInspect i | passSkip i =>
    simp only [Parameters.step]
    split <;> exact hsame

/-! ### The promise of a ready version -/

/-- The entry a version row names holds the value submitted for the row, which is the value the
row has the fingerprint of. -/
def Kept (s : State) (j : ℕ) (w : ParameterVersion) : Prop :=
  ∃ ref ∈ w.secretReference, ∃ backend ∈ w.secretBackendVersion, ∃ v ∈ s.submitted j,
    w.fingerprint = some (secretFingerprint v) ∧ s.kv.get ref backend = some v
deriving Decidable

/-- Every ready version keeps its promise. -/
def SecretIntegrity (s : State) : Prop :=
  ∀ j w, s.tables.versions.lookup j = some w → w.valueState = .ready → Kept s j w
deriving Decidable

theorem Sound.secretIntegrity (h : Sound s) : SecretIntegrity s := by
  intro j w hw hready
  obtain ⟨ref, href⟩ := h.shape.reference_isSome hw
  obtain ⟨_, -, hfit⟩ := h.shape.fits j w hw
  obtain ⟨v, hv, hfp⟩ := h.values.fingerprint j w hw
  exact ⟨ref, href, w.version, hfit.backend, v, hv, hfp,
    (h.values.ready j w ref hw hready href).trans hv⟩

theorem sound_initial (now : Time) (workspaces : Table Workspace) :
    Sound (initial now workspaces) := by
  refine ⟨⟨?_, ?_, ?_, ?_, ?_, ?_⟩, ⟨?_, ?_, ?_, ?_, ?_⟩, ?_, ?_⟩ <;> simp [initial]

theorem tidy_initial (now : Time) (workspaces : Table Workspace) :
    Tidy (initial now workspaces).tables := by
  refine ⟨⟨?_, ?_, ?_, ?_, ?_, ?_, ?_, ?_, ?_⟩, ⟨?_, ?_⟩, ⟨⟨le_rfl, rfl⟩, ?_, ?_, ?_, ?_⟩, ?_⟩ <;>
    simp [initial]

/-- **Secret value integrity.** In a run that takes no stale write and no late abandonment, every
ready version holds the value its request submitted. -/
theorem secretIntegrity_of_undisturbed (timeout now : Time) (workspaces : Table Workspace)
    (acts : List Action)
    (h : Guarded (step timeout) Undisturbed (initial now workspaces) acts) :
    SecretIntegrity (run (step timeout) (initial now workspaces) acts) :=
  (guarded_run_induction (I := fun s => Sound s ∧ Tidy s.tables)
    ⟨sound_initial now workspaces, tidy_initial now workspaces⟩
    (fun s a hs ha => ⟨hs.1.step hs.2 timeout a ha, hs.2.change (change_step timeout s a)⟩)
    h).1.secretIntegrity

/-! ### Runs

One workspace, one secret, two requests to replace it. -/

/-- One workspace. -/
def someWorkspace : Table Workspace := Table.empty.insert ⟨"wsp-one", "ws-one", .ready⟩

/-- Create the secret, then replace it once, undisturbed; a recovery pass looks on. -/
def orderlyRun : List Action :=
  [.beginCreate (passwordInput "zero" "k0"), .put 1, .complete 1,
    .beginReplace (passwordInput "one" "k1") 1, .put 2, .passBegin, .passInspect 1, .passAct 1,
    .complete 2]

theorem secretIntegrity_orderlyRun :
    Guarded (step 60) Undisturbed (initial 0 someWorkspace) orderlyRun ∧
      SecretIntegrity (run (step 60) (initial 0 someWorkspace) orderlyRun) :=
  ⟨by decide +kernel, secretIntegrity_of_undisturbed 60 0 someWorkspace orderlyRun
    (by decide +kernel)⟩

/-- The first replacement stalls before its write, is abandoned, and writes after a second
replacement has reserved the same version; then it completes it. -/
def staleRun : List Action :=
  [.beginCreate (passwordInput "zero" "k0"), .put 1, .complete 1,
    .beginReplace (passwordInput "one" "k1") 1, .tick 60, .passBegin, .passInspect 1, .passAct 1,
    .beginReplace (passwordInput "two" "k2") 1, .put 2, .complete 2]

/-- **The promise can be broken**: the second request's version is ready and holds the first
request's value. -/
theorem not_secretIntegrity_staleRun :
    ¬ SecretIntegrity (run (step 60) (initial 0 someWorkspace) staleRun) := by
  decide +kernel

/-- The write of the second replacement lands between the reading and the abandonment of a pass:
the third request finds its version written, and makes it ready. -/
def lateAbandonRun : List Action :=
  [.beginCreate (passwordInput "zero" "k0"), .put 1, .complete 1,
    .beginReplace (passwordInput "one" "k1") 1, .tick 60, .passBegin, .passInspect 1, .put 2,
    .passAct 1, .beginReplace (passwordInput "two" "k2") 1, .put 3, .inspect 3, .complete 3]

example : ¬ SecretIntegrity (run (step 60) (initial 0 someWorkspace) lateAbandonRun) := by
  decide +kernel

end Molejo.Parameters
