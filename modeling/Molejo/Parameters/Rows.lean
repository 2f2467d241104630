import Molejo.Parameters.History
import Molejo.Parameters.Protocol

/-!
# What a version row has

`History` is about the numbers of versions. This file is about their columns, as far as they depend
on the parameter: the reference of a secret ends in the public id of its parameter and is the same
in all of its versions, the version of the entry is the version of the row, and a pending row has
what the transactions that close it read. Every transaction keeps this (`OrderlyRows.change`), if
values that are stored without a mutation are texts, and references are made from public ids.
-/

namespace Molejo.Parameters

open Table

variable {p : Parameter} {reservations : Table Reservation}

/-- The reference ends in the public id. -/
def RefersTo (publicId reference : String) : Prop := ∃ pre, reference = pre ++ publicId

/-- What a version has, by what its parameter is. -/
structure RowOf (p : Parameter) (v : ParameterVersion) : Prop where
  pending : v.valueState = .pending → p.archivedAt = none ∧ p.kind = .secret ∧
    (∃ e, v.expectedSecretBackendVersion = some e ∧ e + 1 = v.version) ∧
    (∃ path, v.requestedPath = some path) ∧ ∃ text, v.requestedDescription = some text
  settled : v.valueState ≠ .pending → v.expectedSecretBackendVersion = none
  unpurged : p.purgedAt = none → v.valueState ≠ .purged
  secret : p.kind = .secret → v.valueState ≠ .purged →
    (∃ reference, v.secretReference = some reference ∧ RefersTo p.publicId reference) ∧
      v.secretBackendVersion = some v.version

/-- What of a parameter its rows depend on. -/
def traits (p : Parameter) : Option Time × Option Time × Kind × String × ℕ :=
  (p.archivedAt, p.purgedAt, p.kind, p.publicId, p.workspaceId)

theorem RowOf.of_traits {q : Parameter} {v : ParameterVersion} (h : RowOf p v)
    (heq : traits q = traits p) : RowOf q v := by
  simp only [traits, Prod.mk.injEq] at heq
  obtain ⟨harchived, hpurged, hkind, hid, -⟩ := heq
  exact ⟨harchived ▸ hkind ▸ h.pending, h.settled, hpurged ▸ h.unpurged, hkind ▸ hid ▸ h.secret⟩

/-- A text in a `PlainText` parameter. -/
theorem rowOf_plainText (hkind : p.kind = .plainText) (text : String) (now : Time)
    (parameterId version actorId : ℕ) :
    RowOf p ((ParameterValue.plainText text).row now parameterId version actorId) :=
  ⟨nofun, fun _ => rfl, fun _ => nofun, fun hsecret => nomatch hkind.symm.trans hsecret⟩

/-- A pending version of a live secret, that expects the version before it. -/
theorem rowOf_pendingVersion {reference : String} (hlive : p.archivedAt = none)
    (hkind : p.kind = .secret) (href : RefersTo p.publicId reference) (now : Time)
    (parameterId e actorId : ℕ) (fingerprint : Fingerprint) (key payload : Digest)
    (path description : String) :
    RowOf p (pendingVersion now parameterId (e + 1) actorId reference e fingerprint key payload path
      description) :=
  ⟨fun _ => ⟨hlive, hkind, ⟨e, rfl, rfl⟩, ⟨path, rfl⟩, description, rfl⟩,
    fun hne => absurd rfl hne, fun _ => nofun, fun _ _ => ⟨⟨reference, rfl, href⟩, rfl⟩⟩

/-- The rows of versions have what is read of them. -/
structure OrderlyRows (t : Tables) : Prop where
  start : 1 ≤ t.parameters.nextId ∧ t.parameters.lookup 0 = none
  valid : ∀ i p, t.parameters.lookup i = some p → PublicIdValid p.publicId
  purged : ∀ i p, t.parameters.lookup i = some p → p.purgedAt ≠ none → p.archivedAt ≠ none
  row : ∀ j v p, t.versions.lookup j = some v → t.parameters.lookup v.parameterId = some p →
    RowOf p v
  reference : ∀ j v k x r s, t.versions.lookup j = some v → t.versions.lookup k = some x →
    v.parameterId = x.parameterId → v.secretReference = some r → x.secretReference = some s → r = s

variable {R : Rules} {t t' : Tables} {i j : ℕ} {p : Parameter} {v : ParameterVersion}

/-- The secret of a live parameter is at the version of the same number. -/
theorem OrderlyRows.secret_of_live (h : OrderlyRows t) (hv : t.versions.lookup j = some v)
    (hp : t.parameters.lookup v.parameterId = some p) (hlive : p.archivedAt = none)
    (hsecret : p.kind = .secret) :
    (∃ reference, v.secretReference = some reference ∧ RefersTo p.publicId reference) ∧
      v.secretBackendVersion = some v.version := by
  have hrow := h.row j v p hv hp
  refine hrow.secret hsecret (hrow.unpurged ?_)
  by_contra hpurged
  exact h.purged _ p hp hpurged hlive

/-! ### The rows -/

/-- A new parameter comes with its first version. -/
theorem OrderlyRows.insertFirst (h : OrderlyRows t) (hh : History t)
    (hid : v.parameterId = t.parameters.nextId) (hvalid : PublicIdValid p.publicId)
    (hpurged : p.purgedAt = none) (hrow : RowOf p v) :
    OrderlyRows { t with
      parameters := t.parameters.insert p
      versions := t.versions.insert v
      reservations := reservations } := by
  have hne : ∀ {k x}, t.versions.lookup k = some x → x.parameterId ≠ t.parameters.nextId :=
    fun hx => Nat.ne_of_lt (hh.owner_lt hx)
  refine ⟨⟨Nat.le_succ_of_le h.start.1, ?_⟩, forall_insert h.valid hvalid,
    forall_insert h.purged fun hne => absurd hpurged hne, fun k x q hx hq => ?_,
    fun k x l y r s hx hy hxy hr hs => ?_⟩
  · rw [Option.eq_none_iff_forall_ne_some]
    intro q hq
    rcases lookup_insert_eq_some.mp hq with ⟨_, -⟩ | hq
    · exact absurd h.start.1 (by omega)
    · exact nomatch hq.symm.trans h.start.2
  · rcases lookup_insert_eq_some.mp hx with ⟨-, rfl⟩ | hx
    · rw [hid, lookup_insert_self] at hq
      cases hq
      exact hrow
    · rcases lookup_insert_eq_some.mp hq with ⟨hn, -⟩ | hq
      · exact absurd hn (hne hx)
      · exact h.row k x q hx hq
  · rcases lookup_insert_eq_some.mp hx with ⟨-, rfl⟩ | hx' <;>
      rcases lookup_insert_eq_some.mp hy with ⟨-, rfl⟩ | hy'
    · exact Option.mem_unique hr hs
    · exact absurd (hxy.symm.trans hid) (hne hy')
    · exact absurd (hxy.trans hid) (hne hx')
    · exact h.reference k x l y r s hx' hy' hxy hr hs

/-- A parameter gets a next version. -/
theorem OrderlyRows.insertNext (h : OrderlyRows t) (hp : t.parameters.lookup i = some p)
    (hid : v.parameterId = i) (hrow : RowOf p v)
    (href : ∀ k x r s, t.versions.lookup k = some x → x.parameterId = i →
      v.secretReference = some r → x.secretReference = some s → r = s) :
    OrderlyRows { t with versions := t.versions.insert v, reservations := reservations } := by
  subst hid
  refine { h with
    row := fun k x q hx hq => ?_
    reference := fun k x l y r s hx hy hxy hr hs => ?_ }
  · rcases lookup_insert_eq_some.mp hx with ⟨-, rfl⟩ | hx
    · cases hp.symm.trans hq
      exact hrow
    · exact h.row k x q hx hq
  · rcases lookup_insert_eq_some.mp hx with ⟨-, rfl⟩ | hx' <;>
      rcases lookup_insert_eq_some.mp hy with ⟨-, rfl⟩ | hy'
    · exact Option.mem_unique hr hs
    · exact href l y r s hy' hxy.symm hr hs
    · exact (href k x s r hx' hxy hs hr).symm
    · exact h.reference k x l y r s hx' hy' hxy hr hs

/-- A change of parameters that keeps their traits. -/
theorem OrderlyRows.modifyParameters (h : OrderlyRows t) {f : Parameter → Parameter}
    {Q : ℕ → Parameter → Prop} [∀ i p, Decidable (Q i p)] (hf : ∀ p, traits (f p) = traits p) :
    OrderlyRows { t with
      parameters := t.parameters.modify Q f, reservations := reservations } := by
  have hold : ∀ {i q}, (t.parameters.modify Q f).lookup i = some q →
      ∃ p, t.parameters.lookup i = some p ∧ traits q = traits p :=
    fun hq => exists_of_lookup_modify hq traits hf
  refine ⟨⟨h.start.1, ?_⟩, fun i q hq => ?_, fun i q hq => ?_, fun k x q hx hq => ?_, h.reference⟩
  · rw [lookup_modify, h.start.2]
    rfl
  · obtain ⟨p, hp, heq⟩ := hold hq
    simp only [traits, Prod.mk.injEq] at heq
    rw [heq.2.2.2.1]
    exact h.valid i p hp
  · obtain ⟨p, hp, heq⟩ := hold hq
    simp only [traits, Prod.mk.injEq] at heq
    rw [heq.1, heq.2.1]
    exact h.purged i p hp
  · obtain ⟨p, hp, heq⟩ := hold hq
    exact (h.row k x p hx hp).of_traits heq

/-- A pending version becomes ready. -/
theorem OrderlyRows.complete (h : OrderlyRows t) (hh : History t) (now : Time) {m : SecretMutation}
    (hv : t.versions.lookup j = some v) (hm : m.Names v) (hpending : v.valueState = .pending) :
    OrderlyRows { t with
      versions := t.versions.modify (fun _ w => m.Names w) (ParameterVersion.complete now) } := by
  have hold : ∀ {k x}, (t.versions.modify (fun _ w => m.Names w)
      (ParameterVersion.complete now)).lookup k = some x → ∃ y, t.versions.lookup k = some y ∧
        (x.parameterId, x.secretReference) = (y.parameterId, y.secretReference) :=
    fun hx => exists_of_lookup_modify hx (fun y => (y.parameterId, y.secretReference))
      fun _ => rfl
  refine { h with
    row := fun k x q hx hq => ?_
    reference := fun k x l y r s hx hy hxy hr hs => ?_ }
  · obtain ⟨_, hy, ⟨hnames, rfl⟩ | ⟨-, rfl⟩⟩ := lookup_modify_eq_some.mp hx
    · obtain rfl := hh.eq_of_names hv hm hy hnames
      cases hv.symm.trans hy
      have hrow := h.row k v q hv hq
      refine ⟨nofun, fun _ => rfl, fun _ => nofun, fun hsecret _ => ?_⟩
      exact hrow.secret hsecret (by rw [hpending]; decide)
    · exact h.row k x q hy hq
  · obtain ⟨x', hx', heq⟩ := hold hx
    obtain ⟨y', hy', heq'⟩ := hold hy
    obtain ⟨hxi, hxr⟩ := Prod.mk.inj heq
    obtain ⟨hyi, hyr⟩ := Prod.mk.inj heq'
    exact h.reference k x' l y' r s hx' hy' (hxi.symm.trans (hxy.trans hyi)) (hxr ▸ hr)
      (hyr ▸ hs)

/-- Rows are deleted. -/
theorem OrderlyRows.delete (h : OrderlyRows t) {P : ℕ → ParameterVersion → Prop}
    {Q : ℕ → Parameter → Prop} [∀ i v, Decidable (P i v)] [∀ i p, Decidable (Q i p)] :
    OrderlyRows { t with
      versions := t.versions.delete P
      parameters := t.parameters.delete Q
      reservations := reservations } := by
  refine ⟨⟨h.start.1, ?_⟩, fun i q hq => ?_, fun i q hq => ?_, fun k x q hx hq => ?_,
    fun k x l y r s hx hy => ?_⟩
  · rw [Option.eq_none_iff_forall_ne_some]
    intro q hq
    exact nomatch (lookup_delete_eq_some.mp hq).1.symm.trans h.start.2
  · exact h.valid i q (lookup_delete_eq_some.mp hq).1
  · exact h.purged i q (lookup_delete_eq_some.mp hq).1
  · exact h.row k x q (lookup_delete_eq_some.mp hx).1 (lookup_delete_eq_some.mp hq).1
  · exact h.reference k x l y r s (lookup_delete_eq_some.mp hx).1
      (lookup_delete_eq_some.mp hy).1

/-- A parameter without pending versions is archived, or purged after that. -/
theorem OrderlyRows.retire (h : OrderlyRows t) {f : Parameter → Parameter}
    (hf : ∀ p, (f p).kind = p.kind ∧ (f p).publicId = p.publicId ∧ (f p).archivedAt ≠ none ∧
      (f p).purgedAt = p.purgedAt)
    (hidle : ¬ HasPendingVersion t i) :
    OrderlyRows { t with parameters := t.parameters.modify (fun j _ => j = i) f } := by
  refine ⟨⟨h.start.1, ?_⟩, forall_modify h.valid fun k q hq _ => ?_,
    forall_modify h.purged fun _ q _ _ _ => (hf q).2.2.1, fun k x q hx hq => ?_,
    h.reference⟩
  · rw [lookup_modify, h.start.2]
    rfl
  · rw [(hf q).2.1]
    exact h.valid k q hq
  · obtain ⟨p, hp, ⟨hk, rfl⟩ | ⟨-, rfl⟩⟩ := lookup_modify_eq_some.mp hq
    · have hrow := h.row k x p hx hp
      refine ⟨fun hpending => ?_, hrow.settled, (hf p).2.2.2 ▸ hrow.unpurged, ?_⟩
      · exact absurd (hasPendingVersion_iff.mpr ⟨k, x, hx, hk, hpending⟩) hidle
      · rw [(hf p).1, (hf p).2.1]
        exact hrow.secret
    · exact h.row k x q hx hp

/-- **Every transaction keeps the rows in order.** -/
theorem OrderlyRows.change (h : OrderlyRows t) (hh : History t)
    (htext : ∀ {kind value}, R.value kind value →
      kind = .plainText ∧ ∃ text, value = .plainText text)
    (hrefers : ∀ {publicId reference}, R.reference publicId reference →
      RefersTo publicId reference) (hc : Change R t t') : OrderlyRows t' := by
  cases hc with
  | same hsame =>
    obtain ⟨_, _, _, _⟩ := t'
    obtain ⟨rfl, rfl, rfl⟩ := hsame
    exact { h with }
  | create hvalue hvalid =>
    obtain ⟨rfl, text, rfl⟩ := htext hvalue
    exact h.insertFirst hh rfl hvalid rfl (rowOf_plainText rfl text _ _ _ _)
  | @replace now actorId i p path description _ hvalue hp _ _ _ =>
    obtain ⟨hkind, text, rfl⟩ := htext hvalue
    have hnext : OrderlyRows { t with
        versions := t.versions.insert ((ParameterValue.plainText text).row now i
          (p.currentVersion + 1) actorId) } :=
      h.insertNext hp rfl (rowOf_plainText hkind text _ _ _ _) fun _ _ _ _ _ _ hr => nomatch hr
    exact hnext.modifyParameters (f := Parameter.replace path description (p.currentVersion + 1))
      fun _ => rfl
  | @reserveFirst now workspaceId actorId publicId path description _ fingerprint key payload
      hreference hvalid =>
    have hrow := rowOf_pendingVersion (p := pendingParameter workspaceId publicId path description)
      rfl rfl (hrefers hreference) now t.parameters.nextId 0 actorId fingerprint key payload
      path description
    exact h.insertFirst hh rfl hvalid rfl hrow
  | @reserveNext now actorId i _ backend p current path description _ fingerprint key payload _ hp
      hsecret _ hlive _ hcurrent hid hversion href hbackend _ =>
    obtain ⟨⟨_, href', hown⟩, hback⟩ :=
      h.secret_of_live hcurrent (hid ▸ hp) hlive hsecret
    cases href.symm.trans href'
    obtain rfl : backend = p.currentVersion := by
      rw [← hversion]
      exact Option.mem_unique hbackend hback
    have hrow := rowOf_pendingVersion hlive hsecret hown now i p.currentVersion actorId
      fingerprint key payload path description
    refine h.insertNext hp rfl hrow fun k x r s hx hxi hr hs => ?_
    cases hr
    exact h.reference _ current k x _ s hcurrent hx (hid.trans hxi.symm) href hs
  | @complete now m _ _ path description _ hw hm hpending =>
    exact (h.complete hh now hw hm hpending).modifyParameters
      (f := Parameter.complete path description m.parameterVersion) fun _ => rfl
  | abandon => exact h.delete
  | archive _ _ hidle =>
    exact h.retire (fun p => ⟨rfl, rfl, nofun, rfl⟩) hidle

end Molejo.Parameters
