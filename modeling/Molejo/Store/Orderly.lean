import Molejo.Parameters.Rows
import Molejo.Store.Secrets

/-!
# What pending versions can count on

A pending version is closed by one of two transactions, and each can be refused: a completion by the
index of the active paths, if another parameter has the path that was asked for; an abandonment by
the foreign key of the bindings, if an environment binds the version. A listing of pending versions
can fail as a whole, if a column of one of them is `NULL`.

This module is about the tables of parameters. They are `Orderly` if the rows have what the closing
transactions read, and if a reserved path is the path of no other active parameter. Every
transaction keeps them so, a purge included, if its caller keeps to `orderlyRules`; of these, only
one is not kept by the code itself: a replacement of a secret does not look whether another
parameter has the path.
-/

namespace Molejo.Store

open Transaction Parameters Table

/-! ### The invariant -/

/-- No other active parameter of the workspace has the path. -/
def PathFree (t : Tables) (i : ℕ) (path : String) : Prop :=
  ∀ p, t.parameters.lookup i = some p → ∀ j q, t.parameters.lookup j = some q →
    (q.workspaceId = p.workspaceId ∧ q.path = path ∧ q.archivedAt = none) → j = i

/-- What callers have to keep to. A version is completed when it is at least current in the
key–value store. -/
def orderlyRules (kv : VersionedMap String String) : Rules where
  value kind value := kind = .plainText ∧ ∃ text, value = .plainText text
  reference := RefersTo
  path := PathFree
  completed t m := ∀ j v reference, t.versions.lookup j = some v → m.Names v →
    v.valueState = .pending → v.secretReference = some reference →
    m.parameterVersion ≤ kv.current reference

/-- A reserved path is of the workspace of its parameter, and nobody else has it. -/
structure OrderlyPaths (t : Tables) : Prop where
  workspace : ∀ k r p, t.reservations.lookup k = some r →
    t.parameters.lookup r.parameterId = some p → r.workspaceId = p.workspaceId
  free : ∀ k r i q, t.reservations.lookup k = some r → t.parameters.lookup i = some q →
    q.workspaceId = r.workspaceId → q.path = r.path → q.archivedAt = none → i = r.parameterId
  apart : ∀ k r l q, t.reservations.lookup k = some r → t.reservations.lookup l = some q →
    r.workspaceId = q.workspaceId → r.path = q.path → k = l

/-- **The tables of parameters are in order.** -/
structure Orderly (t : Tables) : Prop where
  history : History t
  rows : OrderlyRows t
  paths : OrderlyPaths t

variable {t t' : Tables} {kv : VersionedMap String String} {i j : ℕ} {p : Parameter}
  {v : ParameterVersion}

/-! ### The paths -/

/-- A path is reserved that was not. -/
theorem apart_insert (h : OrderlyPaths t) {new : Reservation}
    (hunique : ∀ k r, t.reservations.lookup k = some r →
      ¬ (r.workspaceId = new.workspaceId ∧ r.path = new.path)) :
    ∀ k r l q, (t.reservations.insert new).lookup k = some r →
      (t.reservations.insert new).lookup l = some q →
      r.workspaceId = q.workspaceId → r.path = q.path → k = l :=
  forall_pairs_insert h.apart (fun _ _ => rfl) fun k r hr =>
    ⟨fun hws hpath => absurd ⟨hws.symm, hpath.symm⟩ (hunique k r hr),
      fun hws hpath => absurd ⟨hws, hpath⟩ (hunique k r hr)⟩

/-- Parameters are updated within their workspaces, and no path is reserved. -/
theorem OrderlyPaths.of_modify (h : OrderlyPaths t) {P : ℕ → Parameter → Prop}
    {_ : ∀ i q, Decidable (P i q)} {f : Parameter → Parameter} {versions : Table ParameterVersion}
    {reservations : Table Reservation} (hf : ∀ q, (f q).workspaceId = q.workspaceId)
    (hr : ∀ k r, reservations.lookup k = some r → t.reservations.lookup k = some r)
    (hfree : ∀ k r i q, reservations.lookup k = some r → t.parameters.lookup i = some q → P i q →
      q.workspaceId = r.workspaceId → (f q).path = r.path → (f q).archivedAt = none →
      i = r.parameterId) :
    OrderlyPaths { t with parameters := t.parameters.modify P f, versions, reservations } where
  workspace k r q hk hq := by
    obtain ⟨q', hq', heq⟩ := exists_of_lookup_modify hq Parameter.workspaceId hf
    rw [heq]
    exact h.workspace k r q' (hr k r hk) hq'
  free k r i q hk hq hws hpath hlive := by
    obtain ⟨q', hq', ⟨hP, rfl⟩ | ⟨-, rfl⟩⟩ := lookup_modify_eq_some.mp hq
    · exact hfree k r i q' hk hq' hP ((hf q').symm.trans hws) hpath hlive
    · exact h.free k r i q (hr k r hk) hq' hws hpath hlive
  apart k r l q hk hl := h.apart k r l q (hr k r hk) (hr l q hl)

/-- The path of a pending version is the one that is reserved for it. -/
theorem reservation_of_pending (h : History t) (hv : t.versions.lookup j = some v)
    (hpending : v.valueState = .pending) {path : String} (hpath : v.requestedPath = some path) :
    ∃ k r, t.reservations.lookup k = some r ∧ r.parameterId = v.parameterId ∧
      r.parameterVersion = v.version ∧ r.path = path := by
  obtain ⟨k, r, hr, hri, hrv⟩ := h.reserves j v hv hpending
  obtain ⟨j', w, hw, -, hwi, hwv, hwpath⟩ := h.reserved k r hr
  obtain rfl := h.unique j' w j v hw hv (hwi.trans hri) (hwv.trans hrv)
  cases hw.symm.trans hv
  exact ⟨k, r, hr, hri, hrv, Option.mem_unique hwpath hpath⟩

/-- **Every transaction keeps the paths in order.** -/
theorem OrderlyPaths.change (h : OrderlyPaths t) (hh : History t) (hrows : OrderlyRows t)
    (hc : Change (orderlyRules kv) t t') : OrderlyPaths t' := by
  -- a reservation is of a parameter that is there
  have howned : ∀ {k r}, t.reservations.lookup k = some r →
      ∃ p, t.parameters.lookup r.parameterId = some p := by
    intro k r hr
    obtain ⟨j, w, hw, -, hwi, -⟩ := hh.reserved k r hr
    obtain ⟨p, hp, -⟩ := hh.owned j w hw
    exact ⟨p, hwi ▸ hp⟩
  have hold : ∀ {k r p q}, t.reservations.lookup k = some r →
      (t.parameters.insert q).lookup r.parameterId = some p → r.workspaceId = p.workspaceId := by
    intro k r p q hr hp
    obtain ⟨_, hp'⟩ := howned hr
    cases (lookup_insert_of_lookup hp').symm.trans hp
    exact h.workspace k r p hr hp'
  cases hc with
  | same hsame =>
    obtain ⟨_, _, _, _⟩ := t'
    obtain ⟨rfl, rfl, rfl⟩ := hsame
    exact { h with }
  | create _ _ _ hreserved =>
    refine ⟨fun k r p hr hp => hold hr hp, fun k r i q hr hq hws hpath hlive => ?_, h.apart⟩
    rcases lookup_insert_eq_some.mp hq with ⟨-, rfl⟩ | hq
    · obtain ⟨_, hp⟩ := howned hr
      refine absurd (any_iff.mpr ⟨k, r, hr, hws.symm, hpath.symm, fun h0 => ?_⟩) hreserved
      rw [h0, hrows.start.2] at hp
      cases hp
    · exact h.free k r i q hr hq hws hpath hlive
  | replace _ hp hlive _ hreserved =>
    refine h.of_modify (fun _ => rfl) (fun _ _ hr => hr) fun k r l q hr hq hP hws hpath _ => ?_
    obtain ⟨rfl, -⟩ := hP
    cases hp.symm.trans hq
    by_contra hne
    exact hreserved (any_iff.mpr ⟨k, r, hr, hws.symm, hpath.symm, fun he => hne he.symm⟩)
  | reserveFirst _ _ _ hpath hunique =>
    refine ⟨fun k r p hr hp => ?_, fun k r i q hr hq hws hqpath hlive => ?_, apart_insert h hunique⟩
    · rcases lookup_insert_eq_some.mp hr with ⟨-, rfl⟩ | hr
      · cases lookup_insert_self.symm.trans hp
        rfl
      · exact hold hr hp
    · rcases lookup_insert_eq_some.mp hr with ⟨-, rfl⟩ | hr' <;>
        rcases lookup_insert_eq_some.mp hq with ⟨hi, rfl⟩ | hq'
      · exact hi
      · exact absurd ⟨hws, hqpath, hlive⟩ (hpath i q hq')
      · exact absurd ⟨hws.symm, hqpath.symm⟩ (hunique k r hr')
      · exact h.free k r i q hr' hq' hws hqpath hlive
  | @reserveNext _ _ _ _ _ p _ _ _ _ _ _ _ hpath hp _ _ _ _ _ _ _ _ _ hunique =>
    refine ⟨fun k r q hr hq => ?_, fun k r l q hr hq hws hqpath hqlive => ?_,
      apart_insert h hunique⟩
    · rcases lookup_insert_eq_some.mp hr with ⟨-, rfl⟩ | hr
      · cases hp.symm.trans hq
        rfl
      · exact h.workspace k r q hr hq
    · rcases lookup_insert_eq_some.mp hr with ⟨-, rfl⟩ | hr
      · exact hpath p hp l q hq ⟨hws, hqpath, hqlive⟩
      · exact h.free k r l q hr hq hws hqpath hqlive
  | @complete _ _ j w path _ _ hw hm hpending hpath _ =>
    refine h.of_modify (fun _ => rfl) (fun _ _ hr => (lookup_delete_eq_some.mp hr).1)
      fun k r i q hr hq hi hws hqpath _ => ?_
    obtain ⟨hr, hkept⟩ := lookup_delete_eq_some.mp hr
    subst hi
    -- the path was reserved for this very version, and that reservation is gone
    obtain ⟨l, s, hs, hsi, hsv, hspath⟩ := reservation_of_pending hh hw hpending hpath
    have hsws := h.workspace l s q hs (by rw [hsi, hm.1]; exact hq)
    obtain rfl := h.apart k r l s hr hs (hws.symm.trans hsws.symm) (hqpath.symm.trans hspath.symm)
    cases hr.symm.trans hs
    exact absurd ⟨hsi.trans hm.1, hsv.trans hm.2⟩ hkept
  | abandon =>
    refine ⟨fun k r q hr hq => ?_, fun k r i q hr hq => ?_, forall_pairs_delete h.apart⟩
    · exact h.workspace k r q (lookup_delete_eq_some.mp hr).1
        (lookup_delete_eq_some.mp hq).1
    · exact h.free k r i q (lookup_delete_eq_some.mp hr).1
        (lookup_delete_eq_some.mp hq).1
  | archive hp =>
    refine h.of_modify (fun _ => rfl) (fun _ _ hr => hr) fun k r i q _ _ _ _ _ hlive => ?_
    cases hlive

/-- **Every transaction keeps the tables in order.** -/
theorem Orderly.change (h : Orderly t) (hc : Change (orderlyRules kv) t t') : Orderly t' :=
  ⟨h.history.change hc, h.rows.change h.history (fun hv => hv) (fun hr => hr) hc,
    h.paths.change h.history h.rows hc⟩

/-! ### Purging -/

/-- An archived parameter has no pending version. -/
theorem Orderly.idle_of_archived (h : Orderly t) (hp : t.parameters.lookup i = some p)
    (harchived : p.archivedAt ≠ none) : ¬ HasPendingVersion t i := by
  intro hpending
  obtain ⟨j, v, hv, rfl, hstate⟩ := hasPendingVersion_iff.mp hpending
  exact harchived ((h.rows.row j v p hv hp).pending hstate).1

/-- The tables after a purge. -/
def purgeTables (now : Time) (t : Tables) (i : ℕ) : Tables :=
  { t with
    versions := t.versions.modify (fun _ v => v.parameterId = i) purgeVersionRow
    parameters := t.parameters.modify
      (fun j p => j = i ∧ p.archivedAt ≠ none ∧ p.purgedAt = none) (purgeParameterRow now) }

/-- **A purge keeps the tables in order.** -/
theorem Orderly.purge (h : Orderly t) (now : Time) (hp : t.parameters.lookup i = some p)
    (harchived : p.archivedAt ≠ none) (hpurged : p.purgedAt = none) :
    Orderly (purgeTables now t i) := by
  have hidle := h.idle_of_archived hp harchived
  have hsettled : ∀ {k x}, t.versions.lookup k = some x → x.parameterId = i →
      x.valueState ≠ .pending :=
    fun hx hxi hpending => hidle (hasPendingVersion_iff.mpr ⟨_, _, hx, hxi, hpending⟩)
  have hready : p.valueState ≠ .pending := h.history.not_pending_of_idle hp hidle
  refine ⟨h.history.of_agree (agree_modify_of fun k x hx hxi => ?_)
    (agree_modify_of fun k q hq hQ => ?_) rfl, ⟨⟨h.rows.start.1, ?_⟩,
    forall_modify h.rows.valid fun k q hq _ => h.rows.valid k q hq,
    forall_modify h.rows.purged fun _ _ _ hQ _ => hQ.2.1, fun k x q hx hq => ?_,
    fun k x l y r s hx hy hxy hr hs => ?_⟩,
    h.paths.of_modify (fun _ => rfl) (fun _ _ hr => hr) fun k r l q hr hq _ =>
      h.paths.free k r l q hr hq⟩
  · simp [History.versionPlace, purgeVersionRow, hsettled hx hxi]
  · obtain ⟨rfl, -⟩ := hQ
    cases hp.symm.trans hq
    simp [History.parameterPlace, purgeParameterRow, hready]
  · rw [purgeTables, lookup_modify, h.rows.start.2]
    rfl
  · obtain ⟨y, hy, ⟨hyi, rfl⟩ | ⟨hyi, rfl⟩⟩ := lookup_modify_eq_some.mp hx
    · -- the parameter is purged with its versions
      have hq' := hq
      rw [show (purgeVersionRow y).parameterId = i from hyi, purgeTables,
        lookup_modify_of_pos hp ⟨rfl, harchived, hpurged⟩] at hq'
      cases hq'
      refine ⟨by rintro ⟨⟩, fun _ => ?_, by rintro ⟨⟩, fun _ hne => absurd rfl hne⟩
      exact (h.rows.row k y p hy (hyi ▸ hp)).settled (hsettled hy hyi)
    · obtain ⟨_, hq', ⟨hQ, -⟩ | ⟨-, rfl⟩⟩ := lookup_modify_eq_some.mp hq
      · exact absurd hQ.1 hyi
      · exact h.rows.row k x q hy hq'
  · obtain ⟨_, hx', ⟨-, rfl⟩ | ⟨-, rfl⟩⟩ := lookup_modify_eq_some.mp hx
    · cases hr
    · obtain ⟨_, hy', ⟨-, rfl⟩ | ⟨-, rfl⟩⟩ := lookup_modify_eq_some.mp hy
      · cases hs
      · exact h.rows.reference k x l y r s hx' hy' hxy hr hs

/-- **An archived parameter can be purged.** -/
theorem Orderly.markParameterPurged_isOk {db : Db} (h : Orderly db.toTables) (now : Time)
    (hp : db.parameters.lookup i = some p) (harchived : p.archivedAt ≠ none)
    (hpurged : p.purgedAt = none) :
    markParameterPurged now db i = .ok (putTables db (purgeTables now db.toTables i)) := by
  have hidle := h.idle_of_archived hp harchived
  have hexpected : ¬ db.versions.Any fun _ v => v.parameterId = i ∧
      v.expectedSecretBackendVersion ≠ none := by
    simp only [not_any_iff]
    rintro j v hv ⟨rfl, hne⟩
    refine hne ((h.rows.row j v p hv hp).settled fun hpending => hidle ?_)
    exact hasPendingVersion_iff.mpr ⟨j, v, hv, rfl, hpending⟩
  have hany : db.parameters.Any fun j q => j = i ∧ q.archivedAt ≠ none ∧ q.purgedAt = none :=
    any_iff.mpr ⟨i, p, hp, rfl, harchived, hpurged⟩
  simp only [markParameterPurged, require, if_pos hexpected, ok_bind, if_pos hany]
  rfl

/-! ### Closing a pending version -/

variable {m : SecretMutation}

/-- What a mutation that describes a pending version knows of it. -/
theorem Orderly.describes (h : Orderly t) (hv : t.versions.lookup j = some v)
    (hpending : v.valueState = .pending) (hm : Describes t m v) :
    ∃ p, t.parameters.lookup m.parameterId = some p ∧ p.archivedAt = none ∧ p.kind = .secret ∧
      RefersTo p.publicId m.reference ∧ m.expectedBackendVersion = Parameters.settled p ∧
      m.backendVersion = Parameters.settled p + 1 ∧
      m.parameterVersion = Parameters.settled p + 1 := by
  obtain ⟨p, hp, _, hplaced⟩ := h.history.owned j v hv
  have hrow := h.rows.row j v p hv hp
  obtain ⟨hlive, hkind, ⟨_, he, _⟩, -⟩ := hrow.pending hpending
  obtain ⟨⟨_, href, hrefers⟩, hbackend⟩ :=
    hrow.secret hkind (by rw [hpending]; decide)
  have hnext : v.version = Parameters.settled p + 1 := by
    rcases hplaced with ⟨hne, -⟩ | ⟨-, hn⟩
    · exact absurd hpending hne
    · exact hn
  have hexpected := Option.some.inj (he.symm.trans hm.expected)
  have hback := Option.some.inj (hbackend.symm.trans hm.backend)
  have hsame := Option.some.inj (href.symm.trans hm.reference)
  refine ⟨p, hm.parameterId ▸ hp, hlive, hkind, hsame ▸ hrefers, ?_, ?_, ?_⟩
  · omega
  · omega
  · rw [← hm.version, hnext]

/-- After a completion the parameter shows the version that was made ready. -/
theorem visibleParameter_completeTables (h : History t) (now : Time) (path description : String)
    (hv : t.versions.lookup j = some v) (hpending : v.valueState = .pending) (hm : m.Names v)
    (hp : t.parameters.lookup m.parameterId = some p) :
    visibleParameter (completeTables now t m path description) m.parameterId =
      some (p.complete path description m.parameterVersion) := by
  have hhistory : History (completeTables now t m path description) :=
    h.complete now path description hv hm hpending
  have hrow : (completeTables now t m path description).versions.lookup j = some (v.complete now) :=
    lookup_modify_of_pos hv hm
  have hshown : (completeTables now t m path description).parameters.lookup m.parameterId =
      some (p.complete path description m.parameterVersion) :=
    lookup_modify_of_pos hp rfl
  have hcurrent : currentVersionRow (completeTables now t m path description) m.parameterId
      (p.complete path description m.parameterVersion) = some (j, v.complete now) :=
    first_eq_some_of_unique hrow ⟨hm.1, hm.2⟩ fun k x hx hxm =>
      hhistory.unique k x j _ hx hrow (hxm.1.trans hm.1.symm) (hxm.2.trans hm.2.symm)
  rw [visibleParameter, hshown, Option.filter_some, if_pos]
  rw [decide_eq_true_eq, hcurrent]
  exact ⟨rfl, rfl⟩

/-- **A pending version can be completed.** -/
theorem Orderly.completeSecretMutation_isOk (h : Orderly t) (now : Time)
    (hv : t.versions.lookup j = some v) (hpending : v.valueState = .pending)
    (hm : m.Names v) :
    ∃ item path description, completeSecretMutation now t m m.backendVersion =
      .ok (item, completeTables now t m path description) := by
  obtain ⟨p, hp, -, -⟩ := h.history.owned j v hv
  obtain ⟨-, -, -, ⟨path, hpath⟩, description, hdescription⟩ :=
    (h.rows.row j v p hv hp).pending hpending
  rw [hm.1] at hp
  have hfirst : mutationRow t m = some (j, v) :=
    first_eq_some_of_unique hv hm fun k x hx hnames => h.history.eq_of_names hv hm hx hnames
  -- nobody else has the path, since it is reserved for this version
  have hfree : ¬ t.parameters.Any fun i p => i = m.parameterId ∧ p.archivedAt = none ∧
      t.parameters.Any fun j q => j ≠ i ∧ q.workspaceId = p.workspaceId ∧ q.path = path ∧
        q.archivedAt = none := by
    simp only [not_any_iff]
    rintro i p' hp' ⟨rfl, -, hany⟩
    obtain ⟨k, q, hq, hne, hws, hqpath, hqlive⟩ := any_iff.mp hany
    obtain ⟨l, r, hr, hri, -, hrpath⟩ := reservation_of_pending h.history hv hpending hpath
    have hrws := h.paths.workspace l r p' hr (by rw [hri, hm.1]; exact hp')
    exact hne ((h.paths.free l r k q hr hq (hws.trans hrws.symm) (hqpath.trans hrpath.symm)
      hqlive).trans (hri.trans hm.1))
  have hpublish : publishVersion now t m v = .ok (completeTables now t m path description) := by
    simp only [publishVersion, if_pos hpending, hpath, hdescription, expect, ok_bind, require,
      if_pos hfree]
    rfl
  refine ⟨p.complete path description m.parameterVersion, path, description, ?_⟩
  simp only [completeSecretMutation, require, if_true, hfirst, expect, ok_bind, hpublish,
    visibleParameter_completeTables h.history now path description hv hpending hm hp]
  rfl

/-- **A pending version can be abandoned**, if no environment binds it. -/
theorem Orderly.abandonSecretMutation_isOk {db : Db} (h : Orderly db.toTables)
    (hv : db.versions.lookup j = some v) (hpending : v.valueState = .pending) (hm : m.Names v)
    (hbound : ¬ BoundVersion db m.parameterId m.parameterVersion) :
    abandonSecretMutation db m = .ok (putTables db (abandonTables db.toTables m)) := by
  have hany : db.versions.Any fun _ w => m.Names w ∧ w.valueState = .pending :=
    any_iff.mpr ⟨j, v, hv, hm, hpending⟩
  have hrestrict : ¬ db.parameters.Any fun i p => i = m.parameterId ∧ p.valueState = .pending ∧
      (db.versions.delete fun _ w => m.Names w ∧ w.valueState = .pending).Any
        fun _ w => w.parameterId = i := by
    simp only [not_any_iff]
    rintro i p hp ⟨rfl, hcreating, hrest⟩
    obtain ⟨_, _, hx, hxi⟩ := any_iff.mp hrest
    obtain ⟨hx, hkept⟩ := lookup_delete_eq_some.mp hx
    have hnames := h.history.names_of_creating hv hm hpending hp hcreating hx hxi
    obtain rfl := h.history.eq_of_names hv hm hx hnames
    cases hv.symm.trans hx
    exact hkept ⟨hm, hpending⟩
  have hclosed : Parameters.abandonSecretMutation db.toTables m =
      .ok (abandonTables db.toTables m) := by
    simp only [Parameters.abandonSecretMutation, if_neg (not_not.mpr hany), require,
      if_pos hrestrict, ok_bind]
    rfl
  simp only [abandonSecretMutation, bind_eq_ok, require_eq_ok, pure_eq_ok]
  exact ⟨(), fun hb => hbound hb.2, _, hclosed, rfl⟩

/-- The rows that a listing reads, oldest first. -/
def pendingRows (t : Tables) : List (Parameter × ParameterVersion) :=
  ((t.versions.select fun _ w => w.valueState = .pending).filterMap fun x =>
    (t.parameters.lookup x.2.parameterId).map fun p => (p, x.2)).insertionSort fun x y =>
      x.2.createdAt < y.2.createdAt ∨
        (x.2.createdAt = y.2.createdAt ∧ x.2.parameterId ≤ y.2.parameterId)

theorem mem_pendingRows : (p, v) ∈ pendingRows t ↔ ∃ j, t.versions.lookup j = some v ∧
    v.valueState = .pending ∧ t.parameters.lookup v.parameterId = some p := by
  rw [pendingRows, (List.perm_insertionSort _ _).mem_iff, List.mem_filterMap]
  constructor
  · rintro ⟨⟨j, _⟩, hsel, hpw⟩
    obtain ⟨_, hq, heq⟩ := Option.map_eq_some_iff.mp hpw
    obtain ⟨rfl, rfl⟩ := Prod.mk.inj heq
    obtain ⟨hv, hpending⟩ := mem_select.mp hsel
    exact ⟨j, hv, hpending, hq⟩
  · rintro ⟨j, hv, hpending, hp⟩
    refine ⟨(j, v), mem_select.mpr ⟨hv, hpending⟩, ?_⟩
    rw [hp]
    rfl

/-- **The pending versions can be listed**, and a listing shows one if there is one. -/
theorem Orderly.listPendingSecretMutations_isOk (h : Orderly t) (limit : ℕ) :
    ∃ ms, listPendingSecretMutations t (limit + 1) = .ok ms ∧
      ∀ i, HasPendingVersion t i → ms ≠ [] := by
  have hscan : ∀ x ∈ (pendingRows t).take (limit + 1),
      ∃ m, scanMutation x.2.parameterId x.1 x.2 = .ok m := by
    rintro ⟨p, v⟩ hx
    obtain ⟨j, hv, hpending, hp⟩ := mem_pendingRows.mp (List.take_subset _ _ hx)
    have hrow := h.rows.row j v p hv hp
    obtain ⟨-, hkind, ⟨_, he, -⟩, -⟩ := hrow.pending hpending
    obtain ⟨⟨_, href, -⟩, hbackend⟩ := hrow.secret hkind (by rw [hpending]; decide)
    simp only [scanMutation, he, href, hbackend, expect, ok_bind]
    exact ⟨_, rfl⟩
  obtain ⟨ms, hms⟩ := exists_mapM_eq_ok hscan
  refine ⟨ms, hms, fun i hpending => ?_⟩
  rintro rfl
  obtain ⟨j, v, hv, -, hstate⟩ := hasPendingVersion_iff.mp hpending
  obtain ⟨p, hp, -⟩ := h.history.owned j v hv
  have hmem : (p, v) ∈ pendingRows t := mem_pendingRows.mpr ⟨j, hv, hstate, hp⟩
  cases hrows : pendingRows t with
  | nil =>
    rw [hrows] at hmem
    cases hmem
  | cons x =>
    have hx : x ∈ (pendingRows t).take (limit + 1) := by
      rw [hrows]
      exact List.mem_cons_self
    obtain ⟨_, hy, -⟩ := mem_mapM_of_mem hms hx
    exact absurd hy List.not_mem_nil

end Molejo.Store
