import Molejo.Identity.Directory

/-!
# An installation is never left without an administrator

An installation must not lose its last active administrator, and a workspace must not lose its
last active owner: nobody could then repair it from inside. The four methods that can take one
of them away count what would be left, and refuse with `ErrGovernanceInvariant` if it is
nobody. Under read committed such a count is out of date as soon as it is made. This file shows
that it is good enough, in every interleaving of the six methods.

The argument has two halves.

* While a method holds the lock, the others can only make the directory *grow*
  (`Molejo.Identity.Grows`): no active user, administrator or active owner is lost, because
  what takes something away needs the lock. So what a method has counted stays there.
* What a method that holds the lock takes away belongs to a single user, and it has seen that
  somebody else remains – by counting, or because that user was not counted in the first
  place: a user that is not active is not the one that governs now.

The second case is the delicate one. A user may accept an invitation, and so become an active
administrator, between the statement that finds the user `Invited` and the commit that takes
the role away. Nothing is lost: somebody else governed at the time of that statement.
-/

namespace Molejo.Identity

open ReadCommitted Script Table

variable {u i : ℕ}

/-! ### Who governs -/

namespace Directory

variable (d : Directory)

/-- The user is `Active`. -/
def IsActive (userId : ℕ) : Prop :=
  ∃ u, d.users.table.lookup userId = some u ∧ u.status = .active

/-- The user has been assigned the role of an administrator. -/
def HasRole (userId : ℕ) : Prop :=
  ∃ i r, d.roleAssignments.lookup i = some r ∧ r.userId = userId ∧ r.role = .administrator

/-- The user has an `Active` membership of the workspace as its `Owner`. -/
def IsOwner (workspaceId userId : ℕ) : Prop :=
  ∃ i m, d.memberships.table.lookup i = some m ∧ m.workspaceId = workspaceId ∧ m.userId = userId ∧
    m.role = .owner ∧ m.status = .active

/-- An active user with the role of an administrator. -/
def Administers (userId : ℕ) : Prop := d.IsActive userId ∧ d.HasRole userId

/-- An active user with an active membership as an owner. -/
def Owns (workspaceId userId : ℕ) : Prop := d.IsActive userId ∧ d.IsOwner workspaceId userId

end Directory

/-- Somebody administers the installation, and every workspace of `W` has an owner. -/
structure Governed (W : Set ℕ) (d : Directory) : Prop where
  administrator : ∃ u, d.Administers u
  owner : ∀ w ∈ W, ∃ u, d.Owns w u

/-- Somebody other than `x` administers the installation. -/
def AnotherAdministers (x : ℕ) (d : Directory) : Prop := ∃ u, u ≠ x ∧ d.Administers u

/-- Somebody other than `x` owns the workspace. -/
def AnotherOwns (w x : ℕ) (d : Directory) : Prop := ∃ u, u ≠ x ∧ d.Owns w u

variable {d d' : Directory} {W : Set ℕ} {w x : ℕ}

/-! ### What the checks say -/

theorem Directory.isAdministrator_iff : d.isAdministrator x ↔ d.HasRole x := by
  simp only [isAdministrator, decide_eq_true_eq, any_iff, HasRole]

theorem Directory.hasAnotherActiveAdministrator_iff :
    d.hasAnotherActiveAdministrator x ↔ AnotherAdministers x d := by
  simp only [hasAnotherActiveAdministrator, decide_eq_true_eq, any_iff]
  constructor
  · rintro ⟨i, r, hr, -, _, q, hq, rfl, hact, hne⟩
    exact ⟨r.userId, hne, ⟨q, hq, hact⟩, i, r, hr, rfl, rfl⟩
  · rintro ⟨_, hne, ⟨q, hq, hact⟩, i, r, hr, rfl, -⟩
    exact ⟨i, r, hr, trivial, r.userId, q, hq, rfl, hact, hne⟩

theorem Directory.hasAnotherActiveWorkspaceOwner_iff :
    d.hasAnotherActiveWorkspaceOwner w x ↔ AnotherOwns w x d := by
  simp only [hasAnotherActiveWorkspaceOwner, decide_eq_true_eq, any_iff]
  constructor
  · rintro ⟨i, m, hm, hw, hne, hrole, hst, _, q, hq, rfl, hact⟩
    exact ⟨m.userId, hne, ⟨q, hq, hact⟩, i, m, hm, hw, rfl, hrole, hst⟩
  · rintro ⟨_, hne, ⟨q, hq, hact⟩, i, m, hm, hw, rfl, hrole, hst⟩
    exact ⟨i, m, hm, hw, hne, hrole, hst, m.userId, q, hq, rfl, hact⟩

/-- If no workspace would be orphaned by `x`, then each has an owner other than `x`. -/
theorem Directory.anotherOwns_of_wouldOrphan (h : ¬ d.wouldOrphanOwnedWorkspace x)
    (hw : ∃ u, d.Owns w u) : AnotherOwns w x d := by
  obtain ⟨u, hu⟩ := hw
  by_cases hux : u = x
  · subst hux
    obtain ⟨-, i, m, hm, rfl, hmu, hrole, hst⟩ := hu
    simp only [wouldOrphanOwnedWorkspace, decide_eq_true_eq, not_any_iff] at h
    have := h i m hm
    simp only [hmu, hrole, hst, true_and, not_not] at this
    exact hasAnotherActiveWorkspaceOwner_iff.mp this
  · exact ⟨u, hux, hu⟩

/-! ### What the other methods do meanwhile -/

/-- Nothing that governs is taken away, and nobody changes their public id. -/
structure Grows (d d' : Directory) : Prop where
  named : ∀ i u, d.users.table.lookup i = some u →
    ∃ u', d'.users.table.lookup i = some u' ∧ u'.publicId = u.publicId
  active : ∀ u, d.IsActive u → d'.IsActive u
  role : ∀ u, d.HasRole u → d'.HasRole u
  owner : ∀ w u, d.IsOwner w u → d'.IsOwner w u

instance : IsPreorder Directory Grows where
  refl d := ⟨fun _ u hu => ⟨u, hu, rfl⟩, fun _ => id, fun _ => id, fun _ _ => id⟩
  trans a b c h h' := by
    refine ⟨fun i u hu => ?_, fun u => h'.active u ∘ h.active u, fun u => h'.role u ∘ h.role u,
      fun w u => h'.owner w u ∘ h.owner w u⟩
    obtain ⟨u', hu', he⟩ := h.named i u hu
    obtain ⟨u'', hu'', he'⟩ := h'.named i u' hu'
    exact ⟨u'', hu'', he'.trans he⟩

namespace Grows

theorem administers (h : Grows d d') (hu : d.Administers u) : d'.Administers u :=
  ⟨h.active u hu.1, h.role u hu.2⟩

theorem owns (h : Grows d d') (hu : d.Owns w u) : d'.Owns w u :=
  ⟨h.active u hu.1, h.owner w u hu.2⟩

theorem governed (h : Grows d d') (hg : Governed W d) : Governed W d' where
  administrator := hg.administrator.imp fun _ => h.administers
  owner w hw := (hg.owner w hw).imp fun _ => h.owns

theorem anotherAdministers (h : Grows d d') : AnotherAdministers x d → AnotherAdministers x d' :=
  Exists.imp fun _ hu => ⟨hu.1, h.administers hu.2⟩

theorem anotherOwns (h : Grows d d') : AnotherOwns w x d → AnotherOwns w x d' :=
  Exists.imp fun _ hu => ⟨hu.1, h.owns hu.2⟩

end Grows

/-! ### Writes -/

section Update

variable {f : UserUpdate}

/-- An update that leaves or makes users active takes no active user away. -/
theorem Directory.IsActive.update (hd : d'.users = d.users.update x f)
    (hact : ∀ u, u.status = .active → (f.apply u).status = .active) (hu : d.IsActive u) :
    d'.IsActive u := by
  obtain ⟨q, hq, hs⟩ := hu
  rw [IsActive, hd]
  exact exists_lookup_modify hq hs fun _ => hact q hs

/-- Other users are as they were. -/
theorem Directory.IsActive.update_of_ne (hd : d'.users = d.users.update x f) (hne : u ≠ x)
    (hu : d.IsActive u) : d'.IsActive u := by
  obtain ⟨q, hq, hs⟩ := hu
  rw [IsActive, hd]
  exact ⟨q, lookup_modify_of_neg hq hne, hs⟩

end Update

/-- A role is kept by a table of assignments with more rows. -/
theorem Directory.HasRole.mono (hu : d.HasRole u)
    (h : ∀ i r, d.roleAssignments.lookup i = some r → r.userId = u →
      d'.roleAssignments.lookup i = some r) : d'.HasRole u := by
  obtain ⟨i, r, hr, rfl, hrole⟩ := hu
  exact ⟨i, r, h i r hr rfl, rfl, hrole⟩

/-- Ownership is kept by a table that keeps the rows that make it. -/
theorem Directory.IsOwner.mono (hu : d.IsOwner w u)
    (h : ∀ i m, d.memberships.table.lookup i = some m → m.workspaceId = w → m.userId = u →
      m.role = .owner → m.status = .active → ∃ m', d'.memberships.table.lookup i = some m' ∧
        m'.workspaceId = w ∧ m'.userId = u ∧ m'.role = .owner ∧ m'.status = .active) :
    d'.IsOwner w u := by
  obtain ⟨i, m, hm, hmw, hmu, hrole, hst⟩ := hu
  exact ⟨i, h i m hm hmw hmu hrole hst⟩

/-! ### The methods without the lock -/

/-- A write that only adds may be committed without the lock. -/
theorem along_of_grows {write : Write Directory Err}
    (h : ∀ s t, write s = .ok t → Grows s t) : Along (Governed W) Grows write :=
  fun s t hg ht => ⟨h s t ht, (h s t ht).governed hg⟩

theorem Users.lookup_of_insert {t t' : Users} {q : User} (h : t.insert q = .ok t') {u : User}
    (hu : t.table.lookup i = some u) : t'.table.lookup i = some u := by
  unfold Users.insert at h
  split at h
  · split at h
    · cases h
      exact lookup_insert_of_lookup hu
    · cases h
  · cases h

theorem Memberships.lookup_of_insert {t t' : Memberships} {q : Membership} (h : t.insert q = .ok t')
    {m : Membership} (hm : t.table.lookup i = some m) :
    t'.table.lookup i = some m := by
  unfold Memberships.insert at h
  split at h
  · cases h
    exact lookup_insert_of_lookup hm
  · cases h

/-- `createInvitedUser` only adds. -/
theorem safe_createInvitedUser (user : NewUser) (installationAdmin : Bool)
    (invitation : NewInvitation) (createdByUserId : ℕ) :
    (createInvitedUser user installationAdmin invitation createdByUserId).Safe (Governed W)
      Grows := by
  refine along_of_grows fun d d' h => ?_
  simp only [Transaction.ok_iff] at h
  obtain ⟨_, hu, -, -, -, -, rfl⟩ := h
  refine ⟨fun i u hi => ⟨u, Users.lookup_of_insert hu hi, rfl⟩, ?_, ?_, fun _ _ => id⟩
  · rintro u ⟨q, hq, hs⟩
    exact ⟨q, Users.lookup_of_insert hu hq, hs⟩
  · intro u hr
    refine hr.mono fun i r hi _ => ?_
    cases installationAdmin with
    | false => exact hi
    | true => exact lookup_insert_of_lookup hi

/-- `acceptUserInvitation` only activates. -/
theorem safe_acceptUserInvitation (now : Time) (tokenHash : Digest) (passwordHash : String) :
    (acceptUserInvitation now tokenHash passwordHash).Safe (Governed W) Grows := by
  simp only [Script.Safe, acceptUserInvitation, free_bind, free_query, free_expect, free_pure]
  rintro - - ⟨_, _⟩ -
  refine along_of_grows fun d d' h => ?_
  simp only [writeAcceptance, Transaction.ok_iff] at h
  obtain ⟨-, -, -, -, rfl⟩ := h
  refine ⟨fun i u hu => exists_lookup_modify hu rfl fun _ => rfl, fun u hu => ?_,
    fun _ => id, fun _ _ => id⟩
  exact hu.update rfl fun _ _ => rfl

/-! ### The methods with the lock -/

/-- A statement that finds `x` not active has not counted `x`. -/
theorem Governed.another_of_not_isActive (hg : Governed W d) (hx : ¬ d.IsActive x) :
    AnotherAdministers x d ∧ ∀ w ∈ W, AnotherOwns w x d := by
  refine ⟨?_, fun w hw => ?_⟩
  · obtain ⟨u, hu⟩ := hg.administrator
    exact ⟨u, fun he => hx (he ▸ hu.1), hu⟩
  · obtain ⟨u, hu⟩ := hg.owner w hw
    exact ⟨u, fun he => hx (he ▸ hu.1), hu⟩

/-- A statement that finds `x` without the role has not counted `x` as an administrator. -/
theorem Governed.another_of_not_hasRole (hg : Governed W d) (hx : ¬ d.HasRole x) :
    AnotherAdministers x d := by
  obtain ⟨u, hu⟩ := hg.administrator
  exact ⟨u, fun he => hx (he ▸ hu.2), hu⟩

/-- A statement that finds the membership of `x` in another role or suspended has not counted
`x` as an owner. -/
theorem Governed.another_of_membership (hg : Governed W d) (hw : w ∈ W) {m : Membership}
    (hm : d.memberships.table.lookup i = some m) (hmw : m.workspaceId = w) (hmx : m.userId = x)
    (hn : ¬ (m.role = .owner ∧ m.status = .active)) : AnotherOwns w x d := by
  obtain ⟨u, hu⟩ := hg.owner w hw
  refine ⟨u, fun hux => hn ?_, hu⟩
  obtain ⟨-, j, m', hm', hw', hu', hrole, hst⟩ := hu
  have hkey : m.key = m'.key := by simp only [Membership.key, hmw, hmx, hw', hu', hux]
  obtain rfl : i = j := d.memberships.unique i j m m' hm hm' hkey
  obtain rfl := Option.mem_unique hm hm'
  exact ⟨hrole, hst⟩

/-- A user that is found with another status is not active. -/
theorem Directory.not_isActive_of_lookup {u : User} (hu : d.users.table.lookup x = some u)
    (hs : u.status ≠ .active) : ¬ d.IsActive x := by
  rintro ⟨_, hq, hact⟩
  obtain rfl := Option.mem_unique hu hq
  exact hs hact

/-- After the checks of `setUserStatus`, somebody else governs everything. -/
theorem held_checkDeactivation {Q : Directory → Unit → Prop}
    (hQ : ∀ s, Grows d s → Governed W s → AnotherAdministers x s →
      (∀ w ∈ W, AnotherOwns w x s) → Q s ()) :
    (checkDeactivation x).Held (Governed W) Grows Q d := by
  simp only [checkDeactivation, held_bind, held_query]
  intro s₁ hr₁ hg₁
  -- Whatever the first two statements found, somebody else administers.
  have hrest : ∀ s, Grows d s → AnotherAdministers x s → ∀ s', Grows s s' → Governed W s' →
      (require (¬ s'.wouldOrphanOwnedWorkspace x) Err.governanceInvariant).Held (Governed W)
        Grows Q s' := by
    intro s hr ha s' hr' hg'
    rw [held_require]
    intro horphan
    exact hQ s' (trans_of Grows hr hr') hg' (hr'.anotherAdministers ha) fun w hw =>
      Directory.anotherOwns_of_wouldOrphan horphan (hg'.owner w hw)
  split
  · rw [held_bind, held_query]
    intro s₂ hr₂ hg₂
    rw [held_bind, held_require]
    intro hanother
    exact hrest s₂ (trans_of Grows hr₁ hr₂)
      (Directory.hasAnotherActiveAdministrator_iff.mp hanother)
  · next hrole =>
    refine hrest s₁ hr₁ (hg₁.another_of_not_hasRole fun h => hrole ?_)
    exact Directory.isAdministrator_iff.mpr h

/-- A status may be taken from `x` if somebody else governs everything. -/
theorem keeps_setUserStatus {now : Time} {status : UserStatus}
    (h : (AnotherAdministers x d ∧ ∀ w ∈ W, AnotherOwns w x d) ∨ status = .active) :
    Keeps (Governed W) Grows d fun d => (.ok { d with
      users := d.users.update x (.status status)
      sessions := if status = .active then d.sessions else d.revokeSessions now x } :
        Except Err Directory) := by
  intro s t hr hg ht
  cases ht
  rcases h with ⟨ha, ho⟩ | rfl
  · refine ⟨?_, fun w hw => ?_⟩
    · obtain ⟨u, hne, hu⟩ := hr.anotherAdministers ha
      exact ⟨u, hu.1.update_of_ne rfl hne, hu.2⟩
    · obtain ⟨u, hne, hu⟩ := hr.anotherOwns (ho w hw)
      exact ⟨u, hu.1.update_of_ne rfl hne, hu.2⟩
  · refine ⟨hg.administrator.imp fun u hu => ⟨hu.1.update rfl fun _ _ => rfl, hu.2⟩,
      fun w hw => (hg.owner w hw).imp fun u hu => ⟨hu.1.update rfl fun _ _ => rfl, hu.2⟩⟩

theorem safe_setUserStatus (now : Time) (publicId : String) (status : UserStatus)
    (version : ℕ) : (setUserStatus now publicId status version).Safe (Governed W) Grows := by
  simp only [Script.Safe, setUserStatus, lockIdentityGovernance, free_bind, free_acquire,
    held_bind, held_query, held_expect, held_require]
  rintro - - s - hg ⟨userId, user⟩ hfound -
  have huser := lookup_of_first hfound
  dsimp only
  split
  · rw [held_bind]
    refine held_checkDeactivation fun s' _ _ ha ho => ?_
    exact keeps_setUserStatus (.inl ⟨ha, ho⟩)
  · next hcond =>
    refine keeps_setUserStatus ?_
    by_cases hst : status = .active
    · exact .inr hst
    · refine .inl (hg.another_of_not_isActive (Directory.not_isActive_of_lookup huser ?_))
      exact fun hact => hcond ⟨hact, hst⟩

/-- The role may be given, and taken from `x` if somebody else administers. -/
theorem keeps_writeAdministrator {now : Time} {administrator : Bool}
    (h : AnotherAdministers x d ∨ administrator = true) :
    Keeps (Governed W) Grows d (writeAdministrator now x administrator) := by
  intro s t hr hg ht
  cases administrator with
  | true =>
    simp only [writeAdministrator, if_true, Transaction.ok_iff] at ht
    obtain ⟨-, -, rfl⟩ := ht
    refine ⟨hg.administrator.imp fun u hu => ⟨hu.1.update rfl fun _ => id, ?_⟩,
      fun w hw => (hg.owner w hw).imp fun u hu => ⟨hu.1.update rfl fun _ => id, hu.2⟩⟩
    exact hu.2.mono fun i r hi _ => lookup_insert_of_lookup hi
  | false =>
    cases ht
    refine ⟨?_, fun w hw => (hg.owner w hw).imp fun u hu =>
      ⟨hu.1.update rfl fun _ => id, hu.2⟩⟩
    obtain ⟨u, hne, hu⟩ := hr.anotherAdministers (h.resolve_right (by decide))
    refine ⟨u, hu.1.update rfl fun _ => id, hu.2.mono fun i r hi hru => ?_⟩
    change (s.roleAssignments.delete fun _ r => r.userId = x ∧ r.role = .administrator).lookup i =
      some r
    refine lookup_delete_eq_some.mpr ⟨hi, ?_⟩
    rintro ⟨hrx, -⟩
    exact hne (hru.symm.trans hrx)

theorem safe_setInstallationAdministrator (now : Time) (publicId : String)
    (administrator : Bool) (version : ℕ) :
    (setInstallationAdministrator now publicId administrator version).Safe (Governed W)
      Grows := by
  simp only [Script.Safe, setInstallationAdministrator, lockIdentityGovernance, free_bind,
    free_acquire, held_bind, held_query, held_expect]
  rintro - - s - hg ⟨userId, status, current⟩ hfound
  obtain ⟨⟨i, u⟩, hfirst, he⟩ := Option.map_eq_some_iff.mp hfound
  obtain ⟨rfl, rfl, rfl⟩ : i = userId ∧ u.status = status ∧ s.isAdministrator i = current := by
    simpa using he
  dsimp only
  split
  · -- Nothing to do.
    intro s' t _ hg' ht
    cases ht
    exact hg'
  · next hne =>
    split
    · simp only [held_bind, held_query, held_require]
      intro s' _ _ hallowed
      exact keeps_writeAdministrator
        (.inl (Directory.hasAnotherActiveAdministrator_iff.mp hallowed))
    · next hcond =>
      refine keeps_writeAdministrator ?_
      cases administrator with
      | true => exact .inr rfl
      | false =>
        have hcur : s.isAdministrator i = true := by simpa using hne
        refine .inl (hg.another_of_not_isActive ?_).1
        exact Directory.not_isActive_of_lookup (lookup_of_first hfirst) fun hact =>
          hcond ⟨hcur, hact⟩

/-! The two methods on memberships. -/

theorem keeps_insertMembership {role : WorkspaceRole} {status : MembershipStatus} :
    Keeps (Governed W) Grows d (insertMembership w x role status) := by
  intro s t _ hg ht
  simp only [insertMembership, Transaction.ok_iff] at ht
  obtain ⟨_, hm, -, -, rfl⟩ := ht
  refine ⟨hg.administrator, fun w' hw' => (hg.owner w' hw').imp fun u hu => ⟨hu.1, ?_⟩⟩
  refine hu.2.mono fun i m hi h₁ h₂ h₃ h₄ => ⟨m, ?_, h₁, h₂, h₃, h₄⟩
  exact Memberships.lookup_of_insert hm hi

/-- A change to the membership of `x` in `w` keeps the owners if somebody else owns `w`. -/
theorem Governed.of_another (hg : Governed W d) (ha : w ∈ W → AnotherOwns w x d)
    (hact : ∀ u, d.IsActive u → d'.IsActive u) (hrole : ∀ u, d.HasRole u → d'.HasRole u)
    (hown : ∀ w' u, ¬ (w' = w ∧ u = x) → d.IsOwner w' u → d'.IsOwner w' u) :
    Governed W d' := by
  refine ⟨hg.administrator.imp fun u hu => ⟨hact u hu.1, hrole u hu.2⟩, fun w' hw' => ?_⟩
  by_cases hww : w' = w
  · subst hww
    obtain ⟨u, hne, hu⟩ := ha hw'
    exact ⟨u, hact u hu.1, hown w' u (fun h => hne h.2) hu.2⟩
  · obtain ⟨u, hu⟩ := hg.owner w' hw'
    exact ⟨u, hact u hu.1, hown w' u (fun h => hww h.1) hu.2⟩

/-- The membership of `x` may be changed if it stays one of an active owner, or if somebody else
owns the workspace. -/
theorem keeps_updateMembership {role : WorkspaceRole} {status : MembershipStatus} {version : ℕ}
    (h : (w ∈ W → AnotherOwns w x d) ∨ (role = .owner ∧ status = .active)) :
    Keeps (Governed W) Grows d (updateMembership w x role status version) := by
  intro s t hr hg ht
  simp only [updateMembership, Transaction.ok_iff] at ht
  obtain ⟨-, -, rfl⟩ := ht
  rcases h with ha | ⟨rfl, rfl⟩
  · refine hg.of_another (fun hw => hr.anotherOwns (ha hw)) (fun _ => id) (fun _ => id) ?_
    intro w' u hne hu
    refine hu.mono fun i m hi h₁ h₂ h₃ h₄ => ⟨m, ?_, h₁, h₂, h₃, h₄⟩
    exact lookup_modify_of_neg hi fun hp => hne ⟨h₁ ▸ hp.1, h₂ ▸ hp.2.1⟩
  · refine ⟨hg.administrator, fun w' hw' => (hg.owner w' hw').imp fun u hu => ⟨hu.1, ?_⟩⟩
    exact hu.2.mono fun i m hi h₁ h₂ h₃ h₄ =>
      exists_lookup_modify hi ⟨h₁, h₂, h₃, h₄⟩ fun _ => ⟨h₁, h₂, rfl, rfl⟩

theorem safe_putWorkspaceMembership (workspaceId : ℕ) (userPublicId : String)
    (role : WorkspaceRole) (status : MembershipStatus) (expectedVersion : Option ℕ) :
    (putWorkspaceMembership workspaceId userPublicId role status expectedVersion).Safe
      (Governed W) Grows := by
  simp only [Script.Safe, putWorkspaceMembership, lockIdentityGovernance, free_bind,
    free_acquire, held_bind, held_query, held_expect]
  rintro - - s - - ⟨userId, user⟩ -
  cases expectedVersion with
  | none =>
    simp only [held_bind, held_require]
    exact fun _ => keeps_insertMembership
  | some version =>
    simp only [held_bind, held_query, held_expect]
    rintro s' - hg' ⟨i, current⟩ hfound
    obtain ⟨hw, hu, -⟩ := pos_of_first hfound
    dsimp only
    split
    · simp only [held_bind, held_query, held_require]
      intro s'' _ _ hanother
      exact keeps_updateMembership
        (.inl fun _ => Directory.hasAnotherActiveWorkspaceOwner_iff.mp hanother)
    · next hcond =>
      refine keeps_updateMembership ?_
      by_cases hown : current.role = .owner ∧ current.status = .active
      · right
        by_contra hn
        exact hcond ⟨hown.1, hown.2, not_and_or.mp hn⟩
      · exact .inl fun hW =>
          hg'.another_of_membership hW (lookup_of_first hfound) hw hu hown

/-- The memberships that `deleteWorkspaceMembership` removes are those of the user it has found,
as public ids are unique and are not changed. -/
theorem keeps_removeMembership {userPublicId : String} {u : User}
    (hu : d.users.table.lookup x = some u) (hid : u.publicId = userPublicId)
    (ha : w ∈ W → AnotherOwns w x d) :
    Keeps (Governed W) Grows d (removeMembership w userPublicId) := by
  intro s t hr hg ht
  simp only [removeMembership, Transaction.ok_iff] at ht
  obtain ⟨-, -, rfl⟩ := ht
  refine hg.of_another (fun hw => hr.anotherOwns (ha hw)) (fun _ => id) (fun _ => id) ?_
  intro w' v hne hv
  refine hv.mono fun i m hi h₁ h₂ h₃ h₄ => ⟨m, ?_, h₁, h₂, h₃, h₄⟩
  refine lookup_delete_eq_some.mpr ⟨hi, ?_⟩
  rintro ⟨hmw, hmu⟩
  obtain ⟨_, q, hq, rfl, hqid⟩ := any_iff.mp hmu
  obtain ⟨u', hu', hid'⟩ := hr.named x u hu
  have hjx := s.users.unique m.userId x q u' hq hu' (by rw [hqid, hid', hid])
  exact hne ⟨h₁.symm.trans hmw, h₂.symm.trans hjx⟩

theorem safe_deleteWorkspaceMembership (workspaceId : ℕ) (userPublicId : String) :
    (deleteWorkspaceMembership workspaceId userPublicId).Safe (Governed W) Grows := by
  simp only [Script.Safe, deleteWorkspaceMembership, lockIdentityGovernance, free_bind,
    free_acquire, held_bind, held_query, held_expect]
  rintro - - s - hg ⟨i, m⟩ hfound
  obtain ⟨hw, hany⟩ := pos_of_first hfound
  obtain ⟨j, u, hu, rfl, hid⟩ := any_iff.mp hany
  dsimp only
  split
  · simp only [held_bind, held_query, held_require]
    intro s' hr' _ hanother
    obtain ⟨_, hu', hid'⟩ := hr'.named _ u hu
    exact keeps_removeMembership hu' (hid'.trans hid) fun _ =>
      Directory.hasAnotherActiveWorkspaceOwner_iff.mp hanother
  · next hcond =>
    exact keeps_removeMembership hu hid fun hW =>
      hg.another_of_membership hW (lookup_of_first hfound) hw rfl hcond

/-! ### Every interleaving -/

theorem safe_script (W : Set ℕ) (call : Call) : call.script.Safe (Governed W) Grows := by
  cases call with
  | setUserStatus now publicId status version =>
    exact safe_setUserStatus now publicId status version
  | setInstallationAdministrator now publicId administrator version =>
    exact safe_setInstallationAdministrator now publicId administrator version
  | putWorkspaceMembership workspaceId userPublicId role status expectedVersion =>
    exact safe_putWorkspaceMembership workspaceId userPublicId role status expectedVersion
  | deleteWorkspaceMembership workspaceId userPublicId =>
    exact safe_deleteWorkspaceMembership workspaceId userPublicId
  | createInvitedUser user installationAdmin invitation createdByUserId =>
    exact safe_createInvitedUser user installationAdmin invitation createdByUserId
  | acceptUserInvitation now tokenHash passwordHash =>
    exact safe_acceptUserInvitation now tokenHash passwordHash

/-- **Governance.** If somebody administers the installation and owns each workspace of `W`, then
so it is in whatever the six methods commit, however their statements interleave. -/
theorem governed_interleave (W : Set ℕ) (d : Directory) (events : List (Event Call))
    (hd : Governed W d) : Governed W (interleave d events) :=
  invariant (safe_script W) hd events

/-! Two administrators, each the only other one, disable each other at the same time. -/

/-- Two active users. -/
def twoUsers : Users where
  table := (Table.empty.insert ⟨"usr-a", "first", "First", .active, 1, 1⟩).insert
    ⟨"usr-b", "second", "Second", .active, 1, 1⟩
  unique := Table.keyUnique_insert (Table.keyUnique_insert Table.keyUnique_empty rfl) (by decide)

/-- Both are owners of the workspace. -/
def twoMemberships : Memberships where
  table := (Table.empty.insert ⟨7, 1, .owner, .active, 1⟩).insert ⟨7, 2, .owner, .active, 1⟩
  unique := Table.keyUnique_insert (Table.keyUnique_insert Table.keyUnique_empty rfl) (by decide)

/-- Both are administrators as well. -/
def twoAdministrators : Directory where
  workspaces := [7]
  users := twoUsers
  roleAssignments := (Table.empty.insert ⟨1, .administrator⟩).insert ⟨2, .administrator⟩
  memberships := twoMemberships
  invitations := Table.empty
  passwords := Table.empty
  sessions := Table.empty

/-- The statements of the two calls alternate as long as the lock lets them; then each call runs
to its end. -/
def rivalry : List (Event Call) :=
  [.start 1 (.setUserStatus 10 "usr-a" .disabled 1),
   .start 2 (.setUserStatus 10 "usr-b" .disabled 1),
   .advance 1, .advance 2, .advance 1, .advance 2] ++
  List.replicate 6 (.advance 1) ++ List.replicate 6 (.advance 2)

theorem governed_twoAdministrators : Governed {7} twoAdministrators where
  administrator := ⟨1, ⟨_, rfl, rfl⟩, 1, _, rfl, rfl, rfl⟩
  owner w hw := by
    obtain rfl : w = 7 := hw
    exact ⟨1, ⟨_, rfl, rfl⟩, 1, _, rfl, rfl, rfl, rfl, rfl⟩

theorem governed_rivalry : Governed {7} twoAdministrators ∧
    ((interleave twoAdministrators rivalry).users.table.lookup 1).map User.status =
      some .disabled ∧ Governed {7} (interleave twoAdministrators rivalry) :=
  ⟨governed_twoAdministrators, by decide +kernel,
    governed_interleave {7} twoAdministrators rivalry governed_twoAdministrators⟩

end Molejo.Identity
