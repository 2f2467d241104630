import Mathlib.Algebra.Group.Nat.Defs
import Mathlib.Data.List.Basic

/-!
# The vocabulary shared by the store

The control plane keeps its state in one PostgreSQL database and changes it in
transactions. This file fixes the few notions every part of the model uses: the
errors a store method returns, the clock, digests, and the workspace everything
belongs to.

Two idealisations are made here, once. Time is a natural number that every
transaction reads once, which is what `now()` is inside a transaction. A digest is
represented by the text it digests: `domain.SHA256` and `auth.HashToken` are taken
to be free of collisions, and nothing else is assumed of them.
-/

namespace Molejo

/-- A condition on every character of a text is decided along the text, not over all characters. -/
instance decidableForallChar {p : Char → Prop} [DecidablePred p] (cs : List Char) :
    Decidable (∀ c ∈ cs, p c) :=
  List.decidableBAll p cs

instance decidableExistsChar {p : Char → Prop} [DecidablePred p] (first : Option Char) :
    Decidable (∃ c ∈ first, p c) :=
  first.decidableExistsMem

/-- A point in time, in seconds. `now()` is the start of the enclosing transaction. -/
abbrev Time := ℕ

/-- A SHA-256 digest, represented by the text it digests. -/
structure Digest where
  /-- The digested text. -/
  text : String
deriving DecidableEq

/-- `domain.SHA256` and `auth.HashToken`. -/
def sha256 (text : String) : Digest := ⟨text⟩

/-- The errors of the store. -/
inductive Err
  /-- `ErrConflict`, and every unique violation passed through `translateDBError`. -/
  | conflict
  /-- A unique violation that the method returns as it is. -/
  | uniqueViolation
  /-- `ErrVersionConflict`. -/
  | versionConflict
  /-- `ErrNameConflict`. -/
  | nameConflict
  /-- `ErrIdempotencyConflict`. -/
  | idempotencyConflict
  /-- `ErrNotFound`. -/
  | notFound
  /-- `ErrPublicIDCollision`. -/
  | publicIDCollision
  /-- `ErrLeaseLost`. -/
  | leaseLost
  /-- `ErrAgentUnavailable`. -/
  | agentUnavailable
  /-- `ErrAgentEnrollmentInvalid`. -/
  | agentEnrollmentInvalid
  /-- `ErrAgentEnrollmentConsumed`. -/
  | agentEnrollmentConsumed
  /-- `ErrAgentIdentityMismatch`. -/
  | agentIdentityMismatch
  /-- `ErrClusterNotFound`. -/
  | clusterNotFound
  /-- `ErrClusterNotPending`. -/
  | clusterNotPending
  /-- `issued agent certificate is incomplete`. -/
  | incompleteCertificate
  /-- `ErrParameterBinding`. -/
  | parameterBinding
  /-- `ErrParameterInUse`. -/
  | parameterInUse
  /-- `ErrPublicationConflict`. -/
  | publicationConflict
  /-- `ErrPublicationUnavailable`. -/
  | publicationUnavailable
  /-- `ErrPublicationDomainNotAllowed`. -/
  | publicationDomainNotAllowed
  /-- `ErrPublicationHostnameReserved`. -/
  | publicationHostnameReserved
  /-- `ErrStorageProfileUnavailable`. -/
  | storageProfileUnavailable
  /-- `ErrStorageQuotaExceeded`. -/
  | storageQuotaExceeded
  /-- `ErrVolumeAttached`. -/
  | volumeAttached
  /-- `ErrGovernanceInvariant`. -/
  | governanceInvariant
  /-- `ErrInvitationInvalid`. -/
  | invitationInvalid
  /-- `ErrSessionInvalid`. -/
  | sessionInvalid
  /-- `ErrResetCodeInvalid`. -/
  | resetCodeInvalid
  /-- An observation that `normalizeRuntimeObservations` refuses. -/
  | invalidObservation
  /-- An argument that a method refuses before it reads the database. -/
  | invalidArgument
  /-- An error of the database itself: a violated check or foreign key, a row that is not
  there, a `NULL` scanned into a variable that cannot hold it. -/
  | database
deriving DecidableEq

/-- `translateDBError`. -/
def translateDBError : Err → Err
  | .uniqueViolation => .conflict
  | e => e

/-- The columns `bootstrap_state` of workspaces and `state` of their clusters. -/
inductive ProvisioningState
  | pending
  | running
  | ready
  | failed
deriving DecidableEq

/-- A row of `workspaces`. -/
structure Workspace where
  publicId : String
  namespaceName : String
  bootstrapState : ProvisioningState
deriving DecidableEq

end Molejo
