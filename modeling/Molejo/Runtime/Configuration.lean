import Molejo.Lib.Transition
import Molejo.Store.Command

/-!
# Configuration in the cluster

The variables of a workload are put into an immutable `ConfigMap`, and those that are secret into an
immutable `Secret`, which are named after the application environment and the version of its
configuration (`materializeConfiguration`). If an object of that name is there, it has to be what is
wanted: immutable objects are not written twice, and a command that wants other variables under the
same version fails. Objects that the deployment does not refer to any more are collected when a
command has succeeded.

The namespace is that of one workspace. Only the objects of Agents are part of the model, and they
have the label that says so.
-/

namespace Molejo.Runtime

open Transaction

/-- How a command can fail. -/
inductive RuntimeErr
  /-- `ErrOwnershipConflict`. -/
  | ownershipConflict
  /-- Any other error. -/
  | failed
deriving DecidableEq

/-- A `ConfigMap` or a `Secret`. -/
structure ConfigObject where
  name : String
  /-- The annotation `platform.molejo.dev/control-plane-owner`. -/
  owner : String
  /-- The label `platform.molejo.dev/configuration-version`. -/
  version : ℕ
  immutable : Bool
  data : List Variable
deriving DecidableEq

/-- The value of a name in a map that was filled from a list. -/
def value? (data : List Variable) (name : String) : Option String :=
  (data.reverse.find? fun v => v.name = name).map Variable.value

/-- Two lists fill equal maps. -/
def SameData (data data' : List Variable) : Prop :=
  ∀ v ∈ data ++ data', value? data v.name = value? data' v.name
deriving Decidable

theorem SameData.refl (data : List Variable) : SameData data data := fun _ _ => rfl

/-- Create an object, or verify the one that is there. -/
def createOrVerify (objects : List ConfigObject) (desired : ConfigObject) (owner : String) :
    Except RuntimeErr (List ConfigObject) :=
  match objects.find? fun o => o.name = desired.name with
  | none => .ok (objects ++ [desired])
  | some current =>
    if current.owner = owner ∧ current.immutable ∧ SameData current.data desired.data then
      .ok objects
    else .error .ownershipConflict

/-- The object under a name has exactly the given data. -/
def Holds (objects : List ConfigObject) (name : String) (data : List Variable) : Prop :=
  ∃ o, objects.find? (fun o => o.name = name) = some o ∧ SameData o.data data

/-- No object stands in the way of the one that is wanted. -/
def Fits (objects : List ConfigObject) (desired : ConfigObject) : Prop :=
  ∀ o ∈ objects.find? fun o => o.name = desired.name,
    o.owner = desired.owner ∧ o.immutable ∧ SameData o.data desired.data
deriving Decidable

section CreateOrVerify

variable {objects : List ConfigObject} {desired : ConfigObject}

theorem Fits.createOrVerify (h : Fits objects desired) :
    ∃ objects', createOrVerify objects desired desired.owner = .ok objects' ∧
      Holds objects' desired.name desired.data ∧ ∀ o ∈ objects', o ∈ objects ∨ o = desired := by
  unfold Runtime.createOrVerify
  split
  · next hnone =>
    refine ⟨_, rfl, ⟨desired, ?_, SameData.refl _⟩, by simp⟩
    rw [List.find?_append, hnone]
    simp
  · next current hcurrent =>
    rw [if_pos (h current hcurrent)]
    exact ⟨_, rfl, ⟨current, hcurrent, (h current hcurrent).2.2⟩, fun _ => .inl⟩

/-- An object that is there as it is wanted does not stand in the way. -/
theorem Fits.of_eq (himmutable : desired.immutable = true)
    (h : ∀ o ∈ objects, o.name = desired.name → o = desired) : Fits objects desired := by
  intro o ho
  obtain rfl := h o (List.mem_of_find?_eq_some ho) (by simpa using List.find?_some ho)
  exact ⟨rfl, himmutable, SameData.refl _⟩

end CreateOrVerify

/-- `createOrVerifyConfigMap`. -/
def createOrVerifyConfigMap := createOrVerify

/-- `createOrVerifySecret`. -/
def createOrVerifySecret := createOrVerify

/-- The name of the `ConfigMap` of a version. -/
def configMapName (owner : String) (version : ℕ) : String := owner ++ "-c" ++ toString version

/-- The `ConfigMap`s and the `Secret`s of a namespace. -/
structure ConfigStore where
  configMaps : List ConfigObject
  secrets : List ConfigObject

/-- `materializeConfiguration`, with the names of the two objects. -/
def materializeConfiguration (store : ConfigStore) (owner : String) (version : ℕ)
    (plain secret : List Variable) : Except RuntimeErr (ConfigStore × String × String) := do
  let configMap := configMapName owner version
  let configMaps ← createOrVerifyConfigMap store.configMaps
    ⟨configMap, owner, version, true, plain⟩ owner
  if secret = [] then return (⟨configMaps, store.secrets⟩, configMap, "")
  let secretName := configMap ++ "-secret"
  let secrets ← createOrVerifySecret store.secrets ⟨secretName, owner, version, true, secret⟩ owner
  return (⟨configMaps, secrets⟩, configMap, secretName)

/-- The `ConfigMap` of a version. -/
def configMapOf (owner : String) (version : ℕ) (plain : List Variable) : ConfigObject :=
  ⟨configMapName owner version, owner, version, true, plain⟩

/-- The `Secret` of a version. -/
def secretOf (owner : String) (version : ℕ) (secret : List Variable) : ConfigObject :=
  ⟨configMapName owner version ++ "-secret", owner, version, true, secret⟩

/-- **What `materializeConfiguration` does where nothing stands in the way.** -/
theorem exists_materializeConfiguration {store : ConfigStore} {owner : String} {version : ℕ}
    {plain secret : List Variable}
    (hplain : Fits store.configMaps (configMapOf owner version plain))
    (hsecret : secret ≠ [] → Fits store.secrets (secretOf owner version secret)) :
    ∃ store', materializeConfiguration store owner version plain secret =
        .ok (store', configMapName owner version,
          if secret = [] then "" else configMapName owner version ++ "-secret") ∧
      createOrVerify store.configMaps (configMapOf owner version plain) owner =
        .ok store'.configMaps ∧
      Holds store'.configMaps (configMapName owner version) plain ∧
      (∀ o ∈ store'.configMaps, o ∈ store.configMaps ∨ o = configMapOf owner version plain) ∧
      (secret ≠ [] → Holds store'.secrets (configMapName owner version ++ "-secret") secret) ∧
      ∀ o ∈ store'.secrets, o ∈ store.secrets ∨ o = secretOf owner version secret := by
  obtain ⟨configMaps, hmaps, hholds, hmem⟩ := hplain.createOrVerify
  simp only [configMapOf] at hmaps
  simp only [materializeConfiguration, createOrVerifyConfigMap, hmaps, ok_bind]
  split
  · next hnone =>
    exact ⟨_, rfl, hmaps, hholds, hmem, fun hne => absurd hnone hne, fun _ => .inl⟩
  · next hne =>
    obtain ⟨secrets, hsecrets, hholds', hmem'⟩ := (hsecret hne).createOrVerify
    simp only [secretOf] at hsecrets
    simp only [createOrVerifySecret, hsecrets]
    exact ⟨_, rfl, hmaps, hholds, hmem, fun _ => hholds', hmem'⟩

theorem toString_nat_injective {m n : ℕ} (h : toString m = toString n) : m = n := by
  have hdigits := congrArg String.toList h
  simp only [Nat.toString_eq_repr, Nat.toList_repr] at hdigits
  rw [← Nat.ofDigitChars_ten_toDigits (n := m), hdigits, Nat.ofDigitChars_ten_toDigits]

/-- Versions have objects of different names. -/
theorem configMapName_injective {owner : String} {m n : ℕ}
    (h : configMapName owner m = configMapName owner n) : m = n := by
  have hl := congrArg String.toList h
  simp only [configMapName, String.toList_append, List.append_cancel_left_eq] at hl
  exact toString_nat_injective (String.toList_injective hl)

/-- `ownedConfigurationObject`. -/
def OwnedConfiguration (owner suffix : String) (o : ConfigObject) : Prop :=
  o.owner = owner ∧ 1 ≤ o.version ∧ o.name = configMapName owner o.version ++ suffix
deriving Decidable

/-- `GarbageCollectConfiguration`, with the name of the `ConfigMap` that is in use. The secret of a
version goes with its `ConfigMap`. -/
def garbageCollectConfiguration (store : ConfigStore) (owner : String) (keep : List String) :
    ConfigStore :=
  let stale := store.configMaps.filter fun o => o.name ∉ keep ∧ OwnedConfiguration owner "" o
  { configMaps := store.configMaps.filter fun o => o ∉ stale
    secrets := store.secrets.filter fun o =>
      ¬ (OwnedConfiguration owner "-secret" o ∧ ∃ c ∈ stale, o.name = c.name ++ "-secret") }

end Molejo.Runtime
