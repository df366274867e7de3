import Yappy.KeyDirectory

/-!
# A device's keys

`ensureDeviceKeys` and `consumePreKey` of `apps/webapp/src/lib/keys.ts`, and `ensurePublished` and
`consumePreKey` of Android's `DeviceKeys.kt`, over one stored record and the key directory. Calls
run in any number of tabs, and wherever one awaits the store or the server all others may go on.
The private keys a call draws come with its step.
-/
namespace Yappy.DeviceKeys

open Permissions (Uuid)

inductive Platform
  | web | android

/-- The stored record; Android keeps each field under a key of its own. -/
structure StoredIdentity (K : Curves) where
  deviceId : Uuid
  userId : Uuid
  identityPrivate : K.Secret
  identityPublic : K.Public
  signedPreKeyId : ℕ
  signedPreKeyPrivate : K.Secret
  signedPreKeyPublic : K.Public
  lastPreKeyId : ℕ
  preKeys : ℕ → Option K.Secret
  advertised : Option (List ℕ)

/-- What a boot is called with, and the `MESSAGE_FORMATS` of its build. -/
structure Boot where
  userId : Uuid
  formats : List ℕ

def lowWater : ℕ := 20

def pool : ℕ := 60

variable {K : Curves}

section Minting

def mintIdentity (deviceId userId : Uuid) (identityPrivate signedPrivate : K.Secret) :
    StoredIdentity K where
  deviceId := deviceId
  userId := userId
  identityPrivate := identityPrivate
  identityPublic := K.identityOf identityPrivate
  signedPreKeyId := 1
  signedPreKeyPrivate := signedPrivate
  signedPreKeyPublic := K.preKeyOf signedPrivate
  lastPreKeyId := 0
  preKeys := fun _ => none
  advertised := none

def StoredIdentity.addPreKey (identity : StoredIdentity K) (secret : K.Secret) : StoredIdentity K :=
  { identity with
    lastPreKeyId := identity.lastPreKeyId + 1
    preKeys := Function.update identity.preKeys (identity.lastPreKeyId + 1) (some secret) }

def mintPreKeys (identity : StoredIdentity K) : List K.Secret → StoredIdentity K × List (PreKey K)
  | [] => (identity, [])
  | secret :: rest =>
    let minted := mintPreKeys (identity.addPreKey secret) rest
    (minted.1, ⟨identity.lastPreKeyId + 1, K.preKeyOf secret⟩ :: minted.2)

def signPreKey (identity : StoredIdentity K) : K.Signature :=
  K.sign identity.identityPrivate identity.signedPreKeyPublic

def formatsAdvertisement (versions : List ℕ) : String :=
  "yappy.formats.v1:" ++ join (versions.dedup.mergeSort (· ≤ ·))

def advertisement (identity : StoredIdentity K) (versions : List ℕ) : Formats K :=
  ⟨versions, K.signText identity.identityPrivate (formatsAdvertisement versions)⟩

def publishBody (identity : StoredIdentity K) (oneTimePreKeys : List (PreKey K))
    (versions : List ℕ) : PublishBody K where
  deviceId := identity.deviceId
  identityKey := identity.identityPublic
  signedPreKey :=
    ⟨identity.signedPreKeyId, identity.signedPreKeyPublic, signPreKey identity⟩
  oneTimePreKeys := oneTimePreKeys
  formats := some (advertisement identity versions)

/-- The record that a call is about to store, and what it is to publish after. -/
structure Minted (K : Curves) where
  identity : StoredIdentity K
  body : PublishBody K

def mintOnto (identity : StoredIdentity K) (secrets : List K.Secret) (versions : List ℕ) : Minted K :=
  let minted := mintPreKeys identity secrets
  let identity := { minted.1 with advertised := some versions }
  ⟨identity, publishBody identity minted.2 versions⟩

def shortfall (available : ℕ) : ℕ := if lowWater ≤ available then 0 else pool - available

end Minting

def Platform.stale (platform : Platform) (identity : StoredIdentity K) (versions : List ℕ) : Bool :=
  match platform with
  | .web => join (identity.advertised.getD []) ≠ join versions
  | .android => identity.advertised.map join ≠ some (join versions)

section Writes
variable (platform : Platform) (read : StoredIdentity K) (stored : Option (StoredIdentity K))

def Platform.fill (userId : Uuid) : Option (StoredIdentity K) :=
  match platform with
  | .web => some { read with userId := userId }
  | .android => stored.map fun r => { r with userId := userId }

def Platform.topUp (minted : StoredIdentity K) : Option (StoredIdentity K) :=
  match platform with
  | .web => some minted
  | .android => stored.map fun r =>
    { r with
      lastPreKeyId := minted.lastPreKeyId
      preKeys := minted.preKeys
      advertised := minted.advertised }

def StoredIdentity.forget (keyId : ℕ) : StoredIdentity K :=
  { read with preKeys := Function.update read.preKeys keyId none }

def Platform.forget (keyId : ℕ) : Option (StoredIdentity K) :=
  match platform with
  | .web => some (read.forget keyId)
  | .android => stored.map fun r => { r with preKeys := (read.forget keyId).preKeys }

end Writes

/-- What a call awaits, with what it holds meanwhile. -/
inductive Call (K : Curves)
  | reading (boot : Boot)
  | filling (boot : Boot) (read : StoredIdentity K)
  /-- The answer to `/keys/count`. -/
  | counting (boot : Boot) (identity : StoredIdentity K)
  /-- Android's `topUp`, which reads the record once more. -/
  | rereading (boot : Boot) (available : ℕ)
  | minting (boot : Boot) (read : Option (StoredIdentity K)) (minted : Minted K)
  | toppingUp (boot : Boot) (read : StoredIdentity K) (minted : Minted K)
  | publishing (boot : Boot) (body : PublishBody K)
  /-- `consumePreKey`, to read the record. -/
  | consuming (keyId : ℕ)
  /-- `consumePreKey`, to store the record without the key. -/
  | forgetting (read : StoredIdentity K) (keyId : ℕ)

def Call.keyId? : Call K → Option ℕ
  | .consuming keyId => some keyId
  | .forgetting _ keyId => some keyId
  | _ => none

abbrev CallId := ℕ

structure State (K : Curves) where
  stored : Option (StoredIdentity K)
  directory : Directory K
  calls : CallId → Option (Call K)
  /-- The prekeys that calls of `consumePreKey` have ended for. -/
  spent : List ℕ

namespace State
variable (s : State K) (id : CallId)

def set (call : Option (Call K)) : State K := { s with calls := Function.update s.calls id call }

def store (stored : Option (StoredIdentity K)) : State K := { s with stored := stored }

def finish (call : Call K) : State K := { s.set id none with spent := call.keyId?.toList ++ s.spent }

end State

def Boot.afterRead (boot : Boot) (deviceId : Uuid) (identityPrivate signedPrivate : K.Secret)
    (secrets : List K.Secret) (read : Option (StoredIdentity K)) : Call K :=
  let mint := Call.minting boot read
    (mintOnto (mintIdentity deviceId boot.userId identityPrivate signedPrivate) secrets boot.formats)
  match read with
  | none => mint
  | some r =>
    if r.deviceId = deviceId then
      if r.userId = boot.userId then .counting boot r else .filling boot r
    else mint

inductive Event (K : Curves)
  | boot (id : CallId) (boot : Boot)
  | read (id : CallId)
  /-- The store fails, which `idbGet` answers with null. -/
  | misread (id : CallId)
  | fill (id : CallId)
  | enough (id : CallId)
  | count (id : CallId)
  | reread (id : CallId)
  | mint (id : CallId)
  | topUp (id : CallId)
  | publish (id : CallId)
  | consume (id : CallId) (keyId : ℕ)
  | lookUp (id : CallId)
  | missing (id : CallId)
  | forget (id : CallId)
  | fail (id : CallId)
  | crash (id : CallId)
  | clear
  | claim (id : ClaimId)

inductive Step (platform : Platform) (deviceId : Uuid) : State K → Event K → State K → Prop
  | boot {s : State K} {id : CallId} {boot : Boot} (hid : s.calls id = none) :
      Step platform deviceId s (.boot id boot) (s.set id (some (.reading boot)))
  | read {s : State K} {id : CallId} {boot : Boot} {identityPrivate signedPrivate : K.Secret}
      {secrets : List K.Secret} (hid : s.calls id = some (.reading boot))
      (hcount : secrets.length = pool) :
      Step platform deviceId s (.read id)
        (s.set id (some (boot.afterRead deviceId identityPrivate signedPrivate secrets s.stored)))
  | misread {s : State K} {id : CallId} {boot : Boot} {identityPrivate signedPrivate : K.Secret}
      {secrets : List K.Secret} (hweb : platform = .web) (hid : s.calls id = some (.reading boot))
      (hcount : secrets.length = pool) :
      Step platform deviceId s (.misread id)
        (s.set id (some (boot.afterRead deviceId identityPrivate signedPrivate secrets none)))
  | fill {s : State K} {id : CallId} {boot : Boot} {r : StoredIdentity K}
      (hid : s.calls id = some (.filling boot r)) :
      Step platform deviceId s (.fill id) ((s.store (platform.fill r s.stored boot.userId)).set id
        (some (.counting boot { r with userId := boot.userId })))
  | enough {s : State K} {id : CallId} {boot : Boot} {r : StoredIdentity K}
      (hid : s.calls id = some (.counting boot r)) (hpool : lowWater ≤ s.directory.availablePreKeys)
      (hstale : platform.stale r boot.formats = false) :
      Step platform deviceId s (.enough id) (s.set id none)
  | count {s : State K} {id : CallId} {boot : Boot} {r : StoredIdentity K} {secrets : List K.Secret}
      (hweb : platform = .web) (hid : s.calls id = some (.counting boot r))
      (hlow : s.directory.availablePreKeys < lowWater ∨ platform.stale r boot.formats = true)
      (hcount : secrets.length = shortfall s.directory.availablePreKeys) :
      Step platform deviceId s (.count id)
        (s.set id (some (.toppingUp boot r (mintOnto r secrets boot.formats))))
  | countAndroid {s : State K} {id : CallId} {boot : Boot} {r : StoredIdentity K}
      (handroid : platform = .android) (hid : s.calls id = some (.counting boot r))
      (hlow : s.directory.availablePreKeys < lowWater ∨ platform.stale r boot.formats = true) :
      Step platform deviceId s (.count id)
        (s.set id (some (.rereading boot s.directory.availablePreKeys)))
  | reread {s : State K} {id : CallId} {boot : Boot} {available : ℕ} {r : StoredIdentity K}
      {secrets : List K.Secret} (hid : s.calls id = some (.rereading boot available))
      (hr : s.stored = some r) (hcount : secrets.length = shortfall available) :
      Step platform deviceId s (.reread id)
        (s.set id (some (.toppingUp boot r (mintOnto r secrets boot.formats))))
  | mint {s : State K} {id : CallId} {boot : Boot} {read : Option (StoredIdentity K)} {minted : Minted K}
      (hid : s.calls id = some (.minting boot read minted)) :
      Step platform deviceId s (.mint id)
        ((s.store (some minted.identity)).set id (some (.publishing boot minted.body)))
  | topUp {s : State K} {id : CallId} {boot : Boot} {read : StoredIdentity K} {minted : Minted K}
      (hid : s.calls id = some (.toppingUp boot read minted)) :
      Step platform deviceId s (.topUp id)
        ((s.store (platform.topUp s.stored minted.identity)).set id (some (.publishing boot minted.body)))
  | publish {s : State K} {id : CallId} {boot : Boot} {body : PublishBody K} {dir : Directory K}
      (hid : s.calls id = some (.publishing boot body))
      (hpublish : s.directory.publish deviceId boot.userId body = .ok dir) :
      Step platform deviceId s (.publish id) ({ s with directory := dir }.set id none)
  | consume {s : State K} {id : CallId} {keyId : ℕ} {r : StoredIdentity K} (hid : s.calls id = none)
      (hr : s.stored = some r) (hkey : r.preKeys keyId ≠ none) :
      Step platform deviceId s (.consume id keyId) (s.set id (some (.consuming keyId)))
  | lookUp {s : State K} {id : CallId} {keyId : ℕ} {r : StoredIdentity K}
      (hid : s.calls id = some (.consuming keyId)) (hr : s.stored = some r)
      (hkey : r.preKeys keyId ≠ none) :
      Step platform deviceId s (.lookUp id) (s.set id (some (.forgetting r keyId)))
  | missing {s : State K} {id : CallId} {keyId : ℕ} (hid : s.calls id = some (.consuming keyId))
      (hkey : ∀ r, s.stored = some r → r.preKeys keyId = none) :
      Step platform deviceId s (.missing id) (s.finish id (.consuming keyId))
  | forget {s : State K} {id : CallId} {keyId : ℕ} {r : StoredIdentity K}
      (hid : s.calls id = some (.forgetting r keyId)) :
      Step platform deviceId s (.forget id)
        ((s.store (platform.forget r s.stored keyId)).finish id (.forgetting r keyId))
  | fail {s : State K} {id : CallId} {call : Call K} (hid : s.calls id = some call) :
      Step platform deviceId s (.fail id) (s.finish id call)
  | crash {s : State K} {id : CallId} : Step platform deviceId s (.crash id) (s.set id none)
  | clear {s : State K} : Step platform deviceId s .clear (s.store none)
  | claim {s : State K} {id : ClaimId} {dir : Directory K} (h : ClaimStep s.directory id dir) :
      Step platform deviceId s (.claim id) { s with directory := dir }

/-- No call stores the record over one that it has not read. -/
def Unraced (platform : Platform) (s : State K) : Event K → Prop
  | .fill id => ∀ boot read, s.calls id = some (.filling boot read) → platform = .web →
    s.stored = some read
  | .mint id => ∀ boot read minted, s.calls id = some (.minting boot read minted) → s.stored = read
  | .topUp id => ∀ boot read minted, s.calls id = some (.toppingUp boot read minted) →
    s.stored = some read
  | .forget id => ∀ read keyId, s.calls id = some (.forgetting read keyId) → s.stored = some read
  | _ => True

def StoredIdentity.Numbered (identity : StoredIdentity K) : Prop :=
  ∀ keyId, identity.preKeys keyId ≠ none → keyId ≤ identity.lastPreKeyId

section MintedPreKeys
variable {identity : StoredIdentity K} {secrets : List K.Secret} {keyId : ℕ}

@[simp] lemma addPreKey_lastPreKeyId (secret : K.Secret) :
    (identity.addPreKey secret).lastPreKeyId = identity.lastPreKeyId + 1 := rfl

lemma addPreKey_self (secret : K.Secret) :
    (identity.addPreKey secret).preKeys (identity.lastPreKeyId + 1) = some secret :=
  Function.update_self ..

lemma addPreKey_of_ne (secret : K.Secret) (h : keyId ≠ identity.lastPreKeyId + 1) :
    (identity.addPreKey secret).preKeys keyId = identity.preKeys keyId := Function.update_of_ne h ..

lemma forget_self : (identity.forget keyId).preKeys keyId = none := Function.update_self ..

lemma forget_of_ne {other : ℕ} (h : other ≠ keyId) :
    (identity.forget keyId).preKeys other = identity.preKeys other := Function.update_of_ne h ..

lemma mintPreKeys_lastPreKeyId : (mintPreKeys identity secrets).1.lastPreKeyId =
    identity.lastPreKeyId + secrets.length := by
  induction secrets generalizing identity with
  | nil => rfl
  | cons secret rest ih =>
    rw [mintPreKeys, ih, addPreKey_lastPreKeyId, List.length_cons]
    omega

lemma mintPreKeys_ids : (mintPreKeys identity secrets).2.map PreKey.id =
    List.range' (identity.lastPreKeyId + 1) secrets.length := by
  induction secrets generalizing identity with
  | nil => rfl
  | cons secret rest ih =>
    rw [mintPreKeys, List.map_cons, ih, List.length_cons, List.range'_succ]
    rfl

lemma mintPreKeys_old (h : keyId ≤ identity.lastPreKeyId) :
    (mintPreKeys identity secrets).1.preKeys keyId = identity.preKeys keyId := by
  induction secrets generalizing identity with
  | nil => rfl
  | cons secret rest ih =>
    have hle : keyId ≤ (identity.addPreKey secret).lastPreKeyId := Nat.le_succ_of_le h
    rw [mintPreKeys, ih hle]
    exact addPreKey_of_ne secret (by omega)

lemma mintOnto_old {versions : List ℕ} (h : keyId ≤ identity.lastPreKeyId) :
    (mintOnto identity secrets versions).identity.preKeys keyId = identity.preKeys keyId :=
  mintPreKeys_old h

lemma mintOnto_lastPreKeyId {versions : List ℕ} :
    (mintOnto identity secrets versions).identity.lastPreKeyId =
      identity.lastPreKeyId + secrets.length := mintPreKeys_lastPreKeyId

lemma mintPreKeys_private {k : PreKey K} (h : k ∈ (mintPreKeys identity secrets).2) :
    ∃ secret, (mintPreKeys identity secrets).1.preKeys k.id = some secret ∧ K.preKeyOf secret = k.key := by
  induction secrets generalizing identity with
  | nil => cases h
  | cons secret rest ih =>
    rcases List.mem_cons.mp h with rfl | h
    · refine ⟨secret, ?_, rfl⟩
      exact (mintPreKeys_old le_rfl).trans (addPreKey_self secret)
    · exact ih h

lemma mintPreKeys_rest : (mintPreKeys identity secrets).1 = { identity with
    lastPreKeyId := (mintPreKeys identity secrets).1.lastPreKeyId
    preKeys := (mintPreKeys identity secrets).1.preKeys } := by
  induction secrets generalizing identity with
  | nil => rfl
  | cons secret rest ih =>
    rw [mintPreKeys, ih]
    rfl

lemma mintOnto_rest {versions : List ℕ} : (mintOnto identity secrets versions).identity =
    { identity with
      lastPreKeyId := (mintOnto identity secrets versions).identity.lastPreKeyId
      preKeys := (mintOnto identity secrets versions).identity.preKeys
      advertised := some versions } := by
  have hrest := congrArg (fun i => { i with advertised := some versions })
    (@mintPreKeys_rest K identity secrets)
  exact hrest

lemma mintOnto_deviceId {versions : List ℕ} :
    (mintOnto identity secrets versions).identity.deviceId = identity.deviceId := by
  rw [mintOnto_rest]

lemma mintOnto_userId {versions : List ℕ} :
    (mintOnto identity secrets versions).identity.userId = identity.userId := by
  rw [mintOnto_rest]

lemma mintOnto_body (versions : List ℕ) :
    (mintOnto identity secrets versions).body =
      publishBody identity (mintPreKeys identity secrets).2 versions := by
  have hrest := congrArg (fun i => publishBody i (mintPreKeys identity secrets).2 versions)
    (@mintPreKeys_rest K identity secrets)
  exact hrest

lemma StoredIdentity.Numbered.addPreKey {secret : K.Secret} (h : identity.Numbered) :
    (identity.addPreKey secret).Numbered := by
  intro keyId hk
  by_cases he : keyId = identity.lastPreKeyId + 1
  · exact he.le
  · rw [addPreKey_of_ne secret he] at hk
    exact (h keyId hk).trans (Nat.le_succ _)

lemma StoredIdentity.Numbered.minted (h : identity.Numbered) :
    (mintPreKeys identity secrets).1.Numbered := by
  induction secrets generalizing identity with
  | nil => exact h
  | cons secret rest ih => exact ih h.addPreKey

lemma StoredIdentity.Numbered.forgotten (h : identity.Numbered) : (identity.forget keyId).Numbered := by
  intro other hother
  by_cases he : other = keyId
  · subst he
    exact absurd forget_self hother
  · rw [forget_of_ne he] at hother
    exact h other hother

end MintedPreKeys

section Sets
variable {s : State K} {id other : CallId} {call call' : Call K} {claimed : Option (Call K)}

@[simp] lemma set_stored : (s.set id claimed).stored = s.stored := rfl

@[simp] lemma set_directory : (s.set id claimed).directory = s.directory := rfl

@[simp] lemma set_spent : (s.set id claimed).spent = s.spent := rfl

@[simp] lemma finish_stored : (s.finish id call).stored = s.stored := rfl

@[simp] lemma finish_directory : (s.finish id call).directory = s.directory := rfl

@[simp] lemma finish_spent : (s.finish id call).spent = call.keyId?.toList ++ s.spent := rfl

@[simp] lemma set_self : (s.set id claimed).calls id = claimed := Function.update_self ..

lemma set_of_ne (h : other ≠ id) : (s.set id claimed).calls other = s.calls other :=
  Function.update_of_ne h ..

lemma set_inv (h : (s.set id (some call)).calls other = some call') :
    call' = call ∨ s.calls other = some call' := by
  by_cases he : other = id
  · subst he
    rw [set_self] at h
    exact Or.inl (Option.some.inj h).symm
  · rw [set_of_ne he] at h
    exact Or.inr h

lemma clear_inv (h : (s.set id none).calls other = some call') : s.calls other = some call' := by
  by_cases he : other = id
  · subst he
    rw [set_self] at h
    cases h
  · rwa [set_of_ne he] at h

end Sets

def Call.Formed (deviceId : Uuid) : Call K → Prop
  | .filling _ r => r.deviceId = deviceId
  | .counting _ r => r.deviceId = deviceId
  | .minting boot read minted => (∀ r, read = some r → r.deviceId ≠ deviceId) ∧
    ∃ identityPrivate signedPrivate secrets, secrets.length = pool ∧ minted =
      mintOnto (mintIdentity deviceId boot.userId identityPrivate signedPrivate) secrets boot.formats
  | .toppingUp boot read minted => ∃ secrets, minted = mintOnto read secrets boot.formats
  | _ => True

def State.Formed (deviceId : Uuid) (s : State K) : Prop :=
  ∀ id call, s.calls id = some call → call.Formed deviceId

section Formed
variable {platform : Platform} {deviceId : Uuid} {s s' : State K} {e : Event K} {boot : Boot}
  {id : CallId} {call : Call K}

lemma afterRead_formed {identityPrivate signedPrivate : K.Secret} {secrets : List K.Secret}
    (read : Option (StoredIdentity K)) (hcount : secrets.length = pool) :
    (boot.afterRead deviceId identityPrivate signedPrivate secrets read).Formed deviceId := by
  unfold Boot.afterRead
  cases read with
  | none => exact ⟨nofun, identityPrivate, signedPrivate, secrets, hcount, rfl⟩
  | some r =>
    by_cases hd : r.deviceId = deviceId
    · simp only [if_pos hd]
      split_ifs with hu
      · exact hd
      · exact hd
    · simp only [if_neg hd]
      refine ⟨fun r' hr' => ?_, identityPrivate, signedPrivate, secrets, hcount, rfl⟩
      cases hr'
      exact hd

lemma afterRead_keyId? {identityPrivate signedPrivate : K.Secret} {secrets : List K.Secret}
    (read : Option (StoredIdentity K)) :
    (boot.afterRead deviceId identityPrivate signedPrivate secrets read).keyId? = none := by
  unfold Boot.afterRead
  cases read with
  | none => rfl
  | some r =>
    dsimp only
    split_ifs <;> rfl

lemma afterRead_ne_publishing {identityPrivate signedPrivate : K.Secret} {secrets : List K.Secret}
    {boot' : Boot} {body : PublishBody K} (read : Option (StoredIdentity K)) :
    boot.afterRead deviceId identityPrivate signedPrivate secrets read ≠ .publishing boot' body := by
  unfold Boot.afterRead
  cases read with
  | none => exact nofun
  | some r =>
    dsimp only
    split_ifs <;> exact nofun

lemma State.Formed.set (h : s.Formed deviceId) (hc : call.Formed deviceId) :
    (s.set id (some call)).Formed deviceId := by
  intro other call' hother
  rcases set_inv hother with rfl | hother
  · exact hc
  · exact h other call' hother

lemma State.Formed.clear (h : s.Formed deviceId) : (s.set id none).Formed deviceId :=
  fun other call hother => h other call (clear_inv hother)

end Formed

section Unraced
variable {r : StoredIdentity K}

lemma topUp_unraced (platform : Platform) (secrets : List K.Secret) (versions : List ℕ) :
    platform.topUp (some r) (mintOnto r secrets versions).identity =
      some (mintOnto r secrets versions).identity := by
  cases platform with
  | web => rfl
  | android =>
    have hrest := @mintPreKeys_rest K r secrets
    exact congrArg (fun i => some { i with advertised := some versions }) hrest.symm

lemma forget_unraced (platform : Platform) (keyId : ℕ) :
    platform.forget r (some r) keyId = some (r.forget keyId) := by
  cases platform with
  | web => rfl
  | android => rfl

end Unraced

end Yappy.DeviceKeys
