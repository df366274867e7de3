import Yappy.KeyedTable
import Yappy.PermissionAccess
import Yappy.Runs

/-!
# The key directory

`apps/api/src/routes/keys.ts` as far as it concerns one device: its row of `crypto_identities`, its
rows of `one_time_pre_keys`, and the senders who claim its bundle. A claim is one UPDATE around a
subselect with SKIP LOCKED: it goes through the unclaimed rows of its snapshot in order, passes
over a row that another claim has locked, and looks again at the row it has locked itself.
-/
namespace Yappy.DeviceKeys

open Permissions (AppError Uuid ensure forbidden)

/-- The curve operations, which are library calls in every client. -/
structure Curves where
  Secret : Type
  Public : Type
  Signature : Type
  identityOf : Secret → Public
  preKeyOf : Secret → Public
  sign : Secret → Public → Signature
  signText : Secret → String → Signature
  verify : Public → Public → Signature → Bool
  computeFingerprint : Public → String

structure SignedPreKey (K : Curves) where
  id : ℕ
  key : K.Public
  signature : K.Signature

structure PreKey (K : Curves) where
  id : ℕ
  key : K.Public

/-- `formats` of a publish: the versions and the signature over them. -/
structure Formats (K : Curves) where
  versions : List ℕ
  signature : K.Signature

/-- `publishKeysBody` -/
structure PublishBody (K : Curves) where
  deviceId : Uuid
  identityKey : K.Public
  signedPreKey : SignedPreKey K
  oneTimePreKeys : List (PreKey K)
  formats : Option (Formats K)

structure IdentityRow (K : Curves) where
  deviceId : Uuid
  userId : Uuid
  identityKey : K.Public
  signedPreKeyId : ℕ
  signedPreKey : K.Public
  signedPreKeySignature : K.Signature
  formats : Option String
  formatsSignature : Option K.Signature
  fingerprint : String

/-- A row of `one_time_pre_keys`; `claimed` is `claimed_at is not null`. -/
structure PreKeyRow (K : Curves) where
  keyId : ℕ
  publicKey : K.Public
  claimed : Bool

structure Bundle (K : Curves) where
  userId : Uuid
  deviceId : Uuid
  identityKey : K.Public
  fingerprint : String
  formats : Option String
  formatsSignature : Option K.Signature
  signedPreKey : SignedPreKey K
  oneTimePreKey : Option (PreKey K)

/-- How far one sender's claim of the device's bundle has come. -/
inductive Claim (K : Curves)
  | selected (row : IdentityRow K)
  | scanning (row : IdentityRow K) (candidates : List ℕ)
  | locked (row : IdentityRow K) (keyId : ℕ)

abbrev ClaimId := ℕ

structure Directory (K : Curves) where
  identity : Option (IdentityRow K)
  preKeys : KeyedTable (PreKeyRow.keyId (K := K))
  claims : ClaimId → Option (Claim K)
  bundles : List (Bundle K)

variable {K : Curves}

/-- `set claimed_at = now()` -/
def PreKeyRow.claim (r : PreKeyRow K) : PreKeyRow K := { r with claimed := true }

def join (versions : List ℕ) : String := ",".intercalate (versions.map toString)

def IdentityRow.bundle (row : IdentityRow K) (oneTimePreKey : Option (PreKey K)) : Bundle K where
  userId := row.userId
  deviceId := row.deviceId
  identityKey := row.identityKey
  fingerprint := row.fingerprint
  formats := row.formats
  formatsSignature := row.formatsSignature
  signedPreKey := ⟨row.signedPreKeyId, row.signedPreKey, row.signedPreKeySignature⟩
  oneTimePreKey := oneTimePreKey

section Publish

/-- The row a first publish inserts. -/
def PublishBody.inserted (body : PublishBody K) (userId : Uuid) : IdentityRow K where
  deviceId := body.deviceId
  userId := userId
  identityKey := body.identityKey
  signedPreKeyId := body.signedPreKey.id
  signedPreKey := body.signedPreKey.key
  signedPreKeySignature := body.signedPreKey.signature
  formats := body.formats.map fun f => join f.versions
  formatsSignature := body.formats.map (·.signature)
  fingerprint := K.computeFingerprint body.identityKey

/-- On conflict the identity key is not updated, and the formats only where the body has some. -/
def PublishBody.updated (body : PublishBody K) (row : IdentityRow K) : IdentityRow K :=
  let row := { row with
    signedPreKeyId := body.signedPreKey.id
    signedPreKey := body.signedPreKey.key
    signedPreKeySignature := body.signedPreKey.signature }
  match body.formats with
  | some f => { row with formats := some (join f.versions), formatsSignature := some f.signature }
  | none => row

def insertPreKeys (table : KeyedTable (PreKeyRow.keyId (K := K))) (keys : List (PreKey K)) :
    KeyedTable (PreKeyRow.keyId (K := K)) :=
  keys.foldl (fun table k => table.insertIgnore ⟨k.id, k.key, false⟩) table

namespace Directory

def published (userId : Uuid) (body : PublishBody K) (dir : Directory K) : Directory K :=
  { dir with
    identity := some (dir.identity.elim (body.inserted userId) body.updated)
    preKeys := insertPreKeys dir.preKeys body.oneTimePreKeys }

/-- `POST /keys/publish`, from the device `deviceId` of the account `userId`. -/
def publish (deviceId userId : Uuid) (body : PublishBody K) (dir : Directory K) :
    Except AppError (Directory K) := do
  ensure (body.deviceId = deviceId) (forbidden "You can only publish keys for the current device")
  return dir.published userId body

/-- `GET /keys/count` -/
def availablePreKeys (dir : Directory K) : ℕ := (dir.preKeys.rows.filter fun r => !r.claimed).length

end Directory

end Publish

namespace Directory
variable (dir : Directory K) (id : ClaimId)

def set (claim : Option (Claim K)) : Directory K :=
  { dir with claims := Function.update dir.claims id claim }

/-- The subselect's rows: those unclaimed, by `key_id`. -/
def unclaimed : List ℕ :=
  ((dir.preKeys.rows.filter fun r => !r.claimed).map PreKeyRow.keyId).mergeSort (· ≤ ·)

def Locked (keyId : ℕ) : Prop := ∃ other row, dir.claims other = some (.locked row keyId)

def Claimed (keyId : ℕ) : Prop := ∃ r, dir.preKeys.find keyId = some r ∧ r.claimed = true

def Unclaimed (keyId : ℕ) : Prop := ∃ r, dir.preKeys.find keyId = some r ∧ r.claimed = false

def reply : Option (Bundle K) :=
  match dir.claims id with
  | some (.locked row keyId) =>
    (dir.preKeys.find keyId).map fun r => row.bundle (some ⟨keyId, r.publicKey⟩)
  | some (.scanning row []) => some (row.bundle none)
  | _ => none

def answer (bundle : Bundle K) : Directory K where
  identity := dir.identity
  preKeys := dir.preKeys.update (fun r => bundle.oneTimePreKey.any fun k => k.id == r.keyId)
    PreKeyRow.claim fun _ => rfl
  claims := Function.update dir.claims id none
  bundles := bundle :: dir.bundles

def handedOut : List ℕ := (dir.bundles.filterMap Bundle.oneTimePreKey).map PreKey.id

end Directory

/-- `POST /keys/claim`, one bundle. -/
inductive ClaimStep : Directory K → ClaimId → Directory K → Prop
  | select {dir : Directory K} {id : ClaimId} {row : IdentityRow K} (hid : dir.claims id = none)
      (hrow : dir.identity = some row) : ClaimStep dir id (dir.set id (some (.selected row)))
  | scan {dir : Directory K} {id : ClaimId} {row : IdentityRow K}
      (hid : dir.claims id = some (.selected row)) :
      ClaimStep dir id (dir.set id (some (.scanning row dir.unclaimed)))
  | skip {dir : Directory K} {id : ClaimId} {row : IdentityRow K} {keyId : ℕ} {rest : List ℕ}
      (hid : dir.claims id = some (.scanning row (keyId :: rest))) (hlocked : dir.Locked keyId) :
      ClaimStep dir id (dir.set id (some (.scanning row rest)))
  | recheck {dir : Directory K} {id : ClaimId} {row : IdentityRow K} {keyId : ℕ} {rest : List ℕ}
      (hid : dir.claims id = some (.scanning row (keyId :: rest))) (hfree : ¬ dir.Locked keyId)
      (hclaimed : dir.Claimed keyId) : ClaimStep dir id (dir.set id (some (.scanning row rest)))
  | lock {dir : Directory K} {id : ClaimId} {row : IdentityRow K} {keyId : ℕ} {rest : List ℕ}
      (hid : dir.claims id = some (.scanning row (keyId :: rest))) (hfree : ¬ dir.Locked keyId)
      (hunclaimed : dir.Unclaimed keyId) : ClaimStep dir id (dir.set id (some (.locked row keyId)))
  | answer {dir : Directory K} {id : ClaimId} {bundle : Bundle K}
      (hreply : dir.reply id = some bundle) : ClaimStep dir id (dir.answer id bundle)
  | abort {dir : Directory K} {id : ClaimId} : ClaimStep dir id (dir.set id none)

section PreKeyTable
variable {table : KeyedTable (PreKeyRow.keyId (K := K))} {keys : List (PreKey K)} {r : PreKeyRow K}

lemma find_insertPreKeys {keyId : ℕ} (h : table.find keyId = some r) :
    (insertPreKeys table keys).find keyId = some r := by
  induction keys generalizing table with
  | nil => exact h
  | cons k keys ih =>
    refine ih ?_
    rw [KeyedTable.find_insertIgnore, h]
    split_ifs with hk <;> rfl

lemma find_insertPreKeys_inv {keyId : ℕ} (h : (insertPreKeys table keys).find keyId = some r) :
    table.find keyId = some r ∨ (table.find keyId = none ∧ ∃ k ∈ keys, r = ⟨k.id, k.key, false⟩) := by
  induction keys generalizing table with
  | nil => exact Or.inl h
  | cons k keys ih =>
    rcases ih h with hr | ⟨hnone, k', hk', hr⟩
    · rw [KeyedTable.find_insertIgnore] at hr
      split_ifs at hr with hk
      · cases hf : table.find keyId with
        | none =>
          rw [hf, Option.getD_none] at hr
          exact Or.inr ⟨rfl, k, List.mem_cons_self, (Option.some.inj hr).symm⟩
        | some old =>
          rw [hf, Option.getD_some] at hr
          exact Or.inl hr
      · exact Or.inl hr
    · rw [KeyedTable.find_insertIgnore] at hnone
      split_ifs at hnone
      exact Or.inr ⟨hnone, k', List.mem_cons_of_mem _ hk', hr⟩

end PreKeyTable

namespace Directory
variable {dir dir' : Directory K} {id : ClaimId} {keyId : ℕ}

@[simp] lemma set_preKeys (claim : Option (Claim K)) : (dir.set id claim).preKeys = dir.preKeys := rfl

@[simp] lemma set_identity (claim : Option (Claim K)) : (dir.set id claim).identity = dir.identity := rfl

@[simp] lemma set_bundles (claim : Option (Claim K)) : (dir.set id claim).bundles = dir.bundles := rfl

@[simp] lemma answer_identity (bundle : Bundle K) : (dir.answer id bundle).identity = dir.identity := rfl

@[simp] lemma set_claims_self (claim : Option (Claim K)) : (dir.set id claim).claims id = claim :=
  Function.update_self ..

lemma set_claims_inv {claim : Option (Claim K)} {other : ClaimId} {c : Claim K}
    (h : (dir.set id claim).claims other = some c) :
    (other = id ∧ claim = some c) ∨ dir.claims other = some c := by
  by_cases he : other = id
  · subst he
    exact Or.inl ⟨rfl, (set_claims_self claim).symm.trans h⟩
  · have hother : (dir.set id claim).claims other = dir.claims other := Function.update_of_ne he ..
    exact Or.inr (hother.symm.trans h)

lemma answer_claims_inv {bundle : Bundle K} {other : ClaimId} {c : Claim K}
    (h : (dir.answer id bundle).claims other = some c) : other ≠ id ∧ dir.claims other = some c := by
  by_cases he : other = id
  · subst he
    have hnone : (dir.answer other bundle).claims other = none := Function.update_self ..
    cases hnone.symm.trans h
  · have hother : (dir.answer id bundle).claims other = dir.claims other := Function.update_of_ne he ..
    exact ⟨he, hother.symm.trans h⟩

lemma find_answer (bundle : Bundle K) (keyId : ℕ) :
    (dir.answer id bundle).preKeys.find keyId = (dir.preKeys.find keyId).map fun r =>
      if bundle.oneTimePreKey.any (fun k => k.id == r.keyId) then r.claim else r :=
  dir.preKeys.find_update _ PreKeyRow.claim (fun _ => rfl) keyId

lemma Unclaimed.not_claimed (h : dir.Unclaimed keyId) : ¬ dir.Claimed keyId := by
  rintro ⟨r, hr, hclaimed⟩
  obtain ⟨r', hr', hunclaimed⟩ := h
  rw [hr] at hr'
  cases hr'
  rw [hclaimed] at hunclaimed
  cases hunclaimed

lemma reply_cases {bundle : Bundle K} (h : dir.reply id = some bundle) :
    (∃ row keyId r, dir.claims id = some (.locked row keyId) ∧ dir.preKeys.find keyId = some r ∧
      bundle = row.bundle (some ⟨keyId, r.publicKey⟩)) ∨
    ∃ row, dir.claims id = some (.scanning row []) ∧ bundle = row.bundle none := by
  unfold reply at h
  split at h
  · next row keyId hc =>
    obtain ⟨r, hr, rfl⟩ := Option.map_eq_some_iff.mp h
    exact Or.inl ⟨row, keyId, r, hc, hr, rfl⟩
  · next row hc =>
    cases h
    exact Or.inr ⟨row, hc, rfl⟩
  · cases h

lemma mem_unclaimed : keyId ∈ dir.unclaimed ↔ dir.Unclaimed keyId := by
  rw [unclaimed, List.mem_mergeSort, List.mem_map]
  constructor
  · rintro ⟨r, hr, rfl⟩
    obtain ⟨hr, hunclaimed⟩ := List.mem_filter.mp hr
    exact ⟨r, KeyedTable.find_eq_some.mpr ⟨hr, rfl⟩, by simpa using hunclaimed⟩
  · rintro ⟨r, hr, hunclaimed⟩
    obtain ⟨hmem, hk⟩ := KeyedTable.find_eq_some.mp hr
    exact ⟨r, List.mem_filter.mpr ⟨hmem, by simp [hunclaimed]⟩, hk⟩

lemma answer_claimed (bundle : Bundle K) (h : dir.Claimed keyId) :
    (dir.answer id bundle).Claimed keyId := by
  obtain ⟨r, hr, hclaimed⟩ := h
  rw [Claimed, find_answer, hr]
  refine ⟨_, rfl, ?_⟩
  beta_reduce
  split_ifs
  · rfl
  · exact hclaimed

lemma publish_eq_ok {deviceId userId : Uuid} {body : PublishBody K} :
    dir.publish deviceId userId body = .ok dir' ↔
      body.deviceId = deviceId ∧ dir' = dir.published userId body := by
  rw [publish, Permissions.bind_eq_ok]
  constructor
  · rintro ⟨u, hu, h⟩
    cases h
    exact ⟨by simpa using hu, rfl⟩
  · rintro ⟨hd, rfl⟩
    exact ⟨(), by simpa using hd, rfl⟩

lemma published_claimed {userId : Uuid} {body : PublishBody K} (h : dir.Claimed keyId) :
    (dir.published userId body).Claimed keyId := by
  obtain ⟨r, hr, hclaimed⟩ := h
  exact ⟨r, find_insertPreKeys hr, hclaimed⟩

end Directory

end Yappy.DeviceKeys
