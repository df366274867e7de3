import Yappy.DeviceKeySpent

/-!
# The directory and the device agree

As long as no call stores the record over one that it has not read, and the store is not dropped
once the directory knows the device, every bundle has a signed prekey that verifies and a one-time
prekey whose private half is on the device.
-/
namespace Yappy.DeviceKeys

open Permissions (Uuid)

variable {K : Curves}

/-- The device's own record holds the private half of the prekey. -/
def Held (deviceId : Uuid) (stored : Option (StoredIdentity K)) (k : PreKey K) : Prop :=
  ∃ r secret, stored = some r ∧ r.deviceId = deviceId ∧ r.preKeys k.id = some secret ∧
    K.preKeyOf secret = k.key

def Signed (deviceId : Uuid) (stored : Option (StoredIdentity K)) (identityKey : K.Public)
    (signedPreKey : K.Public) (signature : K.Signature) : Prop :=
  ∃ r, stored = some r ∧ r.deviceId = deviceId ∧ identityKey = K.identityOf r.identityPrivate ∧
    signedPreKey = r.signedPreKeyPublic ∧ signature = signPreKey r

/-- The signed prekey verifies under the identity key, and the one-time prekey, if there is one, has
its private half on the device. -/
def Bundle.Sound (deviceId : Uuid) (stored : Option (StoredIdentity K)) (bundle : Bundle K) : Prop :=
  K.verify bundle.identityKey bundle.signedPreKey.key bundle.signedPreKey.signature = true ∧
    ∀ k, bundle.oneTimePreKey = some k → Held deviceId stored k

def Claim.row : Claim K → IdentityRow K
  | .selected row => row
  | .scanning row _ => row
  | .locked row _ => row

def IdentityRow.Verifies (row : IdentityRow K) : Prop :=
  K.verify row.identityKey row.signedPreKey row.signedPreKeySignature = true

def StoredIdentity.Own (r : StoredIdentity K) : Prop :=
  r.identityPublic = K.identityOf r.identityPrivate ∧ r.Numbered

structure Agrees (deviceId : Uuid) (s : State K) : Prop where
  formed : s.Formed deviceId
  own : ∀ r, s.stored = some r → r.deviceId = deviceId → r.Own
  identity : ∀ row, s.directory.identity = some row →
    Signed deviceId s.stored row.identityKey row.signedPreKey row.signedPreKeySignature
  empty : s.directory.identity = none → ∀ keyId, s.directory.preKeys.find keyId = none
  unclaimed : ∀ keyId pre, s.directory.preKeys.find keyId = some pre → pre.claimed = false →
    Held deviceId s.stored ⟨keyId, pre.publicKey⟩
  publishing : ∀ id boot body, s.calls id = some (.publishing boot body) → body.deviceId = deviceId →
    Signed deviceId s.stored body.identityKey body.signedPreKey.key body.signedPreKey.signature ∧
      ∀ k ∈ body.oneTimePreKeys, ¬ s.directory.Claimed k.id → Held deviceId s.stored k
  claims : ∀ id claim, s.directory.claims id = some claim → claim.row.Verifies
  pending : ∀ id call keyId, s.calls id = some call → call.keyId? = some keyId →
    s.directory.Claimed keyId

/-- No call stores the record over one that it has not read, the store is dropped only while nothing
of the device is published or on its way, and `consumePreKey` is for a prekey that was handed out. -/
def Apart (platform : Platform) (s : State K) (e : Event K) : Prop :=
  Unraced platform s e ∧ match e with
  | .clear => s.directory.identity = none ∧ ∀ id boot body, s.calls id ≠ some (.publishing boot body)
  | .consume _ keyId => s.directory.Claimed keyId
  | _ => True

section Steps
variable {platform : Platform} {deviceId : Uuid} {s s' : State K} {e : Event K} {id : CallId}
  {call : Call K} {r r' : StoredIdentity K} {boot : Boot} {secrets : List K.Secret}

lemma Agrees.set (h : Agrees deviceId s) (hf : call.Formed deviceId)
    (hb : ∀ boot body, call ≠ .publishing boot body)
    (hp : ∀ keyId, call.keyId? = some keyId → s.directory.Claimed keyId) :
    Agrees deviceId (s.set id (some call)) :=
  { h with
    formed := h.formed.set hf
    publishing := by
      intro other boot body hother
      rcases set_inv hother with rfl | hother
      · exact absurd rfl (hb boot body)
      · exact h.publishing other boot body hother
    pending := by
      intro other call' keyId hother hk
      rcases set_inv hother with rfl | hother
      · exact hp keyId hk
      · exact h.pending other call' keyId hother hk }

lemma Agrees.setPublishing {body : PublishBody K} (h : Agrees deviceId s)
    (hb : body.deviceId = deviceId →
      Signed deviceId s.stored body.identityKey body.signedPreKey.key body.signedPreKey.signature ∧
        ∀ k ∈ body.oneTimePreKeys, ¬ s.directory.Claimed k.id → Held deviceId s.stored k) :
    Agrees deviceId (s.set id (some (.publishing boot body))) :=
  { h with
    formed := h.formed.set trivial
    publishing := by
      intro other boot' body' hother
      rcases set_inv hother with he | hother
      · cases he
        exact hb
      · exact h.publishing other boot' body' hother
    pending := by
      intro other call' keyId hother hk
      rcases set_inv hother with rfl | hother
      · cases hk
      · exact h.pending other call' keyId hother hk }

lemma Agrees.clear (h : Agrees deviceId s) : Agrees deviceId (s.set id none) :=
  { h with
    formed := h.formed.clear
    publishing := fun other boot body hother => h.publishing other boot body (clear_inv hother)
    pending := fun other call keyId hother => h.pending other call keyId (clear_inv hother) }

lemma Agrees.finish (h : Agrees deviceId s) : Agrees deviceId (s.finish id call) :=
  { h.clear with }

structure Extends (claimed : ℕ → Prop) (r r' : StoredIdentity K) : Prop where
  deviceId : r'.deviceId = r.deviceId
  identityPrivate : r'.identityPrivate = r.identityPrivate
  signedPreKeyPublic : r'.signedPreKeyPublic = r.signedPreKeyPublic
  own : r.Own → r'.Own
  preKeys : r.Own → ∀ keyId secret, ¬ claimed keyId → r.preKeys keyId = some secret →
    r'.preKeys keyId = some secret

lemma Signed.extends {claimed : ℕ → Prop} {identityKey signedPreKey : K.Public} {signature : K.Signature}
    (h : Signed deviceId (some r) identityKey signedPreKey signature) (he : Extends claimed r r') :
    Signed deviceId (some r') identityKey signedPreKey signature := by
  obtain ⟨_, hr, hd, hidentity, hkey, hsignature⟩ := h
  cases hr
  refine ⟨r', rfl, he.deviceId.trans hd, ?_, ?_, ?_⟩
  · rw [he.identityPrivate, hidentity]
  · rw [he.signedPreKeyPublic, hkey]
  · rw [signPreKey, he.identityPrivate, he.signedPreKeyPublic, hsignature]
    rfl

lemma Held.extends {claimed : ℕ → Prop} {k : PreKey K} (h : Held deviceId (some r) k)
    (he : Extends claimed r r') (hown : r.deviceId = deviceId → r.Own) (hk : ¬ claimed k.id) :
    Held deviceId (some r') k := by
  obtain ⟨_, secret, hr, hd, hsecret, hkey⟩ := h
  cases hr
  exact ⟨r', secret, rfl, he.deviceId.trans hd, he.preKeys (hown hd) k.id secret hk hsecret, hkey⟩

lemma Agrees.store (h : Agrees deviceId s) (hr : s.stored = some r)
    (he : Extends s.directory.Claimed r r') : Agrees deviceId (s.store (some r')) := by
  have hown := h.own r hr
  refine { h with own := ?_, identity := ?_, unclaimed := ?_, publishing := ?_ }
  · intro r'' hr'' hd
    cases hr''
    exact he.own (hown (he.deviceId.symm.trans hd))
  · intro row hrow
    exact (hr ▸ h.identity row hrow).extends he
  · intro keyId pre hpre hunclaimed
    have hnot : ¬ s.directory.Claimed keyId := Directory.Unclaimed.not_claimed ⟨pre, hpre, hunclaimed⟩
    exact (hr ▸ h.unclaimed keyId pre hpre hunclaimed).extends he hown hnot
  · intro other boot body hother hd
    obtain ⟨hsigned, hheld⟩ := h.publishing other boot body hother hd
    exact ⟨(hr ▸ hsigned).extends he, fun k hk hnot => (hr ▸ hheld k hk hnot).extends he hown hnot⟩

lemma extends_userId (claimed : ℕ → Prop) (userId : Uuid) : Extends claimed r { r with userId := userId } :=
  ⟨rfl, rfl, rfl, id, fun _ _ _ _ h => h⟩

lemma extends_forget {claimed : ℕ → Prop} {keyId : ℕ} (hk : claimed keyId) :
    Extends claimed r (r.forget keyId) := by
  refine ⟨rfl, rfl, rfl, fun h => ⟨h.1, h.2.forgotten⟩, fun _ other secret hnot hsecret => ?_⟩
  have hne : other ≠ keyId := by
    rintro rfl
    exact hnot hk
  rw [forget_of_ne hne, hsecret]

lemma mintOnto_own {versions : List ℕ} (h : r.Own) : (mintOnto r secrets versions).identity.Own := by
  have hpublic := congrArg StoredIdentity.identityPublic (@mintOnto_rest K r secrets versions)
  have hprivate := congrArg StoredIdentity.identityPrivate (@mintOnto_rest K r secrets versions)
  have hnumbered : (mintPreKeys r secrets).1.Numbered := h.2.minted
  exact ⟨(hpublic.trans h.1).trans (congrArg K.identityOf hprivate.symm), hnumbered⟩

lemma extends_mintOnto (claimed : ℕ → Prop) (versions : List ℕ) :
    Extends claimed r (mintOnto r secrets versions).identity := by
  have hrest := @mintOnto_rest K r secrets versions
  refine ⟨?_, ?_, ?_, mintOnto_own, fun hown keyId secret _ hsecret => ?_⟩
  · exact mintOnto_deviceId
  · exact (congrArg StoredIdentity.identityPrivate hrest :)
  · exact (congrArg StoredIdentity.signedPreKeyPublic hrest :)
  · have hne : r.preKeys keyId ≠ none := by simp [hsecret]
    exact (mintOnto_old (hown.2 keyId hne)).trans hsecret

lemma mintOnto_agrees {versions : List ℕ} (hd : r.deviceId = deviceId) (hown : r.Own) :
    Signed deviceId (some (mintOnto r secrets versions).identity)
        (mintOnto r secrets versions).body.identityKey (mintOnto r secrets versions).body.signedPreKey.key
        (mintOnto r secrets versions).body.signedPreKey.signature ∧
      ∀ k ∈ (mintOnto r secrets versions).body.oneTimePreKeys,
        Held deviceId (some (mintOnto r secrets versions).identity) k := by
  have hext := @extends_mintOnto K r secrets (fun _ => False) versions
  rw [mintOnto_body]
  constructor
  · have hsigned : Signed deviceId (some r) (publishBody r (mintPreKeys r secrets).2 versions).identityKey
        (publishBody r (mintPreKeys r secrets).2 versions).signedPreKey.key
        (publishBody r (mintPreKeys r secrets).2 versions).signedPreKey.signature :=
      ⟨r, rfl, hd, hown.1, rfl, rfl⟩
    exact hsigned.extends hext
  · intro k hk
    obtain ⟨secret, hsecret, hkey⟩ := mintPreKeys_private hk
    exact ⟨_, secret, rfl, hext.deviceId.trans hd, hsecret, hkey⟩

lemma Agrees.mint (h : Agrees deviceId s) (hother : ∀ r, s.stored = some r → r.deviceId ≠ deviceId)
    (hown : r'.deviceId = deviceId → r'.Own) : Agrees deviceId (s.store (some r')) := by
  have hsigned : ∀ {identityKey signedPreKey : K.Public} {signature : K.Signature},
      ¬ Signed deviceId s.stored identityKey signedPreKey signature := by
    rintro _ _ _ ⟨r, hr, hd, -⟩
    exact hother r hr hd
  refine { h with own := ?_, identity := ?_, unclaimed := ?_, publishing := ?_ }
  · intro r hr hd
    cases hr
    exact hown hd
  · intro row hrow
    exact absurd (h.identity row hrow) hsigned
  · intro keyId pre hpre hunclaimed
    obtain ⟨r, -, hr, hd, -⟩ := h.unclaimed keyId pre hpre hunclaimed
    exact absurd hd (hother r hr)
  · intro other boot body hcall hd
    exact absurd (h.publishing other boot body hcall hd).1 hsigned

lemma Agrees.published {body : PublishBody K} (h : Agrees deviceId s) (userId : Uuid)
    (hsigned : Signed deviceId s.stored body.identityKey body.signedPreKey.key body.signedPreKey.signature)
    (hheld : ∀ k ∈ body.oneTimePreKeys, ¬ s.directory.Claimed k.id → Held deviceId s.stored k) :
    Agrees deviceId { s with directory := s.directory.published userId body } := by
  have hclaimed : ∀ keyId, s.directory.Claimed keyId → (s.directory.published userId body).Claimed keyId :=
    fun keyId => Directory.published_claimed
  refine { h with identity := ?_, empty := nofun, unclaimed := ?_, publishing := ?_, pending := ?_ }
  · intro row hrow
    cases hrow
    cases hidentity : s.directory.identity with
    | none =>
      rw [Option.elim_none]
      exact hsigned
    | some old =>
      rw [Option.elim_some]
      -- the identity key is the one there was, and both are the record's
      obtain ⟨r, hr, hd, hold, -⟩ := h.identity old hidentity
      obtain ⟨_, hr', -, -, hkey, hsignature⟩ := hsigned
      cases hr.symm.trans hr'
      have hfields : (body.updated old).identityKey = old.identityKey ∧
          (body.updated old).signedPreKey = body.signedPreKey.key ∧
          (body.updated old).signedPreKeySignature = body.signedPreKey.signature := by
        unfold PublishBody.updated
        cases body.formats with
        | none => exact ⟨rfl, rfl, rfl⟩
        | some f => exact ⟨rfl, rfl, rfl⟩
      exact ⟨r, hr, hd, hfields.1.trans hold, hfields.2.1.trans hkey, hfields.2.2.trans hsignature⟩
  · intro keyId pre hpre hunclaimed
    rcases find_insertPreKeys_inv hpre with hpre | ⟨hnone, k, hk, rfl⟩
    · exact h.unclaimed keyId pre hpre hunclaimed
    · have hid := KeyedTable.find_key hpre
      dsimp only at hid
      subst hid
      refine hheld k hk ?_
      rintro ⟨r, hr, -⟩
      rw [hnone] at hr
      cases hr
  · intro other boot body' hcall hd
    obtain ⟨hsigned', hheld'⟩ := h.publishing other boot body' hcall hd
    exact ⟨hsigned', fun k hk hnot => hheld' k hk fun hc => hnot (hclaimed k.id hc)⟩
  · intro other call keyId hcall hk
    exact hclaimed keyId (h.pending other call keyId hcall hk)

lemma Agrees.setRead {a b : K.Secret} {read : Option (StoredIdentity K)} (h : Agrees deviceId s)
    (hcount : secrets.length = pool) :
    Agrees deviceId (s.set id (some (boot.afterRead deviceId a b secrets read))) := by
  refine h.set (afterRead_formed read hcount) (fun _ _ => afterRead_ne_publishing read) fun keyId hk => ?_
  rw [afterRead_keyId?] at hk
  cases hk

lemma Agrees.dropped (h : Agrees deviceId s) (hidentity : s.directory.identity = none)
    (hcalls : ∀ id boot body, s.calls id ≠ some (.publishing boot body)) : Agrees deviceId (s.store none) := by
  refine { h with own := nofun, identity := ?_, unclaimed := ?_, publishing := ?_ }
  · intro row hrow
    cases hidentity.symm.trans hrow
  · intro keyId pre hpre
    cases (h.empty hidentity keyId).symm.trans hpre
  · intro other boot body hcall
    exact absurd hcall (hcalls other boot body)

section Claims
variable {claimId : ClaimId}

lemma Agrees.clearClaim (h : Agrees deviceId s) :
    Agrees deviceId { s with directory := s.directory.set claimId none } :=
  { h with
    claims := by
      intro other c hother
      rcases Directory.set_claims_inv hother with ⟨-, hc⟩ | hother
      · cases hc
      · exact h.claims other c hother }

lemma Agrees.setClaim {row : IdentityRow K} {claim : Claim K} (h : Agrees deviceId s)
    (hrow : row.Verifies) (hsame : claim.row = row) :
    Agrees deviceId { s with directory := s.directory.set claimId (some claim) } :=
  { h with
    claims := by
      intro other c hother
      rcases Directory.set_claims_inv hother with ⟨-, hc⟩ | hother
      · cases hc
        rw [hsame]
        exact hrow
      · exact h.claims other c hother }

lemma Agrees.answer {bundle : Bundle K} (h : Agrees deviceId s) :
    Agrees deviceId { s with directory := s.directory.answer claimId bundle } := by
  refine { h with empty := ?_, unclaimed := ?_, publishing := ?_, claims := ?_, pending := ?_ }
  · intro hnone keyId
    exact (Directory.find_answer bundle keyId).trans (by rw [h.empty hnone keyId]; rfl)
  · intro keyId pre hpre hunclaimed
    obtain ⟨old, hold, hnew⟩ := Option.map_eq_some_iff.mp ((Directory.find_answer bundle keyId).symm.trans hpre)
    split_ifs at hnew with hk
    · subst hnew
      cases hunclaimed
    · subst hnew
      exact h.unclaimed keyId old hold hunclaimed
  · intro other boot body hcall hd
    obtain ⟨hsigned, hheld⟩ := h.publishing other boot body hcall hd
    exact ⟨hsigned, fun k hk hnot => hheld k hk fun hc => hnot (Directory.answer_claimed bundle hc)⟩
  · intro other c hother
    exact h.claims other c (Directory.answer_claims_inv hother).2
  · intro other call keyId hcall hk
    exact Directory.answer_claimed bundle (h.pending other call keyId hcall hk)

variable (hverify : ∀ secret key, K.verify (K.identityOf secret) key (K.sign secret key) = true)
include hverify

lemma Agrees.verifies {row : IdentityRow K} (h : Agrees deviceId s)
    (hrow : s.directory.identity = some row) : row.Verifies := by
  obtain ⟨r, -, -, hidentity, hkey, hsignature⟩ := h.identity row hrow
  rw [IdentityRow.Verifies, hidentity, hkey, hsignature]
  exact hverify ..

lemma Agrees.claimStep {dir : Directory K} (h : Agrees deviceId s)
    (hstep : ClaimStep s.directory claimId dir) : Agrees deviceId { s with directory := dir } := by
  cases hstep with
  | select _ hrow => exact h.setClaim (h.verifies hverify hrow) rfl
  | scan hid => exact h.setClaim (h.claims _ _ hid) rfl
  | skip hid => exact h.setClaim (h.claims _ _ hid) rfl
  | recheck hid => exact h.setClaim (h.claims _ _ hid) rfl
  | lock hid => exact h.setClaim (h.claims _ _ hid) rfl
  | answer => exact h.answer
  | abort => exact h.clearClaim

lemma Step.agrees (hstep : Step platform deviceId s e s') (h : Agrees deviceId s)
    (hapart : Apart platform s e) : Agrees deviceId s' := by
  cases hstep with
  | boot => exact h.set trivial nofun nofun
  | read _ hcount => exact h.setRead hcount
  | misread _ _ hcount => exact h.setRead hcount
  | @fill id boot read hid =>
    have hd : Call.Formed deviceId (.filling boot read) := h.formed _ _ hid
    refine Agrees.set (s := s.store (platform.fill read s.stored boot.userId)) ?_ hd nofun nofun
    cases platform with
    | web => exact h.store (hapart.1 _ _ hid rfl) (extends_userId _ _)
    | android =>
      cases hr : s.stored with
      | none =>
        have hsame : s.store none = s := by rw [← hr]; rfl
        exact hsame.symm ▸ h
      | some r => exact h.store hr (extends_userId _ _)
  | enough => exact h.clear
  | count => exact h.set ⟨_, rfl⟩ nofun nofun
  | countAndroid => exact h.set trivial nofun nofun
  | reread => exact h.set ⟨_, rfl⟩ nofun nofun
  | @mint id boot read minted hid =>
    obtain ⟨hother, a, b, secrets, -, rfl⟩ := h.formed _ _ hid
    have hstored : s.stored = read := hapart.1 _ _ _ hid
    have hown : (mintIdentity deviceId boot.userId a b).Own := ⟨rfl, nofun⟩
    obtain ⟨hsigned, hheld⟩ := @mintOnto_agrees K deviceId _ secrets boot.formats rfl hown
    exact (h.mint (fun r hr => hother r (hstored.symm.trans hr)) fun _ => mintOnto_own hown).setPublishing
      fun _ => ⟨hsigned, fun k hk _ => hheld k hk⟩
  | @topUp id boot read minted hid =>
    obtain ⟨secrets, rfl⟩ := h.formed _ _ hid
    have hr : s.stored = some read := hapart.1 _ _ _ hid
    rw [hr, topUp_unraced]
    refine (h.store hr (extends_mintOnto _ boot.formats)).setPublishing fun hd => ?_
    rw [mintOnto_body] at hd
    obtain ⟨hsigned, hheld⟩ := @mintOnto_agrees K deviceId _ secrets boot.formats hd (h.own read hr hd)
    exact ⟨hsigned, fun k hk _ => hheld k hk⟩
  | @publish id boot body dir hid hpublish =>
    obtain ⟨hd, rfl⟩ := Directory.publish_eq_ok.mp hpublish
    obtain ⟨hsigned, hheld⟩ := h.publishing _ _ _ hid hd
    exact (h.published boot.userId hsigned hheld).clear
  | consume =>
    refine h.set trivial nofun fun keyId hk => ?_
    cases hk
    exact hapart.2
  | lookUp hid => exact h.set trivial nofun fun keyId hk => h.pending _ _ keyId hid hk
  | missing => exact h.finish
  | @forget id keyId read hid =>
    have hr : s.stored = some read := hapart.1 _ _ hid
    rw [hr, forget_unraced]
    exact (h.store hr (extends_forget (h.pending _ _ keyId hid rfl))).finish
  | fail => exact h.finish
  | crash => exact h.clear
  | clear => exact h.dropped hapart.2.1 hapart.2.2
  | claim hclaim => exact h.claimStep hverify hclaim

end Claims

end Steps

/-- The directory knows nothing of the device, and the device has no record of its own. -/
structure State.Unpublished (deviceId : Uuid) (s : State K) : Prop where
  calls : ∀ id, s.calls id = none
  other : ∀ r, s.stored = some r → r.deviceId ≠ deviceId
  identity : s.directory.identity = none
  preKeys : ∀ keyId, s.directory.preKeys.find keyId = none
  claims : ∀ id, s.directory.claims id = none
  bundles : s.directory.bundles = []

section Main
variable {platform : Platform} {deviceId : Uuid} {s₀ s : State K}

lemma State.Unpublished.agrees (h : s₀.Unpublished deviceId) : Agrees deviceId s₀ where
  formed id call hid := by cases (h.calls id).symm.trans hid
  own r hr hd := absurd hd (h.other r hr)
  identity row hrow := by cases h.identity.symm.trans hrow
  empty _ := h.preKeys
  unclaimed keyId pre hpre := by cases (h.preKeys keyId).symm.trans hpre
  publishing id boot body hid := by cases (h.calls id).symm.trans hid
  claims id claim hid := by cases (h.claims id).symm.trans hid
  pending id call keyId hid := by cases (h.calls id).symm.trans hid

lemma Agrees.reply {id : ClaimId} {bundle : Bundle K} (hs : Agrees deviceId s)
    (hexclusive : s.directory.Exclusive) (hreply : s.directory.reply id = some bundle) :
    bundle.Sound deviceId s.stored := by
  rcases Directory.reply_cases hreply with ⟨row, keyId, pre, hid, hpre, rfl⟩ | ⟨row, hid, rfl⟩
  · refine ⟨hs.claims _ _ hid, fun k hk => ?_⟩
    cases hk
    obtain ⟨pre', hpre', hunclaimed⟩ := hexclusive.locked _ _ _ hid
    cases hpre.symm.trans hpre'
    exact hs.unclaimed keyId pre hpre hunclaimed
  · exact ⟨hs.claims _ _ hid, nofun⟩

/-- In every state of a run that keeps to the condition, what the directory hands out next is
sound. -/
theorem bundles_agree (hverify : ∀ secret key, K.verify (K.identityOf secret) key (K.sign secret key) = true)
    (h₀ : s₀.Unpublished deviceId) (h : RunWhere (Step platform deviceId) (Apart platform) s₀ s) :
    ∀ id bundle, s.directory.reply id = some bundle → bundle.Sound deviceId s.stored := by
  intro id bundle hreply
  have hexclusive : s.directory.Exclusive :=
    run_exclusive (Directory.exclusive_of_idle h₀.claims h₀.bundles) h
  have hagrees : Agrees deviceId s :=
    h.invariant h₀.agrees fun _ _ _ hs hapart hstep => hstep.agrees hverify hs hapart
  exact hagrees.reply hexclusive hreply

end Main

section Answer
variable {platform : Platform} {deviceId : Uuid} {ok : State K → Event K → Prop} {s : State K}
  {row : IdentityRow K}

lemma claim_answers (hok : ∀ s, ok s (.claim 0)) (hrow : s.directory.identity = some row)
    (hclaims : ∀ id, s.directory.claims id = none) :
    ∃ s', RunWhere (Step platform deviceId) ok s s' ∧ s'.stored = s.stored ∧ s'.calls = s.calls ∧
      ∃ k, s'.directory.reply 0 = some (row.bundle k) := by
  let selected := s.directory.set 0 (some (.selected row))
  let scanning := selected.set 0 (some (.scanning row s.directory.unclaimed))
  have hselect : ClaimStep s.directory 0 selected := .select (hclaims 0) hrow
  have hscan : ClaimStep selected 0 scanning := .scan (Directory.set_claims_self _)
  have hselected : Step platform deviceId s (.claim 0) { s with directory := selected } :=
    .claim hselect
  have hscanning : Step platform deviceId { s with directory := selected } (.claim 0)
      { s with directory := scanning } := .claim hscan
  have hrun : RunWhere (Step platform deviceId) ok s { s with directory := scanning } :=
    ((RunWhere.refl s).tail (hok _) hselected).tail (hok _) hscanning
  have hid : scanning.claims 0 = some (.scanning row s.directory.unclaimed) :=
    Directory.set_claims_self _
  cases hunclaimed : s.directory.unclaimed with
  | nil =>
    refine ⟨_, hrun, rfl, rfl, none, ?_⟩
    rw [Directory.reply, hid, hunclaimed]
  | cons keyId rest =>
    rw [hunclaimed] at hid
    have hfree : ¬ scanning.Locked keyId := by
      rintro ⟨other, row', hother⟩
      rcases Directory.set_claims_inv hother with ⟨-, hc⟩ | hother
      · cases hc
      · rcases Directory.set_claims_inv hother with ⟨-, hc⟩ | hother
        · cases hc
        · cases (hclaims other).symm.trans hother
    have hmem : keyId ∈ s.directory.unclaimed := by
      rw [hunclaimed]
      exact List.mem_cons_self
    obtain ⟨pre, hpre, hpre'⟩ := Directory.mem_unclaimed.mp hmem
    have hlock : ClaimStep scanning 0 (scanning.set 0 (some (.locked row keyId))) :=
      .lock hid hfree ⟨pre, hpre, hpre'⟩
    have hlocked : Step platform deviceId { s with directory := scanning } (.claim 0)
        { s with directory := scanning.set 0 (some (.locked row keyId)) } := .claim hlock
    refine ⟨_, hrun.tail (hok _) hlocked, rfl, rfl, some ⟨keyId, pre.publicKey⟩, ?_⟩
    rw [Directory.reply, Directory.set_claims_self]
    exact congrArg (Option.map _) hpre

end Answer

namespace Sample

def nothing : State plain := ⟨none, ⟨none, .empty, fun _ => none, []⟩, fun _ => none, []⟩

lemma nothing_unpublished : nothing.Unpublished 1 where
  calls _ := rfl
  other := nofun
  identity := rfl
  preKeys _ := rfl
  claims _ := rfl
  bundles := rfl

def fresh (a b : ℕ) : Minted plain :=
  mintOnto (@mintIdentity plain 1 2 a b) (List.replicate 60 (0 : ℕ)) [2]

def minting (id : CallId) (a b : ℕ) (s : State plain) : State plain :=
  (s.set id (some (.reading boot))).set id (some (.minting boot none (fresh a b)))

def launched (id : CallId) (a b : ℕ) (s : State plain) : State plain :=
  { (s.store (some (fresh a b).identity)).set id (some (.publishing boot (fresh a b).body)) with
    directory := s.directory.published 2 (fresh a b).body }.set id none

variable {ok : State plain → Event plain → Prop} {s : State plain} {id : CallId} {a b : ℕ}

lemma plain_verify :
    ∀ secret key : ℕ, plain.verify (plain.identityOf secret) key (plain.sign secret key) = true := by
  intro secret key
  have hsame : decide ((secret, key) = (secret, key)) = true := decide_eq_true rfl
  exact hsame

lemma minting_of_ne {other : CallId} (h : other ≠ id) :
    (minting id a b s).calls other = s.calls other := (set_of_ne h).trans (set_of_ne h)

lemma launched_of_ne {other : CallId} (h : other ≠ id) :
    (launched id a b s).calls other = s.calls other := (set_of_ne h).trans (set_of_ne h)

lemma minting_run (hid : s.calls id = none) (hr : s.stored = none)
    (hok : ∀ s e, e = .boot id boot ∨ e = .read id → ok s e) :
    RunWhere (Step .web 1) ok s (minting id a b s) := by
  have hread : Step .web 1 (s.set id (some (.reading boot))) (.read id) (minting id a b s) := by
    have hstep := @Step.read plain .web 1 (s.set id (some (.reading boot))) id boot a b
      (List.replicate 60 (0 : ℕ)) set_self rfl
    rw [set_stored, hr] at hstep
    exact hstep
  exact ((RunWhere.refl s).tail (hok _ _ (Or.inl rfl)) (.boot hid)).tail (hok _ _ (Or.inr rfl)) hread

lemma launched_run (hid : s.calls id = some (.minting boot none (fresh a b))) (hmint : ok s (.mint id))
    (hpublish : ∀ s, ok s (.publish id)) : RunWhere (Step .web 1) ok s (launched id a b s) := by
  have hbody : (fresh a b).body.deviceId = 1 := by
    rw [fresh, mintOnto_body]
    rfl
  exact ((RunWhere.refl s).tail hmint (.mint hid)).tail (hpublish _)
    (.publish set_self (Directory.publish_eq_ok.mpr ⟨hbody, rfl⟩))

end Sample

open Sample

theorem bundles_agree_launched : ∃ s bundle, RunWhere (Step .web 1) (Apart .web) nothing s ∧
    s.directory.reply 0 = some bundle ∧ bundle.Sound 1 s.stored := by
  have hminting : RunWhere (Step .web 1) (Apart .web) nothing (minting 0 3 4 nothing) := by
    refine minting_run rfl rfl ?_
    rintro s e (rfl | rfl)
    · exact ⟨trivial, trivial⟩
    · exact ⟨trivial, trivial⟩
  have hmint : Apart .web (minting 0 3 4 nothing) (.mint 0) := by
    refine ⟨fun boot read minted hid => ?_, trivial⟩
    cases set_self.symm.trans hid
    rfl
  have hlaunched := launched_run set_self hmint fun s => ⟨trivial, trivial⟩
  obtain ⟨s, hrun, -, -, k, hreply⟩ := @claim_answers plain .web 1 (Apart .web)
    (launched 0 3 4 (minting 0 3 4 nothing)) _ (fun _ => ⟨trivial, trivial⟩) rfl fun _ => rfl
  have hall := (hminting.trans hlaunched).trans hrun
  exact ⟨s, _, hall, hreply, bundles_agree plain_verify nothing_unpublished hall 0 _ hreply⟩

/-- Two tabs boot at once and mint an identity each: the directory keeps the first identity key and
takes the second's signed prekey. -/
theorem two_boots_disagree : ¬ ∀ (platform : Platform) (deviceId : Uuid) (s₀ s : State plain),
    s₀.Unpublished deviceId →
    RunWhere (Step platform deviceId)
      (fun s e => ∀ id keyId, e = .consume id keyId → s.directory.Claimed keyId) s₀ s →
    (∀ id, s.calls id = none) →
    ∀ id bundle, s.directory.reply id = some bundle → bundle.Sound deviceId s.stored := by
  intro h
  let ok : State plain → Event plain → Prop :=
    fun s e => ∀ id keyId, e = .consume id keyId → s.directory.Claimed keyId
  let both := minting 1 7 8 (minting 0 3 4 nothing)
  let s := launched 1 7 8 (launched 0 3 4 both)
  have hfirst : RunWhere (Step .web 1) ok nothing (minting 0 3 4 nothing) := by
    refine minting_run rfl rfl ?_
    rintro s e (rfl | rfl)
    · exact nofun
    · exact nofun
  have hboth : RunWhere (Step .web 1) ok (minting 0 3 4 nothing) both := by
    refine minting_run rfl rfl ?_
    rintro s e (rfl | rfl)
    · exact nofun
    · exact nofun
  have hlaunched : RunWhere (Step .web 1) ok both (launched 0 3 4 both) :=
    launched_run rfl nofun fun _ => nofun
  have hboots : RunWhere (Step .web 1) ok (launched 0 3 4 both) s :=
    launched_run rfl nofun fun _ => nofun
  have hrow : s.directory.identity =
      some ((fresh 7 8).body.updated ((fresh 3 4).body.inserted 2)) := rfl
  obtain ⟨s', hrun, -, hcalls, k, hreply⟩ :=
    @claim_answers plain .web 1 ok s _ (fun _ => nofun) hrow fun _ => rfl
  have hall := (((hfirst.trans hboth).trans hlaunched).trans hboots).trans hrun
  have hnone : ∀ id, s'.calls id = none := by
    intro id
    rw [hcalls]
    by_cases hone : id = 1
    · subst hone
      exact set_self
    · by_cases hzero : id = 0
      · subst hzero
        rfl
      · exact (launched_of_ne hone).trans ((launched_of_ne hzero).trans
          ((minting_of_ne hone).trans (minting_of_ne hzero)))
  have hsound := (h .web 1 nothing s' nothing_unpublished hall hnone 0 _ hreply).1
  rw [fresh, fresh, mintOnto_body, mintOnto_body] at hsound
  change decide (((7, 8) : ℕ × ℕ) = (3, 8)) = true at hsound
  exact absurd hsound (by decide)

end Yappy.DeviceKeys
