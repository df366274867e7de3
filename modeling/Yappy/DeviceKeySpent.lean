import Yappy.DeviceKeys

/-!
# A one-time prekey is used once

The directory hands each one-time prekey to one sender, in every run. On the device a prekey that
`consumePreKey` has ended for stays gone as long as no call stores the record over one that it has
not read.
-/
namespace Yappy.DeviceKeys

open Permissions (Uuid)

variable {K : Curves}

structure Directory.Exclusive (dir : Directory K) : Prop where
  locked : ∀ id row keyId, dir.claims id = some (.locked row keyId) → dir.Unclaimed keyId
  unique : ∀ a b row row' keyId, dir.claims a = some (.locked row keyId) →
    dir.claims b = some (.locked row' keyId) → a = b
  handed : ∀ keyId ∈ dir.handedOut, dir.Claimed keyId
  once : dir.handedOut.Nodup

section Directory
variable {dir dir' : Directory K} {id other : ClaimId} {keyId : ℕ} {row : IdentityRow K}
  {claim : Option (Claim K)}

lemma locked_of_set (hc : ∀ row keyId, claim ≠ some (.locked row keyId))
    (h : (dir.set id claim).claims other = some (.locked row keyId)) :
    dir.claims other = some (.locked row keyId) := by
  rcases Directory.set_claims_inv h with ⟨-, hclaim⟩ | h
  · exact absurd hclaim (hc row keyId)
  · exact h

lemma Directory.Exclusive.set (h : dir.Exclusive) (hc : ∀ row keyId, claim ≠ some (.locked row keyId)) :
    (dir.set id claim).Exclusive where
  locked other row keyId hl := h.locked other row keyId (locked_of_set hc hl)
  unique a b row row' keyId ha hb :=
    h.unique a b row row' keyId (locked_of_set hc ha) (locked_of_set hc hb)
  handed := h.handed
  once := h.once

lemma locked_of_lock {row' : IdentityRow K} {keyId' : ℕ}
    (h : (dir.set id (some (.locked row keyId))).claims other = some (.locked row' keyId')) :
    (other = id ∧ keyId' = keyId) ∨ dir.claims other = some (.locked row' keyId') := by
  rcases Directory.set_claims_inv h with ⟨he, hclaim⟩ | h
  · cases hclaim
    exact Or.inl ⟨he, rfl⟩
  · exact Or.inr h

lemma Directory.Exclusive.lock (h : dir.Exclusive) (hfree : ¬ dir.Locked keyId)
    (hk : dir.Unclaimed keyId) : (dir.set id (some (.locked row keyId))).Exclusive where
  locked other row' keyId' hl := by
    rcases locked_of_lock hl with ⟨-, rfl⟩ | hl
    · exact hk
    · exact h.locked other row' keyId' hl
  unique a b rowa rowb keyId' ha hb := by
    rcases locked_of_lock ha with ⟨rfl, rfl⟩ | hold
    · rcases locked_of_lock hb with ⟨rfl, -⟩ | hold
      · rfl
      · exact absurd ⟨b, rowb, hold⟩ hfree
    · rcases locked_of_lock hb with ⟨rfl, rfl⟩ | hold'
      · exact absurd ⟨a, rowa, hold⟩ hfree
      · exact h.unique a b rowa rowb keyId' hold hold'
  handed := h.handed
  once := h.once

lemma unclaimed_answer {bundle : Bundle K} (h : dir.Unclaimed keyId)
    (hne : ∀ k, bundle.oneTimePreKey = some k → k.id ≠ keyId) : (dir.answer id bundle).Unclaimed keyId := by
  obtain ⟨r, hr, hunclaimed⟩ := h
  have hother : bundle.oneTimePreKey.any (fun k => k.id == r.keyId) = false := by
    rw [KeyedTable.find_key hr]
    cases hk : bundle.oneTimePreKey with
    | none => rfl
    | some k => exact beq_eq_false_iff_ne.mpr (hne k hk)
  refine ⟨r, ?_, hunclaimed⟩
  rw [Directory.find_answer, hr, Option.map_some, hother]
  rfl

lemma claimed_answer {bundle : Bundle K} {k : PreKey K} {r : PreKeyRow K}
    (hk : bundle.oneTimePreKey = some k) (hr : dir.preKeys.find k.id = some r) :
    (dir.answer id bundle).Claimed k.id := by
  have hsame : bundle.oneTimePreKey.any (fun k => k.id == r.keyId) = true := by
    rw [hk, KeyedTable.find_key hr]
    exact beq_self_eq_true _
  refine ⟨r.claim, ?_, rfl⟩
  rw [Directory.find_answer, hr, Option.map_some, hsame]
  rfl

lemma handedOut_answer (bundle : Bundle K) : (dir.answer id bundle).handedOut =
    (bundle.oneTimePreKey.map PreKey.id).toList ++ dir.handedOut := by
  unfold Directory.handedOut Directory.answer
  rw [List.filterMap_cons]
  cases bundle.oneTimePreKey with
  | none => rfl
  | some k => rfl

lemma Directory.Exclusive.answer {bundle : Bundle K} (h : dir.Exclusive)
    (hreply : dir.reply id = some bundle) : (dir.answer id bundle).Exclusive := by
  have hkept : ∀ other row keyId, (dir.answer id bundle).claims other = some (.locked row keyId) →
      other ≠ id ∧ dir.claims other = some (.locked row keyId) :=
    fun other row keyId hl => Directory.answer_claims_inv hl
  rcases Directory.reply_cases hreply with ⟨row, keyId, r, hid, hr, rfl⟩ | ⟨row, hid, rfl⟩
  · refine ⟨fun other row' keyId' hl => ?_, fun a b rowa rowb keyId' ha hb => ?_, fun keyId' hk => ?_, ?_⟩
    · obtain ⟨hne, hl⟩ := hkept other row' keyId' hl
      refine unclaimed_answer (h.locked other row' keyId' hl) ?_
      rintro k hk rfl
      cases hk
      exact hne (h.unique other id row' row _ hl hid)
    · exact h.unique a b rowa rowb keyId' (hkept _ _ _ ha).2 (hkept _ _ _ hb).2
    · rw [handedOut_answer] at hk
      rcases List.mem_append.mp hk with hk | hk
      · obtain rfl := List.mem_singleton.mp hk
        exact @claimed_answer _ dir id _ ⟨keyId', r.publicKey⟩ r rfl hr
      · exact Directory.answer_claimed _ (h.handed keyId' hk)
    · rw [handedOut_answer]
      exact List.nodup_cons.mpr
        ⟨fun hk => (h.locked id row keyId hid).not_claimed (h.handed keyId hk), h.once⟩
  · refine ⟨fun other row' keyId' hl => ?_, fun a b rowa rowb keyId' ha hb => ?_, fun keyId' hk => ?_, ?_⟩
    · exact unclaimed_answer (h.locked other row' keyId' (hkept _ _ _ hl).2) nofun
    · exact h.unique a b rowa rowb keyId' (hkept _ _ _ ha).2 (hkept _ _ _ hb).2
    · exact Directory.answer_claimed _ (h.handed keyId' hk)
    · exact h.once

lemma Directory.exclusive_of_idle (hclaims : ∀ id, dir.claims id = none) (hbundles : dir.bundles = []) :
    dir.Exclusive := by
  have hnone : dir.handedOut = [] := by rw [Directory.handedOut, hbundles]; rfl
  refine ⟨fun id row keyId hid => ?_, fun a b row row' keyId ha => ?_, ?_, ?_⟩
  · cases (hclaims id).symm.trans hid
  · cases (hclaims a).symm.trans ha
  · rw [hnone]
    exact nofun
  · rw [hnone]
    exact List.nodup_nil

lemma ClaimStep.exclusive (h : ClaimStep dir id dir') (hd : dir.Exclusive) : dir'.Exclusive := by
  cases h with
  | select => exact hd.set nofun
  | scan => exact hd.set nofun
  | skip => exact hd.set nofun
  | recheck => exact hd.set nofun
  | lock _ hfree hk => exact hd.lock hfree hk
  | answer hreply => exact hd.answer hreply
  | abort => exact hd.set nofun

lemma Directory.Exclusive.published {userId : Uuid} {body : PublishBody K} (h : dir.Exclusive) :
    (dir.published userId body).Exclusive := by
  refine ⟨fun id row keyId hl => ?_, h.unique, fun keyId hk => published_claimed (h.handed keyId hk),
    h.once⟩
  obtain ⟨r, hr, hunclaimed⟩ := h.locked id row keyId hl
  exact ⟨r, find_insertPreKeys hr, hunclaimed⟩

lemma Step.exclusive {platform : Platform} {deviceId : Uuid} {s s' : State K} {e : Event K}
    (h : Step platform deviceId s e s') (hd : s.directory.Exclusive) : s'.directory.Exclusive := by
  cases h with
  | publish _ hpublish =>
    obtain ⟨-, rfl⟩ := Directory.publish_eq_ok.mp hpublish
    exact hd.published
  | claim hclaim => exact hclaim.exclusive hd
  | _ => exact hd

lemma run_exclusive {platform : Platform} {deviceId : Uuid} {ok : State K → Event K → Prop}
    {s₀ s : State K} (h₀ : s₀.directory.Exclusive) (h : RunWhere (Step platform deviceId) ok s₀ s) :
    s.directory.Exclusive := by
  induction h with
  | refl => exact h₀
  | tail _ hlast ih =>
    obtain ⟨e, -, hstep⟩ := hlast
    exact hstep.exclusive ih

end Directory

def State.lastPreKeyId (s : State K) : ℕ := s.stored.elim 0 StoredIdentity.lastPreKeyId

/-- What a run keeps in which calls store the record only over one that they have read: a spent
prekey is gone from the record, and its id is one of those that are not minted any more. -/
structure Kept (deviceId : Uuid) (s : State K) : Prop where
  formed : s.Formed deviceId
  own : ∀ r, s.stored = some r → r.deviceId = deviceId ∧ r.Numbered
  gone : ∀ keyId ∈ s.spent, keyId ≤ s.lastPreKeyId ∧ ∀ r, s.stored = some r → r.preKeys keyId = none
  pending : ∀ id call keyId, s.calls id = some call → call.keyId? = some keyId → keyId ≤ s.lastPreKeyId

section Kept
variable {platform : Platform} {deviceId : Uuid} {s s' : State K} {e : Event K} {id : CallId}
  {call : Call K} {r r' : StoredIdentity K}

lemma Kept.set (h : Kept deviceId s) (hf : call.Formed deviceId)
    (hp : ∀ keyId, call.keyId? = some keyId → keyId ≤ s.lastPreKeyId) :
    Kept deviceId (s.set id (some call)) where
  formed := h.formed.set hf
  own := h.own
  gone := h.gone
  pending other call' keyId hother hk := by
    rcases set_inv hother with rfl | hother
    · exact hp keyId hk
    · exact h.pending other call' keyId hother hk

lemma Kept.directory (h : Kept deviceId s) (dir : Directory K) :
    Kept deviceId { s with directory := dir } := ⟨h.formed, h.own, h.gone, h.pending⟩

lemma Kept.clear (h : Kept deviceId s) : Kept deviceId (s.set id none) where
  formed := h.formed.clear
  own := h.own
  gone := h.gone
  pending other call keyId hother hk := h.pending other call keyId (clear_inv hother) hk

lemma Kept.finish (h : Kept deviceId s)
    (hk : ∀ keyId, call.keyId? = some keyId →
      keyId ≤ s.lastPreKeyId ∧ ∀ r, s.stored = some r → r.preKeys keyId = none) :
    Kept deviceId (s.finish id call) where
  formed := h.formed.clear
  own := h.own
  gone keyId hmem := by
    rcases List.mem_append.mp hmem with hmem | hmem
    · exact hk keyId (Option.mem_toList.mp hmem)
    · exact h.gone keyId hmem
  pending other call keyId hother hk := h.pending other call keyId (clear_inv hother) hk

lemma Kept.store (h : Kept deviceId s) (hown : r.deviceId = deviceId ∧ r.Numbered)
    (hlast : s.lastPreKeyId ≤ r.lastPreKeyId)
    (hgone : ∀ keyId ≤ s.lastPreKeyId, (∀ r', s.stored = some r' → r'.preKeys keyId = none) →
      r.preKeys keyId = none) : Kept deviceId (s.store (some r)) where
  formed := h.formed
  own r' hr' := by
    cases hr'
    exact hown
  gone keyId hmem := by
    obtain ⟨hle, hnone⟩ := h.gone keyId hmem
    refine ⟨hle.trans hlast, fun r' hr' => ?_⟩
    cases hr'
    exact hgone keyId hle hnone
  pending other call keyId hother hk := (h.pending other call keyId hother hk).trans hlast

lemma lastPreKeyId_of_stored (hr : s.stored = some r) : s.lastPreKeyId = r.lastPreKeyId := by
  rw [State.lastPreKeyId, hr]
  rfl

lemma Kept.rewrite (h : Kept deviceId s) (hr : s.stored = some r) (hd : r'.deviceId = r.deviceId)
    (hlast : r'.lastPreKeyId = r.lastPreKeyId) (hkeys : r'.preKeys = r.preKeys) :
    Kept deviceId (s.store (some r')) := by
  obtain ⟨hown, hnumbered⟩ := h.own r hr
  refine h.store ⟨hd.trans hown, fun keyId hk => ?_⟩ ?_ fun keyId _ hnone => ?_
  · rw [hkeys] at hk
    exact (hnumbered keyId hk).trans hlast.ge
  · rw [lastPreKeyId_of_stored hr, hlast]
  · rw [hkeys]
    exact hnone r hr

lemma Kept.forget {keyId : ℕ} (h : Kept deviceId s) (hr : s.stored = some r) :
    Kept deviceId (s.store (some (r.forget keyId))) := by
  obtain ⟨hown, hnumbered⟩ := h.own r hr
  refine h.store ⟨hown, hnumbered.forgotten⟩ (lastPreKeyId_of_stored hr).le fun other _ hnone => ?_
  by_cases he : other = keyId
  · subst he
    exact forget_self
  · rw [forget_of_ne he]
    exact hnone r hr

lemma Kept.mintOnto (h : Kept deviceId s) {identity : StoredIdentity K} (secrets : List K.Secret)
    (versions : List ℕ) (hown : identity.deviceId = deviceId ∧ identity.Numbered)
    (hlast : s.lastPreKeyId = identity.lastPreKeyId)
    (hgone : ∀ keyId, (∀ r, s.stored = some r → r.preKeys keyId = none) → identity.preKeys keyId = none) :
    Kept deviceId (s.store (some (mintOnto identity secrets versions).identity)) := by
  refine h.store ⟨?_, ?_⟩ ?_ fun keyId hle hnone => ?_
  · exact mintOnto_deviceId.trans hown.1
  · exact hown.2.minted
  · rw [mintOnto_lastPreKeyId]
    omega
  · exact (mintOnto_old (hle.trans hlast.le)).trans (hgone keyId hnone)

/-- Nothing drops the store, and `consumePreKey` does not fail. -/
def Settles (s : State K) : Event K → Prop
  | .clear => False
  | .fail id => ∀ call, s.calls id = some call → call.keyId? = none
  | _ => True

lemma Step.kept (h : Step platform deviceId s e s') (hs : Kept deviceId s) (hsettles : Settles s e)
    (hunraced : Unraced platform s e) : Kept deviceId s' := by
  cases h with
  | boot => exact hs.set trivial nofun
  | read _ hcount =>
    refine hs.set (afterRead_formed _ hcount) fun keyId hk => ?_
    rw [afterRead_keyId?] at hk
    cases hk
  | misread _ _ hcount =>
    refine hs.set (afterRead_formed _ hcount) fun keyId hk => ?_
    rw [afterRead_keyId?] at hk
    cases hk
  | @fill id boot read hid =>
    have hd : Call.Formed deviceId (.filling boot read) := hs.formed _ _ hid
    refine Kept.set (s := s.store (platform.fill read s.stored boot.userId)) ?_ hd nofun
    cases platform with
    | web => exact hs.rewrite (hunraced _ _ hid rfl) rfl rfl rfl
    | android =>
      cases hr : s.stored with
      | none =>
        have hsame : s.store none = s := by rw [← hr]; rfl
        exact hsame.symm ▸ hs
      | some r => exact hs.rewrite hr rfl rfl rfl
  | enough => exact hs.clear
  | count => exact hs.set ⟨_, rfl⟩ nofun
  | countAndroid => exact hs.set trivial nofun
  | reread => exact hs.set ⟨_, rfl⟩ nofun
  | @mint id boot read minted hid =>
    -- nothing of this device is stored, so this is its first identity
    obtain ⟨hother, a, b, secrets, -, rfl⟩ := hs.formed _ _ hid
    have hstored : s.stored = read := hunraced _ _ _ hid
    have hnone : s.stored = none := by
      cases hr : s.stored with
      | none => rfl
      | some r => exact absurd (hs.own r hr).1 (hother r (hstored.symm.trans hr))
    have hlast : s.lastPreKeyId = 0 := by
      rw [State.lastPreKeyId, hnone]
      rfl
    exact Kept.set (hs.mintOnto secrets boot.formats ⟨rfl, nofun⟩ hlast fun _ _ => rfl) trivial nofun
  | @topUp id boot read minted hid =>
    obtain ⟨secrets, rfl⟩ := hs.formed _ _ hid
    have hr : s.stored = some read := hunraced _ _ _ hid
    rw [hr, topUp_unraced]
    exact Kept.set (hs.mintOnto secrets boot.formats (hs.own read hr) (lastPreKeyId_of_stored hr)
      fun keyId hnone => hnone read hr) trivial nofun
  | publish => exact (hs.directory _).clear
  | consume _ hr hkey =>
    refine hs.set trivial fun keyId hk => ?_
    cases hk
    rw [lastPreKeyId_of_stored hr]
    exact (hs.own _ hr).2 _ hkey
  | lookUp hid => exact hs.set trivial fun keyId hk => hs.pending _ _ keyId hid hk
  | missing hid hkey =>
    refine hs.finish fun keyId hk => ?_
    cases hk
    exact ⟨hs.pending _ _ _ hid rfl, hkey⟩
  | @forget id keyId read hid =>
    have hr : s.stored = some read := hunraced _ _ hid
    rw [hr, forget_unraced]
    have hforgot : Kept deviceId (s.store (some (read.forget keyId))) := hs.forget hr
    refine hforgot.finish fun keyId' hk => ?_
    cases hk
    refine ⟨hforgot.pending _ _ _ hid rfl, fun r hr' => ?_⟩
    cases hr'
    exact forget_self
  | fail hid =>
    refine hs.finish fun keyId hk => ?_
    rw [hsettles _ hid] at hk
    cases hk
  | crash => exact hs.clear
  | clear => exact hsettles.elim
  | claim => exact hs.directory _

end Kept

/-- Nothing is on its way, and the record, where there is one, is this device's. -/
structure State.Ready (deviceId : Uuid) (s : State K) : Prop where
  calls : ∀ id, s.calls id = none
  spent : s.spent = []
  own : ∀ r, s.stored = some r → r.deviceId = deviceId ∧ r.Numbered
  claims : ∀ id, s.directory.claims id = none
  bundles : s.directory.bundles = []

section Main
variable {platform : Platform} {deviceId : Uuid} {s₀ s : State K}

lemma State.Ready.kept (h : s₀.Ready deviceId) : Kept deviceId s₀ where
  formed id call hid := by cases (h.calls id).symm.trans hid
  own := h.own
  gone keyId hk := by
    rw [h.spent] at hk
    cases hk
  pending id call keyId hid := by cases (h.calls id).symm.trans hid

lemma State.Ready.exclusive (h : s₀.Ready deviceId) : s₀.directory.Exclusive :=
  Directory.exclusive_of_idle h.claims h.bundles

/-- No two senders are handed one prekey. Where no call stores the record over one that it has not
read, a prekey is gone for good once a call of `consumePreKey` for it has ended. -/
theorem used_once (h₀ : s₀.Ready deviceId) :
    (∀ s, RunWhere (Step platform deviceId) (fun _ _ => True) s₀ s → s.directory.handedOut.Nodup) ∧
      ∀ s, RunWhere (Step platform deviceId) (fun s e => Settles s e ∧ Unraced platform s e) s₀ s →
        ∀ keyId ∈ s.spent, ∀ r, s.stored = some r → r.preKeys keyId = none := by
  constructor
  · intro s h
    exact (run_exclusive h₀.exclusive h).once
  · intro s h keyId hk
    have hkept : Kept deviceId s :=
      h.invariant h₀.kept fun _ _ _ hs hok hstep => hstep.kept hs hok.1 hok.2
    exact (hkept.gone keyId hk).2

end Main

namespace Sample

/-- Curves on which a public key is its private half, and a signature names the signer and what it
is over. -/
def plain : Curves where
  Secret := ℕ
  Public := ℕ
  Signature := ℕ × ℕ
  identityOf := id
  preKeyOf := id
  sign := Prod.mk
  signText secret _ := (secret, 0)
  verify key message signature := signature = (key, message)
  computeFingerprint _ := ""

def identity : StoredIdentity plain := (@mintIdentity plain 1 2 (3 : ℕ) (4 : ℕ)).addPreKey (5 : ℕ)

def ready : State plain := ⟨some identity, ⟨none, .empty, fun _ => none, []⟩, fun _ => none, []⟩

lemma ready_ready : ready.Ready 1 where
  calls _ := rfl
  spent := rfl
  own r hr := by
    cases hr
    have hempty : (@mintIdentity plain 1 2 (3 : ℕ) (4 : ℕ)).Numbered := nofun
    exact ⟨rfl, hempty.addPreKey⟩
  claims _ := rfl
  bundles := rfl

def forgotten (s : State plain) : State plain :=
  (((s.set 0 (some (.consuming 1))).set 0 (some (.forgetting identity 1))).store
    (some (identity.forget 1))).finish 0 (.forgetting identity 1)

lemma identity_key : identity.preKeys 1 ≠ none := by
  intro h
  cases h

lemma forgotten_run {ok : State plain → Event plain → Prop} {s : State plain}
    (hid : s.calls 0 = none) (hr : s.stored = some identity) (hconsume : ok s (.consume 0 1))
    (hlookUp : ok (s.set 0 (some (.consuming 1))) (.lookUp 0))
    (hforget : ok ((s.set 0 (some (.consuming 1))).set 0 (some (.forgetting identity 1))) (.forget 0)) :
    RunWhere (Step .web 1) ok s (forgotten s) := by
  have hlooking : Step .web 1 s (.consume 0 1) (s.set 0 (some (.consuming 1))) :=
    .consume hid hr identity_key
  have hfound : Step .web 1 (s.set 0 (some (.consuming 1))) (.lookUp 0)
      ((s.set 0 (some (.consuming 1))).set 0 (some (.forgetting identity 1))) :=
    .lookUp set_self hr identity_key
  have hforgot : Step .web 1 ((s.set 0 (some (.consuming 1))).set 0 (some (.forgetting identity 1)))
      (.forget 0) (forgotten s) := .forget set_self
  exact (((RunWhere.refl s).tail hconsume hlooking).tail hlookUp hfound).tail hforget hforgot

def boot : Boot := ⟨2, [2]⟩

def toppedUp : Minted plain := mintOnto identity (List.replicate 60 (6 : ℕ)) [2]

def toppingUp : State plain :=
  ((ready.set 1 (some (.reading boot))).set 1 (some (.counting boot identity))).set 1
    (some (.toppingUp boot identity toppedUp))

def resurrected : State plain :=
  ((forgotten toppingUp).store (some toppedUp.identity)).set 1 (some (.publishing boot toppedUp.body))

end Sample

open Sample

theorem used_once_forgotten : ∃ s, RunWhere (Step .web 1)
    (fun s e => Settles s e ∧ Unraced .web s e) ready s ∧ s.spent = [1] ∧
      ∀ r, s.stored = some r → r.preKeys 1 = none := by
  have hrun : RunWhere (Step .web 1) (fun s e => Settles s e ∧ Unraced .web s e) ready
      (forgotten ready) := by
    refine forgotten_run rfl rfl ⟨trivial, trivial⟩ ⟨trivial, trivial⟩ ⟨trivial, fun read keyId h => ?_⟩
    cases h
    rfl
  exact ⟨_, hrun, rfl, (used_once ready_ready).2 _ hrun 1 (List.mem_singleton_self 1)⟩

/-- A boot that has read the record before `consumePreKey` stores it with the key after. -/
theorem top_up_resurrects : ¬ ∀ (platform : Platform) (deviceId : Uuid) (s₀ s : State plain),
    s₀.Ready deviceId → RunWhere (Step platform deviceId) Settles s₀ s →
    ∀ keyId ∈ s.spent, ∀ r, s.stored = some r → r.preKeys keyId = none := by
  intro h
  have hboot : Step .web 1 ready (.boot 1 boot) (ready.set 1 (some (.reading boot))) := .boot rfl
  have hread : Step .web 1 (ready.set 1 (some (.reading boot))) (.read 1)
      ((ready.set 1 (some (.reading boot))).set 1 (some (.counting boot identity))) :=
    @Step.read _ _ _ _ _ boot (0 : ℕ) (0 : ℕ) (List.replicate 60 (0 : ℕ)) set_self rfl
  have hcount : Step .web 1 ((ready.set 1 (some (.reading boot))).set 1 (some (.counting boot identity)))
      (.count 1) toppingUp :=
    @Step.count _ _ _ _ _ boot identity (List.replicate 60 (6 : ℕ)) rfl set_self
      (Or.inl (show 0 < 20 by decide)) rfl
  have htoppingUp : RunWhere (Step .web 1) Settles ready toppingUp :=
    (((RunWhere.refl ready).tail (i := .boot 1 boot) trivial hboot).tail (i := .read 1) trivial
      hread).tail (i := .count 1) trivial hcount
  have hforgotten : RunWhere (Step .web 1) Settles toppingUp (forgotten toppingUp) :=
    forgotten_run rfl rfl trivial trivial trivial
  have hcall : (forgotten toppingUp).calls 1 = some (.toppingUp boot identity toppedUp) := rfl
  have hresurrected : Step .web 1 (forgotten toppingUp) (.topUp 1) resurrected := .topUp hcall
  have hrun : RunWhere (Step .web 1) Settles ready resurrected :=
    RunWhere.tail (htoppingUp.trans hforgotten) (i := .topUp 1) trivial hresurrected
  have hnone := h .web 1 ready resurrected ready_ready hrun 1 (List.mem_singleton_self 1)
    toppedUp.identity rfl
  have hlast : 1 ≤ identity.lastPreKeyId := le_rfl
  exact identity_key ((mintOnto_old hlast).symm.trans hnone)

end Yappy.DeviceKeys
