import Yappy.DeviceKeyAgreement

/-!
# Publication catches up

A boot whose requests all succeed leaves the directory with enough prekeys and this build's formats,
unless it stops early: the pool is full enough and the record is marked with these formats, which a
publish that failed has left marked all the same.
-/
namespace Yappy.DeviceKeys

open Permissions (Uuid)

variable {K : Curves}

/-- The directory advertises exactly these formats for the device. -/
def Directory.Advertises (dir : Directory K) (versions : List ℕ) : Prop :=
  ∃ row, dir.identity = some row ∧ row.formats = some (join versions)

/-- No call stores the record over one that it has not read, and the store is dropped only while
nothing of the device is published or on its way. -/
def Orderly (platform : Platform) (s : State K) (e : Event K) : Prop :=
  Unraced platform s e ∧
    (e = .clear → s.directory.identity = none ∧ ∀ id boot body, s.calls id ≠ some (.publishing boot body))

def Event.OwnOf (id : CallId) : Event K → Prop
  | .read other | .fill other | .enough other | .count other | .reread other | .mint other
  | .topUp other | .publish other => other = id
  | _ => False

def OwnRun (platform : Platform) (deviceId : Uuid) (id : CallId) : State K → State K → Prop :=
  RunWhere (Step platform deviceId) fun _ e => e.OwnOf id

/-- One boot runs by itself to its end, with every request answered. -/
def BootsAlone (platform : Platform) (deviceId : Uuid) (id : CallId) (boot : Boot) (s s' : State K) : Prop :=
  s.calls id = none ∧ OwnRun platform deviceId id (s.set id (some (.reading boot))) s' ∧ s'.calls id = none

section Pool
variable {table : KeyedTable (PreKeyRow.keyId (K := K))} {keys : List (PreKey K)}

lemma insertPreKeys_rows (hnew : ∀ k ∈ keys, table.find k.id = none)
    (hnodup : (keys.map PreKey.id).Nodup) :
    (insertPreKeys table keys).rows = (keys.map fun k => ⟨k.id, k.key, false⟩).reverse ++ table.rows := by
  induction keys generalizing table with
  | nil => rfl
  | cons k keys ih =>
    rw [List.map_cons, List.nodup_cons] at hnodup
    have hrest : ∀ k' ∈ keys, (table.insertIgnore ⟨k.id, k.key, false⟩).find k'.id = none := by
      intro k' hk'
      have hne : k.id ≠ k'.id := fun he => hnodup.1 (he ▸ List.mem_map_of_mem hk')
      rw [KeyedTable.find_insertIgnore, if_neg hne]
      exact hnew k' (List.mem_cons_of_mem _ hk')
    have hrows := ih hrest hnodup.2
    rw [KeyedTable.insertIgnore_rows (hnew k List.mem_cons_self)] at hrows
    rw [List.map_cons, List.reverse_cons, List.append_assoc]
    exact hrows

lemma available_published {dir : Directory K} {userId : Uuid} {body : PublishBody K}
    (hnew : ∀ k ∈ body.oneTimePreKeys, dir.preKeys.find k.id = none)
    (hnodup : (body.oneTimePreKeys.map PreKey.id).Nodup) :
    (dir.published userId body).availablePreKeys = body.oneTimePreKeys.length + dir.availablePreKeys := by
  have hall : ∀ keys : List (PreKey K),
      (keys.map fun k => (⟨k.id, k.key, false⟩ : PreKeyRow K)).reverse.filter (fun r => !r.claimed) =
        (keys.map fun k => ⟨k.id, k.key, false⟩).reverse := by
    intro keys
    refine List.filter_eq_self.mpr fun r hr => ?_
    obtain ⟨k, -, rfl⟩ := List.mem_map.mp (List.mem_reverse.mp hr)
    rfl
  rw [Directory.availablePreKeys, Directory.published, insertPreKeys_rows hnew hnodup, List.filter_append,
    hall, List.length_append, List.length_reverse, List.length_map]
  rfl

end Pool

structure Numbering (deviceId : Uuid) (s : State K) : Prop where
  formed : s.Formed deviceId
  empty : s.directory.identity = none → ∀ keyId, s.directory.preKeys.find keyId = none
  published : ∀ keyId, s.directory.preKeys.find keyId ≠ none →
    ∃ r, s.stored = some r ∧ r.deviceId = deviceId ∧ keyId ≤ r.lastPreKeyId
  publishing : ∀ id boot body, s.calls id = some (.publishing boot body) → body.deviceId = deviceId →
    ∃ r, s.stored = some r ∧ r.deviceId = deviceId ∧ ∀ k ∈ body.oneTimePreKeys, k.id ≤ r.lastPreKeyId

section Numbering
variable {platform : Platform} {deviceId : Uuid} {s s' : State K} {e : Event K} {id : CallId}
  {call : Call K} {r r' : StoredIdentity K} {boot : Boot} {secrets : List K.Secret}

lemma Numbering.set (h : Numbering deviceId s) (hf : call.Formed deviceId)
    (hb : ∀ boot body, call ≠ .publishing boot body) : Numbering deviceId (s.set id (some call)) :=
  { h with
    formed := h.formed.set hf
    publishing := by
      intro other boot body hother
      rcases set_inv hother with rfl | hother
      · exact absurd rfl (hb boot body)
      · exact h.publishing other boot body hother }

lemma Numbering.setPublishing {body : PublishBody K} (h : Numbering deviceId s)
    (hb : body.deviceId = deviceId → ∃ r, s.stored = some r ∧ r.deviceId = deviceId ∧
      ∀ k ∈ body.oneTimePreKeys, k.id ≤ r.lastPreKeyId) :
    Numbering deviceId (s.set id (some (.publishing boot body))) :=
  { h with
    formed := h.formed.set trivial
    publishing := by
      intro other boot' body' hother
      rcases set_inv hother with he | hother
      · cases he
        exact hb
      · exact h.publishing other boot' body' hother }

lemma Numbering.clear (h : Numbering deviceId s) : Numbering deviceId (s.set id none) :=
  { h with
    formed := h.formed.clear
    publishing := fun other boot body hother => h.publishing other boot body (clear_inv hother) }

lemma Numbering.finish (h : Numbering deviceId s) : Numbering deviceId (s.finish id call) :=
  { h.clear with }

lemma Numbering.store (h : Numbering deviceId s)
    (hr : ∀ r, s.stored = some r → r.deviceId = deviceId →
      r'.deviceId = deviceId ∧ r.lastPreKeyId ≤ r'.lastPreKeyId) : Numbering deviceId (s.store (some r')) := by
  refine { h with published := ?_, publishing := ?_ }
  · intro keyId hk
    obtain ⟨r, hstored, hd, hle⟩ := h.published keyId hk
    obtain ⟨hd', hlast⟩ := hr r hstored hd
    exact ⟨r', rfl, hd', hle.trans hlast⟩
  · intro other boot body hother hd
    obtain ⟨r, hstored, hd, hle⟩ := h.publishing other boot body hother hd
    obtain ⟨hd', hlast⟩ := hr r hstored hd
    exact ⟨r', rfl, hd', fun k hk => (hle k hk).trans hlast⟩

lemma mintOnto_ids {versions : List ℕ} : ∀ k ∈ (mintOnto r secrets versions).body.oneTimePreKeys,
    r.lastPreKeyId < k.id ∧ k.id ≤ (mintOnto r secrets versions).identity.lastPreKeyId := by
  intro k hk
  have hmem : k.id ∈ (mintPreKeys r secrets).2.map PreKey.id := List.mem_map_of_mem hk
  rw [mintPreKeys_ids, List.mem_range'_1] at hmem
  rw [mintOnto_lastPreKeyId]
  omega

lemma Numbering.directory (h : Numbering deviceId s) {dir : Directory K}
    (hidentity : dir.identity = none → s.directory.identity = none)
    (hfind : ∀ keyId, dir.preKeys.find keyId ≠ none → s.directory.preKeys.find keyId ≠ none) :
    Numbering deviceId { s with directory := dir } :=
  { h with
    empty := fun hnone keyId => by
      by_contra hk
      exact hfind keyId hk (h.empty (hidentity hnone) keyId)
    published := fun keyId hk => h.published keyId (hfind keyId hk) }

lemma claimStep_find {dir dir' : Directory K} {claimId : ClaimId} {keyId : ℕ}
    (h : ClaimStep dir claimId dir') (hk : dir'.preKeys.find keyId ≠ none) : dir.preKeys.find keyId ≠ none := by
  cases h with
  | answer =>
    rw [Directory.find_answer] at hk
    exact fun hnone => hk (by rw [hnone]; rfl)
  | _ => exact hk

lemma claimStep_identity {dir dir' : Directory K} {claimId : ClaimId} (h : ClaimStep dir claimId dir') :
    dir'.identity = dir.identity := by
  cases h <;> rfl

lemma Numbering.publishedBody {body : PublishBody K} (h : Numbering deviceId s) (userId : Uuid)
    (hbody : ∃ r, s.stored = some r ∧ r.deviceId = deviceId ∧ ∀ k ∈ body.oneTimePreKeys, k.id ≤ r.lastPreKeyId) :
    Numbering deviceId { s with directory := s.directory.published userId body } :=
  { h with
    empty := nofun
    published := by
      intro keyId hk
      obtain ⟨pre, hpre⟩ := Option.ne_none_iff_exists'.mp hk
      rcases find_insertPreKeys_inv hpre with hold | ⟨-, k, hmem, rfl⟩
      · exact h.published keyId (by simp [hold])
      · obtain ⟨r, hr, hd, hle⟩ := hbody
        have hid := KeyedTable.find_key hpre
        dsimp only at hid
        exact ⟨r, hr, hd, hid ▸ hle k hmem⟩ }

lemma Numbering.setRead {a b : K.Secret} {read : Option (StoredIdentity K)} (h : Numbering deviceId s)
    (hcount : secrets.length = pool) :
    Numbering deviceId (s.set id (some (boot.afterRead deviceId a b secrets read))) :=
  h.set (afterRead_formed read hcount) fun _ _ => afterRead_ne_publishing read

lemma Step.numbering (hstep : Step platform deviceId s e s') (h : Numbering deviceId s)
    (horderly : Orderly platform s e) : Numbering deviceId s' := by
  have hsame : ∀ {r' : StoredIdentity K}, ∀ r, s.stored = some r → r'.deviceId = r.deviceId →
      r'.lastPreKeyId = r.lastPreKeyId → Numbering deviceId (s.store (some r')) := by
    intro r' r hr hd hlast
    refine h.store fun r₀ hr₀ hd₀ => ?_
    cases hr.symm.trans hr₀
    exact ⟨hd.trans hd₀, hlast.ge⟩
  cases hstep with
  | boot => exact h.set trivial nofun
  | read _ hcount => exact h.setRead hcount
  | misread _ _ hcount => exact h.setRead hcount
  | @fill id boot read hid =>
    have hd : Call.Formed deviceId (.filling boot read) := h.formed _ _ hid
    refine Numbering.set (s := s.store (platform.fill read s.stored boot.userId)) ?_ hd nofun
    cases platform with
    | web => exact hsame read (horderly.1 _ _ hid rfl) rfl rfl
    | android =>
      cases hr : s.stored with
      | none =>
        have hnone : s.store none = s := by rw [← hr]; rfl
        exact hnone.symm ▸ h
      | some r => exact hsame r hr rfl rfl
  | enough => exact h.clear
  | count => exact h.set ⟨_, rfl⟩ nofun
  | countAndroid => exact h.set trivial nofun
  | reread => exact h.set ⟨_, rfl⟩ nofun
  | @mint id boot read minted hid =>
    obtain ⟨hother, a, b, secrets, -, rfl⟩ := h.formed _ _ hid
    have hstored : s.stored = read := horderly.1 _ _ _ hid
    have hmint : Numbering deviceId (s.store
        (some (mintOnto (mintIdentity deviceId boot.userId a b) secrets boot.formats).identity)) :=
      h.store fun r hr hd => absurd hd (hother r (hstored.symm.trans hr))
    exact hmint.setPublishing fun _ => ⟨_, rfl, mintOnto_deviceId, fun k hk => (mintOnto_ids k hk).2⟩
  | @topUp id boot read minted hid =>
    obtain ⟨secrets, rfl⟩ := h.formed _ _ hid
    have hr : s.stored = some read := horderly.1 _ _ _ hid
    rw [hr, topUp_unraced]
    have hstore : Numbering deviceId (s.store (some (mintOnto read secrets boot.formats).identity)) := by
      refine h.store fun r hr' hd => ?_
      cases hr.symm.trans hr'
      rw [mintOnto_lastPreKeyId]
      exact ⟨mintOnto_deviceId.trans hd, Nat.le_add_right ..⟩
    refine hstore.setPublishing fun hd => ⟨_, rfl, ?_, fun k hk => (mintOnto_ids k hk).2⟩
    rw [mintOnto_body] at hd
    exact mintOnto_deviceId.trans hd
  | @publish id boot body dir hid hpublish =>
    obtain ⟨hd, rfl⟩ := Directory.publish_eq_ok.mp hpublish
    exact (h.publishedBody boot.userId (h.publishing _ _ _ hid hd)).clear
  | consume => exact h.set trivial nofun
  | lookUp => exact h.set trivial nofun
  | missing => exact h.finish
  | @forget id keyId read hid =>
    have hr : s.stored = some read := horderly.1 _ _ hid
    rw [hr, forget_unraced]
    have hforgot : Numbering deviceId (s.store (some (read.forget keyId))) := hsame read hr rfl rfl
    exact hforgot.finish
  | fail => exact h.finish
  | crash => exact h.clear
  | clear =>
    obtain ⟨hidentity, hcalls⟩ := horderly.2 rfl
    refine { h with published := ?_, publishing := ?_ }
    · intro keyId hk
      exact absurd (h.empty hidentity keyId) hk
    · intro other boot body hcall
      exact absurd hcall (hcalls other boot body)
  | claim hclaim =>
    exact h.directory (fun hnone => (claimStep_identity hclaim).symm.trans hnone) fun keyId =>
      claimStep_find hclaim

lemma State.Unpublished.numbering (h : s.Unpublished deviceId) : Numbering deviceId s where
  formed id call hid := by cases (h.calls id).symm.trans hid
  empty _ := h.preKeys
  published keyId hk := absurd (h.preKeys keyId) hk
  publishing id boot body hid := by cases (h.calls id).symm.trans hid

end Numbering

def Publishes (platform : Platform) (boot : Boot) (s : State K) (r : StoredIdentity K) : Prop :=
  s.directory.availablePreKeys < lowWater ∨ platform.stale r boot.formats = true

/-- What a boot that runs by itself on the record `r` has done when it has come so far. -/
def Reached (platform : Platform) (boot : Boot) (s : State K) (r : StoredIdentity K) (t : State K) :
    Option (Call K) → Prop
  | some (.reading b) => b = boot ∧ t.stored = some r ∧ t.directory = s.directory
  | some (.filling b read) => b = boot ∧ read = r ∧ t.stored = some r ∧ t.directory = s.directory
  | some (.counting b read) => b = boot ∧ read = { r with userId := boot.userId } ∧
    t.stored = some { r with userId := boot.userId } ∧ t.directory = s.directory
  | some (.rereading b available) => b = boot ∧ available = s.directory.availablePreKeys ∧
    Publishes platform boot s r ∧ t.stored = some { r with userId := boot.userId } ∧
    t.directory = s.directory
  | some (.toppingUp b _ minted) => b = boot ∧ Publishes platform boot s r ∧
    (∃ secrets, secrets.length = shortfall s.directory.availablePreKeys ∧
      minted = mintOnto { r with userId := boot.userId } secrets boot.formats) ∧ t.directory = s.directory
  | some (.publishing b body) => b = boot ∧ Publishes platform boot s r ∧
    (∃ secrets, secrets.length = shortfall s.directory.availablePreKeys ∧
      body = (mintOnto { r with userId := boot.userId } secrets boot.formats).body) ∧
    t.directory = s.directory
  | none => (¬ Publishes platform boot s r ∧ t.directory = s.directory) ∨
    (Publishes platform boot s r ∧ ∃ secrets, secrets.length = shortfall s.directory.availablePreKeys ∧
      t.directory = s.directory.published boot.userId
        (mintOnto { r with userId := boot.userId } secrets boot.formats).body)
  | _ => False

section Boot
variable {platform : Platform} {deviceId : Uuid} {s s' t t' : State K} {e : Event K} {id : CallId}
  {r : StoredIdentity K} {boot : Boot}

lemma Step.reached (hd : r.deviceId = deviceId) (hstep : Step platform deviceId t e t') (hown : e.OwnOf id)
    (h : Reached platform boot s r t (t.calls id)) : Reached platform boot s r t' (t'.calls id) := by
  cases hstep with
  | @read id boot a b secrets hid hcount =>
    cases hown
    rw [hid] at h
    obtain ⟨rfl, hr, hdir⟩ := h
    rw [set_self, hr]
    simp only [Boot.afterRead, if_pos hd]
    split_ifs with hu
    · have hsame : r = { r with userId := boot.userId } := by rw [← hu]
      exact ⟨rfl, hsame, hr.trans (congrArg some hsame), hdir⟩
    · exact ⟨rfl, rfl, hr, hdir⟩
  | fill hid =>
    cases hown
    rw [hid] at h
    obtain ⟨rfl, rfl, hr, hdir⟩ := h
    rw [set_self]
    refine ⟨rfl, rfl, ?_, hdir⟩
    rw [hr]
    cases platform with
    | web => rfl
    | android => rfl
  | enough hid hpool hstale =>
    cases hown
    rw [hid] at h
    obtain ⟨rfl, rfl, hr, hdir⟩ := h
    rw [set_self]
    refine Or.inl ⟨?_, hdir⟩
    rw [hdir] at hpool
    rintro (hlow | hpub)
    · omega
    · exact Bool.false_ne_true (hstale.symm.trans hpub)
  | count hweb hid hlow hcount =>
    cases hown
    rw [hid] at h
    obtain ⟨rfl, rfl, hr, hdir⟩ := h
    rw [hdir] at hlow hcount
    rw [set_self]
    exact ⟨rfl, hlow, ⟨_, hcount, rfl⟩, hdir⟩
  | countAndroid handroid hid hlow =>
    cases hown
    rw [hid] at h
    obtain ⟨rfl, rfl, hr, hdir⟩ := h
    rw [hdir] at hlow
    rw [set_self]
    exact ⟨rfl, congrArg Directory.availablePreKeys hdir, hlow, hr, hdir⟩
  | reread hid hr' hcount =>
    cases hown
    rw [hid] at h
    obtain ⟨rfl, rfl, hpub, hr, hdir⟩ := h
    cases hr.symm.trans hr'
    rw [set_self]
    exact ⟨rfl, hpub, ⟨_, hcount, rfl⟩, hdir⟩
  | mint hid =>
    cases hown
    rw [hid] at h
    cases h
  | topUp hid =>
    cases hown
    rw [hid] at h
    obtain ⟨rfl, hpub, ⟨secrets, hcount, rfl⟩, hdir⟩ := h
    rw [set_self]
    exact ⟨rfl, hpub, ⟨secrets, hcount, rfl⟩, hdir⟩
  | @publish id boot body dir hid hpublish =>
    cases hown
    rw [hid] at h
    obtain ⟨rfl, hpub, ⟨secrets, hcount, rfl⟩, hdir⟩ := h
    obtain ⟨-, rfl⟩ := Directory.publish_eq_ok.mp hpublish
    rw [set_self]
    exact Or.inr ⟨hpub, secrets, hcount, congrArg (Directory.published boot.userId _) hdir⟩
  | _ => cases hown

lemma BootsAlone.ends (hd : r.deviceId = deviceId) (hr : s.stored = some r)
    (h : BootsAlone platform deviceId id boot s s') : Reached platform boot s r s' none := by
  have hstart : Reached platform boot s r (s.set id (some (.reading boot)))
      ((s.set id (some (.reading boot))).calls id) := by
    rw [set_self]
    exact ⟨rfl, hr, rfl⟩
  have hend : Reached platform boot s r s' (s'.calls id) :=
    @RunWhere.invariant _ _ _ _ (fun t => Reached platform boot s r t (t.calls id)) _ _ h.2.1 hstart
      fun _ _ _ hs hown hstep => hstep.reached hd hown hs
  rw [h.2.2] at hend
  exact hend

lemma OwnRun.step (h : OwnRun platform deviceId id s t) (hstep : Step platform deviceId t e t')
    (hown : e.OwnOf id) : OwnRun platform deviceId id s t' := RunWhere.tail h hown hstep

lemma boot_counts (hd : r.deviceId = deviceId) (hr : s.stored = some r) :
    ∃ t, OwnRun platform deviceId id (s.set id (some (.reading boot))) t ∧
      t.calls id = some (.counting boot { r with userId := boot.userId }) ∧
      t.stored = some { r with userId := boot.userId } ∧ t.directory = s.directory := by
  have hread : Step platform deviceId (s.set id (some (.reading boot))) (.read id)
      ((s.set id (some (.reading boot))).set id (some (boot.afterRead deviceId r.identityPrivate
        r.identityPrivate (List.replicate pool r.identityPrivate) s.stored))) :=
    .read set_self List.length_replicate
  rw [hr] at hread
  simp only [Boot.afterRead, if_pos hd] at hread
  split_ifs at hread with hu
  · have hsame : r = { r with userId := boot.userId } := by rw [← hu]
    refine ⟨_, OwnRun.step (.refl _) hread rfl, ?_, hr.trans (congrArg some hsame), rfl⟩
    rw [set_self, ← hsame]
  · have hfill := @Step.fill K platform deviceId _ id boot r
      (@set_self K (s.set id (some (.reading boot))) id (some (.filling boot r)))
    refine ⟨_, (OwnRun.step (.refl _) hread rfl).step hfill rfl, set_self, ?_, rfl⟩
    change platform.fill r s.stored boot.userId = _
    rw [hr]
    cases platform with
    | web => rfl
    | android => rfl

lemma boot_tops_up (hid : t.calls id = some (.counting boot r)) (hr : t.stored = some r)
    (hlow : Publishes platform boot t r) :
    ∃ t' secrets, OwnRun platform deviceId id t t' ∧
      t'.calls id = some (.toppingUp boot r (mintOnto r secrets boot.formats)) := by
  let secrets := List.replicate (shortfall t.directory.availablePreKeys) r.identityPrivate
  cases hp : platform with
  | web =>
    subst hp
    have hcount : Step .web deviceId t (.count id)
        (t.set id (some (.toppingUp boot r (mintOnto r secrets boot.formats)))) :=
      .count rfl hid hlow List.length_replicate
    exact ⟨_, secrets, OwnRun.step (.refl t) hcount rfl, set_self⟩
  | android =>
    subst hp
    have hcount : Step .android deviceId t (.count id)
        (t.set id (some (.rereading boot t.directory.availablePreKeys))) := .countAndroid rfl hid hlow
    have hreread : Step .android deviceId (t.set id (some (.rereading boot t.directory.availablePreKeys)))
        (.reread id) ((t.set id (some (.rereading boot t.directory.availablePreKeys))).set id
          (some (.toppingUp boot r (mintOnto r secrets boot.formats)))) :=
      .reread set_self hr List.length_replicate
    exact ⟨_, secrets, (OwnRun.step (.refl t) hcount rfl).step hreread rfl, set_self⟩

lemma boot_completes (hid : s.calls id = none) (hd : r.deviceId = deviceId) (hr : s.stored = some r) :
    ∃ s', BootsAlone platform deviceId id boot s s' := by
  obtain ⟨t, hrun, hcounting, hstored, hdir⟩ := @boot_counts K platform deviceId s id r boot hd hr
  by_cases hlow : Publishes platform boot t { r with userId := boot.userId }
  · obtain ⟨t', secrets, hrun', htopping⟩ :=
      @boot_tops_up K platform deviceId t id _ boot hcounting hstored hlow
    have hbody : (mintOnto { r with userId := boot.userId } secrets boot.formats).body.deviceId = deviceId := by
      rw [mintOnto_body]
      exact hd
    have hstore : OwnRun platform deviceId id _ _ := OwnRun.step (hrun.trans hrun') (.topUp htopping) rfl
    have hpublish := hstore.step (.publish set_self (Directory.publish_eq_ok.mpr ⟨hbody, rfl⟩)) rfl
    exact ⟨_, hid, hpublish, set_self⟩
  · have hpool : lowWater ≤ t.directory.availablePreKeys := not_lt.mp fun h => hlow (Or.inl h)
    have hstale : platform.stale r boot.formats = false :=
      Bool.eq_false_of_not_eq_true fun h => hlow (Or.inr h)
    exact ⟨_, hid, hrun.step (.enough hcounting hpool hstale) rfl, set_self⟩

lemma advertises_published {dir : Directory K} {userId : Uuid} {versions : List ℕ} {secrets : List K.Secret} :
    (dir.published userId (mintOnto r secrets versions).body).Advertises versions := by
  refine ⟨_, rfl, ?_⟩
  rw [mintOnto_body]
  cases dir.identity with
  | none => rfl
  | some row => rfl

lemma Numbering.filled (h : Numbering deviceId s) (hr : s.stored = some r) (userId : Uuid)
    (versions : List ℕ) {secrets : List K.Secret}
    (hcount : secrets.length = shortfall s.directory.availablePreKeys) :
    lowWater ≤ (s.directory.published userId
      (mintOnto { r with userId := userId } secrets versions).body).availablePreKeys := by
  have hids : (mintOnto { r with userId := userId } secrets versions).body.oneTimePreKeys.map PreKey.id =
      List.range' (r.lastPreKeyId + 1) secrets.length := mintPreKeys_ids
  have hnew : ∀ k ∈ (mintOnto { r with userId := userId } secrets versions).body.oneTimePreKeys,
      s.directory.preKeys.find k.id = none := by
    intro k hk
    by_contra hold
    obtain ⟨r', hr', -, hle⟩ := h.published k.id hold
    cases hr.symm.trans hr'
    have hlt : r.lastPreKeyId < k.id := (mintOnto_ids k hk).1
    omega
  have hlength : (mintOnto { r with userId := userId } secrets versions).body.oneTimePreKeys.length =
      secrets.length := by
    rw [← List.length_map PreKey.id, hids, List.length_range']
  rw [available_published hnew (hids ▸ List.nodup_range'), hlength, hcount]
  unfold shortfall lowWater pool
  split_ifs
  · omega
  · omega

/-- One boot whose requests all succeed comes to its end, and has caught up if and only if it is not
one that stops early on a record marked with formats that the directory does not advertise. -/
theorem catches_up_iff {s₀ : State K} (h₀ : s₀.Unpublished deviceId)
    (h : RunWhere (Step platform deviceId) (Orderly platform) s₀ s) (hr : s.stored = some r)
    (hd : r.deviceId = deviceId) (hid : s.calls id = none) :
    (∃ s', BootsAlone platform deviceId id boot s s') ∧
      ∀ s', BootsAlone platform deviceId id boot s s' →
        ((s'.directory.Advertises boot.formats ∧ lowWater ≤ s'.directory.availablePreKeys) ↔
          (lowWater ≤ s.directory.availablePreKeys → platform.stale r boot.formats = false →
            s.directory.Advertises boot.formats)) := by
  refine ⟨boot_completes hid hd hr, fun s' hboot => ?_⟩
  have hnumbering : Numbering deviceId s :=
    h.invariant h₀.numbering fun _ _ _ hs horderly hstep => hstep.numbering hs horderly
  rcases hboot.ends hd hr with ⟨hstops, hdir⟩ | ⟨hpublishes, secrets, hcount, hdir⟩
  · have hpool : lowWater ≤ s.directory.availablePreKeys := by
      by_contra hlow
      exact hstops (Or.inl (not_le.mp hlow))
    have hstale : platform.stale r boot.formats = false := by
      by_contra hstale
      exact hstops (Or.inr (Bool.eq_true_of_not_eq_false hstale))
    rw [hdir]
    exact ⟨fun hdone _ _ => hdone.1, fun hcond => ⟨hcond hpool hstale, hpool⟩⟩
  · have hdone : s'.directory.Advertises boot.formats ∧ lowWater ≤ s'.directory.availablePreKeys := by
      rw [hdir]
      exact ⟨advertises_published, hnumbering.filled hr boot.userId boot.formats hcount⟩
    refine iff_of_true hdone fun hpool hstale => ?_
    rcases hpublishes with hlow | hpub
    · omega
    · exact absurd (hstale.symm.trans hpub) Bool.false_ne_true

end Boot

lemma stale_mintOnto (platform : Platform) (r : StoredIdentity K) (secrets : List K.Secret)
    (versions : List ℕ) : platform.stale (mintOnto r secrets versions).identity versions = false := by
  cases platform with
  | web => exact decide_eq_false fun h => h rfl
  | android => exact decide_eq_false fun h => h rfl

namespace Sample

def published : State plain := launched 0 3 4 (minting 0 3 4 nothing)

lemma published_run : RunWhere (Step .web 1) (Orderly .web) nothing published := by
  have hminting : RunWhere (Step .web 1) (Orderly .web) nothing (minting 0 3 4 nothing) := by
    refine minting_run rfl rfl ?_
    rintro s e (rfl | rfl)
    · exact ⟨trivial, nofun⟩
    · exact ⟨trivial, nofun⟩
  have hmint : Orderly .web (minting 0 3 4 nothing) (.mint 0) := by
    refine ⟨fun boot read minted hid => ?_, nofun⟩
    cases set_self.symm.trans hid
    rfl
  exact hminting.trans (launched_run set_self hmint fun s => ⟨trivial, nofun⟩)

lemma fresh_deviceId (a b : ℕ) : (fresh a b).identity.deviceId = 1 :=
  mintOnto_deviceId

lemma fresh_userId (a b : ℕ) : (fresh a b).identity.userId = 2 :=
  mintOnto_userId

lemma published_pool : lowWater ≤ published.directory.availablePreKeys := by
  have hids : (fresh 3 4).body.oneTimePreKeys.map PreKey.id = List.range' 1 60 := mintPreKeys_ids
  have hlength : (fresh 3 4).body.oneTimePreKeys.length = 60 := by
    rw [← List.length_map PreKey.id, hids, List.length_range']
  have havailable : published.directory.availablePreKeys = 60 + 0 := by
    rw [← hlength]
    exact available_published (fun k _ => rfl) (hids ▸ List.nodup_range')
  rw [havailable]
  unfold lowWater
  omega

def update : Boot := ⟨2, [2, 3]⟩

def marked : Minted plain := mintOnto (fresh 3 4).identity [] [2, 3]

def unpublished : State plain :=
  ((((published.set 1 (some (.reading update))).set 1 (some (.counting update (fresh 3 4).identity))).set 1
    (some (.toppingUp update (fresh 3 4).identity marked))).store (some marked.identity)).set 1
      (some (.publishing update marked.body)) |>.finish 1 (.publishing update marked.body)

lemma unpublished_run : RunWhere (Step .web 1) (Orderly .web) published unpublished := by
  let reading := published.set 1 (some (.reading update))
  let counting := reading.set 1 (some (.counting update (fresh 3 4).identity))
  let toppingUp := counting.set 1 (some (.toppingUp update (fresh 3 4).identity marked))
  let publishing := (toppingUp.store (some marked.identity)).set 1 (some (.publishing update marked.body))
  have hboot : Step .web 1 published (.boot 1 update) reading := .boot rfl
  have hread : Step .web 1 reading (.read 1) counting := by
    have hstep := @Step.read plain .web 1 reading 1 update (0 : ℕ) (0 : ℕ) (List.replicate 60 (0 : ℕ))
      set_self rfl
    have hstored : reading.stored = some (fresh 3 4).identity := rfl
    simp only [hstored, Boot.afterRead, if_pos (fresh_deviceId 3 4)] at hstep
    rwa [if_pos (show (fresh 3 4).identity.userId = update.userId from fresh_userId 3 4)] at hstep
  have hstale : Platform.web.stale (fresh 3 4).identity update.formats = true :=
    decide_eq_true (show join [2] ≠ join [2, 3] by decide)
  have hcount : Step .web 1 counting (.count 1) toppingUp := by
    refine @Step.count plain .web 1 counting 1 update _ [] rfl set_self (Or.inr hstale) ?_
    exact (if_pos published_pool).symm
  have hstore : Step .web 1 toppingUp (.topUp 1) publishing := .topUp set_self
  have hfail : Step .web 1 publishing (.fail 1) unpublished := .fail set_self
  have horderly : Orderly .web toppingUp (.topUp 1) := by
    refine ⟨fun boot read minted hid => ?_, nofun⟩
    cases set_self.symm.trans hid
    rfl
  have hcounting : RunWhere (Step .web 1) (Orderly .web) published counting :=
    ((RunWhere.refl published).tail (i := .boot 1 update) ⟨trivial, nofun⟩ hboot).tail
      (i := .read 1) ⟨trivial, nofun⟩ hread
  have hpublishing : RunWhere (Step .web 1) (Orderly .web) published publishing :=
    RunWhere.tail (hcounting.tail (i := Event.count 1) ⟨trivial, nofun⟩ hcount) horderly hstore
  exact hpublishing.tail (i := .fail 1) ⟨trivial, nofun⟩ hfail

lemma marked_deviceId : marked.identity.deviceId = 1 := mintOnto_deviceId.trans (fresh_deviceId 3 4)

end Sample

open Sample

theorem catches_up_again : ∃ s s' : State plain, RunWhere (Step .web 1) (Orderly .web) nothing s ∧
    BootsAlone .web 1 1 boot s s' ∧ s'.directory.Advertises [2] ∧
      lowWater ≤ s'.directory.availablePreKeys := by
  obtain ⟨⟨s', hboot⟩, hiff⟩ := @catches_up_iff plain .web 1 published 1 (fresh 3 4).identity boot nothing
    nothing_unpublished published_run rfl (fresh_deviceId 3 4) rfl
  have hdone := (hiff s' hboot).mpr fun _ _ => advertises_published
  exact ⟨published, s', published_run, hboot, hdone⟩

/-- The first boot of a build with a new format marks the record, and its publish fails. -/
theorem failed_publish_stays : ¬ ∀ (platform : Platform) (deviceId : Uuid) (s₀ s s' : State plain)
    (id : CallId) (boot : Boot) (r : StoredIdentity plain), s₀.Unpublished deviceId →
    RunWhere (Step platform deviceId) (Orderly platform) s₀ s → s.stored = some r →
    r.deviceId = deviceId → BootsAlone platform deviceId id boot s s' →
    s'.directory.Advertises boot.formats ∧ lowWater ≤ s'.directory.availablePreKeys := by
  intro h
  obtain ⟨s', hboot⟩ := @boot_completes plain .web 1 unpublished 2 marked.identity update rfl
    marked_deviceId rfl
  have hdone := h .web 1 nothing unpublished s' 2 update marked.identity nothing_unpublished
    (published_run.trans unpublished_run) rfl marked_deviceId hboot
  rcases hboot.ends marked_deviceId rfl with ⟨-, hdir⟩ | ⟨hlow | hstale, -⟩
  · obtain ⟨row, hrow, hformats⟩ := hdone.1
    rw [hdir] at hrow
    have hold : row.formats = some (join [2]) := by
      cases hrow
      rfl
    cases hold.symm.trans hformats
  · exact absurd published_pool (not_le.mpr hlow)
  · cases (stale_mintOnto .web (fresh 3 4).identity [] [2, 3]).symm.trans hstale

end Yappy.DeviceKeys
