import Yappy.RatchetAlignment

/-!
# The sealed envelope

`apps/webapp/src/lib/cipher.ts`: what travels beside a ratcheted message, what is signed, and who may have
written it. An envelope stands for the text that it parses from, and the secrets that the source
draws are arguments. None is a refusal, by null or by throwing.
-/
namespace Yappy.Cipher

open Ratchet

/-- Ed25519, over the texts that a message carries; none where one of them does not decode. -/
structure Signing (P : Primitives) where
  textOf : P.Text → String
  keyBytes : String → Option P.Bytes
  sign : P.Bytes → String → Option String
  verify : String → P.Bytes → String → Option Bool

/-- One recipient device, as `POST /keys/claim` returns it. -/
structure RecipientBundle extends RecipientBundleKeys where
  userId : String
  identityKey : String
  signature : String

/-- The sending device: who it is, and the key that proves it. -/
structure SenderIdentity where
  deviceId : String
  userId : String
  identityPrivate : String

structure Header (P : Primitives) where
  v : ℕ
  s : String
  u : String
  r : String
  d : String
  pn : ℤ
  n : ℤ
  k : Option PreKeyHeader
  c : P.Text
  g : String

def separator : String := "\u001f"

def messageFormats : List ℕ := [2]

variable {P : Primitives}

def fields (v : ℕ) (s u r : String) (wire : RatchetHeader) : List String :=
  ["yappy.e2e.v2", toString v, s, u, r, wire.dh, toString wire.pn, toString wire.n,
    (wire.pre.map PreKeyHeader.ek).getD "-",
    (wire.pre.map fun pre => toString pre.spkId).getD "-",
    ((wire.pre.bind PreKeyHeader.otkId).map toString).getD "-"]

def Header.wire (h : Header P) : RatchetHeader := ⟨h.d, h.pn, h.n, h.k⟩

def Header.headerBytes (h : Header P) : P.Bytes :=
  P.utf8ToBytes (separator.intercalate (fields h.v h.s h.u h.r h.wire))

variable (C : Codec P) (S : Signing P)

def Header.signedBytes (h : Header P) : P.Bytes :=
  P.utf8ToBytes (separator.intercalate (fields h.v h.s h.u h.r h.wire ++ [S.textOf h.c]))

def beginSession (bundle : RecipientBundle) (ephemeral myRatchet : P.Secret) : Option (Session P) := do
  let spk ← S.keyBytes bundle.signedPreKey.key
  let verified ← S.verify bundle.signature spk bundle.identityKey
  if verified then initiate C bundle.toRecipientBundleKeys ephemeral myRatchet else none

/-- One sealed copy, for one device, and the session that replaces this one. -/
def sealWith (session : Session P) (plaintext : String) (sender : SenderIdentity) (format : ℕ) :
    Option (Header P × Session P) :=
  if format ∈ messageFormats then do
    -- the header has to exist before the associated data can bind it
    let wire : RatchetHeader :=
      ⟨session.myRatchetPublic, session.previousSendCount, session.sendCount, session.pending⟩
    let aad := P.utf8ToBytes
      (separator.intercalate (fields format sender.deviceId sender.userId session.deviceId wire))
    let (next, _, c) ← ratchetEncrypt session plaintext aad
    let head : Header P := ⟨format, sender.deviceId, sender.userId, session.deviceId, wire.dh, wire.pn, wire.n,
      wire.pre, c, ""⟩
    let g ← S.sign (head.signedBytes S) sender.identityPrivate
    some ({ head with g }, next)
  else none

def parse (h : Header P) : Option (Header P) :=
  if h.v ∈ messageFormats ∧ h.s ≠ "" ∧ h.u ≠ "" ∧ h.r ≠ "" ∧ h.d ≠ "" ∧ S.textOf h.c ≠ "" ∧ h.g ≠ "" then
    some h
  else none

structure Opened (P : Primitives) where
  plaintext : String
  session : Session P
  consumedPreKeyId : Option ℕ

/-- The two attempts: with the session there is, or one that the preamble builds, and else with a
session rebuilt from the preamble. Each has a ratchet key to draw. -/
def openWithin (h : Header P) (session : Option (Session P)) (me : RecipientPrivates P) (rnd rnd' : P.Secret) :
    Option (Opened P) := do
  let accepted := h.k.bind fun pre => accept C pre me h.s
  let known ← session <|> accepted
  match ratchetDecrypt C known h.wire h.c h.headerBytes rnd with
  | some (next, plaintext) =>
    some ⟨plaintext, next, if session.isSome then none else h.k.bind PreKeyHeader.otkId⟩
  | none =>
    -- the sender reinstalled, or this device restored an older copy of itself
    if session.isSome then do
      let restarted ← accepted
      let (next, plaintext) ← ratchetDecrypt C restarted h.wire h.c h.headerBytes rnd'
      some ⟨plaintext, next, h.k.bind PreKeyHeader.otkId⟩
    else none

/-- The message and the session that replaces this one, or null. -/
def openSealed (envelope : Header P) (session : Option (Session P)) (me : RecipientPrivates P) (deviceId : String)
    (senderIdentityKey : Option String) (expectedAuthorId : String) (rnd rnd' : P.Secret) : Option (Opened P) := do
  let h ← parse S envelope
  let identityKey ← senderIdentityKey
  -- addressed to this device, and from the person the server says wrote it
  if h.r ≠ deviceId ∨ h.u ≠ expectedAuthorId then none
  else do
    let verified ← S.verify h.g (h.signedBytes S) identityKey
    if verified then openWithin C h session me rnd rnd' else none

section
variable {C S} {session session' : Session P} {rnd rnd' : P.Secret}

def place (session : Session P) : String × ℤ := (session.myRatchetPublic, session.sendCount)

def newPlace (rnd : P.Secret) : String × ℤ := (P.keyText (P.getPublicKey rnd), 0)

lemma initiate_place {bundle : RecipientBundleKeys} {ephemeral : P.Secret}
    (h : initiate C bundle ephemeral rnd = some session) :
    session.deviceId = bundle.deviceId ∧ place session = newPlace rnd := by
  unfold initiate at h
  cases hotk : bundle.oneTimePreKey <;> rw [hotk] at h <;>
    simp only [Option.bind_eq_bind, Option.bind_eq_some_iff] at h
  · obtain ⟨_, -, _, -, _, -, _, -, h⟩ := h
    obtain rfl := Option.some.inj h
    exact ⟨rfl, rfl⟩
  · obtain ⟨_, -, _, -, _, -, _, -, _, -, h⟩ := h
    obtain rfl := Option.some.inj h
    exact ⟨rfl, rfl⟩

lemma beginSession_place {bundle : RecipientBundle} {ephemeral : P.Secret}
    (h : beginSession C S bundle ephemeral rnd = some session) :
    session.deviceId = bundle.deviceId ∧ place session = newPlace rnd := by
  simp only [beginSession, Option.bind_eq_bind, Option.bind_eq_some_iff] at h
  obtain ⟨_, -, verified, -, h⟩ := h
  split at h
  · exact initiate_place h
  · cases h

lemma sealWith_place {plaintext : String} {sender : SenderIdentity} {format : ℕ} {envelope : Header P}
    (h : sealWith S session plaintext sender format = some (envelope, session')) :
    envelope.r = session.deviceId ∧ (envelope.d, envelope.n) = place session ∧
      session'.deviceId = session.deviceId ∧ place session' = (session.myRatchetPublic, session.sendCount + 1) := by
  unfold sealWith at h
  split at h
  · simp only [Option.bind_eq_bind, Option.bind_eq_some_iff] at h
    obtain ⟨⟨next, header, c⟩, hsealed, _, -, h⟩ := h
    obtain ⟨_, -, rfl, -, -⟩ := ratchetEncrypt_eq_some hsealed
    obtain ⟨rfl, rfl⟩ := Prod.mk.inj (Option.some.inj h)
    exact ⟨rfl, rfl, rfl, rfl⟩
  · cases h

lemma accept_new {pre : PreKeyHeader} {me : RecipientPrivates P} {deviceId : String}
    (h : accept C pre me deviceId = some session) :
    session.deviceId = deviceId ∧ session.theirRatchet = none ∧ session.skipped = ∅ := by
  unfold accept at h
  split at h
  · cases h
  · cases hid : pre.otkId <;> rw [hid] at h <;> simp only [Option.bind_eq_bind, Option.bind_eq_some_iff] at h
    · obtain ⟨_, hnone, _, -, _, -, h⟩ := h
      obtain rfl := Option.some.inj hnone
      obtain ⟨_, -, h⟩ := Option.bind_eq_some_iff.mp h
      obtain rfl := Option.some.inj h
      exact ⟨rfl, rfl, rfl⟩
    · obtain ⟨_, hsome, _, -, _, -, h⟩ := h
      obtain ⟨_, -, rfl⟩ := Option.map_eq_some_iff.mp hsome
      obtain ⟨_, -, h⟩ := Option.bind_eq_some_iff.mp h
      obtain rfl := Option.some.inj h
      exact ⟨rfl, rfl, rfl⟩

lemma skipTo_place {limit : ℤ} (h : skipTo session limit = some session') :
    session'.deviceId = session.deviceId ∧ place session' = place session := by
  unfold skipTo at h
  split at h
  · split at h
    · cases h
    · obtain rfl := Option.some.inj h
      exact ⟨rfl, rfl⟩
  · obtain rfl := Option.some.inj h
    exact ⟨rfl, rfl⟩

lemma turn_place {theirRatchet : String} (h : turn C session theirRatchet rnd = some session') :
    session'.deviceId = session.deviceId ∧ place session' = newPlace rnd := by
  simp only [turn, Option.bind_eq_bind, Option.bind_eq_some_iff] at h
  obtain ⟨_, -, _, -, _, -, h⟩ := h
  obtain rfl := Option.some.inj h
  exact ⟨rfl, rfl⟩

lemma ratchetDecrypt_place {header : RatchetHeader} {ciphertext : P.Text} {aad : P.Bytes} {plaintext : String}
    (h : ratchetDecrypt C session header ciphertext aad rnd = some (session', plaintext)) :
    session'.deviceId = session.deviceId ∧ (place session' = newPlace rnd ∨ place session' = place session ∧
      (session.skipped ≠ ∅ ∨ session.theirRatchet ≠ none)) := by
  unfold ratchetDecrypt at h
  split at h
  · next stored hstored =>
    simp only [Option.bind_eq_bind, Option.bind_eq_some_iff] at h
    obtain ⟨_, -, h⟩ := h
    obtain ⟨rfl, -⟩ := Prod.mk.inj (Option.some.inj h)
    refine ⟨rfl, .inr ⟨rfl, .inl fun hempty => ?_⟩⟩
    rw [hempty] at hstored
    cases hstored
  · simp only [Option.bind_eq_bind, Option.bind_eq_some_iff] at h
    obtain ⟨next, hnext, caughtUp, hcaught, _, -, _, -, h⟩ := h
    obtain ⟨rfl, -⟩ := Prod.mk.inj (Option.some.inj h)
    obtain ⟨hdevice, hplace⟩ := skipTo_place hcaught
    unfold follow at hnext
    split at hnext
    · simp only [Option.bind_eq_bind, Option.bind_eq_some_iff] at hnext
      obtain ⟨closed, hclosed, hturned⟩ := hnext
      obtain ⟨hdevice', hplace'⟩ := turn_place hturned
      exact ⟨hdevice.trans (hdevice'.trans (skipTo_place hclosed).1), .inl (hplace.trans hplace')⟩
    · next htheirs =>
      obtain rfl := Option.some.inj hnext
      refine ⟨hdevice, .inr ⟨hplace, .inr fun hnone => ?_⟩⟩
      rw [hnone] at htheirs
      exact htheirs nofun

lemma accept_decrypt_place {pre : PreKeyHeader} {me : RecipientPrivates P} {deviceId : String}
    {header : RatchetHeader} {ciphertext : P.Text} {aad : P.Bytes} {plaintext : String}
    (ha : accept C pre me deviceId = some session)
    (h : ratchetDecrypt C session header ciphertext aad rnd = some (session', plaintext)) :
    session'.deviceId = deviceId ∧ place session' = newPlace rnd := by
  obtain ⟨hdevice, htheirs, hskipped⟩ := accept_new ha
  obtain ⟨hdevice', hplace | ⟨-, hsome | hsome⟩⟩ := ratchetDecrypt_place h
  · exact ⟨hdevice'.trans hdevice, hplace⟩
  · exact absurd hskipped hsome
  · exact absurd htheirs hsome

end

section
variable {C S} {envelope : Header P} {session : Option (Session P)} {me : RecipientPrivates P} {deviceId : String}
  {senderIdentityKey : Option String} {expectedAuthorId : String} {rnd rnd' : P.Secret} {opened : Opened P}

lemma openSealed_within
    (h : openSealed C S envelope session me deviceId senderIdentityKey expectedAuthorId rnd rnd' = some opened) :
    openWithin C envelope session me rnd rnd' = some opened := by
  simp only [openSealed, parse, Option.bind_eq_bind, Option.bind_eq_some_iff] at h
  obtain ⟨h', hparsed, _, -, h⟩ := h
  split at hparsed
  · obtain rfl := Option.some.inj hparsed
    split at h
    · cases h
    · simp only [Option.bind_eq_some_iff] at h
      obtain ⟨_, -, h⟩ := h
      split at h
      · exact h
      · cases h
  · cases hparsed

lemma openWithin_place (h : openWithin C envelope session me rnd rnd' = some opened)
    (hdevice : ∀ known, session = some known → known.deviceId = envelope.s) :
    opened.session.deviceId = envelope.s ∧ (place opened.session = newPlace rnd ∨
      place opened.session = newPlace rnd' ∨ session.map place = some (place opened.session)) := by
  simp only [openWithin, Option.bind_eq_bind, Option.bind_eq_some_iff] at h
  obtain ⟨known, hknown, h⟩ := h
  split at h
  · next next plaintext hdecrypt =>
    obtain rfl := Option.some.inj h
    cases session with
    | some session =>
      obtain rfl := Option.some.inj hknown
      obtain ⟨hdevice', hplace | ⟨hplace, -⟩⟩ := ratchetDecrypt_place hdecrypt
      · exact ⟨hdevice'.trans (hdevice session rfl), .inl hplace⟩
      · exact ⟨hdevice'.trans (hdevice session rfl), .inr (.inr (congrArg some hplace.symm))⟩
    | none =>
      obtain ⟨pre, -, haccept⟩ := Option.bind_eq_some_iff.mp hknown
      obtain ⟨hdevice', hplace⟩ := accept_decrypt_place haccept hdecrypt
      exact ⟨hdevice', .inl hplace⟩
  · split at h
    · obtain ⟨restarted, hrestarted, h⟩ := Option.bind_eq_some_iff.mp h
      obtain ⟨⟨next, plaintext⟩, hdecrypt, h⟩ := Option.bind_eq_some_iff.mp h
      obtain rfl := Option.some.inj h
      obtain ⟨pre, -, haccept⟩ := Option.bind_eq_some_iff.mp hrestarted
      obtain ⟨hdevice', hplace⟩ := accept_decrypt_place haccept hdecrypt
      exact ⟨hdevice', .inr (.inl hplace)⟩
    · cases h

end

end Yappy.Cipher
