import Yappy.OrderedMap
import Yappy.RatchetCrypto

/-!
# The web client's Double Ratchet

`apps/webapp/src/lib/ratchet.ts`, function by function. Everything is pure: a session goes in,
a new session comes out. The secrets that the source draws with `randomSecretKey` are
arguments, and none is what the source answers with null or by throwing. A stored text is
never empty, so the source's falsy tests are null tests.
-/
namespace Yappy.Ratchet

/-- What the first messages carry so the other end can derive the same root. -/
structure PreKeyHeader where
  ek : String
  spkId : ℕ
  otkId : Option ℕ

/-- What every message carries so the ratchet can be followed. -/
structure RatchetHeader where
  dh : String
  pn : ℤ
  n : ℤ
  pre : Option PreKeyHeader

@[ext] structure Session (P : Primitives) where
  deviceId : String
  rootKey : P.Key
  myRatchetPrivate : P.Secret
  myRatchetPublic : String
  theirRatchet : Option String
  sendChain : Option P.Key
  recvChain : Option P.Key
  sendCount : ℤ
  recvCount : ℤ
  previousSendCount : ℤ
  skipped : OrderedMap String P.Key
  /-- The X3DH preamble, repeated on every message until they answer. -/
  pending : Option PreKeyHeader

structure RecipientPrivates (P : Primitives) where
  signedPreKeyId : ℕ
  signedPreKeyPrivate : P.Secret
  preKeys : OrderedMap ℕ P.Secret

/-- A published prekey: its id and the text of its public half. -/
structure PreKey where
  id : ℕ
  key : String

structure RecipientBundleKeys where
  deviceId : String
  signedPreKey : PreKey
  oneTimePreKey : Option PreKey

variable {P : Primitives} (C : Codec P)

def initiate (bundle : RecipientBundleKeys) (ephemeral myRatchet : P.Secret) :
    Option (Session P) := do
  let spk ← C.publicOf bundle.signedPreKey.key
  let dhSpk ← P.getSharedSecret ephemeral spk
  let dhOtk ← match bundle.oneTimePreKey with
    | some otk => do
      let otk ← C.publicOf otk.key
      some <$> P.getSharedSecret ephemeral otk
    | none => some none
  let dhRatchet ← P.getSharedSecret myRatchet spk
  -- the first DH ratchet step happens immediately
  let step := rootStep P (initialRoot P dhSpk dhOtk) dhRatchet
  some {
    deviceId := bundle.deviceId
    rootKey := step.1
    myRatchetPrivate := myRatchet
    myRatchetPublic := P.keyText (P.getPublicKey myRatchet)
    theirRatchet := some bundle.signedPreKey.key
    sendChain := some step.2
    recvChain := none
    sendCount := 0
    recvCount := 0
    previousSendCount := 0
    skipped := ∅
    pending := some {
      ek := P.keyText (P.getPublicKey ephemeral)
      spkId := bundle.signedPreKey.id
      otkId := bundle.oneTimePreKey.map PreKey.id } }

/-- Build the other side of a session from the preamble on an incoming message. -/
def accept (pre : PreKeyHeader) (me : RecipientPrivates P) (theirDeviceId : String) :
    Option (Session P) :=
  if pre.spkId ≠ me.signedPreKeyId then none
  else do
    let otkPrivate ← match pre.otkId with
      | none => some none
      | some id => some <$> me.preKeys.lookup id
    let ephemeral ← C.publicOf pre.ek
    let dhSpk ← P.getSharedSecret me.signedPreKeyPrivate ephemeral
    let dhOtk ← match otkPrivate with
      | some otkPrivate => some <$> P.getSharedSecret otkPrivate ephemeral
      | none => some none
    -- the signed prekey is this end's first ratchet key, matching what the sender assumed
    some {
      deviceId := theirDeviceId
      rootKey := initialRoot P dhSpk dhOtk
      myRatchetPrivate := me.signedPreKeyPrivate
      myRatchetPublic := P.keyText (P.getPublicKey me.signedPreKeyPrivate)
      theirRatchet := none
      sendChain := none
      recvChain := none
      sendCount := 0
      recvCount := 0
      previousSendCount := 0
      skipped := ∅
      pending := none }

/-- One message, and the session that replaces this one. -/
def ratchetEncrypt (session : Session P) (plaintext : String) (aad : P.Bytes) :
    Option (Session P × RatchetHeader × P.Text) := do
  let sendChain ← session.sendChain
  let step := chainStep P sendChain
  let header : RatchetHeader := {
    dh := session.myRatchetPublic
    pn := session.previousSendCount
    n := session.sendCount
    pre := session.pending }
  let ciphertext := P.toB64 (messageEncrypt P step.1 aad (P.utf8ToBytes plaintext))
  some ({ session with sendChain := some step.2, sendCount := session.sendCount + 1 },
    header, ciphertext)

/-- Where the key of message `n` under ratchet key `dh` is kept. -/
def skippedKey (dh : String) (n : ℤ) : String := dh ++ "|" ++ toString n

/-- The `while (n < until)` loop of `skipTo`, which runs `until - n` times. -/
def skipLoop (theirs : String) : ℕ → OrderedMap String P.Key → P.Key → ℤ →
    OrderedMap String P.Key × P.Key × ℤ
  | 0, skipped, chain, n => (skipped, chain, n)
  | k + 1, skipped, chain, n =>
    skipLoop theirs k (skipped.set (skippedKey theirs n) (chainStep P chain).1)
      (chainStep P chain).2 (n + 1)

/-- Walk a chain forward, keeping the keys for messages that have not arrived. -/
def skipTo (session : Session P) (limit : ℤ) : Option (Session P) :=
  match session.recvChain, session.theirRatchet with
  | some chain, some theirs =>
    if limit - session.recvCount > maxSkip then none
    else
      let walked := skipLoop theirs (limit - session.recvCount).toNat session.skipped chain
        session.recvCount
      -- oldest first, so what falls off the end is what is least likely to arrive
      some { session with
        skipped := OrderedMap.dropFirst (OrderedMap.oldest walked.1) maxSkippedKept walked.1
        recvChain := some walked.2.1
        recvCount := walked.2.2 }
  | _, _ => some session

/-- A DH ratchet step: their new key arrived, so both chains start again. -/
def turn (session : Session P) (theirRatchet : String) (myRatchet : P.Secret) :
    Option (Session P) := do
  let theirKey ← C.publicOf theirRatchet
  let dhReceive ← P.getSharedSecret session.myRatchetPrivate theirKey
  let afterReceive := rootStep P session.rootKey dhReceive
  -- a new keypair of our own: this is the step that heals
  let dhSend ← P.getSharedSecret myRatchet theirKey
  let afterSend := rootStep P afterReceive.1 dhSend
  some { session with
    previousSendCount := session.sendCount
    sendCount := 0
    recvCount := 0
    theirRatchet := some theirRatchet
    rootKey := afterSend.1
    myRatchetPrivate := myRatchet
    myRatchetPublic := P.keyText (P.getPublicKey myRatchet)
    recvChain := some afterReceive.2
    sendChain := some afterSend.2 }

def follow (session : Session P) (header : RatchetHeader) (myRatchet : P.Secret) :
    Option (Session P) :=
  if some header.dh ≠ session.theirRatchet then do
    -- close out the chain we were reading first: the rest of it may still turn up
    let closed ← skipTo session header.pn
    turn C closed header.dh myRatchet
  else some session

/-- The message, and the session that replaces this one, or null. -/
def ratchetDecrypt (session : Session P) (header : RatchetHeader) (ciphertext : P.Text)
    (aad : P.Bytes) (myRatchet : P.Secret) : Option (Session P × String) :=
  match session.skipped.lookup (skippedKey header.dh header.n) with
  | some stored => do
    let plaintext ← openWith C stored aad ciphertext
    some ({ session with skipped := session.skipped.erase (skippedKey header.dh header.n) },
      plaintext)
  | none => do
    let next ← follow C session header myRatchet
    let caughtUp ← skipTo next header.n
    let recvChain ← caughtUp.recvChain
    let plaintext ← openWith C (chainStep P recvChain).1 aad ciphertext
    some ({ caughtUp with
      recvChain := some (chainStep P recvChain).2
      recvCount := caughtUp.recvCount + 1
      -- they have answered, so the X3DH preamble has done its job
      pending := none }, plaintext)

private theorem append_bar_inj {x y s t : List Char} (hs : '|' ∉ s) (ht : '|' ∉ t)
    (h : x ++ '|' :: s = y ++ '|' :: t) : x = y ∧ s = t := by
  rcases List.append_eq_append_iff.mp h with ⟨w, rfl, hw⟩ | ⟨w, rfl, hw⟩
  · cases w with
    | nil => simpa using hw
    | cons c w =>
      rw [List.cons_append, List.cons.injEq] at hw
      exact absurd (by simp [hw.2]) hs
  · cases w with
    | nil => simpa using hw.symm
    | cons c w =>
      rw [List.cons_append, List.cons.injEq] at hw
      exact absurd (by simp [hw.2]) ht

lemma notMem_repr {ch : Char} (hd : ch.isDigit = false) (m : ℕ) : ch ∉ (Nat.repr m).toList := by
  intro h
  rw [Nat.toList_repr] at h
  rw [Nat.isDigit_of_mem_toDigits (by decide) (by decide) h] at hd
  cases hd

lemma notMem_toString {ch : Char} (hd : ch.isDigit = false) (hm : ch ≠ '-') (n : ℤ) :
    ch ∉ (toString n).toList := by
  cases n with
  | ofNat m => exact notMem_repr hd m
  | negSucc m =>
    have hr : toString (Int.negSucc m) = "-" ++ Nat.repr (m + 1) := rfl
    rw [hr, String.toList_append, List.mem_append]
    rintro (h | h)
    · exact hm (by simpa using h)
    · exact notMem_repr hd _ h

lemma skippedKey_inj {d e : String} {m n : ℤ} :
    skippedKey d m = skippedKey e n ↔ d = e ∧ m = n := by
  constructor
  · intro h
    have hl := congrArg String.toList h
    simp only [skippedKey, String.toList_append, List.append_assoc] at hl
    have hbar : ∀ n : ℤ, '|' ∉ (toString n).toList := notMem_toString rfl (by decide)
    obtain ⟨hd, hn⟩ := append_bar_inj (hbar m) (hbar n) hl
    exact ⟨String.toList_inj.mp hd, Int.repr_inj.mp (String.toList_inj.mp hn)⟩
  · rintro ⟨rfl, rfl⟩
    rfl

end Yappy.Ratchet
