import Mathlib

/-!
# The primitives under the ratchet

X25519, HKDF, HMAC, SHA-256 and ChaCha20-Poly1305 are library calls in every client, so they
are parameters here. A 32-byte secret is an opaque `Key`; only public keys and ciphertexts
keep their base64 text, because the text is what a message carries.
-/
namespace Yappy

structure Primitives where
  Secret : Type
  Public : Type
  Key : Type
  Bytes : Type
  Text : Type
  getPublicKey : Secret → Public
  /-- None where the library throws, as it does on a point of low order. -/
  getSharedSecret : Secret → Public → Option Key
  /-- The `i`-th 32-byte block of `hkdf(sha256, ikm, salt, info)`. -/
  hkdf : Key → Option Key → String → ℕ → Key
  hmac : Key → UInt8 → Key
  sha256 : String → Key
  concat : Key → Key → Key
  /-- `chacha20poly1305(key, nonce, aad)`: the key, the nonce, the associated data, the body. -/
  encrypt : Key → Key → Bytes → Bytes → Bytes
  decrypt : Key → Key → Bytes → Bytes → Option Bytes
  size : Bytes → ℕ
  utf8ToBytes : String → Bytes
  toB64 : Bytes → Text
  keyText : Public → String

/-- The decoders of one platform, where the standard libraries differ. -/
structure Codec (P : Primitives) where
  /-- Base64 decoding of a ciphertext; none where it throws or answers nil. -/
  fromB64 : P.Text → Option P.Bytes
  publicOf : String → Option P.Public
  /-- Bytes to text. Only Swift's refuses; the other two replace what is malformed. -/
  decode : P.Bytes → Option String

/-- What an honest run relies on: agreement commutes, the right key opens, and the
encodings of one's own values read back. -/
structure Ideal (P : Primitives) (C : Codec P) : Prop where
  agree : ∀ a b, ∃ k, P.getSharedSecret a (P.getPublicKey b) = some k ∧
    P.getSharedSecret b (P.getPublicKey a) = some k
  decrypt_encrypt : ∀ k n aad m, P.decrypt k n aad (P.encrypt k n aad m) = some m
  fromB64_toB64 : ∀ b, C.fromB64 (P.toB64 b) = some b
  publicOf_keyText : ∀ p, C.publicOf (P.keyText p) = some p
  decode_utf8 : ∀ s, C.decode (P.utf8ToBytes s) = some s

namespace Ratchet
variable (P : Primitives)

def domain : String := "yappy.ratchet.v2"

def maxSkip : ℤ := 1000

def maxSkippedKept : ℕ := 2000

def rootStep (rootKey dh : P.Key) : P.Key × P.Key :=
  (P.hkdf dh (some rootKey) (domain ++ ".root") 0, P.hkdf dh (some rootKey) (domain ++ ".root") 1)

def chainStep (chainKey : P.Key) : P.Key × P.Key :=
  (P.hmac chainKey 1, P.hmac chainKey 2)

def cipherKey (messageKey : P.Key) : P.Key × P.Key :=
  (P.hkdf messageKey none (domain ++ ".message") 0, P.hkdf messageKey none (domain ++ ".message") 1)

/-- `messageCipher(messageKey, aad).encrypt`. -/
def messageEncrypt (messageKey : P.Key) (aad body : P.Bytes) : P.Bytes :=
  P.encrypt (cipherKey P messageKey).1 (cipherKey P messageKey).2 aad body

/-- `messageCipher(messageKey, aad).decrypt`. -/
def messageDecrypt (messageKey : P.Key) (aad body : P.Bytes) : Option P.Bytes :=
  P.decrypt (cipherKey P messageKey).1 (cipherKey P messageKey).2 aad body

def initialRoot (dhSpk : P.Key) (dhOtk : Option P.Key) : P.Key :=
  P.hkdf (match dhOtk with
    | some dhOtk => P.concat dhSpk dhOtk
    | none => dhSpk) (some (P.sha256 (domain ++ ".salt"))) (domain ++ ".x3dh") 0

def advance (n : ℕ) (chainKey : P.Key) : P.Key :=
  (fun c => (chainStep P c).2)^[n] chainKey

@[simp] lemma advance_zero (c : P.Key) : advance P 0 c = c := rfl

lemma advance_succ (n : ℕ) (c : P.Key) :
    advance P (n + 1) c = advance P n (chainStep P c).2 := rfl

lemma advance_succ' (n : ℕ) (c : P.Key) :
    advance P (n + 1) c = (chainStep P (advance P n c)).2 :=
  Function.iterate_succ_apply' _ n c

lemma advance_add (m n : ℕ) (c : P.Key) :
    advance P m (advance P n c) = advance P (m + n) c :=
  (Function.iterate_add_apply _ m n c).symm

variable {P}

/-- What every client calls `open`: base64, the AEAD, then text. -/
def openWith (C : Codec P) (messageKey : P.Key) (aad : P.Bytes) (ciphertext : P.Text) :
    Option String := do
  let body ← C.fromB64 ciphertext
  let plain ← messageDecrypt P messageKey aad body
  C.decode plain

lemma openWith_encrypt {C : Codec P} (h : Ideal P C) (k : P.Key) (aad : P.Bytes) (s : String) :
    openWith C k aad (P.toB64 (messageEncrypt P k aad (P.utf8ToBytes s))) = some s := by
  simp [openWith, messageDecrypt, messageEncrypt, h.fromB64_toB64, h.decrypt_encrypt,
    h.decode_utf8]

end Ratchet
end Yappy
