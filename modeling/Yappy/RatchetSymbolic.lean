import Yappy.RatchetCrypto

/-!
# Symbolic primitives

Keys are the terms that built them, and a sealed body opens under exactly its own key, nonce
and associated data. The instance has every property that the results about the ratchet ask
of the primitives.
-/
namespace Yappy.Symbolic

/-- A 32-byte secret, as the term that computed it. -/
inductive Key
  | shared (a b : ℕ)
  | hkdf (ikm : Key) (info : String) (i : ℕ)
  | salted (ikm salt : Key) (info : String) (i : ℕ)
  | hmac (key : Key) (constant : UInt8)
  | sha256 (text : String)
  | concat (left right : Key)
  deriving DecidableEq

inductive Body
  | plain (text : String)
  | sealed (key nonce : Key) (aad body : Body)
  deriving DecidableEq

namespace Body

def size : Body → ℕ
  | plain text => text.utf8ByteSize
  | sealed _ _ _ body => body.size + 16

def decrypt (key nonce : Key) (aad : Body) : Body → Option Body
  | sealed key' nonce' aad' body =>
    if key' = key ∧ nonce' = nonce ∧ aad' = aad then some body else none
  | plain _ => none

def text : Body → Option String
  | plain text => some text
  | sealed _ _ _ _ => none

end Body

abbrev primitives : Primitives where
  Secret := ℕ
  Public := ℕ
  Key := Key
  Bytes := Body
  Text := Body
  getPublicKey := id
  getSharedSecret a b := some (.shared (min a b) (max a b))
  hkdf ikm
    | none, info, i => .hkdf ikm info i
    | some salt, info, i => .salted ikm salt info i
  hmac := .hmac
  sha256 := .sha256
  concat := .concat
  encrypt := .sealed
  decrypt := Body.decrypt
  size := Body.size
  utf8ToBytes := .plain
  toB64 := id
  keyText := Nat.repr

abbrev codec : Codec primitives where
  fromB64 := some
  publicOf key := some (Nat.ofDigitChars 10 key.toList 0)
  decode := Body.text

lemma ideal : Ideal primitives codec where
  agree a b := ⟨.shared (min a b) (max a b), rfl, by
    simp [min_comm, max_comm]⟩
  decrypt_encrypt k n aad m := by simp [Body.decrypt]
  fromB64_toB64 _ := rfl
  publicOf_keyText n := by simp
  decode_utf8 _ := rfl

end Yappy.Symbolic
