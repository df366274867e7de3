import Yappy.RatchetSkip

/-!
# The phones' ratchets

`android/.../data/Ratchet.kt` and `ios/.../Data/Ratchet.swift`, the receiving half, on the
session of the web client. The three are written to agree; the bodies here are the phones'
own, so that the places where they do not agree show. Texts are compared character by
character, which on base64 text is what Swift's canonical comparison does too.
-/
namespace Yappy.Ratchet
variable {P : Primitives} (C : Codec P)

namespace Kotlin

/-- `Int` arithmetic: 32 bits, wrapping. -/
def int (x : ℤ) : ℤ := x.bmod (2 ^ 32)

def skipTo (session : Session P) (limit : ℤ) : Option (Session P) :=
  match session.recvChain, session.theirRatchet with
  | some chainKey, some theirs =>
    -- the difference wraps before it is compared
    if int (limit - session.recvCount) > maxSkip then none
    else
      let walked := skipLoop theirs (limit - session.recvCount).toNat session.skipped chainKey
        session.recvCount
      -- a linked map hands its keys out in the order they went in
      some { session with
        skipped := OrderedMap.dropFirst (OrderedMap.oldest walked.1) maxSkippedKept walked.1
        recvChain := some walked.2.1
        recvCount := walked.2.2 }
  | _, _ => some session

def turn (session : Session P) (theirRatchet : String) (myRatchet : P.Secret) :
    Option (Session P) :=
  Ratchet.turn C session theirRatchet myRatchet

/-- The turn at the head of `decrypt`. -/
def follow (session : Session P) (header : RatchetHeader) (myRatchet : P.Secret) :
    Option (Session P) :=
  if some header.dh ≠ session.theirRatchet then do
    let closed ← skipTo session header.pn
    turn C closed header.dh myRatchet
  else some session

def decrypt (session : Session P) (header : RatchetHeader) (ciphertext : P.Text)
    (aad : P.Bytes) (myRatchet : P.Secret) : Option (Session P × String) :=
  match session.skipped.lookup (skippedKey header.dh header.n) with
  | some stored => do
    let plaintext ← openWith C stored aad ciphertext
    some ({ session with skipped := session.skipped.erase (skippedKey header.dh header.n) },
      plaintext)
  | none => do
    let next ← follow C session header myRatchet
    let caughtUp ← skipTo next header.n
    let chain ← caughtUp.recvChain
    let plaintext ← openWith C (chainStep P chain).1 aad ciphertext
    some ({ caughtUp with
      recvChain := some (chainStep P chain).2
      recvCount := int (caughtUp.recvCount + 1)
      pending := none }, plaintext)

end Kotlin

namespace Swift

/-- `keys.sorted()`: the order of the texts, not that of insertion. -/
def sorted (skipped : OrderedMap String P.Key) : List String :=
  skipped.keys.insertionSort (· ≤ ·)

def skipTo (session : Session P) (limit : ℤ) : Option (Session P) :=
  match session.recvChain, session.theirRatchet with
  | some chain, some theirs =>
    if limit - session.recvCount > maxSkip then none
    else
      let walked := skipLoop theirs (limit - session.recvCount).toNat session.skipped chain
        session.recvCount
      -- meant to be oldest first, as in the other two
      some { session with
        skipped := OrderedMap.dropFirst (sorted walked.1) maxSkippedKept walked.1
        recvChain := some walked.2.1
        recvCount := walked.2.2 }
  | _, _ => some session

def turn (session : Session P) (theirRatchet : String) (myRatchet : P.Secret) :
    Option (Session P) :=
  Ratchet.turn C session theirRatchet myRatchet

def follow (session : Session P) (header : RatchetHeader) (myRatchet : P.Secret) :
    Option (Session P) :=
  if some header.dh ≠ session.theirRatchet then do
    let closed ← skipTo session header.pn
    turn C closed header.dh myRatchet
  else some session

/-- What `decrypt` calls `open`: the body was decoded before. -/
def openBody (messageKey : P.Key) (aad body : P.Bytes) : Option String := do
  let plain ← messageDecrypt P messageKey aad body
  C.decode plain

def decrypt (session : Session P) (header : RatchetHeader) (ciphertext : P.Text)
    (aad : P.Bytes) (myRatchet : P.Secret) : Option (Session P × String) := do
  let body ← C.fromB64 ciphertext
  -- a tag and at least one octet under it
  if ¬ 16 < P.size body then none
  else
    match session.skipped.lookup (skippedKey header.dh header.n) with
    | some stored => do
      let plaintext ← openBody C stored aad body
      some ({ session with skipped := session.skipped.erase (skippedKey header.dh header.n) },
        plaintext)
    | none => do
      let next ← follow C session header myRatchet
      let caughtUp ← skipTo next header.n
      let chain ← caughtUp.recvChain
      let plaintext ← openBody C (chainStep P chain).1 aad body
      some ({ caughtUp with
        recvChain := some (chainStep P chain).2
        recvCount := caughtUp.recvCount + 1
        pending := none }, plaintext)

end Swift

/-! ### Where the copies coincide -/

/-- What a 32-bit `Int` holds. -/
def Kotlin.Holds (x : ℤ) : Prop := -2 ^ 31 ≤ x ∧ x < 2 ^ 31

instance (x : ℤ) : Decidable (Kotlin.Holds x) := inferInstanceAs (Decidable (_ ∧ _))

lemma Kotlin.int_eq {x : ℤ} (h : Kotlin.Holds x) : Kotlin.int x = x := by
  obtain ⟨h, h'⟩ := h
  unfold Kotlin.int
  exact Int.bmod_eq_of_le (by omega) (by omega)

lemma Kotlin.skipTo_eq {session : Session P} {limit : ℤ}
    (hgap : session.recvChain.isSome → session.theirRatchet.isSome →
      Kotlin.Holds (limit - session.recvCount)) :
    Kotlin.skipTo session limit = Ratchet.skipTo session limit := by
  unfold Kotlin.skipTo Ratchet.skipTo
  cases hc : session.recvChain with
  | none => rfl
  | some chain =>
    cases ht : session.theirRatchet with
    | none => rfl
    | some theirs =>
      rw [Kotlin.int_eq (hgap (by simp [hc]) (by simp [ht]))]

/-- A walk that leaves nothing to evict is the web client's: the order of eviction is the one
thing that differs. -/
theorem Swift.skipTo_eq {session : Session P} {limit : ℤ}
    (hroom : session.recvChain.isSome → session.theirRatchet.isSome →
      limit - session.recvCount ≤ maxSkip →
      OrderedMap.size session.skipped + (limit - session.recvCount).toNat ≤ maxSkippedKept) :
    Swift.skipTo session limit = Ratchet.skipTo session limit := by
  unfold Swift.skipTo Ratchet.skipTo
  cases hc : session.recvChain with
  | none => rfl
  | some chain =>
    cases ht : session.theirRatchet with
    | none => rfl
    | some theirs =>
      by_cases hgap : limit - session.recvCount > maxSkip
      · simp [hgap]
      · have hsize := skipLoop_size theirs (limit - session.recvCount).toNat session.skipped
          chain session.recvCount
        have hcap := hroom (by simp [hc]) (by simp [ht]) (by omega)
        simp only [if_neg hgap]
        rw [OrderedMap.dropFirst_of_le (hsize.trans hcap),
          OrderedMap.dropFirst_of_le (hsize.trans hcap)]

end Yappy.Ratchet
