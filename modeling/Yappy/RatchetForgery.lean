import Yappy.RatchetMemory
import Yappy.RatchetSymbolic

/-!
# Messages that nobody honest has sent

What a message does to the session it does not open: nothing, after a bounded number of chain steps. And no
session that calls have led to keeps more keys than it may.
-/
namespace Yappy.Ratchet
variable {P : Primitives} {C : Codec P}

/-- The sessions that calls lead to, whoever has made up the messages. -/
inductive Reachable (C : Codec P) : Session P → Prop
  | initiate {bundle : RecipientBundleKeys} {ephemeral myRatchet : P.Secret} {session : Session P}
      (h : initiate C bundle ephemeral myRatchet = some session) : Reachable C session
  | accept {pre : PreKeyHeader} {me : RecipientPrivates P} {theirDeviceId : String} {session : Session P}
      (h : accept C pre me theirDeviceId = some session) : Reachable C session
  | encrypt {session session' : Session P} {plaintext : String} {aad : P.Bytes} {header : RatchetHeader}
      {ciphertext : P.Text} (hs : Reachable C session)
      (h : ratchetEncrypt session plaintext aad = some (session', header, ciphertext)) : Reachable C session'
  | decrypt {session session' : Session P} {header : RatchetHeader} {ciphertext : P.Text} {aad : P.Bytes}
      {myRatchet : P.Secret} {plaintext : String} (hs : Reachable C session)
      (h : ratchetDecrypt C session header ciphertext aad myRatchet = some (session', plaintext)) :
      Reachable C session'

/-! ## How many keys are kept -/

section Kept
variable {session session' : Session P} {header : RatchetHeader}

lemma initiate_skipped {bundle : RecipientBundleKeys} {ephemeral myRatchet : P.Secret}
    (h : initiate C bundle ephemeral myRatchet = some session) : session.skipped = ∅ := by
  unfold initiate at h
  simp only [Option.bind_eq_bind, Option.bind_eq_some_iff] at h
  obtain ⟨spk, -, dhSpk, -, h⟩ := h
  split at h
  · simp only [Option.bind_eq_some_iff] at h
    obtain ⟨otk, -, dhOtk, -, dhRatchet, -, h⟩ := h
    obtain rfl := Option.some.inj h
    rfl
  · simp only [Option.bind_eq_some_iff] at h
    obtain ⟨dhOtk, -, dhRatchet, -, h⟩ := h
    obtain rfl := Option.some.inj h
    rfl

lemma accept_skipped {pre : PreKeyHeader} {me : RecipientPrivates P} {theirDeviceId : String}
    (h : accept C pre me theirDeviceId = some session) : session.skipped = ∅ := by
  unfold accept at h
  split_ifs at h
  dsimp only at h
  split at h
  · simp only [Option.bind_eq_bind, Option.bind_some, Option.bind_eq_some_iff] at h
    obtain ⟨ephemeral, -, dhSpk, -, h⟩ := h
    obtain rfl := Option.some.inj h
    rfl
  · simp only [Option.bind_eq_bind, Option.bind_eq_some_iff] at h
    obtain ⟨otkPrivate, -, ephemeral, -, dhSpk, -, h⟩ := h
    split at h
    · obtain ⟨dhOtk, -, h⟩ := Option.bind_eq_some_iff.mp h
      obtain rfl := Option.some.inj h
      rfl
    · obtain rfl := Option.some.inj h
      rfl

lemma encrypt_skipped {plaintext : String} {aad : P.Bytes} {ciphertext : P.Text}
    (h : ratchetEncrypt session plaintext aad = some (session', header, ciphertext)) :
    session'.skipped = session.skipped := by
  unfold ratchetEncrypt at h
  obtain ⟨chain, -, hsession⟩ := Option.bind_eq_some_iff.mp h
  obtain ⟨rfl, -⟩ := Prod.mk.inj (Option.some.inj hsession)
  rfl

lemma skipTo_kept {limit : ℤ} (hkept : OrderedMap.size session.skipped ≤ maxSkippedKept)
    (h : skipTo session limit = some session') : OrderedMap.size session'.skipped ≤ maxSkippedKept := by
  unfold skipTo at h
  split at h
  · split_ifs at h
    obtain rfl := Option.some.inj h
    dsimp only
    exact OrderedMap.size_dropFirst_oldest maxSkippedKept _
  · obtain rfl := Option.some.inj h
    exact hkept

lemma turn_skipped {dh : String} {rnd : P.Secret} (h : turn C session dh rnd = some session') :
    session'.skipped = session.skipped := by
  unfold turn at h
  simp only [Option.bind_eq_bind, Option.bind_eq_some_iff] at h
  obtain ⟨theirKey, -, dhReceive, -, dhSend, -, hsession⟩ := h
  obtain rfl := Option.some.inj hsession
  rfl

lemma follow_kept {rnd : P.Secret} (hkept : OrderedMap.size session.skipped ≤ maxSkippedKept)
    (h : follow C session header rnd = some session') : OrderedMap.size session'.skipped ≤ maxSkippedKept := by
  unfold follow at h
  split_ifs at h
  · obtain ⟨closed, hclosed, hturn⟩ := Option.bind_eq_some_iff.mp h
    rw [turn_skipped hturn]
    exact skipTo_kept hkept hclosed
  · obtain rfl := Option.some.inj h
    exact hkept

lemma decrypt_kept {ciphertext : P.Text} {aad : P.Bytes} {rnd : P.Secret} {plaintext : String}
    (hkept : OrderedMap.size session.skipped ≤ maxSkippedKept)
    (h : ratchetDecrypt C session header ciphertext aad rnd = some (session', plaintext)) :
    OrderedMap.size session'.skipped ≤ maxSkippedKept := by
  unfold ratchetDecrypt at h
  split at h
  · rename_i stored hstored
    obtain ⟨text, -, hsession⟩ := Option.bind_eq_some_iff.mp h
    obtain ⟨rfl, -⟩ := Prod.mk.inj (Option.some.inj hsession)
    have hsize := OrderedMap.size_erase (AList.lookup_isSome.mp (Option.isSome_of_eq_some hstored))
    change OrderedMap.size (session.skipped.erase _) ≤ _
    omega
  · simp only [Option.bind_eq_bind, Option.bind_eq_some_iff] at h
    obtain ⟨next, hnext, caughtUp, hcaught, chain, -, text, -, hsession⟩ := h
    obtain ⟨rfl, -⟩ := Prod.mk.inj (Option.some.inj hsession)
    have hsize := skipTo_kept (follow_kept hkept hnext) hcaught
    exact hsize

lemma Reachable.kept (h : Reachable C session) : OrderedMap.size session.skipped ≤ maxSkippedKept := by
  induction h with
  | initiate h =>
    rw [initiate_skipped h]
    exact Nat.zero_le _
  | accept h =>
    rw [accept_skipped h]
    exact Nat.zero_le _
  | encrypt _ h ih =>
    rw [encrypt_skipped h]
    exact ih
  | decrypt _ h ih => exact decrypt_kept ih h

end Kept

/-! ## What a message costs -/

section Costs
variable {m : Memory P} {o : Object P} {session : Session P}

lemma text_eq {m' : Memory P} (h : o.Reads m session) (h' : o.Reads m' session) (header : RatchetHeader)
    (ciphertext : P.Text) (aad : P.Bytes) (rnd : P.Secret) :
    (o.ratchetDecrypt C header ciphertext aad rnd m').1.map Prod.snd =
      (o.ratchetDecrypt C header ciphertext aad rnd m).1.map Prod.snd := by
  have hrel : ∀ {m : Memory P} {r : Option (Object P × String)} {r' : Option (Session P × String)},
      Option.Rel (ReadsText m) r r' → r.map Prod.snd = r'.map Prod.snd := by
    intro m r r' hr
    cases hr with
    | some hab => exact congrArg some hab.2
    | none => rfl
  rw [hrel (Object.ratchetDecrypt_ends h header ciphertext aad rnd).result,
    hrel (Object.ratchetDecrypt_ends h' header ciphertext aad rnd).result]

end Costs

/-- A message leaves the session it was given as it was, so that every other message is opened as it would
have been, and makes at most as many chain steps as two gaps have positions and one; and no session keeps too
many keys. -/
theorem forged_costs_nothing (C : Codec P) :
    (∀ (m : Memory P) (o : Object P) (session : Session P), o.Reads m session →
      ∀ (header : RatchetHeader) (ciphertext : P.Text) (aad : P.Bytes) (rnd : P.Secret),
        let m' := (o.ratchetDecrypt C header ciphertext aad rnd m).2
        o.Reads m' session ∧
        (∀ header' ciphertext' aad' rnd', (o.ratchetDecrypt C header' ciphertext' aad' rnd' m').1.map Prod.snd =
          (o.ratchetDecrypt C header' ciphertext' aad' rnd' m).1.map Prod.snd) ∧
        (m'.steps : ℤ) ≤ m.steps + 2 * maxSkip + 1) ∧
    ∀ session, Reachable C session → OrderedMap.size session.skipped ≤ maxSkippedKept := by
  refine ⟨fun m o session h header ciphertext aad rnd => ?_, fun _ h => h.kept⟩
  have hends := (Object.ratchetDecrypt_ends (C := C) h header ciphertext aad rnd).extends_
  have hreads := h.extends hends
  refine ⟨hreads, fun header' ciphertext' aad' rnd' => text_eq h hreads header' ciphertext' aad' rnd', ?_⟩
  have hle := decryptSteps_le (C := C) session header rnd
  rw [hends.steps]
  push_cast
  omega

namespace Sample

def listening : Object Symbolic.primitives where
  deviceId := "d"
  rootKey := .sha256 "root"
  myRatchetPrivate := (1 : ℕ)
  myRatchetPublic := "1"
  theirRatchet := some "2"
  sendChain := none
  recvChain := some (.sha256 "chain")
  sendCount := 0
  recvCount := 0
  previousSendCount := 0
  skipped := 0
  pending := none

def memory : Memory Symbolic.primitives := ⟨[∅], 0⟩

lemma listening_reads : listening.Reads memory (listening.session ∅) := ⟨∅, rfl, rfl⟩

def farthest : RatchetHeader := ⟨"3", 1000, 1000, none⟩

end Sample

open Sample

lemma exists_skipTo {session : Session P} {chain : P.Key} {theirs : String} {limit : ℤ}
    (hchain : session.recvChain = some chain) (htheirs : session.theirRatchet = some theirs)
    (hgap : ¬ limit - session.recvCount > maxSkip) :
    ∃ next chain', skipTo session limit = some next ∧ next.recvChain = some chain' := by
  unfold skipTo
  simp only [hchain, htheirs, if_neg hgap]
  exact ⟨_, _, rfl, rfl⟩

lemma decryptSteps_farthest :
    decryptSteps Symbolic.codec (listening.session ∅) farthest (5 : ℕ) = 2001 := by
  have hgap : ¬ (1000 : ℤ) - 0 > maxSkip := by decide
  obtain ⟨closed, chain, hclosed, -⟩ := @exists_skipTo _ (listening.session ∅) _ _ 1000 rfl rfl hgap
  obtain ⟨next, hnext, chain', hchain, htheirs, hcount⟩ :
      ∃ next, turn Symbolic.codec closed "3" (5 : ℕ) = some next ∧
        ∃ chain', next.recvChain = some chain' ∧ next.theirRatchet = some "3" ∧ next.recvCount = 0 :=
    ⟨_, rfl, _, rfl, rfl, rfl⟩
  obtain ⟨caughtUp, chain'', hcaught, hopen⟩ := @exists_skipTo _ next _ _ 1000 hchain htheirs (hcount ▸ hgap)
  have hnew : some farthest.dh ≠ (listening.session ∅).theirRatchet := by decide
  have hfollow : Ratchet.follow Symbolic.codec (listening.session ∅) farthest (5 : ℕ) = some next := by
    unfold Ratchet.follow
    rw [if_pos hnew]
    exact (congrArg (Option.bind · _) hclosed).trans hnext
  have hclosing : followSteps (listening.session ∅) farthest = 1000 := by
    unfold followSteps
    rw [if_pos hnew]
    rfl
  have hskipping : skipSteps next farthest.n = 1000 := by
    unfold skipSteps
    simp only [hchain, htheirs, hcount]
    rfl
  have hlookup : (listening.session ∅).skipped.lookup (skippedKey farthest.dh farthest.n) = none := rfl
  unfold decryptSteps
  rw [hlookup, hfollow, hclosing]
  simp only [Option.elim_some, hskipping]
  rw [show farthest.n = 1000 from rfl, hcaught, Option.elim_some, hopen, Option.elim_some]

/-- One step more than two gaps have positions. -/
theorem farthest_steps : ¬ ∀ (P : Primitives) (C : Codec P) (m : Memory P) (o : Object P) (session : Session P),
    o.Reads m session → ∀ (header : RatchetHeader) (ciphertext : P.Text) (aad : P.Bytes) (rnd : P.Secret),
      ((o.ratchetDecrypt C header ciphertext aad rnd m).2.steps : ℤ) ≤ m.steps + 2 * maxSkip := by
  intro h
  have hle := h Symbolic.primitives Symbolic.codec memory listening _ listening_reads farthest (.plain "")
    (.plain "") (5 : ℕ)
  have hends := (Object.ratchetDecrypt_ends (C := Symbolic.codec) listening_reads farthest (.plain "")
    (.plain "") (5 : ℕ)).extends_
  rw [hends.steps, decryptSteps_farthest] at hle
  exact absurd hle (by decide)

/-- A text that nobody has sealed, under that header. -/
theorem forged_costs_nothing_farthest :
    listening.Reads (listening.ratchetDecrypt Symbolic.codec farthest (.plain "") (.plain "") (5 : ℕ) memory).2
      (listening.session ∅) :=
  ((forged_costs_nothing Symbolic.codec).1 memory listening _ listening_reads farthest (.plain "") (.plain "")
    (5 : ℕ)).1

end Yappy.Ratchet
