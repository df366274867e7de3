import Yappy.RatchetSession

/-!
# What skipping and reading do to a session

One lemma for each branch of `skipTo` and `ratchetDecrypt`, stated on the positions a message
makes its receiver pass. Nothing above this module unfolds either function.
-/
namespace Yappy.Ratchet
variable {P : Primitives} {C : Codec P}

lemma skipLoop_chain (theirs : String) (k : ℕ) (skipped : OrderedMap String P.Key)
    (chain : P.Key) (n : ℤ) :
    (skipLoop theirs k skipped chain n).2 = (advance P k chain, n + k) := by
  induction k generalizing skipped chain n with
  | zero => simp [skipLoop]
  | succ k ih =>
    simp only [skipLoop, ih, advance_succ, Prod.mk.injEq, true_and]
    push_cast
    ring

lemma skipLoop_lookup (theirs : String) (k : ℕ) (skipped : OrderedMap String P.Key)
    (chain : P.Key) (n : ℤ) (dh : String) (m : ℤ) :
    (skipLoop theirs k skipped chain n).1.lookup (skippedKey dh m) =
      if dh = theirs ∧ n ≤ m ∧ m < n + k
      then some (chainStep P (advance P (m - n).toNat chain)).1
      else skipped.lookup (skippedKey dh m) := by
  induction k generalizing skipped chain n with
  | zero =>
    rw [if_neg (by push_cast; omega)]
    rfl
  | succ k ih =>
    simp only [skipLoop, ih, OrderedMap.lookup_set, skippedKey_inj]
    by_cases hd : dh = theirs
    · rcases lt_trichotomy m n with h | h | h
      · rw [if_neg (by omega), if_neg (by omega), if_neg (by push_cast; omega)]
      · subst h
        rw [if_neg (by omega), if_pos ⟨hd, rfl⟩, if_pos ⟨hd, le_rfl, by push_cast; omega⟩]
        simp
      · have hs : (m - n).toNat = (m - (n + 1)).toNat + 1 := by omega
        by_cases hk : m < n + 1 + k
        · rw [if_pos ⟨hd, by omega, hk⟩, if_pos ⟨hd, by omega, by push_cast; omega⟩, hs,
            advance_succ]
        · rw [if_neg (by omega), if_neg (by omega), if_neg (by push_cast; omega)]
    · simp [hd]

lemma skipLoop_mem (theirs : String) (k : ℕ) (skipped : OrderedMap String P.Key)
    (chain : P.Key) (n : ℤ) {key : String} (h : key ∈ (skipLoop theirs k skipped chain n).1) :
    key ∈ skipped ∨ ∃ m, n ≤ m ∧ m < n + k ∧ key = skippedKey theirs m := by
  induction k generalizing skipped chain n with
  | zero => exact Or.inl h
  | succ k ih =>
    rcases ih _ _ _ h with hm | ⟨m, hn, hk, rfl⟩
    · rcases (OrderedMap.mem_set _ _ _ _).mp hm with rfl | hm
      · exact Or.inr ⟨n, le_rfl, by push_cast; omega, rfl⟩
      · exact Or.inl hm
    · exact Or.inr ⟨m, by omega, by push_cast; omega, rfl⟩

lemma skipLoop_size (theirs : String) (k : ℕ) (skipped : OrderedMap String P.Key)
    (chain : P.Key) (n : ℤ) :
    OrderedMap.size (skipLoop theirs k skipped chain n).1 ≤ OrderedMap.size skipped + k := by
  induction k generalizing skipped chain n with
  | zero => simp [skipLoop]
  | succ k ih =>
    have hi := ih (skipped.set (skippedKey theirs n) (chainStep P chain).1)
      (chainStep P chain).2 (n + 1)
    have hs := OrderedMap.size_set_le skipped (skippedKey theirs n) (chainStep P chain).1
    simp only [skipLoop]
    omega

/-- The session after `k` more positions of its receiving chain were passed over. -/
def passed (session : Session P) (theirs : String) (chain : P.Key) (k : ℕ) : Session P :=
  { session with
    skipped := (skipLoop theirs k session.skipped chain session.recvCount).1
    recvChain := some (advance P k chain)
    recvCount := session.recvCount + k }

lemma skipTo_within {session : Session P} {chain : P.Key} {theirs : String} {limit : ℤ}
    (hc : session.recvChain = some chain) (ht : session.theirRatchet = some theirs)
    (hgap : limit - session.recvCount ≤ maxSkip)
    (hsize : OrderedMap.size session.skipped + (limit - session.recvCount).toNat
      ≤ maxSkippedKept) :
    skipTo session limit =
      some (passed session theirs chain (limit - session.recvCount).toNat) := by
  have hw := skipLoop_size theirs (limit - session.recvCount).toNat session.skipped chain
    session.recvCount
  unfold skipTo
  simp only [hc, ht]
  rw [if_neg (by omega), OrderedMap.dropFirst_of_le (by omega), skipLoop_chain]
  simp [passed, ht]

lemma skipTo_none {session : Session P} (limit : ℤ) (hc : session.recvChain = none) :
    skipTo session limit = some session := by
  unfold skipTo
  simp [hc]

/-- The positions a message makes its receiver skip: in the chain it was reading, and in the
one the message belongs to. -/
def positionsToSkip (session : Session P) (header : RatchetHeader) : ℕ × ℕ :=
  if (session.skipped.lookup (skippedKey header.dh header.n)).isSome then (0, 0)
  else if session.theirRatchet = some header.dh then
    ((header.n - session.recvCount).toNat, 0)
  else (if session.recvChain.isSome then (header.pn - session.recvCount).toNat else 0,
    header.n.toNat)

/-- The receiver has at most `maxSkip` positions to skip in either chain, and the store of
skipped keys stays within `maxSkippedKept` on the way. -/
def Fits (session : Session P) (header : RatchetHeader) : Prop :=
  ((positionsToSkip session header).1 : ℤ) ≤ maxSkip ∧
  ((positionsToSkip session header).2 : ℤ) ≤ maxSkip ∧
  OrderedMap.size session.skipped + (positionsToSkip session header).1 +
    (positionsToSkip session header).2 ≤ maxSkippedKept

instance (session : Session P) (header : RatchetHeader) : Decidable (Fits session header) :=
  inferInstanceAs (Decidable (_ ∧ _ ∧ _))

/-- The root and receiving chain that `turn` derives under the other side's key. -/
def turnKeys (C : Codec P) (session : Session P) (dh : String) : Option (P.Key × P.Key) := do
  let theirKey ← C.publicOf dh
  let shared ← P.getSharedSecret session.myRatchetPrivate theirKey
  some (rootStep P session.rootKey shared)

/-- A session once it has read position `n` of its receiving chain. -/
def read (session : Session P) (theirs : String) (chain : P.Key) (k : ℕ) : Session P :=
  { passed session theirs chain k with
    recvChain := some (advance P (k + 1) chain)
    recvCount := session.recvCount + k + 1
    pending := none }

lemma ratchetDecrypt_stored {session : Session P} {header : RatchetHeader} {stored : P.Key}
    {ciphertext : P.Text} {aad : P.Bytes} {plaintext : String} (rnd : P.Secret)
    (hs : session.skipped.lookup (skippedKey header.dh header.n) = some stored)
    (ho : openWith C stored aad ciphertext = some plaintext) :
    ratchetDecrypt C session header ciphertext aad rnd = some
      ({ session with skipped := session.skipped.erase (skippedKey header.dh header.n) },
        plaintext) := by
  unfold ratchetDecrypt
  rw [hs]
  simp [ho]

lemma ratchetDecrypt_ahead {session : Session P} {header : RatchetHeader} {chain : P.Key}
    {ciphertext : P.Text} {aad : P.Bytes} {plaintext : String} (rnd : P.Secret)
    (hs : session.skipped.lookup (skippedKey header.dh header.n) = none)
    (ht : session.theirRatchet = some header.dh) (hc : session.recvChain = some chain)
    (hfit : Fits session header)
    (ho : openWith C (chainStep P (advance P (header.n - session.recvCount).toNat chain)).1
      aad ciphertext = some plaintext) :
    ratchetDecrypt C session header ciphertext aad rnd = some
      (read session header.dh chain (header.n - session.recvCount).toNat, plaintext) := by
  have hp : positionsToSkip session header = ((header.n - session.recvCount).toNat, 0) := by
    simp [positionsToSkip, hs, ht]
  obtain ⟨h1, -, h3⟩ := hfit
  rw [hp] at h1 h3
  have hskip : skipTo session header.n =
      some (passed session header.dh chain (header.n - session.recvCount).toNat) :=
    skipTo_within hc ht (by simp at h1; omega) (by simpa using h3)
  unfold ratchetDecrypt follow
  rw [hs]
  simp [ht, hskip, passed, ho, read, advance_succ']

def closed (session : Session P) (header : RatchetHeader) : Session P :=
  match session.recvChain, session.theirRatchet with
  | some chain, some theirs =>
    passed session theirs chain (header.pn - session.recvCount).toNat
  | _, _ => session

/-- The session after a turn under their key `dh`, from the step that reads and the secret
agreed for sending. -/
def turned (session : Session P) (dh : String) (rnd : P.Secret) (receive : P.Key × P.Key)
    (dhSend : P.Key) : Session P :=
  { session with
    previousSendCount := session.sendCount
    sendCount := 0
    recvCount := 0
    theirRatchet := some dh
    rootKey := (rootStep P receive.1 dhSend).1
    myRatchetPrivate := rnd
    myRatchetPublic := P.keyText (P.getPublicKey rnd)
    recvChain := some receive.2
    sendChain := some (rootStep P receive.1 dhSend).2 }

lemma turn_eq {session : Session P} {dh : String} {rnd : P.Secret} {receive : P.Key × P.Key}
    {theirKey : P.Public} {dhSend : P.Key} (hd : C.publicOf dh = some theirKey)
    (hr : turnKeys C session dh = some receive)
    (hs : P.getSharedSecret rnd theirKey = some dhSend) :
    turn C session dh rnd = some (turned session dh rnd receive dhSend) := by
  obtain ⟨shared, hg, rfl⟩ : ∃ shared,
      P.getSharedSecret session.myRatchetPrivate theirKey = some shared ∧
        rootStep P session.rootKey shared = receive := by
    simpa [turnKeys, hd, Option.bind_eq_some_iff] using hr
  simp [turn, hd, hg, hs, turned]

lemma closed_turn (session : Session P) (header : RatchetHeader) (dh : String) :
    turnKeys C (closed session header) dh = turnKeys C session dh := by
  unfold closed
  split <;> rfl

lemma closed_skipTo {session : Session P} {header : RatchetHeader}
    (hs : session.skipped.lookup (skippedKey header.dh header.n) = none)
    (ht : session.theirRatchet ≠ some header.dh)
    (hopen : session.recvChain.isSome → session.theirRatchet.isSome)
    (hfit : Fits session header) : skipTo session header.pn = some (closed session header) := by
  cases hc : session.recvChain with
  | none => simp [skipTo_none _ hc, closed, hc]
  | some chain =>
    obtain ⟨theirs, hth⟩ := Option.isSome_iff_exists.mp (hopen (by simp [hc]))
    have hp : positionsToSkip session header =
        ((header.pn - session.recvCount).toNat, header.n.toNat) := by
      simp [positionsToSkip, hs, ht, hc]
    obtain ⟨h1, -, h3⟩ := hfit
    rw [hp] at h1 h3
    simp only at h1 h3
    rw [skipTo_within hc hth (by omega) (by omega)]
    simp [closed, hc, hth]

lemma closed_size (session : Session P) (header : RatchetHeader) :
    OrderedMap.size (closed session header).skipped ≤ OrderedMap.size session.skipped +
      if session.recvChain.isSome then (header.pn - session.recvCount).toNat else 0 := by
  unfold closed
  split
  · next chain theirs hc _ =>
    have := skipLoop_size theirs (header.pn - session.recvCount).toNat session.skipped chain
      session.recvCount
    simpa [hc, passed] using this
  · omega

lemma ratchetDecrypt_next {session : Session P} {header : RatchetHeader} {rnd : P.Secret}
    {receive : P.Key × P.Key} {theirKey : P.Public} {dhSend : P.Key}
    {ciphertext : P.Text} {aad : P.Bytes} {plaintext : String}
    (hs : session.skipped.lookup (skippedKey header.dh header.n) = none)
    (ht : session.theirRatchet ≠ some header.dh)
    (hopen : session.recvChain.isSome → session.theirRatchet.isSome)
    (hfit : Fits session header) (hd : C.publicOf header.dh = some theirKey)
    (hr : turnKeys C session header.dh = some receive)
    (hg : P.getSharedSecret rnd theirKey = some dhSend)
    (ho : openWith C (chainStep P (advance P header.n.toNat receive.2)).1 aad ciphertext
      = some plaintext) :
    ratchetDecrypt C session header ciphertext aad rnd = some
      (read (turned (closed session header) header.dh rnd receive dhSend) header.dh receive.2
        header.n.toNat, plaintext) := by
  have hclose := closed_skipTo hs ht hopen hfit
  have hturn : turn C (closed session header) header.dh rnd =
      some (turned (closed session header) header.dh rnd receive dhSend) :=
    turn_eq hd ((closed_turn _ _ _).trans hr) hg
  have hsize : OrderedMap.size (closed session header).skipped + header.n.toNat
      ≤ maxSkippedKept := by
    have hc := closed_size session header
    have h3 := hfit.2.2
    simp only [positionsToSkip, hs, ht, Option.isSome_none, Bool.false_eq_true, if_false] at h3
    omega
  have hgap : header.n ≤ maxSkip := by
    have h2 := hfit.2.1
    simp only [positionsToSkip, hs, ht, Option.isSome_none, Bool.false_eq_true, if_false] at h2
    omega
  have hskip : skipTo (turned (closed session header) header.dh rnd receive dhSend) header.n =
      some (passed (turned (closed session header) header.dh rnd receive dhSend) header.dh
        receive.2 header.n.toNat) := by
    have h := @skipTo_within P (turned (closed session header) header.dh rnd receive dhSend)
      receive.2 header.dh header.n rfl rfl (by simpa [turned] using hgap)
      (by simpa [turned] using hsize)
    simpa [turned] using h
  unfold ratchetDecrypt follow
  rw [hs]
  simp [Ne.symm ht, hclose, hturn, hskip, passed, ho, read, advance_succ']

end Yappy.Ratchet
