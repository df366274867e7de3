import Yappy.RatchetSkip

/-!
# Two sessions in step

Of two sessions of one conversation one leads: it turned last, and its ratchet key is news to
the other. `Aligned` says what each end's keys are in terms of the other's and which key every
undelivered message will be read with. The lemmas are one for each thing that can happen:
either end seals, the leader or the trailer reads, or the trailer turns and takes the lead.
-/
namespace Yappy.Ratchet
variable {P : Primitives} {C : Codec P}

/-- A sealed message on its way, with what was sealed into it. -/
structure Sealed (P : Primitives) where
  header : RatchetHeader
  ciphertext : P.Text
  aad : P.Bytes
  plaintext : String

namespace Sealed

def label (e : Sealed P) : String := skippedKey e.header.dh e.header.n

def OpensWith (C : Codec P) (key : P.Key) (e : Sealed P) : Prop :=
  openWith C key e.aad e.ciphertext = some e.plaintext

end Sealed

/-- Every kept key was filed under a ratchet key already drawn, behind the reading position. -/
def Filed (drawn : List String) (session : Session P) : Prop :=
  ∀ key ∈ session.skipped, ∃ dh n, key = skippedKey dh n ∧ dh ∈ drawn ∧
    (session.theirRatchet = some dh → n < session.recvCount)

/-- A message its receiver can read without turning: the key was kept, or lies ahead in the
chain being read, before the position `bound` where the sender stopped. -/
inductive Due (C : Codec P) (session : Session P) (bound : ℤ) (e : Sealed P) : Prop
  | stored (key : P.Key) (kept : session.skipped.lookup e.label = some key)
      (opens : e.OpensWith C key)
  | ahead (chain : P.Key) (theirs : session.theirRatchet = some e.header.dh)
      (reading : session.recvChain = some chain) (from_ : session.recvCount ≤ e.header.n)
      (before : e.header.n < bound)
      (opens : e.OpensWith C
        (chainStep P (advance P (e.header.n - session.recvCount).toNat chain)).1)

structure News (C : Codec P) (leader trailer : Session P) (e : Sealed P) : Prop where
  dh : e.header.dh = leader.myRatchetPublic
  nonneg : 0 ≤ e.header.n
  before : e.header.n < leader.sendCount
  pn : e.header.pn = leader.previousSendCount
  opens : ∀ receive, turnKeys C trailer leader.myRatchetPublic = some receive →
    e.OpensWith C (chainStep P (advance P e.header.n.toNat receive.2)).1

lemma filed_lookup {drawn : List String} {session : Session P} {dh : String} {n : ℤ}
    (hf : Filed drawn session) (ht : session.theirRatchet = some dh)
    (hn : session.recvCount ≤ n) : session.skipped.lookup (skippedKey dh n) = none := by
  rw [AList.lookup_eq_none]
  intro hm
  obtain ⟨d, m, he, -, hb⟩ := hf _ hm
  obtain ⟨rfl, rfl⟩ := skippedKey_inj.mp he
  have := hb ht
  omega

lemma filed_mono {drawn drawn' : List String} {session : Session P}
    (hf : Filed drawn session) (hd : drawn ⊆ drawn') : Filed drawn' session := by
  intro key hk
  obtain ⟨dh, n, he, hm, hb⟩ := hf key hk
  exact ⟨dh, n, he, hd hm, hb⟩

lemma due_mono {session : Session P} {bound bound' : ℤ} {e : Sealed P}
    (h : Due C session bound e) (hb : bound ≤ bound') : Due C session bound' e := by
  cases h with
  | stored key kept opens => exact .stored key kept opens
  | ahead chain theirs reading from_ before opens =>
    exact .ahead chain theirs reading from_ (by omega) opens

lemma Due.congr {session session' : Session P} {bound : ℤ} {e : Sealed P}
    (h : Due C session bound e) (hs : session'.skipped = session.skipped)
    (ht : session'.theirRatchet = session.theirRatchet)
    (hc : session'.recvChain = session.recvChain) (hn : session'.recvCount = session.recvCount) :
    Due C session' bound e := by
  cases h with
  | stored key kept opens => exact .stored key (hs ▸ kept) opens
  | ahead chain theirs reading from_ before opens =>
    exact .ahead chain (ht.trans theirs) (hc.trans reading) (hn ▸ from_) before (hn ▸ opens)

/-! ### Reading along a chain -/

lemma passed_lookup (session : Session P) (theirs : String) (chain : P.Key) (k : ℕ)
    (dh : String) (m : ℤ) :
    (passed session theirs chain k).skipped.lookup (skippedKey dh m) =
      if dh = theirs ∧ session.recvCount ≤ m ∧ m < session.recvCount + k
      then some (chainStep P (advance P (m - session.recvCount).toNat chain)).1
      else session.skipped.lookup (skippedKey dh m) :=
  skipLoop_lookup _ _ _ _ _ _ _

lemma passed_kept {drawn : List String} {session : Session P} {theirs : String}
    (chain : P.Key) (k : ℕ) {e : Sealed P} {key : P.Key} (hf : Filed drawn session)
    (ht : session.theirRatchet = some theirs)
    (hk : session.skipped.lookup e.label = some key) :
    (passed session theirs chain k).skipped.lookup e.label = some key := by
  rw [Sealed.label, passed_lookup, if_neg]
  · exact hk
  · rintro ⟨hd, hn, -⟩
    rw [Sealed.label, filed_lookup hf (ht.trans (by rw [hd])) hn] at hk
    cases hk

lemma passed_filed {drawn : List String} {session : Session P} {theirs : String}
    (chain : P.Key) (k : ℕ) (hf : Filed drawn session) (hd : theirs ∈ drawn) :
    Filed drawn (passed session theirs chain k) := by
  intro key hk
  rcases skipLoop_mem _ _ _ _ _ hk with hk | ⟨m, hn, hm, rfl⟩
  · obtain ⟨dh, n, he, hmem, hb⟩ := hf key hk
    refine ⟨dh, n, he, hmem, fun h => ?_⟩
    have := hb h
    simp only [passed]
    omega
  · exact ⟨theirs, m, rfl, hd, fun _ => hm⟩

lemma read_filed {drawn : List String} {session : Session P} {theirs : String}
    (chain : P.Key) (k : ℕ) (hf : Filed drawn session) (hd : theirs ∈ drawn) :
    Filed drawn (read session theirs chain k) := by
  intro key hk
  obtain ⟨dh, n, he, hmem, hb⟩ := passed_filed chain k hf hd key hk
  refine ⟨dh, n, he, hmem, fun h => ?_⟩
  have := hb h
  simp only [passed] at this
  simp only [read]
  omega

lemma read_due {drawn : List String} {session : Session P} {theirs : String} {chain : P.Key}
    {k : ℕ} {bound : ℤ} {e : Sealed P} (hf : Filed drawn session)
    (ht : session.theirRatchet = some theirs) (hc : session.recvChain = some chain)
    (hl : e.label ≠ skippedKey theirs (session.recvCount + k)) (h : Due C session bound e) :
    Due C (read session theirs chain k) bound e := by
  cases h with
  | stored key kept opens => exact .stored key (passed_kept chain k hf ht kept) opens
  | ahead chain' theirs' reading from_ before opens =>
    obtain rfl : chain = chain' := Option.some.inj (hc.symm.trans reading)
    obtain rfl : theirs = e.header.dh := Option.some.inj (ht.symm.trans theirs')
    by_cases hn : e.header.n < session.recvCount + k
    · refine .stored _ ?_ opens
      have := passed_lookup session e.header.dh chain k e.header.dh e.header.n
      rwa [if_pos ⟨rfl, from_, hn⟩] at this
    · have hne : e.header.n ≠ session.recvCount + k := fun h => hl (by rw [Sealed.label, h])
      refine .ahead (advance P (k + 1) chain) ht rfl ?_ before ?_
      · simp only [read]
        omega
      · have hs : (e.header.n - session.recvCount).toNat =
            (e.header.n - (session.recvCount + k + 1)).toNat + (k + 1) := by omega
        rw [hs, ← advance_add] at opens
        exact opens

lemma erase_due {session : Session P} {bound : ℤ} {e : Sealed P} {key : String}
    (hl : e.label ≠ key) (h : Due C session bound e) :
    Due C { session with skipped := session.skipped.erase key } bound e := by
  cases h with
  | stored k kept opens => exact .stored k ((AList.lookup_erase_ne hl).trans kept) opens
  | ahead chain theirs reading from_ before opens =>
    exact .ahead chain theirs reading from_ before opens

lemma erase_filed {drawn : List String} {session : Session P} (key : String)
    (hf : Filed drawn session) :
    Filed drawn { session with skipped := session.skipped.erase key } := by
  intro k hk
  exact hf k (AList.mem_erase.mp hk).2

/-! ### Turning -/

lemma closed_filed {drawn : List String} {session : Session P} (header : RatchetHeader)
    (hf : Filed drawn session) (hd : ∀ dh, session.theirRatchet = some dh → dh ∈ drawn) :
    Filed drawn (closed session header) := by
  unfold closed
  split
  · next chain theirs _ ht => exact passed_filed chain _ hf (hd theirs ht)
  · exact hf

lemma closed_kept {drawn : List String} {session : Session P} {header : RatchetHeader}
    {e : Sealed P} (hf : Filed drawn session) (h : Due C session header.pn e) :
    ∃ key, (closed session header).skipped.lookup e.label = some key ∧ e.OpensWith C key := by
  cases h with
  | stored key kept opens =>
    refine ⟨key, ?_, opens⟩
    unfold closed
    split
    · next chain theirs _ ht => exact passed_kept chain _ hf ht kept
    · exact kept
  | ahead chain theirs reading from_ before opens =>
    refine ⟨_, ?_, opens⟩
    simp only [closed, reading, theirs, Sealed.label, passed_lookup]
    rw [if_pos ⟨trivial, from_, by omega⟩]

lemma filed_fresh {drawn : List String} {session : Session P} {dh : String} (n : ℤ)
    (hf : Filed drawn session) (hd : dh ∉ drawn) : skippedKey dh n ∉ session.skipped := by
  intro hm
  obtain ⟨d, m, he, hdm, -⟩ := hf _ hm
  obtain ⟨rfl, rfl⟩ := skippedKey_inj.mp he
  exact hd hdm

lemma closed_unfiled {session : Session P} {dh : String} (header : RatchetHeader)
    (hd : session.theirRatchet ≠ some dh) (hu : ∀ n, skippedKey dh n ∉ session.skipped) (n : ℤ) :
    skippedKey dh n ∉ (closed session header).skipped := by
  unfold closed
  split
  · next chain theirs _ ht =>
    intro hm
    rcases skipLoop_mem _ _ _ _ _ hm with hm | ⟨m, -, -, he⟩
    · exact hu n hm
    · exact hd (ht.trans (by rw [(skippedKey_inj.mp he).1]))
  · exact hu n

lemma turned_filed {drawn : List String} {session : Session P} {dh : String} {rnd : P.Secret}
    {receive : P.Key × P.Key} {dhSend : P.Key} (hf : Filed drawn session)
    (hu : ∀ n, skippedKey dh n ∉ session.skipped) :
    Filed drawn (turned session dh rnd receive dhSend) := by
  intro key hk
  obtain ⟨d, n, rfl, hd, -⟩ := hf key hk
  refine ⟨d, n, rfl, hd, fun h => ?_⟩
  obtain rfl : dh = d := Option.some.inj h
  exact absurd hk (hu n)

/-! ### The two ends together -/

/-- `leader` turned last and `trailer` has not read from its new chain yet. -/
structure Aligned (C : Codec P) (drawn : List String) (leader trailer : Session P)
    (toLeader toTrailer : List (Sealed P)) : Prop where
  publicL : leader.myRatchetPublic = P.keyText (P.getPublicKey leader.myRatchetPrivate)
  publicT : trailer.myRatchetPublic = P.keyText (P.getPublicKey trailer.myRatchetPrivate)
  drawnL : leader.myRatchetPublic ∈ drawn
  drawnT : trailer.myRatchetPublic ∈ drawn
  heard : leader.theirRatchet = some trailer.myRatchetPublic
  heardT : ∀ dh, trailer.theirRatchet = some dh → dh ∈ drawn
  news : trailer.theirRatchet ≠ some leader.myRatchetPublic
  opened : trailer.recvChain.isSome → trailer.theirRatchet.isSome
  /-- The trailer will derive the leader's root and chain when it turns. -/
  forth : ∃ chain, turnKeys C trailer leader.myRatchetPublic = some (leader.rootKey, chain) ∧
    leader.sendChain = some (advance P leader.sendCount.toNat chain)
  back : (trailer.sendChain = none ∧ leader.recvChain = none) ∨
    ∃ chain, leader.recvChain = some chain ∧ leader.recvCount ≤ trailer.sendCount ∧
      trailer.sendChain = some (advance P (trailer.sendCount - leader.recvCount).toNat chain)
  countL : 0 ≤ leader.sendCount
  countT : 0 ≤ trailer.sendCount
  filedL : Filed drawn leader
  filedT : Filed drawn trailer
  unfiled : ∀ n, skippedKey leader.myRatchetPublic n ∉ trailer.skipped
  dueL : ∀ e ∈ toLeader, Due C leader trailer.sendCount e
  dueT : ∀ e ∈ toTrailer,
    Due C trailer leader.previousSendCount e ∨ News C leader trailer e
  seenL : ∀ e ∈ toLeader, e.header.dh ∈ drawn ∧
    (e.header.dh = trailer.myRatchetPublic → e.header.n < trailer.sendCount)
  seenT : ∀ e ∈ toTrailer, e.header.dh ∈ drawn ∧
    (e.header.dh = leader.myRatchetPublic → e.header.n < leader.sendCount)
  distinctL : (toLeader.map Sealed.label).Nodup
  distinctT : (toTrailer.map Sealed.label).Nodup

lemma ratchetEncrypt_eq_some {session session' : Session P} {plaintext : String}
    {aad : P.Bytes} {header : RatchetHeader} {ciphertext : P.Text}
    (h : ratchetEncrypt session plaintext aad = some (session', header, ciphertext)) :
    ∃ chain, session.sendChain = some chain ∧
      session' = { session with
        sendChain := some (chainStep P chain).2, sendCount := session.sendCount + 1 } ∧
      header = ⟨session.myRatchetPublic, session.previousSendCount, session.sendCount,
        session.pending⟩ ∧
      ciphertext = P.toB64 (messageEncrypt P (chainStep P chain).1 aad
        (P.utf8ToBytes plaintext)) := by
  simp only [ratchetEncrypt, Option.bind_eq_bind, Option.bind_eq_some_iff, Option.some.injEq,
    Prod.mk.injEq] at h
  obtain ⟨chain, hc, rfl, rfl, rfl⟩ := h
  exact ⟨chain, hc, rfl, rfl, rfl⟩

variable {drawn : List String} {leader trailer session' : Session P}
  {toLeader toTrailer : List (Sealed P)} {plaintext : String} {aad : P.Bytes}
  {header : RatchetHeader} {ciphertext : P.Text}

lemma Aligned.seal_leader (hI : Ideal P C)
    (h : Aligned C drawn leader trailer toLeader toTrailer)
    (hs : ratchetEncrypt leader plaintext aad = some (session', header, ciphertext)) :
    Aligned C drawn session' trailer toLeader
      (⟨header, ciphertext, aad, plaintext⟩ :: toTrailer) := by
  obtain ⟨sendChain, hc, rfl, rfl, rfl⟩ := ratchetEncrypt_eq_some hs
  obtain ⟨chain, hturn, hsend⟩ := h.forth
  obtain rfl : sendChain = advance P leader.sendCount.toNat chain :=
    Option.some.inj (hc.symm.trans hsend)
  have hcount := h.countL
  refine { h with forth := ⟨chain, hturn, ?_⟩, countL := ?_, dueL := ?_, dueT := ?_,
                  seenT := ?_, distinctT := ?_ }
  · have : (leader.sendCount + 1).toNat = leader.sendCount.toNat + 1 := by omega
    simp only [this, advance_succ']
  · simp only
    omega
  · exact fun e he => (h.dueL e he).congr rfl rfl rfl rfl
  · intro e he
    rcases List.mem_cons.mp he with rfl | he
    · refine Or.inr ⟨rfl, hcount, by simp, rfl, fun receive hr => ?_⟩
      obtain rfl : (leader.rootKey, chain) = receive := Option.some.inj (hturn.symm.trans hr)
      exact openWith_encrypt hI _ _ _
    · rcases h.dueT e he with hd | hn
      · exact Or.inl hd
      · exact Or.inr ⟨hn.dh, hn.nonneg, hn.before.trans (lt_add_one _), hn.pn, hn.opens⟩
  · intro e he
    rcases List.mem_cons.mp he with rfl | he
    · exact ⟨h.drawnL, fun _ => lt_add_one _⟩
    · exact ⟨(h.seenT e he).1, fun hd => ((h.seenT e he).2 hd).trans (lt_add_one _)⟩
  · refine List.nodup_cons.mpr ⟨fun hm => ?_, h.distinctT⟩
    obtain ⟨e, he, hl⟩ := List.mem_map.mp hm
    obtain ⟨hd, hn⟩ := skippedKey_inj.mp hl
    have := (h.seenT e he).2 hd
    simp only at hn
    omega

lemma Aligned.seal_trailer (hI : Ideal P C)
    (h : Aligned C drawn leader trailer toLeader toTrailer)
    (hs : ratchetEncrypt trailer plaintext aad = some (session', header, ciphertext)) :
    Aligned C drawn leader session' (⟨header, ciphertext, aad, plaintext⟩ :: toLeader)
      toTrailer := by
  obtain ⟨sendChain, hc, rfl, rfl, rfl⟩ := ratchetEncrypt_eq_some hs
  obtain ⟨chain, hreading, hbehind, hsend⟩ : ∃ chain, leader.recvChain = some chain ∧
      leader.recvCount ≤ trailer.sendCount ∧
      trailer.sendChain = some (advance P (trailer.sendCount - leader.recvCount).toNat chain) := by
    rcases h.back with ⟨hnone, -⟩ | hback
    · rw [hc] at hnone
      cases hnone
    · exact hback
  obtain rfl := Option.some.inj (hc.symm.trans hsend)
  have hcount := h.countT
  refine { h with back := Or.inr ⟨chain, hreading, ?_, ?_⟩, countT := ?_, dueL := ?_, dueT := ?_,
                  seenL := ?_, distinctL := ?_ }
  · simp only
    omega
  · have : (trailer.sendCount + 1 - leader.recvCount).toNat =
        (trailer.sendCount - leader.recvCount).toNat + 1 := by omega
    simp only [this, advance_succ']
  · simp only
    omega
  · intro e he
    rcases List.mem_cons.mp he with rfl | he
    · exact .ahead chain h.heard hreading hbehind (lt_add_one _) (openWith_encrypt hI _ _ _)
    · exact due_mono (h.dueL e he) (le_of_lt (lt_add_one _))
  · intro e he
    rcases h.dueT e he with hd | hn
    · exact Or.inl (hd.congr rfl rfl rfl rfl)
    · exact Or.inr ⟨hn.dh, hn.nonneg, hn.before, hn.pn, hn.opens⟩
  · intro e he
    rcases List.mem_cons.mp he with rfl | he
    · exact ⟨h.drawnT, fun _ => lt_add_one _⟩
    · exact ⟨(h.seenL e he).1, fun hd => ((h.seenL e he).2 hd).trans (lt_add_one _)⟩
  · refine List.nodup_cons.mpr ⟨fun hm => ?_, h.distinctL⟩
    obtain ⟨e, he, hl⟩ := List.mem_map.mp hm
    obtain ⟨hd, hn⟩ := skippedKey_inj.mp hl
    have := (h.seenL e he).2 hd
    simp only at hn
    omega

structure Advanced (C : Codec P) (drawn : List String) (bound : ℤ) (session session' : Session P)
    (e : Sealed P) : Prop where
  rootKey : session'.rootKey = session.rootKey
  myRatchetPrivate : session'.myRatchetPrivate = session.myRatchetPrivate
  myRatchetPublic : session'.myRatchetPublic = session.myRatchetPublic
  theirRatchet : session'.theirRatchet = session.theirRatchet
  sendChain : session'.sendChain = session.sendChain
  sendCount : session'.sendCount = session.sendCount
  previousSendCount : session'.previousSendCount = session.previousSendCount
  recvChain : ∃ k : ℕ, session'.recvChain = session.recvChain.map (advance P k) ∧
    session'.recvCount = session.recvCount + k ∧ (k = 0 ∨ session'.recvCount ≤ bound)
  skipped : ∀ key ∈ session'.skipped, key ∈ session.skipped ∨
    ∃ dh n, session.theirRatchet = some dh ∧ key = skippedKey dh n
  filed : Filed drawn session'
  due : ∀ e', e'.label ≠ e.label → Due C session bound e' → Due C session' bound e'

lemma due_decrypt {session : Session P} {bound : ℤ} {e : Sealed P} (rnd : P.Secret)
    (hf : Filed drawn session) (hd : e.header.dh ∈ drawn) (h : Due C session bound e)
    (hfit : Fits session e.header) :
    ∃ session', ratchetDecrypt C session e.header e.ciphertext e.aad rnd =
        some (session', e.plaintext) ∧ Advanced C drawn bound session session' e := by
  cases h with
  | stored key kept opens =>
    refine ⟨_, ratchetDecrypt_stored rnd kept opens, rfl, rfl, rfl, rfl, rfl, rfl, rfl,
      ⟨0, ?_, by simp, Or.inl rfl⟩, fun key hk => Or.inl (AList.mem_erase.mp hk).2,
      erase_filed _ hf, fun e' hl hdue => erase_due hl hdue⟩
    simp only
    cases session.recvChain <;> rfl
  | ahead chain theirs reading from_ before opens =>
    have hnone := filed_lookup hf theirs from_
    refine ⟨_, ratchetDecrypt_ahead rnd hnone theirs reading hfit opens, rfl, rfl, rfl, rfl, rfl,
      rfl, rfl, ⟨(e.header.n - session.recvCount).toNat + 1, ?_, ?_, Or.inr ?_⟩, ?_, ?_, ?_⟩
    · simp [read, reading]
    · simp only [read]
      push_cast
      ring
    · simp only [read]
      omega
    · intro key hk
      rcases skipLoop_mem _ _ _ _ _ hk with hk | ⟨m, -, -, rfl⟩
      · exact Or.inl hk
      · exact Or.inr ⟨_, m, theirs, rfl⟩
    · exact read_filed chain _ hf hd
    · intro e' hl hdue
      refine read_due hf theirs reading ?_ hdue
      have : session.recvCount + ((e.header.n - session.recvCount).toNat : ℤ) = e.header.n := by
        omega
      rw [this]
      exact hl

lemma nodup_labels_middle {before after : List (Sealed P)} {e : Sealed P}
    (h : ((before ++ e :: after).map Sealed.label).Nodup) :
    ((before ++ after).map Sealed.label).Nodup ∧
      ∀ e' ∈ before ++ after, e'.label ≠ e.label := by
  have hp : (before ++ e :: after).Perm (e :: (before ++ after)) := List.perm_middle
  have hn := ((hp.map Sealed.label).nodup_iff).mp h
  obtain ⟨hm, hn⟩ := List.nodup_cons.mp hn
  exact ⟨hn, fun e' he' hl => hm (hl ▸ List.mem_map_of_mem he')⟩

lemma mem_middle {before after : List (Sealed P)} (e : Sealed P) {e' : Sealed P}
    (h : e' ∈ before ++ after) : e' ∈ before ++ e :: after :=
  (List.sublist_cons_self e after |>.append_left before).subset h

variable {before after : List (Sealed P)} {e : Sealed P}

lemma Aligned.read_leader (rnd : P.Secret)
    (h : Aligned C drawn leader trailer (before ++ e :: after) toTrailer)
    (hfit : Fits leader e.header) :
    ∃ leader', ratchetDecrypt C leader e.header e.ciphertext e.aad rnd =
        some (leader', e.plaintext) ∧
      Aligned C drawn leader' trailer (before ++ after) toTrailer := by
  have he : e ∈ before ++ e :: after := by simp
  obtain ⟨leader', hdec, ha⟩ := due_decrypt rnd h.filedL (h.seenL e he).1 (h.dueL e he) hfit
  obtain ⟨hn, hne⟩ := nodup_labels_middle h.distinctL
  refine ⟨leader', hdec, { h with publicL := ?_, drawnL := ?_, heard := ?_, news := ?_,
                                  forth := ?_, back := ?_, countL := ?_, filedL := ha.filed,
                                  unfiled := ?_, dueL := ?_, dueT := ?_, seenL := ?_,
                                  seenT := ?_, distinctL := hn }⟩
  · rw [ha.myRatchetPublic, ha.myRatchetPrivate, h.publicL]
  · rw [ha.myRatchetPublic]
    exact h.drawnL
  · rw [ha.theirRatchet, h.heard]
  · rw [ha.myRatchetPublic]
    exact h.news
  · rw [ha.myRatchetPublic, ha.rootKey, ha.sendChain, ha.sendCount]
    exact h.forth
  · obtain ⟨k, hchain, hcount, hbound⟩ := ha.recvChain
    rcases h.back with ⟨hnone, hclosed⟩ | ⟨chain, hreading, hbehind, hsend⟩
    · exact Or.inl ⟨hnone, by rw [hchain, hclosed]; rfl⟩
    · refine Or.inr ⟨advance P k chain, by rw [hchain, hreading]; rfl, by omega, ?_⟩
      rw [hsend, advance_add]
      congr 2
      omega
  · rw [ha.sendCount]
    exact h.countL
  · rw [ha.myRatchetPublic]
    exact h.unfiled
  · exact fun e' he' => ha.due e' (hne e' he') (h.dueL e' (mem_middle e he'))
  · intro e' he'
    rw [ha.previousSendCount]
    refine (h.dueT e' he').imp_right fun hn => ⟨?_, hn.nonneg, ?_, ?_, ?_⟩
    · rw [ha.myRatchetPublic, hn.dh]
    · rw [ha.sendCount]
      exact hn.before
    · rw [ha.previousSendCount, hn.pn]
    · rw [ha.myRatchetPublic]
      exact hn.opens
  · exact fun e' he' => h.seenL e' (mem_middle e he')
  · rw [ha.myRatchetPublic, ha.sendCount]
    exact h.seenT

lemma Aligned.read_trailer (rnd : P.Secret)
    (h : Aligned C drawn leader trailer toLeader (before ++ e :: after))
    (hdue : Due C trailer leader.previousSendCount e) (hfit : Fits trailer e.header) :
    ∃ trailer', ratchetDecrypt C trailer e.header e.ciphertext e.aad rnd =
        some (trailer', e.plaintext) ∧
      Aligned C drawn leader trailer' toLeader (before ++ after) := by
  have he : e ∈ before ++ e :: after := by simp
  obtain ⟨trailer', hdec, ha⟩ := due_decrypt rnd h.filedT (h.seenT e he).1 hdue hfit
  obtain ⟨hn, hne⟩ := nodup_labels_middle h.distinctT
  have hturn : ∀ dh, turnKeys C trailer' dh = turnKeys C trailer dh := by
    intro dh
    simp only [turnKeys, ha.rootKey, ha.myRatchetPrivate]
  refine ⟨trailer', hdec, { h with publicT := ?_, drawnT := ?_, heard := ?_, heardT := ?_,
                                   news := ?_, opened := ?_, forth := ?_, back := ?_,
                                   countT := ?_, filedT := ha.filed, unfiled := ?_, dueL := ?_,
                                   dueT := ?_, seenL := ?_, seenT := ?_, distinctT := hn }⟩
  · rw [ha.myRatchetPublic, ha.myRatchetPrivate, h.publicT]
  · rw [ha.myRatchetPublic]
    exact h.drawnT
  · rw [ha.myRatchetPublic, h.heard]
  · rw [ha.theirRatchet]
    exact h.heardT
  · rw [ha.theirRatchet]
    exact h.news
  · obtain ⟨k, hchain, -, -⟩ := ha.recvChain
    rw [hchain, ha.theirRatchet, Option.isSome_map]
    exact h.opened
  · rw [hturn]
    exact h.forth
  · rw [ha.sendChain, ha.sendCount]
    exact h.back
  · rw [ha.sendCount]
    exact h.countT
  · intro n hm
    rcases ha.skipped _ hm with hm | ⟨dh, m, ht, hl⟩
    · exact h.unfiled n hm
    · exact h.news (ht.trans (by rw [(skippedKey_inj.mp hl).1]))
  · rw [ha.sendCount]
    exact h.dueL
  · intro e' he'
    rcases h.dueT e' (mem_middle e he') with hd | hnews
    · exact Or.inl (ha.due e' (hne e' he') hd)
    · exact Or.inr ⟨hnews.dh, hnews.nonneg, hnews.before, hnews.pn,
        fun receive hr => hnews.opens receive ((hturn _).symm.trans hr)⟩
  · rw [ha.myRatchetPublic, ha.sendCount]
    exact h.seenL
  · exact fun e' he' => h.seenT e' (mem_middle e he')

theorem Aligned.read_news (hI : Ideal P C) {rnd : P.Secret}
    (h : Aligned C drawn leader trailer toLeader (before ++ e :: after))
    (hnews : News C leader trailer e) (hfit : Fits trailer e.header)
    (hfresh : P.keyText (P.getPublicKey rnd) ∉ drawn) :
    ∃ trailer', ratchetDecrypt C trailer e.header e.ciphertext e.aad rnd =
        some (trailer', e.plaintext) ∧
      Aligned C (P.keyText (P.getPublicKey rnd) :: drawn) trailer' leader (before ++ after)
        toLeader := by
  have he : e ∈ before ++ e :: after := by simp
  obtain ⟨hn, hne⟩ := nodup_labels_middle h.distinctT
  obtain ⟨chain, hturn, hsend⟩ := h.forth
  obtain ⟨dhSend, hagree, hagree'⟩ := hI.agree rnd leader.myRatchetPrivate
  have hdh : C.publicOf e.header.dh = some (P.getPublicKey leader.myRatchetPrivate) := by
    rw [hnews.dh, h.publicL]
    exact hI.publicOf_keyText _
  have hnone : trailer.skipped.lookup (skippedKey e.header.dh e.header.n) = none := by
    rw [AList.lookup_eq_none, hnews.dh]
    exact h.unfiled _
  have hnot : trailer.theirRatchet ≠ some e.header.dh := by
    rw [hnews.dh]
    exact h.news
  have hdec := ratchetDecrypt_next hnone hnot h.opened hfit hdh (by rw [hnews.dh]; exact hturn)
    hagree (hnews.opens _ hturn)
  -- the session between closing and reading
  have hsub : drawn ⊆ P.keyText (P.getPublicKey rnd) :: drawn := List.subset_cons_self _ _
  have hclosed : Filed drawn (closed trailer e.header) := closed_filed _ h.filedT h.heardT
  have hunfiled : ∀ n, skippedKey e.header.dh n ∉ (closed trailer e.header).skipped :=
    closed_unfiled e.header hnot (by rw [hnews.dh]; exact h.unfiled)
  have hfiled : Filed drawn (turned (closed trailer e.header) e.header.dh rnd
      (leader.rootKey, chain) dhSend) := turned_filed hclosed hunfiled
  have hcount : (closed trailer e.header).sendCount = trailer.sendCount := by
    unfold closed
    split <;> rfl
  have hnat : ((e.header.n.toNat : ℕ) : ℤ) = e.header.n := Int.toNat_of_nonneg hnews.nonneg
  have hbefore := hnews.before
  have hdrawn : e.header.dh ∈ drawn := (h.seenT e he).1
  refine ⟨_, hdec, ?_⟩
  exact {
    publicL := rfl
    publicT := h.publicL
    drawnL := List.mem_cons_self
    drawnT := hsub h.drawnL
    heard := by
      rw [← hnews.dh]
      rfl
    heardT := by
      intro dh hd
      obtain rfl := Option.some.inj (h.heard.symm.trans hd)
      exact hsub h.drawnT
    news := by
      rw [h.heard]
      intro hd
      have : trailer.myRatchetPublic = P.keyText (P.getPublicKey rnd) := Option.some.inj hd
      exact hfresh (this ▸ h.drawnT)
    opened := by simp [h.heard]
    forth := by
      refine ⟨(rootStep P leader.rootKey dhSend).2, ?_, rfl⟩
      simp only [turnKeys, read, passed, turned, hI.publicOf_keyText, hagree',
        Option.bind_eq_bind, Option.bind_some]
    back := by
      refine Or.inr ⟨advance P (e.header.n.toNat + 1) chain, rfl, ?_, ?_⟩
      · simp only [read, turned, hnat]
        omega
      · simp only [read, turned, hnat]
        rw [hsend, advance_add]
        congr 2
        omega
    countL := le_rfl
    countT := h.countL
    filedL := filed_mono (read_filed _ _ hfiled hdrawn) hsub
    filedT := filed_mono h.filedL hsub
    unfiled := fun n => filed_fresh n h.filedL hfresh
    dueL := by
      intro e' he'
      refine read_due hfiled rfl rfl ?_ ?_
      · simp only [turned, hnat, zero_add]
        exact hne e' he'
      · rcases h.dueT e' (mem_middle e he') with hd | hn'
        · rw [← hnews.pn] at hd
          obtain ⟨key, kept, opens⟩ := closed_kept h.filedT hd
          exact .stored key kept opens
        · refine .ahead chain ?_ rfl hn'.nonneg hn'.before ?_
          · rw [hn'.dh, hnews.dh]
            rfl
          · simpa [turned] using hn'.opens _ hturn
    dueT := by
      intro e' he'
      refine Or.inl ?_
      have : (read (turned (closed trailer e.header) e.header.dh rnd (leader.rootKey, chain)
        dhSend) e.header.dh chain e.header.n.toNat).previousSendCount = trailer.sendCount := hcount
      rw [this]
      exact h.dueL e' he'
    seenL := by
      intro e' he'
      exact ⟨hsub (h.seenT e' (mem_middle e he')).1, (h.seenT e' (mem_middle e he')).2⟩
    seenT := by
      intro e' he'
      refine ⟨hsub (h.seenL e' he').1, fun hd => ?_⟩
      have : e'.header.dh = P.keyText (P.getPublicKey rnd) := hd
      exact absurd (this ▸ (h.seenL e' he').1) hfresh
    distinctL := hn
    distinctT := h.distinctL }

lemma Aligned.mono {drawn' : List String}
    (h : Aligned C drawn leader trailer toLeader toTrailer) (hd : drawn ⊆ drawn') :
    Aligned C drawn' leader trailer toLeader toTrailer :=
  { h with
    drawnL := hd h.drawnL
    drawnT := hd h.drawnT
    heardT := fun dh ht => hd (h.heardT dh ht)
    filedL := filed_mono h.filedL hd
    filedT := filed_mono h.filedT hd
    seenL := fun e he => (h.seenL e he).imp_left (@hd _)
    seenT := fun e he => (h.seenT e he).imp_left (@hd _) }

end Yappy.Ratchet
