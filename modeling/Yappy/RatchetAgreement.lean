import Yappy.RatchetPlatforms
import Yappy.RatchetTwoParty

/-!
# The three ratchets agree

Fed the same messages from the same session, the web, Android and iOS ratchets accept the same
ones, read the same texts and end in the same session, as long as no message meets one of the
places where the copies differ: a body that is a bare tag, an eviction, a counter beyond 32
bits, or a text that the platforms' decoders treat differently.
-/
namespace Yappy.Ratchet
variable {P : Primitives}

/-- A message as it reaches a client, and the secret the client draws should it turn. -/
structure Incoming (P : Primitives) where
  header : RatchetHeader
  ciphertext : P.Text
  aad : P.Bytes
  myRatchet : P.Secret

/-- Read messages one after another. A message that is refused leaves the session alone. -/
def readAll (decrypt : Session P → Incoming P → Option (Session P × String)) :
    Session P → List (Incoming P) → Session P × List (Option String)
  | session, [] => (session, [])
  | session, m :: ms =>
    match decrypt session m with
    | some (next, plaintext) =>
      ((readAll decrypt next ms).1, some plaintext :: (readAll decrypt next ms).2)
    | none => ((readAll decrypt session ms).1, none :: (readAll decrypt session ms).2)

def webDecrypt (C : Codec P) (session : Session P) (m : Incoming P) :
    Option (Session P × String) :=
  ratchetDecrypt C session m.header m.ciphertext m.aad m.myRatchet

def androidDecrypt (C : Codec P) (session : Session P) (m : Incoming P) :
    Option (Session P × String) :=
  Kotlin.decrypt C session m.header m.ciphertext m.aad m.myRatchet

def iosDecrypt (C : Codec P) (session : Session P) (m : Incoming P) :
    Option (Session P × String) :=
  Swift.decrypt C session m.header m.ciphertext m.aad m.myRatchet

/-! ### When the copies agree on one message -/

/-- Two platforms' decoders read the message alike: its base64 texts, and whatever opens. -/
structure DecodedAlike (web other : Codec P) (m : Incoming P) : Prop where
  ciphertext : other.fromB64 m.ciphertext = web.fromB64 m.ciphertext
  key : other.publicOf m.header.dh = web.publicOf m.header.dh
  text : ∀ body key nonce plain, web.fromB64 m.ciphertext = some body →
    P.decrypt key nonce m.aad body = some plain → other.decode plain = web.decode plain

def startCount (session : Session P) (header : RatchetHeader) : ℤ :=
  if session.theirRatchet = some header.dh then session.recvCount else 0

def closingGap (session : Session P) (header : RatchetHeader) : ℕ :=
  if session.theirRatchet ≠ some header.dh ∧ session.recvChain.isSome ∧
      session.theirRatchet.isSome
  then (header.pn - session.recvCount).toNat else 0

def readingGap (session : Session P) (header : RatchetHeader) : ℕ :=
  (header.n - startCount session header).toNat

/-- No counter leaves 32 bits. -/
structure Counts (session : Session P) (header : RatchetHeader) : Prop where
  closing : session.theirRatchet ≠ some header.dh → session.recvChain.isSome →
    session.theirRatchet.isSome → Kotlin.Holds (header.pn - session.recvCount)
  reading : Kotlin.Holds (header.n - startCount session header)
  next : Kotlin.Holds (startCount session header + 1) ∧
    Kotlin.Holds (max header.n (startCount session header) + 1)

/-- No walk that is not refused fills the store of skipped keys beyond its cap. -/
def Room (session : Session P) (header : RatchetHeader) : Prop :=
  (closingGap session header : ℤ) ≤ maxSkip →
    OrderedMap.size session.skipped + closingGap session header ≤ maxSkippedKept ∧
    ((readingGap session header : ℤ) ≤ maxSkip →
      OrderedMap.size session.skipped + closingGap session header + readingGap session header
        ≤ maxSkippedKept)

/-- The message meets none of the places where the three copies differ. -/
structure Alike (web android ios : Codec P) (session : Session P) (m : Incoming P) : Prop where
  android : DecodedAlike web android m
  ios : DecodedAlike web ios m
  /-- The body is not a bare tag, as the seal of the empty text is. -/
  nonempty : ∀ body, web.fromB64 m.ciphertext = some body → P.size body ≠ 16
  counts : session.skipped.lookup (skippedKey m.header.dh m.header.n) = none →
    Counts session m.header
  room : session.skipped.lookup (skippedKey m.header.dh m.header.n) = none →
    Room session m.header

/-- Every message of the run meets `Alike` in the session it is read with. -/
def AlikeAlong (web android ios : Codec P) : Session P → List (Incoming P) → Prop
  | _, [] => True
  | session, m :: ms => Alike web android ios session m ∧
    AlikeAlong web android ios (((webDecrypt web session m).map Prod.fst).getD session) ms

variable {web other : Codec P} {session : Session P} {m : Incoming P}

lemma DecodedAlike.openWith_eq (h : DecodedAlike web other m) (key : P.Key) :
    openWith other key m.aad m.ciphertext = openWith web key m.aad m.ciphertext := by
  unfold openWith
  rw [h.ciphertext]
  cases hb : web.fromB64 m.ciphertext with
  | none => rfl
  | some body =>
    cases hp : messageDecrypt P key m.aad body with
    | none => simp [hp]
    | some plain => simp [hp, h.text body _ _ plain hb hp]

lemma DecodedAlike.openBody_eq (h : DecodedAlike web other m) {body : P.Bytes}
    (hb : web.fromB64 m.ciphertext = some body) (key : P.Key) :
    Swift.openBody other key m.aad body = openWith web key m.aad m.ciphertext := by
  rw [← h.openWith_eq]
  unfold Swift.openBody openWith
  rw [h.ciphertext, hb]
  rfl

lemma DecodedAlike.turn_eq (h : DecodedAlike web other m) (session : Session P) :
    turn other session m.header.dh m.myRatchet = turn web session m.header.dh m.myRatchet := by
  unfold turn
  rw [h.key]

/-! ### What the walks do to the counters and to the store -/

lemma skipTo_recvCount {next : Session P} {limit : ℤ} (h : skipTo session limit = some next) :
    next.recvCount = session.recvCount ∨ next.recvCount = max limit session.recvCount := by
  unfold skipTo at h
  cases hc : session.recvChain with
  | none =>
    simp only [hc, Option.some.injEq] at h
    exact Or.inl (h ▸ rfl)
  | some chain =>
    cases ht : session.theirRatchet with
    | none =>
      simp only [hc, ht, Option.some.injEq] at h
      exact Or.inl (h ▸ rfl)
    | some theirs =>
      simp only [hc, ht, skipLoop_chain] at h
      split_ifs at h
      obtain rfl := Option.some.inj h
      right
      simp only
      omega

lemma turn_fresh {next : Session P} {dh : String} {rnd : P.Secret}
    (h : turn web session dh rnd = some next) :
    next.recvCount = 0 ∧ next.skipped = session.skipped ∧ next.theirRatchet = some dh := by
  simp only [turn, Option.bind_eq_bind, Option.bind_eq_some_iff] at h
  obtain ⟨_, -, _, -, _, -, hnext⟩ := h
  obtain rfl := Option.some.inj hnext
  exact ⟨rfl, rfl, rfl⟩

lemma closing_size {next : Session P} {header : RatchetHeader}
    (hroom : Room session header) (ht : session.theirRatchet ≠ some header.dh)
    (h : skipTo session header.pn = some next) :
    (closingGap session header : ℤ) ≤ maxSkip ∧
      OrderedMap.size next.skipped ≤
        OrderedMap.size session.skipped + closingGap session header := by
  have hzero : (0 : ℤ) ≤ maxSkip := by decide
  cases hc : session.recvChain with
  | none =>
    rw [skipTo_none _ hc] at h
    obtain rfl := Option.some.inj h
    simp [closingGap, hc, hzero]
  | some chain =>
    cases hth : session.theirRatchet with
    | none =>
      simp only [skipTo, hc, hth, Option.some.injEq] at h
      subst h
      simp [closingGap, hth, hzero]
    | some theirs =>
      have hgap : closingGap session header = (header.pn - session.recvCount).toNat := by
        simp only [closingGap, hc, hth, Option.isSome_some, and_true, ite_eq_left_iff]
        intro hno
        exact absurd (hth ▸ ht) hno
      by_cases hfar : header.pn - session.recvCount > maxSkip
      · simp [skipTo, hc, hth, hfar] at h
      · have hle : (closingGap session header : ℤ) ≤ maxSkip := by omega
        rw [skipTo_within hc hth (by omega) (hgap ▸ (hroom hle).1)] at h
        obtain rfl := Option.some.inj h
        refine ⟨hle, ?_⟩
        rw [hgap]
        exact skipLoop_size _ _ _ _ _

lemma follow_recvCount {next : Session P} {header : RatchetHeader} {rnd : P.Secret}
    (h : follow web session header rnd = some next) :
    next.recvCount = startCount session header := by
  unfold follow at h
  by_cases ht : session.theirRatchet = some header.dh
  · rw [if_neg (not_not.mpr ht.symm)] at h
    obtain rfl := Option.some.inj h
    simp [startCount, ht]
  · rw [if_pos (Ne.symm ht)] at h
    obtain ⟨closed, -, hturn⟩ := Option.bind_eq_some_iff.mp h
    simp [startCount, ht, (turn_fresh hturn).1]

lemma follow_room {next : Session P} {header : RatchetHeader} {rnd : P.Secret}
    (hroom : Room session header) (h : follow web session header rnd = some next)
    (hread : (readingGap session header : ℤ) ≤ maxSkip) :
    OrderedMap.size next.skipped + readingGap session header ≤ maxSkippedKept := by
  unfold follow at h
  by_cases ht : session.theirRatchet = some header.dh
  · have hgap : closingGap session header = 0 := by simp [closingGap, ht]
    rw [if_neg (not_not.mpr ht.symm)] at h
    obtain rfl := Option.some.inj h
    have := (hroom (by simp [hgap, maxSkip])).2 hread
    omega
  · rw [if_pos (Ne.symm ht)] at h
    obtain ⟨closed, hclosed, hturn⟩ := Option.bind_eq_some_iff.mp h
    obtain ⟨-, hskipped, -⟩ := turn_fresh hturn
    obtain ⟨hle, hsize⟩ := closing_size hroom ht hclosed
    have := (hroom hle).2 hread
    rw [hskipped]
    omega

/-! ### One message -/

variable {android ios : Codec P}

lemma Kotlin.follow_eq (hd : DecodedAlike web android m) (hcounts : Counts session m.header) :
    Kotlin.follow android session m.header m.myRatchet =
      Ratchet.follow web session m.header m.myRatchet := by
  unfold Kotlin.follow Ratchet.follow
  by_cases ht : session.theirRatchet = some m.header.dh
  · rw [if_neg (not_not.mpr ht.symm), if_neg (not_not.mpr ht.symm)]
  · rw [if_pos (Ne.symm ht), if_pos (Ne.symm ht), Kotlin.skipTo_eq (hcounts.closing ht)]
    simp only [Kotlin.turn, hd.turn_eq]

lemma Swift.follow_eq (hd : DecodedAlike web ios m) (hroom : Room session m.header) :
    Swift.follow ios session m.header m.myRatchet =
      Ratchet.follow web session m.header m.myRatchet := by
  unfold Swift.follow Ratchet.follow
  by_cases ht : session.theirRatchet = some m.header.dh
  · rw [if_neg (not_not.mpr ht.symm), if_neg (not_not.mpr ht.symm)]
  · have hskip : Swift.skipTo session m.header.pn = Ratchet.skipTo session m.header.pn := by
      apply Swift.skipTo_eq
      intro hc hth hfar
      have hgap : closingGap session m.header = (m.header.pn - session.recvCount).toNat := by
        simp [closingGap, ht, hc, hth]
      have hzero : (0 : ℤ) ≤ maxSkip := by decide
      have := (hroom (by omega)).1
      omega
    rw [if_pos (Ne.symm ht), if_pos (Ne.symm ht), hskip]
    simp only [Swift.turn, hd.turn_eq]

lemma androidDecrypt_eq (h : Alike web android ios session m) :
    androidDecrypt android session m = webDecrypt web session m := by
  unfold androidDecrypt webDecrypt Kotlin.decrypt ratchetDecrypt
  cases hs : session.skipped.lookup (skippedKey m.header.dh m.header.n) with
  | some stored => simp only [h.android.openWith_eq]
  | none =>
    have hcounts := h.counts hs
    simp only [Kotlin.follow_eq h.android hcounts, h.android.openWith_eq]
    refine Option.bind_congr fun next hnext => ?_
    have hstart := follow_recvCount hnext
    rw [Kotlin.skipTo_eq fun _ _ => by rw [hstart]; exact hcounts.reading]
    refine Option.bind_congr fun caughtUp hcaught => ?_
    -- the count the session is left with does not wrap either
    have hint : Kotlin.int (caughtUp.recvCount + 1) = caughtUp.recvCount + 1 := by
      apply Kotlin.int_eq
      rcases skipTo_recvCount hcaught with hc | hc
      · rw [hc, hstart]
        exact hcounts.next.1
      · rw [hc, hstart]
        exact hcounts.next.2
    simp only [hint]

lemma openWith_short {C : Codec P} {aad : P.Bytes} {ciphertext : P.Text} (key : P.Key)
    (htag : ∀ key nonce aad body plain, P.decrypt key nonce aad body = some plain →
      16 ≤ P.size body)
    (hshort : ∀ body, C.fromB64 ciphertext = some body → P.size body < 16) :
    openWith C key aad ciphertext = none := by
  unfold openWith
  cases hb : C.fromB64 ciphertext with
  | none => rfl
  | some body =>
    cases hp : messageDecrypt P key aad body with
    | none => simp [hp]
    | some plain =>
      have := htag _ _ _ _ _ hp
      have := hshort body hb
      omega

lemma webDecrypt_short {C : Codec P}
    (hopen : ∀ key, openWith C key m.aad m.ciphertext = none) :
    webDecrypt C session m = none := by
  unfold webDecrypt ratchetDecrypt
  cases session.skipped.lookup (skippedKey m.header.dh m.header.n) with
  | some stored => simp [hopen]
  | none => simp [hopen]

lemma iosDecrypt_eq
    (htag : ∀ key nonce aad body plain, P.decrypt key nonce aad body = some plain →
      16 ≤ P.size body)
    (h : Alike web android ios session m) :
    iosDecrypt ios session m = webDecrypt web session m := by
  by_cases hlong : ∃ body, web.fromB64 m.ciphertext = some body ∧ 16 < P.size body
  · obtain ⟨body, hb, hsize⟩ := hlong
    have hb' : ios.fromB64 m.ciphertext = some body := h.ios.ciphertext.trans hb
    unfold iosDecrypt webDecrypt Swift.decrypt ratchetDecrypt
    rw [hb', Option.bind_eq_bind, Option.bind_some, if_neg (not_not.mpr hsize)]
    cases hs : session.skipped.lookup (skippedKey m.header.dh m.header.n) with
    | some stored => simp only [h.ios.openBody_eq hb]
    | none =>
      have hroom := h.room hs
      simp only [Swift.follow_eq h.ios hroom, h.ios.openBody_eq hb]
      refine Option.bind_congr fun next hnext => ?_
      rw [Swift.skipTo_eq]
      intro _ _ hfar
      have hgap : readingGap session m.header = (m.header.n - next.recvCount).toNat := by
        rw [readingGap, follow_recvCount hnext]
      have hzero : (0 : ℤ) ≤ maxSkip := by decide
      have := follow_room hroom hnext (by omega)
      omega
  · -- nothing opens such a body, whatever the key
    have hshort : ∀ body, web.fromB64 m.ciphertext = some body → P.size body < 16 := by
      intro body hb
      have := h.nonempty body hb
      have : ¬ 16 < P.size body := fun hsize => hlong ⟨body, hb, hsize⟩
      omega
    rw [webDecrypt_short fun key => openWith_short key htag hshort]
    unfold iosDecrypt Swift.decrypt
    cases hb : ios.fromB64 m.ciphertext with
    | none => rfl
    | some body =>
      have := hshort body (h.ios.ciphertext.symm.trans hb)
      rw [Option.bind_eq_bind, Option.bind_some, if_pos (by omega)]

/-! ### Whole runs -/

lemma readAll_cons {f g : Session P → Incoming P → Option (Session P × String)}
    {ms : List (Incoming P)} (hm : f session m = g session m)
    (hms : readAll f (((g session m).map Prod.fst).getD session) ms =
      readAll g (((g session m).map Prod.fst).getD session) ms) :
    readAll f session (m :: ms) = readAll g session (m :: ms) := by
  simp only [readAll, hm]
  cases hg : g session m with
  | none =>
    rw [hg] at hms
    simp only [Option.map_none, Option.getD_none] at hms
    simp only [hms]
  | some r =>
    rw [hg] at hms
    simp only [Option.map_some, Option.getD_some] at hms
    simp only [hms]

/-- From one session and through one sequence of messages, the three clients open the same
ones to the same texts and are left in the same session. -/
theorem readAll_agree
    (htag : ∀ key nonce aad body plain, P.decrypt key nonce aad body = some plain →
      16 ≤ P.size body)
    (session : Session P) (ms : List (Incoming P)) (h : AlikeAlong web android ios session ms) :
    readAll (androidDecrypt android) session ms = readAll (webDecrypt web) session ms ∧
      readAll (iosDecrypt ios) session ms = readAll (webDecrypt web) session ms := by
  induction ms generalizing session with
  | nil => exact ⟨rfl, rfl⟩
  | cons m ms ih =>
    obtain ⟨hm, hms⟩ := h
    obtain ⟨handroid, hios⟩ := ih _ hms
    exact ⟨readAll_cons (androidDecrypt_eq hm) handroid,
      readAll_cons (iosDecrypt_eq htag hm) hios⟩

section Sample
open Symbolic

def sampleIncoming (text : String) : Option (Incoming primitives) :=
  (ratchetEncrypt (Duplex.sampleStart.session .a) text (.plain "aad")).map fun sent =>
    ⟨sent.2.1, sent.2.2, .plain "aad", 60⟩

lemma DecodedAlike.refl (C : Codec P) (m : Incoming P) : DecodedAlike C C m :=
  ⟨rfl, rfl, fun _ _ _ _ _ _ => rfl⟩

lemma symbolic_tag : ∀ key nonce aad body plain,
    primitives.decrypt key nonce aad body = some plain → 16 ≤ primitives.size body := by
  intro key nonce aad body plain h
  cases body with
  | plain text => cases h
  | sealed key' nonce' aad' body => exact Nat.le_add_left 16 body.size

instance (session : Session P) (header : RatchetHeader) : Decidable (Room session header) :=
  inferInstanceAs (Decidable (_ → _))

/-- A message of the sample conversation, and the same one replayed. -/
theorem readAll_agree_replayed :
    ∃ m, sampleIncoming "second" = some m ∧
      readAll (androidDecrypt codec) (Duplex.sampleStart.session .b) [m, m] =
        readAll (webDecrypt codec) (Duplex.sampleStart.session .b) [m, m] ∧
      readAll (iosDecrypt codec) (Duplex.sampleStart.session .b) [m, m] =
        readAll (webDecrypt codec) (Duplex.sampleStart.session .b) [m, m] := by
  refine ⟨_, rfl, readAll_agree symbolic_tag _ _ ⟨?_, ?_, trivial⟩⟩
  · exact ⟨.refl _ _, .refl _ _, fun body hb => by cases hb; decide,
      fun _ => ⟨fun _ _ _ => by decide, by decide, by decide⟩, fun _ => by decide⟩
  · exact ⟨.refl _ _, .refl _ _, fun body hb => by cases hb; decide,
      fun _ => ⟨fun _ _ _ => by decide, by decide, by decide⟩, fun _ => by decide⟩

/-- The empty text opens on the web and on Android, and iOS refuses it. -/
theorem empty_text_divides :
    ∃ m, sampleIncoming "" = some m ∧
      (readAll (webDecrypt codec) (Duplex.sampleStart.session .b) [m]).2 = [some ""] ∧
      (readAll (androidDecrypt codec) (Duplex.sampleStart.session .b) [m]).2 = [some ""] ∧
      (readAll (iosDecrypt codec) (Duplex.sampleStart.session .b) [m]).2 = [none] := by
  refine ⟨_, rfl, ?_, ?_, ?_⟩
  · decide
  · decide
  · decide

end Sample

end Yappy.Ratchet
