import Yappy.RatchetAlignment
import Yappy.RatchetSymbolic
import Yappy.Runs

/-!
# Two devices talking

One device initiates to the other's bundle, the other accepts from the first envelope. After
that either seals at any moment, and the network hands over what is in flight in any order,
each envelope at most once.
-/
namespace Yappy.Ratchet
variable {P : Primitives} {C : Codec P}

inductive Side
  | a | b
  deriving DecidableEq

def Side.other : Side → Side
  | a => b
  | b => a

@[simp] lemma Side.other_other (s : Side) : s.other.other = s := by cases s <;> rfl

@[simp] lemma Side.other_ne (s : Side) : s.other ≠ s := by cases s <;> decide

@[simp] lemma Side.ne_other (s : Side) : s ≠ s.other := by cases s <;> decide

/-- Both ends, what is in flight towards each, and every ratchet key drawn so far. -/
structure Duplex (P : Primitives) where
  session : Side → Session P
  inbox : Side → List (Sealed P)
  drawn : List String

namespace Duplex

inductive Event (P : Primitives)
  | encrypt (s : Side) (plaintext : String) (aad : P.Bytes)
  /-- The envelope between `before` and `after` arrives; `rnd` is drawn in case it turns. -/
  | deliver (s : Side) (before : List (Sealed P)) (e : Sealed P) (after : List (Sealed P))
      (rnd : P.Secret)

def receive (C : Codec P) (session : Session P) (e : Sealed P) (rnd : P.Secret) : Session P :=
  match ratchetDecrypt C session e.header e.ciphertext e.aad rnd with
  | some (next, _) => next
  | none => session

inductive Step (C : Codec P) : Duplex P → Event P → Duplex P → Prop
  | encrypt {w : Duplex P} {s : Side} {plaintext : String} {aad : P.Bytes} {session' : Session P}
      {header : RatchetHeader} {ciphertext : P.Text}
      (hs : ratchetEncrypt (w.session s) plaintext aad = some (session', header, ciphertext)) :
      Step C w (.encrypt s plaintext aad) { w with
        session := Function.update w.session s session'
        inbox := Function.update w.inbox s.other
          (⟨header, ciphertext, aad, plaintext⟩ :: w.inbox s.other) }
  | deliver {w : Duplex P} {s : Side} {before after : List (Sealed P)} {e : Sealed P}
      {rnd : P.Secret} (hin : w.inbox s = before ++ e :: after) :
      Step C w (.deliver s before e after rnd) {
        session := Function.update w.session s (receive C (w.session s) e rnd)
        inbox := Function.update w.inbox s (before ++ after)
        drawn := P.keyText (P.getPublicKey rnd) :: w.drawn }

/-- A delivery stays within the limits on skipping, and draws a key nobody has. -/
def InLimits (w : Duplex P) : Event P → Prop
  | .encrypt _ _ _ => True
  | .deliver s _ e _ rnd =>
    Fits (w.session s) e.header ∧ P.keyText (P.getPublicKey rnd) ∉ w.drawn

def Coherent (C : Codec P) (w : Duplex P) : Prop :=
  ∃ s : Side, Aligned C w.drawn (w.session s) (w.session s.other) (w.inbox s) (w.inbox s.other)

end Duplex

/-- `bundle` is the public half of `me`. -/
structure Published (P : Primitives) (me : RecipientPrivates P) (bundle : RecipientBundleKeys) :
    Prop where
  signedPreKey : bundle.signedPreKey =
    ⟨me.signedPreKeyId, P.keyText (P.getPublicKey me.signedPreKeyPrivate)⟩
  oneTimePreKey : ∀ otk, bundle.oneTimePreKey = some otk → ∃ priv,
    me.preKeys.lookup otk.id = some priv ∧ otk.key = P.keyText (P.getPublicKey priv)

/-- The session `initiate` builds, from the root and the first ratchet agreement. -/
def initiated (bundle : RecipientBundleKeys) (ephemeral myRatchet : P.Secret)
    (root dhRatchet : P.Key) : Session P where
  deviceId := bundle.deviceId
  rootKey := (rootStep P root dhRatchet).1
  myRatchetPrivate := myRatchet
  myRatchetPublic := P.keyText (P.getPublicKey myRatchet)
  theirRatchet := some bundle.signedPreKey.key
  sendChain := some (rootStep P root dhRatchet).2
  recvChain := none
  sendCount := 0
  recvCount := 0
  previousSendCount := 0
  skipped := ∅
  pending := some ⟨P.keyText (P.getPublicKey ephemeral), bundle.signedPreKey.id,
    bundle.oneTimePreKey.map PreKey.id⟩

/-- The session `accept` builds, from the root. -/
def accepted (me : RecipientPrivates P) (theirDeviceId : String) (root : P.Key) : Session P where
  deviceId := theirDeviceId
  rootKey := root
  myRatchetPrivate := me.signedPreKeyPrivate
  myRatchetPublic := P.keyText (P.getPublicKey me.signedPreKeyPrivate)
  theirRatchet := none
  sendChain := none
  recvChain := none
  sendCount := 0
  recvCount := 0
  previousSendCount := 0
  skipped := ∅
  pending := none

lemma handshake_root (hI : Ideal P C) {me : RecipientPrivates P} {bundle : RecipientBundleKeys}
    (hp : Published P me bundle) (ephemeral myRatchet : P.Secret) (theirDeviceId : String) :
    ∃ root dhRatchet,
      P.getSharedSecret me.signedPreKeyPrivate (P.getPublicKey myRatchet) = some dhRatchet ∧
      initiate C bundle ephemeral myRatchet =
        some (initiated bundle ephemeral myRatchet root dhRatchet) ∧
      accept C ⟨P.keyText (P.getPublicKey ephemeral), bundle.signedPreKey.id,
        bundle.oneTimePreKey.map PreKey.id⟩ me theirDeviceId =
        some (accepted me theirDeviceId root) := by
  obtain ⟨dhSpk, hspk, hspk'⟩ := hI.agree ephemeral me.signedPreKeyPrivate
  obtain ⟨dhRatchet, hrat, hrat'⟩ := hI.agree myRatchet me.signedPreKeyPrivate
  have hkey : C.publicOf bundle.signedPreKey.key =
      some (P.getPublicKey me.signedPreKeyPrivate) := by
    rw [hp.signedPreKey]
    exact hI.publicOf_keyText _
  have hid : bundle.signedPreKey.id = me.signedPreKeyId := by rw [hp.signedPreKey]
  cases ho : bundle.oneTimePreKey with
  | none =>
    refine ⟨initialRoot P dhSpk none, dhRatchet, hrat', ?_, ?_⟩
    · simp [initiate, ho, hkey, hspk, hrat, initiated]
    · simp [accept, hid, hI.publicOf_keyText, hspk', accepted]
  | some otk =>
    obtain ⟨priv, hlook, hotk⟩ := hp.oneTimePreKey otk ho
    obtain ⟨dhOtk, hagree, hagree'⟩ := hI.agree ephemeral priv
    refine ⟨initialRoot P dhSpk (some dhOtk), dhRatchet, hrat', ?_, ?_⟩
    · simp [initiate, ho, hkey, hspk, hrat, initiated, hotk, hI.publicOf_keyText, hagree]
    · simp [accept, hid, hI.publicOf_keyText, hspk', accepted, hlook, hagree']

lemma filed_empty {drawn : List String} {session : Session P} (h : session.skipped = ∅) :
    Filed drawn session := by
  intro key hk
  rw [h] at hk
  exact absurd hk (AList.notMem_empty key)

lemma handshake_aligned (hI : Ideal P C) {me : RecipientPrivates P}
    {bundle : RecipientBundleKeys} (hp : Published P me bundle) (ephemeral : P.Secret)
    {myRatchet : P.Secret} (theirDeviceId : String) {root dhRatchet : P.Key}
    (hdh : P.getSharedSecret me.signedPreKeyPrivate (P.getPublicKey myRatchet) = some dhRatchet) :
    Aligned C [P.keyText (P.getPublicKey myRatchet),
        P.keyText (P.getPublicKey me.signedPreKeyPrivate)]
      (initiated bundle ephemeral myRatchet root dhRatchet) (accepted me theirDeviceId root)
      [] [] where
  publicL := rfl
  publicT := rfl
  drawnL := by simp [initiated]
  drawnT := by simp [accepted]
  heard := by simp [initiated, accepted, hp.signedPreKey]
  heardT := by simp [accepted]
  news := by simp [accepted]
  opened := by simp [accepted]
  forth := ⟨(rootStep P root dhRatchet).2,
    by simp [turnKeys, accepted, initiated, hI.publicOf_keyText, hdh], rfl⟩
  back := Or.inl ⟨rfl, rfl⟩
  countL := le_rfl
  countT := le_rfl
  filedL := filed_empty rfl
  filedT := filed_empty rfl
  unfiled := fun _ => AList.notMem_empty _
  dueL := by simp
  dueT := by simp
  seenL := by simp
  seenT := by simp
  distinctL := List.nodup_nil
  distinctT := List.nodup_nil

namespace Duplex

/-- The world once `a` has initiated and sealed its first envelope and `b` has accepted from
it: the envelope itself is still to be read. -/
def opening (C : Codec P) (bundle : RecipientBundleKeys) (me : RecipientPrivates P)
    (ephemeral myRatchet : P.Secret) (theirDeviceId plaintext : String) (aad : P.Bytes) :
    Option (Duplex P) := do
  let initiator ← initiate C bundle ephemeral myRatchet
  let (sender, header, ciphertext) ← ratchetEncrypt initiator plaintext aad
  let pre ← header.pre
  let acceptor ← accept C pre me theirDeviceId
  some {
    session := fun
      | .a => sender
      | .b => acceptor
    inbox := fun
      | .a => []
      | .b => [⟨header, ciphertext, aad, plaintext⟩]
    drawn := [P.keyText (P.getPublicKey myRatchet),
      P.keyText (P.getPublicKey me.signedPreKeyPrivate)] }

lemma opening_coherent (hI : Ideal P C) {me : RecipientPrivates P}
    {bundle : RecipientBundleKeys} (hp : Published P me bundle) (ephemeral myRatchet : P.Secret)
    (theirDeviceId plaintext : String) (aad : P.Bytes) :
    ∃ w, opening C bundle me ephemeral myRatchet theirDeviceId plaintext aad = some w ∧
      Coherent C w := by
  obtain ⟨root, dhRatchet, hdh, hinit, haccept⟩ :=
    handshake_root hI hp ephemeral myRatchet theirDeviceId
  obtain ⟨sender, header, ciphertext, hseal, hpre⟩ : ∃ sender header ciphertext,
      ratchetEncrypt (initiated bundle ephemeral myRatchet root dhRatchet) plaintext aad =
        some (sender, header, ciphertext) ∧
      header.pre = some ⟨P.keyText (P.getPublicKey ephemeral), bundle.signedPreKey.id,
        bundle.oneTimePreKey.map PreKey.id⟩ := ⟨_, _, _, rfl, rfl⟩
  refine ⟨⟨fun | .a => sender | .b => accepted me theirDeviceId root,
    fun | .a => [] | .b => [⟨header, ciphertext, aad, plaintext⟩],
    [P.keyText (P.getPublicKey myRatchet), P.keyText (P.getPublicKey me.signedPreKeyPrivate)]⟩,
    ?_, Side.a, ?_⟩
  · simp only [opening, hinit, Option.bind_eq_bind, Option.bind_some, hseal, hpre, haccept]
  · exact (handshake_aligned hI hp ephemeral theirDeviceId hdh).seal_leader hI hseal

variable {w : Duplex P}

lemma seal_coherent (hI : Ideal P C) {s : Side} {plaintext : String} {aad : P.Bytes}
    {session' : Session P} {header : RatchetHeader} {ciphertext : P.Text} (h : Coherent C w)
    (hs : ratchetEncrypt (w.session s) plaintext aad = some (session', header, ciphertext)) :
    Coherent C { w with
      session := Function.update w.session s session'
      inbox := Function.update w.inbox s.other
        (⟨header, ciphertext, aad, plaintext⟩ :: w.inbox s.other) } := by
  obtain ⟨leading, ha⟩ := h
  by_cases hl : s = leading
  · subst hl
    exact ⟨s, by simpa using ha.seal_leader hI hs⟩
  · obtain rfl : s = leading.other := by
      cases s <;> cases leading <;> first | rfl | exact absurd rfl hl
    exact ⟨leading, by simpa using ha.seal_trailer hI hs⟩

lemma deliver_coherent (hI : Ideal P C) {s : Side} {before after : List (Sealed P)}
    {e : Sealed P} {rnd : P.Secret} (h : Coherent C w) (hin : w.inbox s = before ++ e :: after)
    (hfit : Fits (w.session s) e.header) (hfresh : P.keyText (P.getPublicKey rnd) ∉ w.drawn) :
    ∃ session', ratchetDecrypt C (w.session s) e.header e.ciphertext e.aad rnd =
        some (session', e.plaintext) ∧
      Coherent C {
        session := Function.update w.session s session'
        inbox := Function.update w.inbox s (before ++ after)
        drawn := P.keyText (P.getPublicKey rnd) :: w.drawn } := by
  obtain ⟨leading, ha⟩ := h
  have hsub : w.drawn ⊆ P.keyText (P.getPublicKey rnd) :: w.drawn := List.subset_cons_self _ _
  by_cases hl : s = leading
  · subst hl
    rw [hin] at ha
    obtain ⟨session', hdec, ha'⟩ := ha.read_leader rnd hfit
    exact ⟨session', hdec, s, by simpa using ha'.mono hsub⟩
  · obtain rfl : s = leading.other := by
      cases s <;> cases leading <;> first | rfl | exact absurd rfl hl
    rw [hin] at ha
    rcases ha.dueT e (by simp) with hdue | hnews
    · obtain ⟨session', hdec, ha'⟩ := ha.read_trailer rnd hdue hfit
      exact ⟨session', hdec, leading, by simpa using ha'.mono hsub⟩
    · -- the end that turns takes the lead
      obtain ⟨session', hdec, ha'⟩ := ha.read_news hI hnews hfit hfresh
      exact ⟨session', hdec, leading.other, by simpa using ha'⟩

lemma step_coherent (hI : Ideal P C) {w' : Duplex P} {event : Event P} (h : Coherent C w)
    (hlim : InLimits w event) (hstep : Step C w event w') : Coherent C w' := by
  cases hstep with
  | encrypt hs => exact seal_coherent hI h hs
  | deliver hin =>
    obtain ⟨session', hdec, hc⟩ := deliver_coherent hI h hin hlim.1 hlim.2
    simpa only [receive, hdec] using hc

/-- Whatever was sealed at either end after the handshake, and however the network orders it,
each envelope opens to its plaintext when it arrives. -/
theorem delivered_opens (hI : Ideal P C) {me : RecipientPrivates P}
    {bundle : RecipientBundleKeys} (hp : Published P me bundle) (ephemeral myRatchet : P.Secret)
    (theirDeviceId plaintext : String) (aad : P.Bytes) :
    ∃ w₀, opening C bundle me ephemeral myRatchet theirDeviceId plaintext aad = some w₀ ∧
      ∀ w, RunWhere (Step C) InLimits w₀ w →
        ∀ (s : Side) (before : List (Sealed P)) (e : Sealed P) (after : List (Sealed P))
          (rnd : P.Secret), w.inbox s = before ++ e :: after →
          InLimits w (.deliver s before e after rnd) →
          ∃ session', ratchetDecrypt C (w.session s) e.header e.ciphertext e.aad rnd =
            some (session', e.plaintext) := by
  obtain ⟨w₀, hopen, hstart⟩ :=
    opening_coherent hI hp ephemeral myRatchet theirDeviceId plaintext aad
  refine ⟨w₀, hopen, fun w hrun s before e after rnd hin hlim => ?_⟩
  have hc : Coherent C w :=
    hrun.invariant hstart fun _ _ _ h hok hs => step_coherent hI h hok hs
  obtain ⟨session', hdec, -⟩ := deliver_coherent hI hc hin hlim.1 hlim.2
  exact ⟨session', hdec⟩

section Overtaken
open Symbolic

def samplePrivates : RecipientPrivates primitives where
  signedPreKeyId := 1
  signedPreKeyPrivate := 20
  preKeys := AList.singleton 7 30

def sampleBundle : RecipientBundleKeys where
  deviceId := "laptop"
  signedPreKey := ⟨1, "20"⟩
  oneTimePreKey := some ⟨7, "30"⟩

lemma sample_published : Published primitives samplePrivates sampleBundle where
  signedPreKey := rfl
  oneTimePreKey otk h := ⟨30, by cases h; decide, by cases h; decide⟩

def sampleStart : Duplex primitives :=
  (opening codec sampleBundle samplePrivates 40 50 "phone" "first" (.plain "aad")).get (by rfl)

/-- A second envelope overtakes the first and opens. -/
theorem delivered_opens_overtaken :
    ((ratchetEncrypt (sampleStart.session .a) "second" (.plain "aad")).bind fun sent =>
      (ratchetDecrypt codec (sampleStart.session .b) sent.2.1 sent.2.2 (.plain "aad") 60).map
        Prod.snd) = some "second" := by
  obtain ⟨w₀, hopen, hall⟩ :=
    delivered_opens ideal sample_published 40 50 "phone" "first" (.plain "aad")
  obtain rfl : sampleStart = w₀ := Option.get_of_eq_some _ hopen
  have hsecond : Step codec sampleStart (.encrypt .a "second" (.plain "aad")) _ :=
    .encrypt (by rfl)
  have hlim : InLimits sampleStart (.encrypt .a "second" (.plain "aad")) := trivial
  obtain ⟨session', hdec⟩ := hall _ ((RunWhere.refl _).tail hlim hsecond) .b [] _ _ 60 rfl
    ⟨by decide, by decide⟩
  exact congrArg (Option.map Prod.snd) hdec

end Overtaken

end Duplex
end Yappy.Ratchet
