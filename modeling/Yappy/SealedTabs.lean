import Yappy.RatchetSymbolic
import Yappy.Runs
import Yappy.SealedEnvelopes

/-!
# Sealing from several tabs

`withSession` of `apps/webapp/src/lib/sessions.ts`, as `sealFor` and `decrypt` of `e2e.ts` use it. Sessions are
in the origin's IndexedDB, which every open tab shares, and the queue that a call waits in is one tab's
own. Each get and each put is one step, and any calls, of any tabs, go on between.
-/
namespace Yappy.Cipher

open Ratchet

variable {P : Primitives}

structure Tabs (P : Primitives) where
  sessions : String → Option (Session P)
  /-- By tab and device, the call at the head of the queue, with what it has loaded. -/
  held : ℕ → String → Option (Option (Session P))
  drawn : List String
  sent : List (Header P × String)

namespace Tabs

inductive Event (P : Primitives)
  | load (tab : ℕ) (device : String)
  | seal (tab : ℕ) (device plaintext : String)
  | open (tab : ℕ) (device : String)
  /-- A call that saves nothing: refused, thrown, or closed with its tab. -/
  | release (tab : ℕ) (device : String)

variable (C : Codec P) (S : Signing P)

def start : Tabs P := ⟨fun _ => none, fun _ _ => none, [], []⟩

variable (w : Tabs P)

def setHeld (tab : ℕ) (device : String) (call : Option (Option (Session P))) : Tabs P :=
  { w with held := Function.update w.held tab (Function.update (w.held tab) device call) }

/-- `saveSession` -/
def save (session : Session P) : Tabs P :=
  { w with sessions := Function.update w.sessions session.deviceId (some session) }

/-- A secret that `randomSecretKey` draws is new. -/
def New (rnd : P.Secret) : Prop := (newPlace rnd).1 ∉ w.drawn

/-- What a seal starts from: the session there is, or one begun from the bundle claimed for the device. -/
def Begins (existing : Option (Session P)) (device : String) (session : Session P) (drawn : List String) : Prop :=
  match existing with
  | some existing => session = existing ∧ drawn = w.drawn
  | none => ∃ (bundle : RecipientBundle) (ephemeral rnd : P.Secret), bundle.deviceId = device ∧ w.New rnd ∧
      beginSession C S bundle ephemeral rnd = some session ∧ drawn = (newPlace rnd).1 :: w.drawn

inductive Step : Tabs P → Event P → Tabs P → Prop
  | load {w : Tabs P} {tab : ℕ} {device : String} (hidle : w.held tab device = none) :
      Step w (.load tab device) (w.setHeld tab device (some (w.sessions device)))
  | seal {w : Tabs P} {tab : ℕ} {device plaintext : String} {existing : Option (Session P)} {sender : SenderIdentity}
      {format : ℕ} {session session' : Session P} {envelope : Header P} {drawn : List String}
      (hheld : w.held tab device = some existing) (hbegins : w.Begins C S existing device session drawn)
      (hsealed : sealWith S session plaintext sender format = some (envelope, session')) :
      Step w (.seal tab device plaintext) { (w.setHeld tab device none).save session' with
        drawn, sent := (envelope, plaintext) :: w.sent }
  | open {w : Tabs P} {tab : ℕ} {session : Option (Session P)} {envelope : Header P} {me : RecipientPrivates P}
      {deviceId : String} {senderKey : Option String} {authorId : String} {rnd rnd' : P.Secret} {opened : Opened P}
      (hheld : w.held tab envelope.s = some session) (hnew : w.New rnd) (hnew' : w.New rnd')
      (hopened : openSealed C S envelope session me deviceId senderKey authorId rnd rnd' = some opened) :
      Step w (.open tab envelope.s) { (w.setHeld tab envelope.s none).save opened.session with
        drawn := (newPlace rnd).1 :: (newPlace rnd').1 :: w.drawn }
  | release {w : Tabs P} {tab : ℕ} {device : String} : Step w (.release tab device) (w.setHeld tab device none)

/-- A call saves over a session only while it stands where the call has loaded it. -/
def InPlace : Event P → Prop
  | .seal tab device _ | .open tab device => ∀ session, w.held tab device = some (some session) →
      (w.sessions device).map place = some (place session)
  | .load _ _ | .release _ _ => True

structure Ahead : Prop where
  device : ∀ device session, w.sessions device = some session → session.deviceId = device
  loaded : ∀ tab device session, w.held tab device = some (some session) → session.deviceId = device
  drawn : ∀ device session, w.sessions device = some session → session.myRatchetPublic ∈ w.drawn
  sent : ∀ e ∈ w.sent, e.1.d ∈ w.drawn
  behind : ∀ device session, w.sessions device = some session →
    ∀ e ∈ w.sent, e.1.r = device → e.1.d = session.myRatchetPublic → e.1.n < session.sendCount
  apart : w.sent.Pairwise fun e e' => e.1.r = e'.1.r → (e.1.d, e.1.n) ≠ (e'.1.d, e'.1.n)

variable {C S w} {w' : Tabs P} {event : Event P}

lemma setHeld_held {tab tab' : ℕ} {device device' : String} {call : Option (Option (Session P))} :
    (w.setHeld tab device call).held tab' device' =
      if tab' = tab ∧ device' = device then call else w.held tab' device' := by
  unfold setHeld
  by_cases htab : tab' = tab
  · subst htab
    by_cases hdevice : device' = device <;> simp [hdevice]
  · simp [htab]

lemma save_sessions {session : Session P} {device : String} :
    (w.save session).sessions device = if device = session.deviceId then some session else w.sessions device :=
  Function.update_apply ..

lemma Ahead.held (h : w.Ahead) {tab : ℕ} {device : String} {call : Option (Option (Session P))}
    (hcall : ∀ session, call = some (some session) → session.deviceId = device) : (w.setHeld tab device call).Ahead where
  device := h.device
  loaded tab' device' session hheld := by
    rw [setHeld_held] at hheld
    split_ifs at hheld with hsame
    · rw [hsame.2]
      exact hcall session hheld
    · exact h.loaded tab' device' session hheld
  drawn := h.drawn
  sent := h.sent
  behind := h.behind
  apart := h.apart

lemma Ahead.saves (h : w.Ahead) {session : Session P} {drawn : List String}
    (hkey : session.myRatchetPublic ∈ drawn) (hdrawn : ∀ key ∈ w.drawn, key ∈ drawn)
    (hbehind : ∀ e ∈ w.sent, e.1.r = session.deviceId → e.1.d = session.myRatchetPublic → e.1.n < session.sendCount) :
    ({ w.save session with drawn } : Tabs P).Ahead where
  device device session' hsession := by
    replace hsession := save_sessions.symm.trans hsession
    split_ifs at hsession with hdevice
    · obtain rfl := Option.some.inj hsession
      exact hdevice.symm
    · exact h.device device session' hsession
  loaded := h.loaded
  drawn device session' hsession := by
    replace hsession := save_sessions.symm.trans hsession
    split_ifs at hsession
    · obtain rfl := Option.some.inj hsession
      exact hkey
    · exact hdrawn _ (h.drawn device session' hsession)
  sent e he := hdrawn _ (h.sent e he)
  behind device session' hsession := by
    replace hsession := save_sessions.symm.trans hsession
    split_ifs at hsession with hdevice
    · obtain rfl := Option.some.inj hsession
      rw [hdevice]
      exact hbehind
    · exact h.behind device session' hsession
  apart := h.apart

lemma Ahead.unsealed (h : w.Ahead) {session : Session P}
    (hplace : session.myRatchetPublic ∉ w.drawn ∨ (w.sessions session.deviceId).map place = some (place session)) :
    ∀ e ∈ w.sent, e.1.r = session.deviceId → e.1.d = session.myRatchetPublic → e.1.n < session.sendCount := by
  intro e he hr hd
  rcases hplace with hnew | hplace
  · exact absurd (hd ▸ h.sent e he) hnew
  · obtain ⟨stored, hstored, heq⟩ := Option.map_eq_some_iff.mp hplace
    obtain ⟨hkey, hcount⟩ := Prod.mk.inj heq
    rw [← hcount]
    exact h.behind _ stored hstored e he hr (hd.trans hkey.symm)

lemma Ahead.seals (h : w.Ahead) {session session' : Session P} {drawn : List String} {envelope : Header P}
    {plaintext : String} {sender : SenderIdentity} {format : ℕ}
    (hplace : session.myRatchetPublic ∉ w.drawn ∨ (w.sessions session.deviceId).map place = some (place session))
    (hkey : session.myRatchetPublic ∈ drawn) (hdrawn : ∀ key ∈ w.drawn, key ∈ drawn)
    (hsealed : sealWith S session plaintext sender format = some (envelope, session')) :
    ({ w.save session' with drawn, sent := (envelope, plaintext) :: w.sent } : Tabs P).Ahead := by
  obtain ⟨hr, hposition, hdevice, hnext⟩ := sealWith_place hsealed
  obtain ⟨hd, hn⟩ := Prod.mk.inj hposition
  obtain ⟨hkey', hcount⟩ := Prod.mk.inj hnext
  have hbehind := h.unsealed hplace
  have hsaved := @Ahead.saves _ _ h session' drawn (hkey' ▸ hkey) hdrawn fun e he hr' hd' => by
    rw [hcount]
    exact (hbehind e he (hr'.trans hdevice) (hd'.trans hkey')).trans (lt_add_one _)
  refine ⟨hsaved.device, hsaved.loaded, hsaved.drawn, fun e he => ?_, fun device stored hstored e he hr' hd' => ?_, ?_⟩
  · rcases List.mem_cons.mp he with rfl | he
    · exact hd ▸ hkey
    · exact hsaved.sent e he
  · rcases List.mem_cons.mp he with rfl | he
    · have hsame : device = session'.deviceId := hr'.symm.trans (hr.trans hdevice.symm)
      have hstored' := save_sessions.symm.trans hstored
      rw [if_pos hsame] at hstored'
      obtain rfl := Option.some.inj hstored'
      rw [hn, hcount]
      exact lt_add_one _
    · exact hsaved.behind device stored hstored e he hr' hd'
  · refine List.pairwise_cons.mpr ⟨fun e he hr' hposition' => ?_, h.apart⟩
    obtain ⟨hd', hn'⟩ := Prod.mk.inj hposition'
    have hlt := hbehind e he (hr'.symm.trans hr) (hd'.symm.trans hd)
    rw [← hn', hn] at hlt
    exact lt_irrefl _ hlt

lemma step_ahead (h : w.Ahead) (hplace : w.InPlace event) (hs : Step C S w event w') : w'.Ahead := by
  cases hs with
  | load hidle => exact h.held fun session hsession => h.device _ session (Option.some.inj hsession)
  | @«seal» tab device plaintext existing sender format session session' envelope drawn hheld hbegins hsealed =>
    have hreleased := @Ahead.held _ _ h tab device none fun _ he => by cases he
    cases existing with
    | some existing =>
      obtain ⟨rfl, rfl⟩ := hbegins
      have hdevice := h.loaded tab device session hheld
      have hstored := hplace session hheld
      obtain ⟨stored, hsome, heq⟩ := Option.map_eq_some_iff.mp hstored
      have hkey : stored.myRatchetPublic = session.myRatchetPublic := congrArg Prod.fst heq
      exact hreleased.seals (.inr (hdevice ▸ hstored)) (hkey ▸ h.drawn device stored hsome) (fun _ => id) hsealed
    | none =>
      obtain ⟨bundle, ephemeral, rnd, hdevice, hnew, hbegun, rfl⟩ := hbegins
      obtain ⟨-, hnewPlace⟩ := beginSession_place hbegun
      have hkey : session.myRatchetPublic = (newPlace rnd).1 := congrArg Prod.fst hnewPlace
      exact hreleased.seals (.inl (hkey ▸ hnew)) (hkey ▸ List.mem_cons_self) (fun _ => List.mem_cons_of_mem _) hsealed
  | @«open» tab session envelope me deviceId senderKey authorId rnd rnd' opened hheld hnew hnew' hopened =>
    have hreleased := @Ahead.held _ _ h tab envelope.s none fun _ he => by cases he
    obtain ⟨hdevice, hopening⟩ := openWithin_place (openSealed_within hopened) fun known hknown =>
      h.loaded tab envelope.s known (by rw [hheld, hknown])
    have hkept : opened.session.myRatchetPublic = (newPlace rnd).1 ∨
        opened.session.myRatchetPublic = (newPlace rnd').1 ∨
        (w.sessions envelope.s).map place = some (place opened.session) := by
      rcases hopening with hnewPlace | hnewPlace | hsame
      · exact .inl (congrArg Prod.fst hnewPlace)
      · exact .inr (.inl (congrArg Prod.fst hnewPlace))
      · obtain ⟨known, rfl, heq⟩ := Option.map_eq_some_iff.mp hsame
        exact .inr (.inr (heq ▸ hplace known hheld))
    refine hreleased.saves ?_ (fun _ hkey => List.mem_cons_of_mem _ (List.mem_cons_of_mem _ hkey))
      (hreleased.unsealed ?_)
    · rcases hkept with hkey | hkey | hstored
      · exact hkey ▸ List.mem_cons_self
      · exact hkey ▸ List.mem_cons_of_mem _ List.mem_cons_self
      · obtain ⟨stored, hsome, heq⟩ := Option.map_eq_some_iff.mp hstored
        have hkey : stored.myRatchetPublic = opened.session.myRatchetPublic := congrArg Prod.fst heq
        exact List.mem_cons_of_mem _ (List.mem_cons_of_mem _ (hkey ▸ h.drawn envelope.s stored hsome))
    · rcases hkept with hkey | hkey | hstored
      · exact .inl (hkey ▸ hnew)
      · exact .inl (hkey ▸ hnew')
      · exact .inr (hdevice ▸ hstored)
  | release => exact h.held fun _ he => by cases he

namespace Sample

open Symbolic

def text : Body → String
  | .plain text => text
  | .sealed _ _ _ body => "~" ++ text body

def signature (body : Body) (key : String) : String := key ++ "/" ++ text body

abbrev signing : Signing primitives where
  textOf := text
  keyBytes key := some (.plain key)
  sign body key := some (signature body key)
  verify g body key := some (g = signature body key)

abbrev sender : SenderIdentity := ⟨"laptop", "ann", "identity of ann"⟩

abbrev bundle : RecipientBundle where
  deviceId := "phone"
  signedPreKey := ⟨1, "7"⟩
  oneTimePreKey := none
  userId := "ben"
  identityKey := "identity of ben"
  signature := signature (.plain "7") "identity of ben"

lemma begins (ephemeral rnd : ℕ) : ∃ (session : Session primitives) (chain : Symbolic.Key),
    beginSession codec signing bundle ephemeral rnd = some session ∧
      session.deviceId = "phone" ∧ session.sendChain = some chain := by
  simp only [beginSession, initiate, Option.bind_eq_bind, Option.bind_some, decide_true, if_true]
  exact ⟨_, _, rfl, rfl, rfl⟩

def Carries (chain : Symbolic.Key) (plaintext : String) (body : Body) : Prop :=
  ∃ aad, body = .sealed (cipherKey primitives (chainStep primitives chain).1).1
    (cipherKey primitives (chainStep primitives chain).1).2 aad (.plain plaintext)

lemma seals {session : Session primitives} {chain : Symbolic.Key} (hchain : session.sendChain = some chain)
    (plaintext : String) : ∃ envelope,
    sealWith signing session plaintext sender 2 = some (envelope, { session with
      sendChain := some (chainStep primitives chain).2, sendCount := session.sendCount + 1 }) ∧
      Carries chain plaintext envelope.c := by
  have hformat : 2 ∈ messageFormats := by decide
  simp only [sealWith, if_pos hformat, ratchetEncrypt, hchain, Option.bind_eq_bind, Option.bind_some]
  exact ⟨_, rfl, _, rfl⟩

variable {w : Tabs primitives} {ok : Tabs primitives → Event primitives → Prop}

end Sample

end Tabs
end Yappy.Cipher
