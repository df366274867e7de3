import Yappy.AuthRetry

/-!
# Tabs that share a sign-in

The tabs of one browser profile, with `refresh` and `setUser` of `lib/api.ts` in each, before the server of one
session. A tab reads the stored record when it opens, and keeps its own copy of the refresh token from then on.
-/
namespace Yappy.Auth.Tabs

open Permissions (Time Uuid)

structure Tab (Token : Type) where
  /-- `session?.refreshToken` -/
  session : Option Token
  refreshing : Option ℕ

inductive Reply (Token : Type)
  | tokens (next : Token)
  | refused

structure State (Token Hash : Type) where
  server : Auth.State Token Hash
  replies : ℕ → Option (Reply Token)
  /-- The refresh token of the record in `localStorage`. -/
  stored : Option Token
  tabs : ℕ → Option (Tab Token)

section Steps
variable {Token Hash : Type} (env : Env Token Hash) (s : State Token Hash)

def setTab (tab : ℕ) (t : Option (Tab Token)) : State Token Hash := { s with tabs := Function.update s.tabs tab t }

def save (tab id : ℕ) (session : Option Token) : State Token Hash :=
  { setTab s tab (some ⟨session, none⟩) with stored := session, replies := Function.update s.replies id none }

def hear (tab id : ℕ) : Reply Token → State Token Hash
  | .tokens next => save s tab id (some next)
  | .refused => save s tab id none

/-- `save({ ...session, user })` -/
def setUser (t : Tab Token) : State Token Hash :=
  match t.session with
  | some token => { s with stored := some token }
  | none => s

/-- A statement of `POST /auth/refresh`, or the time. -/
def Serves : Auth.Event Token → Prop
  | .tick _ | .abort _ | .lookup _ | .lookupPrevious _ | .load _ | .rotate _ _ | .revoke _ | .answer _ => True
  | _ => False

def opened : Tab Token := ⟨s.stored, none⟩

variable [DecidableEq Hash]

def reply (s : Auth.State Token Hash) : Auth.Event Token → Option (ℕ × Reply Token)
  | .lookupPrevious id =>
    match s.requests id with
    | some (.missed token) => if (s.lookedPrevious env token).isNone then some (id, .refused) else none
    | _ => none
  | .load id =>
    match s.requests id with
    | some (.found _ device) => if (s.checked env device).toOption.isNone then some (id, .refused) else none
    | _ => none
  | .revoke id => some (id, .refused)
  | .answer id =>
    match s.requests id with
    | some (.answering _ next) => some (id, .tokens next)
    | _ => none
  | _ => none

def replied (e : Auth.Event Token) : ℕ → Option (Reply Token) :=
  match reply env s.server e with
  | some (id, r) => Function.update s.replies id (some r)
  | none => s.replies

end Steps

inductive Event (Token : Type)
  | server (e : Auth.Event Token)
  | errors (id : ℕ)
  | opens (tab : ℕ)
  | closes (tab : ℕ)
  | setUser (tab : ℕ)
  | refresh (tab id : ℕ)
  | hears (tab : ℕ)
  | unreachable (tab : ℕ)

section Runs
variable {Token Hash : Type} [DecidableEq Hash] (env : Env Token Hash)

inductive Step : State Token Hash → Event Token → State Token Hash → Prop
  | server {s : State Token Hash} {e : Auth.Event Token} {server : Auth.State Token Hash}
      (h : Auth.Step env s.server e server) (he : Serves e) :
      Step s (.server e) { s with server := server, replies := replied env s e }
  | errors {s : State Token Hash} {id : ℕ} (h : (s.server.requests id).isSome) :
      Step s (.errors id)
        { s with server := s.server.set id none, replies := Function.update s.replies id (some .refused) }
  | opens {s : State Token Hash} {tab : ℕ} (h : s.tabs tab = none) :
      Step s (.opens tab) (setTab s tab (some (opened s)))
  | closes {s : State Token Hash} {tab : ℕ} : Step s (.closes tab) (setTab s tab none)
  | setUser {s : State Token Hash} {tab : ℕ} {t : Tab Token} (h : s.tabs tab = some t) :
      Step s (.setUser tab) (setUser s t)
  | refresh {s : State Token Hash} {tab id : ℕ} {token : Token} (h : s.tabs tab = some ⟨some token, none⟩)
      (hid : s.server.requests id = none ∧ s.replies id = none)
      (hnew : ∀ tab t, s.tabs tab = some t → t.refreshing ≠ some id) :
      Step s (.refresh tab id)
        { setTab s tab (some ⟨some token, some id⟩) with server := s.server.set id (some (.refreshing token)) }
  | hears {s : State Token Hash} {tab id : ℕ} {session : Option Token} {r : Reply Token}
      (h : s.tabs tab = some ⟨session, some id⟩) (hr : s.replies id = some r) :
      Step s (.hears tab) (hear s tab id r)
  | unreachable {s : State Token Hash} {tab id : ℕ} {session : Option Token}
      (h : s.tabs tab = some ⟨session, some id⟩) :
      Step s (.unreachable tab) (setTab s tab (some ⟨session, none⟩))

/-- The profile is signed in with a session of the account, and no tab is open. -/
structure SignedIn (did : Uuid) (server : Auth.State Token Hash) (token : Token) : Prop where
  valid : Valid env server
  account : ∃ epoch, server.account.check env server.clock = .ok epoch
  session : ∃ d, server.devices.find did = some d ∧ d.revokedAt = none
  issued : (token, did) ∈ server.issued
  quiet : ∀ id, server.requests id = none

def signedIn (server : Auth.State Token Hash) (token : Token) : State Token Hash :=
  ⟨server, fun _ => none, some token, fun _ => none⟩

/-- No refresh is refused or about to be for a reuse, no tab has lost its session, and neither has the record. -/
structure Shared (did : Uuid) (s : State Token Hash) : Prop where
  accepted : ∀ id, s.replies id ≠ some .refused
  noReuse : ∀ id device, s.server.requests id ≠ some (.reused device)
  session : ∃ d, s.server.devices.find did = some d ∧ d.revokedAt = none
  stored : s.stored ≠ none
  tabs : ∀ tab t, s.tabs tab = some t → t.session ≠ none

/-- A token that is looked up and is no longer the session's current one is the one before, within its grace; the
session has not expired when it is checked; and nothing but the route answers. -/
def KeepsPace (did : Uuid) (s : State Token Hash) : Event Token → Prop
  | .server (.lookupPrevious id) => ∀ token d, s.server.requests id = some (.missed token) →
      s.server.devices.find did = some d →
      d.previousRefreshTokenHash = some (env.hash token) ∧ d.withinGrace s.server.clock = true
  | .server (.load id) => ∀ token d, s.server.requests id = some (.found token d) →
      d.refreshTokenExpiresAt.any (fun expires => expires < s.server.clock) = false
  | .errors _ => False
  | _ => True

end Runs

/-! ## The server -/

variable {Token Hash : Type} {env : Env Token Hash} {did : Uuid} {issued issued' : List (Token × Uuid)}

def Ours (did : Uuid) (issued : List (Token × Uuid)) : Phase Token Hash → Prop
  | .refreshing token | .missed token => (token, did) ∈ issued
  | .found _ device | .loaded _ device _ => device.id = did ∧ device.revokedAt = none
  | .answering other _ => other = did
  | _ => False

lemma Ours.mono {phase : Phase Token Hash} (h : Ours did issued phase) (hsub : ∀ x ∈ issued, x ∈ issued') :
    Ours did issued' phase := by
  cases phase with
  | refreshing => exact hsub _ h
  | missed => exact hsub _ h
  | _ => exact h

structure Kept (env : Env Token Hash) (did : Uuid) (s : Auth.State Token Hash) : Prop where
  valid : Valid env s
  account : ∃ epoch, s.account.check env s.clock = .ok epoch
  session : ∃ d, s.devices.find did = some d ∧ d.revokedAt = none
  requests : ∀ id phase, s.requests id = some phase → Ours did s.issued phase

section Server
variable {s s' : Auth.State Token Hash} {id : ℕ} {token : Token}

lemma ours_set {phase : Option (Phase Token Hash)}
    (h : ∀ id phase, s.requests id = some phase → Ours did s.issued phase)
    (hphase : ∀ p, phase = some p → Ours did s.issued p) (id' : ℕ) (p : Phase Token Hash)
    (hp : (s.set id phase).requests id' = some p) : Ours did s.issued p := by
  by_cases he : id' = id
  · subst he
    rw [set_requests] at hp
    exact hphase p hp
  · have hsame : (s.set id phase).requests id' = s.requests id' := Function.update_of_ne he ..
    exact h id' p (hsame.symm.trans hp)

lemma Kept.set (h : Kept env did s) {phase : Option (Phase Token Hash)} (hvalid : Valid env (s.set id phase))
    (hphase : ∀ p, phase = some p → Ours did s.issued p) : Kept env did (s.set id phase) :=
  ⟨hvalid, h.account, h.session, ours_set h.requests hphase⟩

lemma Kept.holder (h : Kept env did s) (hhash : Function.Injective env.hash) (htoken : (token, did) ∈ s.issued)
    {d d' : Device Hash} (hd : s.devices.find did = some d) (hd' : d' ∈ s.devices.rows)
    (hholds : d'.Holds (env.hash token)) : d' = d :=
  h.valid.holder hhash htoken hd hd' hholds

lemma kept_rotate {next : Token} {device : Device Hash} {epoch : ℕ} (h : Kept env did s)
    (hr : s.requests id = some (.loaded token device epoch))
    (hvalid : Valid env ((s.rotated env token next device epoch).set id (some (.answering device.id next)))) :
    Kept env did ((s.rotated env token next device epoch).set id (some (.answering device.id next))) := by
  obtain ⟨d, hd, hopen⟩ := h.session
  have hours := h.requests id _ hr
  have hsub : ∀ x ∈ s.issued, x ∈ (next, device.id) :: s.issued := fun x hx => List.mem_cons_of_mem _ hx
  refine ⟨hvalid, h.account, ?_, ours_set (fun id p hp => (h.requests id p hp).mono hsub) fun p hp => ?_⟩
  · have hself : d.id = device.id := (KeyedTable.find_key hd).trans hours.1.symm
    refine ⟨d.rotated device (env.hash next) env.refreshTokenTtl s.clock, ?_, hopen⟩
    change (Devices.rotate _ _ _ _ _).find did = _
    rw [Devices.find_rotate, hd, Option.map_some, if_pos hself]
  · cases hp
    exact hours.1

lemma checked_isNone (h : Kept env did s) {device : Device Hash} (hopen : device.revokedAt = none) :
    (s.checked env device).toOption.isNone =
      device.refreshTokenExpiresAt.any (fun expires => expires < s.clock) := by
  obtain ⟨epoch, haccount⟩ := h.account
  unfold State.checked Device.check
  rw [hopen]
  cases device.refreshTokenExpiresAt.any (fun expires => expires < s.clock) with
  | true => rfl
  | false =>
    rw [if_neg (by decide), if_neg (by decide)]
    rw [haccount]
    rfl

variable [DecidableEq Hash]

lemma looked_ours (h : Kept env did s) (hhash : Function.Injective env.hash) (htoken : (token, did) ∈ s.issued) :
    Ours did s.issued (s.looked env token) := by
  obtain ⟨d, hd, hopen⟩ := h.session
  unfold State.looked
  cases hcurrent : Devices.byCurrent s.devices (env.hash token) with
  | none => exact htoken
  | some device =>
    obtain ⟨hmem, hthis⟩ := byCurrent_some hcurrent
    obtain rfl := h.holder hhash htoken hd hmem (Or.inl hthis)
    exact ⟨KeyedTable.find_key hd, hopen⟩

lemma lookedPrevious_eq (h : Kept env did s) (hhash : Function.Injective env.hash) (htoken : (token, did) ∈ s.issued)
    {d : Device Hash} (hd : s.devices.find did = some d) (hopen : d.revokedAt = none) :
    s.lookedPrevious env token =
      if d.previousRefreshTokenHash = some (env.hash token) then
        if d.withinGrace s.clock then some (.found token d) else some (.reused d)
      else none := by
  unfold State.lookedPrevious
  cases hprevious : Devices.byPrevious s.devices (env.hash token) with
  | none =>
    have hall := List.find?_eq_none.mp hprevious d (KeyedTable.find_eq_some.mp hd).1
    rw [if_neg (by simpa using hall)]
  | some device =>
    obtain ⟨hmem, hthis⟩ := byPrevious_some hprevious
    obtain rfl := h.holder hhash htoken hd hmem (Or.inr hthis)
    dsimp only
    rw [hopen, if_pos (by rfl), if_pos hthis]

def Paced (env : Env Token Hash) (did : Uuid) (s : Auth.State Token Hash) : Auth.Event Token → Prop
  | .lookupPrevious id => ∀ token d, s.requests id = some (.missed token) → s.devices.find did = some d →
      d.previousRefreshTokenHash = some (env.hash token) ∧ d.withinGrace s.clock = true
  | .load id => ∀ token d, s.requests id = some (.found token d) →
      d.refreshTokenExpiresAt.any (fun expires => expires < s.clock) = false
  | _ => True

lemma kept_server {e : Auth.Event Token} (h : Kept env did s) (hhash : Function.Injective env.hash)
    (hstep : Auth.Step env s e s') (he : Serves e) (hok : Paced env did s e) : Kept env did s' := by
  have hvalid := step_valid h.valid hstep
  cases hstep with
  | tick hle =>
    obtain ⟨epoch, haccount⟩ := h.account
    exact ⟨hvalid, ⟨epoch, check_mono haccount hle⟩, h.session, h.requests⟩
  | abort => exact h.set hvalid nofun
  | lookup hr =>
    refine h.set hvalid fun p hp => ?_
    cases hp
    exact looked_ours h hhash (h.requests _ _ hr)
  | lookupPrevious hr =>
    obtain ⟨d, hd, hopen⟩ := h.session
    obtain ⟨hprevious, hgrace⟩ := hok _ d hr hd
    refine h.set hvalid fun p hp => ?_
    rw [lookedPrevious_eq h hhash (h.requests _ _ hr) hd hopen, if_pos hprevious, if_pos hgrace] at hp
    cases hp
    exact ⟨KeyedTable.find_key hd, hopen⟩
  | load hr =>
    refine h.set hvalid fun p hp => ?_
    obtain ⟨epoch, -, rfl⟩ := Option.map_eq_some_iff.mp hp
    have hfound := h.requests _ _ hr
    exact hfound
  | rotate hr => exact kept_rotate h hr hvalid
  | revoke hr => exact (h.requests _ _ hr).elim
  | @answer id other next hr =>
    have hanswered : Kept env did (s.answered other next) := by
      have hbefore : ∀ x ∈ (next, other) :: s.returned, x ∈ s.issued := by
        intro x hx
        rcases List.mem_cons.mp hx with rfl | hx
        · exact h.valid.sound id _ hr
        · exact h.valid.returned x hx
      exact ⟨⟨h.valid.stored, h.valid.once, h.valid.placed, h.valid.sound, h.valid.minted, h.valid.rotations, hbefore⟩,
        h.account, h.session, h.requests⟩
    exact hanswered.set hvalid nofun
  | refresh | password | change | signIn | share | issue | logoutAll | revokeAll | bump => exact he.elim

lemma reply_tokens {e : Auth.Event Token} (h : Kept env did s) (hhash : Function.Injective env.hash)
    (hstep : Auth.Step env s e s') (hok : Paced env did s e) {r : Reply Token} (hr : reply env s e = some (id, r)) :
    ∃ next, r = .tokens next ∧ (next, did) ∈ s.issued := by
  cases hstep with
  | @lookupPrevious id token hm =>
    obtain ⟨d, hd, hopen⟩ := h.session
    obtain ⟨hprevious, hgrace⟩ := hok _ d hm hd
    unfold reply at hr
    dsimp only at hr
    rw [hm] at hr
    dsimp only at hr
    rw [lookedPrevious_eq h hhash (h.requests _ _ hm) hd hopen, if_pos hprevious, if_pos hgrace] at hr
    cases hr
  | @load id token device hf =>
    unfold reply at hr
    dsimp only at hr
    rw [hf] at hr
    dsimp only at hr
    rw [checked_isNone h (h.requests _ _ hf).2, hok _ device hf] at hr
    cases hr
  | revoke hd => exact (h.requests _ _ hd).elim
  | @answer id other next ha =>
    unfold reply at hr
    dsimp only at hr
    rw [ha] at hr
    cases hr
    have hissued : (next, other) ∈ s.issued := h.valid.sound _ _ ha
    have hours : other = did := h.requests _ _ ha
    exact ⟨next, rfl, hours ▸ hissued⟩
  | tick | abort | lookup | rotate | refresh | password | change | signIn | share | issue | logoutAll | revokeAll
    | bump => cases hr

lemma refused_of_not_paced {e : Auth.Event Token} (h : Kept env did s) (hhash : Function.Injective env.hash)
    (hstep : Auth.Step env s e s') (hok : ¬ Paced env did s e) :
    (∃ id, reply env s e = some (id, .refused)) ∨ ∃ id device, s'.requests id = some (.reused device) := by
  cases hstep with
  | @lookupPrevious id token hm =>
    obtain ⟨d, hd, hopen⟩ := h.session
    have heq := lookedPrevious_eq h hhash (h.requests _ _ hm) hd hopen
    by_cases hprevious : d.previousRefreshTokenHash = some (env.hash token)
    · rw [if_pos hprevious] at heq
      by_cases hgrace : d.withinGrace s.clock = true
      · refine absurd (fun token' d' hm' hd' => ?_) hok
        rw [hm] at hm'
        rw [hd] at hd'
        cases hm'
        cases hd'
        exact ⟨hprevious, hgrace⟩
      · rw [if_neg hgrace] at heq
        refine Or.inr ⟨id, d, ?_⟩
        rw [set_requests]
        exact heq
    · rw [if_neg hprevious] at heq
      refine Or.inl ⟨id, ?_⟩
      unfold reply
      dsimp only
      rw [hm]
      dsimp only
      rw [heq]
      rfl
  | @load id token device hf =>
    refine Or.inl ⟨id, ?_⟩
    unfold reply
    dsimp only
    rw [hf]
    dsimp only
    rw [checked_isNone h (h.requests _ _ hf).2]
    by_cases hexpired : device.refreshTokenExpiresAt.any (fun expires => expires < s.clock) = true
    · rw [if_pos hexpired]
    · refine absurd (fun token' d' hf' => ?_) hok
      rw [hf] at hf'
      cases hf'
      exact Bool.eq_false_of_not_eq_true hexpired
  | tick | abort | lookup | rotate | revoke | answer | refresh | password | change | signIn | share | issue | logoutAll
    | revokeAll | bump => exact absurd trivial hok

lemma issued_server {e : Auth.Event Token} (hstep : Auth.Step env s e s') : ∀ x ∈ s.issued, x ∈ s'.issued := by
  cases hstep with
  | rotate | issue => exact fun x hx => List.mem_cons_of_mem _ hx
  | _ => exact fun x hx => hx

end Server

/-! ## The profile -/

variable {s s' : State Token Hash} {e : Event Token} {tab id : ℕ}

structure Inv (env : Env Token Hash) (did : Uuid) (s : State Token Hash) : Prop where
  server : Kept env did s.server
  replies : ∀ id r, s.replies id = some r → ∃ next, r = .tokens next ∧ (next, did) ∈ s.server.issued
  stored : ∃ token, s.stored = some token ∧ (token, did) ∈ s.server.issued
  tabs : ∀ tab t, s.tabs tab = some t → ∃ token, t.session = some token ∧ (token, did) ∈ s.server.issued

lemma Inv.shared (h : Inv env did s) : Shared did s where
  accepted id hr := by
    obtain ⟨next, he, -⟩ := h.replies id _ hr
    cases he
  noReuse id device hr := h.server.requests id _ hr
  session := h.server.session
  stored hnone := by
    obtain ⟨token, hs, -⟩ := h.stored
    rw [hs] at hnone
    cases hnone
  tabs tab t ht hnone := by
    obtain ⟨token, hs, -⟩ := h.tabs tab t ht
    rw [hs] at hnone
    cases hnone

lemma Inv.setTab (h : Inv env did s) {t : Option (Tab Token)}
    (ht : ∀ t', t = some t' → ∃ token, t'.session = some token ∧ (token, did) ∈ s.server.issued) :
    Inv env did (setTab s tab t) where
  server := h.server
  replies := h.replies
  stored := h.stored
  tabs tab' t' ht' := by
    change Function.update s.tabs tab t tab' = some t' at ht'
    by_cases he : tab' = tab
    · subst he
      rw [Function.update_self] at ht'
      exact ht t' ht'
    · rw [Function.update_of_ne he] at ht'
      exact h.tabs tab' t' ht'

lemma Inv.save (h : Inv env did s) {next : Token} (hnext : (next, did) ∈ s.server.issued) :
    Inv env did (save s tab id (some next)) := by
  have hset : Inv env did (Tabs.setTab s tab (some ⟨some next, none⟩)) := by
    refine h.setTab fun t' ht' => ?_
    cases ht'
    exact ⟨next, rfl, hnext⟩
  refine ⟨h.server, fun id' r hr => ?_, ⟨next, rfl, hnext⟩, hset.tabs⟩
  change Function.update s.replies id none id' = some r at hr
  by_cases he : id' = id
  · subst he
    rw [Function.update_self] at hr
    cases hr
  · rw [Function.update_of_ne he] at hr
    exact h.replies id' r hr

lemma signedIn_inv {server : Auth.State Token Hash} {token : Token} (h : SignedIn env did server token) :
    Inv env did (signedIn server token) where
  server := ⟨h.valid, h.account, h.session, fun id phase hp => by
    change server.requests id = some phase at hp
    rw [h.quiet] at hp
    cases hp⟩
  replies _ _ hr := by cases hr
  stored := ⟨token, rfl, h.issued⟩
  tabs _ _ ht := by cases ht

variable [DecidableEq Hash]

lemma replied_cases {e : Auth.Event Token} {r : Reply Token} (hr : replied env s e id = some r) :
    reply env s.server e = some (id, r) ∨ s.replies id = some r := by
  unfold replied at hr
  cases hreply : reply env s.server e with
  | none =>
    rw [hreply] at hr
    exact Or.inr hr
  | some x =>
    obtain ⟨id', r'⟩ := x
    rw [hreply] at hr
    change Function.update s.replies id' (some r') id = some r at hr
    by_cases he : id = id'
    · subst he
      rw [Function.update_self] at hr
      cases hr
      exact Or.inl rfl
    · rw [Function.update_of_ne he] at hr
      exact Or.inr hr

lemma Step.inv (hstep : Step env s e s') (hhash : Function.Injective env.hash) (h : Inv env did s)
    (hok : KeepsPace env did s e) : Inv env did s' := by
  cases hstep with
  | @server e server hs he =>
    have hpaced : Paced env did s.server e := by
      cases e <;> exact hok
    have hsub := issued_server hs
    refine ⟨kept_server h.server hhash hs he hpaced, fun id r hr => ?_, ?_, fun tab t ht => ?_⟩
    · rcases replied_cases hr with hr | hr
      · obtain ⟨next, hnext, hissued⟩ := reply_tokens h.server hhash hs hpaced hr
        exact ⟨next, hnext, hsub _ hissued⟩
      · obtain ⟨next, hnext, hissued⟩ := h.replies id r hr
        exact ⟨next, hnext, hsub _ hissued⟩
    · obtain ⟨token, hstored, hissued⟩ := h.stored
      exact ⟨token, hstored, hsub _ hissued⟩
    · obtain ⟨token, hsession, hissued⟩ := h.tabs tab t ht
      exact ⟨token, hsession, hsub _ hissued⟩
  | errors => exact hok.elim
  | opens =>
    refine h.setTab fun t' ht' => ?_
    cases ht'
    exact h.stored
  | closes => exact h.setTab nofun
  | @setUser tab t ht =>
    obtain ⟨token, hsession, hissued⟩ := h.tabs tab t ht
    unfold Tabs.setUser
    rw [hsession]
    exact ⟨h.server, h.replies, ⟨token, rfl, hissued⟩, h.tabs⟩
  | @refresh tab id token ht hid =>
    have hown := h.tabs tab _ ht
    have hset : Inv env did (Tabs.setTab s tab (some ⟨some token, some id⟩)) := by
      refine h.setTab fun t' ht' => ?_
      cases ht'
      exact hown
    obtain ⟨token', hsession, hissued⟩ := hown
    cases hsession
    have hstarted : Auth.Step env s.server (.refresh id token) (s.server.set id (some (.refreshing token))) :=
      .refresh hid.1
    refine ⟨h.server.set (step_valid h.server.valid hstarted) fun p hp => ?_, h.replies, h.stored, hset.tabs⟩
    cases hp
    exact hissued
  | @hears tab id session r ht hr =>
    obtain ⟨next, rfl, hissued⟩ := h.replies id r hr
    exact h.save hissued
  | @unreachable tab id session ht =>
    have hown := h.tabs tab _ ht
    refine h.setTab fun t' ht' => ?_
    cases ht'
    exact hown

lemma Step.keepsPace (hstep : Step env s e s') (hhash : Function.Injective env.hash) (h : Inv env did s)
    (hshared : Shared did s') : KeepsPace env did s e := by
  cases hstep with
  | @server e server hs he =>
    have hpaced : Paced env did s.server e := by
      by_contra hnot
      rcases refused_of_not_paced h.server hhash hs hnot with ⟨id, hr⟩ | ⟨id, device, hr⟩
      · refine hshared.accepted id ?_
        change replied env s e id = _
        unfold replied
        rw [hr]
        exact Function.update_self ..
      · exact hshared.noReuse id device hr
    cases e <;> exact hpaced
  | @errors id =>
    refine hshared.accepted id ?_
    exact Function.update_self ..
  | _ => trivial

/-- In every run in which the tabs keep pace with the rotations no refresh is refused, and no tab loses its session;
the next step keeps it so exactly when it keeps pace. -/
theorem run_shared (hhash : Function.Injective env.hash) {server : Auth.State Token Hash} {token : Token}
    (hstart : SignedIn env did server token)
    (hrun : RunWhere (Step env) (KeepsPace env did) (signedIn server token) s) :
    Shared did s ∧ ∀ e s', Step env s e s' → (Shared did s' ↔ KeepsPace env did s e) := by
  have hkeep : ∀ s e s', Inv env did s → KeepsPace env did s e → Step env s e s' → Inv env did s' :=
    fun _ _ _ h hok hstep => hstep.inv hhash h hok
  have h : Inv env did s := hrun.invariant (signedIn_inv hstart) hkeep
  exact ⟨h.shared, fun _ _ hstep => ⟨hstep.keepsPace hhash h, fun hok => (hstep.inv hhash h hok).shared⟩⟩

/-! ## Two tabs -/

lemma isSignedIn : SignedIn Auth.Sample.plain 7 Auth.Sample.signedIn 0 where
  valid := run_valid (registered_valid Auth.Sample.account 0) Auth.Sample.signedIn_run
  account := ⟨0, rfl⟩
  session := ⟨_, rfl, rfl⟩
  issued := List.mem_cons_self
  quiet _ := rfl

def profile : State ℕ ℕ := signedIn Auth.Sample.signedIn 0

lemma set_free {s : Auth.State ℕ ℕ} {i : ℕ} {p : Phase ℕ ℕ} (h : ∀ did, ¬ s.Locked did)
    (hp : ∀ epoch ids now, p ≠ .revoking epoch ids now) : ∀ did, ¬ (s.set i (some p)).Locked did :=
  set_unlocked h fun epoch ids now he => hp epoch ids now (Option.some.inj he)

lemma loaded_unlocked : ∀ did, ¬ (((Auth.Sample.signedIn.set 0 (some (.refreshing 0))).set 0
    (some (.found 0 Auth.Sample.issued))).set 0 (some (.loaded 0 Auth.Sample.issued 0))).Locked did :=
  set_free (set_free (set_free Auth.Sample.signedIn_unlocked nofun) nofun) nofun

lemma unused {tabs : ℕ → Option (Tab ℕ)} {n i : ℕ} {t : Tab ℕ}
    (h : ∀ tab t, tabs tab = some t → t.refreshing ≠ some i) (ht : t.refreshing ≠ some i) (tab : ℕ) (t' : Tab ℕ)
    (ht' : Function.update tabs n (some t) tab = some t') : t'.refreshing ≠ some i := by
  by_cases he : tab = n
  · subst he
    rw [Function.update_self] at ht'
    cases ht'
    exact ht
  · rw [Function.update_of_ne he] at ht'
    exact h tab t' ht'

lemma read_open (token : ℕ) (d : Device ℕ)
    (hf : some (Phase.found 0 Auth.Sample.issued) = some (Phase.found token d)) :
    d.refreshTokenExpiresAt.any (fun expires => expires < 0) = false := by
  cases hf
  rfl

/-- Two tabs are open, and the first one refreshes. -/
theorem run_shared_refreshed : ∃ s, RunWhere (Step Auth.Sample.plain) (KeepsPace Auth.Sample.plain 7) profile s ∧
    s.tabs 1 = some ⟨some 1, none⟩ ∧ s.tabs 2 = some ⟨some 0, none⟩ ∧ s.stored = some 1 ∧ Shared 7 s := by
  have hstart : RunWhere (Step Auth.Sample.plain) (KeepsPace Auth.Sample.plain 7) profile profile := .refl _
  have hone := hstart.on (i := Event.opens 1) (.opens rfl) trivial
  have htwo := hone.on (i := Event.opens 2) (.opens rfl) trivial
  have hasked := htwo.on (i := Event.refresh 1 0) (.refresh rfl ⟨rfl, rfl⟩ (unused (unused (by nofun) (by nofun)) (by nofun))) trivial
  have hfound := hasked.on (i := Event.server (.lookup 0)) (.server (.lookup rfl) trivial) trivial
  have hloaded := hfound.on (i := Event.server (.load 0)) (.server (.load rfl) trivial) read_open
  have hrotated := hloaded.on (i := Event.server (.rotate 0 1))
    (.server (.rotate rfl (by unfold Auth.State.Fresh; decide) (loaded_unlocked 7)) trivial) trivial
  have hanswered := hrotated.on (i := Event.server (.answer 0)) (.server (.answer rfl) trivial) trivial
  have hheard := hanswered.on (i := Event.hears 1) (.hears rfl rfl) trivial
  exact ⟨_, hheard, rfl, rfl, rfl, (run_shared (fun _ _ h => h) isSignedIn hheard).1⟩

/-- The second tab refreshes a minute after the first one, with the token it has read when it opened. -/
theorem late_tab_revoked : ¬ ∀ (env : Env ℕ ℕ) (did : Uuid) (server : Auth.State ℕ ℕ) (token : ℕ) (s : State ℕ ℕ),
    Function.Injective env.hash → SignedIn env did server token →
    RunWhere (Step env) (fun _ _ => True) (signedIn server token) s → Shared did s := by
  intro h
  have hstart : RunWhere (Step Auth.Sample.plain) (fun _ _ => True) profile profile := .refl _
  have hone := hstart.on (i := Event.opens 1) (.opens rfl) trivial
  have htwo := hone.on (i := Event.opens 2) (.opens rfl) trivial
  have hasked := htwo.on (i := Event.refresh 1 0) (.refresh rfl ⟨rfl, rfl⟩ (unused (unused (by nofun) (by nofun)) (by nofun))) trivial
  have hfound := hasked.on (i := Event.server (.lookup 0)) (.server (.lookup rfl) trivial) trivial
  have hloaded := hfound.on (i := Event.server (.load 0)) (.server (.load rfl) trivial) trivial
  have hrotated := hloaded.on (i := Event.server (.rotate 0 1))
    (.server (.rotate rfl (by unfold Auth.State.Fresh; decide) (loaded_unlocked 7)) trivial) trivial
  have hanswered := hrotated.on (i := Event.server (.answer 0)) (.server (.answer rfl) trivial) trivial
  have hheard := hanswered.on (i := Event.hears 1) (.hears rfl rfl) trivial
  have hlater := hheard.on (i := Event.server (.tick 60000)) (.server (.tick (Nat.zero_le _)) trivial) trivial
  have hlate := hlater.on (i := Event.refresh 2 1) 
    (.refresh rfl ⟨rfl, rfl⟩ (unused (unused (unused (unused (by nofun) (by nofun)) (by nofun)) nofun) nofun)) trivial
  have hmissed := hlate.on (i := Event.server (.lookup 1)) (.server (.lookup rfl) trivial) trivial
  have hreused := hmissed.on (i := Event.server (.lookupPrevious 1)) (.server (.lookupPrevious rfl) trivial) trivial
  have hanswering := set_free (i := 0) (p := .answering 7 1) loaded_unlocked nofun
  have hended : ∀ did, ¬ Auth.State.Locked (Auth.State.set _ 0 none) did := set_unlocked hanswering nofun
  have hmissing := set_free (i := 1) (p := .missed 0) (set_free (i := 1) (p := .refreshing 0) hended nofun) nofun
  have hnoticed := set_free (i := 1) (p := .reused ⟨7, some 1, some 0, some 60000, some 2592000000, none⟩) hmissing nofun
  have hrevoked := hreused.on (i := Event.server (.revoke 1)) (.server (.revoke rfl (hnoticed 7)) trivial) trivial
  have hcleared := hrevoked.on (i := Event.hears 2) (.hears rfl rfl) trivial
  exact (h Auth.Sample.plain 7 Auth.Sample.signedIn 0 _ (fun _ _ h => h) isSignedIn hcleared).stored rfl

end Yappy.Auth.Tabs
