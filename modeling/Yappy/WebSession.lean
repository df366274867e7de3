import Yappy.Runs

/-!
# The session of a tab

`lib/api.ts` of the web app in one tab, with `refreshIdentity` of its store. A request is suspended until its answer
is handled, which is any time later; what the server issues in one answer is of one account.
-/
namespace Yappy.WebSession

structure Issued where
  account : ℕ
  serial : ℕ

structure StoredSession where
  accessToken : Issued
  refreshToken : Issued
  user : Option Issued

structure StoredSession.Of (x : StoredSession) (account : ℕ) : Prop where
  accessToken : x.accessToken.account = account
  refreshToken : x.refreshToken.account = account
  user : ∀ u ∈ x.user, u.account = account

/-- The answer to a sign-in, and to `/auth/refresh`. -/
structure AuthSession extends StoredSession where
  account : ℕ
  issued : toStoredSession.Of account

/-- What is done with the answer to a call of `api`. -/
inductive Kind
  | plain
  /-- `refreshIdentity`, shared while it is in flight, and the calls that save an own profile. -/
  | identity
  | profile
  /-- `signIn`, `register`, `resetPassword`. -/
  | signIn
  | signOut
  deriving DecidableEq

/-- Where a call of `api` is suspended. `spent` is the refresh token of the `refresh` it awaits. -/
inductive Phase
  | fetching (token : Option Issued) (retried : Bool)
  | refreshing (first : Bool) (spent : Issued)
  /-- The refresh has come to `ok`. -/
  | told (first ok : Bool) (spent : Issued)
  | throws

structure Call where
  kind : Kind
  phase : Phase

/-- The variables of the module, and the calls that are suspended. -/
structure State where
  session : Option StoredSession
  /-- The `current` of the refresh in flight. -/
  refreshing : Option StoredSession
  meInFlight : Option ℕ
  calls : ℕ → Option Call
  /-- The account that signed in last, unless a sign-out has finished since. -/
  signedIn : Option ℕ
  /-- The account whose token was refused last, when the tab was told, unless a sign-in has finished since. -/
  refused : Option ℕ

section Handlers
variable (s : State)

def setCall (id : ℕ) (c : Option Call) : State := { s with calls := Function.update s.calls id c }

def setUser (user : Issued) : State :=
  match s.session with
  | some x => { s with session := some { x with user := some user } }
  | none => s

/-- The `save` of a sign-in, and `adoptSession`. -/
def adoptSession (body : AuthSession) : State :=
  { s with session := some body.toStoredSession, signedIn := some body.account, refused := none }

/-- The end of `signOut`. -/
def saveNull : State := { s with session := none, signedIn := none }

def settle (id : ℕ) : State :=
  { setCall s id none with meInFlight := if s.meInFlight = some id then none else s.meInFlight }

def begins (id : ℕ) (kind : Kind) : State :=
  { setCall s id (some ⟨kind, .fetching (s.session.map (·.accessToken)) false⟩) with
    meInFlight := if kind = .identity then some id else s.meInFlight }

/-- `refresh`, called while the session is `current`. -/
def refresh (id : ℕ) (kind : Kind) (current : StoredSession) : State :=
  match s.refreshing with
  | some x => setCall s id (some ⟨kind, .refreshing false x.refreshToken⟩)
  | none =>
    { setCall s id (some ⟨kind, .refreshing true current.refreshToken⟩) with refreshing := some current }

inductive Body
  | nothing
  | user (user : Issued)
  | session (session : AuthSession)

inductive Answer
  | unauthorized
  | failed
  | ok (body : Body)

/-- The server answers the request with such a body. -/
def Body.Answers (kind : Kind) (token : Option Issued) : Body → Prop
  | .nothing => kind = .plain ∨ kind = .signOut
  | .user u => (kind = .identity ∨ kind = .profile) ∧ ∃ t ∈ token, u.account = t.account
  | .session _ => kind = .signIn

def finish (kind : Kind) : Body → State
  | .nothing => if kind = .signOut then saveNull s else s
  | .user u => setUser s u
  | .session b => adoptSession s b

def answered (id : ℕ) (kind : Kind) (retried : Bool) : Answer → State
  | .unauthorized =>
    match s.session, retried with
    | some current, false => refresh s id kind current
    | _, _ => setCall s id (some ⟨kind, .throws⟩)
  | .failed => setCall s id (some ⟨kind, .throws⟩)
  | .ok body => finish (settle s id) kind body

def Call.told (ok : Bool) : Call → Call
  | ⟨kind, .refreshing first spent⟩ => ⟨kind, .told first ok spent⟩
  | c => c

def tell (ok : Bool) : State :=
  { s with refreshing := none, calls := fun id => (s.calls id).map (Call.told ok) }

/-- The rest of `refresh` after its promise, and what `api` does with the result. -/
def resume (id : ℕ) (kind : Kind) (first ok : Bool) (spent : Issued) : State :=
  if ok then setCall s id (some ⟨kind, .fetching (s.session.map (·.accessToken)) true⟩)
  else
    setCall (if first then { s with session := none, refused := some spent.account } else s) id
      (some ⟨kind, .throws⟩)

/-- The call throws: `signOut` catches it. -/
def throws (id : ℕ) (kind : Kind) : State :=
  if kind = .signOut then saveNull (settle s id) else settle s id

end Handlers

inductive Event
  | begins (id : ℕ) (kind : Kind)
  | answered (id : ℕ) (answer : Answer)
  /-- The answer to `/auth/refresh`: tokens, a refusal, or none. -/
  | refreshed (body : AuthSession)
  | refused
  | unreachable
  | resumes (id : ℕ)
  | throws (id : ℕ)
  | adopts (body : AuthSession)

inductive Step : State → Event → State → Prop
  | begins {s : State} {id : ℕ} (hid : s.calls id = none) {kind : Kind}
      (hme : kind = .identity → s.meInFlight = none) : Step s (.begins id kind) (begins s id kind)
  | answered {s : State} {id : ℕ} {kind : Kind} {token : Option Issued} {retried : Bool}
      (h : s.calls id = some ⟨kind, .fetching token retried⟩) {answer : Answer}
      (hbody : ∀ body, answer = .ok body → body.Answers kind token) :
      Step s (.answered id answer) (answered s id kind retried answer)
  | refreshed {s : State} {x : StoredSession} (h : s.refreshing = some x) {body : AuthSession}
      (hbody : body.account = x.refreshToken.account) :
      Step s (.refreshed body)
        (tell { s with
          session := some { x with accessToken := body.accessToken, refreshToken := body.refreshToken } } true)
  | refused {s : State} {x : StoredSession} (h : s.refreshing = some x) : Step s .refused (tell s false)
  | unreachable {s : State} {x : StoredSession} (h : s.refreshing = some x) : Step s .unreachable (tell s true)
  | resumes {s : State} {id : ℕ} {kind : Kind} {first ok : Bool} {spent : Issued}
      (h : s.calls id = some ⟨kind, .told first ok spent⟩) :
      Step s (.resumes id) (resume s id kind first ok spent)
  | throws {s : State} {id : ℕ} {kind : Kind} (h : s.calls id = some ⟨kind, .throws⟩) :
      Step s (.throws id) (throws s id kind)
  | adopts {s : State} (body : AuthSession) : Step s (.adopts body) (adoptSession s body)

def load (stored : Option AuthSession) : State where
  session := stored.map (·.toStoredSession)
  refreshing := none
  meInFlight := none
  calls _ := none
  signedIn := stored.map (·.account)
  refused := none

/-! ## What holds -/

/-- The session is that of the account that signed in last, and there is none once that has signed out; nor once
the server has refused a token of it. -/
def OneAccount (s : State) : Prop :=
  match s.signedIn with
  | none => s.session = none
  | some account => (∃ x, s.session = some x ∧ x.Of account) ∨ s.session = none ∧ s.refused = some account

/-- A refresh, and a fetch of an own profile, comes to its end while the account it began under is the one that
signed in last; a profile may also come when no session is left, a refusal when the account has signed out. -/
def InTime (s : State) : Event → Prop
  | .refreshed _ => ∀ x ∈ s.refreshing, s.signedIn = some x.refreshToken.account
  | .answered _ (.ok (.user u)) => s.session = none ∨ s.signedIn = some u.account
  | .resumes id => ∀ kind spent, s.calls id = some ⟨kind, .told true false spent⟩ →
      s.signedIn = none ∨ s.signedIn = some spent.account
  | _ => True

def Captured (s : State) : Prop := ∀ x ∈ s.refreshing, x.Of x.refreshToken.account

variable {s s' : State} {id account : ℕ} {kind : Kind} {e : Event} {x : StoredSession} {user spent : Issued}
  {first : Bool}

structure SameSession (s s' : State) : Prop where
  session : s'.session = s.session
  signedIn : s'.signedIn = s.signedIn
  refused : s'.refused = s.refused

lemma SameSession.oneAccount (h : SameSession s s') : OneAccount s' ↔ OneAccount s := by
  unfold OneAccount
  rw [h.session, h.signedIn, h.refused]

lemma sameSession_refresh : SameSession s (refresh s id kind x) := by
  unfold refresh
  split <;> exact ⟨rfl, rfl, rfl⟩

lemma oneAccount_saveNull : OneAccount (saveNull s) := rfl

lemma oneAccount_adoptSession (body : AuthSession) : OneAccount (adoptSession s body) :=
  Or.inl ⟨body.toStoredSession, rfl, body.issued⟩

lemma OneAccount.of_session (h : OneAccount s) (hx : s.session = some x) :
    ∃ account, s.signedIn = some account ∧ x.Of account := by
  unfold OneAccount at h
  cases hlast : s.signedIn with
  | none =>
    rw [hlast] at h
    rw [h] at hx
    cases hx
  | some account =>
    rw [hlast] at h
    rcases h with ⟨y, hy, hof⟩ | ⟨hnone, -⟩
    · rw [hx] at hy
      cases hy
      exact ⟨account, rfl, hof⟩
    · rw [hnone] at hx
      cases hx

lemma oneAccount_setUser (h : OneAccount s) :
    OneAccount (setUser s user) ↔ s.session = none ∨ s.signedIn = some user.account := by
  unfold setUser
  cases hx : s.session with
  | none => exact ⟨fun _ => Or.inl rfl, fun _ => h⟩
  | some x =>
    obtain ⟨account, hlast, hof⟩ := h.of_session hx
    unfold OneAccount
    dsimp only
    rw [hlast]
    constructor
    · rintro (⟨y, hy, hyof⟩ | ⟨hnone, -⟩)
      · cases hy
        have he : user.account = account := hyof.user user rfl
        exact Or.inr (congrArg some he.symm)
      · cases hnone
    · rintro (hnone | he)
      · cases hnone
      · refine Or.inl ⟨_, rfl, hof.accessToken, hof.refreshToken, fun u hu => ?_⟩
        cases hu
        exact (Option.some.inj he).symm

lemma oneAccount_refreshed {body : AuthSession} (hof : x.Of x.refreshToken.account)
    (hbody : body.account = x.refreshToken.account) :
    OneAccount { s with
        session := some { x with accessToken := body.accessToken, refreshToken := body.refreshToken } } ↔
      s.signedIn = some x.refreshToken.account := by
  have htoken : body.refreshToken.account = x.refreshToken.account := body.issued.refreshToken.trans hbody
  unfold OneAccount
  dsimp only
  constructor
  · intro h
    cases hlast : s.signedIn with
    | none =>
      rw [hlast] at h
      cases h
    | some account =>
      rw [hlast] at h
      rcases h with ⟨y, hy, hyof⟩ | ⟨hnone, -⟩
      · cases hy
        rw [← hyof.refreshToken]
        exact congrArg some htoken
      · cases hnone
  · intro hlast
    rw [hlast]
    exact Or.inl ⟨_, rfl, body.issued.accessToken.trans hbody, htoken, hof.user⟩

lemma oneAccount_cleared :
    OneAccount { s with session := none, refused := some account } ↔
      s.signedIn = none ∨ s.signedIn = some account := by
  unfold OneAccount
  dsimp only
  cases s.signedIn with
  | none => exact ⟨fun _ => Or.inl rfl, fun _ => rfl⟩
  | some account' =>
    constructor
    · rintro (⟨y, hy, -⟩ | ⟨-, he⟩)
      · cases hy
      · exact Or.inr he.symm
    · rintro (hnone | he)
      · cases hnone
      · exact Or.inr ⟨rfl, he.symm⟩

lemma oneAccount_finish {body : Body} {token : Option Issued} (h : OneAccount s) (hbody : body.Answers kind token) :
    OneAccount (finish (settle s id) kind body) ↔ InTime s (.answered id (.ok body)) := by
  cases body with
  | nothing =>
    refine iff_of_true ?_ trivial
    unfold finish
    split_ifs
    · exact oneAccount_saveNull
    · exact h
  | user u => exact oneAccount_setUser (s := settle s id) h
  | session b => exact iff_of_true (oneAccount_adoptSession b) trivial

/-- **What one step keeps**: a step leaves the session with the account that signed in last if, and only if, it
comes in time. -/
theorem Step.oneAccount (hstep : Step s e s') (h : OneAccount s) (hc : Captured s) : OneAccount s' ↔ InTime s e := by
  cases hstep with
  | begins => exact iff_of_true h trivial
  | @answered id kind token retried hcall answer hbody =>
    cases answer with
    | unauthorized =>
      refine iff_of_true ?_ trivial
      unfold WebSession.answered
      dsimp only
      split
      · exact sameSession_refresh.oneAccount.mpr h
      · exact h
    | failed => exact iff_of_true h trivial
    | ok body => exact oneAccount_finish h (hbody body rfl)
  | @refreshed x hx body hbody =>
    refine (oneAccount_refreshed (s := s) (hc x hx) hbody).trans ⟨fun he y hy => ?_, fun he => he x hx⟩
    rw [hx] at hy
    cases hy
    exact he
  | refused => exact iff_of_true h trivial
  | unreachable => exact iff_of_true h trivial
  | @resumes id kind first ok spent hcall =>
    cases ok with
    | true =>
      refine iff_of_true h fun kind' spent' hcall' => ?_
      rw [hcall] at hcall'
      cases hcall'
    | false =>
      cases first with
      | true =>
        refine (oneAccount_cleared (s := s)).trans ⟨fun he kind' spent' hcall' => ?_, fun he => he kind spent hcall⟩
        rw [hcall] at hcall'
        cases hcall'
        exact he
      | false =>
        refine iff_of_true h fun kind' spent' hcall' => ?_
        rw [hcall] at hcall'
        cases hcall'
  | @throws id kind =>
    refine iff_of_true ?_ trivial
    unfold WebSession.throws
    split_ifs
    · exact oneAccount_saveNull
    · exact h
  | adopts body => exact iff_of_true (oneAccount_adoptSession body) trivial

lemma captured_setUser (h : Captured s) : Captured (setUser s user) := by
  unfold setUser
  split
  · exact h
  · exact h

lemma captured_refresh (h : Captured s) (hof : OneAccount s) (hx : s.session = some x) :
    Captured (refresh s id kind x) := by
  unfold refresh
  split
  · exact h
  · intro y hy
    cases hy
    obtain ⟨account, -, ho⟩ := hof.of_session hx
    rwa [ho.refreshToken]

lemma captured_tell {ok : Bool} : Captured (tell s ok) := by
  intro x hx
  cases hx

lemma Step.captured (hstep : Step s e s') (h : OneAccount s) (hc : Captured s) : Captured s' := by
  cases hstep with
  | begins => exact hc
  | @answered id kind token retried hcall answer hbody =>
    cases answer with
    | unauthorized =>
      unfold WebSession.answered
      dsimp only
      split
      · rename_i current hx
        exact captured_refresh hc h hx
      · exact hc
    | failed => exact hc
    | ok body =>
      cases body with
      | nothing =>
        change Captured (if kind = .signOut then _ else _)
        split_ifs <;> exact hc
      | user u => exact captured_setUser (s := settle s id) hc
      | session b => exact hc
  | refreshed => exact captured_tell
  | refused => exact captured_tell
  | unreachable => exact captured_tell
  | @resumes id kind first ok spent hcall =>
    unfold resume
    split_ifs <;> exact hc
  | throws =>
    unfold WebSession.throws
    split_ifs <;> exact hc
  | adopts => exact hc

lemma oneAccount_load (stored : Option AuthSession) : OneAccount (load stored) := by
  cases stored with
  | none => rfl
  | some body => exact Or.inl ⟨body.toStoredSession, rfl, body.issued⟩

/-- In every run whose answers come in time the session is that of the account that signed in last, and the next
step keeps it so exactly when it comes in time. -/
theorem run_oneAccount (stored : Option AuthSession) (hrun : RunWhere Step InTime (load stored) s) :
    OneAccount s ∧ ∀ e s', Step s e s' → (OneAccount s' ↔ InTime s e) := by
  have hstart : OneAccount (load stored) ∧ Captured (load stored) := by
    refine ⟨oneAccount_load stored, fun x hx => ?_⟩
    cases hx
  have hkeep : ∀ s e s', OneAccount s ∧ Captured s → InTime s e → Step s e s' → OneAccount s' ∧ Captured s' :=
    fun _ _ _ h hok hstep => ⟨(hstep.oneAccount h.1 h.2).mpr hok, hstep.captured h.1 h.2⟩
  have h : OneAccount s ∧ Captured s := hrun.invariant hstart hkeep
  exact ⟨h.1, fun _ _ hstep => hstep.oneAccount h.1 h.2⟩

def answerFor (account serial : ℕ) : AuthSession where
  accessToken := ⟨account, serial⟩
  refreshToken := ⟨account, serial⟩
  user := some ⟨account, serial⟩
  account := account
  issued := ⟨rfl, rfl, fun u hu => by cases hu; rfl⟩

theorem run_oneAccount_refreshed : ∃ s, RunWhere Step InTime (load (some (answerFor 7 0))) s ∧
    s.session = some ⟨⟨7, 1⟩, ⟨7, 1⟩, some ⟨7, 0⟩⟩ ∧ OneAccount s := by
  have hstart : RunWhere Step InTime (load (some (answerFor 7 0))) (load (some (answerFor 7 0))) := .refl _
  have hcalled := hstart.on (i := Event.begins 0 .plain) (.begins rfl nofun) trivial
  have hrefused := hcalled.on (i := Event.answered 0 .unauthorized) (.answered rfl nofun) trivial
  have hrefreshed := hrefused.on (i := Event.refreshed (answerFor 7 1)) (.refreshed rfl rfl) fun x hx => by cases hx; rfl
  exact ⟨_, hrefreshed, rfl, (run_oneAccount _ hrefreshed).1⟩

/-- The answer to a refresh arrives after the tab has been signed out. -/
theorem signed_out_account_returns : ¬ ∀ stored s, RunWhere Step (fun _ _ => True) (load stored) s → OneAccount s := by
  intro h
  have hstart : RunWhere Step (fun _ _ => True) (load (some (answerFor 7 0))) (load (some (answerFor 7 0))) := .refl _
  have hleaving := hstart.on (i := Event.begins 0 .signOut) (.begins rfl nofun) trivial
  have hcalled := hleaving.on (i := Event.begins 1 .plain) (.begins rfl nofun) trivial
  have hrefused := hcalled.on (i := Event.answered 1 .unauthorized) (.answered rfl nofun) trivial
  have hfailed := hrefused.on (i := Event.answered 0 .failed) (.answered rfl nofun) trivial
  have hleft := hfailed.on (i := Event.throws 0) (.throws rfl) trivial
  have hlate := hleft.on (i := Event.refreshed (answerFor 7 1)) (.refreshed rfl rfl) trivial
  have hnone : some _ = none := h _ _ hlate
  cases hnone

end Yappy.WebSession
