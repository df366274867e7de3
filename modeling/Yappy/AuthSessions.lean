import Yappy.KeyedTable
import Yappy.PermissionDatabase
import Yappy.Runs

/-!
# Sessions of one account

`refresh`, `logout-all` and the password routes of `apps/api/src/routes/auth.ts`, with the tokens of
`apps/api/src/lib/tokens.ts`. Every statement is atomic. A transaction shows at its commit, and what
it has locked until then makes the statements of others wait. The limiter, the audit log and the
columns of a device that no check reads are left out.
-/
namespace Yappy.Auth

open Permissions (Time Uuid)

inductive ErrorCode
  | unauthenticated | tokenExpired | tokenRevoked | accountSuspended

structure AppError where
  status : ℕ
  code : ErrorCode
  message : String

/-- What the server is set up with, and what it takes from libraries. -/
structure Env (Token Hash : Type) where
  /-- `hashToken`: SHA-256. -/
  hash : Token → Hash
  /-- `REFRESH_TOKEN_TTL`, in seconds. -/
  refreshTokenTtl : ℕ
  toUTCString : Time → String

/-- A row of `devices`, which is one session. Times are in milliseconds. -/
structure Device (Hash : Type) where
  id : Uuid
  refreshTokenHash : Option Hash
  previousRefreshTokenHash : Option Hash
  previousRefreshExpiresAt : Option Time
  refreshTokenExpiresAt : Option Time
  revokedAt : Option Time
  deriving DecidableEq

structure Account where
  tokenEpoch : ℕ
  deletedAt : Option Time
  suspendedUntil : Option Time
  suspensionReason : Option String

/-- An access token: `did` and `ep`. -/
structure AccessClaims where
  did : Uuid
  ep : ℕ

def refreshRetryGraceSeconds : ℕ := 60

def signInAgain : AppError := ⟨401, .tokenRevoked, "Please sign in again"⟩

def signedOut : AppError := ⟨401, .tokenRevoked, "This session was signed out"⟩

def sessionExpired : AppError := ⟨401, .tokenExpired, "Session expired — please sign in again"⟩

def accountNotFound : AppError := ⟨401, .unauthenticated, "Account not found"⟩

section Statements
variable {Token Hash : Type} (env : Env Token Hash)

def Account.assertNotSuspended (account : Account) (now : Time) : Except AppError Unit :=
  match account.suspendedUntil with
  | some suspendedUntil =>
    if now < suspendedUntil then
      .error ⟨403, .accountSuspended, "Your account is suspended until " ++ env.toUTCString suspendedUntil ++ "." ++
        account.suspensionReason.elim "" fun reason => " " ++ reason⟩
    else .ok ()
  | none => .ok ()

/-- What `refresh` and `issueSession` ask of the account. -/
def Account.check (account : Account) (now : Time) : Except AppError ℕ :=
  if account.deletedAt.isSome then .error accountNotFound
  else match account.assertNotSuspended env now with
    | .ok _ => .ok account.tokenEpoch
    | .error e => .error e

namespace Device
variable {Hash : Type} (device : Device Hash)

def withinGrace (now : Time) : Bool := device.previousRefreshExpiresAt.any fun expires => now < expires

def check (now : Time) : Except AppError Unit :=
  if device.revokedAt.isSome then .error signedOut
  else if device.refreshTokenExpiresAt.any fun expires => expires < now then .error sessionExpired
  else .ok ()

/-- `issueSession` -/
def issued (id : Uuid) (hash : Hash) (ttl : ℕ) (now : Time) : Device Hash where
  id := id
  refreshTokenHash := some hash
  previousRefreshTokenHash := none
  previousRefreshExpiresAt := none
  refreshTokenExpiresAt := some (now + ttl * 1000)
  revokedAt := none

/-- `refresh`, with `read` as the row was read before. -/
def rotated (read : Device Hash) (next : Hash) (ttl : ℕ) (now : Time) : Device Hash :=
  { device with
    refreshTokenHash := some next
    previousRefreshTokenHash := read.refreshTokenHash
    previousRefreshExpiresAt := some (now + refreshRetryGraceSeconds * 1000)
    refreshTokenExpiresAt := some (now + ttl * 1000) }

def revoked (now : Time) : Device Hash := { device with revokedAt := some now }

def forgotten (now : Time) : Device Hash :=
  { device with revokedAt := some now, refreshTokenHash := none, previousRefreshTokenHash := none }

end Device

abbrev Devices (Hash : Type) := KeyedTable (@Device.id Hash)

namespace Devices
variable (devices : Devices Hash)

def rotate (read : Device Hash) (next : Hash) (ttl : ℕ) (now : Time) : Devices Hash :=
  KeyedTable.update devices (fun d => d.id = read.id) (fun d => d.rotated read next ttl now) fun _ => rfl

def revoke (p : Device Hash → Bool) (now : Time) : Devices Hash :=
  KeyedTable.update devices p (fun d => d.revoked now) fun _ => rfl

def forget (now : Time) : Devices Hash :=
  KeyedTable.update devices (fun d => d.revokedAt.isNone) (fun d => d.forgotten now) fun _ => rfl

lemma find_rotate (read : Device Hash) (next : Hash) (ttl : ℕ) (now : Time) (did : Uuid) :
    (Devices.rotate devices read next ttl now).find did =
      (devices.find did).map fun d => if d.id = read.id then d.rotated read next ttl now else d := by
  unfold Devices.rotate
  refine (KeyedTable.find_update ..).trans ?_
  simp only [decide_eq_true_eq]

lemma find_revoke (p : Device Hash → Bool) (now : Time) (did : Uuid) :
    (Devices.revoke devices p now).find did =
      (devices.find did).map fun d => if p d then d.revoked now else d :=
  KeyedTable.find_update ..

variable [DecidableEq Hash]

def byCurrent (hash : Hash) : Option (Device Hash) :=
  devices.rows.find? fun d => d.refreshTokenHash = some hash

def byPrevious (hash : Hash) : Option (Device Hash) :=
  devices.rows.find? fun d => d.previousRefreshTokenHash = some hash

end Devices
end Statements

/-! ## A request and its statements -/

inductive Phase (Token Hash : Type)
  | refreshing (token : Token)
  | missed (token : Token)
  | found (token : Token) (device : Device Hash)
  | reused (device : Device Hash)
  | loaded (token : Token) (device : Device Hash) (epoch : ℕ)
  | answering (did : Uuid) (next : Token)
  /-- A password route that has read the epoch, and whose password or code was right. -/
  | changing (epoch : ℕ)
  /-- About to issue a session: the end of a password route, and a sign-in. -/
  | issuing
  /-- `select … for share` keeps the account locked. -/
  | sharing (epoch : ℕ)
  | loggingOut (epoch : ℕ)
  /-- `logout-all` has revoked sessions and not committed: they stay locked. -/
  | revoking (epoch : ℕ) (ids : List Uuid) (now : Time)

structure Rotation (Token : Type) where
  presented : Token
  access : AccessClaims
  next : Token

structure State (Token Hash : Type) where
  clock : Time
  account : Account
  devices : Devices Hash
  requests : ℕ → Option (Phase Token Hash)
  issued : List (Token × Uuid)
  minted : List AccessClaims
  rotations : List (Rotation Token)
  /-- The refresh tokens that responses brought, the last one first. -/
  returned : List (Token × Uuid)

inductive Event (Token : Type)
  | tick (now : Time)
  | abort (id : ℕ)
  | refresh (id : ℕ) (token : Token)
  | lookup (id : ℕ)
  | lookupPrevious (id : ℕ)
  | load (id : ℕ)
  | rotate (id : ℕ) (next : Token)
  | revoke (id : ℕ)
  | answer (id : ℕ)
  | password (id : ℕ)
  | change (id : ℕ)
  | signIn (id : ℕ)
  | share (id : ℕ)
  | issue (id : ℕ) (did : Uuid) (token : Token)
  | logoutAll (id : ℕ)
  | revokeAll (id : ℕ)
  | bump (id : ℕ)

section Steps
variable {Token Hash : Type} (env : Env Token Hash)

namespace State
variable (s : State Token Hash)

def set (id : ℕ) (phase : Option (Phase Token Hash)) : State Token Hash :=
  { s with requests := Function.update s.requests id phase }

def Locked (did : Uuid) : Prop := ∃ id epoch ids now, s.requests id = some (.revoking epoch ids now) ∧ did ∈ ids

def Shared : Prop := ∃ id epoch, s.requests id = some (.sharing epoch)

def Fresh (token : Token) : Prop := ∀ x ∈ s.issued, x.1 ≠ token

def live : List Uuid := (s.devices.rows.filter fun d => d.revokedAt.isNone).map Device.id

def checked (device : Device Hash) : Except AppError ℕ :=
  match device.check s.clock with
  | .ok _ => s.account.check env s.clock
  | .error e => .error e

def rotated (token next : Token) (device : Device Hash) (epoch : ℕ) : State Token Hash :=
  { s with
    devices := Devices.rotate s.devices device (env.hash next) env.refreshTokenTtl s.clock
    issued := (next, device.id) :: s.issued
    minted := ⟨device.id, epoch⟩ :: s.minted
    rotations := ⟨token, ⟨device.id, epoch⟩, next⟩ :: s.rotations }

def answered (did : Uuid) (next : Token) : State Token Hash := { s with returned := (next, did) :: s.returned }

def changed (epoch : ℕ) : State Token Hash :=
  { s with
    account := { s.account with tokenEpoch := epoch + 1 }
    devices := Devices.forget s.devices s.clock }

/-- The transaction of `issueSession`. -/
def signedIn (did : Uuid) (token : Token) (epoch : ℕ) : State Token Hash :=
  { s with
    devices := KeyedTable.insertIgnore s.devices (.issued did (env.hash token) env.refreshTokenTtl s.clock)
    issued := (token, did) :: s.issued
    minted := ⟨did, epoch⟩ :: s.minted }

/-- The transaction of `logout-all`. -/
def loggedOut (epoch : ℕ) (ids : List Uuid) (now : Time) : State Token Hash :=
  { s with
    account := { s.account with tokenEpoch := epoch + 1 }
    devices := Devices.revoke s.devices (fun d => ids.contains d.id) now }

def registered (account : Account) (clock : Time) : State Token Hash :=
  ⟨clock, account, .empty, fun _ => none, [], [], [], []⟩

/-! ## A refresh by itself -/

structure Response (Token : Type) where
  access : AccessClaims
  refreshToken : Token

/-- `refresh` once the session is found. -/
def proceed (token next : Token) (device : Device Hash) : Except AppError (Response Token) × State Token Hash :=
  match s.checked env device with
  | .ok epoch => (.ok ⟨⟨device.id, epoch⟩, next⟩,
      (s.rotated env token next device epoch).answered device.id next)
  | .error e => (.error e, s)

variable [DecidableEq Hash]

def looked (token : Token) : Phase Token Hash :=
  match Devices.byCurrent s.devices (env.hash token) with
  | some device => .found token device
  | none => .missed token

/-- The token is not current: the retry goes on, and a late one ends the session. -/
def lookedPrevious (token : Token) : Option (Phase Token Hash) :=
  match Devices.byPrevious s.devices (env.hash token) with
  | some previous =>
    if previous.revokedAt.isNone then
      if previous.withinGrace s.clock then some (.found token previous) else some (.reused previous)
    else none
  | none => none

/-- `refresh`, when nothing comes between its statements. -/
def refresh (token next : Token) : Except AppError (Response Token) × State Token Hash :=
  match s.looked env token with
  | .found _ device => s.proceed env token next device
  | _ =>
    match s.lookedPrevious env token with
    | some (.found _ device) => s.proceed env token next device
    | some (.reused device) =>
      (.error signInAgain, { s with devices := Devices.revoke s.devices (fun d => d.id = device.id) s.clock })
    | _ => (.error signInAgain, s)

end State

variable [DecidableEq Hash]

inductive Step : State Token Hash → Event Token → State Token Hash → Prop
  | tick {s : State Token Hash} {now : Time} (h : s.clock ≤ now) : Step s (.tick now) { s with clock := now }
  | abort {s : State Token Hash} {id : ℕ} : Step s (.abort id) (s.set id none)
  | refresh {s : State Token Hash} {id : ℕ} {token : Token} (h : s.requests id = none) :
      Step s (.refresh id token) (s.set id (some (.refreshing token)))
  | lookup {s : State Token Hash} {id : ℕ} {token : Token} (h : s.requests id = some (.refreshing token)) :
      Step s (.lookup id) (s.set id (some (s.looked env token)))
  | lookupPrevious {s : State Token Hash} {id : ℕ} {token : Token} (h : s.requests id = some (.missed token)) :
      Step s (.lookupPrevious id) (s.set id (s.lookedPrevious env token))
  | load {s : State Token Hash} {id : ℕ} {token : Token} {device : Device Hash}
      (h : s.requests id = some (.found token device)) :
      Step s (.load id) (s.set id ((s.checked env device).toOption.map (.loaded token device)))
  | rotate {s : State Token Hash} {id : ℕ} {token next : Token} {device : Device Hash} {epoch : ℕ}
      (h : s.requests id = some (.loaded token device epoch)) (hfresh : s.Fresh next)
      (hfree : ¬ s.Locked device.id) :
      Step s (.rotate id next) ((s.rotated env token next device epoch).set id (some (.answering device.id next)))
  | revoke {s : State Token Hash} {id : ℕ} {device : Device Hash} (h : s.requests id = some (.reused device))
      (hfree : ¬ s.Locked device.id) :
      Step s (.revoke id)
        ({ s with devices := Devices.revoke s.devices (fun d => d.id = device.id) s.clock }.set id none)
  | answer {s : State Token Hash} {id : ℕ} {did : Uuid} {next : Token}
      (h : s.requests id = some (.answering did next)) : Step s (.answer id) ((s.answered did next).set id none)
  | password {s : State Token Hash} {id : ℕ} (h : s.requests id = none) :
      Step s (.password id) (s.set id (some (.changing s.account.tokenEpoch)))
  | change {s : State Token Hash} {id epoch : ℕ} (h : s.requests id = some (.changing epoch))
      (hshare : ¬ s.Shared) (hfree : ∀ did ∈ s.live, ¬ s.Locked did) :
      Step s (.change id) ((s.changed epoch).set id (some .issuing))
  | signIn {s : State Token Hash} {id : ℕ} (h : s.requests id = none) :
      Step s (.signIn id) (s.set id (some .issuing))
  | share {s : State Token Hash} {id : ℕ} (h : s.requests id = some .issuing) :
      Step s (.share id) (s.set id ((s.account.check env s.clock).toOption.map .sharing))
  | issue {s : State Token Hash} {id epoch : ℕ} {did : Uuid} {token : Token}
      (h : s.requests id = some (.sharing epoch)) (hdid : s.devices.find did = none) (hfresh : s.Fresh token) :
      Step s (.issue id did token) ((s.signedIn env did token epoch).set id (some (.answering did token)))
  | logoutAll {s : State Token Hash} {id : ℕ} (h : s.requests id = none) :
      Step s (.logoutAll id) (s.set id (some (.loggingOut s.account.tokenEpoch)))
  | revokeAll {s : State Token Hash} {id epoch : ℕ} (h : s.requests id = some (.loggingOut epoch))
      (hfree : ∀ did ∈ s.live, ¬ s.Locked did) :
      Step s (.revokeAll id) (s.set id (some (.revoking epoch s.live s.clock)))
  | bump {s : State Token Hash} {id epoch : ℕ} {ids : List Uuid} {now : Time}
      (h : s.requests id = some (.revoking epoch ids now)) (hshare : ¬ s.Shared) :
      Step s (.bump id) ((s.loggedOut epoch ids now).set id none)

end Steps
end Yappy.Auth
