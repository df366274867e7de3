import Yappy.AuthSessions

/-!
# Acting on a report

`applyReportAction` of `apps/api/src/lib/staffspace.ts` beside `refresh` of `apps/api/src/routes/auth.ts`,
statement by statement. A transaction shows at its commit, and the rows it has locked until then make others
wait. What follows a commit (the notices, the letter, the card) writes none of these tables and is left out,
and so are the moderation actions that are about no report. The callers pass 1 to 365 days.
-/
namespace Yappy.ReportActions

open Permissions (Time Uuid)
open Auth (AccessClaims)

/-! ## Tables -/

inductive ReportStatus
  | opened | reviewing | actioned | dismissed

def ReportStatus.text : ReportStatus → String
  | opened => "open"
  | reviewing => "reviewing"
  | actioned => "actioned"
  | dismissed => "dismissed"

def ReportStatus.handled : ReportStatus → Bool
  | actioned | dismissed => true
  | opened | reviewing => false

inductive ReportAction
  | resolve | dismiss | suspend | warn
  deriving DecidableEq

namespace ReportAction

def text : ReportAction → String
  | resolve => "resolve"
  | dismiss => "dismiss"
  | suspend => "suspend"
  | warn => "warn"

def status : ReportAction → ReportStatus
  | dismiss => .dismissed
  | _ => .actioned

/-- The action that `moderation_actions` keeps. -/
def recorded : ReportAction → ReportAction
  | suspend => suspend
  | dismiss => dismiss
  | _ => warn

lemma status_recorded (action : ReportAction) : action.recorded.status = action.status := by
  cases action <;> rfl

lemma handled_status (action : ReportAction) : action.status.handled = true := by
  cases action <;> rfl

end ReportAction

structure Report where
  id : Uuid
  targetType : String
  targetId : Uuid
  reason : String
  status : ReportStatus
  resolution : Option String
  resolvedAt : Option Time
  assignedToId : Option Uuid

structure User extends Auth.Account where
  id : Uuid
  isStaff : Bool
  isBot : Bool

structure Session (Hash : Type) extends Auth.Device Hash where
  userId : Uuid

structure ModerationAction where
  moderatorId : Uuid
  reportId : Uuid
  action : ReportAction
  targetType : String
  targetId : Uuid
  reason : String
  days : Option ℕ

structure AuditEntry where
  userId : Uuid
  action : String
  targetId : Uuid
  reportId : Uuid
  reason : Option String
  days : Option ℕ

structure Database (Hash : Type) where
  reports : KeyedTable Report.id
  users : KeyedTable User.id
  devices : KeyedTable fun d : Session Hash => d.id
  moderationActions : List ModerationAction
  auditLog : List AuditEntry

structure Env (Token Hash : Type) extends Auth.Env Token Hash where
  reference : Uuid → String

structure Input where
  reportId : Uuid
  actorId : Uuid
  action : ReportAction
  note : Option String
  suspendDays : Option ℕ
  staffCommand : Bool

inductive Answer
  | ok (message : String)
  | refused (message : String)
  | thrown (message : String)

namespace Input
variable (input : Input)

def days : ℕ := input.suspendDays.getD 7

def suspendedUntil (now : Time) : Time := now + input.days * 86400000

def outcome : String :=
  match input.action with
  | .suspend => "Account suspended for " ++ toString input.days ++ " days."
  | .dismiss => "Dismissed — no action taken."
  | .warn => "Official warning recorded and notification requested."
  | .resolve => "Resolved."

def moderationAction (report : Report) : ModerationAction where
  moderatorId := input.actorId
  reportId := input.reportId
  action := input.action.recorded
  targetType := report.targetType
  targetId := report.targetId
  reason := input.note.getD report.reason
  days := if input.action = .suspend then some input.days else none

def auditEntry (report : Report) : AuditEntry where
  userId := input.actorId
  action := "user." ++ input.action.text
  targetId := report.targetId
  reportId := input.reportId
  reason := input.note
  days := if input.action = .suspend then some input.days else none

end Input

def Report.closed (report : Report) (input : Input) (now : Time) : Report :=
  { report with
    status := input.action.status
    resolution := some (input.note.getD input.action.text)
    resolvedAt := some now
    assignedToId := some input.actorId }

namespace User
variable (user : User)

def suspendedAt (now : Time) : Bool := user.suspendedUntil.any fun suspendedUntil => now < suspendedUntil

def mayAct (now : Time) : Bool := user.isStaff && user.deletedAt.isNone && !user.suspendedAt now

def mayReceive (input : Input) (now : Time) : Bool :=
  user.deletedAt.isNone && !user.isStaff && !user.isBot && decide (user.id ≠ input.actorId) &&
    !(decide (input.action = .suspend) && user.suspendedAt now)

def suspended (ends : Time) (reason : String) : User :=
  { user with
    suspendedUntil := some ends
    suspensionReason := some reason
    tokenEpoch := user.tokenEpoch + 1 }

end User

namespace Database
variable {Token Hash : Type} (env : Env Token Hash) (db : Database Hash)

def suspend (target : Uuid) (ends : Time) (reason : String) (now : Time) : Database Hash :=
  { db with
    users := db.users.update (fun u => u.id = target) (fun u => u.suspended ends reason) fun _ => rfl
    devices := db.devices.update (fun d => d.userId = target && d.revokedAt.isNone)
      (fun d => { d with toDevice := d.toDevice.forgotten now }) fun _ => rfl }

def close (input : Input) (report : Report) (now : Time) : Database Hash :=
  { db with
    reports := db.reports.update (fun r => r.id = input.reportId) (fun r => r.closed input now) fun _ => rfl
    moderationActions := db.moderationActions ++ [input.moderationAction report]
    auditLog := if input.staffCommand then db.auditLog ++ [input.auditEntry report] else db.auditLog }

def act (input : Input) (report : Report) (ends : Option Time) (now : Time) : Database Hash :=
  let reason := input.note.getD ("Report " ++ env.reference input.reportId ++ ": " ++ report.reason)
  (ends.elim db fun ends => db.suspend report.targetId ends reason now).close input report now

def rotate (read : Session Hash) (next : Hash) (ttl : ℕ) (now : Time) : Database Hash :=
  { db with
    devices := db.devices.update (fun d => d.id = read.id)
      (fun d => { d with toDevice := d.toDevice.rotated read.toDevice next ttl now }) fun _ => rfl }

def revoke (read : Session Hash) (now : Time) : Database Hash :=
  { db with
    devices := db.devices.update (fun d => d.id = read.id)
      (fun d => { d with toDevice := d.toDevice.revoked now }) fun _ => rfl }

variable [DecidableEq Hash]

def byCurrent (hash : Hash) : Option (Session Hash) :=
  db.devices.rows.find? fun d => d.refreshTokenHash = some hash

def byPrevious (hash : Hash) : Option (Session Hash) :=
  db.devices.rows.find? fun d => d.previousRefreshTokenHash = some hash

end Database

/-! ## Calls and requests -/

inductive Stage
  | opened (report : Report)
  | locked (report : Report)
  /-- The one who acts may act: a staff command keeps its row shared. -/
  | vouched (report : Report)
  /-- The account may be acted on: a staff command keeps its row locked. -/
  | verified (report : Report)
  | writing (report : Report) (ends : Option Time)
  | acted
  | answered (answer : Answer)

namespace Stage

def Holds : Stage → Prop
  | locked _ | vouched _ | verified _ | writing _ _ => True
  | _ => False

def Shares : Stage → Prop
  | vouched _ | verified _ | writing _ _ => True
  | _ => False

def Locks (target : Uuid) : Stage → Prop
  | verified report | writing report _ => report.targetId = target
  | _ => False

def Acted : Stage → Prop
  | acted => True
  | answered (.ok _) => True
  | _ => False

end Stage

structure Call where
  input : Input
  stage : Stage

/-- `refresh` between its statements. -/
inductive Refresh (Hash : Type)
  | looking (hash : Hash)
  | missed (hash : Hash)
  | found (session : Session Hash)
  | reused (session : Session Hash)
  | loaded (session : Session Hash) (user : User)
  | rotating (session : Session Hash) (epoch : ℕ)
  | answering (userId : Uuid) (access : AccessClaims)

def Refresh.minted {Hash : Type} : Refresh Hash → Option (Uuid × ℕ)
  | rotating session epoch => some (session.userId, epoch)
  | answering userId access => some (userId, access.ep)
  | _ => none

structure Response where
  userId : Uuid
  access : AccessClaims

structure Suspension where
  target : Uuid
  ends : Time
  deriving DecidableEq

structure Commit where
  call : ℕ
  input : Input

structure State (Hash : Type) where
  clock : Time
  db : Database Hash
  calls : ℕ → Option Call
  refreshes : ℕ → Option (Refresh Hash)
  responses : List Response
  suspensions : List Suspension
  commits : List Commit

inductive Event (Hash : Type)
  | tick (now : Time)
  | read (id : ℕ) (input : Input)
  | lock (id : ℕ)
  | checkActor (id : ℕ)
  | checkTarget (id : ℕ)
  | prepare (id : ℕ)
  | commit (id : ℕ)
  | answer (id : ℕ)
  | throw (id : ℕ) (message : String)
  | refresh (id : ℕ) (hash : Hash)
  | lookup (id : ℕ)
  | lookupPrevious (id : ℕ)
  | load (id : ℕ)
  | check (id : ℕ)
  | rotate (id : ℕ) (next : Hash)
  | revoke (id : ℕ)
  | respond (id : ℕ)
  | drop (id : ℕ)

/-- The call of `applyReportAction` that an event is a step of. -/
def Event.call {Hash : Type} : Event Hash → Option ℕ
  | read id _ | lock id | checkActor id | checkTarget id | prepare id | commit id | answer id | throw id _ =>
    some id
  | _ => none

section Steps
variable {Token Hash : Type} (env : Env Token Hash)

namespace State
variable (s : State Hash)

def setCall (id : ℕ) (call : Call) : State Hash := { s with calls := Function.update s.calls id (some call) }

def setRefresh (id : ℕ) (refresh : Option (Refresh Hash)) : State Hash :=
  { s with refreshes := Function.update s.refreshes id refresh }

def ReportFree (id : ℕ) (reportId : Uuid) : Prop :=
  ∀ id' call, id' ≠ id → s.calls id' = some call → call.stage.Holds → call.input.reportId ≠ reportId

def Unlocked (id : ℕ) (userId : Uuid) : Prop :=
  ∀ id' call, id' ≠ id → s.calls id' = some call → call.input.staffCommand = true → ¬ call.stage.Locks userId

/-- Nor is it the one who gives another staff command. -/
def Unshared (id : ℕ) (userId : Uuid) : Prop :=
  ∀ id' call, id' ≠ id → s.calls id' = some call → call.input.staffCommand = true → call.stage.Shares →
    call.input.actorId ≠ userId

def opened (input : Input) : Stage :=
  match s.db.reports.find input.reportId with
  | none => .answered (.refused "That report does not exist.")
  | some report =>
    if report.status.handled then .answered (.refused ("Already handled (" ++ report.status.text ++ ")."))
    else .opened report

def relocked (input : Input) (report : Report) : Stage :=
  if (s.db.reports.find input.reportId).all fun row => row.status.handled then
    .answered (.refused "That report was already handled.")
  else if input.staffCommand then .locked report else .verified report

def actorChecked (input : Input) (report : Report) : Stage :=
  if (s.db.users.find input.actorId).any fun actor => actor.mayAct s.clock then .vouched report
  else .answered (.thrown "Staff access was revoked")

def targetChecked (input : Input) (report : Report) : Stage :=
  if (s.db.users.find report.targetId).any fun target => target.mayReceive input s.clock then .verified report
  else .answered (.thrown "Target account changed; review the case")

def prepared (input : Input) (report : Report) : Stage :=
  if input.action = .suspend then
    if report.targetType = "user" then .writing report (some (input.suspendedUntil s.clock))
    else .answered (.thrown "Only a user report can suspend an account")
  else .writing report none

def committed (id : ℕ) (input : Input) (report : Report) (ends : Option Time) : State Hash :=
  { s with
    db := s.db.act env input report ends s.clock
    suspensions := (ends.map (Suspension.mk report.targetId)).toList ++ s.suspensions
    commits := ⟨id, input⟩ :: s.commits }

def load (session : Session Hash) : Option (Refresh Hash) :=
  match session.toDevice.check s.clock with
  | .ok _ => ((s.db.users.find session.userId).filter fun user => user.deletedAt.isNone).map (.loaded session)
  | .error _ => none

/-- `assertNotSuspended` of what was read. -/
def check (session : Session Hash) (user : User) : Option (Refresh Hash) :=
  match user.toAccount.assertNotSuspended env.toEnv s.clock with
  | .ok _ => some (.rotating session user.tokenEpoch)
  | .error _ => none

variable [DecidableEq Hash]

def looked (hash : Hash) : Refresh Hash :=
  match s.db.byCurrent hash with
  | some session => .found session
  | none => .missed hash

/-- The token is not current: the retry goes on, and a late one ends the session. -/
def lookedPrevious (hash : Hash) : Option (Refresh Hash) :=
  match s.db.byPrevious hash with
  | some previous =>
    if previous.revokedAt.isNone then
      if previous.toDevice.withinGrace s.clock then some (.found previous) else some (.reused previous)
    else none
  | none => none

end State

variable [DecidableEq Hash]

inductive Step : State Hash → Event Hash → State Hash → Prop
  | tick {s : State Hash} {now : Time} (h : s.clock ≤ now) : Step s (.tick now) { s with clock := now }
  | read {s : State Hash} {id : ℕ} {input : Input} (h : s.calls id = none) :
      Step s (.read id input) (s.setCall id ⟨input, s.opened input⟩)
  | lock {s : State Hash} {id : ℕ} {input : Input} {report : Report}
      (h : s.calls id = some ⟨input, .opened report⟩) (hfree : s.ReportFree id input.reportId) :
      Step s (.lock id) (s.setCall id ⟨input, s.relocked input report⟩)
  | checkActor {s : State Hash} {id : ℕ} {input : Input} {report : Report}
      (h : s.calls id = some ⟨input, .locked report⟩) (hfree : s.Unlocked id input.actorId) :
      Step s (.checkActor id) (s.setCall id ⟨input, s.actorChecked input report⟩)
  | checkTarget {s : State Hash} {id : ℕ} {input : Input} {report : Report}
      (h : s.calls id = some ⟨input, .vouched report⟩) (hfree : s.Unlocked id report.targetId)
      (hshare : s.Unshared id report.targetId) :
      Step s (.checkTarget id) (s.setCall id ⟨input, s.targetChecked input report⟩)
  | prepare {s : State Hash} {id : ℕ} {input : Input} {report : Report}
      (h : s.calls id = some ⟨input, .verified report⟩) :
      Step s (.prepare id) (s.setCall id ⟨input, s.prepared input report⟩)
  | commit {s : State Hash} {id : ℕ} {input : Input} {report : Report} {ends : Option Time}
      (h : s.calls id = some ⟨input, .writing report ends⟩)
      (hfree : ends.isSome → s.Unlocked id report.targetId ∧ s.Unshared id report.targetId) :
      Step s (.commit id) ((s.committed env id input report ends).setCall id ⟨input, .acted⟩)
  | answer {s : State Hash} {id : ℕ} {input : Input} (h : s.calls id = some ⟨input, .acted⟩) :
      Step s (.answer id) (s.setCall id ⟨input, .answered (.ok input.outcome)⟩)
  | throw {s : State Hash} {id : ℕ} {call : Call} {message : String} (h : s.calls id = some call)
      (hstage : ∀ answer, call.stage ≠ .answered answer) :
      Step s (.throw id message) (s.setCall id ⟨call.input, .answered (.thrown message)⟩)
  | refresh {s : State Hash} {id : ℕ} {hash : Hash} (h : s.refreshes id = none) :
      Step s (.refresh id hash) (s.setRefresh id (some (.looking hash)))
  | lookup {s : State Hash} {id : ℕ} {hash : Hash} (h : s.refreshes id = some (.looking hash)) :
      Step s (.lookup id) (s.setRefresh id (some (s.looked hash)))
  | lookupPrevious {s : State Hash} {id : ℕ} {hash : Hash} (h : s.refreshes id = some (.missed hash)) :
      Step s (.lookupPrevious id) (s.setRefresh id (s.lookedPrevious hash))
  | load {s : State Hash} {id : ℕ} {session : Session Hash} (h : s.refreshes id = some (.found session)) :
      Step s (.load id) (s.setRefresh id (s.load session))
  | check {s : State Hash} {id : ℕ} {session : Session Hash} {user : User}
      (h : s.refreshes id = some (.loaded session user)) :
      Step s (.check id) (s.setRefresh id (s.check env session user))
  | rotate {s : State Hash} {id : ℕ} {session : Session Hash} {epoch : ℕ} {next : Hash}
      (h : s.refreshes id = some (.rotating session epoch)) :
      Step s (.rotate id next)
        ({ s with db := s.db.rotate session next env.refreshTokenTtl s.clock }.setRefresh id
          (some (.answering session.userId ⟨session.id, epoch⟩)))
  | revoke {s : State Hash} {id : ℕ} {session : Session Hash} (h : s.refreshes id = some (.reused session)) :
      Step s (.revoke id) ({ s with db := s.db.revoke session s.clock }.setRefresh id none)
  | respond {s : State Hash} {id : ℕ} {userId : Uuid} {access : AccessClaims}
      (h : s.refreshes id = some (.answering userId access)) :
      Step s (.respond id) ({ s with responses := ⟨userId, access⟩ :: s.responses }.setRefresh id none)
  | drop {s : State Hash} {id : ℕ} : Step s (.drop id) (s.setRefresh id none)

end Steps

/-! ## One report, one outcome -/

/-- A report has at most one moderation action, and the status of it. -/
structure OneOutcome {Hash : Type} (db : Database Hash) : Prop where
  once : ∀ reportId, (db.moderationActions.filter fun a => a.reportId = reportId).length ≤ 1
  status : ∀ a ∈ db.moderationActions, ∀ report, db.reports.find a.reportId = some report →
    report.status = a.action.status

section Run
variable {Token Hash : Type} {env : Env Token Hash} {s s' : State Hash} {id : ℕ} {input : Input}
  {report : Report} {ends : Option Time}

structure Filed (s : State Hash) : Prop where
  outcome : OneOutcome s.db
  calls : ∀ id, s.calls id = none
  refreshes : ∀ id, s.refreshes id = none
  responses : s.responses = []
  suspensions : s.suspensions = []
  commits : s.commits = []

/-- Every report has one outcome, that of the one call that acted on it, and no other call has answered
that it did. -/
structure Settled (s : State Hash) : Prop where
  outcome : OneOutcome s.db
  one : s.commits.Pairwise fun c c' => c.input.reportId ≠ c'.input.reportId
  recorded : ∀ c ∈ s.commits, ∃ report, c.input.moderationAction report ∈ s.db.moderationActions
  answered : ∀ id call, s.calls id = some call → call.stage.Acted → ⟨id, call.input⟩ ∈ s.commits

structure Orderly (s : State Hash) : Prop extends Settled s where
  held : ∀ {id call}, s.calls id = some call → call.stage.Holds →
    (∃ row, s.db.reports.find call.input.reportId = some row ∧ row.status.handled = false) ∧
      s.ReportFree id call.input.reportId

lemma find_closed (reports : KeyedTable Report.id) (input : Input) (now : Time) (reportId : Uuid) :
    (reports.update (fun r => r.id = input.reportId) (fun r => r.closed input now) fun _ => rfl).find reportId =
      (reports.find reportId).map fun r => if r.id = input.reportId then r.closed input now else r := by
  refine (KeyedTable.find_update ..).trans ?_
  simp only [decide_eq_true_eq]

lemma find_closed_of_ne {reports : KeyedTable Report.id} {now : Time} {reportId : Uuid}
    (h : reportId ≠ input.reportId) :
    (reports.update (fun r => r.id = input.reportId) (fun r => r.closed input now) fun _ => rfl).find reportId =
      reports.find reportId := by
  rw [find_closed]
  cases hf : reports.find reportId with
  | none => rfl
  | some r => exact congrArg some (if_neg ((KeyedTable.find_key hf).trans_ne h))

@[simp] lemma act_reports (db : Database Hash) (now : Time) : (db.act env input report ends now).reports =
    db.reports.update (fun r => r.id = input.reportId) (fun r => r.closed input now) fun _ => rfl := by
  cases ends <;> rfl

@[simp] lemma act_moderationActions (db : Database Hash) (now : Time) :
    (db.act env input report ends now).moderationActions =
      db.moderationActions ++ [input.moderationAction report] := by
  cases ends <;> rfl

lemma OneOutcome.unhandled {db : Database Hash} {row : Report} {reportId : Uuid} (h : OneOutcome db)
    (hrow : db.reports.find reportId = some row) (hopen : row.status.handled = false) :
    ∀ a ∈ db.moderationActions, a.reportId ≠ reportId := by
  intro a ha he
  have hstatus := h.status a ha row (he ▸ hrow)
  rw [hstatus, ReportAction.handled_status] at hopen
  cases hopen

lemma OneOutcome.act {db : Database Hash} {row : Report} {now : Time} (h : OneOutcome db)
    (hrow : db.reports.find input.reportId = some row) (hopen : row.status.handled = false) :
    OneOutcome (db.act env input report ends now) where
  once reportId := by
    rw [act_moderationActions, List.filter_append, List.length_append]
    by_cases he : input.reportId = reportId
    · have hnone : db.moderationActions.filter (fun a => a.reportId = reportId) = [] := by
        refine List.filter_eq_nil_iff.mpr fun a ha => ?_
        simpa using he ▸ h.unhandled hrow hopen a ha
      rw [hnone]
      exact (Nat.zero_add _).trans_le (List.length_filter_le ..)
    · have hlast : [input.moderationAction report].filter (fun a => a.reportId = reportId) = [] := by
        simp [Input.moderationAction, he]
      rw [hlast]
      exact h.once reportId
  status a ha report' hfind := by
    rw [act_moderationActions] at ha
    rw [act_reports] at hfind
    rcases List.mem_append.mp ha with ha | ha
    · rw [find_closed_of_ne (h.unhandled hrow hopen a ha)] at hfind
      exact h.status a ha report' hfind
    · obtain rfl := List.mem_singleton.mp ha
      rw [find_closed] at hfind
      obtain ⟨r, hr, rfl⟩ := Option.map_eq_some_iff.mp hfind
      have hid : r.id = input.reportId := KeyedTable.find_key hr
      rw [if_pos hid]
      exact (ReportAction.status_recorded input.action).symm

namespace State

@[simp] lemma setCall_self (s : State Hash) (id : ℕ) (call : Call) :
    (s.setCall id call).calls id = some call := Function.update_self ..

lemma setCall_of_ne (s : State Hash) {id id' : ℕ} (call : Call) (h : id' ≠ id) :
    (s.setCall id call).calls id' = s.calls id' := Function.update_of_ne h ..

@[simp] lemma setRefresh_self (s : State Hash) (id : ℕ) (refresh : Option (Refresh Hash)) :
    (s.setRefresh id refresh).refreshes id = refresh := Function.update_self ..

lemma setRefresh_of_ne (s : State Hash) {id id' : ℕ} (refresh : Option (Refresh Hash)) (h : id' ≠ id) :
    (s.setRefresh id refresh).refreshes id' = s.refreshes id' := Function.update_of_ne h ..

end State

open State

lemma Settled.setCall {call : Call} (h : Settled s)
    (hacted : call.stage.Acted → ⟨id, call.input⟩ ∈ s.commits) : Settled (s.setCall id call) where
  outcome := h.outcome
  one := h.one
  recorded := h.recorded
  answered id' call' hc := by
    by_cases he : id' = id
    · subst he
      rw [setCall_self] at hc
      exact Option.some.inj hc ▸ hacted
    · exact h.answered id' call' ((setCall_of_ne s call he).symm.trans hc)

lemma Orderly.setCall {call : Call} (h : Orderly s)
    (hacted : call.stage.Acted → ⟨id, call.input⟩ ∈ s.commits)
    (hheld : call.stage.Holds →
      (∃ row, s.db.reports.find call.input.reportId = some row ∧ row.status.handled = false) ∧
        s.ReportFree id call.input.reportId) : Orderly (s.setCall id call) where
  toSettled := h.toSettled.setCall hacted
  held := by
    intro id' call' hc hholds
    by_cases he : id' = id
    · subst he
      rw [setCall_self] at hc
      obtain rfl := Option.some.inj hc
      refine ⟨(hheld hholds).1, fun id'' call'' hne hc'' => ?_⟩
      exact (hheld hholds).2 id'' call'' hne ((setCall_of_ne s _ hne).symm.trans hc'')
    · rw [setCall_of_ne s call he] at hc
      refine ⟨(h.held hc hholds).1, fun id'' call'' hne hc'' hholds'' => ?_⟩
      by_cases he'' : id'' = id
      · subst he''
        rw [setCall_self] at hc''
        obtain rfl := Option.some.inj hc''
        exact ((hheld hholds'').2 id' call' he hc hholds).symm
      · exact (h.held hc hholds).2 id'' call'' hne ((setCall_of_ne s _ he'').symm.trans hc'') hholds''

lemma Orderly.advance {stage stage' : Stage} (h : Orderly s) (hc : s.calls id = some ⟨input, stage⟩)
    (hholds : stage.Holds) (hacted : ¬ stage'.Acted) : Orderly (s.setCall id ⟨input, stage'⟩) := by
  have hheld := h.held hc hholds
  exact h.setCall (fun ha => absurd ha hacted) fun _ => hheld

lemma Orderly.away {call : Call} (h : Orderly s) (hacted : ¬ call.stage.Acted) (hholds : ¬ call.stage.Holds) :
    Orderly (s.setCall id call) :=
  h.setCall (fun ha => absurd ha hacted) fun hh => absurd hh hholds

lemma opened_away (s : State Hash) (input : Input) : ¬ (s.opened input).Acted ∧ ¬ (s.opened input).Holds := by
  unfold State.opened
  repeat' split
  all_goals exact ⟨id, id⟩

lemma relocked_cases (s : State Hash) (input : Input) (report : Report) : ¬ (s.relocked input report).Acted ∧
    ((s.relocked input report).Holds →
      ∃ row, s.db.reports.find input.reportId = some row ∧ row.status.handled = false) := by
  unfold State.relocked
  split
  · exact ⟨id, False.elim⟩
  case isFalse hall =>
    refine ⟨by split <;> exact id, fun _ => ?_⟩
    cases hf : s.db.reports.find input.reportId with
    | none => simp [hf] at hall
    | some row => exact ⟨row, rfl, by simpa [hf] using hall⟩

lemma actorChecked_acted (s : State Hash) (input : Input) (report : Report) :
    ¬ (s.actorChecked input report).Acted := by
  unfold State.actorChecked
  split <;> exact id

lemma targetChecked_acted (s : State Hash) (input : Input) (report : Report) :
    ¬ (s.targetChecked input report).Acted := by
  unfold State.targetChecked
  split <;> exact id

lemma prepared_acted (s : State Hash) (input : Input) (report : Report) :
    ¬ (s.prepared input report).Acted := by
  unfold State.prepared
  repeat' split
  all_goals exact id

lemma Orderly.committed (h : Orderly s) (hc : s.calls id = some ⟨input, .writing report ends⟩) :
    Orderly ((s.committed env id input report ends).setCall id ⟨input, .acted⟩) := by
  obtain ⟨⟨row, hrow, hopen⟩, hfree⟩ := h.held hc trivial
  have hnone := h.outcome.unhandled hrow hopen
  refine ⟨⟨h.outcome.act hrow hopen, ?_, ?_, ?_⟩, ?_⟩
  · refine List.pairwise_cons.mpr ⟨fun c hmem he => ?_, h.one⟩
    obtain ⟨report', hrecorded⟩ := h.recorded c hmem
    exact hnone _ hrecorded he.symm
  · intro c hmem
    have hactions : (s.db.act env input report ends s.clock).moderationActions =
        s.db.moderationActions ++ [input.moderationAction report] := act_moderationActions s.db s.clock
    rcases List.mem_cons.mp hmem with rfl | hmem
    · exact ⟨report, hactions ▸ List.mem_append_right _ (List.mem_singleton_self _)⟩
    · obtain ⟨report', hrecorded⟩ := h.recorded c hmem
      exact ⟨report', hactions ▸ List.mem_append_left _ hrecorded⟩
  · intro id' call' hc' hacted
    by_cases he : id' = id
    · subst he
      rw [setCall_self] at hc'
      obtain rfl := Option.some.inj hc'
      exact List.mem_cons_self
    · exact List.mem_cons_of_mem _ (h.answered id' call' ((setCall_of_ne _ _ he).symm.trans hc') hacted)
  · intro id' call' hc' hholds
    by_cases he : id' = id
    · subst he
      rw [setCall_self] at hc'
      obtain rfl := Option.some.inj hc'
      exact hholds.elim
    · rw [setCall_of_ne _ _ he] at hc'
      obtain ⟨⟨row', hrow', hopen'⟩, hfree'⟩ := h.held hc' hholds
      have hne : call'.input.reportId ≠ input.reportId := hfree id' call' he hc' hholds
      refine ⟨⟨row', ?_, hopen'⟩, fun id'' call'' hne' hc'' hholds'' => ?_⟩
      · have hfind :
            (s.db.act env input report ends s.clock).reports.find call'.input.reportId = some row' := by
          rw [act_reports, find_closed_of_ne hne, hrow']
        exact hfind
      · by_cases he'' : id'' = id
        · subst he''
          rw [setCall_self] at hc''
          obtain rfl := Option.some.inj hc''
          exact hholds''.elim
        · exact hfree' id'' call'' hne' ((setCall_of_ne _ _ he'').symm.trans hc'') hholds''

lemma Orderly.idle (h : Orderly s) (hreports : s'.db.reports = s.db.reports)
    (hactions : s'.db.moderationActions = s.db.moderationActions) (hcalls : s'.calls = s.calls)
    (hcommits : s'.commits = s.commits) : Orderly s' where
  outcome := {
    once := hactions ▸ h.outcome.once
    status := by
      rw [hactions, hreports]
      exact h.outcome.status }
  one := hcommits ▸ h.one
  recorded := by
    rw [hcommits, hactions]
    exact h.recorded
  answered := by
    rw [hcommits, hcalls]
    exact h.answered
  held := by
    intro id call hc hholds
    unfold State.ReportFree
    rw [hreports, hcalls]
    exact h.held (hcalls ▸ hc) hholds

lemma Filed.orderly (h : Filed s) : Orderly s where
  outcome := h.outcome
  one := by simp [h.commits]
  recorded := by simp [h.commits]
  answered id call hc := by simp [h.calls] at hc
  held := by
    intro id call hc
    simp [h.calls] at hc

/-! ## A suspension stands -/

def Minted (s : State Hash) (userId : Uuid) (epoch : ℕ) : Prop :=
  (∃ id refresh, s.refreshes id = some refresh ∧ refresh.minted = some (userId, epoch)) ∨
    ∃ r ∈ s.responses, r.userId = userId ∧ r.access.ep = epoch

/-- The suspensions whose moment has not come. -/
def Standing (s : State Hash) (x : Suspension) : Prop := x ∈ s.suspensions ∧ s.clock < x.ends

/-- Until the moment a suspension named the account is suspended at least until then, and no refresh has
brought an access token of its current epoch. -/
structure Enforced (s : State Hash) : Prop where
  suspended : ∀ x, Standing s x → ∀ user, s.db.users.find x.target = some user →
    ∃ ends, user.suspendedUntil = some ends ∧ x.ends ≤ ends
  refused : ∀ x, Standing s x → ∀ user, s.db.users.find x.target = some user →
    ∀ r ∈ s.responses, r.userId = x.target → r.access.ep ≠ user.tokenEpoch

/-- A suspension that is about to commit does not end before the one of the account that still stands. -/
def Extends (s : State Hash) : Event Hash → Prop
  | .commit id => ∀ input report ends, s.calls id = some ⟨input, .writing report (some ends)⟩ →
      ∀ user, s.db.users.find report.targetId = some user → ∀ suspendedUntil,
        user.suspendedUntil = some suspendedUntil → s.clock < suspendedUntil → suspendedUntil ≤ ends
  | _ => True

/-- What keeps the epochs of the access tokens behind: the account as a refresh read it before. -/
structure Guarded (s : State Hash) : Prop where
  suspended : ∀ {x user}, Standing s x → s.db.users.find x.target = some user →
    ∃ ends, user.suspendedUntil = some ends ∧ x.ends ≤ ends
  spent : ∀ {x user epoch}, Standing s x → s.db.users.find x.target = some user → Minted s x.target epoch →
    epoch < user.tokenEpoch
  minted : ∀ {userId user epoch}, s.db.users.find userId = some user → Minted s userId epoch →
    epoch ≤ user.tokenEpoch
  loaded : ∀ {id session read user}, s.refreshes id = some (.loaded session read) →
    s.db.users.find session.userId = some user → read.tokenEpoch ≤ user.tokenEpoch ∧
      ∀ x, Standing s x → x.target = session.userId → read.tokenEpoch < user.tokenEpoch ∨
        ∃ ends, read.suspendedUntil = some ends ∧ x.ends ≤ ends

lemma Guarded.enforced (h : Guarded s) : Enforced s where
  suspended _ hx _ hu := h.suspended hx hu
  refused _ hx _ hu r hr he := (h.spent hx hu (Or.inr ⟨r, hr, he, rfl⟩)).ne

lemma Minted.of_setRefresh {refresh : Option (Refresh Hash)} {userId epoch : ℕ}
    (h : Minted (s.setRefresh id refresh) userId epoch) :
    (∃ r, refresh = some r ∧ r.minted = some (userId, epoch)) ∨ Minted s userId epoch := by
  rcases h with ⟨id', r, hr, hm⟩ | h
  · by_cases he : id' = id
    · subst he
      rw [setRefresh_self] at hr
      exact Or.inl ⟨r, hr, hm⟩
    · rw [setRefresh_of_ne _ _ he] at hr
      exact Or.inr (Or.inl ⟨id', r, hr, hm⟩)
  · exact Or.inr (Or.inr h)

lemma Guarded.setRefresh {refresh : Option (Refresh Hash)} (h : Guarded s)
    (hminted : ∀ r userId epoch, refresh = some r → r.minted = some (userId, epoch) →
      ∀ user, s.db.users.find userId = some user → epoch ≤ user.tokenEpoch ∧
        ∀ x, Standing s x → x.target = userId → epoch < user.tokenEpoch)
    (hloaded : ∀ session read, refresh = some (.loaded session read) → ∀ user,
      s.db.users.find session.userId = some user → read.tokenEpoch ≤ user.tokenEpoch ∧
        ∀ x, Standing s x → x.target = session.userId → read.tokenEpoch < user.tokenEpoch ∨
          ∃ ends, read.suspendedUntil = some ends ∧ x.ends ≤ ends) : Guarded (s.setRefresh id refresh) where
  suspended hx hu := h.suspended hx hu
  spent := by
    intro x user epoch hx hu hm
    rcases hm.of_setRefresh with ⟨r, hr, hm⟩ | hm
    · exact (hminted r _ _ hr hm user hu).2 x hx rfl
    · exact h.spent hx hu hm
  minted := by
    intro userId user epoch hu hm
    rcases hm.of_setRefresh with ⟨r, hr, hm⟩ | hm
    · exact (hminted r _ _ hr hm user hu).1
    · exact h.minted hu hm
  loaded := by
    intro id' session read user hr hu
    by_cases he : id' = id
    · subst he
      rw [setRefresh_self] at hr
      exact hloaded session read hr user hu
    · exact h.loaded ((setRefresh_of_ne s _ he).symm.trans hr) hu

lemma Guarded.quiet {refresh : Option (Refresh Hash)} (h : Guarded s)
    (hminted : ∀ r, refresh = some r → r.minted = none)
    (hloaded : ∀ session read, refresh ≠ some (.loaded session read)) : Guarded (s.setRefresh id refresh) := by
  refine h.setRefresh (fun r userId epoch hr hm => ?_) fun session read hr => absurd hr (hloaded session read)
  rw [hminted r hr] at hm
  cases hm

lemma Guarded.ended (h : Guarded s) : Guarded (s.setRefresh id none) :=
  h.quiet (fun _ hr => by cases hr) fun _ _ he => by cases he

lemma looked_minted [DecidableEq Hash] (s : State Hash) (hash : Hash) :
    (s.looked hash).minted = none ∧ ∀ session read, s.looked hash ≠ .loaded session read := by
  unfold State.looked
  split <;> exact ⟨rfl, fun _ _ he => by cases he⟩

lemma lookedPrevious_minted [DecidableEq Hash] (s : State Hash) (hash : Hash) :
    (∀ r, s.lookedPrevious hash = some r → r.minted = none) ∧
      ∀ session read, s.lookedPrevious hash ≠ some (.loaded session read) := by
  unfold State.lookedPrevious
  repeat' split
  · exact ⟨fun r hr => Option.some.inj hr ▸ rfl, fun _ _ he => by cases he⟩
  · exact ⟨fun r hr => Option.some.inj hr ▸ rfl, fun _ _ he => by cases he⟩
  · exact ⟨fun _ hr => (by cases hr), fun _ _ he => by cases he⟩
  · exact ⟨fun _ hr => (by cases hr), fun _ _ he => by cases he⟩

lemma load_cases {session : Session Hash} {refresh : Refresh Hash} (h : s.load session = some refresh) :
    ∃ user, s.db.users.find session.userId = some user ∧ refresh = .loaded session user := by
  unfold State.load at h
  split at h
  · obtain ⟨user, hu, rfl⟩ := Option.map_eq_some_iff.mp h
    exact ⟨user, (Option.filter_eq_some_iff.mp hu).1, rfl⟩
  · cases h

lemma check_cases {session : Session Hash} {read : User} {refresh : Refresh Hash}
    (h : s.check env session read = some refresh) : refresh = .rotating session read.tokenEpoch ∧
      ∀ ends, read.suspendedUntil = some ends → ends ≤ s.clock := by
  unfold State.check Auth.Account.assertNotSuspended at h
  cases hu : read.suspendedUntil with
  | none =>
    simp only [hu] at h
    exact ⟨(Option.some.inj h).symm, nofun⟩
  | some suspendedUntil =>
    simp only [hu] at h
    by_cases hlt : s.clock < suspendedUntil
    · rw [if_pos hlt] at h
      cases h
    · rw [if_neg hlt] at h
      refine ⟨(Option.some.inj h).symm, fun ends he => ?_⟩
      exact Option.some.inj he ▸ Nat.le_of_not_lt hlt

lemma Guarded.load {session : Session Hash} (h : Guarded s) : Guarded (s.setRefresh id (s.load session)) := by
  refine h.setRefresh (fun r userId epoch hr hm => ?_) fun session' read hr user hu => ?_
  · obtain ⟨user, -, rfl⟩ := load_cases hr
    cases hm
  · obtain ⟨user', hu', he⟩ := load_cases hr
    obtain ⟨rfl, rfl⟩ := Refresh.loaded.inj he
    obtain rfl := Option.some.inj (hu'.symm.trans hu)
    exact ⟨le_rfl, fun x hx ht => Or.inr (h.suspended hx (ht ▸ hu))⟩

lemma Guarded.check {session : Session Hash} {read : User} (h : Guarded s)
    (hr : s.refreshes id = some (.loaded session read)) :
    Guarded (s.setRefresh id (s.check env session read)) := by
  refine h.setRefresh (fun r userId epoch hc hm user hu => ?_) fun session' read' hc => ?_
  · obtain ⟨rfl, hpast⟩ := check_cases hc
    obtain ⟨rfl, rfl⟩ := Prod.mk.inj (Option.some.inj hm)
    obtain ⟨hle, hlt⟩ := h.loaded hr hu
    refine ⟨hle, fun x hx ht => (hlt x hx ht).resolve_right ?_⟩
    rintro ⟨ends, hends, hxe⟩
    exact absurd hx.2 ((hxe.trans (hpast ends hends)).not_gt)
  · obtain ⟨he, -⟩ := check_cases hc
    cases he

lemma Guarded.pass {refresh : Refresh Hash} {userId epoch : ℕ} (h : Guarded s) (hm : Minted s userId epoch)
    (hminted : refresh.minted = some (userId, epoch)) : Guarded (s.setRefresh id (some refresh)) := by
  refine h.setRefresh (fun r userId' epoch' hr hm' user hu => ?_) fun session read hr => ?_
  · obtain rfl := Option.some.inj hr
    obtain ⟨rfl, rfl⟩ := Prod.mk.inj (Option.some.inj (hminted.symm.trans hm'))
    exact ⟨h.minted hu hm, fun x hx ht => h.spent hx (ht ▸ hu) (ht ▸ hm)⟩
  · obtain rfl := Option.some.inj hr
    cases hminted

lemma Filed.guarded (h : Filed s) : Guarded s where
  suspended hx := by simp [Standing, h.suspensions] at hx
  spent hx := by simp [Standing, h.suspensions] at hx
  minted _ hm := by simp [Minted, h.refreshes, h.responses] at hm
  loaded hr := by simp [h.refreshes] at hr

lemma Guarded.mono (h : Guarded s) (husers : s'.db.users = s.db.users)
    (hstanding : ∀ x, Standing s' x → Standing s x)
    (hminted : ∀ userId epoch, Minted s' userId epoch → Minted s userId epoch)
    (hrefreshes : ∀ id session read, s'.refreshes id = some (.loaded session read) →
      s.refreshes id = some (.loaded session read)) : Guarded s' where
  suspended hx hu := h.suspended (hstanding _ hx) (husers ▸ hu)
  spent hx hu hm := h.spent (hstanding _ hx) (husers ▸ hu) (hminted _ _ hm)
  minted hu hm := h.minted (husers ▸ hu) (hminted _ _ hm)
  loaded hr hu := by
    obtain ⟨hle, hlt⟩ := h.loaded (hrefreshes _ _ _ hr) (husers ▸ hu)
    exact ⟨hle, fun x hx => hlt x (hstanding x hx)⟩

lemma Guarded.tick {now : Time} (h : Guarded s) (hnow : s.clock ≤ now) : Guarded { s with clock := now } :=
  h.mono rfl (fun _ hx => ⟨hx.1, hnow.trans_lt hx.2⟩) (fun _ _ hm => hm) fun _ _ _ hr => hr

lemma Guarded.respond {userId : Uuid} {access : AccessClaims} (h : Guarded s)
    (hr : s.refreshes id = some (.answering userId access)) :
    Guarded { s with responses := ⟨userId, access⟩ :: s.responses } := by
  refine h.mono rfl (fun _ hx => hx) (fun userId' epoch hm => ?_) fun _ _ _ hr => hr
  rcases hm with hm | ⟨r, hmem, hm⟩
  · exact Or.inl hm
  · rcases List.mem_cons.mp hmem with rfl | hmem
    · obtain ⟨rfl, rfl⟩ := hm
      exact Or.inl ⟨id, _, hr, rfl⟩
    · exact Or.inr ⟨r, hmem, hm⟩

section Committed
variable {suspendedUntil : Time}

lemma find_suspend (db : Database Hash) (target : Uuid) (ends : Time) (reason : String) (now : Time)
    (userId : Uuid) : (db.suspend target ends reason now).users.find userId =
      (db.users.find userId).map fun u => if u.id = target then u.suspended ends reason else u := by
  refine (KeyedTable.find_update db.users (fun u => u.id = target) (fun u => u.suspended ends reason)
    (fun _ => rfl) userId).trans ?_
  simp only [decide_eq_true_eq]

lemma find_committed {userId : Uuid} {user : User}
    (h : (s.committed env id input report (some suspendedUntil)).db.users.find userId = some user) :
    ∃ before, s.db.users.find userId = some before ∧
      (userId = report.targetId ∧ user.suspendedUntil = some suspendedUntil ∧
          user.tokenEpoch = before.tokenEpoch + 1 ∨
        userId ≠ report.targetId ∧ user = before) := by
  have hfind := find_suspend s.db report.targetId suspendedUntil
    (input.note.getD ("Report " ++ env.reference input.reportId ++ ": " ++ report.reason)) s.clock userId
  obtain ⟨before, hbefore, rfl⟩ := Option.map_eq_some_iff.mp (hfind.symm.trans h)
  have hid : before.id = userId := KeyedTable.find_key hbefore
  refine ⟨before, hbefore, ?_⟩
  by_cases he : userId = report.targetId
  · rw [if_pos (hid.trans he)]
    exact Or.inl ⟨he, rfl, rfl⟩
  · rw [if_neg (hid.trans_ne he)]
    exact Or.inr ⟨he, rfl⟩

lemma standing_committed {x : Suspension}
    (h : Standing (s.committed env id input report (some suspendedUntil)) x) :
    x = ⟨report.targetId, suspendedUntil⟩ ∨ Standing s x := by
  rcases List.mem_cons.mp h.1 with he | hmem
  · exact Or.inl he
  · exact Or.inr ⟨hmem, h.2⟩

lemma Guarded.committed (h : Guarded s)
    (hok : ∀ user, s.db.users.find report.targetId = some user → ∀ standing,
      user.suspendedUntil = some standing → s.clock < standing → standing ≤ suspendedUntil) :
    Guarded (s.committed env id input report (some suspendedUntil)) where
  suspended := by
    intro x user hx hu
    obtain ⟨before, hbefore, ⟨ht, hends, -⟩ | ⟨ht, rfl⟩⟩ := find_committed hu
    · refine ⟨suspendedUntil, hends, ?_⟩
      rcases standing_committed hx with rfl | hx
      · exact le_rfl
      · -- the account was suspended by `x` at least, which the new suspension is not to cut short
        obtain ⟨standing, hstanding, hle⟩ := h.suspended hx hbefore
        exact hle.trans (hok before (ht ▸ hbefore) standing hstanding (hx.2.trans_le hle))
    · rcases standing_committed hx with rfl | hx
      · exact absurd rfl ht
      · exact h.suspended hx hbefore
  spent := by
    intro x user epoch hx hu hm
    obtain ⟨before, hbefore, ⟨-, -, hepoch⟩ | ⟨ht, rfl⟩⟩ := find_committed hu
    · exact hepoch ▸ Nat.lt_succ_of_le (h.minted hbefore hm)
    · rcases standing_committed hx with rfl | hx
      · exact absurd rfl ht
      · exact h.spent hx hbefore hm
  minted := by
    intro userId user epoch hu hm
    obtain ⟨before, hbefore, ⟨-, -, hepoch⟩ | ⟨-, rfl⟩⟩ := find_committed hu
    · exact hepoch ▸ Nat.le_succ_of_le (h.minted hbefore hm)
    · exact h.minted hbefore hm
  loaded := by
    intro id' session read user hr hu
    obtain ⟨before, hbefore, ⟨-, -, hepoch⟩ | ⟨ht, rfl⟩⟩ := find_committed hu
    · have hlt : read.tokenEpoch < user.tokenEpoch := hepoch ▸ Nat.lt_succ_of_le (h.loaded hr hbefore).1
      exact ⟨hlt.le, fun _ _ _ => Or.inl hlt⟩
    · refine ⟨(h.loaded hr hbefore).1, fun x hx he => ?_⟩
      rcases standing_committed hx with rfl | hx
      · exact absurd he.symm ht
      · exact (h.loaded hr hbefore).2 x hx he

end Committed

/-! ## Runs -/

variable [DecidableEq Hash] {i : Event Hash}

lemma Orderly.step (h : Orderly s) (hs : Step env s i s') : Orderly s' := by
  cases hs with
  | tick => exact h.idle rfl rfl rfl rfl
  | read =>
    obtain ⟨hacted, hholds⟩ := opened_away s _
    exact h.away hacted hholds
  | lock hc hfree =>
    obtain ⟨hacted, hrow⟩ := relocked_cases s _ _
    exact h.setCall (fun ha => absurd ha hacted) fun hholds => ⟨hrow hholds, hfree⟩
  | checkActor hc => exact h.advance hc trivial (actorChecked_acted s _ _)
  | checkTarget hc => exact h.advance hc trivial (targetChecked_acted s _ _)
  | prepare hc => exact h.advance hc trivial (prepared_acted s _ _)
  | commit hc => exact h.committed hc
  | answer hc =>
    have hmem := h.answered _ _ hc trivial
    exact h.setCall (fun _ => hmem) False.elim
  | throw => exact h.away id id
  | refresh | lookup | lookupPrevious | load | check | respond | drop | rotate | revoke =>
    exact h.idle rfl rfl rfl rfl

lemma step_db {id : ℕ} (hs : Step env s i s') (hcall : i.call = some id) :
    s'.db = s.db ∨ ∃ input, s'.commits = ⟨id, input⟩ :: s.commits := by
  cases hs with
  | commit =>
    obtain rfl := Option.some.inj hcall
    exact Or.inr ⟨_, rfl⟩
  | read | lock | checkActor | checkTarget | prepare | answer | throw => exact Or.inl rfl
  | tick | refresh | lookup | lookupPrevious | load | check | respond | drop | rotate | revoke => cases hcall

lemma Guarded.step (h : Guarded s) (hok : Extends s i) (hs : Step env s i s') : Guarded s' := by
  cases hs with
  | tick hnow => exact h.tick hnow
  | @commit id input report ends hc =>
    cases ends with
    | none =>
      have hsame : Guarded (s.committed env id input report none) :=
        h.mono rfl (fun _ hx => hx) (fun _ _ hm => hm) fun _ _ _ hr => hr
      exact ⟨hsame.suspended, hsame.spent, hsame.minted, hsame.loaded⟩
    | some ends =>
      have hnew : Guarded (s.committed env id input report (some ends)) :=
        h.committed (hok input report ends hc)
      exact ⟨hnew.suspended, hnew.spent, hnew.minted, hnew.loaded⟩
  | read | lock | checkActor | checkTarget | prepare | answer | throw =>
    exact ⟨h.suspended, h.spent, h.minted, h.loaded⟩
  | refresh => exact h.quiet (fun r hr => Option.some.inj hr ▸ rfl) fun _ _ he => by cases he
  | lookup =>
    obtain ⟨hminted, hloaded⟩ := looked_minted s _
    exact h.quiet (fun r hr => Option.some.inj hr ▸ hminted) fun session read he =>
      hloaded session read (Option.some.inj he)
  | lookupPrevious =>
    obtain ⟨hminted, hloaded⟩ := lookedPrevious_minted s _
    exact h.quiet hminted hloaded
  | load => exact h.load
  | check hr => exact h.check hr
  | @rotate id session epoch next hr =>
    have hsame : Guarded { s with db := s.db.rotate session next env.refreshTokenTtl s.clock } :=
      ⟨h.suspended, h.spent, h.minted, h.loaded⟩
    exact hsame.pass (Or.inl ⟨id, _, hr, rfl⟩) rfl
  | @revoke id session hr =>
    have hsame : Guarded { s with db := s.db.revoke session s.clock } :=
      ⟨h.suspended, h.spent, h.minted, h.loaded⟩
    exact hsame.ended
  | respond hr => exact (h.respond hr).ended
  | drop => exact h.ended

/-- Each report has at most one moderation action and its status, and a call that is not the one to act on
its report does not answer that it was and changes nothing. Where no suspension ends before the one that
stands, every suspension stands until the moment it named, and no refresh brings a current token until then. -/
theorem reports_settled {s₀ : State Hash} {entries : List (State Hash × Event Hash × State Hash)}
    (h₀ : Filed s₀) (hrun : History (Step env) s₀ entries s) (hok : ∀ e ∈ entries, Extends e.1 e.2.1) :
    Settled s ∧ Enforced s ∧ ∀ e ∈ entries, ∀ id, e.2.1.call = some id →
      e.2.2.db = e.1.db ∨ ∃ input, e.2.2.commits = ⟨id, input⟩ :: e.1.commits := by
  obtain ⟨⟨horderly, hguarded⟩, hentries⟩ := @History.forall_entries _ _ (Step env) _ _ _
    (fun s => Orderly s ∧ Guarded s) Extends (fun s i s' => ∀ id, i.call = some id →
      s'.db = s.db ∨ ∃ input, s'.commits = ⟨id, input⟩ :: s.commits) hrun ⟨h₀.orderly, h₀.guarded⟩
    (fun _ _ _ h hok hs => ⟨⟨h.1.step hs, h.2.step hok hs⟩, fun _ hcall => step_db hs hcall⟩) hok
  exact ⟨horderly.toSettled, hguarded.enforced, hentries⟩

/-! ## A call by itself -/

lemma run_suspend {ok : State Hash → Event Hash → Prop} {row : Report} (hc : s.calls id = none)
    (hidle : ∀ id' call, s.calls id' = some call → call.stage = .acted)
    (hrow : s.db.reports.find input.reportId = some row) (hopen : row.status.handled = false)
    (htype : row.targetType = "user") (haction : input.action = .suspend) (hstaff : input.staffCommand = false)
    (hok : ∀ s', ok s' (.read id input) ∧ ok s' (.lock id) ∧ ok s' (.prepare id))
    (hcommit : ok (s.setCall id ⟨input, .writing row (some (input.suspendedUntil s.clock))⟩) (.commit id)) :
    RunWhere (Step env) ok s ((s.committed env id input row (some (input.suspendedUntil s.clock))).setCall id
      ⟨input, .acted⟩) := by
  have hset : ∀ call call' : Call, (s.setCall id call).setCall id call' = s.setCall id call' := by
    simp [State.setCall]
  have hother : ∀ (call : Call) id' call', id' ≠ id → (s.setCall id call).calls id' = some call' →
      call'.stage = .acted := fun call id' call' he hc' =>
    hidle id' call' ((setCall_of_ne s call he).symm.trans hc')
  have hread : Step env s (.read id input) (s.setCall id ⟨input, .opened row⟩) := by
    have hstage : s.opened input = .opened row := by simp [State.opened, hrow, hopen]
    exact hstage ▸ .read hc
  have hlock : Step env (s.setCall id ⟨input, .opened row⟩) (.lock id)
      (s.setCall id ⟨input, .verified row⟩) := by
    have hs := @Step.lock _ _ env _ _ id input row (setCall_self s id _) fun id' call he hc' hholds => by
      rw [hother _ id' call he hc'] at hholds
      exact hholds.elim
    have hstage : (s.setCall id ⟨input, .opened row⟩).relocked input row = .verified row := by
      have hfind : (s.setCall id ⟨input, .opened row⟩).db.reports.find input.reportId = some row := hrow
      rw [State.relocked, hfind, Option.all_some, hopen, hstaff]
      rfl
    rwa [hstage, hset] at hs
  have hprepare : Step env (s.setCall id ⟨input, .verified row⟩) (.prepare id)
      (s.setCall id ⟨input, .writing row (some (input.suspendedUntil s.clock))⟩) := by
    have hs := @Step.prepare _ _ env _ _ id input row (setCall_self s id _)
    rwa [State.prepared, if_pos haction, if_pos htype, hset] at hs
  have hact := @Step.commit _ _ env _ _ id input row (some (input.suspendedUntil s.clock))
    (setCall_self s id _) fun _ =>
    ⟨fun id' call he hc' _ hlocks => by rw [hother _ id' call he hc'] at hlocks; exact hlocks,
      fun id' call he hc' _ hshares => by rw [hother _ id' call he hc'] at hshares; exact hshares.elim⟩
  have hlast : ((s.setCall id ⟨input, .writing row (some (input.suspendedUntil s.clock))⟩).committed env id
      input row (some (input.suspendedUntil s.clock))).setCall id ⟨input, .acted⟩ =
      (s.committed env id input row (some (input.suspendedUntil s.clock))).setCall id ⟨input, .acted⟩ := by
    simp [State.setCall, State.committed]
  exact ((((RunWhere.refl s).on hread (hok _).1).on hlock (hok _).2.1).on hprepare (hok _).2.2).tail hcommit
    (hlast ▸ hact)

end Run

def suspendFor (reportId days : ℕ) : Input := ⟨reportId, 1, .suspend, none, some days, false⟩

def aboutSeven (id : Uuid) : Report := ⟨id, "user", 7, "spam", .opened, none, none, none⟩

def twoReports : State ℕ where
  clock := 0
  db := ⟨⟨[aboutSeven 100, aboutSeven 200], by decide⟩,
    ⟨[{ id := 7, isStaff := false, isBot := false, tokenEpoch := 0, deletedAt := none, suspendedUntil := none,
        suspensionReason := none }], by decide⟩, .empty, [], []⟩
  calls := fun _ => none
  refreshes := fun _ => none
  responses := []
  suspensions := []
  commits := []

def plain : Env ℕ ℕ := ⟨⟨id, 2592000, toString⟩, toString⟩

lemma twoReports_filed : Filed twoReports :=
  ⟨⟨fun _ => Nat.zero_le _, nofun⟩, fun _ => rfl, fun _ => rfl, rfl, rfl, rfl⟩

def afterFirst : State ℕ :=
  (twoReports.committed plain 0 (suspendFor 100 30) (aboutSeven 100) (some 2592000000)).setCall 0
    ⟨suspendFor 100 30, .acted⟩

lemma run_afterFirst : RunWhere (Step plain) Extends twoReports afterFirst := by
  refine run_suspend rfl (fun _ _ hc => by cases hc) rfl rfl rfl rfl rfl
    (fun _ => ⟨trivial, trivial, trivial⟩) ?_
  intro input report ends hc user hu standing hstanding
  obtain ⟨-, hwriting⟩ := Call.mk.inj (Option.some.inj ((State.setCall_self _ _ _).symm.trans hc))
  obtain ⟨rfl, -⟩ := Stage.writing.inj hwriting
  obtain rfl := Option.some.inj hu
  cases hstanding

/-- The second report suspends the account for seven days in place of thirty. -/
theorem suspension_shortened : ∃ entries s, Filed twoReports ∧ History (Step plain) twoReports entries s ∧
    ¬ Enforced s := by
  have hsecond := @run_suspend _ _ plain afterFirst 1 (suspendFor 200 7) _ (fun _ _ => True) (aboutSeven 200)
    rfl
    (fun id' call hc => by
      by_cases he : id' = 0
      · subst he
        exact congrArg Call.stage (Option.some.inj ((State.setCall_self _ _ _).symm.trans hc)).symm
      · rw [afterFirst, State.setCall_of_ne _ _ he] at hc
        cases hc) rfl rfl rfl rfl rfl (fun _ => ⟨trivial, trivial, trivial⟩) trivial
  obtain ⟨entries, hrun, -⟩ := History.of_run ((run_afterFirst.mono fun _ _ _ => trivial).trans hsecond)
  refine ⟨entries, _, twoReports_filed, hrun, fun h => ?_⟩
  obtain ⟨ends, hends, hle⟩ := h.suspended ⟨7, 2592000000⟩ ⟨by decide, by decide⟩ _ rfl
  obtain rfl := Option.some.inj hends
  exact absurd hle (by decide)

/-- One suspension. -/
theorem reports_settled_first : Settled afterFirst ∧ Enforced afterFirst := by
  obtain ⟨entries, hrun, hok⟩ := History.of_run run_afterFirst
  obtain ⟨hsettled, henforced, -⟩ := reports_settled twoReports_filed hrun hok
  exact ⟨hsettled, henforced⟩

end Yappy.ReportActions
