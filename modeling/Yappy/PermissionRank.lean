import Yappy.PermissionComposition
import Yappy.Runs

/-!
# Rank

A member is changed, banned or removed only by somebody who outranks them. The actor's rank comes
from the scope's row; the target's from the row that the id in the path names, which for a channel
is a copy taken when the member first opened it.
-/
namespace Yappy.Permissions

/-- The conversation and the member a request judges the rank of; leaving is not judged. -/
def Request.target (r : Request) : Option (Uuid × Uuid) :=
  match r.operation with
  | .patchMember id userId _ => some (id, userId)
  | .removeMember id userId => if r.actor = userId then none else some (id, userId)
  | .banMember id userId _ _ => some (id, userId)
  | _ => none

/-- The actor's role in the owning scope outranks the target's current role there. -/
def RankJudged (db : Database) (r : Request) : Prop :=
  ∀ id target c, r.target = some (id, target) → db.conversations.find id = some c →
    ∃ actorRow, db.memberRow c.scope r.actor = some actorRow ∧
      ∀ current, db.memberRow c.scope target = some current → current.leftAt = none →
        outranks actorRow.role current.role = true

/-- The row of a member in a channel is no lower than the one in its space: the copy is there, and
no promotion has left it behind. -/
def NotBehind (db : Database) (r : Request) : Prop :=
  ∀ id target c parentId current, r.target = some (id, target) →
    db.conversations.find id = some c → c.parentId = some parentId →
    db.memberRow parentId target = some current → current.leftAt = none →
      ∃ row, db.memberRow id target = some row ∧ roleRank current.role ≤ roleRank row.role

lemma Request.accepted_outranks {db db' : Database} {r : Request} {id target : Uuid}
    (h : r.Accepted db db') (htarget : r.target = some (id, target)) :
    ∃ ctx, db.loadMemberContext id r.actor r.clock = some ctx ∧
      ∀ row, db.memberRow id target = some row → outranks ctx.member.role row.role = true := by
  obtain ⟨actor, clock, op⟩ := r
  cases op with
  | patchMember id' userId body =>
    cases htarget
    obtain ⟨ctx, row, -, -, hctx, hrow, -, hrank, -⟩ := Database.patchMember_ok (attempt_ok.mp h)
    refine ⟨ctx, hctx, fun row' hrow' => ?_⟩
    obtain rfl := Option.some.inj (hrow.symm.trans hrow')
    exact hrank
  | removeMember id' userId =>
    simp only [Request.target] at htarget
    split_ifs at htarget with hself
    cases htarget
    obtain ⟨ctx, hctx, hrank, -⟩ := Database.removeMember_ok (attempt_ok.mp h)
    obtain ⟨row, hrow, hrank⟩ := hrank hself
    refine ⟨ctx, hctx, fun row' hrow' => ?_⟩
    obtain rfl := Option.some.inj (hrow.symm.trans hrow')
    exact hrank
  | banMember id' userId reason expiresAt =>
    cases htarget
    obtain ⟨-, -, -, -, -, -, hrank⟩ := Database.banMember_spec h
    exact hrank rfl
  | createRole | patchRole | deleteRole | setMemberRoles | setOverwrite | deleteOverwrite
  | patchConversation | transferOwnership | joinInvite => cases htarget

lemma Request.rankJudged {db db' : Database} {r : Request} (h : r.Accepted db db')
    (hok : NotBehind db r) : RankJudged db r := by
  intro id target c htarget hc
  obtain ⟨ctx, hctx, hrank⟩ := Request.accepted_outranks h htarget
  obtain ⟨c', a, hc', -, ha, -, -, hmember, -⟩ := Database.loadMemberContext_eq_some.mp hctx
  obtain rfl := Option.some.inj (hc.symm.trans hc')
  rw [Database.authority_eq_memberRow] at ha
  have hrole : ctx.member.role = a.role := by rw [hmember]
  refine ⟨a, ha, fun current hcurrent hactive => ?_⟩
  rw [← hrole]
  cases hp : c.parentId with
  | none =>
    -- the row that the id names is the authority
    have hscope : c.scope = id := by
      rw [Conversation.scope, hp, Option.getD_none, KeyedTable.find_key hc]
    exact hrank current (hscope ▸ hcurrent)
  | some parentId =>
    have hscope : c.scope = parentId := by rw [Conversation.scope, hp, Option.getD_some]
    obtain ⟨row, hrow, hle⟩ := hok id target c parentId current htarget hc hp
      (hscope ▸ hcurrent) hactive
    have hlt := hrank row hrow
    simp only [outranks, decide_eq_true_eq] at hlt ⊢
    omega

/-- What happens to the tables that rank is read from: a request is served, or a member of a space
opens one of its channels and gets a row there. -/
inductive RankEvent
  | request (r : Request)
  | materialise (conversationId userId : Uuid) (clock : Time)

def RankEvent.Step (db : Database) : RankEvent → Database → Prop
  | .request r, db' => r.Served db db'
  | .materialise conversationId userId clock, db' =>
    db.materialiseChannelMember conversationId userId clock = db'

/-- In every run, a judgement that is accepted while the target's row is not behind is one of rank
in the owning scope. -/
theorem run_rankJudged {db db' : Database} {entries : List (Database × RankEvent × Database)}
    (h : History RankEvent.Step db entries db')
    (hok : ∀ e ∈ entries, ∀ r, e.2.1 = .request r → NotBehind e.1 r) :
    ∀ e ∈ entries, ∀ r, e.2.1 = .request r → r.Accepted e.1 e.2.2 → RankJudged e.1 r := by
  have hstep : ∀ (s : Database) (i : RankEvent) (s' : Database), True →
      (∀ r, i = .request r → NotBehind s r) → RankEvent.Step s i s' →
        True ∧ ∀ r, i = .request r → r.Accepted s s' → RankJudged s r :=
    fun s i s' _ hok _ => ⟨trivial, fun r hr ha => Request.rankJudged ha (hok r hr)⟩
  exact (h.forall_entries trivial hstep hok).2

namespace Sample

def raise : Request :=
  ⟨10, 6, .patchMember 1 12 ⟨some .admin, none, none, none, none⟩⟩

def oust : Request := ⟨11, 7, .removeMember 2 12⟩

def opened : Database := database.materialiseChannelMember 2 12 5

def raised : Database := (raise.run opened).1

end Sample

/-- Before any promotion, the copy in the channel is as good as the space's row. -/
theorem run_rankJudged_opened : RankJudged Sample.opened Sample.oust := by
  have hrun := History.snoc (History.snoc (History.start Sample.database)
    (show RankEvent.Step _ (.materialise 2 12 5) Sample.opened from rfl))
    (show RankEvent.Step _ (.request Sample.oust) (Sample.oust.run Sample.opened).1 from rfl)
  have hok : NotBehind Sample.opened Sample.oust := by
    intro id target c parentId current htarget hc hp hcurrent _
    cases htarget
    obtain rfl : Sample.conversation 2 .channel (some 1) = c := Option.some.inj hc
    cases hp
    obtain rfl : ConversationMember.new 1 12 .member 0 0 = current := Option.some.inj hcurrent
    exact ⟨.new 2 12 .member 5 0, by decide, le_rfl⟩
  exact run_rankJudged hrun (by simp [hok])
    (Sample.opened, .request Sample.oust, (Sample.oust.run Sample.opened).1) (by simp) _ rfl
    (Prod.ext rfl (by decide))

/-- After a promotion it is behind, and an administrator removes their equal. -/
theorem stale_copy_is_ousted :
    (Sample.raise.run Sample.opened).2 = .ok () ∧ (Sample.oust.run Sample.raised).2 = .ok () ∧
      ¬RankJudged Sample.raised Sample.oust := by
  refine ⟨by decide, by decide, fun h => ?_⟩
  obtain ⟨actorRow, hactor, hall⟩ := h 2 12 (Sample.conversation 2 .channel (some 1)) rfl rfl
  obtain rfl : ConversationMember.new 1 11 .admin 0 0 = actorRow := Option.some.inj hactor
  have hequal := hall (.new 1 12 .admin 0 0) (by decide) rfl
  revert hequal
  decide

end Yappy.Permissions
