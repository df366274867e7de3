import Yappy.LockAmid
import Yappy.MembershipBans
import Yappy.Statements

/-!
# Invites

`POST /invites/:code/join` with the answer it gives after its commit, `DELETE /:id/invites/:code` and
`expireInvitesAndBans`, at READ COMMITTED: what one invite has been used for in any order of them.
-/
namespace Yappy.Tables
open Permissions (Time Uuid)
open ReadCommitted
open Statement

/-! ## The requests -/

/-- `app.conversations.view`, which the route answers with. -/
def answer (id actor : Uuid) : Program :=
  read fun view => if (requireMember view id actor).isNone then .fail else .done

def Invite.used (i : Invite) : Invite := { i with uses := i.uses + 1 }
def Invite.revoke (clock : Time) (i : Invite) : Invite := { i with revokedAt := some clock }

/-- What a redemption writes for somebody who is not in. -/
def admission (actor messageId : Uuid) (code : String) (clock : Time) (invite : Invite)
    (c : Conversation) (existing : Option Member) (next : Program) : Program :=
  joinMember actor invite.conversationId c existing clock <|
    update (.invite code) Invite.used fun _ =>
    grantRole actor invite <|
    announce invite.conversationId messageId ⟨"member_joined", some actor, [], none⟩ clock next

/-- A redemption once it holds the row of the invite, whose transaction `next` follows. -/
def redeemed (actor messageId : Uuid) (code : String) (clock : Time) (next : Uuid → Program)
    (invite : Invite) : Program :=
  if invite.expiresAt.any fun t => t < clock then .fail
  else if 0 < invite.maxUses ∧ invite.maxUses ≤ invite.uses then .fail
  else checkBans invite.conversationId [actor] fun banned =>
    if banned ≠ [] then .fail
    else read fun view =>
      match (view (.conversation invite.conversationId)).filter fun c => c.deletedAt.isNone with
      | none => .fail
      | some c => read fun view =>
        let existing := view (.member invite.conversationId actor)
        if existing.any fun m => m.leftAt.isNone then .commit (next invite.conversationId)
        else admission actor messageId code clock invite c existing (next invite.conversationId)

def redemption (actor messageId : Uuid) (code : String) (clock : Time) (next : Uuid → Program) :
    Program :=
  -- `for update`
  updateWhere (.invite code) (fun i => i.revokedAt.isNone) id fun
  | none => .fail
  | some invite => redeemed actor messageId code clock next invite

lemma joinInvite_eq (actor messageId : Uuid) (code : String) (clock : Time) :
    joinInvite actor messageId code clock =
      redemption actor messageId code clock fun _ => .done := rfl

/-- `POST /invites/:code/join`, up to its answer. -/
def redeem (actor messageId : Uuid) (code : String) (clock : Time) : Program :=
  redemption actor messageId code clock fun id => answer id actor

def revocation (id : Uuid) (code : String) (clock : Time) : Program :=
  updateWhere (.invite code) (fun i => i.conversationId = id) (Invite.revoke clock) fun _ =>
    .commit .done

/-- `DELETE /:id/invites/:code`. -/
def revokeInvite (permissions : Database → Uuid → Uuid → ℕ) (actor id : Uuid) (code : String)
    (clock : Time) : Program :=
  read fun view =>
    if (requireMember view id actor).isNone then .fail
    else if !holds permissions view id actor Permissions.Permission.manageInvites then .fail
    else revocation id code clock

def expired (clock : Time) : (k : Key) → Row k → Bool
  | .invite _, (i : Invite) => i.revokedAt.isNone ∧ i.expiresAt.any (fun t => t < clock)
  | _, _ => false

def expire (clock : Time) : (k : Key) → Row k → Row k
  | .invite _, (i : Invite) => i.revoke clock
  | _, r => r

/-- The second statement of `expireInvitesAndBans`. -/
def expireInvites (clock : Time) : Program :=
  updateAll (fun view => view.select (expired clock)) (expire clock) (.commit .done)

inductive InviteRequest (permissions : Database → Uuid → Uuid → ℕ) (code : String) : Program → Prop
  | redeem (actor messageId : Uuid) (clock : Time) :
      InviteRequest permissions code (redeem actor messageId code clock)
  | revoke (actor id : Uuid) (clock : Time) :
      InviteRequest permissions code (revokeInvite permissions actor id code clock)
  | sweep (clock : Time) : InviteRequest permissions code (expireInvitesAndBans clock)

/-! ## What a run has done -/

abbrev Entry := Server Row × Event Row × Server Row

def admitted (rows rows' : Database) : List Key :=
  rows'.select fun
    | .member c user, (m : Member) =>
      m.leftAt.isNone ∧ !(rows (.member c user)).any fun m : Member => m.leftAt.isNone
    | _, _ => false

def admissions (entries : List Entry) : ℕ :=
  (entries.map fun e => (admitted e.1.rows e.2.2.rows).length).sum

def Revoked (code : String) (rows : Database) : Prop :=
  ∃ i : Invite, rows (.invite code) = some i ∧ i.revokedAt ≠ none

/-- A use is counted, or a row of a member or of a member's role is another. -/
def Touched (code : String) (rows rows' : Database) : Prop :=
  (rows' (.invite code)).map Invite.uses ≠ (rows (.invite code)).map Invite.uses ∨
  (∃ c user, rows' (.member c user) ≠ rows (.member c user)) ∨
  ∃ c user role, rows' (.memberRole c user role) ≠ rows (.memberRole c user role)

/-- A request ends without having got through: it throws, or is rolled back, or its process dies. -/
def Failed (id : RequestId) (e : Entry) : Prop :=
  e.2.1 = .abort id ∧ ∃ r, e.1.requests id = some r ∧ r.program ≠ .done

structure Answered (code : String) (entries : List Entry) : Prop where
  seen : ∀ e ∈ entries, ∀ id changes next, e.2.1 = .commit id →
    e.1.requests id = some ⟨changes, .commit next⟩ →
    ∀ c user, changes (.member c user) ≠ none →
      (requireMember (overlay changes e.1.rows) c user).isSome
  /-- And no process dies between a commit that lets somebody in and the answer. -/
  alive : entries.Pairwise fun e e' => ∀ id r, e.2.1 = .commit id →
    Touched code e.1.rows e.2.2.rows → e'.2.1 = .abort id → e'.1.requests id = some r →
    r.program = .fail ∨ r.program = .done

namespace Redemption

/-! ## What a redemption's transaction does -/

section Transaction
variable {code : String} {rows rows' view view' : Database} {c user actor messageId : Uuid}
  {clock : Time} {i j : Invite} {post : Database → Program → Prop} {next : Program}

def Reserved (code : String) : Key → Prop
  | .ban .. => False
  | .invite other => other = code
  | _ => True

def Undisturbed (code : String) (rows rows' : Database) : Prop :=
  ∀ k, Reserved code k → rows' k = rows k

lemma undisturbed_equivalence : Equivalence (Undisturbed code) where
  refl _ _ _ := rfl
  symm h k hk := (h k hk).symm
  trans h h' k hk := (h' k hk).trans (h k hk)

lemma Undisturbed.overlay (changes : Changes) (h : Undisturbed code rows rows') :
    Undisturbed code (overlay changes rows) (overlay changes rows') := by
  intro k hk
  rw [overlay_apply, overlay_apply, h k hk]

lemma Undisturbed.trans {rows'' : Database} (h : Undisturbed code rows rows')
    (h' : Undisturbed code rows' rows'') : Undisturbed code rows rows'' :=
  undisturbed_equivalence.trans h h'

lemma Undisturbed.invite (h : Undisturbed code rows rows') :
    rows' (.invite code) = rows (.invite code) := h (.invite code) rfl

lemma Undisturbed.member (h : Undisturbed code rows rows') (c user : Uuid) :
    rows' (.member c user) = rows (.member c user) := h (.member c user) trivial

lemma Undisturbed.conversation (h : Undisturbed code rows rows') (c : Uuid) :
    rows' (.conversation c) = rows (.conversation c) := h (.conversation c) trivial

lemma Undisturbed.present (h : Undisturbed code rows rows') :
    Present rows' c user ↔ Present rows c user := by
  unfold Present
  rw [h.member]

def frame (conversation : Conversation) : Option Uuid × Option Time :=
  (conversation.parentId, conversation.deletedAt)

/-- Somebody is in who was not, with the invite's row as `j`. -/
structure Entered (code : String) (rows view : Database) (c user : Uuid) (j : Invite) : Prop where
  invite : view (.invite code) = some j
  inside : Present view c user
  outside : ¬ Present rows c user
  members : ∀ c' user', ¬ (c' = c ∧ user' = user) →
    view (.member c' user') = rows (.member c' user')
  conversations : ∀ c', (view (.conversation c')).map frame = (rows (.conversation c')).map frame

lemma Entered.undisturbed (h : Entered code rows view c user j)
    (hs : Undisturbed code view view') : Entered code rows view' c user j where
  invite := hs.invite.trans h.invite
  inside := hs.present.mpr h.inside
  outside := h.outside
  members c' user' hne := (hs.member c' user').trans (h.members c' user' hne)
  conversations c' := by rw [hs.conversation, h.conversations c']

lemma Entered.from_undisturbed (h : Entered code rows view c user j)
    (hs : Undisturbed code rows rows') : Entered code rows' view c user j where
  invite := h.invite
  inside := h.inside
  outside hp := h.outside (hs.present.mp hp)
  members c' user' hne := (h.members c' user' hne).trans (hs.member c' user').symm
  conversations c' := by rw [h.conversations c', hs.conversation]

def Apart : Key → Prop
  | .conversation _ | .member .. | .invite _ => False
  | _ => True

lemma Entered.written {changes : Changes} {j' : Invite} (h : Entered code rows view c user j)
    (hinvite : overlay changes view (.invite code) = some j')
    (hmember : ∀ c' user', overlay changes view (.member c' user') = view (.member c' user'))
    (hconversation : ∀ c',
      (overlay changes view (.conversation c')).map frame = (view (.conversation c')).map frame) :
    Entered code rows (overlay changes view) c user j' where
  invite := hinvite
  inside := by
    obtain ⟨m, hm, hl⟩ := h.inside
    exact ⟨m, (hmember c user).trans hm, hl⟩
  outside := h.outside
  members c' user' hne := (hmember c' user').trans (h.members c' user' hne)
  conversations c' := (hconversation c').trans (h.conversations c')

lemma Entered.apart {changes : Changes} (h : Entered code rows view c user j)
    (hw : ∀ k x, changes k = some x → Apart k) :
    Entered code rows (overlay changes view) c user j := by
  have hkeep : ∀ k, ¬ Apart k → overlay changes view k = view k := by
    intro k hk
    refine overlay_of_none ?_
    by_contra hne
    obtain ⟨x, hx⟩ := Option.ne_none_iff_exists'.mp hne
    exact hk (hw k x hx)
  refine h.written ((hkeep (.invite code) id).trans h.invite) (fun c' user' => hkeep (.member c' user') id)
    fun c' => ?_
  rw [hkeep (.conversation c') id]

lemma Entered.describe {id : Uuid} {conversation : Conversation}
    {f : Conversation → Conversation} (h : Entered code rows view c user j)
    (hf : ∀ conversation, frame (f conversation) = frame conversation)
    (hc : view (.conversation id) = some conversation) :
    Entered code rows (overlay (put (.conversation id) (f conversation)) view) c user j := by
  have hkeep : ∀ k, k ≠ .conversation id →
      overlay (@put _ Row _ (.conversation id) (f conversation)) view k = view k :=
    fun k hk => overlay_of_none (put_of_ne _ hk)
  refine h.written ((hkeep _ (by simp)).trans h.invite) (fun c' user' => hkeep _ (by simp)) fun c' => ?_
  by_cases hid : c' = id
  · subst hid
    rw [overlay_of_some (put_self _ _), hc]
    exact congrArg some (hf conversation)
  · rw [hkeep _ (by simpa using hid)]

lemma Entered.count (h : Entered code rows view c user j) :
    Entered code rows (overlay (put (.invite code) j.used) view) c user j.used := by
  have hkeep : ∀ k, k ≠ .invite code →
      overlay (@put _ Row _ (.invite code) j.used) view k = view k :=
    fun k hk => overlay_of_none (put_of_ne _ hk)
  refine h.written (overlay_of_some (put_self _ _)) (fun c' user' => hkeep _ (by simp)) fun c' => ?_
  rw [hkeep _ (by simp)]

lemma leads_entered {writes : Database → Changes} {rest : Database → Program}
    (h : Entered code rows view c user i)
    (hw : ∀ v, Entered code rows v c user i → Entered code rows (overlay (writes v) v) c user j)
    (hn : ∀ v v', Entered code rows v' c user j → Leads (Undisturbed code) post (rest v) v') :
    Leads (Undisturbed code) post (.statement writes rest) view :=
  .statement fun v hs => hn v _ (hw v (h.undisturbed hs))

lemma leads_describe {id : Uuid} {f : Conversation → Conversation}
    {rest : Option Conversation → Program} (h : Entered code rows view c user j)
    (hf : ∀ conversation, frame (f conversation) = frame conversation)
    (hn : ∀ r v, Entered code rows v c user j → Leads (Undisturbed code) post (rest r) v) :
    Leads (Undisturbed code) post (update (.conversation id) f rest) view := by
  refine leads_entered h (fun v hv => ?_) fun v v' hv => hn _ v' hv
  split
  · rename_i conversation hc
    obtain ⟨hc, -⟩ := Option.filter_eq_some_iff.mp hc
    exact hv.describe hf hc
  · exact hv

lemma leads_announce {id : Uuid} {payload : SystemPayload} (h : Entered code rows view c user j)
    (hn : ∀ v, Entered code rows v c user j → post v next) :
    Leads (Undisturbed code) post (announce id messageId payload clock next) view := by
  unfold announce writeSystemMessage allocateMessageSeq
  refine leads_describe h (fun conversation => rfl) fun r v hv => ?_
  cases r with
  | none => exact .fail
  | some conversation =>
    refine leads_entered hv (fun v hv => hv.apart fun k x hx => ?_) fun v v' hv' => ?_
    · split_ifs at hx
      · cases hx
      · exact (@put_eq_some _ _ _ (.message messageId) k _ x hx) ▸ trivial
    · split_ifs
      · exact .fail
      · refine leads_describe hv' (fun conversation => rfl) fun r v hv => ?_
        exact .commit fun v' hs => hn v' (hv.undisturbed hs)

lemma leads_grantRole (h : Entered code rows view c user j)
    (hn : ∀ v, Entered code rows v c user j → Leads (Undisturbed code) post next v) :
    Leads (Undisturbed code) post (grantRole actor i next) view := by
  unfold grantRole
  split
  · exact hn view h
  · refine leads_entered h (fun v hv => hv) fun v v' hv => ?_
    split_ifs
    · refine leads_entered hv (fun v hv => hv.apart fun k x hx => ?_) fun _ v' hv' => hn v' hv'
      split_ifs at hx
      · cases hx
      · exact put_eq_some hx ▸ trivial
    · exact hn v' hv

lemma leads_count (h : Entered code rows view c user j)
    (hn : ∀ v, Entered code rows v c user j.used → Leads (Undisturbed code) post next v) :
    Leads (Undisturbed code) post (update (.invite code) Invite.used fun _ => next) view := by
  refine leads_entered h (fun v hv => ?_) fun _ v' hv' => hn v' hv'
  rw [hv.invite]
  exact hv.count

end Transaction

section Entering
variable {code : String} {rows view : Database} {id user messageId : Uuid}
  {clock : Time} {i : Invite} {post : Database → Program → Prop} {next : Program}
  {users : List Uuid}

lemma frame_counted {writes : Database → Changes} (c : Uuid)
    (hw : ∀ c, writes view (.conversation c) = none) :
    (overlay (counted id writes view) view (.conversation c)).map frame =
      (view (.conversation c)).map frame := by
  by_cases hc : c = id
  · subst hc
    cases hconv : view (.conversation c) with
    | none =>
      have hnone : counted c writes view (.conversation c) = none := by
        unfold counted
        rw [hconv]
        exact hw c
      rw [overlay_of_none hnone, hconv]
    | some conv =>
      obtain ⟨n, hn⟩ := @counted_conversation c view writes conv hconv
      rw [overlay_of_some hn]
      rfl
  · rw [overlay_of_none ((counted_of_ne (by simpa using hc)).trans (hw c))]

lemma entered_counted {writes : Database → Changes} {m : Member}
    (hs : Undisturbed code rows view) (hi : rows (.invite code) = some i)
    (hout : ¬ Present rows id user) (hrow : writes view (.member id user) = some (some m))
    (hm : m.leftAt = none)
    (hw : ∀ k, k ≠ .member id user → writes view k = none) :
    Entered code rows (overlay (counted id writes view) view) id user i := by
  have hmember : counted id writes view (.member id user) = some (some m) :=
    (counted_of_ne (by simp)).trans hrow
  constructor
  · have hnone : counted id writes view (.invite code) = none :=
      (counted_of_ne (by simp)).trans (hw _ (by simp))
    rw [overlay_of_none hnone, hs.invite, hi]
  · exact ⟨m, overlay_of_some hmember, hm⟩
  · exact hout
  · intro c' user' hne
    have hnone : counted id writes view (.member c' user') = none :=
      (counted_of_ne (by simp)).trans (hw _ (by simpa using hne))
    rw [overlay_of_none hnone, hs.member]
  · intro c'
    rw [frame_counted c' fun c => hw _ (by simp), hs.conversation]

lemma leads_joinMember {c : Conversation}
    (hs : Undisturbed code rows view) (hi : rows (.invite code) = some i)
    (hout : ¬ Present rows id user)
    (hn : ∀ v, Entered code rows v id user i → Leads (Undisturbed code) post next v) :
    Leads (Undisturbed code) post
      (joinMember user id c (rows (.member id user)) clock next) view := by
  cases hm : rows (.member id user) with
  | none =>
    refine .statement fun v hv => ?_
    split_ifs with hrow
    · exact .fail
    · refine hn _ ?_
      unfold insertedMembers
      rw [if_neg hrow]
      refine @entered_counted _ _ _ _ _ _ _ (.joining none c.historyFloor clock) (hs.trans hv) hi hout
        ?_ rfl fun k hk => ?_
      · rw [newRows_member, if_pos (List.mem_singleton_self user)]
      · rw [newRows, Rows.on_apply, if_neg (by simpa using hk)]
  | some m =>
    refine .statement fun v hv => hn _ ?_
    have hrow : v (.member id user) = some m := ((hs.trans hv).member id user).trans hm
    have hmatch : matching v id [user] (fun _ => true) = [user] := by
      simp [matching, hrow]
    unfold updatedMembers
    rw [hmatch, if_neg (List.cons_ne_nil _ _)]
    refine @entered_counted _ _ _ _ _ _ _ m.back (hs.trans hv) hi hout ?_ rfl fun k hk => ?_
    · rw [replaced_member, if_pos (List.mem_singleton_self user), hrow]
      rfl
    · rw [replaced, Rows.on_apply, if_neg (by simpa using hk)]

/-- What a transaction that holds the invite's row leaves, and what its request goes on to do. -/
inductive Keeps (code : String) (rows rows' : Database) : Program → Prop
  | unchanged {rest : Program} (h : Undisturbed code rows rows') : Keeps code rows rows' rest
  | revoked {rest : Program} {i : Invite} {clock : Time} (hi : rows (.invite code) = some i)
      (hrow : rows' (.invite code) = some (i.revoke clock))
      (h : ∀ k, Reserved code k → k ≠ .invite code → rows' k = rows k) :
      Keeps code rows rows' rest
  | entered {c user : Uuid} {i : Invite} (hi : rows (.invite code) = some i)
      (hlive : i.revokedAt = none) (hroom : 0 < i.maxUses → i.uses < i.maxUses)
      (h : Entered code rows rows' c user i.used) : Keeps code rows rows' (answer c user)

lemma Keeps.from_undisturbed {rows' rows'' : Database} {rest : Program}
    (hs : Undisturbed code rows rows') (h : Keeps code rows rows'' rest) :
    Keeps code rows' rows'' rest := by
  cases h with
  | unchanged h => exact .unchanged ((undisturbed_equivalence.symm hs).trans h)
  | revoked hi hrow h =>
    exact .revoked (hs.invite.trans hi) hrow fun k hk hne => (h k hk hne).trans (hs k hk).symm
  | entered hi hlive hroom h =>
    exact .entered (hs.invite.trans hi) hlive hroom (h.from_undisturbed hs)

inductive Opens (permissions : Database → Uuid → Uuid → ℕ) (code : String) : Program → Prop
  | done : Opens permissions code .done
  | fail : Opens permissions code .fail
  | redeem (actor messageId : Uuid) (clock : Time) :
      Opens permissions code (redeem actor messageId code clock)
  | answer (id actor : Uuid) : Opens permissions code (answer id actor)
  | revoke (actor id : Uuid) (clock : Time) :
      Opens permissions code (revokeInvite permissions actor id code clock)
  | revocation (id : Uuid) (clock : Time) : Opens permissions code (revocation id code clock)
  | sweep (clock : Time) : Opens permissions code (expireInvitesAndBans clock)
  | expireInvites (clock : Time) : Opens permissions code (expireInvites clock)

lemma leads_redeemed {permissions : Database → Uuid → Uuid → ℕ}
    (hs : Undisturbed code rows view) (hi : rows (.invite code) = some i)
    (hlive : i.revokedAt = none) :
    Leads (Undisturbed code) (fun rows' rest => Keeps code rows rows' rest ∧ Opens permissions code rest)
      (redeemed user messageId code clock (fun id => answer id user) i) view := by
  unfold redeemed
  split_ifs with hexpired hfull
  · exact .fail
  · exact .fail
  · have hroom : 0 < i.maxUses → i.uses < i.maxUses := fun hpos => by
      by_contra hle
      exact hfull ⟨hpos, not_lt.mp hle⟩
    refine .statement fun v hv => ?_
    beta_reduce
    split_ifs with hban
    · exact .fail
    · refine .statement fun v₁ hv₁ => ?_
      split
      · exact .fail
      · rename_i c hc
        refine .statement fun v₂ hv₂ => ?_
        have hs₂ : Undisturbed code rows v₂ := ((hs.trans hv).trans hv₁).trans hv₂
        dsimp only
        split_ifs with hin
        · exact .commit fun v₃ hv₃ => ⟨.unchanged (hs₂.trans hv₃), .answer _ _⟩
        · have hout : ¬ Present rows i.conversationId user := by
            rintro ⟨m, hm, hl⟩
            rw [hs₂.member, hm] at hin
            simp [hl] at hin
          unfold admission
          rw [hs₂.member]
          refine leads_joinMember hs₂ hi hout fun v₃ hv₃ => ?_
          refine leads_count hv₃ fun v₄ hv₄ => leads_grantRole hv₄ fun v₅ hv₅ => ?_
          exact leads_announce hv₅ fun v₆ hv₆ => ⟨.entered hi hlive hroom hv₆, .answer _ _⟩

end Entering

section Requests
variable {permissions : Database → Uuid → Uuid → ℕ} {code : String} {rows rows' : Database}

lemma undisturbed_put {i : Invite} (hi : rows (.invite code) = some i) :
    Undisturbed code rows (overlay (put (.invite code) i) rows) := by
  intro k _
  by_cases hk : k = .invite code
  · subst hk
    rw [overlay_of_some (put_self _ _), hi]
  · exact overlay_of_none (put_of_ne _ hk)

lemma leads_revoked {changes : Changes} {i : Invite} {clock : Time}
    (hi : rows (.invite code) = some i)
    (hrow : changes (.invite code) = some (some (i.revoke clock)))
    (hw : ∀ k, Reserved code k → k ≠ .invite code → changes k = none) :
    Leads (Undisturbed code) (fun rows' rest => Keeps code rows rows' rest ∧ Opens permissions code rest)
      (.commit .done) (overlay changes rows) := by
  refine .commit fun view' hs =>
    ⟨@Keeps.revoked _ _ _ _ i clock hi ?_ fun k hk hne => ?_, .done⟩
  · rw [hs.invite, overlay_of_some hrow]
  · rw [hs k hk, overlay_of_none (hw k hk hne)]

def expiring (clock : Time) (view : Database) : Changes :=
  Rows.on (view.select (expired clock)) fun k => (view k).map fun r => some (expire clock k r)

lemma expiring_of_ne (clock : Time) (view : Database) {k : Key} (hk : Reserved code k)
    (hne : k ≠ .invite code) : expiring clock view k = none := by
  unfold expiring
  rw [Rows.on_apply, if_neg]
  intro hin
  obtain ⟨r, -, hp⟩ := Rows.mem_select.mp hin
  cases k with
  | invite other => exact hne (congrArg Key.invite hk)
  | _ => cases hp

lemma expiring_invite {clock : Time} {view : Database}
    (h : expiring clock view (.invite code) ≠ none) : ∃ i : Invite,
    view (.invite code) = some i ∧
      expiring clock view (.invite code) = some (some (i.revoke clock)) := by
  unfold expiring at h ⊢
  rw [Rows.on_apply] at h ⊢
  split_ifs at h ⊢ with hin
  · obtain ⟨i, hi, -⟩ := Rows.mem_select.mp hin
    exact ⟨i, hi, by rw [hi]; rfl⟩
  · exact absurd rfl h

def lapsedBan (clock : Time) : (k : Key) → Row k → Bool
  | .ban .., b => b.expiresAt.any fun t => t < clock
  | _, _ => false

lemma locksAmid : LocksAmid (InviteRequest permissions code) (.invite code) (Undisturbed code)
    (Opens permissions code) (Keeps code) where
  equivalence := undisturbed_equivalence
  overlay changes hs := hs.overlay changes
  start hp := by
    cases hp with
    | redeem actor messageId clock => exact .redeem actor messageId clock
    | revoke actor id clock => exact .revoke actor id clock
    | sweep clock => exact .sweep clock
  done := .done
  commit {next} ho := by
    generalize hp : ReadCommitted.Program.commit next = p at ho
    cases ho <;> cases hp
  keeps hs hk := hk.from_undisturbed hs
  statement {writes next} rows ho := by
    generalize hp : ReadCommitted.Program.statement writes next = p at ho
    cases ho with
    | done | fail => cases hp
    | redeem actor messageId clock =>
      cases hp
      beta_reduce
      cases hf : (rows (.invite code)).filter fun i : Invite => i.revokedAt.isNone with
      | none => exact Or.inl ⟨rfl, .fail⟩
      | some i =>
        obtain ⟨hi, hlive⟩ := Option.filter_eq_some_iff.mp hf
        refine Or.inr (Or.inl ⟨?_, ?_⟩)
        · simp
        · exact leads_redeemed (undisturbed_put hi) hi (Option.isNone_iff_eq_none.mp hlive)
    | answer id actor =>
      cases hp
      refine Or.inl ⟨rfl, ?_⟩
      beta_reduce
      split_ifs
      · exact .fail
      · exact .done
    | revoke actor id clock =>
      cases hp
      refine Or.inl ⟨rfl, ?_⟩
      beta_reduce
      split_ifs
      · exact .fail
      · exact .fail
      · exact .revocation id clock
    | revocation id clock =>
      cases hp
      beta_reduce
      cases hf : (rows (.invite code)).filter fun i : Invite => i.conversationId = id with
      | none => exact Or.inr (Or.inr ⟨rfl, fun _ _ _ => rfl, .done, rfl, .done⟩)
      | some i =>
        obtain ⟨hi, -⟩ := Option.filter_eq_some_iff.mp hf
        refine Or.inr (Or.inl ⟨?_, ?_⟩)
        · simp
        · exact leads_revoked hi (put_self _ _) fun k _ hne => put_of_ne _ hne
    | sweep clock =>
      cases hp
      have hbans : ∀ k, Reserved code k →
          (Rows.on (rows.select (lapsedBan clock)) fun _ => some none : Changes) k = none := by
        intro k hk
        rw [Rows.on_apply, if_neg]
        intro hin
        obtain ⟨r, -, hp⟩ := Rows.mem_select.mp hin
        cases k with
        | ban => exact hk
        | _ => cases hp
      refine Or.inr (Or.inr ⟨hbans _ rfl, fun rows' k hk => ?_, expireInvites clock, rfl,
        .expireInvites clock⟩)
      exact overlay_of_none (hbans k hk)
    | expireInvites clock =>
      cases hp
      change (expiring clock rows = .empty ∧ _) ∨ (expiring clock rows _ ≠ none ∧
        Leads _ _ _ (overlay (expiring clock rows) rows)) ∨ (expiring clock rows _ = none ∧
        (∀ rows', Undisturbed code rows' (overlay (expiring clock rows) rows')) ∧ _)
      by_cases hk : expiring clock rows (.invite code) = none
      · refine Or.inr (Or.inr ⟨hk, fun rows' k hr => overlay_of_none ?_, .done, rfl, .done⟩)
        by_cases hne : k = .invite code
        · exact hne ▸ hk
        · exact expiring_of_ne clock rows hr hne
      · obtain ⟨i, hi, hrow⟩ := expiring_invite hk
        refine Or.inr (Or.inl ⟨hk, ?_⟩)
        exact leads_revoked hi hrow fun k hr hne => expiring_of_ne clock rows hr hne

end Requests

/-! ## Admissions -/

section Admissions
variable {permissions : Database → Uuid → Uuid → ℕ} {code : String} {rows rows' : Database}
  {rest : Program} {c user : Uuid} {i : Invite}

lemma present_iff : Present rows c user ↔
    ((rows (.member c user)).any fun m : Member => m.leftAt.isNone) = true := by
  rw [Option.any_eq_true]
  exact exists_congr fun m => and_congr_right fun _ => Option.isNone_iff_eq_none.symm

lemma mem_admitted {k : Key} : k ∈ admitted rows rows' ↔
    ∃ c user, k = .member c user ∧ Present rows' c user ∧ ¬ Present rows c user := by
  unfold admitted
  rw [Rows.mem_select]
  constructor
  · rintro ⟨m, hm, hp⟩
    cases k with
    | member c user =>
      obtain ⟨hl, hout⟩ := of_decide_eq_true (show decide (_ ∧ _) = true from hp)
      refine ⟨c, user, rfl, ⟨m, hm, Option.isNone_iff_eq_none.mp hl⟩, fun hin => ?_⟩
      rw [present_iff.mp hin] at hout
      cases hout
    | _ => cases hp
  · rintro ⟨c, user, rfl, ⟨m, hm, hl⟩, hout⟩
    refine ⟨m, hm, decide_eq_true ⟨Option.isNone_iff_eq_none.mpr hl, ?_⟩⟩
    rw [Bool.not_eq_true']
    exact Bool.eq_false_iff.mpr fun hin => hout (present_iff.mpr hin)

lemma admitted_eq_nil (h : ∀ c user, rows' (.member c user) = rows (.member c user)) :
    admitted rows rows' = [] := by
  refine List.eq_nil_iff_forall_not_mem.mpr fun k hk => ?_
  obtain ⟨c, user, -, hin, hout⟩ := mem_admitted.mp hk
  refine hout ?_
  unfold Present at hin ⊢
  rwa [h] at hin

lemma Entered.admitted (h : Entered code rows rows' c user i) :
    admitted rows rows' = [.member c user] := by
  have hall : ∀ k, k ∈ Tables.admitted rows rows' ↔ k ∈ [Key.member c user] := by
    intro k
    rw [mem_admitted, List.mem_singleton]
    constructor
    · rintro ⟨c', user', rfl, hin, hout⟩
      by_contra hne
      refine hout ?_
      have hrow := h.members c' user' (by simpa using hne)
      unfold Present at hin ⊢
      rwa [hrow] at hin
    · rintro rfl
      exact ⟨c, user, rfl, h.inside, h.outside⟩
  refine List.perm_singleton.mp ((List.perm_ext_iff_of_nodup ?_ (List.nodup_singleton _)).mpr hall)
  exact nodup_select rows' _

lemma admitted_revoked (h : ∀ k, Reserved code k → k ≠ .invite code → rows' k = rows k) :
    admitted rows rows' = [] :=
  admitted_eq_nil fun c user => h (.member c user) trivial (by simp)

lemma Keeps.uses (h : Keeps code rows rows' rest) (hi : rows (.invite code) = some i) :
    ∃ i' : Invite, rows' (.invite code) = some i' ∧ i'.maxUses = i.maxUses ∧
      i'.uses = i.uses + (admitted rows rows').length ∧
      ((0 < i.maxUses → i.uses ≤ i.maxUses) → 0 < i.maxUses → i'.uses ≤ i.maxUses) := by
  cases h with
  | unchanged h =>
    refine ⟨i, h.invite.trans hi, rfl, ?_, fun hle => hle⟩
    rw [admitted_eq_nil h.member]
    rfl
  | @revoked _ i₀ clock hi₀ hrow h =>
    obtain rfl := Option.some.inj (hi.symm.trans hi₀)
    refine ⟨i.revoke clock, hrow, rfl, ?_, fun hle => hle⟩
    rw [admitted_revoked h]
    rfl
  | @entered c user i₀ hi₀ hlive hroom h =>
    obtain rfl := Option.some.inj (hi.symm.trans hi₀)
    refine ⟨i.used, h.invite, rfl, ?_, fun _ hpos => hroom hpos⟩
    rw [h.admitted]
    rfl

lemma Keeps.closed (h : Keeps code rows rows' rest) (hr : Revoked code rows) :
    Revoked code rows' ∧ admitted rows rows' = [] := by
  obtain ⟨i, hi, hrev⟩ := hr
  cases h with
  | unchanged h => exact ⟨⟨i, h.invite.trans hi, hrev⟩, admitted_eq_nil h.member⟩
  | @revoked _ i₀ clock hi₀ hrow h =>
    exact ⟨⟨i₀.revoke clock, hrow, by simp [Invite.revoke]⟩, admitted_revoked h⟩
  | @entered c user i₀ hi₀ hlive hroom h =>
    obtain rfl := Option.some.inj (hi.symm.trans hi₀)
    exact absurd hlive hrev

lemma Keeps.seen (h : Keeps code rows rows' rest) (hs : (requireMember rows c user).isSome) :
    (requireMember rows' c user).isSome := by
  have hkeep : (∀ c', (rows' (.conversation c')).map frame = (rows (.conversation c')).map frame) ∧
      ∀ c' user', Present rows c' user' → Present rows' c' user' := by
    cases h with
    | unchanged h => exact ⟨fun c' => by rw [h.conversation], fun c' user' => h.present.mpr⟩
    | revoked hi hrow h =>
      refine ⟨fun c' => by rw [h (.conversation c') trivial (by simp)], fun c' user' hp => ?_⟩
      obtain ⟨m, hm, hl⟩ := hp
      exact ⟨m, (h (.member c' user') trivial (by simp)).trans hm, hl⟩
    | @entered c₀ user₀ i₀ hi₀ hlive hroom h =>
      refine ⟨h.conversations, fun c' user' hp => ?_⟩
      by_cases he : c' = c₀ ∧ user' = user₀
      · exact he.1 ▸ he.2 ▸ h.inside
      · obtain ⟨m, hm, hl⟩ := hp
        exact ⟨m, (h.members c' user' he).trans hm, hl⟩
  obtain ⟨hframe, hpresent⟩ := hkeep
  have hframe := hframe c
  unfold requireMember at hs ⊢
  cases hc : rows (.conversation c) with
  | none =>
    rw [hc] at hs
    cases hs
  | some conv =>
    rw [hc] at hs hframe
    obtain ⟨conv', hc', hf⟩ := Option.map_eq_some_iff.mp hframe
    obtain ⟨hparent, hdeleted⟩ := Prod.mk.inj hf
    rw [hc']
    cases hd : conv.deletedAt with
    | some t =>
      rw [Option.filter_some_neg (by simp [hd])] at hs
      cases hs
    | none =>
      rw [Option.filter_some_pos (by simp [hd])] at hs
      rw [Option.filter_some_pos (by simp [hdeleted, hd])]
      dsimp only at hs ⊢
      rw [Option.isSome_map] at hs ⊢
      rw [hparent]
      obtain ⟨m, hm⟩ := Option.isSome_iff_exists.mp hs
      obtain ⟨hm, hl⟩ := Option.filter_eq_some_iff.mp hm
      obtain ⟨m', hm', hl'⟩ := hpresent _ _ ⟨m, hm, Option.isNone_iff_eq_none.mp hl⟩
      rw [hm', Option.filter_some_pos (by simp [hl'])]
      rfl

lemma Undisturbed.untouched (h : Undisturbed code rows rows') : ¬ Touched code rows rows' := by
  rintro (hu | ⟨c, user, hm⟩ | ⟨c, user, role, hm⟩)
  · exact hu (by rw [h.invite])
  · exact hm (h.member c user)
  · exact hm (h (.memberRole c user role) trivial)

lemma Keeps.touched (h : Keeps code rows rows' rest) (ht : Touched code rows rows') :
    ∃ c user i, rest = answer c user ∧ Entered code rows rows' c user i := by
  cases h with
  | unchanged h => exact absurd ht h.untouched
  | @revoked _ i clock hi hrow h =>
    rcases ht with hu | ⟨c, user, hm⟩ | ⟨c, user, role, hm⟩
    · exact absurd (by rw [hrow, hi]; rfl) hu
    · exact absurd (h (.member c user) trivial (by simp)) hm
    · exact absurd (h (.memberRole c user role) trivial (by simp)) hm
  | entered hi hlive hroom h => exact ⟨_, _, _, rfl, h⟩

end Admissions

/-! ## Runs -/

section Runs
variable {permissions : Database → Uuid → Uuid → ℕ} {code : String} {rows : Database}
  {s s' : Server Row} {event : Event Row} {entries : List Entry} {id : RequestId} {i : Invite}

abbrev Standing (permissions : Database → Uuid → Uuid → ℕ) (code : String) : Server Row → Prop :=
  Upheld (fun _ => True) fun _ =>
    Amid (.invite code) (Undisturbed code) (Opens permissions code) (Keeps code)

lemma Standing.step (h : Standing permissions code s)
    (hs : Step (InviteRequest permissions code) s event s') : Standing permissions code s' :=
  locksAmid.upholds.step h trivial hs

lemma step_keeps (h : Standing permissions code s)
    (hs : Step (InviteRequest permissions code) s event s') :
    ∃ rest, Keeps code s.rows s'.rows rest := by
  cases hs with
  | start | statement | abort => exact ⟨.done, .unchanged (undisturbed_equivalence.refl _)⟩
  | commit hr =>
    rcases (locksAmid.commits (h.stands _ _ hr)).2 with ⟨-, hk⟩ | hsame
    · exact ⟨_, hk⟩
    · exact ⟨.done, .unchanged hsame⟩

/-- The invite's row counts the admissions of a run that found it as `i`, and a revocation ends
them. -/
structure Tally (permissions : Database → Uuid → Uuid → ℕ) (code : String) (i : Invite)
    (entries : List Entry) (s : Server Row) : Prop where
  standing : Standing permissions code s
  row : ∃ i' : Invite, s.rows (.invite code) = some i' ∧ i'.maxUses = i.maxUses ∧
    i'.uses = i.uses + admissions entries ∧ (0 < i'.maxUses → i'.uses ≤ i'.maxUses)
  revoked : ∀ e ∈ entries, Revoked code e.2.2.rows → Revoked code s.rows
  closed : entries.Pairwise fun e e' =>
    Revoked code e.2.2.rows → admitted e'.1.rows e'.2.2.rows = []

lemma Tally.step (h : Tally permissions code i entries s)
    (hs : Step (InviteRequest permissions code) s event s') :
    Tally permissions code i (entries ++ [(s, event, s')]) s' := by
  obtain ⟨rest, hkeeps⟩ := step_keeps h.standing hs
  constructor
  · exact h.standing.step hs
  · obtain ⟨j, hj, hmax, huses, hle⟩ := h.row
    obtain ⟨i', hi', hmax', huses', hle'⟩ := hkeeps.uses hj
    refine ⟨i', hi', hmax'.trans hmax, ?_, fun hpos => ?_⟩
    · rw [huses', huses, admissions, admissions, List.map_append, List.sum_append]
      simp [Nat.add_assoc]
    · rw [hmax'] at hpos ⊢
      exact hle' hle hpos
  · intro e he hr
    rcases List.mem_append.mp he with he | he
    · exact (hkeeps.closed (h.revoked e he hr)).1
    · obtain rfl := List.mem_singleton.mp he
      exact hr
  · refine List.pairwise_append.mpr ⟨h.closed, List.pairwise_singleton _ _, fun e he e' he' hr => ?_⟩
    obtain rfl := List.mem_singleton.mp he'
    exact (hkeeps.closed (h.revoked e he hr)).2

lemma history_tally (hi : rows (.invite code) = some i)
    (hmax : 0 < i.maxUses → i.uses ≤ i.maxUses)
    (h : History (Step (InviteRequest permissions code)) (.idle rows) entries s) :
    Tally permissions code i entries s := by
  generalize hs₀ : Server.idle rows = s₀ at h
  induction h with
  | start =>
    subst hs₀
    exact ⟨idle_upheld trivial, ⟨i, hi, rfl, rfl, hmax⟩, by simp, .nil⟩
  | snoc _ hs ih => exact ih.step hs

/-! ## Failures -/

def Through (s : Server Row) (id : RequestId) : Prop :=
  ∃ r, s.requests id = some r ∧ r.program = .done

def LetIn (s : Server Row) (id : RequestId) : Prop :=
  Through s id ∨ ∃ c user, s.requests id = some ⟨.empty, answer c user⟩ ∧
    (requireMember s.rows c user).isSome

lemma Through.step {accepted : Program → Prop} (h : Through s id)
    (hs : Step accepted s event s') : Through s' id := by
  obtain ⟨r, hr, hp⟩ := h
  -- a request that another one's step leaves as it was
  have hkeep : ∀ {t : Server Row} {other r'}, t.requests = s.requests → other ≠ id →
      Through (t.set other r') id := by
    intro t other r' ht hne
    exact ⟨r, (set_requests_of_ne _ hne.symm).trans ((congrFun ht id).trans hr), hp⟩
  cases hs with
  | @start other program hid _ =>
    refine hkeep rfl fun he => ?_
    rw [he, hr] at hid
    cases hid
  | @statement other changes writes next hr' _ =>
    refine hkeep rfl fun he => ?_
    rw [he, hr] at hr'
    cases hr'
    cases hp
  | @commit other changes next hr' =>
    refine hkeep rfl fun he => ?_
    rw [he, hr] at hr'
    cases hr'
    cases hp
  | @abort other r' hr' =>
    by_cases he : other = id
    · subst he
      exact ⟨_, set_requests_self .., rfl⟩
    · exact hkeep rfl he

lemma LetIn.step (h : LetIn s id) (hstanding : Standing permissions code s)
    (hs : Step (InviteRequest permissions code) s event s') : LetIn s' id := by
  rcases h with h | ⟨c, user, hr, hseen⟩
  · exact Or.inl (h.step hs)
  · obtain ⟨rest, hkeeps⟩ := step_keeps hstanding hs
    have hseen' := hkeeps.seen hseen
    have hkeep : ∀ {t : Server Row} {other r'}, t.requests = s.requests → t.rows = s'.rows →
        other ≠ id → LetIn (t.set other r') id := by
      intro t other r' ht htrows hne
      refine Or.inr ⟨c, user, ?_, ?_⟩
      · exact (set_requests_of_ne _ hne.symm).trans ((congrFun ht id).trans hr)
      · change (requireMember t.rows c user).isSome
        rwa [htrows]
    cases hs with
    | @start other program hid _ =>
      refine hkeep rfl rfl fun he => ?_
      rw [he, hr] at hid
      cases hid
    | @statement other changes writes next hr' _ =>
      by_cases he : other = id
      · subst he
        rw [hr] at hr'
        cases hr'
        refine Or.inl ⟨_, set_requests_self .., ?_⟩
        beta_reduce
        rw [overlay_empty, if_neg]
        simpa [Option.isSome_iff_ne_none] using hseen
      · exact hkeep rfl rfl he
    | @commit other changes next hr' =>
      refine hkeep rfl rfl fun he => ?_
      rw [he, hr] at hr'
      cases hr'
    | @abort other r' hr' =>
      by_cases he : other = id
      · subst he
        exact Or.inl ⟨_, set_requests_self .., rfl⟩
      · exact hkeep rfl rfl he

lemma commit_letIn {changes : Changes} {next : Program} (hstanding : Standing permissions code s)
    (hr : s.requests id = some ⟨changes, .commit next⟩)
    (hseen : ∀ c user, changes (.member c user) ≠ none →
      (requireMember (overlay changes s.rows) c user).isSome)
    (ht : Touched code s.rows (overlay changes s.rows)) :
    LetIn (Server.set { s with rows := overlay changes s.rows } id ⟨.empty, next⟩) id := by
  rcases (locksAmid.commits (hstanding.stands _ _ hr)).2 with ⟨-, hkeeps⟩ | hsame
  · obtain ⟨c, user, j, rfl, he⟩ := hkeeps.touched ht
    refine Or.inr ⟨c, user, set_requests_self .., hseen c user fun hnone => he.outside ?_⟩
    obtain ⟨m, hm, hl⟩ := he.inside
    exact ⟨m, (overlay_of_none hnone).symm.trans hm, hl⟩
  · exact absurd ht hsame.untouched

structure Settled (code : String) (entries : List Entry) (s : Server Row) : Prop where
  letIn : ∀ e ∈ entries, ∀ id, e.2.1 = .commit id → Touched code e.1.rows e.2.2.rows → LetIn s id
  failed : ∀ e ∈ entries, ∀ id, Failed id e → Through s id
  apart : ∀ e ∈ entries, ∀ e' ∈ entries, ∀ id, e.2.1 = .commit id → Failed id e' →
    ¬ Touched code e.1.rows e.2.2.rows

lemma Settled.step (h : Settled code entries s) (hstanding : Standing permissions code s)
    (hok : Answered code (entries ++ [(s, event, s')]))
    (hs : Step (InviteRequest permissions code) s event s') :
    Settled code (entries ++ [(s, event, s')]) s' := by
  constructor
  · intro e he id hcommit ht
    rcases List.mem_append.mp he with he | he
    · exact (h.letIn e he id hcommit ht).step hstanding hs
    · obtain rfl := List.mem_singleton.mp he
      cases hcommit
      cases hs with
      | @commit _ changes next hr =>
        have hseen := hok.seen (s, .commit id, Server.set { s with rows := overlay changes s.rows } id
          ⟨.empty, next⟩) (List.mem_append_right _ he) id changes next rfl hr
        exact commit_letIn hstanding hr hseen ht
  · intro e he id hf
    rcases List.mem_append.mp he with he | he
    · exact (h.failed e he id hf).step hs
    · obtain rfl := List.mem_singleton.mp he
      obtain ⟨habort, -⟩ := hf
      cases habort
      cases hs with
      | abort => exact ⟨_, set_requests_self .., rfl⟩
  · intro e he e' he' id hcommit hf ht
    rcases List.mem_append.mp he with hin | hnew
    · rcases List.mem_append.mp he' with hin' | hnew'
      · exact h.apart e hin e' hin' id hcommit hf ht
      · obtain rfl := List.mem_singleton.mp hnew'
        obtain ⟨habort, r, hr, hnot⟩ := hf
        have halive := (List.pairwise_append.mp hok.alive).2.2 e hin _ (List.mem_singleton_self _) id r
          hcommit ht habort hr
        rcases h.letIn e hin id hcommit ht with ⟨r', hr', hdone⟩ | ⟨c, user, hr', -⟩
        · obtain rfl := Option.some.inj (hr.symm.trans hr')
          exact hnot hdone
        · obtain rfl := Option.some.inj (hr.symm.trans hr')
          rcases halive with hp | hp <;> cases hp
    · obtain rfl := List.mem_singleton.mp hnew
      cases hcommit
      rcases List.mem_append.mp he' with hin' | hnew'
      · obtain ⟨r, hr, hdone⟩ := h.failed e' hin' id hf
        cases hs with
        | commit hr' =>
          obtain rfl := Option.some.inj (hr.symm.trans hr')
          cases hdone
      · obtain rfl := List.mem_singleton.mp hnew'
        cases hf.1

lemma answered_init {e : Entry} (h : Answered code (entries ++ [e])) : Answered code entries where
  seen e' he' := h.seen e' (List.mem_append_left _ he')
  alive := (List.pairwise_append.mp h.alive).1

lemma history_settled
    (h : History (Step (InviteRequest permissions code)) (.idle rows) entries s)
    (hok : Answered code entries) : Standing permissions code s ∧ Settled code entries s := by
  generalize hs₀ : Server.idle rows = s₀ at h
  induction h with
  | start =>
    subst hs₀
    exact ⟨idle_upheld trivial, by simp, by simp, by simp⟩
  | snoc _ hs ih =>
    obtain ⟨hstanding, hsettled⟩ := ih (answered_init hok)
    exact ⟨hstanding.step hs, hsettled.step hstanding hok hs⟩

/-- In every run of redemptions, revocations and sweeps, the row of an invite counts the admissions
it has granted and never exceeds its bound, and a revocation ends them. Where the answers are given,
a request that fails has touched neither the uses nor anybody's membership or roles. -/
theorem history_admits (hi : rows (.invite code) = some i)
    (hmax : 0 < i.maxUses → i.uses ≤ i.maxUses)
    (h : History (Step (InviteRequest permissions code)) (.idle rows) entries s) :
    (∃ i' : Invite, s.rows (.invite code) = some i' ∧ i'.maxUses = i.maxUses ∧
      i'.uses = i.uses + admissions entries ∧ (0 < i'.maxUses → i'.uses ≤ i'.maxUses)) ∧
    (entries.Pairwise fun e e' =>
      Revoked code e.2.2.rows → admitted e'.1.rows e'.2.2.rows = []) ∧
    (Answered code entries → ∀ e ∈ entries, ∀ e' ∈ entries, ∀ id, e.2.1 = .commit id →
      Failed id e' → ¬ Touched code e.1.rows e.2.2.rows) := by
  have htally := history_tally hi hmax h
  exact ⟨htally.row, htally.closed, fun hok => (history_settled h hok).2.apart⟩

end Runs

/-! ## An invite to a channel -/

namespace Hall
open Tables.Sample (everything asking)

/-- 7 owns the space 1 with the channel 2, and has minted an invite to each. -/
def hall : Database :=
  Rows.on [.conversation 1, .conversation 2, .member 1 7, .invite "space", .invite "channel"] fun
    | .conversation 1 => some (Conversation.new .group)
    | .conversation 2 => some { Conversation.new .group with parentId := some 1 }
    | .member 1 7 => some (Member.new .owner 3)
    | .invite "space" => some ⟨1, 7, none, 0, 0, none, none⟩
    | .invite "channel" => some ⟨2, 7, none, 0, 0, none, none⟩
    | _ => none

def redeeming (code : String) : Server Row :=
  (Server.idle hall).set 0 ⟨.empty, redeem 9 100 code 5⟩

lemma redeeming_out (code : String) {other : RequestId} (h : other ≠ 0) :
    (redeeming code).requests other = none := set_requests_of_ne _ h

lemma start_redeeming (code : String) : Step (InviteRequest everything code) (.idle hall)
    (.start 0 (redeem 9 100 code 5)) (redeeming code) := .start rfl (.redeem 9 100 5)

def seeing (s : Server Row) (id : RequestId) : Bool :=
  match s.requests id with
  | some ⟨_, .fail⟩ => false
  | some ⟨changes, .commit _⟩ => changes.keys.all fun
    | .member c user => (requireMember (overlay changes s.rows) c user).isSome
    | _ => true
  | _ => true

/-- What `seeing` says of the next step. -/
def Seeing (s : Server Row) (event : Event Row) : Prop :=
  (∀ id, event ≠ .abort id) ∧ ∀ id changes next, event = .commit id →
    s.requests id = some ⟨changes, .commit next⟩ → ∀ c user, changes (.member c user) ≠ none →
      (requireMember (overlay changes s.rows) c user).isSome

lemma upcoming_seeing {s : Server Row} {id : RequestId} (h : seeing s id = true) :
    Seeing s (s.upcoming id) := by
  unfold seeing at h
  unfold Server.upcoming
  have hstatement : Seeing s (.statement id) :=
    ⟨by simp, fun id' changes next he => by cases he⟩
  rcases hr : s.requests id with _ | ⟨changes, program⟩
  · exact hstatement
  · rw [hr] at h
    cases program with
    | done | statement => exact hstatement
    | fail => cases h
    | commit next =>
      refine ⟨by simp, fun id' changes' next' he hr' c user hne => ?_⟩
      cases he
      obtain ⟨rfl, -⟩ := Request.mk.inj (Option.some.inj (hr.symm.trans hr'))
      exact List.all_eq_true.mp h _ (changes.covered _ hne)

lemma seeing_answered {code : String} {entries : List Entry} (h : ∀ e ∈ entries, Seeing e.1 e.2.1) :
    Answered code entries where
  seen e he id changes next hcommit hr := (h e he).2 id changes next hcommit hr
  alive := by
    refine List.pairwise_of_forall_mem_list fun e _ e' he' id r _ _ habort => ?_
    exact absurd habort ((h e' he').1 id)

def throwing (s : Server Row) (id : RequestId) : Bool :=
  match s.requests id with
  | some ⟨_, .fail⟩ => true
  | _ => false

lemma throwing_fail {s : Server Row} {id : RequestId} (h : throwing s id = true) :
    ∃ r, s.requests id = some r ∧ r.program = .fail := by
  unfold throwing at h
  split at h
  · rename_i hr
    exact ⟨_, hr, rfl⟩
  · cases h

lemma step_asking {accepted : Program → Prop} {s : Server Row} {id : RequestId}
    (hout : ∀ other, other ≠ id → s.requests other = none) (h : asking s id = true) :
    Step accepted s (.statement id) (s.advance id) := by
  unfold asking at h
  unfold Server.advance
  split at h
  · rename_i hr
    rw [hr]
    refine .statement hr fun other r hne hr' => ?_
    rw [hout other hne] at hr'
    cases hr'
  · cases h

end Hall

open Hall Tables.Sample in
/-- Answered, the redemption of the invite to the space is one admission, and nothing has failed. -/
theorem history_admits_once : ∃ entries s,
    History (Step (InviteRequest everything "space")) (.idle hall) entries s ∧
    (∀ id r, s.requests id = some r → r.program = .done) ∧ admissions entries = 1 ∧
    ∀ e ∈ entries, ∀ e' ∈ entries, ∀ id, e.2.1 = .commit id → Failed id e' →
      ¬ Touched "space" e.1.rows e.2.2.rows := by
  have hseeing : ∀ k < 11, seeing ((Server.advance · 0)^[k] (redeeming "space")) 0 = true := by
    decide
  have hrun : RunWhere (Step (InviteRequest everything "space")) Seeing (.idle hall)
      ((Server.advance · 0)^[11] (redeeming "space")) :=
    .head ⟨by simp, by simp⟩ (start_redeeming "space")
      (run_alone 11 (fun _ => redeeming_out "space") fun k hk => upcoming_seeing (hseeing k hk))
  obtain ⟨entries, h, hok⟩ := History.of_run hrun
  obtain ⟨⟨i, hi, -, huses, -⟩, -, hfailed⟩ := history_admits rfl (by decide) h
  have hrow : ((Server.advance · 0)^[11] (redeeming "space")).rows (.invite "space") =
      some (⟨1, 7, none, 0, 1, none, none⟩ : Invite) := by decide
  rw [hrow] at hi
  obtain rfl := Option.some.inj hi
  refine ⟨entries, _, h, fun id r hr => ?_, by simpa using huses.symm, hfailed (seeing_answered hok)⟩
  by_cases hid : id = 0
  · subst hid
    have hdone : ((Server.advance · 0)^[11] (redeeming "space")).finished 0 = true := by
      decide
    exact finished_done hdone hr
  · rw [advances_requests_of_ne hid, redeeming_out "space" hid] at hr
    cases hr

open Hall Tables.Sample in
/-- The redemption of an invite to a channel fails for whoever is not in its space, and has let them
in and counted it. -/
theorem outsider_counted_in_channel : ∃ entries s,
    History (Step (InviteRequest everything "channel")) (.idle hall) entries s ∧
    ∃ e ∈ entries, ∃ e' ∈ entries, e.2.1 = .commit 0 ∧ Failed 0 e' ∧
      Touched "channel" e.1.rows e.2.2.rows := by
  -- its commit, its look at the conversation, and the throw
  have hrun : RunWhere (Step (InviteRequest everything "channel")) (fun _ _ => True) (.idle hall)
      ((Server.advance · 0)^[9] (redeeming "channel")) :=
    .head trivial (start_redeeming "channel")
      (run_alone 9 (fun _ => redeeming_out "channel") fun _ _ => trivial)
  obtain ⟨entries, h, -⟩ := History.of_run hrun
  have hcommitting : ((Server.advance · 0)^[9] (redeeming "channel")).committing 0 = true := by
    decide
  have hasking : asking ((Server.advance · 0)^[10] (redeeming "channel")) 0 = true := by
    decide
  have hthrowing : throwing ((Server.advance · 0)^[11] (redeeming "channel")) 0 = true := by
    decide
  have hcommit := h.snoc (step_commit hcommitting)
  rw [← Function.iterate_succ_apply' (Server.advance · 0)] at hcommit
  have hlook := hcommit.snoc (step_asking (fun _ hne => by
    rw [advances_requests_of_ne hne, redeeming_out "channel" hne]) hasking)
  rw [← Function.iterate_succ_apply' (Server.advance · 0)] at hlook
  obtain ⟨r, hr, hfail⟩ := throwing_fail hthrowing
  refine ⟨_, _, hlook.snoc (.abort hr), ((Server.advance · 0)^[9] (redeeming "channel"), .commit 0,
    (Server.advance · 0)^[10] (redeeming "channel")), ?_, _,
    List.mem_append_right _ (List.mem_singleton_self _), rfl, ⟨rfl, r, hr, by simp [hfail]⟩, ?_⟩
  · exact List.mem_append_left _ (List.mem_append_left _
      (List.mem_append_right _ (List.mem_singleton_self _)))
  · refine Or.inl ?_
    decide

end Redemption
end Yappy.Tables
