import Yappy.SpaceUpgrade

/-!
# Membership

`create`, `addMembers` and `removeMember` of `apps/api/src/services/conversations.ts` and the member,
ban, transfer and join routes of `apps/api/src/routes/conversations.ts`, statement by statement.
Events, notifications and the audit log, which write no table modelled here, are left out.
-/
namespace Yappy.Tables
open Permissions (ConversationType MemberRole Time Uuid Mask outranks)
open ReadCommitted
open Statement

def groupMembersMax : ℕ := 5000

/-- `requireMember`: the conversation and, of a channel, the row in its space. -/
def requireMember (view : Database) (id user : Uuid) : Option (Conversation × Member) :=
  match (view (.conversation id)).filter fun c => c.deletedAt.isNone with
  | none => none
  | some c =>
    ((view (.member (c.parentId.getD id) user)).filter fun m => m.leftAt.isNone).map fun m => (c, m)

def Member.gone (clock : Time) (m : Member) : Member := { m with leftAt := some clock }

/-- Back in by an invitation of `actor`, an ordinary member. -/
def Member.readmitted (actor : Uuid) (m : Member) : Member :=
  { m with leftAt := none, invitedById := some actor, role := .member }

def Member.back (m : Member) : Member := { m with leftAt := none, rejoinCount := m.rejoinCount + 1 }

def Member.withRole (role : MemberRole) (m : Member) : Member := { m with role := role }

/-- A first row; `floor` is where the history starts for it. -/
def Member.joining (invitedById : Option Uuid) (floor : ℕ) (clock : Time) : Member :=
  { Member.new .member clock with invitedById := invitedById, historyStartSeq := floor }

def Conversation.historyFloor (c : Conversation) : ℕ :=
  if c.historyVisibility = "full" then 0 else c.messageSeq

def matching (view : Database) (id : Uuid) (users : List Uuid) (p : Member → Bool) : List Uuid :=
  users.filter fun user => (view (.member id user)).any p

def replaced (id : Uuid) (users : List Uuid) (f : Member → Member) (view : Database) : Changes :=
  Rows.on (users.map (Key.member id)) fun
    | .member c user => (view (.member c user)).map fun m => some (f m)
    | _ => none

def updatedMembers (id : Uuid) (users : List Uuid) (p : Member → Bool) (f : Member → Member)
    (view : Database) : Changes :=
  if matching view id users p = [] then .empty
  else counted id (replaced id (matching view id users p) f) view

/-- One `update conversation_members set …, left_at = …`, which the trigger counts after. -/
def updateMembers (id : Uuid) (users : List Uuid) (p : Member → Bool) (f : Member → Member)
    (next : List Uuid → Program) : Program :=
  .statement (updatedMembers id users p f) fun view => next (matching view id users p)

def newRows (id : Uuid) (users : List Uuid) (m : Uuid → Member) : Changes :=
  Rows.on (users.map (Key.member id)) fun
    | .member _ user => some (some (m user))
    | _ => none

def anyRow (view : Database) (id : Uuid) (users : List Uuid) : Bool :=
  users.any fun user => (view (.member id user)).isSome

def insertedMembers (id : Uuid) (users : List Uuid) (m : Uuid → Member) (view : Database) : Changes :=
  if anyRow view id users then .empty else counted id (fun _ => newRows id users m) view

/-- One `insert into conversation_members`, which throws where a row is there. -/
def insertMembers (id : Uuid) (users : List Uuid) (m : Uuid → Member) (next : Program) : Program :=
  .statement (insertedMembers id users m) fun view => if anyRow view id users then .fail else next

def checkBans (id : Uuid) (users : List Uuid) (next : List Uuid → Program) : Program :=
  read fun view => next (users.filter fun user => (view (.ban id user)).isSome)

def announce (id messageId : Uuid) (payload : SystemPayload) (clock : Time) (next : Program) :
    Program :=
  writeSystemMessage id messageId payload clock (.commit next)

section Requests
/- The effective permissions of a member in a conversation. Overwrites and the like take part in them
that nothing here writes. -/
variable (permissions : Database → Uuid → Uuid → ℕ)

/-- `ctx.permissions & permission`, or an administrator's. -/
def holds (view : Database) (id user : Uuid) (permission : ℕ) : Bool :=
  permissions view id user &&& permission ≠ 0 ||
    permissions view id user &&& Permissions.Permission.administrator ≠ 0

/-! ## Founding -/

structure CreateInput where
  type : ConversationType
  memberIds : List Uuid
  title : Option String
  disappearingSeconds : ℕ
  campfire : Option ℕ

def CreateInput.conversation (input : CreateInput) (actor : Uuid) (clock : Time) : Conversation :=
  { Conversation.new input.type with
    title := input.title
    ownerId := some actor
    createdById := some actor
    disappearingSeconds := input.disappearingSeconds
    endsAt := input.campfire.map fun t => clock + t }

def founding (actor : Uuid) (clock : Time) (user : Uuid) : Member :=
  if user = actor then .new .owner clock else .joining (some actor) 0 clock

def createTransaction (id actor messageId : Uuid) (input : CreateInput) (allowed : List Uuid)
    (clock : Time) : Program :=
  insert (.conversation id) (input.conversation actor clock) <|
  insertMembers id (actor :: allowed) (founding actor clock) <|
  announce id messageId ⟨"conversation_created", some actor, [], input.title⟩ clock .done

/-- `create`, of anything but a direct message. The privacy checks of `assertCanInitiate` read other
tables. -/
def create (id actor messageId : Uuid) (input : CreateInput) (initiable : Uuid → Bool)
    (clock : Time) : Program :=
  let uniqueMembers := (input.memberIds.filter (· ≠ actor)).dedup
  if groupMembersMax < uniqueMembers.length + 1 then .fail
  else createTransaction id actor messageId input (uniqueMembers.filter initiable) clock

/-! ## Coming in -/

def addFresh (actor id messageId : Uuid) (c : Conversation) (added fresh : List Uuid)
    (clock : Time) : Program :=
  let announced := announce id messageId ⟨"member_added", some actor, added, none⟩ clock .done
  if fresh = [] then announced
  else insertMembers id fresh (fun _ => .joining (some actor) c.historyFloor clock) announced

def addTransaction (actor id messageId : Uuid) (c : Conversation) (added rejoining fresh : List Uuid)
    (clock : Time) : Program :=
  let freshAdded := addFresh actor id messageId c added fresh clock
  if rejoining = [] then freshAdded
  else updateMembers id rejoining (fun _ => true) (Member.readmitted actor) fun _ => freshAdded

def addMembers (actor id messageId : Uuid) (userIds : List Uuid) (initiable : Uuid → Bool)
    (clock : Time) : Program :=
  read fun view =>
    match requireMember view id actor with
    | none => .fail
    | some (c, _) =>
      if c.type = .dm then .fail
      else if !holds permissions view id actor Permissions.Permission.inviteMembers then .fail
      else checkBans id userIds.dedup fun banned => read fun view =>
        let added := userIds.dedup.filter fun user =>
          user ∉ banned ∧ (view (.member id user)).all (fun m => m.leftAt.isSome) ∧ initiable user
        if groupMembersMax < c.memberCount + added.length then .fail
        else if added = [] then .done
        else addTransaction actor id messageId c added
          (added.filter fun user => (view (.member id user)).isSome)
          (added.filter fun user => (view (.member id user)).isNone) clock

def joinMember (actor id : Uuid) (c : Conversation) (existing : Option Member) (clock : Time)
    (next : Program) : Program :=
  match existing with
  | some _ => updateMembers id [actor] (fun _ => true) Member.back fun _ => next
  | none => insertMembers id [actor] (fun _ => .joining none c.historyFloor clock) next

def grantRole (actor : Uuid) (invite : Invite) (next : Program) : Program :=
  match invite.roleId with
  | none => next
  | some roleId => read fun view =>
    if (view (.role roleId)).any fun r => r.conversationId = invite.conversationId then
      insertNew (.memberRole invite.conversationId actor roleId) ⟨some invite.createdById⟩
        fun _ => next
    else next

/-- `POST /invites/:code/join`, all in one transaction. -/
def joinInvite (actor messageId : Uuid) (code : String) (clock : Time) : Program :=
  -- `for update`
  updateWhere (.invite code) (fun i => i.revokedAt.isNone) id fun
  | none => .fail
  | some (invite : Invite) =>
    if invite.expiresAt.any fun t => t < clock then .fail
    else if 0 < invite.maxUses ∧ invite.maxUses ≤ invite.uses then .fail
    else checkBans invite.conversationId [actor] fun banned =>
      if banned ≠ [] then .fail
      else read fun view =>
        match (view (.conversation invite.conversationId)).filter fun c => c.deletedAt.isNone with
        | none => .fail
        | some c => read fun view =>
          let existing := view (.member invite.conversationId actor)
          if existing.any fun m => m.leftAt.isNone then .commit .done
          else joinMember actor invite.conversationId c existing clock <|
            update (.invite code) (fun (i : Invite) => { i with uses := i.uses + 1 }) fun _ =>
            grantRole actor invite <|
            announce invite.conversationId messageId ⟨"member_joined", some actor, [], none⟩ clock
              .done

/-- `POST /:id/join`. -/
def joinPublic (actor id messageId : Uuid) (clock : Time) : Program :=
  read fun view =>
    match view (.conversation id) with
    | none => .fail
    | some c =>
      if c.deletedAt.isSome ∨ c.isPublic = false ∨ c.parentId.isSome then .fail
      else checkBans id [actor] fun banned =>
        if banned ≠ [] then .fail
        else read fun view =>
          let existing := view (.member id actor)
          if existing.any fun m => m.leftAt.isNone then .commit .done
          else joinMember actor id c existing clock <|
            announce id messageId ⟨"member_joined", some actor, [], none⟩ clock .done

/-! ## Going out -/

def removal (actor id target messageId : Uuid) (clock : Time) : Program :=
  updateMembers id [target] (fun m => m.leftAt.isNone) (Member.gone clock) fun changed =>
    if changed = [] then .commit .done
    else announce id messageId
      ⟨if actor = target then "member_left" else "member_removed", some actor, [target], none⟩ clock
      .done

def checkTarget (role : MemberRole) (id target : Uuid) (next : Program) : Program :=
  read fun view =>
    if (view (.member id target)).any fun m => outranks role m.role then next else .fail

/-- `removeMember`; leaving is removing oneself. -/
def removeMember (actor id target messageId : Uuid) (clock : Time) : Program :=
  read fun view =>
    match requireMember view id actor with
    | none => .fail
    | some (c, m) =>
      if c.type = .dm then .fail
      else if actor = target then
        if m.role = .owner ∧ 1 < c.memberCount then .fail
        else removal actor id target messageId clock
      else if !holds permissions view id actor Permissions.Permission.kickMembers then .fail
      else checkTarget m.role id target (removal actor id target messageId clock)

/-! ## Roles and ownership -/

structure UpdateMemberBody where
  role : Option MemberRole
  allow : Option Mask
  deny : Option Mask
  mutedUntil : Option (Option Time)
  isAffiliate : Option Bool
  deriving DecidableEq

def UpdateMemberBody.apply (body : UpdateMemberBody) (m : Member) : Member :=
  { m with
    role := body.role.getD m.role
    allow := body.allow.getD m.allow
    deny := body.deny.getD m.deny
    mutedUntil := body.mutedUntil.getD m.mutedUntil
    isAffiliate := body.isAffiliate.getD m.isAffiliate }

def grantsRole (view : Database) (id actor : Uuid) (actorRole : MemberRole) (role : MemberRole) :
    Bool :=
  holds permissions view id actor Permissions.Permission.manageRoles && outranks actorRole role &&
    role ≠ .owner

/-- `PATCH /:id/members/:userId`: the write on its own, then the system message. `permits` stands
for the checks on `allow` and `isAffiliate`, which read other tables. -/
def patchMember (permits : Database → Bool) (actor id target messageId : Uuid)
    (body : UpdateMemberBody) (clock : Time) : Program :=
  read fun view =>
    match requireMember view id actor with
    | none => .fail
    | some (_, m) => read fun view' =>
      match (view' (.member id target)).filter fun t => t.leftAt.isNone with
      | none => .fail
      | some t =>
        if !outranks m.role t.role then .fail
        else if !(body.role.all fun role => grantsRole permissions view id actor m.role role) then .fail
        else if (body.mutedUntil.isSome || body.deny.isSome) &&
          !holds permissions view id actor Permissions.Permission.muteMembers then .fail
        else if !permits view then .fail
        -- an update that sets nothing throws before it reaches the database
        else if body = ⟨none, none, none, none, none⟩ then .fail
        else update (.member id target) body.apply fun _ => .commit <|
          match body.role with
          | none => .done
          | some role => announce id messageId
            ⟨if outranks role t.role then "member_promoted" else "member_demoted", some actor,
              [target], none⟩ clock .done

def Conversation.withOwner (user : Uuid) (c : Conversation) : Conversation :=
  { c with ownerId := some user }

def setOwner (id target : Uuid) (next : Program) : Program :=
  .statement
    (fun view => match view (.conversation id) with
      | some c => if (view (.user target)).isSome then
          put (.conversation id) (c.withOwner target) else .empty
      | none => .empty)
    fun view => if (view (.conversation id)).isSome ∧ (view (.user target)).isNone then .fail
      else next

def transferTransaction (actor id target messageId : Uuid) (clock : Time) : Program :=
  update (.member id actor) (Member.withRole .admin) fun _ =>
  update (.member id target) (Member.withRole .owner) fun _ =>
  setOwner id target <|
  announce id messageId ⟨"member_promoted", some actor, [target], some "owner"⟩ clock .done

/-- `POST /:id/transfer-ownership`. -/
def transferOwnership (actor id target messageId : Uuid) (clock : Time) : Program :=
  read fun view =>
    match requireMember view id actor with
    | none => .fail
    | some (_, m) =>
      if m.role ≠ .owner then .fail else transferTransaction actor id target messageId clock

/-! ## Bans -/

def insertedBan (id target : Uuid) (ban : Ban) (view : Database) : Changes :=
  if (view (.ban id target)).isSome ∨ (view (.user target)).isNone then .empty
  else put (.ban id target) ban

/-- `insert into conversation_bans … on conflict do nothing`, of somebody who has to be a user. -/
def insertBan (id target : Uuid) (ban : Ban) (next : Program) : Program :=
  .statement (insertedBan id target ban) fun view => if (view (.ban id target)).isNone ∧ (view (.user target)).isNone then .fail else next

/-- `POST /:id/bans/:userId`: the ban on its own, then the removal of whoever has a row. -/
def banMember (actor id target messageId : Uuid) (reason : Option String) (expiresAt : Option Time)
    (clock : Time) : Program :=
  read fun view =>
    match requireMember view id actor with
    | none => .fail
    | some (_, m) =>
      if !holds permissions view id actor Permissions.Permission.banMembers then .fail
      else read fun view =>
        if (view (.member id target)).any fun t => !outranks m.role t.role then .fail
        else insertBan id target ⟨some actor, reason, expiresAt⟩ <| .commit <|
          if (view (.member id target)).isSome then
            removeMember permissions actor id target messageId clock
          else .done

/-- `DELETE /:id/bans/:userId`. -/
def unbanMember (actor id target : Uuid) : Program :=
  read fun view =>
    if (requireMember view id actor).isNone then .fail
    else if !holds permissions view id actor Permissions.Permission.banMembers then .fail
    else .statement (fun _ => delete (.ban id target)) fun _ => .commit .done

end Requests

/-! ## What the statements write -/

section Writes
variable {id c user : Uuid} {users : List Uuid} {p : Member → Bool} {f : Member → Member}
  {m : Uuid → Member} {view : Database} {writes : Database → Changes} {k : Key}

lemma counted_conversation {conv : Conversation} (hconv : view (.conversation id) = some conv) :
    ∃ n, counted id writes view (.conversation id) = some (some (conv.withCount n)) := by
  unfold counted
  rw [hconv]
  refine ⟨activeCount (overlay (writes view) view) id, ?_⟩
  rw [andThen_apply, put_self, Option.some_or]

lemma counted_of_ne (hk : k ≠ .conversation id) : counted id writes view k = writes view k := by
  unfold counted
  split
  · rfl
  · rw [andThen_apply, put_of_ne _ hk, Option.none_or]

lemma mem_matching : user ∈ matching view id users p ↔
    user ∈ users ∧ ∃ m, view (.member id user) = some m ∧ p m = true := by
  rw [matching, List.mem_filter]
  exact and_congr_right fun _ => Option.any_eq_true ..

lemma replaced_member : replaced id users f view (.member id user) =
    if user ∈ users then (view (.member id user)).map fun m => some (f m) else none := by
  rw [replaced, Rows.on_apply]
  simp

lemma newRows_member : newRows id users m (.member id user) =
    if user ∈ users then some (some (m user)) else none := by
  rw [newRows, Rows.on_apply]
  simp

lemma replaced_of_ne (hk : ∀ user, k ≠ .member id user) : replaced id users f view k = none := by
  rw [replaced, Rows.on_apply, if_neg]
  intro hin
  obtain ⟨u, -, rfl⟩ := List.mem_map.mp hin
  exact hk u rfl

lemma newRows_of_ne (hk : ∀ user, k ≠ .member id user) : newRows id users m k = none := by
  rw [newRows, Rows.on_apply, if_neg]
  intro hin
  obtain ⟨u, -, rfl⟩ := List.mem_map.mp hin
  exact hk u rfl

lemma updatedMembers_of_ne (hk : ∀ user, k ≠ .member id user) (hc : k ≠ .conversation id) :
    updatedMembers id users p f view k = none := by
  unfold updatedMembers
  split_ifs
  · rfl
  · rw [counted_of_ne hc, replaced_of_ne hk]

lemma insertedMembers_of_ne (hk : ∀ user, k ≠ .member id user) (hc : k ≠ .conversation id) :
    insertedMembers id users m view k = none := by
  unfold insertedMembers
  split_ifs
  · rfl
  · rw [counted_of_ne hc, newRows_of_ne hk]

lemma insertedBan_of_ne {ban : Ban} (hk : k ≠ .ban id user) :
    insertedBan id user ban view k = none := by
  unfold insertedBan
  split_ifs
  · rfl
  · exact @put_of_ne _ Row _ _ _ ban hk

end Writes

/-! ## What the requests are composed of -/

def Elsewhere : Key → Prop
  | .conversation _ | .member .. | .ban .. => False
  | _ => True

/-- The statements of membership requests, bans apart. Only a transaction that has not changed who is
in a conversation, which `early` says, transfers ownership. -/
inductive Composed : Bool → Program → Prop
  | done {early : Bool} : Composed early .done
  | fail {early : Bool} : Composed early .fail
  | commit {early : Bool} {next : Program} (h : Composed true next) : Composed early (.commit next)
  | elsewhere {early : Bool} {writes : Database → Changes} {next : Database → Program}
      (hw : ∀ view k x, writes view k = some x → Elsewhere k)
      (h : ∀ view, Composed early (next view)) : Composed early (.statement writes next)
  | describe {early : Bool} {id : Uuid} {f : Conversation → Conversation}
      {next : Option Conversation → Program} (hf : ∀ c, (f c).ownerId = c.ownerId)
      (h : ∀ r, Composed early (next r)) : Composed early (update (.conversation id) f next)
  | rejoin {early : Bool} {id actor : Uuid} {users : List Uuid} {next : List Uuid → Program}
      (h : ∀ changed, Composed false (next changed)) :
      Composed early (updateMembers id users (fun _ => true) (Member.readmitted actor) next)
  | enter {early : Bool} {id : Uuid} {users : List Uuid} {invitedById : Option Uuid} {floor : ℕ}
      {clock : Time} {next : Program} (h : Composed false next) :
      Composed early (insertMembers id users (fun _ => .joining invitedById floor clock) next)
  | back {early : Bool} {id user : Uuid} {next : List Uuid → Program}
      (h : ∀ changed, Composed false (next changed)) :
      Composed early (updateMembers id [user] (fun _ => true) Member.back next)
  | leave {early : Bool} {id target : Uuid} {clock : Time} {next : List Uuid → Program}
      (h : ∀ changed, Composed false (next changed)) :
      Composed early (updateMembers id [target] (fun m => m.leftAt.isNone) (Member.gone clock) next)
  | patch {early : Bool} {id target : Uuid} {body : UpdateMemberBody}
      {next : Option Member → Program} (hbody : body.role ≠ some .owner)
      (h : ∀ r, Composed early (next r)) :
      Composed early (update (.member id target) body.apply next)
  | transfer {actor id target : Uuid} {rest : Program} (h : Composed false rest) :
      Composed true (update (.member id actor) (Member.withRole .admin) fun _ =>
        update (.member id target) (Member.withRole .owner) fun _ => setOwner id target rest)

section Composition
variable {permissions : Database → Uuid → Uuid → ℕ} {actor id target messageId : Uuid} {clock : Time}
  {next : Program} {early : Bool}

lemma composed_read {next : Database → Program} (h : ∀ view, Composed early (next view)) :
    Composed early (read next) := .elsewhere (fun _ _ _ hx => by cases hx) h

lemma composed_updateWhere {k : Key} {q : Row k → Bool} {f : Row k → Row k}
    {next : Option (Row k) → Program} (hk : Elsewhere k) (h : ∀ r, Composed early (next r)) :
    Composed early (updateWhere k q f next) := by
  refine .elsewhere (fun view k' x hx => ?_) fun view => h _
  split at hx
  · exact put_eq_some hx ▸ hk
  · cases hx

lemma composed_insertNew {k : Key} {r : Row k} {next : Bool → Program} (hk : Elsewhere k)
    (h : ∀ b, Composed early (next b)) : Composed early (insertNew k r next) := by
  refine .elsewhere (fun view k' x hx => ?_) fun view => h _
  split_ifs at hx
  · cases hx
  · exact put_eq_some hx ▸ hk

lemma composed_insertMessage {row : Message} (h : Composed early next) :
    Composed early (insertMessage messageId row next) := by
  refine .elsewhere (fun view k' x hx => ?_) fun view => ?_
  · split_ifs at hx
    · cases hx
    · exact (@put_eq_some _ _ _ (.message messageId) k' row x hx) ▸ trivial
  · split_ifs
    · exact .fail
    · exact h

lemma composed_announce {payload : SystemPayload} (h : Composed true next) :
    Composed early (announce id messageId payload clock next) := by
  unfold announce writeSystemMessage allocateMessageSeq
  refine .describe (fun c => rfl) fun r => ?_
  cases r with
  | none => exact .fail
  | some c => exact composed_insertMessage (.describe (fun c => rfl) fun r => .commit h)

lemma composed_checkBans {users : List Uuid} {next : List Uuid → Program}
    (h : ∀ banned, Composed early (next banned)) : Composed early (checkBans id users next) :=
  composed_read fun _ => h _

lemma composed_addTransaction {c : Conversation} {added rejoining fresh : List Uuid} :
    Composed early (addTransaction actor id messageId c added rejoining fresh clock) := by
  have hfresh : ∀ early, Composed early (addFresh actor id messageId c added fresh clock) := by
    intro early
    unfold addFresh
    dsimp only
    split_ifs
    · exact composed_announce .done
    · exact .enter (composed_announce .done)
  unfold addTransaction
  dsimp only
  split_ifs
  · exact hfresh early
  · exact .rejoin fun _ => hfresh false

lemma composed_addMembers {userIds : List Uuid} {initiable : Uuid → Bool} :
    Composed early (addMembers permissions actor id messageId userIds initiable clock) := by
  refine composed_read fun view => ?_
  split
  · exact .fail
  · split_ifs
    · exact .fail
    · exact .fail
    · refine composed_checkBans fun banned => composed_read fun view' => ?_
      dsimp only
      split_ifs
      · exact .fail
      · exact .done
      · exact composed_addTransaction

lemma composed_joinMember {c : Conversation} {existing : Option Member} (h : Composed false next) :
    Composed early (joinMember actor id c existing clock next) := by
  cases existing with
  | none => exact .enter h
  | some m => exact .back fun _ => h

lemma composed_grantRole {invite : Invite} (h : Composed early next) :
    Composed early (grantRole actor invite next) := by
  unfold grantRole
  split
  · exact h
  · refine composed_read fun view => ?_
    split_ifs
    · exact composed_insertNew trivial fun _ => h
    · exact h

lemma composed_joinInvite {code : String} : Composed early (joinInvite actor messageId code clock) := by
  refine composed_updateWhere trivial fun invite => ?_
  cases invite with
  | none => exact .fail
  | some invite =>
    dsimp only
    split_ifs
    · exact .fail
    · exact .fail
    · refine composed_checkBans fun banned => ?_
      split_ifs
      · exact .fail
      · refine composed_read fun view => ?_
        split
        · exact .fail
        · refine composed_read fun view' => ?_
          split_ifs
          · exact .commit .done
          · refine composed_joinMember (composed_updateWhere trivial fun _ => composed_grantRole ?_)
            exact composed_announce .done

lemma composed_joinPublic : Composed early (joinPublic actor id messageId clock) := by
  refine composed_read fun view => ?_
  split
  · exact .fail
  · split_ifs
    · exact .fail
    · refine composed_checkBans fun banned => ?_
      split_ifs
      · exact .fail
      · refine composed_read fun view' => ?_
        dsimp only
        split_ifs
        · exact .commit .done
        · exact composed_joinMember (composed_announce .done)

lemma composed_removal : Composed early (removal actor id target messageId clock) := by
  refine .leave fun changed => ?_
  split_ifs
  · exact .commit .done
  · exact composed_announce .done
  · exact composed_announce .done

lemma composed_removeMember :
    Composed early (removeMember permissions actor id target messageId clock) := by
  refine composed_read fun view => ?_
  split
  · exact .fail
  · split_ifs
    · exact .fail
    · exact .fail
    · exact composed_removal
    · exact .fail
    · refine composed_read fun view' => ?_
      split_ifs
      · exact composed_removal
      · exact .fail

lemma composed_patchMember {permits : Database → Bool} {body : UpdateMemberBody} :
    Composed early (patchMember permissions permits actor id target messageId body clock) := by
  refine composed_read fun view => ?_
  split
  · exact .fail
  · refine composed_read fun view' => ?_
    split
    · exact .fail
    · split_ifs with hrank hrole
      · exact .fail
      · exact .fail
      · exact .fail
      · exact .fail
      · exact .fail
      · refine .patch ?_ fun _ => .commit ?_
        · intro howner
          rw [howner] at hrole
          simp [grantsRole] at hrole
        · split
          · exact .done
          · exact composed_announce .done

lemma composed_transferOwnership :
    Composed true (transferOwnership actor id target messageId clock) := by
  refine composed_read fun view => ?_
  split
  · exact .fail
  · split_ifs
    · exact .fail
    · exact .transfer (composed_announce .done)

end Composition

inductive MembershipRequest (permissions : Database → Uuid → Uuid → ℕ) : Program → Prop
  | addMembers (actor id messageId : Uuid) (userIds : List Uuid) (initiable : Uuid → Bool)
      (clock : Time) : MembershipRequest permissions
        (addMembers permissions actor id messageId userIds initiable clock)
  | joinInvite (actor messageId : Uuid) (code : String) (clock : Time) :
      MembershipRequest permissions (joinInvite actor messageId code clock)
  | joinPublic (actor id messageId : Uuid) (clock : Time) :
      MembershipRequest permissions (joinPublic actor id messageId clock)
  | removeMember (actor id target messageId : Uuid) (clock : Time) :
      MembershipRequest permissions (removeMember permissions actor id target messageId clock)
  | patchMember (permits : Database → Bool) (actor id target messageId : Uuid)
      (body : UpdateMemberBody) (clock : Time) : MembershipRequest permissions
        (patchMember permissions permits actor id target messageId body clock)
  | transferOwnership (actor id target messageId : Uuid) (clock : Time) :
      MembershipRequest permissions (transferOwnership actor id target messageId clock)
  | banMember (actor id target messageId : Uuid) (reason : Option String)
      (expiresAt : Option Time) (clock : Time) : MembershipRequest permissions
        (banMember permissions actor id target messageId reason expiresAt clock)
  | unbanMember (actor id target : Uuid) :
      MembershipRequest permissions (unbanMember permissions actor id target)

end Yappy.Tables
