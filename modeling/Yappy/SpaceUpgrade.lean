import Yappy.LockFirst
import Yappy.MessageSequence

/-!
# Turning a group into a space

`POST /:id/upgrade-to-space` of `apps/api/src/routes/spaces.ts` beside `MessageService.send` in the
group. Both lock the group's row before they write anything, so their transactions run one after
the other.
-/
namespace Yappy.Tables
open Permissions (Time Uuid)
open ReadCommitted
open Statement

/-- `count(*)` of the members who have not left. -/
def activeCount (view : Database) (scope : Uuid) : ℕ := (activeMembers view scope).dedup.length

def Conversation.withCount (n : ℕ) (c : Conversation) : Conversation := { c with memberCount := n }

/-- Writes of `conversation_members` with what the `members_count` trigger adds. -/
def counted (c : Uuid) (writes : Database → Changes) (view : Database) : Changes :=
  match view (.conversation c) with
  | none => writes view
  | some conv => andThen (writes view) (put (.conversation c)
      (conv.withCount (activeCount (overlay (writes view) view) c)))

def membersOf (view : Database) (c : Uuid) : List Uuid :=
  view.keys.filterMap fun
    | .member s user => if s = c ∧ (view (.member s user)).isSome then some user else none
    | _ => none

def pinnedIn (view : Database) (c : Uuid) : List Uuid :=
  view.keys.filterMap fun
    | .pin s message => if s = c ∧ (view (.pin s message)).isSome then some message else none
    | _ => none

section Upgrade
variable (g channelId : Uuid)

def moveMessages (next : Program) : Program :=
  updateAll
    (fun view => view.select fun
      | .message _, (m : Message) => m.conversationId = g
      | _, _ => false)
    (fun
      | .message _, (m : Message) => { m with conversationId := channelId }
      | _, r => r)
    next

def movePins (next : Program) : Program :=
  .statement
    (fun view => Rows.on ((pinnedIn view g).flatMap fun m => [Key.pin g m, .pin channelId m]) fun
      | .pin c m =>
        if c = g then (view (.pin g m)).map fun _ => none
        else if c = channelId then (view (.pin g m)).map some
        else none
      | _ => none)
    fun _ => next

def moveMentions (next : Program) : Program :=
  updateAll
    (fun view => view.select fun
      | .mention .., (m : Mention) => m.conversationId = g
      | _, _ => false)
    (fun
      | .mention .., (m : Mention) => { m with conversationId := channelId }
      | _, r => r)
    next

def moveCalls (next : Program) : Program :=
  updateAll
    (fun view => view.select fun
      | .call _, (c : Call) => c.conversationId = some g
      | _, _ => false)
    (fun
      | .call _, (c : Call) => { c with conversationId := some channelId }
      | _, r => r)
    next

def Member.inChannel (m : Member) : Member :=
  { m with isPinned := false, isArchived := false, isAffiliate := false, rejoinCount := 0 }

def copiedMembers (view : Database) : Changes :=
  Rows.on ((membersOf view g).map (Key.member channelId)) fun
    | .member _ user => (view (.member g user)).map fun m => some m.inChannel
    | _ => none

def copyMembers (next : Program) : Program :=
  .statement (counted channelId (copiedMembers g channelId)) fun _ => next

def resetCursors (next : Program) : Program :=
  updateAll (fun view => (membersOf view g).map (Key.member g))
    (fun
      | .member .., (m : Member) => { m with lastReadSeq := 0, lastDeliveredSeq := 0, draft := none }
      | _, r => r)
    next

def Conversation.asSpace (c : Conversation) : Conversation :=
  { c with
    type := .space
    messageSeq := 0
    lastMessageId := none
    lastMessagePreview := none
    lastMessageSenderId := none
    basePermissions := some ⟨Permissions.defaultConversationPermissions .space, by decide⟩ }

/-- The channel takes over everything that describes a timeline from the group as it was read. -/
def Conversation.firstChannel (group : Conversation) (actor : Uuid) (title : String)
    (memberCount : ℕ) : Conversation :=
  { Conversation.new .channel with
    parentId := some g
    title := some title
    ownerId := group.ownerId
    createdById := some actor
    memberCount := if memberCount = 0 then group.memberCount else memberCount
    messageSeq := group.messageSeq
    lastMessageId := group.lastMessageId
    lastMessageAt := group.lastMessageAt
    lastMessagePreview := group.lastMessagePreview
    lastMessageSenderId := group.lastMessageSenderId
    basePermissions := group.basePermissions
    disappearingSeconds := group.disappearingSeconds
    slowModeSeconds := group.slowModeSeconds }

def upgradeTransaction (actor messageId : Uuid) (title : String) (clock : Time)
    (group : Conversation) : Program :=
  update (.conversation g) Conversation.asSpace fun _ =>
  read fun view =>
  insert (.conversation channelId) (group.firstChannel g actor title (activeCount view g)) <|
  moveMessages g channelId <|
  movePins g channelId <|
  moveMentions g channelId <|
  moveCalls g channelId <|
  copyMembers g channelId <|
  resetCursors g <|
  writeSystemMessage channelId messageId ⟨"upgraded_to_space", some actor, [], some title⟩ clock <|
  .commit .done

def upgradeToSpace (actor messageId : Uuid) (title : String) (clock : Time) : Program :=
  read fun view =>
    match view (.conversation g), view (.member g actor) with
    | some group, some member =>
      if group.deletedAt.isSome || member.leftAt.isSome then .fail
      else if member.role ≠ .owner then .fail
      else if group.type ≠ .group then .fail
      else if group.parentId.isSome then .fail
      else upgradeTransaction g channelId actor messageId title clock group
    | _, _ => .fail

end Upgrade

/-! ## One statement alone -/

section Rules
variable {post : Database → Program → Prop} {view : Database} {k : Key} {next : Program}

lemma ends_read {next : Database → Program} (h : Ends post (next view) view) :
    Ends post (read next) view := .statement h

lemma ends_insert {r : Row k} (h : view k = none → ∀ view' : Database, view' k = some r →
    (∀ k', k' ≠ k → view' k' = view k') → Ends post next view') :
    Ends post (insert k r next) view := by
  refine .statement ?_
  cases hk : view k with
  | none =>
    refine h hk _ ?_ fun k' hne => ?_
    · exact overlay_of_some (put_self ..)
    · exact overlay_of_none (put_of_ne r hne)
  | some r' => exact .fail

lemma ends_insertNew {r : Row k} {next : Bool → Program}
    (hold : ∀ r', view k = some r' → Ends post (next false) view)
    (hnew : view k = none → ∀ view' : Database, view' k = some r →
      (∀ k', k' ≠ k → view' k' = view k') → Ends post (next true) view') :
    Ends post (insertNew k r next) view := by
  refine .statement ?_
  cases hk : view k with
  | none =>
    refine hnew hk _ ?_ fun k' hne => ?_
    · exact overlay_of_some (put_self ..)
    · exact overlay_of_none (put_of_ne r hne)
  | some r' => exact hold r' hk

lemma ends_update {f : Row k → Row k} {next : Option (Row k) → Program}
    (hnone : view k = none → Ends post (next none) view)
    (h : ∀ r, view k = some r → ∀ view' : Database, view' k = some (f r) →
      (∀ k', k' ≠ k → view' k' = view k') → Ends post (next (some (f r))) view') :
    Ends post (update k f next) view := by
  refine .statement ?_
  cases hk : view k with
  | none => exact hnone hk
  | some r =>
    refine h r hk _ ?_ fun k' hne => ?_
    · exact overlay_of_some (put_self ..)
    · exact overlay_of_none (put_of_ne (f r) hne)

lemma update_writes {f : Row k → Row k} {next : Option (Row k) → Program}
    {writes : Database → Changes} {rest : Database → Program} {r : Row k}
    (hp : .statement writes rest = update k f next) (hr : view k = some r) :
    writes view k ≠ none := by
  cases hp
  beta_reduce
  rw [hr, Option.filter_some, if_pos rfl]
  simp

lemma ends_updateAll {keys : Database → List Key} {f : (k : Key) → Row k → Row k}
    (h : ∀ view' : Database, (∀ k, k ∈ keys view → view' k = (view k).map (f k)) →
      (∀ k, k ∉ keys view → view' k = view k) → Ends post next view') :
    Ends post (updateAll keys f next) view := by
  refine .statement (h _ (fun k hk => ?_) fun k hk => ?_)
  · rw [overlay_apply, Rows.on_apply, if_pos hk]
    cases view k <;> rfl
  · rw [overlay_apply, Rows.on_apply, if_neg hk]
    rfl

lemma ends_allocate {c : Uuid} {stamp : Conversation → Conversation} {next : ℕ → Program}
    (h : ∀ conv : Conversation, view (.conversation c) = some conv → ∀ view' : Database,
      view' (.conversation c) = some { stamp conv with messageSeq := conv.messageSeq + 1 } →
      (∀ k', k' ≠ .conversation c → view' k' = view k') →
      Ends post (next (conv.messageSeq + 1)) view') :
    Ends post (allocateMessageSeq c stamp next) view :=
  ends_update (fun _ => .fail) fun conv hc view' hv hframe => h conv hc view' hv hframe

lemma ends_insertMessage {id : Uuid} {m : Message}
    (h : view (.message id) = none → (∀ m', place view m' ≠ some (m.conversationId, m.seq)) →
      ∀ view' : Database, view' (.message id) = some m →
      (∀ k', k' ≠ .message id → view' k' = view k') → Ends post next view') :
    Ends post (insertMessage id m next) view := by
  refine .statement ?_
  cases hv : violates view id m with
  | true =>
    simp only [if_true]
    exact .fail
  | false =>
    simp only [Bool.false_eq_true, if_false]
    simp only [violates, Bool.or_eq_false_iff, Option.isSome_eq_false_iff,
      Option.isNone_iff_eq_none] at hv
    obtain ⟨⟨hid, hclash⟩, -⟩ := hv
    refine h hid (fun m' hm' => ?_) _ (overlay_of_some (put_self ..))
      fun k' hne => overlay_of_none (@put_of_ne _ Row _ _ _ m hne)
    obtain ⟨r, hr, hplace⟩ := Option.map_eq_some_iff.mp hm'
    have hmem : Key.message m' ∈ clashing view m := by
      refine Rows.mem_select.mpr ⟨r, hr, ?_⟩
      simp only [Prod.mk.injEq] at hplace
      simp [hplace]
    have hnil : clashing view m = [] := by simpa using hclash
    rw [hnil] at hmem
    cases hmem

lemma ends_insertMentions {messageId : Uuid} {row : Mention} {users : Database → List Uuid}
    (h : ∀ view' : Database, (∀ m user, view' (.mention m user) = view (.mention m user) ∨
      (m = messageId ∧ view' (.mention m user) = some row)) →
      (∀ k', (∀ m user, k' ≠ .mention m user) → view' k' = view k') → Ends post next view') :
    Ends post (insertMentions messageId row users next) view := by
  refine .statement (h _ (fun m user => ?_) fun k' hk => ?_)
  · rw [overlay_apply, Rows.on_apply]
    by_cases hmem : Key.mention m user ∈ (users view).map (Key.mention messageId)
    · obtain ⟨u, -, hu⟩ := List.mem_map.mp hmem
      simp only [Key.mention.injEq] at hu
      rw [if_pos hmem]
      by_cases hsome : (view (.mention m user)).isSome
      · exact Or.inl (by simp [hsome])
      · exact Or.inr ⟨hu.1.symm, by simp [hsome]⟩
    · rw [if_neg hmem]
      exact Or.inl rfl
  · rw [overlay_apply, Rows.on_apply, if_neg]
    · rfl
    · intro hmem
      obtain ⟨u, -, rfl⟩ := List.mem_map.mp hmem
      exact hk messageId u rfl

end Rules

end Yappy.Tables
