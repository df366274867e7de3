import Yappy.HomeList

/-!
# Mentions rolled up onto a space

`apps/api/src/lib/mentionrollup.ts` beside the `mentionCount` that `list` gives a space.
-/
namespace Yappy.HomeList

open Permissions (Conversation ConversationMember Time Uuid)

def mentions (rows : List ConversationMember) : ℕ := (rows.map ConversationMember.mentionCount).sum

/-- `byConv.get(k) ?? 0` of a map that is made of rows. -/
def countOf {κ : Type} [DecidableEq κ] (rows : List (κ × ℕ)) (k : κ) : ℕ :=
  ((rows.find? fun row => row.1 = k).map Prod.snd).getD 0

section
variable (db : Sync.Database)

def members : List ConversationMember := db.reads.tables.conversationMembers.rows

/-- A row of the user, who is in, joined with an undeleted conversation that satisfies `p`. -/
def counted (userId : Uuid) (p : Conversation → Bool) (m : ConversationMember) : Bool :=
  m.userId = userId && m.leftAt.isNone &&
    (db.reads.tables.conversations.find m.conversationId).any fun c => c.deletedAt.isNone && p c

def within (spaceId : Uuid) (c : Conversation) : Bool := c.id = spaceId || c.parentId = some spaceId

def parentId (m : ConversationMember) : Option Uuid :=
  (db.reads.tables.conversations.find m.conversationId).bind Conversation.parentId

/-- The `mentionCount` of a row of a page. -/
def mentionCount (viewer : Uuid) (page : List (Conversation × ConversationMember × ℕ)) (c : Conversation)
    (m : ConversationMember) : ℕ :=
  let groupIds := (page.filter fun row => row.1.type ≠ .dm).map fun row => row.1.id
  let channelMentions := groupBy (parentId db) mentions ((members db).filter fun m =>
    counted db viewer (fun c => c.parentId.any groupIds.contains) m && decide (0 < m.mentionCount))
  m.mentionCount + countOf channelMentions (some c.id)

end

variable {db : Sync.Database} {rows : List ConversationMember} {p q : ConversationMember → Bool}
  {c : Conversation} {m : ConversationMember} {viewer : Uuid}

lemma counted_id (h : counted db viewer (fun c' => c'.id = c.id) m = true) : m.key = (c.id, viewer) := by
  simp only [counted, Bool.and_eq_true, decide_eq_true_eq, Option.any_eq_true] at h
  obtain ⟨⟨huser, -⟩, c', hc', -, hid⟩ := h
  rw [ConversationMember.key, ← KeyedTable.find_key hc', hid, huser]

end Yappy.HomeList
