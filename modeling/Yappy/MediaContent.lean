import Yappy.MessageReadable

/-!
# Media and the messages that carry it

`GET /media/:id/content` of `apps/api/src/routes/media.ts`, whose query restates who may read a message,
against `can_read_message`, and exactly where the two part. What the object storage holds is a parameter.
-/
namespace Yappy.MediaContent

open Permissions (AppError Conversation ConversationMember Time Uuid notFound)
open Reads (Message)

structure Media where
  id : Uuid
  ownerId : Option Uuid
  bucket : String
  objectKey : String
  thumbnailKey : Option String
  deletedAt : Option Time

structure StoredObject (Body : Type) where
  contentType : String
  body : Body

structure Response (Body : Type) where
  contentType : String
  cacheControl : String
  body : Body

structure Database extends Reads.Database where
  media : KeyedTable Media.id

def Media.key (row : Media) (variant : Option String) : String :=
  if variant = some "thumb" then (row.thumbnailKey.filter fun key => key ≠ "").getD row.objectKey
  else row.objectKey

def Carries (id : Uuid) (m : Message) : Bool := m.attachments.any fun a => a.mediaId = id

section Route
variable (db : Database) (viewer : Uuid)

/-- The rows of the viewer that have not been left: in the conversation and in its space. -/
def own (c : Conversation) : List (Option ConversationMember) :=
  leftJoin db.tables.conversationMembers.rows fun own => own.key = (c.id, viewer) && own.leftAt.isNone

def parent (c : Conversation) : List (Option ConversationMember) :=
  leftJoin db.tables.conversationMembers.rows fun parent =>
    (c.parentId.any fun parentId => parent.key = (parentId, viewer)) && parent.leftAt.isNone

/-- The messages by which the viewer may have the media. -/
def allowed (id : Uuid) : List Message :=
  (db.messages.rows.filter (Carries id)).filter fun m =>
    (db.tables.conversations.rows.filter fun c => c.id = m.conversationId).any fun c =>
      (own db viewer c).any fun own => (parent db viewer c).any fun parent =>
        (own.isSome || parent.isSome) && decide (own.elim 0 ConversationMember.historyStartSeq ≤ m.seq)

/-- `GET /media/:id/content` -/
def content {Body : Type} (getObject : String → String → Option (StoredObject Body)) (id : Uuid)
    (variant : Option String) : Except AppError (Response Body) :=
  match (db.media.find id).filter fun row => row.deletedAt.isNone with
  | none => .error (notFound "Media")
  | some row =>
    if row.ownerId ≠ some viewer ∧ (allowed db viewer id).take 1 = [] then .error (notFound "Media")
    else
      match getObject row.bucket (row.key variant) with
      | none => .error (notFound "Media")
      | some object => .ok ⟨object.contentType, "private, max-age=31536000, immutable", object.body⟩

end Route

/-! ## What the query asks -/

section Query
variable {db : Database} {viewer id : Uuid} {clock : Time} {m : Message} {c : Conversation}

lemma own_eq : own db viewer c =
    [(db.tables.memberRow c.id viewer).filter fun own => own.leftAt.isNone] :=
  KeyedTable.leftJoin_key_filter ..

lemma parent_eq : parent db viewer c =
    [c.parentId.bind fun parentId =>
      (db.tables.memberRow parentId viewer).filter fun parent => parent.leftAt.isNone] := by
  unfold parent
  cases c.parentId with
  | none => exact leftJoin_of_filter_nil (by simp)
  | some parentId => exact KeyedTable.leftJoin_key_filter ..

/-- A row of the viewer that has not been left, of the conversation or of its space, and a message that is
not below the floor of the viewer's own row. -/
def Reaches (db : Database) (viewer : Uuid) (m : Message) : Prop :=
  (∃ c, db.tables.conversations.find m.conversationId = some c ∧
    ∃ row, (db.tables.memberRow c.id viewer = some row ∨
      ∃ parentId, c.parentId = some parentId ∧ db.tables.memberRow parentId viewer = some row) ∧
      row.leftAt = none) ∧ db.sqlFloor m.conversationId viewer ≤ m.seq

lemma mem_allowed : m ∈ allowed db viewer id ↔
    m ∈ db.messages.rows ∧ Carries id m = true ∧ Reaches db viewer m := by
  unfold allowed Reaches
  simp only [List.mem_filter, List.any_eq_true, own_eq, parent_eq, List.mem_singleton, exists_eq_left,
    Bool.and_eq_true, Bool.or_eq_true, decide_eq_true_eq, and_assoc]
  refine and_congr_right fun _ => and_congr_right fun _ => ?_
  constructor
  · rintro ⟨c, hc, hid, hrow, hfloor⟩
    refine ⟨⟨c, KeyedTable.find_eq_some.mpr ⟨hc, hid⟩, ?_⟩, hid ▸ hfloor⟩
    rcases hrow with hrow | hrow
    · obtain ⟨row, hrow⟩ := Option.isSome_iff_exists.mp hrow
      obtain ⟨hrow, hleft⟩ := Option.filter_eq_some_iff.mp hrow
      exact ⟨row, Or.inl hrow, by simpa using hleft⟩
    · obtain ⟨row, hrow⟩ := Option.isSome_iff_exists.mp hrow
      obtain ⟨parentId, hparent, hrow⟩ := Option.bind_eq_some_iff.mp hrow
      obtain ⟨hrow, hleft⟩ := Option.filter_eq_some_iff.mp hrow
      exact ⟨row, Or.inr ⟨parentId, hparent, hrow⟩, by simpa using hleft⟩
  · rintro ⟨⟨c, hfind, row, hrow, hleft⟩, hfloor⟩
    obtain ⟨hc, hid⟩ := KeyedTable.find_eq_some.mp hfind
    refine ⟨c, hc, hid, ?_, hid.symm ▸ hfloor⟩
    rcases hrow with hrow | ⟨parentId, hparent, hrow⟩
    · exact Or.inl (by simp [hrow, hleft])
    · exact Or.inr (by simp [hparent, hrow, hleft])

/-- What the query does not ask of a message: that it and its conversation are there, that its time has not
run out, that it is above the floor and not deleted for the viewer, and that the viewer belongs to the
conversation's scope with the permissions to view and to read. -/
structure Clear (db : Database) (viewer : Uuid) (clock : Time) (m : Message) : Prop where
  permitted : ∃ ctx, db.tables.requirePermission m.conversationId viewer Permissions.Permission.readHistory
    clock = .ok ctx ∧ Permissions.has ctx.permissions Permissions.Permission.viewConversation = true
  undeleted : m.deletedAt = none
  lasting : (m.expiresAt.all fun t => clock < t) = true
  above : m.seq ≠ db.sqlFloor m.conversationId viewer
  shown : db.notDeletedForViewer viewer m = true

lemma canReadMessage_iff_clear (hm : m ∈ db.messages.rows) :
    db.canReadMessage clock m.id viewer = true ↔ Reaches db viewer m ∧ Clear db viewer clock m := by
  rw [Reads.Database.canReadMessage_iff_context (KeyedTable.find_eq_some.mpr ⟨hm, rfl⟩)]
  constructor
  · rintro ⟨ctx, hctx, hview, hdel, hexp, hfloor, hshown⟩
    obtain ⟨c, authority, hfind, -, hauth, hleft, -⟩ :=
      Permissions.Database.loadMemberContext_eq_some.mp
        (Permissions.Database.requirePermission_eq_ok.mp hctx).1
    refine ⟨⟨⟨c, hfind, authority, ?_, hleft⟩, hfloor.le⟩, ⟨ctx, hctx, hview⟩, hdel, hexp, hfloor.ne', hshown⟩
    -- the row that gives the authority is one of the two that the query joins
    unfold Permissions.Database.authority at hauth
    cases hparent : c.parentId with
    | none => exact Or.inl (by simpa [hparent] using hauth)
    | some parentId => exact Or.inr ⟨parentId, rfl, by simpa [hparent] using hauth⟩
  · rintro ⟨⟨-, hfloor⟩, ⟨ctx, hctx, hview⟩, hdel, hexp, habove, hshown⟩
    exact ⟨ctx, hctx, hview, hdel, hexp, lt_of_le_of_ne hfloor habove.symm, hshown⟩

/-- Where the route stands with `can_read_message`: of the messages that carry the media and reach the
viewer one is clear, if there are any, and none is when the media is deleted. -/
def Consistent (db : Database) (viewer : Uuid) (clock : Time) (row : Media) : Prop :=
  if row.deletedAt.isNone then
    (∃ m ∈ db.messages.rows, Carries row.id m = true ∧ Reaches db viewer m) →
      ∃ m ∈ db.messages.rows, Carries row.id m = true ∧ Reaches db viewer m ∧ Clear db viewer clock m
  else ∀ m ∈ db.messages.rows, Carries row.id m = true → Reaches db viewer m → ¬ Clear db viewer clock m

lemma content_iff {Body : Type} {getObject : String → String → Option (StoredObject Body)} {row : Media}
    {variant : Option String} (hrow : db.media.find id = some row) (hother : row.ownerId ≠ some viewer)
    (hstored : (getObject row.bucket (row.key variant)).isSome) :
    (∃ r, content db viewer getObject id variant = .ok r) ↔
      row.deletedAt = none ∧ ∃ m ∈ db.messages.rows, Carries id m = true ∧ Reaches db viewer m := by
  have hnil : (allowed db viewer id).take 1 = [] ↔
      ¬ ∃ m ∈ db.messages.rows, Carries id m = true ∧ Reaches db viewer m := by
    rw [List.take_eq_nil_iff, List.eq_nil_iff_forall_not_mem]
    simp only [mem_allowed]
    simp
  obtain ⟨object, hobject⟩ := Option.isSome_iff_exists.mp hstored
  unfold content
  rw [hrow, Option.filter_some]
  by_cases hdeleted : row.deletedAt = none
  · simp only [hdeleted, Option.isNone_none, if_true, true_and]
    by_cases hreaches : ∃ m ∈ db.messages.rows, Carries id m = true ∧ Reaches db viewer m
    · have hpass : ¬ (row.ownerId ≠ some viewer ∧ (allowed db viewer id).take 1 = []) :=
        fun h => hnil.mp h.2 hreaches
      rw [if_neg hpass, hobject]
      exact iff_of_true ⟨_, rfl⟩ hreaches
    · rw [if_pos ⟨hother, hnil.mpr hreaches⟩]
      exact iff_of_false nofun hreaches
  · have hfalse : row.deletedAt.isNone = false :=
      Bool.eq_false_iff.mpr fun h => hdeleted (Option.isNone_iff_eq_none.mp h)
    simp only [hfalse]
    exact iff_of_false nofun fun h => hdeleted h.1

end Query

/-- The bytes of a media that somebody else uploaded follow the messages that carry it exactly where the two
are consistent. -/
theorem content_visible_iff {Body : Type} {db : Database}
    {getObject : String → String → Option (StoredObject Body)} {id viewer : Uuid} {row : Media}
    {variant : Option String} (clock : Time)
    (hrow : db.media.find id = some row) (hother : row.ownerId ≠ some viewer)
    (hstored : (getObject row.bucket (row.key variant)).isSome) :
    ((∃ r, content db viewer getObject id variant = .ok r) ↔
      ∃ m ∈ db.messages.rows, Carries id m = true ∧ db.canReadMessage clock m.id viewer = true) ↔
      Consistent db viewer clock row := by
  have hid : row.id = id := KeyedTable.find_key hrow
  have hread : (∃ m ∈ db.messages.rows, Carries id m = true ∧ db.canReadMessage clock m.id viewer = true) ↔
      ∃ m ∈ db.messages.rows, Carries id m = true ∧ Reaches db viewer m ∧ Clear db viewer clock m :=
    exists_congr fun m => and_congr_right fun hm => and_congr_right fun _ => canReadMessage_iff_clear hm
  rw [content_iff hrow hother hstored, hread]
  unfold Consistent
  rw [hid]
  by_cases hdeleted : row.deletedAt = none
  · rw [if_pos (Option.isNone_iff_eq_none.mpr hdeleted)]
    constructor
    · exact fun h hreaches => h.mp ⟨hdeleted, hreaches⟩
    · refine fun h => ⟨fun hserved => h hserved.2, ?_⟩
      rintro ⟨m, hm, hcarries, hreaches, -⟩
      exact ⟨hdeleted, m, hm, hcarries, hreaches⟩
  · rw [if_neg fun h => hdeleted (Option.isNone_iff_eq_none.mp h)]
    constructor
    · exact fun h m hm hcarries hreaches hclear =>
        hdeleted (h.mpr ⟨m, hm, hcarries, hreaches, hclear⟩).1
    · intro h
      refine iff_of_false (fun hserved => hdeleted hserved.1) ?_
      rintro ⟨m, hm, hcarries, hreaches, hclear⟩
      exact h m hm hcarries hreaches hclear

namespace Sample

def picture : Message :=
  { Reads.Sample.message 100 1 .image with
    conversationId := 2
    attachments := [⟨5, "image/png", false, none⟩] }

def row : Media := ⟨5, some 10, "media", "abc", none, none⟩

def space (base : Option Permissions.Mask) : Database where
  tables := { Permissions.Sample.database with
    conversations := ⟨[Permissions.Sample.conversation 1 .space none,
      { Permissions.Sample.conversation 2 .channel (some 1) with basePermissions := base }], by simp
        [Permissions.Sample.conversation]⟩
    one_level := by
      unfold Permissions.OneLevel
      simp [Permissions.Sample.conversation, KeyedTable.find] }
  messages := ⟨[picture], by decide⟩
  messageDeletions := []
  pinnedMessages := .empty
  messageMentions := .empty
  savedMessages := .empty
  reminders := .empty
  notifications := .empty
  seq_unique := by decide
  mention_placed := by decide
  media := ⟨[row], by decide⟩

def getObject (bucket key : String) : Option (StoredObject ℕ) :=
  if bucket = "media" ∧ key = "abc" then some ⟨"image/png", 1⟩ else none

end Sample

open Sample

/-- A channel that nobody may view serves its pictures to the members of its space. -/
theorem hidden_channel_served :
    ¬ ∀ (db : Database) (getObject : String → String → Option (StoredObject ℕ)) (id viewer : Uuid)
      (row : Media) (variant : Option String) (clock : Time), db.media.find id = some row →
      row.ownerId ≠ some viewer → (getObject row.bucket (row.key variant)).isSome →
      ((∃ r, content db viewer getObject id variant = .ok r) ↔
        ∃ m ∈ db.messages.rows, Carries id m = true ∧ db.canReadMessage clock m.id viewer = true) := by
  intro h
  have hserved : ∃ r, content (space (some 0)) 12 Sample.getObject 5 none = .ok r := ⟨_, rfl⟩
  obtain ⟨m, hm, -, hread⟩ :=
    (h (space (some 0)) Sample.getObject 5 12 row none 0 rfl (by decide) rfl).mp hserved
  obtain rfl := List.mem_singleton.mp hm
  have hunread : (space (some 0)).canReadMessage 0 picture.id 12 = false := by decide
  rw [hunread] at hread
  cases hread

/-- A channel with the permissions of every other. -/
theorem content_visible_iff_shown :
    (∃ r, content (space none) 12 Sample.getObject 5 none = .ok r) ↔
      ∃ m ∈ (space none).messages.rows, Carries 5 m = true ∧
        (space none).canReadMessage 0 m.id 12 = true := by
  refine (@content_visible_iff _ (space none) Sample.getObject 5 12 row none 0 rfl (by decide) rfl).mpr ?_
  have hpicture : picture ∈ (space none).messages.rows := List.mem_singleton_self _
  have hread : (space none).canReadMessage 0 picture.id 12 = true := by decide
  intro _
  exact ⟨picture, hpicture, rfl, (canReadMessage_iff_clear hpicture).mp hread⟩

end Yappy.MediaContent
