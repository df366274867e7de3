import Yappy.MediaTables

/-!
# Media in use

What `releaseUnusedMedia` and `sweepOrphanUploads` of `apps/worker/src/jobs/maintenance.ts` take away. Neither
looks at the accounts, conversations and emoji that refer to a row, so what they spare is kept by what a row
is for and by its count.
-/
namespace Yappy.MediaReferences

open Forwarding (MediaStatus)
open Permissions (AppError Time Uuid)

/-! ## What is in use, and what is kept -/

inductive InUse (db : Tables) (id : Uuid) : Prop
  | attached {m : Message} {a : Attachment} (hm : m ∈ db.messages.rows) (hdeleted : m.deletedAt = none)
      (ha : a ∈ db.attachments) (hmessage : a.messageId = m.id) (hmedia : a.mediaId = id) : InUse db id
  | scheduled {row : ScheduledMessage} (h : row ∈ db.scheduled.rows) (hpending : row.Pending)
      (hmedia : id ∈ row.payload.attachmentIds) : InUse db id
  | avatar {u : User} (h : u ∈ db.users.rows) (hmedia : u.avatarMediaId = some id) : InUse db id
  | banner {u : User} (h : u ∈ db.users.rows) (hmedia : u.bannerMediaId = some id) : InUse db id
  | conversation {c : Conversation} (h : c ∈ db.conversations.rows) (hmedia : c.avatarMediaId = some id) :
      InUse db id
  | sticker {s : Sticker} (h : s ∈ db.stickers.rows) (hmedia : s.mediaId = id) : InUse db id
  | emoji {e : Emoji} (h : e ∈ db.emojis.rows) (hmedia : e.mediaId = id) : InUse db id

/-- The row is still there, and is not deleted by the step that leads from one to the other. -/
def Kept (db db' : Tables) (id : Uuid) : Prop :=
  ∀ m ∈ db.media.rows, m.id = id → ∃ m' ∈ db'.media.rows, m'.id = id ∧ m'.deletedAt = m.deletedAt

def Event.IsSweep : Event → Prop
  | .releaseUnusedMedia | .sweepOrphanUploads => True
  | _ => False

/-- Not for an attachment, or attached already. -/
def Media.Settled (m : Media) : Prop := m.purpose = .attachment → m.deletedAt.isSome ∨ 0 < m.refCount

def Confirmed (db : Tables) (id : Uuid) : Prop :=
  ∀ m ∈ db.media.rows, m.id = id → m.confirmedAt.isSome

def Stuck (db : Tables) (id : Uuid) : Prop := ∃ s ∈ db.stickers.rows, s.mediaId = id

/-- Settled as an upload for an attachment that no message has yet is not. -/
def Settled (db : Tables) (id : Uuid) : Prop := ∀ m ∈ db.media.rows, m.id = id → m.Settled

/-- Neither job takes it, at any time. -/
structure Protected (db : Tables) (id : Uuid) : Prop where
  settled : Settled db id
  claimed : Confirmed db id ∨ Stuck db id

/-- A new reference is to an upload that has been confirmed, and that is meant for something else than an
attachment or is attached already. A sticker can be made of an upload that has yet to be confirmed. -/
def Meant (s : System) : Time × Event → Prop
  | (_, .updateProfile _ avatar banner) =>
    ∀ id, avatar = some (some id) ∨ banner = some (some id) → Protected s.db id
  | (_, .completeProfile _ avatar) => ∀ id, avatar = some id → Protected s.db id
  | (_, .createConversation _ avatar) => ∀ id, avatar = some id → Protected s.db id
  | (_, .updateConversation _ avatar) => ∀ id, avatar = some (some id) → Protected s.db id
  | (_, .perform (.insertSticker _ _ mediaId)) => Settled s.db mediaId
  | (_, .perform (.insertEmoji _ _ mediaId)) => Settled s.db mediaId
  | _ => True

/-! ## What a step leaves of a row -/

structure Media.Later (m m' : Media) : Prop where
  id : m'.id = m.id
  purpose : m'.purpose = m.purpose
  confirmed : m.confirmedAt.isSome → m'.confirmedAt.isSome
  refCount : m.refCount ≤ m'.refCount
  deleted : m.deletedAt.isSome → m'.deletedAt.isSome

variable {db db' : Tables} {s s' : System} {now : Time} {id : Uuid} {m m' : Media} {w : Write}

lemma Media.Later.refl (m : Media) : m.Later m := ⟨rfl, rfl, fun h => h, le_rfl, fun h => h⟩

lemma Media.Later.trans {m'' : Media} (h : m.Later m') (h' : m'.Later m'') : m.Later m'' :=
  ⟨h'.id.trans h.id, h'.purpose.trans h.purpose, fun hm => h'.confirmed (h.confirmed hm),
    h.refCount.trans h'.refCount, fun hm => h'.deleted (h.deleted hm)⟩

lemma Media.Settled.later (hs : m.Settled) (h : m.Later m') : m'.Settled := by
  intro hp
  rcases hs (h.purpose ▸ hp) with hd | hr
  · exact Or.inl (h.deleted hd)
  · exact Or.inr (hr.trans_le h.refCount)

/-- What a step leaves of the row `id` and of the stickers made of it. -/
structure Advances (db db' : Tables) (id : Uuid) : Prop where
  media : ∀ m' ∈ db'.media.rows, m'.id = id → ∃ m ∈ db.media.rows, m.Later m'
  stickers : Stuck db id → Stuck db' id

lemma Settled.advances (h : Settled db id) (ha : Advances db db' id) : Settled db' id := by
  intro m' hm' hid
  obtain ⟨m, hm, hl⟩ := ha.media m' hm' hid
  exact (h m hm (hl.id.symm.trans hid)).later hl

lemma Confirmed.advances (h : Confirmed db id) (ha : Advances db db' id) : Confirmed db' id := by
  intro m' hm' hid
  obtain ⟨m, hm, hl⟩ := ha.media m' hm' hid
  exact hl.confirmed (h m hm (hl.id.symm.trans hid))

lemma Protected.advances (h : Protected db id) (ha : Advances db db' id) : Protected db' id where
  settled := h.settled.advances ha
  claimed := h.claimed.imp (fun hc => hc.advances ha) ha.stickers

/-! ## The invariant -/

def Media.Sound (m : Media) : Prop := m.status = .ready ∨ m.status = .processing → m.confirmedAt.isSome

def Write.Sound (db : Tables) : Write → Prop
  | .insertMedia row use =>
    row.refCount = 0 ∧ row.Sound ∧ (use.isSome → row.confirmedAt.isSome ∧ row.purpose ≠ .attachment)
  | .ready id => Confirmed db id
  | .insertEmoji _ _ mediaId => Confirmed db mediaId
  | .setPicture _ _ mediaId => Protected db mediaId
  | .insertMessage _ attachmentIds => ∀ id ∈ attachmentIds, Confirmed db id
  | _ => True

structure Sound (s : System) : Prop where
  counts : refCount.Counts s.db.media (s.db.attachments.map Attachment.mediaId)
  rows : ∀ m ∈ s.db.media.rows, m.Sound
  attached : ∀ a ∈ s.db.attachments, Confirmed s.db a.mediaId
  queued : ∀ id ∈ s.jobs, Confirmed s.db id
  underway : ∀ w ∈ s.underway, w.Sound s.db
  named : ∀ id ∈ s.db.named, Protected s.db id
  scheduled : ∀ row ∈ s.db.scheduled.rows, row.payload.attachmentIds = []

lemma sound_empty : Sound .empty where
  counts := List.forall_mem_nil _
  rows := List.forall_mem_nil _
  attached := List.forall_mem_nil _
  queued := List.forall_mem_nil _
  underway := List.forall_mem_nil _
  named := List.forall_mem_nil _
  scheduled := List.forall_mem_nil _

/-- A step that keeps the invariant: what it leaves goes on, and what it adds relies on nothing that is
missing. -/
structure Change (s s' : System) : Prop where
  advances : ∀ id ∈ s.names, Advances s.db s'.db id
  counts : refCount.Counts s'.db.media (s'.db.attachments.map Attachment.mediaId)
  rows : ∀ m ∈ s'.db.media.rows, m.Sound
  attached : ∀ a ∈ s'.db.attachments, a ∈ s.db.attachments ∨ Confirmed s'.db a.mediaId
  queued : ∀ id ∈ s'.jobs, id ∈ s.jobs ∨ Confirmed s'.db id
  underway : ∀ w ∈ s'.underway, w ∈ s.underway ∨ w.Sound s'.db
  named : ∀ id ∈ s'.db.named, id ∈ s.db.named ∨ Protected s'.db id
  scheduled : ∀ row ∈ s'.db.scheduled.rows, row.payload.attachmentIds = []

lemma mem_names_of_named (h : id ∈ s.db.named) : id ∈ s.names := List.mem_append_left _ h

lemma mem_names_of_attached {a : Attachment} (h : a ∈ s.db.attachments) : a.mediaId ∈ s.names :=
  List.mem_append_right _ (List.mem_append_left _ (List.mem_map_of_mem h))

lemma mem_names_of_queued (h : id ∈ s.jobs) : id ∈ s.names :=
  List.mem_append_right _ (List.mem_append_right _ (List.mem_append_left _ h))

lemma mem_names_of_underway (h : w ∈ s.underway) (hid : id ∈ w.names) : id ∈ s.names :=
  List.mem_append_right _ (List.mem_append_right _ (List.mem_append_right _ (List.mem_flatMap.mpr ⟨w, h, hid⟩)))

lemma Write.Sound.advances (h : w.Sound db) (ha : ∀ id ∈ w.names, Advances db db' id) : w.Sound db' := by
  cases w with
  | insertMedia row use => exact h
  | confirmUpload => trivial
  | thumbnail => trivial
  | ready id => exact Confirmed.advances h (ha id (List.mem_singleton_self id))
  | insertSticker => trivial
  | insertEmoji _ _ mediaId => exact Confirmed.advances h (ha mediaId (List.mem_singleton_self mediaId))
  | setPicture _ _ mediaId => exact Protected.advances h (ha mediaId (List.mem_singleton_self mediaId))
  | insertMessage _ attachmentIds => exact fun id hid => (h id hid).advances (ha id hid)

lemma Sound.change (hs : Sound s) (h : Change s s') : Sound s' where
  counts := h.counts
  rows := h.rows
  attached a ha := (h.attached a ha).elim
    (fun ha => (hs.attached a ha).advances (h.advances _ (mem_names_of_attached ha))) fun ha => ha
  queued id hid := (h.queued id hid).elim
    (fun hid => (hs.queued id hid).advances (h.advances _ (mem_names_of_queued hid))) fun hid => hid
  underway w hw := (h.underway w hw).elim
    (fun hw => (hs.underway w hw).advances fun _ hid => h.advances _ (mem_names_of_underway hw hid)) fun hw => hw
  named id hid := (h.named id hid).elim
    (fun hid => (hs.named id hid).advances (h.advances _ (mem_names_of_named hid))) fun hid => hid
  scheduled := h.scheduled

/-! ## Steps that leave media alone -/

lemma Advances.of_media (hmedia : db'.media = db.media) (hstickers : Stuck db id → Stuck db' id) :
    Advances db db' id where
  media m' hm' _ := ⟨m', hmedia ▸ hm', .refl m'⟩
  stickers := hstickers

lemma Sound.on (hs : Sound s) {underway : List Write} {jobs : List Uuid}
    (hw : ∀ w ∈ underway, w ∈ s.underway ∨ w.Sound s.db) (hj : ∀ id ∈ jobs, id ∈ s.jobs ∨ Confirmed s.db id) :
    Sound { s with underway := underway, jobs := jobs } where
  counts := hs.counts
  rows := hs.rows
  attached := hs.attached
  queued id hid := (hj id hid).elim (hs.queued id) fun h => h
  underway w h := (hw w h).elim (hs.underway w) fun h => h
  named := hs.named
  scheduled := hs.scheduled

lemma Sound.asks (hs : Sound s) {writes : List Write} (h : ∀ w ∈ writes, w.Sound s.db) :
    Sound { s with underway := writes ++ s.underway } :=
  hs.on (fun w hw => (List.mem_append.mp hw).symm.imp_right (h w)) fun _ hid => Or.inl hid

lemma Sound.drop (hs : Sound s) : Sound { s with underway := s.underway.erase w } :=
  hs.on (fun _ hw => Or.inl (List.mem_of_mem_erase hw)) fun _ hid => Or.inl hid

lemma Sound.tables (hs : Sound s) (hmedia : db'.media = s.db.media)
    (hattachments : db'.attachments = s.db.attachments) (hstickers : ∀ id, Stuck s.db id → Stuck db' id)
    (hnamed : ∀ id ∈ db'.named, id ∈ s.db.named ∨ Protected db' id)
    (hscheduled : ∀ row ∈ db'.scheduled.rows, row.payload.attachmentIds = []) : Sound { s with db := db' } :=
  hs.change
    { advances := fun _ _ => .of_media hmedia (hstickers _)
      counts := by
        change refCount.Counts db'.media (db'.attachments.map Attachment.mediaId)
        rw [hmedia, hattachments]
        exact hs.counts
      rows := by
        change ∀ m ∈ db'.media.rows, m.Sound
        rw [hmedia]
        exact hs.rows
      attached := fun a ha => Or.inl (hattachments ▸ ha)
      queued := fun _ hid => Or.inl hid
      underway := fun _ hw => Or.inl hw
      named := hnamed
      scheduled := hscheduled }

lemma mem_named : id ∈ db.named ↔
    (∃ u ∈ db.users.rows, u.avatarMediaId = some id ∨ u.bannerMediaId = some id) ∨
      (∃ c ∈ db.conversations.rows, c.avatarMediaId = some id) ∨ Stuck db id ∨
        ∃ e ∈ db.emojis.rows, e.mediaId = id := by
  unfold Tables.named Stuck
  simp only [List.mem_append, List.mem_flatMap, List.mem_map, Option.mem_toList]

lemma named_avatar {u : User} (h : u ∈ db.users.rows) (hu : u.avatarMediaId = some id ∨ u.bannerMediaId = some id) :
    id ∈ db.named := mem_named.mpr (Or.inl ⟨u, h, hu⟩)

lemma named_conversation {c : Conversation} (h : c ∈ db.conversations.rows) (hc : c.avatarMediaId = some id) :
    id ∈ db.named := mem_named.mpr (Or.inr (Or.inl ⟨c, h, hc⟩))

lemma named_stuck (h : Stuck db id) : id ∈ db.named := mem_named.mpr (Or.inr (Or.inr (Or.inl h)))

lemma named_emoji {e : Emoji} (h : e ∈ db.emojis.rows) (he : e.mediaId = id) : id ∈ db.named :=
  mem_named.mpr (Or.inr (Or.inr (Or.inr ⟨e, h, he⟩)))

lemma Sound.users (hs : Sound s) {users : KeyedTable User.id}
    (h : ∀ u ∈ users.rows, ∀ id, u.avatarMediaId = some id ∨ u.bannerMediaId = some id →
      id ∈ s.db.named ∨ Protected s.db id) : Sound { s with db := { s.db with users := users } } := by
  refine hs.tables rfl rfl (fun _ h => h) (fun id hid => ?_) hs.scheduled
  rcases mem_named.mp hid with ⟨u, hu, hid⟩ | ⟨c, hc, hid⟩ | hid | ⟨e, he, hid⟩
  · exact (h u hu id hid).imp_right fun hp => hp.advances (.of_media rfl fun h => h)
  · exact Or.inl (named_conversation hc hid)
  · exact Or.inl (named_stuck hid)
  · exact Or.inl (named_emoji he hid)

lemma Sound.conversations (hs : Sound s) {conversations : KeyedTable Conversation.id}
    (h : ∀ c ∈ conversations.rows, ∀ id, c.avatarMediaId = some id → id ∈ s.db.named ∨ Protected s.db id) :
    Sound { s with db := { s.db with conversations := conversations } } := by
  refine hs.tables rfl rfl (fun _ h => h) (fun id hid => ?_) hs.scheduled
  rcases mem_named.mp hid with ⟨u, hu, hid⟩ | ⟨c, hc, hid⟩ | hid | ⟨e, he, hid⟩
  · exact Or.inl (named_avatar hu hid)
  · exact (h c hc id hid).imp_right fun hp => hp.advances (.of_media rfl fun h => h)
  · exact Or.inl (named_stuck hid)
  · exact Or.inl (named_emoji he hid)

lemma Sound.emojis (hs : Sound s) {emojis : KeyedTable Emoji.id}
    (h : ∀ e ∈ emojis.rows, e.mediaId ∈ s.db.named ∨ Protected s.db e.mediaId) :
    Sound { s with db := { s.db with emojis := emojis } } := by
  refine hs.tables rfl rfl (fun _ h => h) (fun id hid => ?_) hs.scheduled
  rcases mem_named.mp hid with ⟨u, hu, hid⟩ | ⟨c, hc, hid⟩ | hid | ⟨e, he, rfl⟩
  · exact Or.inl (named_avatar hu hid)
  · exact Or.inl (named_conversation hc hid)
  · exact Or.inl (named_stuck hid)
  · exact (h e he).imp_right fun hp => hp.advances (.of_media rfl fun h => h)

lemma Sound.stickers (hs : Sound s) {stickers : KeyedTable Sticker.id}
    (hstays : ∀ x ∈ s.db.stickers.rows, ∃ x' ∈ stickers.rows, x'.mediaId = x.mediaId)
    (h : ∀ x ∈ stickers.rows, x.mediaId ∈ s.db.named ∨ Settled s.db x.mediaId) :
    Sound { s with db := { s.db with stickers := stickers } } := by
  have hstuck : ∀ id, Stuck s.db id → Stuck { s.db with stickers := stickers } id := by
    rintro id ⟨x, hx, rfl⟩
    exact hstays x hx
  refine hs.tables rfl rfl hstuck (fun id hid => ?_) hs.scheduled
  rcases mem_named.mp hid with ⟨u, hu, hid⟩ | ⟨c, hc, hid⟩ | ⟨x, hx, rfl⟩ | ⟨e, he, hid⟩
  · exact Or.inl (named_avatar hu hid)
  · exact Or.inl (named_conversation hc hid)
  · exact (h x hx).imp_right fun hp => ⟨hp, Or.inr ⟨x, hx, rfl⟩⟩
  · exact Or.inl (named_emoji he hid)

lemma Sound.setPictures (hs : Sound s) {userId : Uuid} {avatar banner : Option (Option Uuid)}
    (h : ∀ id, avatar = some (some id) ∨ banner = some (some id) → Protected s.db id) :
    Sound { s with db := setPictures s.db userId avatar banner } := by
  refine hs.users fun u' hu' id hid => ?_
  obtain ⟨u, hu, rfl | rfl⟩ := KeyedTable.mem_update hu'
  · exact Or.inl (named_avatar hu hid)
  rcases hid with hid | hid
  · cases avatar with
    | none => exact Or.inl (named_avatar hu (Or.inl hid))
    | some value => exact Or.inr (h id (Or.inl (congrArg some hid)))
  · cases banner with
    | none => exact Or.inl (named_avatar hu (Or.inr hid))
    | some value => exact Or.inr (h id (Or.inr (congrArg some hid)))

lemma Sound.deleteAccount (hs : Sound s) {userId : Uuid} :
    Sound { s with db := deleteAccount s.db now userId } := by
  have hnone : Sound { s with db := MediaReferences.setPictures s.db userId (some none) (some none) } :=
    hs.setPictures (by simp)
  refine hnone.users fun u' hu' id hid => ?_
  obtain ⟨u, hu, rfl | rfl⟩ := KeyedTable.mem_update hu'
  · exact Or.inl (named_avatar hu hid)
  · exact Or.inl (named_avatar hu hid)

lemma Sound.setConversationAvatar (hs : Sound s) {conversationId : Uuid} {avatar : Option (Option Uuid)}
    (h : ∀ id, avatar = some (some id) → Protected s.db id) :
    Sound { s with db := setConversationAvatar s.db conversationId avatar } := by
  refine hs.conversations fun c' hc' id hid => ?_
  obtain ⟨c, hc, rfl | rfl⟩ := KeyedTable.mem_update hc'
  · exact Or.inl (named_conversation hc hid)
  · cases avatar with
    | none => exact Or.inl (named_conversation hc hid)
    | some value => exact Or.inr (h id (congrArg some hid))

lemma Sound.insertSticker (hs : Sound s) {x : Sticker} (h : Settled s.db x.mediaId) :
    Sound { s with db := { s.db with stickers := s.db.stickers.insertIgnore x } } := by
  refine hs.stickers (fun y hy => ⟨y, ?_, rfl⟩) fun y hy => ?_
  · unfold KeyedTable.insertIgnore
    split_ifs
    · exact hy
    · exact List.mem_cons_of_mem _ hy
  · rcases KeyedTable.mem_insertIgnore hy with rfl | hy
    · exact Or.inr h
    · exact Or.inl (named_stuck ⟨y, hy, rfl⟩)

lemma Sound.removeSticker (hs : Sound s) {packId stickerId : Uuid} :
    Sound { s with db := removeSticker s.db now packId stickerId } := by
  refine hs.stickers (fun y hy => ⟨_, List.mem_map_of_mem hy, ?_⟩) fun y' hy' => ?_
  · split_ifs <;> rfl
  · obtain ⟨y, hy, rfl | rfl⟩ := KeyedTable.mem_update hy'
    · exact Or.inl (named_stuck ⟨y', hy, rfl⟩)
    · exact Or.inl (named_stuck ⟨y, hy, rfl⟩)

lemma Sound.insertEmoji (hs : Sound s) {e : Emoji} (h : Protected s.db e.mediaId) :
    Sound { s with db := { s.db with emojis := s.db.emojis.insertIgnore e } } := by
  refine hs.emojis fun y hy => ?_
  rcases KeyedTable.mem_insertIgnore hy with rfl | hy
  · exact Or.inr h
  · exact Or.inl (named_emoji hy rfl)

lemma Sound.removeEmoji (hs : Sound s) {conversationId emojiId : Uuid} :
    Sound { s with db := removeEmoji s.db now conversationId emojiId } := by
  refine hs.emojis fun y' hy' => ?_
  obtain ⟨y, hy, rfl | rfl⟩ := KeyedTable.mem_update hy'
  · exact Or.inl (named_emoji hy rfl)
  · exact Or.inl (named_emoji hy rfl)

lemma Sound.setScheduled (hs : Sound s) {scheduled : KeyedTable ScheduledMessage.id}
    (h : ∀ row ∈ scheduled.rows, row.payload.attachmentIds = []) :
    Sound { s with db := { s.db with scheduled := scheduled } } :=
  hs.tables rfl rfl (fun _ h => h) (fun _ hid => Or.inl hid) h

lemma Sound.updateScheduled (hs : Sound s) {p : ScheduledMessage → Bool} {f : ScheduledMessage → ScheduledMessage}
    {hf : ∀ r, (f r).id = r.id} (h : ∀ r, (f r).payload = r.payload) :
    Sound { s with db := { s.db with scheduled := s.db.scheduled.update p f hf } } := by
  refine hs.setScheduled fun row' hrow' => ?_
  obtain ⟨row, hrow, rfl | rfl⟩ := KeyedTable.mem_update hrow'
  · exact hs.scheduled row' hrow
  · rw [h]
    exact hs.scheduled row hrow

/-! ## Steps that write media -/

lemma Sound.setMedia (hs : Sound s) {p : Media → Bool} {f : Media → Media} {hf : ∀ m, (f m).id = m.id}
    (hlater : ∀ m : Media, m.Later (f m)) (hcount : ∀ m, (f m).refCount = m.refCount)
    (hsound : ∀ m ∈ s.db.media.rows, p m → m.Sound → (f m).Sound) :
    Sound { s with db := setMedia s.db p f hf } := by
  have hrows : ∀ m' ∈ (s.db.media.update p f hf).rows, ∃ m ∈ s.db.media.rows, m' = m ∨ m' = f m :=
    fun _ hm' => KeyedTable.mem_update hm'
  have hadvances : ∀ id, Advances s.db (MediaReferences.setMedia s.db p f hf) id := by
    refine fun id => ⟨fun m' hm' _ => ?_, fun h => h⟩
    obtain ⟨m, hm, rfl | rfl⟩ := hrows m' hm'
    · exact ⟨m', hm, .refl m'⟩
    · exact ⟨m, hm, hlater m⟩
  refine hs.change
    { advances := fun id _ => hadvances id
      counts := ?_
      rows := ?_
      attached := fun _ ha => Or.inl ha
      queued := fun _ hid => Or.inl hid
      underway := fun _ hw => Or.inl hw
      named := fun _ hid => Or.inl hid
      scheduled := hs.scheduled }
  · intro m' hm'
    obtain ⟨m, hm, rfl | rfl⟩ := hrows m' hm'
    · exact hs.counts m' hm
    · change (f m).refCount = List.count (f m).id _
      rw [hcount, hf]
      exact hs.counts m hm
  · intro m' hm'
    obtain ⟨m, hm, rfl⟩ := List.mem_map.mp hm'
    split_ifs with hp
    · exact hsound m hm hp (hs.rows m hm)
    · exact hs.rows m hm

lemma Sound.deleteMedia (hs : Sound s) {p : Media → Bool} :
    Sound { s with
      db := MediaReferences.setMedia s.db p (fun m => { m with deletedAt := some now }) fun _ => rfl } :=
  hs.setMedia (fun _ => ⟨rfl, rfl, fun h => h, le_rfl, fun _ => rfl⟩) (fun _ => rfl) fun _ _ _ h => h

lemma Sound.quarantineMedia (hs : Sound s) :
    Sound { s with db := quarantineMedia s.db now id } := by
  have h : Sound { s with
      db := MediaReferences.setMedia s.db (fun m => m.id = id)
        (fun m => { m with status := .quarantined }) fun _ => rfl } :=
    hs.setMedia (fun _ => ⟨rfl, rfl, fun h => h, le_rfl, fun h => h⟩) (fun _ => rfl)
      fun _ _ _ _ hworking => hworking.elim (fun h => nomatch h) (fun h => nomatch h)
  exact h.tables rfl rfl (fun _ h => h) (fun _ hid => Or.inl hid) h.scheduled

lemma Sound.insertMedia (hs : Sound s) {row : Media} {use : Option Use} (hnew : row.id ∉ s.names)
    (hw : (Write.insertMedia row use).Sound s.db)
    (hsome : perform s now (.insertMedia row use) = some s') : Sound s' := by
  obtain ⟨hcount, hrow, huse⟩ := hw
  simp only [perform] at hsome
  split_ifs at hsome with hfind
  obtain rfl := Option.some.inj hsome
  have hrows := KeyedTable.insertIgnore_rows (r := { row with createdAt := now })
    (Option.isNone_iff_eq_none.mp hfind)
  refine hs.change
    { advances := fun id hid => ⟨fun m hm hid' => ?_, fun h => h⟩
      counts := ?_
      rows := ?_
      attached := fun _ ha => Or.inl ha
      queued := fun _ hid => Or.inl hid
      underway := fun w hw => ?_
      named := fun _ hid => Or.inl hid
      scheduled := hs.scheduled }
  · rcases KeyedTable.mem_insertIgnore hm with rfl | hm
    · exact absurd (hid' ▸ hid) hnew
    · exact ⟨m, hm, .refl m⟩
  · intro m hm
    rcases KeyedTable.mem_insertIgnore hm with rfl | hm
    · have hnone : row.id ∉ s.db.attachments.map Attachment.mediaId := fun h =>
        hnew (List.mem_append_right _ (List.mem_append_left _ h))
      exact hcount.trans (List.count_eq_zero.mpr hnone).symm
    · exact hs.counts m hm
  · intro m hm
    rcases KeyedTable.mem_insertIgnore hm with rfl | hm
    · exact hrow
    · exact hs.rows m hm
  · refine (List.mem_append.mp hw).symm.imp_right fun hw => ?_
    obtain ⟨u, hu, rfl⟩ := Option.map_eq_some_iff.mp (Option.mem_toList.mp hw)
    obtain ⟨hconfirmed, hpurpose⟩ := huse (Option.isSome_iff_exists.mpr ⟨u, hu⟩)
    cases u with
    | sticker stickerId packId => trivial
    | picture userId column =>
      have hown : ∀ m ∈ (s.db.media.insertIgnore { row with createdAt := now }).rows, m.id = row.id →
          m = { row with createdAt := now } := by
        intro m hm hid
        rcases KeyedTable.mem_insertIgnore hm with rfl | hm
        · rfl
        · exact absurd hid (KeyedTable.find_eq_none.mp (Option.isNone_iff_eq_none.mp hfind) m hm)
      constructor
      · intro m hm hid hp
        rw [hown m hm hid] at hp
        exact absurd hp hpurpose
      · refine Or.inl fun m hm hid => ?_
        rw [hown m hm hid]
        exact hconfirmed

lemma Sound.insertMessage (hs : Sound s) {messageId : Uuid} {attachmentIds : List Uuid}
    (hw : ∀ id ∈ attachmentIds, Confirmed s.db id)
    (hsome : insertMessage s.db messageId attachmentIds = some db') : Sound { s with db := db' } := by
  unfold MediaReferences.insertMessage at hsome
  split_ifs at hsome with hok
  obtain rfl := Option.some.inj hsome
  have hlater : ∀ m' ∈ (refCount.insertedAll s.db.media attachmentIds).rows,
      ∃ m ∈ s.db.media.rows, m.Later m' ∧ m'.status = m.status := by
    intro m' hm'
    refine Counter.insertedAll_of (p := fun m m' : Media => m.Later m' ∧ m'.status = m.status)
      (fun m => ⟨.refl m, rfl⟩) (fun _ _ _ h h' => ⟨h.1.trans h'.1, h'.2.trans h.2⟩) (fun m => ?_) hm'
    exact ⟨⟨rfl, rfl, fun h => h, Nat.le_succ _, fun h => h⟩, rfl⟩
  have hadvances : ∀ id, Advances s.db
      { s.db with
        messages := s.db.messages.insertIgnore ⟨messageId, none⟩
        attachments := attachmentIds.map (Attachment.mk messageId) ++ s.db.attachments
        media := refCount.insertedAll s.db.media attachmentIds } id := by
    refine fun id => ⟨fun m' hm' _ => ?_, fun h => h⟩
    obtain ⟨m, hm, hl, -⟩ := hlater m' hm'
    exact ⟨m, hm, hl⟩
  refine hs.change
    { advances := fun id _ => hadvances id
      counts := ?_
      rows := ?_
      attached := fun a ha => ?_
      queued := fun _ hid => Or.inl hid
      underway := fun _ hw => Or.inl hw
      named := fun _ hid => Or.inl hid
      scheduled := hs.scheduled }
  · simp only [List.map_append, List.map_map]
    have hids : attachmentIds.map (Attachment.mediaId ∘ Attachment.mk messageId) = attachmentIds := List.map_id _
    rw [hids]
    exact hs.counts.insertedAll
  · intro m' hm' hworking
    obtain ⟨m, hm, hl, hstatus⟩ := hlater m' hm'
    exact hl.confirmed (hs.rows m hm (hstatus ▸ hworking))
  · rcases List.mem_append.mp ha with ha | ha
    · obtain ⟨id, hid, rfl⟩ := List.mem_map.mp ha
      exact Or.inr ((hw id hid).advances (hadvances id))
    · exact Or.inl ha

lemma Sound.sweepOrphanUploads (hs : Sound s) (hsome : sweepOrphanUploads s.db now = some db') :
    Sound { s with db := db' } := by
  unfold MediaReferences.sweepOrphanUploads at hsome
  split_ifs at hsome with hattached
  obtain rfl := Option.some.inj hsome
  have hrows : ∀ m ∈ (s.db.media.delete (orphan s.db now)).rows, m ∈ s.db.media.rows := fun m hm =>
    (List.mem_filter.mp hm).1
  refine hs.change
    { advances := fun id _ => ⟨fun m hm _ => ⟨m, hrows m hm, .refl m⟩, fun h => h⟩
      counts := fun m hm => hs.counts m (hrows m hm)
      rows := fun m hm => hs.rows m (hrows m hm)
      attached := fun _ ha => Or.inl ha
      queued := fun _ hid => Or.inl hid
      underway := fun _ hw => Or.inl hw
      named := fun id hid => Or.inl ?_
      scheduled := hs.scheduled }
  rcases mem_named.mp hid with ⟨u, hu, hid⟩ | ⟨c, hc, hid⟩ | hid | ⟨e, he, hid⟩
  · exact named_avatar hu hid
  · exact named_conversation hc hid
  · exact named_stuck hid
  · exact named_emoji (List.mem_filter.mp he).1 hid

/-! ## What the routes ask for -/

lemma owned_mem {actor : Uuid} (h : owned db actor id = some m) : m ∈ db.media.rows ∧ m.id = id :=
  KeyedTable.find_eq_some.mp (Option.filter_eq_some_iff.mp h).1

lemma confirmed_of_mem (hm : m ∈ db.media.rows) (hconfirmed : m.confirmedAt.isSome) : Confirmed db m.id := by
  intro m' hm' hid
  rwa [List.inj_on_of_nodup_map db.media.nodup hm' hm hid]

lemma resolveAttachments_confirmed {actor : Uuid} {ids : List Uuid}
    (h : resolveAttachments db actor ids = .ok ()) (hid : id ∈ ids) : Confirmed db id := by
  unfold resolveAttachments at h
  dsimp only at h
  split_ifs at h with hnil hmany hlen hunconfirmed hquarantined hfailed
  · rw [hnil] at hid
    cases hid
  -- as many rows as ids, so that every id has one
  set rows := db.media.rows.filter fun m => m.id ∈ ids ∧ m.ownerId = some actor ∧ m.deletedAt.isNone with hrows
  have hsub : rows.map Media.id ⊆ ids := by
    intro k hk
    obtain ⟨m, hm, rfl⟩ := List.mem_map.mp hk
    exact (of_decide_eq_true (List.mem_filter.mp hm).2).1
  have hnodup : (rows.map Media.id).Nodup := db.media.nodup.sublist (List.filter_sublist.map _)
  have hperm := (List.subperm_of_subset hnodup hsub).perm_of_length_le (by
    rw [List.length_map]
    exact (not_not.mp hlen).ge)
  obtain ⟨m, hm, rfl⟩ := List.mem_map.mp (hperm.mem_iff.mpr hid)
  refine confirmed_of_mem (List.mem_filter.mp hm).1 ?_
  by_contra hnone
  exact hunconfirmed (List.any_eq_true.mpr ⟨m, hm, by simpa using hnone⟩)

lemma Asks.sound {writes : List Write} (h : Asks s.db now writes) (hs : Sound s) :
    ∀ w ∈ writes, w.Sound s.db := by
  cases h with
  | createUpload actor body id =>
    refine List.forall_mem_singleton.mpr ?_
    unfold MediaReferences.createUpload
    cases hfound : existing s.db body with
    | some found => exact ⟨rfl, fun _ => rfl, nofun⟩
    | none => exact ⟨rfl, fun h => h.elim nofun nofun, nofun⟩
  | createBugUpload actor mimeType size id =>
    exact List.forall_mem_singleton.mpr ⟨rfl, fun h => h.elim nofun nofun, nofun⟩
  | @confirm actor id head _ h =>
    unfold MediaReferences.confirm at h
    split at h
    · cases h
    split_ifs at h
    · obtain rfl := Except.ok.inj h
      exact List.forall_mem_nil _
    split at h
    · cases h
    · obtain rfl := Except.ok.inj h
      exact List.forall_mem_singleton.mpr trivial
  | @addSticker actor packId mediaId id pack _ h =>
    unfold MediaReferences.addSticker at h
    split at h
    · cases h
    split_ifs at h
    obtain rfl := Except.ok.inj h
    exact List.forall_mem_singleton.mpr trivial
  | @addEmoji actor conversationId mediaId id isDm _ h =>
    unfold MediaReferences.addEmoji at h
    split at h
    · cases h
    · cases h
    split at h
    · cases h
    next upload hupload =>
    split_ifs at h with hstatus
    obtain rfl := Except.ok.inj h
    obtain ⟨hm, rfl⟩ := owned_mem hupload
    refine List.forall_mem_singleton.mpr (confirmed_of_mem hm (hs.rows upload hm ?_))
    by_contra hne
    exact hstatus (not_or.mp hne)
  | @send actor id attachmentIds _ h =>
    unfold MediaReferences.send at h
    split at h
    · cases h
    next hok =>
    obtain rfl := Except.ok.inj h
    exact List.forall_mem_singleton.mpr fun _ hid => resolveAttachments_confirmed hok hid
  | yapperSticker h id stickerId packId =>
    exact List.forall_mem_singleton.mpr ⟨rfl, fun _ => rfl, fun _ => ⟨rfl, nofun⟩⟩
  | yapperPicture h bot column id =>
    refine List.forall_mem_singleton.mpr ⟨rfl, fun _ => rfl, fun _ => ⟨rfl, ?_⟩⟩
    cases column <;> exact nofun
  | adoptProof h hconfirmed hstatus bot id =>
    exact List.forall_mem_singleton.mpr ⟨rfl, fun _ => rfl, nofun⟩
  | storePreviewImage size id =>
    exact List.forall_mem_singleton.mpr ⟨rfl, fun _ => rfl, nofun⟩

lemma processMedia_sound (h : Confirmed db id) {thumbnail : Option String} :
    ∀ w ∈ processMedia db id thumbnail, w.Sound db := by
  have hready : ∀ w ∈ [Write.ready id], w.Sound db := List.forall_mem_singleton.mpr h
  unfold processMedia
  split
  · exact List.forall_mem_nil _
  split_ifs
  · exact List.forall_mem_nil _
  · exact List.forall_mem_nil _
  · intro w hw
    rcases List.mem_append.mp hw with hw | hw
    · obtain ⟨key, -, rfl⟩ := Option.map_eq_some_iff.mp (Option.mem_toList.mp hw)
      trivial
    · exact hready w hw
  · exact hready

/-! ## Steps and runs -/

lemma Sound.perform (hs : Sound s) (hw : w.Sound s.db) (hnew : w.Fresh s) (hmeant : Meant s (now, .perform w))
    (h : perform s now w = some s') : Sound s' := by
  cases w with
  | insertMedia row use => exact hs.insertMedia hnew hw h
  | confirmUpload id size =>
    obtain rfl := Option.some.inj h
    have hset : Sound { s with
        db := MediaReferences.setMedia s.db (fun m => m.id = id)
          (fun m => { m with confirmedAt := some now, size := size, status := .processing }) fun _ => rfl } :=
      hs.setMedia (fun _ => ⟨rfl, rfl, fun _ => rfl, le_rfl, fun h => h⟩) (fun _ => rfl) fun _ _ _ _ _ => rfl
    refine hset.on (fun _ hw => Or.inl hw) fun k hk => (List.mem_cons.mp hk).symm.imp_right ?_
    rintro rfl m' hm' hid
    obtain ⟨m, hm, rfl⟩ := List.mem_map.mp hm'
    split_ifs at hid ⊢ with hp
    · rfl
    · exact absurd (decide_eq_true hid) hp
  | thumbnail id key =>
    obtain rfl := Option.some.inj h
    exact hs.setMedia (fun _ => ⟨rfl, rfl, fun h => h, le_rfl, fun h => h⟩) (fun _ => rfl) fun _ _ _ h => h
  | ready id =>
    obtain rfl := Option.some.inj h
    exact hs.setMedia (fun _ => ⟨rfl, rfl, fun h => h, le_rfl, fun h => h⟩) (fun _ => rfl)
      fun m hm hp _ _ => hw m hm (of_decide_eq_true hp)
  | insertSticker id packId mediaId =>
    simp only [MediaReferences.perform] at h
    split_ifs at h
    obtain rfl := Option.some.inj h
    exact hs.insertSticker hmeant
  | insertEmoji id conversationId mediaId =>
    simp only [MediaReferences.perform] at h
    split_ifs at h
    obtain rfl := Option.some.inj h
    exact hs.insertEmoji ⟨hmeant, Or.inl hw⟩
  | setPicture userId column mediaId =>
    cases column with
    | avatar =>
      obtain rfl := Option.some.inj h
      exact hs.setPictures fun id hid => hid.elim (fun he => by cases he; exact hw) nofun
    | banner =>
      obtain rfl := Option.some.inj h
      exact hs.setPictures fun id hid => hid.elim nofun fun he => by cases he; exact hw
  | insertMessage id attachmentIds =>
    obtain ⟨db', hdb, rfl⟩ := Option.map_eq_some_iff.mp h
    exact hs.insertMessage hw hdb

lemma Step.sound {e : Event} (h : Step s (now, e) s') (hs : Sound s) (hmeant : Meant s (now, e)) :
    Sound s' := by
  cases h with
  | ask h => exact hs.asks (h.sound hs)
  | processMedia thumbnail h => exact hs.asks (processMedia_sound (hs.queued _ h))
  | backfillThumbnails h =>
    refine hs.on (fun _ hw => Or.inl hw) fun id hid => (List.mem_append.mp hid).symm.imp_right fun hid => ?_
    obtain ⟨m, hm, rfl, hthumbless⟩ := h id hid
    exact confirmed_of_mem hm (hs.rows m hm (Or.inl (of_decide_eq_true hthumbless).1))
  | @perform _ _ w h hnew hs' =>
    have hfresh : w.Fresh { s with underway := s.underway.erase w } := by
      cases w with
      | insertMedia row use =>
        refine fun hid => hnew ?_
        simp only [System.names, List.mem_append, List.mem_flatMap] at hid ⊢
        rcases hid with hid | hid | hid | ⟨w, hw, hid⟩
        · exact Or.inl hid
        · exact Or.inr (Or.inl hid)
        · exact Or.inr (Or.inr (Or.inl hid))
        · exact Or.inr (Or.inr (Or.inr ⟨w, List.mem_of_mem_erase hw, hid⟩))
      | _ => trivial
    exact hs.drop.perform (hs.underway w h) hfresh (by cases w <;> exact hmeant) hs'
  | lose h => exact hs.drop
  | signUp id =>
    refine hs.users fun u hu k hk => ?_
    rcases KeyedTable.mem_insertIgnore hu with rfl | hu
    · exact hk.elim nofun nofun
    · exact Or.inl (named_avatar hu hk)
  | updateProfile userId avatar banner => exact hs.setPictures hmeant
  | completeProfile userId avatar =>
    exact hs.setPictures fun id hid => hid.elim (fun h => hmeant id (Option.some.inj h)) nofun
  | deleteAccount userId => exact hs.deleteAccount
  | createConversation id avatar =>
    refine hs.conversations fun c hc k hk => ?_
    rcases KeyedTable.mem_insertIgnore hc with rfl | hc
    · exact Or.inr (hmeant k hk)
    · exact Or.inl (named_conversation hc hk)
  | updateConversation id avatar => exact hs.setConversationAvatar hmeant
  | removeSticker packId stickerId => exact hs.removeSticker
  | removeEmoji conversationId emojiId => exact hs.removeEmoji
  | deleteMessages which => exact hs.tables rfl rfl (fun _ h => h) (fun _ hid => Or.inl hid) hs.scheduled
  | quarantineMedia id => exact hs.quarantineMedia
  | schedule id senderId content =>
    refine hs.setScheduled fun row hrow => ?_
    rcases KeyedTable.mem_insertIgnore hrow with rfl | hrow
    · rfl
    · exact hs.scheduled row hrow
  | cancelScheduled id senderId => exact hs.updateScheduled fun _ => rfl
  | deliverScheduled id messageId => exact hs.updateScheduled fun _ => rfl
  | failScheduled id => exact hs.updateScheduled fun _ => rfl
  | sweepEphemeral cited => exact hs.deleteMedia
  | purgeAccount userId =>
    unfold MediaReferences.purgeAccount
    split_ifs
    · exact hs.deleteMedia
    · exact hs
  | releaseUnusedMedia => exact hs.deleteMedia
  | sweepOrphanUploads h => exact hs.sweepOrphanUploads h

/-! ## What the sweeps leave -/

lemma Sound.protected_of_inUse (hs : Sound s) (h : InUse s.db id) : Protected s.db id := by
  cases h with
  | @attached m a hm hdeleted ha hmessage hmedia =>
    subst hmedia
    refine ⟨fun m hm hid _ => Or.inr ?_, Or.inl (hs.attached a ha)⟩
    have hcount : m.refCount = _ := hs.counts m hm
    rw [hcount, hid]
    exact List.count_pos_iff.mpr (List.mem_map_of_mem ha)
  | scheduled h hpending hmedia =>
    rw [hs.scheduled _ h] at hmedia
    cases hmedia
  | avatar h hmedia => exact hs.named id (named_avatar h (Or.inl hmedia))
  | banner h hmedia => exact hs.named id (named_avatar h (Or.inr hmedia))
  | conversation h hmedia => exact hs.named id (named_conversation h hmedia)
  | sticker h hmedia => exact hs.named id (named_stuck ⟨_, h, hmedia⟩)
  | emoji h hmedia => exact hs.named id (named_emoji h hmedia)

lemma Protected.not_unused (h : Protected db id) (hm : m ∈ db.media.rows) (hid : m.id = id) :
    unused now m = false := by
  refine decide_eq_false ?_
  rintro ⟨hcount, hdeleted, hpurpose, -⟩
  rcases h.settled m hm hid hpurpose with hd | hr
  · rw [Option.isNone_iff_eq_none.mp hdeleted] at hd
    cases hd
  · exact hr.ne' hcount

lemma Protected.not_orphan (h : Protected db id) (hm : m ∈ db.media.rows) (hid : m.id = id) :
    orphan db now m = false := by
  refine decide_eq_false ?_
  rintro ⟨hconfirmed, -, hstickers⟩
  rcases h.claimed with hc | ⟨x, hx, hxid⟩
  · have hsome := hc m hm hid
    rw [Option.isNone_iff_eq_none.mp hconfirmed] at hsome
    cases hsome
  · exact of_decide_eq_true (List.all_eq_true.mp hstickers x hx) (hxid.trans hid.symm)

lemma Protected.kept {e : Event} (h : Protected s.db id) (hstep : Step s (now, e) s') (he : e.IsSweep) :
    Kept s.db s'.db id := by
  cases hstep with
  | releaseUnusedMedia =>
    intro m hm hid
    refine ⟨m, List.mem_map.mpr ⟨m, hm, ?_⟩, hid, rfl⟩
    rw [h.not_unused hm hid]
    rfl
  | sweepOrphanUploads hsome =>
    unfold sweepOrphanUploads at hsome
    split_ifs at hsome
    obtain rfl := Option.some.inj hsome
    intro m hm hid
    refine ⟨m, List.mem_filter.mpr ⟨hm, ?_⟩, hid, rfl⟩
    rw [h.not_orphan hm hid]
    rfl
  | _ => cases he

theorem history_keeps {entries : List (System × (Time × Event) × System)}
    (h : History Step .empty entries s) (hmeant : ∀ x ∈ entries, Meant x.1 x.2.1) :
    ∀ x ∈ entries, x.2.1.2.IsSweep → ∀ id, InUse x.1.db id → Kept x.1.db x.2.2.db id := by
  have hstep : ∀ (s : System) (e : Time × Event) (s' : System), Sound s → Meant s e → Step s e s' →
      Sound s' ∧ (e.2.IsSweep → ∀ id, InUse s.db id → Kept s.db s'.db id) := fun _ _ _ hs hok hstep =>
    ⟨hstep.sound hs hok, fun he _ hid => (hs.protected_of_inUse hid).kept hstep he⟩
  refine (h.forall_entries ?_ hstep hmeant).2
  exact sound_empty

def picture (purpose : Purpose) (confirmed : Bool) : Media :=
  { id := 5, ownerId := some 1, purpose := purpose, status := if confirmed then .processing else .pending,
    bucket := bucketFor purpose, mimeType := "image/png", size := 100, thumbnailKey := none, checksum := none,
    confirmedAt := if confirmed then some 2000 else none, refCount := 0, createdAt := 1000, deletedAt := none }

def stage (avatar : Option Uuid) (upload : Option Media) (underway : List Write) (jobs : List Uuid) : System where
  db := { Tables.empty with
    media := ⟨upload.toList, by cases upload <;> simp⟩
    users := ⟨[⟨1, avatar, none, none⟩], List.nodup_singleton _⟩ }
  underway := underway
  jobs := jobs

def worn (purpose : Purpose) : System := stage (some 5) (some (picture purpose true)) [] [5]

def week : Time := 8 * 24 * 3600 * 1000

def swept (purpose : Purpose) : System :=
  { worn purpose with db := releaseUnusedMedia (worn purpose).db week }

def wearing (purpose : Purpose) : List (System × (Time × Event) × System) :=
  let row := picture purpose false
  let s₁ := stage none none [] []
  let s₂ := stage none none [.insertMedia row none] []
  let s₃ := stage none (some row) [] []
  let s₄ := stage none (some row) [.confirmUpload 5 100] []
  let s₅ := stage none (some (picture purpose true)) [] [5]
  [(.empty, (0, .signUp 1), s₁), (s₁, (1000, .ask [.insertMedia row none]), s₂),
    (s₂, (1000, .perform (.insertMedia row none)), s₃), (s₃, (2000, .ask [.confirmUpload 5 100]), s₄),
    (s₄, (2000, .perform (.confirmUpload 5 100)), s₅),
    (s₅, (3000, .updateProfile 1 (some (some 5)) none), worn purpose),
    (worn purpose, (week, .releaseUnusedMedia), swept purpose)]

lemma wearing_history (purpose : Purpose) : History Step .empty (wearing purpose) (swept purpose) := by
  have hstart : History Step .empty [] .empty := .start _
  have hjoined := hstart.snoc (.signUp 1 : Step .empty (0, _) (stage none none [] []))
  have hasked := hjoined.snoc (.ask (.createUpload 1 ⟨purpose, "image/png", 100, none⟩ 5) :
    Step _ (1000, _) (stage none none [.insertMedia (picture purpose false) none] []))
  have hfresh : (Write.insertMedia (picture purpose false) none).Fresh
      (stage none none [.insertMedia (picture purpose false) none] []) := by
    change (5 : ℕ) ∉ []
    exact List.not_mem_nil
  have hinserted : perform { stage none none [.insertMedia (picture purpose false) none] [] with
        underway := [Write.insertMedia (picture purpose false) none].erase (.insertMedia (picture purpose false) none) }
      1000 (.insertMedia (picture purpose false) none) = some (stage none (some (picture purpose false)) [] []) := by
    rw [List.erase_cons_head]
    rfl
  have huploaded := hasked.snoc (.perform List.mem_cons_self hfresh hinserted :
    Step _ (1000, .perform (.insertMedia (picture purpose false) none)) (stage none (some (picture purpose false)) [] []))
  have hconfirm : confirm (stage none (some (picture purpose false)) [] []).db 1 5 (some 100) =
      .ok [.confirmUpload 5 100] := rfl
  have hfound := huploaded.snoc (.ask (.confirm hconfirm) :
    Step _ (2000, .ask [.confirmUpload 5 100]) (stage none (some (picture purpose false)) [.confirmUpload 5 100] []))
  have hconfirmed := hfound.snoc (.perform List.mem_cons_self trivial rfl :
    Step _ (2000, .perform (.confirmUpload 5 100)) (stage none (some (picture purpose true)) [] [5]))
  have hworn := hconfirmed.snoc (.updateProfile 1 (some (some 5)) none : Step _ (3000, _) (worn purpose))
  exact hworn.snoc (.releaseUnusedMedia : Step (worn purpose) (week, _) (swept purpose))

lemma worn_inUse (purpose : Purpose) : InUse (worn purpose).db 5 :=
  .avatar (List.mem_singleton_self _) rfl

lemma wearing_meant {purpose : Purpose} (h : purpose ≠ .attachment) : ∀ x ∈ wearing purpose, Meant x.1 x.2.1 := by
  have hprotected : Protected (stage none (some (picture purpose true)) [] [5]).db 5 := by
    constructor
    · intro m hm _ hp
      obtain rfl := List.mem_singleton.mp hm
      exact absurd hp h
    · refine Or.inl fun m hm _ => ?_
      obtain rfl := List.mem_singleton.mp hm
      rfl
  intro x hx
  simp only [wearing, List.mem_cons, List.not_mem_nil, or_false] at hx
  rcases hx with rfl | rfl | rfl | rfl | rfl | rfl | rfl
  case inr.inr.inr.inr.inr.inl =>
    intro id hid
    rcases hid with hid | hid
    · obtain rfl : 5 = id := Option.some.inj (Option.some.inj hid)
      exact hprotected
    · cases hid
  all_goals trivial

/-- A picture uploaded for an avatar stays. -/
theorem history_keeps_avatar : Kept (worn .avatar).db (swept .avatar).db 5 :=
  history_keeps (wearing_history .avatar) (wearing_meant nofun) (worn .avatar, (week, .releaseUnusedMedia), swept .avatar)
    (by simp [wearing]) trivial 5 (worn_inUse .avatar)

/-- One uploaded for a message and worn instead is taken. -/
theorem worn_attachment_released : ¬ ∀ entries s, History Step .empty entries s →
    ∀ x ∈ entries, x.2.1.2.IsSweep → ∀ id, InUse x.1.db id → Kept x.1.db x.2.2.db id := by
  intro h
  have hkept := h _ _ (wearing_history .attachment) (worn .attachment, (week, .releaseUnusedMedia), swept .attachment)
    (by simp [wearing]) trivial 5 (worn_inUse .attachment)
  obtain ⟨m, hm, -, hdeleted⟩ := hkept (picture .attachment true) (List.mem_singleton_self _) rfl
  obtain rfl : m = { picture .attachment true with deletedAt := some week } := List.mem_singleton.mp hm
  cases hdeleted

end Yappy.MediaReferences
