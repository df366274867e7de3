import Yappy.MessageReads

/-!
# The history floor

Which reads keep to the floor of a member who came later: what a message at or below it says reaches
the member just where a query without a floor shows it, or where a message above it quotes it.
-/
namespace Yappy.Reads

open Deletion (Preview buildPreview)
open Markdown (Text)
open Pages (Query)
open Permissions (AppError ConversationMember Time Uuid)

/-- At or below the floor `f` of the conversation `c`. -/
def Below (c : Uuid) (f : ℕ) (m : Message) : Prop := m.conversationId = c ∧ m.seq ≤ f

instance (c : Uuid) (f : ℕ) : DecidablePred (Below c f) := fun _ => instDecidableAnd

def touch (c : Uuid) (f : ℕ) (content : Uuid → Option Text) (m : Message) : Message :=
  if Below c f m then { m with content := content m.id } else m

section Touch
variable {c : Uuid} {f : ℕ} {content : Uuid → Option Text} {m : Message}

lemma touch_of_not_below (h : ¬ Below c f m) : touch c f content m = m := if_neg h

lemma touch_eq (c : Uuid) (f : ℕ) (content : Uuid → Option Text) (m : Message) :
    touch c f content m = { m with content := (touch c f content m).content } := by
  unfold touch
  split_ifs <;> rfl

lemma touch_column {β : Type} {column : Message → β}
    (h : ∀ m content, column { m with content := content } = column m) (m : Message) :
    column (touch c f content m) = column m := by
  rw [touch_eq]
  exact h m _

@[simp] lemma touch_id : (touch c f content m).id = m.id := touch_column (fun _ _ => rfl) m

@[simp] lemma touch_conversationId : (touch c f content m).conversationId = m.conversationId :=
  touch_column (fun _ _ => rfl) m

@[simp] lemma touch_seq : (touch c f content m).seq = m.seq := touch_column (fun _ _ => rfl) m

end Touch

namespace Database

/-- The same database with other contents at or below the floor. -/
def reword (db : Database) (c : Uuid) (f : ℕ) (content : Uuid → Option Text) : Database :=
  { db with
    messages := db.messages.update (Below c f) (fun m => { m with content := content m.id })
      fun _ => rfl
    seq_unique := by
      intro m hm m' hm' hc hs
      obtain ⟨r, hr, rfl⟩ := List.mem_map.mp hm
      obtain ⟨r', hr', rfl⟩ := List.mem_map.mp hm'
      have hcolumns : ∀ x : Message,
          ((if decide (Below c f x) = true then { x with content := content x.id } else x) =
            touch c f content x) := fun x => by simp [touch]
      simp only [hcolumns, touch_conversationId, touch_seq] at hc hs ⊢
      rw [db.seq_unique r hr r' hr' hc hs]
    mention_placed := by
      intro x hx
      obtain ⟨m, hm, hc, hs⟩ := db.mention_placed x hx
      refine ⟨touch c f content m, ?_, by simpa using hc, by simpa using hs⟩
      rw [KeyedTable.find_update, hm]
      simp [touch] }

section Reword
variable {db : Database} {viewer c : Uuid} {clock : Time} {f : ℕ} {content : Uuid → Option Text}

lemma reword_rows : (db.reword c f content).messages.rows = db.messages.rows.map (touch c f content) := by
  refine List.map_congr_left fun m _ => ?_
  simp [touch]

lemma reword_find (id : Uuid) :
    (db.reword c f content).messages.find id = (db.messages.find id).map (touch c f content) := by
  have hfind : (db.reword c f content).messages.find id = (db.messages.find id).map fun m =>
      if decide (Below c f m) = true then { m with content := content m.id } else m := by
    unfold reword
    rw [KeyedTable.find_update]
  refine hfind.trans (Option.map_congr fun m _ => ?_)
  simp [touch]

lemma reword_select {p p' : Message → Bool} (h : ∀ m, p' (touch c f content m) = p m) :
    (db.reword c f content).select p' = (db.select p).map (touch c f content) := by
  unfold select
  rw [reword_rows, List.filter_map]
  congr 2
  exact funext h

lemma reword_notDeletedForViewer (m : Message) :
    (db.reword c f content).notDeletedForViewer viewer (touch c f content m) =
      db.notDeletedForViewer viewer m := by
  unfold notDeletedForViewer
  rw [touch_id]
  rfl

/-- The reply quotes a message at or below the floor, and what it says. -/
def Quotes (db : Database) (viewer c : Uuid) (f : ℕ) (m : Message) : Prop :=
  ∃ r, m.replyToId.bind db.messages.find = some r ∧ db.notDeletedForViewer viewer r = true ∧
    r.deletedAt = none ∧ Below c f r

lemma reword_stub {m : Message} (h : ¬ db.Quotes viewer c f m) :
    (db.reword c f content).stub viewer (touch c f content m) = db.stub viewer m := by
  unfold stub
  have hreply : (touch c f content m).replyToId = m.replyToId := touch_column (fun _ _ => rfl) m
  have hfind : m.replyToId.bind (db.reword c f content).messages.find =
      (m.replyToId.bind db.messages.find).map (touch c f content) := by
    cases m.replyToId with
    | none => rfl
    | some id => exact reword_find id
  rw [hreply, hfind]
  cases hr : m.replyToId.bind db.messages.find with
  | none => rfl
  | some r =>
    rw [Option.map_some, Option.filter_some, Option.filter_some, reword_notDeletedForViewer]
    cases hv : db.notDeletedForViewer viewer r with
    | false => rfl
    | true =>
      have hdeleted : (touch c f content r).deletedAt = r.deletedAt := touch_column (fun _ _ => rfl) r
      have hsender : (touch c f content r).senderId = r.senderId := touch_column (fun _ _ => rfl) r
      have htype : (touch c f content r).type = r.type := touch_column (fun _ _ => rfl) r
      simp only [if_true, Option.map_some, touch_id, touch_seq, hdeleted, hsender, htype]
      cases hd : r.deletedAt with
      | some t => rfl
      | none =>
        rw [touch_of_not_below fun hb => h ⟨r, hr, hv, hd, hb⟩]

lemma reword_hydrateMany {rows : List Message} (hb : ∀ m ∈ rows, ¬ Below c f m)
    (hq : ∀ m ∈ rows, ¬ db.Quotes viewer c f m) :
    (db.reword c f content).hydrateMany viewer (rows.map (touch c f content)) =
      db.hydrateMany viewer rows := by
  unfold hydrateMany
  rw [List.map_map]
  refine List.map_congr_left fun m hm => ?_
  rw [Function.comp_apply, reword_stub (hq m hm), touch_of_not_below (hb m hm)]

lemma reword_join {ρ : Type} (rows : List ρ) (messageId : ρ → Uuid) :
    (db.reword c f content).join rows messageId =
      (db.join rows messageId).map fun r => (r.1, touch c f content r.2) := by
  unfold join
  rw [List.map_flatMap]
  refine List.flatMap_congr fun r _ => ?_
  rw [reword_find]
  cases db.messages.find (messageId r) <;> rfl

lemma reword_canReadMessage (id user : Uuid) :
    (db.reword c f content).canReadMessage clock id user = db.canReadMessage clock id user := by
  unfold canReadMessage
  rw [reword_select (p := fun m => m.id = id) (by simp), List.any_map]
  congr 1
  funext m
  have hdeleted : (touch c f content m).deletedAt = m.deletedAt := touch_column (fun _ _ => rfl) m
  have hexpires : (touch c f content m).expiresAt = m.expiresAt := touch_column (fun _ _ => rfl) m
  simp only [Function.comp_apply, touch_id, touch_seq, touch_conversationId, hdeleted, hexpires]
  rfl

end Reword

/-! ## What the floor leaves of each query -/

section Floors
variable {db : Database} {viewer c : Uuid} {clock : Time} {member : ConversationMember} {m : Message}

lemma canReadMessage_above (hmember : db.tables.memberRow c viewer = some member)
    (hleft : member.leftAt = none) (hm : db.messages.find m.id = some m)
    (h : db.canReadMessage clock m.id viewer = true) : ¬ Below c member.historyStartSeq m := by
  rintro ⟨rfl, hseq⟩
  obtain ⟨-, -, -, -, -, -, hfloor, -⟩ := (canReadMessage_iff hm).mp h
  rw [hmember, Option.filter_some, if_pos (by simp [hleft]), Option.elim_some] at hfloor
  omega

end Floors

/-! ## The messages of an answer -/

section Rows
variable (db : Database) (viewer : Uuid) (clock : Time)

def rows : Operation → Except AppError (List Message)
  | .history conversationId opts => do
    let ctx ← db.tables.requirePermission conversationId viewer Permissions.Permission.readHistory clock
    return db.historyRows viewer conversationId ctx.member.historyStartSeq opts
  | .get messageId =>
    match (db.messages.find messageId).filter (db.notDeletedForViewer viewer) with
    | none => .error (Permissions.notFound "Message")
    | some row => do
      let _ ← db.tables.requirePermission row.conversationId viewer Permissions.Permission.readHistory clock
      return [row]
  | .thread conversationId messageId limit after => do
    let _ ← db.tables.requirePermission conversationId viewer Permissions.Permission.readHistory clock
    return (db.threadQuery viewer conversationId messageId limit after).run
  | .pins conversationId => do
    let _ ← db.tables.requirePermission conversationId viewer Permissions.Permission.viewConversation clock
    return (db.pinsQuery viewer conversationId).run.map Prod.snd
  | .gallery conversationId type limit before => do
    let _ ← db.tables.requirePermission conversationId viewer Permissions.Permission.readHistory clock
    return (db.galleryQuery viewer conversationId type limit before).run
  | .mediaWall conversationId limit before => do
    let ctx ← db.tables.requirePermission conversationId viewer Permissions.Permission.readHistory clock
    return (db.mediaQuery viewer conversationId ctx.member.historyStartSeq limit before).run
  | .catchUp conversationId => do
    let ctx ← db.tables.requirePermission conversationId viewer Permissions.Permission.readHistory clock
    let since := max ctx.member.lastReadSeq ctx.member.historyStartSeq
    if ctx.conversation.messageSeq ≤ since then return []
    return db.named (db.mentionsQuery viewer conversationId since).run MessageMention.messageId ++
      db.named (db.newPinsQuery conversationId ctx.member.lastReadAt).run PinnedMessage.messageId
  | .saved limit => .ok ((db.savedQuery viewer (min (max 1 limit) 100)).run.map Prod.snd)
  | .savedItems _ | .reminders | .activity => .ok []

lemma respond_messages (op : Operation) :
    (db.respond viewer clock op).map Response.messages =
      (db.rows viewer clock op).map (db.hydrateMany viewer) := by
  cases op with
  | history id opts =>
    dsimp only [respond, history, rows]
    cases db.tables.requirePermission id viewer Permissions.Permission.readHistory clock <;> rfl
  | get id =>
    dsimp only [respond, get, rows]
    cases (db.messages.find id).filter (db.notDeletedForViewer viewer) with
    | none => rfl
    | some row =>
      dsimp only
      cases db.tables.requirePermission row.conversationId viewer Permissions.Permission.readHistory clock <;> rfl
  | thread id root limit after =>
    dsimp only [respond, thread, rows]
    cases db.tables.requirePermission id viewer Permissions.Permission.readHistory clock <;> rfl
  | pins id =>
    dsimp only [respond, pins, rows]
    cases db.tables.requirePermission id viewer Permissions.Permission.viewConversation clock <;> rfl
  | gallery id type limit before =>
    dsimp only [respond, gallery, rows]
    cases db.tables.requirePermission id viewer Permissions.Permission.readHistory clock <;> rfl
  | mediaWall id limit before =>
    dsimp only [respond, mediaWall, rows]
    cases db.tables.requirePermission id viewer Permissions.Permission.readHistory clock <;> rfl
  | catchUp id =>
    dsimp only [respond, catchUp, rows]
    cases db.tables.requirePermission id viewer Permissions.Permission.readHistory clock with
    | error e => rfl
    | ok ctx =>
      simp only [bind, Except.bind, pure, Except.pure]
      split_ifs <;> rfl
  | saved limit => rfl
  | savedItems chosen => rfl
  | reminders => rfl
  | activity => rfl

variable {db viewer clock} {c : Uuid} {f : ℕ} {content : Uuid → Option Text}

lemma reword_newestFirst {p p' : Message → Bool} (h : ∀ m, p' (touch c f content m) = p m) (n : ℕ) :
    (newestFirst ((db.reword c f content).select p') n).run =
      (newestFirst (db.select p) n).run.map (touch c f content) := by
  rw [reword_select h]
  exact @Query.run_map _ _ _ _ (newestFirst (db.select p) n) (touch c f content)
    (fun m => [-m.seq, m.id]) fun m => by rw [touch_seq, touch_id]; rfl

lemma reword_oldestFirst {p p' : Message → Bool} (h : ∀ m, p' (touch c f content m) = p m) (n : ℕ) :
    (oldestFirst ((db.reword c f content).select p') n).run =
      (oldestFirst (db.select p) n).run.map (touch c f content) := by
  rw [reword_select h]
  exact @Query.run_map _ _ _ _ (oldestFirst (db.select p) n) (touch c f content)
    (fun m => [m.seq, m.id]) fun m => by rw [touch_seq, touch_id]; rfl

lemma reword_historyRows (id floor : ℕ) (opts : HistoryOptions) :
    (db.reword c f content).historyRows viewer id floor opts =
      (db.historyRows viewer id floor opts).map (touch c f content) := by
  have hbase : ∀ m, (db.reword c f content).historyBase viewer id floor opts.includeDeleted
      (touch c f content m) = db.historyBase viewer id floor opts.includeDeleted m := by
    intro m
    have hdeleted : (touch c f content m).deletedAt = m.deletedAt := touch_column (fun _ _ => rfl) m
    unfold historyBase
    rw [reword_notDeletedForViewer, touch_conversationId, touch_seq, hdeleted]
  unfold historyRows historyQueries
  dsimp only
  cases opts.around with
  | some around =>
    simp only [List.flatMap_cons, List.flatMap_nil, List.append_nil, if_true, Bool.false_eq_true,
      if_false, List.map_append, List.map_reverse]
    rw [reword_newestFirst fun m => by rw [hbase, touch_seq],
      reword_oldestFirst fun m => by rw [hbase, touch_seq]]
  | none =>
    cases opts.after with
    | some after =>
      simp only [List.flatMap_cons, List.flatMap_nil, List.append_nil, Bool.false_eq_true, if_false]
      exact reword_oldestFirst (fun m => by rw [hbase, touch_seq]) _
    | none =>
      simp only [List.flatMap_cons, List.flatMap_nil, List.append_nil, if_true]
      rw [reword_newestFirst fun m => by rw [hbase, touch_seq], List.map_reverse]

lemma reword_named {ρ : Type} (rows : List ρ) (messageId : ρ → Uuid) :
    (db.reword c f content).named rows messageId =
      (db.named rows messageId).map (touch c f content) := by
  unfold named
  rw [List.map_filterMap]
  exact List.filterMap_congr fun r _ => reword_find _

lemma reword_joined {ρ : Type} {rows : List ρ} {messageId : ρ → Uuid} {p p' : ρ × Message → Bool}
    (order : ρ → List ℤ) (n : ℕ) (h : ∀ r, p' (r.1, touch c f content r.2) = p r) :
    (⟨((db.reword c f content).join rows messageId).filter p', fun r => order r.1, n⟩ :
        Query (ρ × Message) (List ℤ)).run =
      (⟨(db.join rows messageId).filter p, fun r => order r.1, n⟩ :
        Query (ρ × Message) (List ℤ)).run.map fun r => (r.1, touch c f content r.2) := by
  rw [reword_join, List.filter_map]
  have hp : p' ∘ (fun r => (r.1, touch c f content r.2)) = p := funext h
  rw [hp]
  exact @Query.run_map _ _ _ _ (⟨(db.join rows messageId).filter p, fun r => order r.1, n⟩)
    (fun r => (r.1, touch c f content r.2)) (fun r => order r.1) fun _ => rfl

lemma reword_pins (conversationId : Uuid) :
    ((db.reword c f content).pinsQuery viewer conversationId).run =
      (db.pinsQuery viewer conversationId).run.map fun r => (r.1, touch c f content r.2) := by
  refine reword_joined (fun p : PinnedMessage => [p.position, -p.pinnedAt, p.messageId]) pinnedPerConversation fun r => ?_
  have hdeleted : (touch c f content r.2).deletedAt = r.2.deletedAt := touch_column (fun _ _ => rfl) _
  dsimp only
  rw [reword_notDeletedForViewer, hdeleted]

lemma reword_saved (limit : ℕ) :
    ((db.reword c f content).savedQuery viewer limit).run =
      (db.savedQuery viewer limit).run.map fun r => (r.1, touch c f content r.2) := by
  refine reword_joined (fun s : SavedMessage => [-s.savedAt, s.messageId]) limit fun r => ?_
  have hdeleted : (touch c f content r.2).deletedAt = r.2.deletedAt := touch_column (fun _ _ => rfl) _
  dsimp only
  rw [reword_notDeletedForViewer, hdeleted, touch_conversationId]
  rfl

lemma reword_thread (conversationId root : Uuid) (limit : ℕ) (after : Option ℕ) :
    ((db.reword c f content).threadQuery viewer conversationId root limit after).run =
      (db.threadQuery viewer conversationId root limit after).run.map (touch c f content) := by
  refine reword_oldestFirst (fun m => ?_) _
  have hdeleted : (touch c f content m).deletedAt = m.deletedAt := touch_column (fun _ _ => rfl) m
  have hroot : (touch c f content m).threadRootId = m.threadRootId := touch_column (fun _ _ => rfl) m
  rw [reword_notDeletedForViewer, hdeleted, hroot, touch_conversationId, touch_seq]

lemma reword_gallery (conversationId : Uuid) (type : Tables.MessageType) (limit : ℕ)
    (before : Option ℕ) :
    ((db.reword c f content).galleryQuery viewer conversationId type limit before).run =
      (db.galleryQuery viewer conversationId type limit before).run.map (touch c f content) := by
  refine reword_newestFirst (fun m => ?_) _
  have hdeleted : (touch c f content m).deletedAt = m.deletedAt := touch_column (fun _ _ => rfl) m
  have htype : (touch c f content m).type = m.type := touch_column (fun _ _ => rfl) m
  rw [reword_notDeletedForViewer, hdeleted, htype, touch_conversationId, touch_seq]

lemma reword_media (conversationId floor limit : ℕ) (before : Option ℕ) :
    ((db.reword c f content).mediaQuery viewer conversationId floor limit before).run =
      (db.mediaQuery viewer conversationId floor limit before).run.map (touch c f content) := by
  refine reword_newestFirst (fun m => ?_) _
  have hdeleted : (touch c f content m).deletedAt = m.deletedAt := touch_column (fun _ _ => rfl) m
  have hmedia : isMedia (touch c f content m) = isMedia m := touch_column (fun _ _ => rfl) m
  rw [reword_notDeletedForViewer, hdeleted, hmedia, touch_conversationId, touch_seq]

lemma reword_counts (conversationId scanFrom upTo : ℕ) :
    (db.reword c f content).countsQuery viewer conversationId scanFrom upTo =
      db.countsQuery viewer conversationId scanFrom upTo := by
  unfold countsQuery
  rw [reword_select (p := fun m => m.conversationId = conversationId && scanFrom < m.seq &&
    m.seq ≤ upTo && m.deletedAt.isNone), List.filterMap_map]
  · congr 2
    refine List.filterMap_congr fun m _ => ?_
    have hsender : (touch c f content m).senderId = m.senderId := touch_column (fun _ _ => rfl) m
    rw [Function.comp_apply, hsender]
  · intro m
    have hdeleted : (touch c f content m).deletedAt = m.deletedAt := touch_column (fun _ _ => rfl) m
    rw [hdeleted, touch_conversationId, touch_seq]

lemma reword_catchUpMedia (conversationId scanFrom : ℕ) :
    ((db.reword c f content).catchUpMediaQuery viewer conversationId scanFrom).run =
      (db.catchUpMediaQuery viewer conversationId scanFrom).run.map fun r =>
        (touch c f content r.1, r.2) := by
  have hrows : ((db.reword c f content).messages.rows.flatMap fun m =>
      m.attachments.map fun a => (m, a)) = (db.messages.rows.flatMap fun m =>
        m.attachments.map fun a => (m, a)).map fun r => (touch c f content r.1, r.2) := by
    rw [reword_rows, List.flatMap_map, List.map_flatMap]
    refine List.flatMap_congr fun m _ => ?_
    have hattachments : (touch c f content m).attachments = m.attachments :=
      touch_column (fun _ _ => rfl) m
    rw [hattachments, List.map_map]
    rfl
  have hadmitted : ((db.reword c f content).catchUpMediaQuery viewer conversationId scanFrom).admitted =
      (db.catchUpMediaQuery viewer conversationId scanFrom).admitted.map fun r =>
        (touch c f content r.1, r.2) := by
    unfold catchUpMediaQuery
    dsimp only
    rw [hrows, List.filter_map]
    congr 2
    funext r
    have hdeleted : (touch c f content r.1).deletedAt = r.1.deletedAt := touch_column (fun _ _ => rfl) _
    have htype : (touch c f content r.1).type = r.1.type := touch_column (fun _ _ => rfl) _
    rw [Function.comp_apply, reword_notDeletedForViewer, hdeleted, htype, touch_conversationId,
      touch_seq]
  have hrun := @Query.run_map _ _ _ _ (db.catchUpMediaQuery viewer conversationId scanFrom)
    (fun r => (touch c f content r.1, r.2)) (fun r => [-r.1.seq, r.2.mediaId])
    fun r => by rw [touch_seq]; rfl
  rw [← hadmitted] at hrun
  exact hrun

/-! ### What `can_read_message` lets through -/

lemma filter_map_of_fixed {α : Type} {g : α → α} {p p' : α → Bool} {l : List α}
    (hfix : ∀ a ∈ l, p a = true → g a = a) (hp : ∀ a ∈ l, p' (g a) = p a) :
    (l.map g).filter p' = l.filter p := by
  have hfilter : l.filter (p' ∘ g) = l.filter p := List.filter_congr hp
  rw [List.filter_map, hfilter]
  refine (List.map_congr_left fun a ha => ?_).trans (List.map_id _)
  obtain ⟨hmem, hpa⟩ := List.mem_filter.mp ha
  exact hfix a hmem hpa

lemma mem_join {ρ : Type} {rows : List ρ} {messageId : ρ → Uuid} {r : ρ × Message} :
    r ∈ db.join rows messageId ↔ r.1 ∈ rows ∧ db.messages.find (messageId r.1) = some r.2 := by
  obtain ⟨x, m⟩ := r
  simp only [join, List.mem_flatMap, Option.mem_toList, Option.map_eq_some_iff, Prod.mk.injEq]
  constructor
  · rintro ⟨x', hx, m', hm, rfl, rfl⟩
    exact ⟨hx, hm⟩
  · rintro ⟨hx, hm⟩
    exact ⟨x, hx, m, hm, rfl, rfl⟩

section Readable
variable {member : ConversationMember} (hmember : db.tables.memberRow c viewer = some member)
  (hleft : member.leftAt = none)
include hmember hleft

lemma touch_readable {id : Uuid} {m : Message} (hm : db.messages.find id = some m)
    (h : db.canReadMessage clock m.id viewer = true) :
    touch c member.historyStartSeq content m = m := by
  have hid : m.id = id := KeyedTable.find_key hm
  rw [← hid] at hm
  exact touch_of_not_below (canReadMessage_above hmember hleft hm h)

lemma reword_readable {ρ : Type} {rows : List ρ} {messageId : ρ → Uuid}
    {p p' : ρ × Message → Bool} (hread : ∀ r, p r = true → db.canReadMessage clock r.2.id viewer = true)
    (hread' : ∀ r, p' r = true → db.canReadMessage clock r.2.id viewer = true)
    (h : ∀ r, p' r = p r) :
    ((db.reword c member.historyStartSeq content).join rows messageId).filter p' =
      (db.join rows messageId).filter p := by
  rw [reword_join]
  refine filter_map_of_fixed (fun r hr hp => ?_) fun r hr => ?_
  · rw [touch_readable hmember hleft (mem_join.mp hr).2 (hread r hp)]
  · cases hc : db.canReadMessage clock r.2.id viewer with
    | true =>
      rw [touch_readable hmember hleft (mem_join.mp hr).2 hc]
      exact h r
    | false =>
      have hp : p r = false := by
        by_contra hne
        rw [hread r (by simpa using hne)] at hc
        cases hc
      rw [hp]
      by_contra hne
      have hc' := hread' _ (by simpa using hne)
      rw [touch_id, hc] at hc'
      cases hc'

lemma reword_savedItems (chosen : SavedMessage → Message → Bool) :
    (db.reword c member.historyStartSeq content).savedItems viewer clock chosen =
      db.savedItems viewer clock chosen := by
  have hquery : (db.reword c member.historyStartSeq content).savedItemsQuery viewer clock chosen =
      db.savedItemsQuery viewer clock chosen := by
    unfold savedItemsQuery
    congr 1
    refine @reword_readable db viewer clock c content member hmember hleft _ db.savedMessages.rows
      SavedMessage.messageId _ _ (fun r hp => ?_) (fun r hp => ?_) fun r => ?_
    · simp only [Bool.and_eq_true] at hp
      exact hp.1.2
    · simp only [Bool.and_eq_true, reword_canReadMessage] at hp
      exact hp.1.2
    · rw [reword_canReadMessage]
      rfl
  unfold savedItems
  rw [hquery]

lemma reword_reminders : (db.reword c member.historyStartSeq content).remindersOf viewer clock =
    db.remindersOf viewer clock := by
  have hquery : (db.reword c member.historyStartSeq content).remindersQuery viewer clock =
      db.remindersQuery viewer clock := by
    unfold remindersQuery
    simp only [reword_canReadMessage]
    rfl
  unfold remindersOf
  rw [hquery]
  dsimp only
  congr 1
  refine List.flatMap_congr fun r hr => ?_
  have hadmitted := Query.mem_of_mem_run (List.mem_filter.mp hr).1
  have hread : (r.messageId.all fun m => db.canReadMessage clock m viewer) = true := by
    have := (List.mem_filter.mp hadmitted).2
    simp only [Bool.and_eq_true] at this
    exact this.2
  cases hid : r.messageId with
  | none => rfl
  | some id =>
    rw [hid, Option.all_some] at hread
    rw [Option.bind_some, Option.bind_some, reword_find]
    cases hm : db.messages.find id with
    | none => rfl
    | some m =>
      have hmid : m.id = id := KeyedTable.find_key hm
      rw [Option.map_some, touch_readable hmember hleft hm (hmid ▸ hread)]

lemma reword_activity : (db.reword c member.historyStartSeq content).activity viewer clock =
    db.activity viewer clock := by
  have hmessages : (db.reword c member.historyStartSeq content).activityMessages viewer clock =
      db.activityMessages viewer clock := by
    unfold activityMessages
    congr 1
    · congr 1
      unfold select
      rw [reword_rows]
      refine filter_map_of_fixed (fun m hm hp => ?_) fun m hm => ?_
      · simp only [Bool.and_eq_true] at hp
        exact touch_readable hmember hleft (KeyedTable.find_eq_some.mpr ⟨hm, rfl⟩) hp.2
      · rw [reword_canReadMessage, touch_id]
        cases hc : db.canReadMessage clock m.id viewer with
        | false => simp only [Bool.and_false]
        | true =>
          rw [touch_readable hmember hleft (KeyedTable.find_eq_some.mpr ⟨hm, rfl⟩) hc]
          have hparent : ((m.replyToId.or m.threadRootId).bind
              (db.reword c member.historyStartSeq content).messages.find).any (fun parent =>
                parent.senderId = some viewer) =
              ((m.replyToId.or m.threadRootId).bind db.messages.find).any fun parent =>
                parent.senderId = some viewer := by
            cases m.replyToId.or m.threadRootId with
            | none => rfl
            | some id =>
              rw [Option.bind_some, Option.bind_some, reword_find]
              cases db.messages.find id with
              | none => rfl
              | some parent =>
                have hsender : (touch c member.historyStartSeq content parent).senderId =
                    parent.senderId := touch_column (fun _ _ => rfl) parent
                rw [Option.map_some, Option.any_some, Option.any_some, hsender]
          rw [hparent]
          rfl
    · congr 1
      refine @reword_readable db viewer clock c content member hmember hleft _ db.pinnedMessages.rows
        PinnedMessage.messageId _ _ (fun r hp => ?_) (fun r hp => ?_) fun r => ?_
      · simp only [Bool.and_eq_true] at hp
        exact hp.2
      · simp only [Bool.and_eq_true, reword_canReadMessage] at hp
        exact hp.2
      · rw [reword_canReadMessage]
        rfl
  have hquery : (db.reword c member.historyStartSeq content).activityQuery viewer clock =
      db.activityQuery viewer clock := by
    unfold activityQuery
    rw [hmessages]
    rfl
  unfold activity
  rw [hquery]

end Readable

theorem reword_respond {member : ConversationMember}
    (hmember : db.tables.memberRow c viewer = some member) (hleft : member.leftAt = none)
    (op : Operation) (h : ∀ l, db.rows viewer clock op = .ok l →
      ∀ m ∈ l, ¬ Below c member.historyStartSeq m ∧ ¬ db.Quotes viewer c member.historyStartSeq m) :
    (db.reword c member.historyStartSeq content).respond viewer clock op =
      db.respond viewer clock op := by
  have hhydrate : ∀ l, db.rows viewer clock op = .ok l →
      (db.reword c member.historyStartSeq content).hydrateMany viewer
        (l.map (touch c member.historyStartSeq content)) = db.hydrateMany viewer l := fun l hl =>
    reword_hydrateMany (fun m hm => (h l hl m hm).1) fun m hm => (h l hl m hm).2
  have htables : (db.reword c member.historyStartSeq content).tables = db.tables := rfl
  cases op with
  | history id opts =>
    dsimp only [respond, history, rows] at hhydrate ⊢
    rw [htables]
    cases hperm : db.tables.requirePermission id viewer Permissions.Permission.readHistory clock with
    | error e => rfl
    | ok ctx =>
      rw [hperm] at hhydrate
      have hh := hhydrate _ rfl
      simp only [bind, Except.bind, pure, Except.pure, reword_historyRows, List.length_map, hh]
  | get id =>
    dsimp only [respond, get, rows] at h hhydrate ⊢
    have hfind : ((db.reword c member.historyStartSeq content).messages.find id).filter
        ((db.reword c member.historyStartSeq content).notDeletedForViewer viewer) =
        ((db.messages.find id).filter (db.notDeletedForViewer viewer)).map
          (touch c member.historyStartSeq content) := by
      rw [reword_find]
      cases db.messages.find id with
      | none => rfl
      | some m =>
        rw [Option.map_some, Option.filter_some, Option.filter_some, reword_notDeletedForViewer]
        split_ifs <;> rfl
    rw [hfind]
    cases hrow : (db.messages.find id).filter (db.notDeletedForViewer viewer) with
    | none => rfl
    | some row =>
      rw [hrow] at hhydrate
      dsimp only [Option.map_some] at hhydrate ⊢
      rw [htables, touch_conversationId]
      cases hperm : db.tables.requirePermission row.conversationId viewer
          Permissions.Permission.readHistory clock with
      | error e => rfl
      | ok ctx =>
        rw [hperm] at hhydrate
        have hh := hhydrate [row] rfl
        simp only [List.map_cons, List.map_nil] at hh
        simp only [bind, Except.bind, pure, Except.pure, hh]
  | thread id root limit after =>
    dsimp only [respond, thread, rows] at hhydrate ⊢
    rw [htables]
    cases hperm : db.tables.requirePermission id viewer Permissions.Permission.readHistory clock with
    | error e => rfl
    | ok ctx =>
      rw [hperm] at hhydrate
      have hh := hhydrate _ rfl
      simp only [bind, Except.bind, pure, Except.pure, reword_thread, List.length_map, hh]
  | pins id =>
    dsimp only [respond, pins, rows] at hhydrate ⊢
    rw [htables]
    cases hperm : db.tables.requirePermission id viewer Permissions.Permission.viewConversation clock with
    | error e => rfl
    | ok ctx =>
      rw [hperm] at hhydrate
      have hh := hhydrate _ rfl
      rw [List.map_map] at hh
      simp only [bind, Except.bind, pure, Except.pure, reword_pins, List.map_map]
      exact congrArg Except.ok (congrArg (fun l => Response.mk l [] _) hh)
  | gallery id type limit before =>
    dsimp only [respond, gallery, rows] at hhydrate ⊢
    rw [htables]
    cases hperm : db.tables.requirePermission id viewer Permissions.Permission.readHistory clock with
    | error e => rfl
    | ok ctx =>
      rw [hperm] at hhydrate
      have hh := hhydrate _ rfl
      have hlast : ∀ l : List Message, (l.map (touch c member.historyStartSeq content)).getLast?.map
          Message.seq = l.getLast?.map Message.seq := by
        intro l
        rw [List.getLast?_map, Option.map_map]
        exact Option.map_congr fun m _ => touch_seq
      simp only [bind, Except.bind, pure, Except.pure, reword_gallery, hlast, hh]
  | mediaWall id limit before =>
    dsimp only [respond, mediaWall, rows] at hhydrate ⊢
    rw [htables]
    cases hperm : db.tables.requirePermission id viewer Permissions.Permission.readHistory clock with
    | error e => rfl
    | ok ctx =>
      rw [hperm] at hhydrate
      have hh := hhydrate _ rfl
      simp only [bind, Except.bind, pure, Except.pure, reword_media, List.length_map, hh]
  | catchUp id =>
    dsimp only [respond, catchUp, rows] at hhydrate ⊢
    rw [htables]
    cases hperm : db.tables.requirePermission id viewer Permissions.Permission.readHistory clock with
    | error e => rfl
    | ok ctx =>
      rw [hperm] at hhydrate
      simp only [bind, Except.bind, pure, Except.pure] at hhydrate ⊢
      split_ifs at hhydrate ⊢
      · rfl
      · have hh := hhydrate _ rfl
        rw [List.map_append] at hh
        simp only [reword_counts, reword_catchUpMedia, reword_named, List.map_map, List.length_map]
        have hmedia : ((fun r : Message × Attachment => (r.2.mediaId, r.1.id, r.1.seq)) ∘
            fun r : Message × Attachment => (touch c member.historyStartSeq content r.1, r.2)) =
              fun r => (r.2.mediaId, r.1.id, r.1.seq) := by
          funext r
          simp
        rw [hmedia]
        exact congrArg Except.ok (congrArg (fun l => Response.mk l [] _) hh)
  | saved limit =>
    dsimp only [respond, rows] at hhydrate ⊢
    have hh := hhydrate _ rfl
    rw [List.map_map] at hh
    unfold saved
    simp only [reword_saved, List.map_map, List.length_map]
    exact congrArg Except.ok (congrArg (fun l => Response.mk l [] _) hh)
  | savedItems chosen => exact congrArg Except.ok (reword_savedItems hmember hleft chosen)
  | reminders => exact congrArg Except.ok (reword_reminders hmember hleft)
  | activity => exact congrArg Except.ok (reword_activity hmember hleft)

end Rows

/-! ## Reach -/

section Reach
variable (db : Database) (viewer : Uuid) (clock : Time)

/-- The message is one that the operation's query admits, with fewer than the limit of those before
it in the query's order. -/
def Reaches : Operation → Message → Prop
  | .history conversationId opts, m => ∃ ctx, db.tables.requirePermission conversationId viewer
      Permissions.Permission.readHistory clock = .ok ctx ∧
      ∃ q ∈ db.historyQueries viewer conversationId ctx.member.historyStartSeq opts, q.1.Shows m
  | .get messageId, m => db.messages.find messageId = some m ∧ db.notDeletedForViewer viewer m = true ∧
      ∃ ctx, db.tables.requirePermission m.conversationId viewer Permissions.Permission.readHistory
        clock = .ok ctx
  | .thread conversationId root limit after, m => (∃ ctx, db.tables.requirePermission conversationId
      viewer Permissions.Permission.readHistory clock = .ok ctx) ∧
      (db.threadQuery viewer conversationId root limit after).Shows m
  | .pins conversationId, m => (∃ ctx, db.tables.requirePermission conversationId viewer
      Permissions.Permission.viewConversation clock = .ok ctx) ∧
      ∃ p, (db.pinsQuery viewer conversationId).Shows (p, m)
  | .gallery conversationId type limit before, m => (∃ ctx, db.tables.requirePermission conversationId
      viewer Permissions.Permission.readHistory clock = .ok ctx) ∧
      (db.galleryQuery viewer conversationId type limit before).Shows m
  | .mediaWall conversationId limit before, m => ∃ ctx, db.tables.requirePermission conversationId
      viewer Permissions.Permission.readHistory clock = .ok ctx ∧
      (db.mediaQuery viewer conversationId ctx.member.historyStartSeq limit before).Shows m
  | .catchUp conversationId, m => ∃ ctx, db.tables.requirePermission conversationId viewer
      Permissions.Permission.readHistory clock = .ok ctx ∧
      max ctx.member.lastReadSeq ctx.member.historyStartSeq < ctx.conversation.messageSeq ∧
      ((∃ x, (db.mentionsQuery viewer conversationId
          (max ctx.member.lastReadSeq ctx.member.historyStartSeq)).Shows x ∧
        db.messages.find x.messageId = some m) ∨
      ∃ p, (db.newPinsQuery conversationId ctx.member.lastReadAt).Shows p ∧
        db.messages.find p.messageId = some m)
  | .saved limit, m => ∃ s, (db.savedQuery viewer (min (max 1 limit) 100)).Shows (s, m)
  | .savedItems _, _ | .reminders, _ | .activity, _ => False

variable {db viewer clock}

lemma nodup_select (p : Message → Bool) : ((db.select p).map Message.id).Nodup :=
  db.messages.nodup.sublist (List.filter_sublist.map _)

lemma strict_newestFirst (p : Message → Bool) (n : ℕ) : (newestFirst (db.select p) n).Strict := by
  refine Query.strict_of_key (nodup_select p) fun r _ r' _ he => ?_
  simpa [newestFirst] using (List.cons.inj (List.cons.inj he).2).1

lemma strict_oldestFirst (p : Message → Bool) (n : ℕ) : (oldestFirst (db.select p) n).Strict := by
  refine Query.strict_of_key (nodup_select p) fun r _ r' _ he => ?_
  simpa [oldestFirst] using (List.cons.inj (List.cons.inj he).2).1

lemma strict_history (conversationId floor : ℕ) (opts : HistoryOptions) :
    ∀ q ∈ db.historyQueries viewer conversationId floor opts, q.1.Strict := by
  intro q hq
  unfold historyQueries at hq
  dsimp only at hq
  split at hq
  · rcases List.mem_cons.mp hq with rfl | hq
    · exact strict_newestFirst _ _
    · obtain rfl := List.mem_singleton.mp hq
      exact strict_oldestFirst _ _
  · split at hq
    · obtain rfl := List.mem_singleton.mp hq
      exact strict_oldestFirst _ _
    · obtain rfl := List.mem_singleton.mp hq
      exact strict_newestFirst _ _

lemma mem_historyRows {conversationId floor : ℕ} {opts : HistoryOptions} {m : Message} :
    m ∈ db.historyRows viewer conversationId floor opts ↔
      ∃ q ∈ db.historyQueries viewer conversationId floor opts, q.1.Shows m := by
  unfold historyRows
  rw [List.mem_flatMap]
  refine exists_congr fun q => and_congr_right fun hq => ?_
  have hrun := @Query.mem_run _ _ _ q.1 m (strict_history conversationId floor opts q hq)
  split_ifs
  · rw [List.mem_reverse, hrun]
  · exact hrun

lemma historyQueries_base {conversationId floor : ℕ} {opts : HistoryOptions}
    {q : Query Message (List ℤ) × Bool} {m : Message}
    (hq : q ∈ db.historyQueries viewer conversationId floor opts) (hm : m ∈ q.1.admitted) :
    m ∈ db.messages.rows ∧
      db.historyBase viewer conversationId floor opts.includeDeleted m = true := by
  have hand : ∀ {p : Message → Bool}, m ∈ db.select (fun m =>
      db.historyBase viewer conversationId floor opts.includeDeleted m && p m) →
      m ∈ db.messages.rows ∧ db.historyBase viewer conversationId floor opts.includeDeleted m = true :=
    fun hm => ⟨(List.mem_filter.mp hm).1, (Bool.and_eq_true_iff.mp (List.mem_filter.mp hm).2).1⟩
  unfold historyQueries at hq
  dsimp only at hq
  split at hq
  · rcases List.mem_cons.mp hq with rfl | hq
    · exact hand hm
    · obtain rfl := List.mem_singleton.mp hq
      exact hand hm
  · split at hq
    · obtain rfl := List.mem_singleton.mp hq
      exact hand hm
    · obtain rfl := List.mem_singleton.mp hq
      exact hand hm

lemma nodup_join {ρ κ : Type} {rows : List ρ} {messageId : ρ → Uuid} {key : ρ → κ}
    (hn : (rows.map key).Nodup) (p : ρ × Message → Bool) :
    (((db.join rows messageId).filter p).map fun r => key r.1).Nodup := by
  have hjoin : List.Sublist ((db.join rows messageId).map Prod.fst) rows := by
    unfold join
    induction rows with
    | nil => exact List.Sublist.refl _
    | cons r rows ih =>
      rw [List.flatMap_cons, List.map_append]
      have ih := ih (List.nodup_cons.mp hn).2
      cases db.messages.find (messageId r) with
      | none => exact ih.cons r
      | some m => exact ih.cons_cons r
  have hmap : ((db.join rows messageId).map fun r => key r.1) =
      ((db.join rows messageId).map Prod.fst).map key := by rw [List.map_map]; rfl
  have hall : ((db.join rows messageId).map fun r => key r.1).Nodup :=
    hmap ▸ hn.sublist (hjoin.map key)
  exact hall.sublist (List.filter_sublist.map _)

lemma strict_pins (conversationId : Uuid) : (db.pinsQuery viewer conversationId).Strict := by
  refine Query.strict_of_key (nodup_join db.pinnedMessages.nodup _) fun r hr r' hr' he => ?_
  have hc := (List.mem_filter.mp hr).2
  have hc' := (List.mem_filter.mp hr').2
  simp only [Bool.and_eq_true, decide_eq_true_eq] at hc hc'
  have hid : r.1.messageId = r'.1.messageId := by
    simpa [pinsQuery] using (List.cons.inj (List.cons.inj (List.cons.inj he).2).2).1
  exact Prod.ext (hc.1.1.trans hc'.1.1.symm) hid

lemma strict_saved (limit : ℕ) : (db.savedQuery viewer limit).Strict := by
  refine Query.strict_of_key (nodup_join db.savedMessages.nodup _) fun r hr r' hr' he => ?_
  have hu := (List.mem_filter.mp hr).2
  have hu' := (List.mem_filter.mp hr').2
  simp only [Bool.and_eq_true, decide_eq_true_eq] at hu hu'
  have hid : r.1.messageId = r'.1.messageId := by
    simpa [savedQuery] using (List.cons.inj (List.cons.inj he).2).1
  exact Prod.ext (hu.1.1.1.1.trans hu'.1.1.1.1.symm) hid

lemma strict_mentions (conversationId since : ℕ) :
    (db.mentionsQuery viewer conversationId since).Strict := by
  refine Query.strict_of_key (db.messageMentions.nodup.sublist (List.filter_sublist.map _))
    fun r hr r' hr' he => ?_
  have hu := (List.mem_filter.mp hr).2
  have hu' := (List.mem_filter.mp hr').2
  simp only [Bool.and_eq_true, decide_eq_true_eq] at hu hu'
  have hid : r.messageId = r'.messageId := by
    simpa [mentionsQuery] using (List.cons.inj (List.cons.inj he).2).1
  exact Prod.ext hid (hu.1.1.trans hu'.1.1.symm)

lemma strict_newPins (conversationId : Uuid) (lastReadAt : Option Time) :
    (db.newPinsQuery conversationId lastReadAt).Strict := by
  refine Query.strict_of_key (db.pinnedMessages.nodup.sublist (List.filter_sublist.map _))
    fun r hr r' hr' he => ?_
  have hc := (List.mem_filter.mp hr).2
  have hc' := (List.mem_filter.mp hr').2
  simp only [Bool.and_eq_true, decide_eq_true_eq] at hc hc'
  have hid : r.messageId = r'.messageId := by
    simpa [newPinsQuery] using (List.cons.inj (List.cons.inj he).2).1
  exact Prod.ext (hc.1.trans hc'.1.symm) hid

lemma mem_named {ρ : Type} {rows : List ρ} {messageId : ρ → Uuid} {m : Message} :
    m ∈ db.named rows messageId ↔ ∃ r ∈ rows, db.messages.find (messageId r) = some m := by
  unfold named
  rw [List.mem_filterMap]

lemma reaches_iff {op : Operation} {m : Message} :
    db.Reaches viewer clock op m ↔ ∃ l, db.rows viewer clock op = .ok l ∧ m ∈ l := by
  cases op with
  | history id opts =>
    dsimp only [Reaches, rows]
    cases db.tables.requirePermission id viewer Permissions.Permission.readHistory clock with
    | error e => simp [bind, Except.bind]
    | ok ctx => simp [bind, Except.bind, pure, Except.pure, mem_historyRows]
  | get id =>
    dsimp only [Reaches, rows]
    cases hm : db.messages.find id with
    | none => simp
    | some row =>
      cases hv : db.notDeletedForViewer viewer row with
      | false =>
        simp only [Option.filter_some, hv]
        constructor
        · rintro ⟨he, hvm, -⟩
          obtain rfl := Option.some.inj he
          rw [hv] at hvm
          cases hvm
        · rintro ⟨l, hl, -⟩
          cases hl
      | true =>
        simp only [Option.filter_some, hv, if_true]
        cases hperm : db.tables.requirePermission row.conversationId viewer
            Permissions.Permission.readHistory clock with
        | error e =>
          constructor
          · rintro ⟨he, -, ctx, hctx⟩
            obtain rfl := Option.some.inj he
            rw [hperm] at hctx
            cases hctx
          · rintro ⟨l, hl, -⟩
            cases hl
        | ok ctx =>
          constructor
          · rintro ⟨he, -, -⟩
            exact ⟨[row], rfl, List.mem_singleton.mpr (Option.some.inj he).symm⟩
          · rintro ⟨l, hl, hmem⟩
            obtain rfl := Except.ok.inj hl
            obtain rfl := List.mem_singleton.mp hmem
            exact ⟨rfl, hv, ctx, hperm⟩
  | thread id root limit after =>
    dsimp only [Reaches, rows]
    have hrun := @Query.mem_run _ _ _ (db.threadQuery viewer id root limit after) m
      (strict_oldestFirst _ _)
    cases db.tables.requirePermission id viewer Permissions.Permission.readHistory clock with
    | error e => simp [bind, Except.bind]
    | ok ctx => simp [bind, Except.bind, pure, Except.pure, hrun]
  | pins id =>
    dsimp only [Reaches, rows]
    have hrun := fun p => @Query.mem_run _ _ _ (db.pinsQuery viewer id) (p, m) (strict_pins id)
    cases db.tables.requirePermission id viewer Permissions.Permission.viewConversation clock with
    | error e => simp [bind, Except.bind]
    | ok ctx => simp [bind, Except.bind, pure, Except.pure, hrun]
  | gallery id type limit before =>
    dsimp only [Reaches, rows]
    have hrun := @Query.mem_run _ _ _ (db.galleryQuery viewer id type limit before) m
      (strict_newestFirst _ _)
    cases db.tables.requirePermission id viewer Permissions.Permission.readHistory clock with
    | error e => simp [bind, Except.bind]
    | ok ctx => simp [bind, Except.bind, pure, Except.pure, hrun]
  | mediaWall id limit before =>
    dsimp only [Reaches, rows]
    have hrun := fun floor => @Query.mem_run _ _ _ (db.mediaQuery viewer id floor limit before) m
      (strict_newestFirst _ _)
    cases db.tables.requirePermission id viewer Permissions.Permission.readHistory clock with
    | error e => simp [bind, Except.bind]
    | ok ctx => simp [bind, Except.bind, pure, Except.pure, hrun]
  | catchUp id =>
    dsimp only [Reaches, rows]
    have hmentions := fun since x => @Query.mem_run _ _ _ (db.mentionsQuery viewer id since) x
      (strict_mentions id since)
    have hpins := fun t p => @Query.mem_run _ _ _ (db.newPinsQuery id t) p (strict_newPins id t)
    cases db.tables.requirePermission id viewer Permissions.Permission.readHistory clock with
    | error e => simp [bind, Except.bind]
    | ok ctx =>
      simp only [bind, Except.bind, pure, Except.pure, Except.ok.injEq, exists_eq_left']
      split_ifs with hle
      · simp [Nat.not_lt.mpr hle]
      · simp [Nat.not_le.mp hle, mem_named, hmentions, hpins]
  | saved limit =>
    dsimp only [Reaches, rows]
    have hrun := fun s => @Query.mem_run _ _ _ (db.savedQuery viewer (min (max 1 limit) 100)) (s, m)
      (strict_saved _)
    simp [hrun]
  | savedItems chosen => simp [Reaches, rows]
  | reminders => simp [Reaches, rows]
  | activity => simp [Reaches, rows]

end Reach

end Database

end Yappy.Reads
