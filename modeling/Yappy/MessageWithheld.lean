import Yappy.MessageFloor

/-!
# What newcomers are not told

For every way to read messages, exactly when it tells a member nothing of what was said up to the
floor.
-/
namespace Yappy.Reads

open Deletion (Preview buildPreview)
open Markdown (Text)
open Pages (Query)
open Permissions (AppError ConversationMember MemberContext Time Uuid)

def Rest.mediaMessages : Rest → List Uuid
  | .catchUp _ _ _ _ _ pictures _ => pictures.map fun r => r.2.1
  | _ => []

namespace Database

/-- The answer returns no message of the conversation at or below the floor, and would be the same
whatever those messages say. -/
structure Withheld (db : Database) (viewer : Uuid) (clock : Time) (c : Uuid) (f : ℕ)
    (op : Operation) : Prop where
  messages : ∀ r, db.respond viewer clock op = .ok r → ∀ h ∈ r.messages, ¬ Below c f h.message
  excerpts : ∀ r, db.respond viewer clock op = .ok r →
    ∀ e ∈ r.excerpts, ¬ (e.conversationId = c ∧ e.seq ≤ f)
  media : ∀ r, db.respond viewer clock op = .ok r → ∀ id ∈ r.rest.mediaMessages, ∀ m,
    db.messages.find id = some m → ¬ Below c f m
  contents : ∀ content, (db.reword c f content).respond viewer clock op = db.respond viewer clock op

/-- What keeps each operation to the floor. History counts from above it, so only a quote can tell
what is below; the media wall takes in the message at the floor itself; `can_read_message` lets
nothing through; the rest has no floor. -/
def Discreet (db : Database) (viewer : Uuid) (clock : Time) (c : Uuid) (f : ℕ) : Operation → Prop
  | .history conversationId opts => ∀ m, db.Reaches viewer clock (.history conversationId opts) m →
      ¬ db.Quotes viewer c f m
  | .mediaWall conversationId limit before =>
    ∀ m, db.Reaches viewer clock (.mediaWall conversationId limit before) m →
      ¬ (m.conversationId = c ∧ m.seq = f) ∧ ¬ db.Quotes viewer c f m
  | .savedItems _ | .reminders | .activity => True
  | op => ∀ m, db.Reaches viewer clock op m → ¬ Below c f m ∧ ¬ db.Quotes viewer c f m

def Plain (r : Response) : Prop := r.excerpts = [] ∧ r.rest.mediaMessages = []

lemma plain_bind {α : Type} {x : Except AppError α} {answer : α → Response} {r : Response}
    (ha : ∀ a, Plain (answer a)) (h : (x >>= fun a => pure (answer a)) = .ok r) : Plain r := by
  cases x with
  | error e => cases h
  | ok a =>
    obtain rfl := Except.ok.inj h
    exact ha a

lemma respond_plain {db : Database} {viewer : Uuid} {clock : Time} {op : Operation} {r : Response}
    (h : db.respond viewer clock op = .ok r) :
    match op with
    | .catchUp _ => r.excerpts = []
    | .saved _ | .savedItems _ | .reminders | .activity => True
    | _ => Plain r := by
  cases op with
  | history id opts => exact plain_bind (fun _ => ⟨rfl, rfl⟩) h
  | get id =>
    dsimp only [respond, get] at h ⊢
    split at h
    · cases h
    · exact plain_bind (fun _ => ⟨rfl, rfl⟩) h
  | thread id root limit after => exact plain_bind (fun _ => ⟨rfl, rfl⟩) h
  | pins id => exact plain_bind (fun _ => ⟨rfl, rfl⟩) h
  | gallery id type limit before => exact plain_bind (fun _ => ⟨rfl, rfl⟩) h
  | mediaWall id limit before => exact plain_bind (fun _ => ⟨rfl, rfl⟩) h
  | catchUp id =>
    dsimp only [respond, catchUp] at h ⊢
    cases hctx : db.tables.requirePermission id viewer Permissions.Permission.readHistory clock with
    | error e =>
      rw [hctx] at h
      cases h
    | ok ctx =>
      rw [hctx] at h
      simp only [bind, Except.bind, pure, Except.pure] at h
      split_ifs at h
      · obtain rfl := Except.ok.inj h
        rfl
      · obtain rfl := Except.ok.inj h
        rfl
  | saved | savedItems | reminders | activity => trivial

section Floors
variable {db : Database} {viewer c : Uuid} {clock : Time} {member : ConversationMember}
  (hmember : db.tables.memberRow c viewer = some member)
include hmember

lemma context_floor {permission : ℕ} {ctx : MemberContext}
    (h : db.tables.requirePermission c viewer permission clock = .ok ctx) :
    ctx.member.historyStartSeq = member.historyStartSeq := by
  obtain ⟨conversation, authority, hc, -, -, -, -, hm, -, -⟩ :=
    Permissions.Database.loadMemberContext_eq_some.mp
      (Permissions.Database.requirePermission_eq_ok.mp h).1
  have hid : conversation.id = c := KeyedTable.find_key hc
  rw [hm, hid, hmember]
  rfl

lemma history_above {id : Uuid} {opts : HistoryOptions} {m : Message}
    (h : db.Reaches viewer clock (.history id opts) m) : ¬ Below c member.historyStartSeq m := by
  obtain ⟨ctx, hctx, q, hq, hadmitted, -⟩ := h
  have hbase := (historyQueries_base hq hadmitted).2
  unfold historyBase at hbase
  simp only [Bool.and_eq_true, decide_eq_true_eq] at hbase
  rintro ⟨hc, hseq⟩
  have hid : id = c := hbase.1.1.1.symm.trans hc
  subst hid
  rw [context_floor hmember hctx] at hbase
  omega

lemma mediaWall_floor {id : Uuid} {limit : ℕ} {before : Option ℕ} {m : Message}
    (h : db.Reaches viewer clock (.mediaWall id limit before) m)
    (hb : Below c member.historyStartSeq m) : m.seq = member.historyStartSeq := by
  obtain ⟨ctx, hctx, hadmitted, -⟩ := h
  have hm := (List.mem_filter.mp hadmitted).2
  simp only [Bool.and_eq_true, decide_eq_true_eq] at hm
  obtain ⟨hc, hseq⟩ := hb
  have hid : id = c := hm.1.1.1.1.1.symm.trans hc
  subst hid
  rw [context_floor hmember hctx] at hm
  omega

lemma discreet_iff (op : Operation) :
    db.Discreet viewer clock c member.historyStartSeq op ↔ ∀ m, db.Reaches viewer clock op m →
      ¬ Below c member.historyStartSeq m ∧ ¬ db.Quotes viewer c member.historyStartSeq m := by
  cases op with
  | history id opts =>
    exact ⟨fun h m hm => ⟨history_above hmember hm, h m hm⟩, fun h m hm => (h m hm).2⟩
  | mediaWall id limit before =>
    constructor
    · intro h m hm
      obtain ⟨hat, hquote⟩ := h m hm
      exact ⟨fun hb => hat ⟨hb.1, mediaWall_floor hmember hm hb⟩, hquote⟩
    · intro h m hm
      obtain ⟨hbelow, hquote⟩ := h m hm
      exact ⟨fun hat => hbelow ⟨hat.1, hat.2.le⟩, hquote⟩
  | savedItems | reminders | activity => exact ⟨fun _ m hm => hm.elim, fun _ => trivial⟩
  | get | thread | pins | gallery | catchUp | saved => exact Iff.rfl

lemma catchUpMedia_above {id : Uuid} {ctx : MemberContext} {r : Message × Attachment} {scanFrom : ℕ}
    (hctx : db.tables.requirePermission id viewer Permissions.Permission.readHistory clock = .ok ctx)
    (hscan : ctx.member.historyStartSeq ≤ scanFrom)
    (hr : r ∈ (db.catchUpMediaQuery viewer id scanFrom).run) :
    ¬ Below c member.historyStartSeq r.1 := by
  rintro ⟨hc, hseq⟩
  have hp := (List.mem_filter.mp (Query.mem_of_mem_run hr)).2
  simp only [Bool.and_eq_true, decide_eq_true_eq] at hp
  have hid : id = c := hp.1.1.1.1.1.1.symm.trans hc
  subst hid
  have hfloor := context_floor hmember hctx
  have := hp.1.1.1.1.1.2
  omega

lemma catchUp_media {op : Operation} {r : Response} (h : db.respond viewer clock op = .ok r) :
    ∀ id ∈ r.rest.mediaMessages, ∀ m, db.messages.find id = some m →
      ¬ Below c member.historyStartSeq m := by
  intro messageId hmem m hm
  cases op with
  | catchUp id =>
    dsimp only [respond, catchUp] at h
    cases hctx : db.tables.requirePermission id viewer Permissions.Permission.readHistory clock with
    | error e =>
      rw [hctx] at h
      cases h
    | ok ctx =>
      rw [hctx] at h
      simp only [bind, Except.bind, pure, Except.pure] at h
      split_ifs at h
      · obtain rfl := Except.ok.inj h
        cases hmem
      · obtain rfl := Except.ok.inj h
        obtain ⟨x, hx, rfl⟩ := List.mem_map.mp hmem
        obtain ⟨y, hy, rfl⟩ := List.mem_map.mp hx
        have hrow := (List.mem_filter.mp (Query.mem_of_mem_run hy)).1
        obtain ⟨m', hm', hpair⟩ := List.mem_flatMap.mp hrow
        obtain ⟨a, -, rfl⟩ := List.mem_map.mp hpair
        have hfind : db.messages.find m'.id = some m' := KeyedTable.find_eq_some.mpr ⟨hm', rfl⟩
        dsimp only at hm
        rw [hfind] at hm
        obtain rfl := Option.some.inj hm
        exact catchUpMedia_above hmember hctx
          ((le_max_right _ _).trans (le_max_left _ _)) hy
  | saved | savedItems | reminders | activity =>
    obtain rfl := Except.ok.inj h
    cases hmem
  | history | get | thread | pins | gallery | mediaWall =>
    rw [(respond_plain h).2] at hmem
    cases hmem

variable (hleft : member.leftAt = none)
include hleft

lemma excerpt_above {id : Uuid} {m : Message} {length : ℕ} {fallback : String}
    (hm : db.messages.find id = some m) (h : db.canReadMessage clock m.id viewer = true) :
    ¬ ((excerpt length fallback m).conversationId = c ∧
      (excerpt length fallback m).seq ≤ member.historyStartSeq) := by
  have hid : m.id = id := KeyedTable.find_key hm
  rw [← hid] at hm
  exact canReadMessage_above hmember hleft hm h

lemma excerpts_above {op : Operation} {r : Response} (h : db.respond viewer clock op = .ok r) :
    ∀ e ∈ r.excerpts, ¬ (e.conversationId = c ∧ e.seq ≤ member.historyStartSeq) := by
  intro e he
  cases op with
  | savedItems chosen =>
    obtain rfl := Except.ok.inj h
    obtain ⟨x, hx, rfl⟩ := List.mem_map.mp he
    obtain ⟨hjoin, hp⟩ := List.mem_filter.mp (Query.mem_of_mem_run hx)
    simp only [Bool.and_eq_true] at hp
    exact excerpt_above hmember hleft (mem_join.mp hjoin).2 hp.1.2
  | reminders =>
    obtain rfl := Except.ok.inj h
    obtain ⟨x, hx, hxe⟩ := List.mem_flatMap.mp he
    rw [Option.mem_toList, Option.map_eq_some_iff] at hxe
    obtain ⟨m, hm, rfl⟩ := hxe
    obtain ⟨id, hid, hfind⟩ := Option.bind_eq_some_iff.mp hm
    have hp := (List.mem_filter.mp (Query.mem_of_mem_run (List.mem_filter.mp hx).1)).2
    simp only [Bool.and_eq_true, hid, Option.all_some] at hp
    have hmid : m.id = id := KeyedTable.find_key hfind
    exact excerpt_above hmember hleft hfind (hmid ▸ hp.2)
  | activity =>
    obtain rfl := Except.ok.inj h
    obtain ⟨m, hm, rfl⟩ := List.mem_map.mp he
    obtain ⟨x, hx, hxm⟩ := List.mem_filterMap.mp hm
    obtain ⟨y, hy, rfl⟩ := List.mem_map.mp hx
    rcases List.mem_append.mp (Query.mem_of_mem_run hy) with hy | hy
    · obtain ⟨z, hz, rfl⟩ := List.mem_map.mp hy
      obtain rfl : z.1 = m := Option.some.inj hxm
      rcases List.mem_append.mp hz with hz | hz
      · obtain ⟨m', hm', rfl⟩ := List.mem_map.mp hz
        obtain ⟨hrow, hp⟩ := List.mem_filter.mp hm'
        simp only [Bool.and_eq_true] at hp
        exact excerpt_above hmember hleft (KeyedTable.find_eq_some.mpr ⟨hrow, rfl⟩) hp.2
      · obtain ⟨p, hp, rfl⟩ := List.mem_map.mp hz
        obtain ⟨hjoin, hp⟩ := List.mem_filter.mp hp
        simp only [Bool.and_eq_true] at hp
        exact excerpt_above hmember hleft (mem_join.mp hjoin).2 hp.2
    · obtain ⟨n, -, rfl⟩ := List.mem_map.mp hy
      cases hxm
  | saved =>
    obtain rfl := Except.ok.inj h
    cases he
  | catchUp =>
    rw [respond_plain h] at he
    cases he
  | history | get | thread | pins | gallery | mediaWall =>
    rw [(respond_plain h).1] at he
    cases he

end Floors

/-! ## What a quote gives away -/

section Quotes
variable {db : Database} {viewer c : Uuid} {clock : Time} {f : ℕ} {content : Uuid → Option Text}

lemma reword_bind {α : Type} {x : Except AppError α} {rows rows' : α → List Message}
    (h : ∀ a, rows' a = (rows a).map (touch c f content)) :
    (x >>= fun a => (pure (rows' a) : Except AppError (List Message))) =
      (x >>= fun a => (pure (rows a) : Except AppError (List Message))).map
        (List.map (touch c f content)) := by
  cases x with
  | error e => rfl
  | ok a => exact congrArg Except.ok (h a)

lemma reword_op (op : Operation) :
    (db.reword c f content).rows viewer clock op =
      (db.rows viewer clock op).map (List.map (touch c f content)) := by
  cases op with
  | history id opts => exact reword_bind fun ctx => reword_historyRows id _ opts
  | get id =>
    dsimp only [rows]
    have hfind : ((db.reword c f content).messages.find id).filter
        ((db.reword c f content).notDeletedForViewer viewer) =
        ((db.messages.find id).filter (db.notDeletedForViewer viewer)).map (touch c f content) := by
      rw [reword_find]
      cases db.messages.find id with
      | none => rfl
      | some m =>
        rw [Option.map_some, Option.filter_some, Option.filter_some, reword_notDeletedForViewer]
        split_ifs <;> rfl
    rw [hfind]
    cases (db.messages.find id).filter (db.notDeletedForViewer viewer) with
    | none => rfl
    | some row =>
      dsimp only [Option.map_some]
      rw [touch_conversationId]
      exact reword_bind fun _ => rfl
  | thread id root limit after => exact reword_bind fun _ => reword_thread id root limit after
  | pins id =>
    refine reword_bind fun _ => ?_
    rw [reword_pins, List.map_map, List.map_map]
    rfl
  | gallery id type limit before => exact reword_bind fun _ => reword_gallery id type limit before
  | mediaWall id limit before => exact reword_bind fun ctx => reword_media id _ limit before
  | catchUp id =>
    dsimp only [rows]
    have htables : (db.reword c f content).tables = db.tables := rfl
    rw [htables]
    cases db.tables.requirePermission id viewer Permissions.Permission.readHistory clock with
    | error e => rfl
    | ok ctx =>
      simp only [bind, Except.bind, pure, Except.pure]
      split_ifs
      · rfl
      · rw [reword_named, reword_named, ← List.map_append]
        rfl
  | saved limit =>
    dsimp only [rows]
    rw [reword_saved, List.map_map]
    refine congrArg Except.ok ?_
    rw [List.map_map]
    rfl
  | savedItems | reminders | activity => rfl

lemma preview_text (type : Tables.MessageType) (u : Markdown.CodeUnit)
    (hu : Markdown.isSpace u = false) :
    buildPreview type (some [u]) false none = .text [u] := by
  simp [buildPreview, hu]

lemma not_quotes {m : Message}
    (h : ∀ content, (db.reword c f content).stub viewer m = db.stub viewer m) :
    ¬ db.Quotes viewer c f m := by
  rintro ⟨r, hr, hv, hd, hb⟩
  have hstub : db.stub viewer m =
      some ⟨r.id, r.seq, r.senderId, some (buildPreview r.type r.content false none), r.type⟩ := by
    unfold stub
    rw [hr, Option.filter_some, hv, if_pos rfl, Option.map_some, hd]
    rfl
  have hreword : ∀ t, (db.reword c f fun _ => some t).stub viewer m =
      some ⟨r.id, r.seq, r.senderId, some (buildPreview r.type (some t) false none), r.type⟩ := by
    intro t
    have hfind : m.replyToId.bind (db.reword c f fun _ => some t).messages.find =
        some { r with content := some t } := by
      obtain ⟨id, hid, hfind⟩ := Option.bind_eq_some_iff.mp hr
      rw [hid, Option.bind_some, reword_find, hfind, Option.map_some, touch, if_pos hb]
    have hv' : (db.reword c f fun _ => some t).notDeletedForViewer viewer
        { r with content := some t } = true := hv
    unfold stub
    rw [hfind, Option.filter_some, hv', if_pos rfl, Option.map_some, hd]
    rfl
  have hsame : ∀ t, buildPreview r.type (some t) false none = buildPreview r.type r.content false none := by
    intro t
    have he := h fun _ => some t
    rw [hstub, hreword] at he
    exact Option.some.inj (Stub.mk.inj (Option.some.inj he)).2.2.2.1
  have hcontra := (hsame [65]).trans (hsame [66]).symm
  rw [preview_text r.type 65 (by decide), preview_text r.type 66 (by decide)] at hcontra
  cases hcontra

end Quotes

/-- A read tells a member nothing of what was said up to their floor exactly if it is discreet. -/
theorem withheld_iff {db : Database} {viewer c : Uuid} {clock : Time} {member : ConversationMember}
    (hmember : db.tables.memberRow c viewer = some member) (hleft : member.leftAt = none)
    (op : Operation) :
    db.Withheld viewer clock c member.historyStartSeq op ↔
      db.Discreet viewer clock c member.historyStartSeq op := by
  rw [discreet_iff hmember]
  constructor
  · intro h m hm
    obtain ⟨l, hl, hmem⟩ := reaches_iff.mp hm
    have hanswer : ∃ r, db.respond viewer clock op = .ok r ∧ r.messages = db.hydrateMany viewer l := by
      have hmap := db.respond_messages viewer clock op
      rw [hl] at hmap
      cases hr : db.respond viewer clock op with
      | error e =>
        rw [hr] at hmap
        cases hmap
      | ok r =>
        rw [hr] at hmap
        exact ⟨r, rfl, Except.ok.inj hmap⟩
    obtain ⟨r, hr, hmessages⟩ := hanswer
    have hplace : ∀ m : Message, ∀ s, (toMessage m s).message.conversationId = m.conversationId ∧
        (toMessage m s).message.seq = m.seq := by
      intro m s
      unfold toMessage
      dsimp only
      split_ifs <;> exact ⟨rfl, rfl⟩
    have habove : ∀ m ∈ l, ¬ Below c member.historyStartSeq m := by
      rintro m hm ⟨hc, hseq⟩
      refine h.messages r hr (toMessage m (db.stub viewer m)) ?_ ⟨?_, ?_⟩
      · rw [hmessages]
        exact List.mem_map_of_mem hm
      · exact (hplace m _).1.trans hc
      · rw [(hplace m _).2]
        exact hseq
    refine ⟨habove m hmem, not_quotes fun content => ?_⟩
    have hsame : (db.reword c member.historyStartSeq content).hydrateMany viewer l =
        db.hydrateMany viewer l := by
      have hmap := (db.reword c member.historyStartSeq content).respond_messages viewer clock op
      have htouch : l.map (touch c member.historyStartSeq content) = l :=
        (List.map_congr_left fun m hm => touch_of_not_below (habove m hm)).trans (List.map_id' l)
      rw [h.contents, hr, reword_op, hl] at hmap
      have hmap := Except.ok.inj hmap
      rw [hmessages, htouch] at hmap
      exact hmap.symm
    have hone := List.map_inj_left.mp hsame m hmem
    exact congrArg Hydrated.replyTo hone
  · intro h
    have hrows : ∀ l, db.rows viewer clock op = .ok l → ∀ m ∈ l,
        ¬ Below c member.historyStartSeq m ∧ ¬ db.Quotes viewer c member.historyStartSeq m :=
      fun l hl m hm => h m (reaches_iff.mpr ⟨l, hl, hm⟩)
    refine ⟨fun r hr x hx => ?_, fun r hr => excerpts_above hmember hleft hr,
      fun r hr => catchUp_media hmember hr, fun content => reword_respond hmember hleft op hrows⟩
    have hmap := db.respond_messages viewer clock op
    rw [hr] at hmap
    cases hl : db.rows viewer clock op with
    | error e =>
      rw [hl] at hmap
      cases hmap
    | ok l =>
      rw [hl] at hmap
      rw [Except.ok.inj hmap] at hx
      obtain ⟨m, hm, rfl⟩ := List.mem_map.mp hx
      have hbelow := (hrows l hl m hm).1
      unfold toMessage
      dsimp only
      split_ifs
      · exact hbelow
      · exact hbelow

end Database

namespace Sample

def message (id seq : ℕ) (type : Tables.MessageType) : Message where
  id := id
  conversationId := 1
  seq := seq
  senderId := some 10
  type := type
  content := some [104, 105]
  isEncrypted := false
  replyToId := none
  threadRootId := none
  attachments := []
  createdAt := 0
  expiresAt := none
  deletedAt := none

def tables : Permissions.Database where
  conversations := ⟨[{ Permissions.Sample.conversation 1 .group none with messageSeq := 2 }], by decide⟩
  conversationMembers := ⟨[.new 1 10 .owner 0 0, .new 1 12 .member 0 1], by decide⟩
  conversationRoles := .empty
  memberRoles := .empty
  conversationRoleOverwrites := .empty
  conversationBans := .empty
  users := ⟨[⟨10, false⟩, ⟨12, false⟩], Permissions.Sample.two_users⟩
  applications := .empty
  conversationApps := .empty
  invites := .empty
  assigned_exists := Permissions.Sample.none_assigned
  one_level := by unfold Permissions.OneLevel; decide

def database : Database where
  tables := tables
  messages := ⟨[message 100 1 .image, message 101 2 .text], by decide⟩
  messageDeletions := []
  pinnedMessages := .empty
  messageMentions := .empty
  savedMessages := .empty
  reminders := .empty
  notifications := .empty
  seq_unique := by decide
  mention_placed := by decide

def recent : HistoryOptions := ⟨50, none, none, none, false⟩

end Sample

open Sample

/-- The newcomer's history. -/
theorem withheld_iff_history :
    database.Withheld 12 0 1 (ConversationMember.new 1 12 .member 0 1).historyStartSeq
      (.history 1 recent) := by
  refine (Database.withheld_iff rfl rfl _).mpr fun m hm => ?_
  rintro ⟨r, hr, -⟩
  obtain ⟨id, hid, -⟩ := Option.bind_eq_some_iff.mp hr
  obtain ⟨l, hl, hmem⟩ := Database.reaches_iff.mp hm
  have hall : (match database.rows 12 0 (.history 1 recent) with
      | .ok l => l.all fun m => m.replyToId.isNone
      | .error _ => true) = true := by decide +kernel
  rw [hl] at hall
  have := List.all_eq_true.mp hall m hmem
  rw [hid] at this
  cases this

/-- The gallery shows the newcomer the picture. -/
theorem gallery_tells :
    ¬ ∀ (db : Database) (viewer c : Uuid) (clock : Time) (member : ConversationMember)
      (conversation : Permissions.Conversation),
      db.tables.conversations.find c = some conversation →
      conversation.historyVisibility = "since_join" →
      db.tables.memberRow c viewer = some member → member.leftAt = none →
      ∀ op, db.Withheld viewer clock c member.historyStartSeq op := by
  intro h
  have hw := h database 12 1 0 (.new 1 12 .member 0 1) _ rfl rfl rfl rfl (.gallery 1 .image 50 none)
  have hshown : (match database.respond 12 0 (.gallery 1 .image 50 none) with
      | .ok r => r.messages.any fun h => decide (Below 1 1 h.message)
      | .error _ => false) = true := by decide +kernel
  cases hr : database.respond 12 0 (.gallery 1 .image 50 none) with
  | error e =>
    rw [hr] at hshown
    cases hshown
  | ok r =>
    rw [hr] at hshown
    obtain ⟨x, hx, hbelow⟩ := List.any_eq_true.mp hshown
    exact hw.messages r hr x hx (of_decide_eq_true hbelow)

end Yappy.Reads
