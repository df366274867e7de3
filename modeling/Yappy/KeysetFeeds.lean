import Yappy.CivilTime
import Yappy.KeysetPages
import Yappy.PermissionAccess
import Yappy.Tables

/-!
# Feeds that go on from the last row's key

`GET /notifications` of `apps/api/src/routes/social.ts` with `notificationCursorBefore` of
`apps/api/src/lib/notificationCursor.ts`, and `GET /:id/posts` of `apps/api/src/routes/conversations.ts`.
Timestamps are in microseconds since 1970. What each row is dressed with is left out.
-/
namespace Yappy.KeysetFeeds

open CivilTime (Civil)
open Pages (Follows Keyset descending)
open Permissions (AppError Time Uuid)
open Tables (MessageType)

abbrev Text := List Char

structure Driver where
  /-- A `timestamptz` as a raw query hands it back. -/
  text : ℕ → Text
  timestamptz : Text → Option ℕ
  uuidText : Uuid → Text
  uuid : Text → Option Uuid
  datetime : Text → Bool
  /-- `z.string().uuid()` -/
  isUuid : Text → Bool

inductive Failure
  | app (e : AppError)
  /-- What a `ZodError` is answered with. -/
  | validationFailed
  | invalidText
  deriving DecidableEq

structure Notification where
  id : Uuid
  userId : Uuid
  createdAt : ℕ

structure Message where
  id : Uuid
  conversationId : Uuid
  threadRootId : Option Uuid
  type : MessageType
  threadLastReplyAt : Option ℕ
  createdAt : ℕ
  deletedAt : Option ℕ

structure PinnedMessage where
  conversationId : Uuid
  messageId : Uuid

def PinnedMessage.key (p : PinnedMessage) : Uuid × Uuid := (p.conversationId, p.messageId)

structure Database extends Permissions.Database where
  notifications : KeyedTable Notification.id
  messages : KeyedTable Message.id
  pinnedMessages : KeyedTable PinnedMessage.key
  pin_placed : ∀ p ∈ pinnedMessages.rows, ∀ m ∈ messages.rows, m.id = p.messageId →
    p.conversationId = m.conversationId

def cursorText (at_ id : Text) : Text := at_ ++ '|' :: id

def orFail {α : Type} (e : Failure) : Option α → Except Failure α
  | some a => .ok a
  | none => .error e

section Notifications
variable (driver : Driver) (db : Database)

inductive Before
  | all
  | older (timestamp : Text)
  | below (timestamp uuid : Text)

/-- `cursorPagination`: a limit that is not a whole number is refused too. -/
def cursorPagination (limit : Option ℤ) (cursor : Option Text) : Except Failure ℕ :=
  if 1 ≤ limit.getD 50 ∧ limit.getD 50 ≤ 100 ∧ cursor.all fun c => c.length ≤ 256 then .ok (limit.getD 50).toNat
  else .error .validationFailed

def notificationCursorBefore : Option Text → Except Failure Before
  | none => .ok .all
  | some cursor =>
    if cursor.isEmpty then .ok .all
    else match cursor.splitOn '|' with
      | [] => .error .validationFailed
      | at_ :: rest =>
        if driver.datetime at_ then
          match rest with
          | [] => .ok (.older at_)
          | [id] => if driver.isUuid id then .ok (.below at_ id) else .error .validationFailed
          | _ :: _ :: _ => .error .validationFailed
        else .error .validationFailed

def Notification.key (n : Notification) : ℕ ×ₗ Uuid := toLex (n.createdAt, n.id)

def Before.admits : Before → Except Failure (Notification → Bool)
  | .all => .ok fun _ => true
  | .older timestamp => do
    let at_ ← orFail .invalidText (driver.timestamptz timestamp)
    return fun n => n.createdAt < at_
  | .below timestamp uuid => do
    let at_ ← orFail .invalidText (driver.timestamptz timestamp)
    let id ← orFail .invalidText (driver.uuid uuid)
    return fun n => n.key < toLex (at_, id)

structure NotificationsPage where
  notifications : List Notification
  nextCursor : Option Text

def ofUser (userId : Uuid) : List Notification := db.notifications.rows.filter fun n => n.userId = userId

/-- `to_char(created_at at time zone 'utc', 'YYYY-MM-DD"T"HH24:MI:SS.US"Z"')` and the id. -/
def Notification.cursor (n : Notification) : Text :=
  cursorText (Civil.ofMicros n.createdAt).iso (driver.uuidText n.id)

/-- `GET /notifications` -/
def notifications (userId : Uuid) (limit : Option ℤ) (cursor : Option Text) :
    Except Failure NotificationsPage := do
  let limit ← cursorPagination limit cursor
  let before ← notificationCursorBefore driver cursor
  let admits ← before.admits driver
  let rows := (descending Notification.key ((ofUser db userId).filter admits)).take limit
  return ⟨rows, if rows.length = limit then rows.getLast?.map (Notification.cursor driver) else none⟩

end Notifications

section Posts
variable (driver : Driver) (db : Database)

abbrev Row := Message × Option PinnedMessage

def pinnedPerConversation : ℕ := 50

def postMessages (id : Uuid) : List Message :=
  db.messages.rows.filter fun m =>
    m.conversationId = id && m.threadRootId.isNone && m.deletedAt.isNone && m.type ≠ .system

/-- `left join pinned_messages p on p.message_id = m.id` -/
def leftJoin (m : Message) : List Row :=
  match db.pinnedMessages.rows.filter fun p => p.messageId = m.id with
  | [] => [(m, none)]
  | pins => pins.map fun p => (m, some p)

def selected (id : Uuid) : List Row := (postMessages db id).flatMap (leftJoin db)

def lastActivityAt (m : Message) : ℕ := m.threadLastReplyAt.getD m.createdAt

/-- `byActivity` -/
def Row.key (r : Row) : ℕ ×ₗ Uuid := toLex (lastActivityAt r.1, r.1.id)

def pinnedPosts (id : Uuid) : List Row := (selected db id).filter fun r => r.2.isSome

def otherPosts (id : Uuid) : List Row := (selected db id).filter fun r => r.2.isNone

/-- `limit`, where it is a number at all. -/
def postsLimit (limit : Option ℤ) : ℕ :=
  let asked := limit.getD 30
  (min (max (if asked = 0 then 30 else asked) 1) 50).toNat

def postsCursor : Option Text → Option (Text × Text)
  | none => none
  | some cursor =>
    match cursor.splitOn '|' with
    | ts :: cid :: _ => if ts.isEmpty || cid.isEmpty then none else some (ts, cid)
    | _ => none

def activityBefore : Option (Text × Text) → Except Failure (Row → Bool)
  | none => .ok fun _ => true
  | some (ts, cid) => do
    let at_ ← orFail .invalidText (driver.timestamptz ts)
    let id ← orFail .invalidText (driver.uuid cid)
    return fun r => r.key < toLex (at_, id)

structure PostsPage where
  posts : List Row
  nextCursor : Option Text

def Row.cursor (r : Row) : Text := cursorText (driver.text (lastActivityAt r.1)) (driver.uuidText r.1.id)

/-- `GET /:id/posts` -/
def posts (actor id : Uuid) (clock : Time) (limit : Option ℤ) (cursor : Option Text) :
    Except Failure PostsPage := do
  let _ ← (db.requirePermission id actor Permissions.Permission.viewConversation clock).mapError Failure.app
  let before := postsCursor cursor
  let pinnedRows := if before.isSome then [] else
    (descending Row.key (pinnedPosts db id)).take pinnedPerConversation
  let admits ← activityBefore driver before
  let rows := (descending Row.key ((otherPosts db id).filter admits)).take (postsLimit limit + 1)
  let page := rows.take (postsLimit limit)
  return ⟨pinnedRows ++ page,
    if postsLimit limit < rows.length then page.getLast?.map (Row.cursor driver) else none⟩

end Posts

/-! ## Texts that are read back -/

/-- Neither empty nor with a bar. -/
def Plain (text : Text) : Prop := text ≠ [] ∧ '|' ∉ text

structure Driver.ReadsId (driver : Driver) (id : Uuid) : Prop where
  plain : Plain (driver.uuidText id)
  cast : driver.uuid (driver.uuidText id) = some id
  isUuid : driver.isUuid (driver.uuidText id) = true

/-- The date and time is read as the instant that its fields name. -/
structure Driver.ReadsNotification (driver : Driver) (n : Notification) : Prop where
  cast : driver.timestamptz (Civil.ofMicros n.createdAt).iso = some (Civil.ofMicros n.createdAt).toMicros
  datetime : driver.datetime (Civil.ofMicros n.createdAt).iso = true
  id : driver.ReadsId n.id
  short : (n.cursor driver).length ≤ 256

structure Driver.ReadsPost (driver : Driver) (m : Message) : Prop where
  plain : Plain (driver.text (lastActivityAt m))
  cast : driver.timestamptz (driver.text (lastActivityAt m)) = some (lastActivityAt m)
  id : driver.ReadsId m.id

def Driver.isoCursor (driver : Driver) (c : ℕ ×ₗ Uuid) : Text :=
  cursorText (Civil.ofMicros (ofLex c).1).iso (driver.uuidText (ofLex c).2)

def Driver.rawCursor (driver : Driver) (c : ℕ ×ₗ Uuid) : Text :=
  cursorText (driver.text (ofLex c).1) (driver.uuidText (ofLex c).2)

section Texts
variable {driver : Driver} {n : Notification} {m : Message}

lemma ok_bind {α β : Type} {f : α → Except Failure β} (a : α) : (.ok a >>= f) = f a := rfl

lemma splitOn_cursorText {a b : Text} (ha : '|' ∉ a) (hb : '|' ∉ b) :
    (cursorText a b).splitOn '|' = [a, b] := by
  have h := @List.splitOn_intercalate _ [a, b] _ _ '|' (by simp [ha, hb]) (List.cons_ne_nil _ _)
  simpa [cursorText, List.intercalate] using h

lemma bar_notMem_iso (c : Civil) : '|' ∉ c.iso := by
  intro h
  rcases CivilTime.mem_iso h with h | h
  · exact absurd h (by decide)
  · exact absurd h (by decide)

lemma Driver.ReadsNotification.before (h : driver.ReadsNotification n) :
    notificationCursorBefore driver (some (n.cursor driver)) =
      .ok (.below (Civil.ofMicros n.createdAt).iso (driver.uuidText n.id)) := by
  have hempty : ∀ a b, (cursorText a b).isEmpty = false := fun a b => by simp [cursorText]
  unfold notificationCursorBefore
  simp only [hempty, Notification.cursor, splitOn_cursorText (bar_notMem_iso _) h.id.plain.2, h.datetime,
    h.id.isUuid, if_true, Bool.false_eq_true, if_false]

lemma Driver.ReadsNotification.admits (h : driver.ReadsNotification n) :
    (Before.below (Civil.ofMicros n.createdAt).iso (driver.uuidText n.id)).admits driver =
      .ok fun x => x.key < n.key := by
  unfold Before.admits
  simp only [h.cast, h.id.cast, CivilTime.toMicros_ofMicros, orFail]
  rfl

lemma Driver.ReadsPost.before (h : driver.ReadsPost m) (p : Option PinnedMessage) :
    postsCursor (some (Row.cursor driver (m, p))) =
      some (driver.text (lastActivityAt m), driver.uuidText m.id) := by
  have hts := List.isEmpty_eq_false_iff.mpr h.plain.1
  have hcid := List.isEmpty_eq_false_iff.mpr h.id.plain.1
  unfold postsCursor
  simp only [Row.cursor, splitOn_cursorText h.plain.2 h.id.plain.2, hts, hcid, Bool.or_false,
    Bool.false_eq_true, if_false]

lemma Driver.ReadsPost.admits (h : driver.ReadsPost m) (p : Option PinnedMessage) :
    activityBefore driver (some (driver.text (lastActivityAt m), driver.uuidText m.id)) =
      .ok fun r => r.key < Row.key (m, p) := by
  unfold activityBefore
  simp only [h.cast, h.id.cast, orFail]
  rfl

end Texts

/-! ## The notifications -/

section Notifications
variable {driver : Driver} {db : Database} {userId : Uuid} {asked : Option ℤ} {limit : ℕ}

lemma ofUser_nodup : ((ofUser db userId).map Notification.key).Nodup := by
  refine List.Nodup.of_map (fun k => (ofLex k).2) ?_
  rw [List.map_map]
  exact db.notifications.nodup.sublist (List.filter_sublist.map _)

def notificationKeys (db : Database) (userId : Uuid) (limit : ℕ) (hpos : 0 < limit) :
    Keyset Notification (ℕ ×ₗ Uuid) where
  rows := ofUser db userId
  key := Notification.key
  nodup := ofUser_nodup
  limit := limit
  pos := hpos
  extra := 0
  extra_le := Nat.zero_le 1

lemma cursorPagination_eq_ok {cursor : Option Text} : cursorPagination asked cursor = .ok limit ↔
    (1 ≤ asked.getD 50 ∧ asked.getD 50 ≤ 100 ∧ limit = (asked.getD 50).toNat) ∧
      ∀ c ∈ cursor, c.length ≤ 256 := by
  unfold cursorPagination
  split_ifs with h
  · simp only [Except.ok.injEq]
    have hshort : ∀ c ∈ cursor, c.length ≤ 256 := by simpa [Option.all_eq_true] using h.2.2
    exact ⟨fun he => ⟨⟨h.1, h.2.1, he.symm⟩, hshort⟩, fun he => he.1.2.2.symm⟩
  · refine iff_of_false (by simp) fun he => h ⟨he.1.1, he.1.2.1, ?_⟩
    simpa [Option.all_eq_true] using he.2

lemma notifications_eq (hlimit : cursorPagination asked none = .ok limit) (hpos : 0 < limit)
    (hreads : ∀ n ∈ ofUser db userId, driver.ReadsNotification n) {cursor : Option (ℕ ×ₗ Uuid)}
    (hknown : ∀ c ∈ cursor, ∃ n ∈ ofUser db userId, c = n.key) :
    notifications driver db userId asked (cursor.map driver.isoCursor) =
      .ok ⟨(descending Notification.key
          ((notificationKeys db userId limit hpos).feed.admitted cursor)).take limit,
        ((notificationKeys db userId limit hpos).feed.nextCursor (descending Notification.key
          ((notificationKeys db userId limit hpos).feed.admitted cursor))).map driver.isoCursor⟩ := by
  have hasked := (cursorPagination_eq_ok.mp hlimit).1
  rw [Keyset.nextCursor_map]
  unfold notifications
  cases cursor with
  | none =>
    simp only [Option.map_none, hlimit, notificationCursorBefore, Before.admits, ok_bind, List.filter_true]
    rfl
  | some c =>
    obtain ⟨n, hn, rfl⟩ := hknown c rfl
    have hshort : cursorPagination asked (some (n.cursor driver)) = .ok limit :=
      cursorPagination_eq_ok.mpr ⟨hasked, fun _ hc => Option.some.inj hc ▸ (hreads n hn).short⟩
    have hiso : driver.isoCursor n.key = n.cursor driver := rfl
    simp only [Option.map_some, hiso, hshort, (hreads n hn).before, (hreads n hn).admits, ok_bind]
    rfl

end Notifications

/-! ## The posts -/

section Posts
variable {driver : Driver} {db : Database} {actor id : Uuid} {clock : Time} {asked : Option ℤ} {limit : ℕ}
  {ctx : Permissions.MemberContext}

lemma leftJoin_eq {m : Message} (hm : m ∈ db.messages.rows) :
    leftJoin db m = [(m, db.pinnedMessages.rows.find? fun p => p.messageId = m.id)] := by
  rw [← List.head?_filter]
  unfold leftJoin
  have hnodup : (db.pinnedMessages.rows.filter fun p => p.messageId = m.id).Nodup :=
    (List.Nodup.of_map _ db.pinnedMessages.nodup).filter _
  have hkey : ∀ p ∈ db.pinnedMessages.rows.filter fun p => p.messageId = m.id,
      p ∈ db.pinnedMessages.rows ∧ p.key = (m.conversationId, m.id) := by
    intro p hp
    obtain ⟨hrow, hmessage⟩ := List.mem_filter.mp hp
    have hid : p.messageId = m.id := of_decide_eq_true hmessage
    exact ⟨hrow, by rw [PinnedMessage.key, db.pin_placed p hrow m hm hid.symm, hid]⟩
  cases hpins : db.pinnedMessages.rows.filter fun p => p.messageId = m.id with
  | nil => rfl
  | cons p rest =>
    rw [hpins] at hnodup hkey
    have hrest : rest = [] := by
      refine List.eq_nil_iff_forall_not_mem.mpr fun q hq => ?_
      obtain ⟨hrow, hpk⟩ := hkey p List.mem_cons_self
      obtain ⟨hrow', hqk⟩ := hkey q (List.mem_cons_of_mem _ hq)
      have he := List.inj_on_of_nodup_map db.pinnedMessages.nodup hrow hrow' (hpk.trans hqk.symm)
      exact (List.nodup_cons.mp hnodup).1 (he ▸ hq)
    rw [hrest]
    rfl

lemma mem_postMessages {m : Message} (h : m ∈ postMessages db id) :
    m ∈ db.messages.rows ∧ m.conversationId = id := by
  obtain ⟨hrow, hpost⟩ := List.mem_filter.mp h
  simp only [Bool.and_eq_true, decide_eq_true_eq] at hpost
  exact ⟨hrow, hpost.1.1.1⟩

lemma selected_eq : selected db id =
    (postMessages db id).map fun m => (m, db.pinnedMessages.rows.find? fun p => p.messageId = m.id) := by
  unfold selected
  rw [List.flatMap_congr fun m hm => leftJoin_eq (mem_postMessages hm).1, List.map_eq_flatMap]

lemma selected_nodup : ((selected db id).map fun r => r.1.id).Nodup := by
  rw [selected_eq, List.map_map]
  exact db.messages.nodup.sublist (List.filter_sublist.map _)

lemma mem_selected {r : Row} (h : r ∈ selected db id) : r.1 ∈ postMessages db id := by
  rw [selected_eq] at h
  obtain ⟨m, hm, rfl⟩ := List.mem_map.mp h
  exact hm

lemma nodup_keys {rows : List Row} (h : rows.Sublist (selected db id)) : (rows.map Row.key).Nodup := by
  refine List.Nodup.of_map (fun k => (ofLex k).2) ?_
  rw [List.map_map]
  exact selected_nodup.sublist (h.map _)

def postKeys (db : Database) (id : Uuid) (limit : ℕ) (hpos : 0 < limit) : Keyset Row (ℕ ×ₗ Uuid) where
  rows := otherPosts db id
  key := Row.key
  nodup := nodup_keys List.filter_sublist
  limit := limit
  pos := hpos
  extra := 1
  extra_le := Nat.le_refl 1

lemma postsLimit_pos : 0 < postsLimit asked := by
  unfold postsLimit
  simp only
  split_ifs <;> omega

lemma pinnedPosts_length_le :
    (pinnedPosts db id).length ≤ (db.pinnedMessages.rows.filter fun p => p.conversationId = id).length := by
  have hnodup : ((pinnedPosts db id).map fun r => (id, r.1.id)).Nodup := by
    have hids : ((pinnedPosts db id).map fun r => r.1.id).Nodup :=
      selected_nodup.sublist (List.filter_sublist.map _)
    refine List.Nodup.of_map Prod.snd ?_
    rwa [List.map_map]
  have hsub : ((pinnedPosts db id).map fun r => (id, r.1.id)) ⊆
      (db.pinnedMessages.rows.filter fun p => p.conversationId = id).map PinnedMessage.key := by
    intro k hk
    obtain ⟨r, hr, rfl⟩ := List.mem_map.mp hk
    obtain ⟨hselected, hsome⟩ := List.mem_filter.mp hr
    rw [selected_eq] at hselected
    obtain ⟨m, hm, rfl⟩ := List.mem_map.mp hselected
    obtain ⟨hrow, hid⟩ := mem_postMessages hm
    obtain ⟨p, hp⟩ : ∃ p, (db.pinnedMessages.rows.find? fun p => p.messageId = m.id) = some p :=
      Option.isSome_iff_exists.mp hsome
    have hmessage : p.messageId = m.id := by simpa using List.find?_some hp
    have hplace := db.pin_placed p (List.mem_of_find?_eq_some hp) m hrow hmessage.symm
    refine List.mem_map.mpr ⟨p, List.mem_filter.mpr ⟨List.mem_of_find?_eq_some hp, ?_⟩, ?_⟩
    · exact decide_eq_true (hplace.trans hid)
    · rw [PinnedMessage.key, hplace, hid, hmessage]
  have hle := (List.subperm_of_subset hnodup hsub).length_le
  rwa [List.length_map, List.length_map] at hle

def pinnedFront (db : Database) (id : Uuid) (cursor : Option (ℕ ×ₗ Uuid)) : List Row :=
  if cursor.isSome then [] else (descending Row.key (pinnedPosts db id)).take pinnedPerConversation

lemma posts_eq
    (hctx : db.requirePermission id actor Permissions.Permission.viewConversation clock = .ok ctx)
    (hreads : ∀ m ∈ postMessages db id, driver.ReadsPost m) (hpos : 0 < postsLimit asked)
    {cursor : Option (ℕ ×ₗ Uuid)} (hknown : ∀ c ∈ cursor, ∃ r ∈ otherPosts db id, c = r.key) :
    posts driver db actor id clock asked (cursor.map driver.rawCursor) =
      .ok ⟨pinnedFront db id cursor ++ (descending Row.key
          ((postKeys db id (postsLimit asked) hpos).feed.admitted cursor)).take (postsLimit asked),
        ((postKeys db id (postsLimit asked) hpos).feed.nextCursor (descending Row.key
          ((postKeys db id (postsLimit asked) hpos).feed.admitted cursor))).map driver.rawCursor⟩ := by
  have hpage : ∀ sorted : List Row,
      (sorted.take (postsLimit asked + 1)).take (postsLimit asked) = sorted.take (postsLimit asked) := by
    intro sorted
    rw [List.take_take, Nat.min_eq_left (Nat.le_succ _)]
  have hmore : ∀ sorted : List Row, (if postsLimit asked < (sorted.take (postsLimit asked + 1)).length then
      (sorted.take (postsLimit asked)).getLast?.map (Row.cursor driver) else none) =
        ((postKeys db id (postsLimit asked) hpos).feed.nextCursor sorted).map driver.rawCursor := by
    intro sorted
    have hcond : postsLimit asked < (sorted.take (postsLimit asked + 1)).length ↔
        (sorted.take (postsLimit asked + 1)).length = postsLimit asked + 1 := by
      rw [List.length_take]
      omega
    rw [Keyset.nextCursor_map, if_congr hcond rfl rfl]
    rfl
  have hok : Except.mapError Failure.app (.ok ctx) = .ok ctx := rfl
  unfold posts
  cases cursor with
  | none =>
    simp only [Option.map_none, hctx, hok, postsCursor, activityBefore, ok_bind, List.filter_true, hpage, hmore]
    rfl
  | some c =>
    obtain ⟨⟨m, p⟩, hr, rfl⟩ := hknown c rfl
    have hm := hreads m (mem_selected (List.mem_filter.mp hr).1)
    have hraw : driver.rawCursor (Row.key (m, p)) = Row.cursor driver (m, p) := rfl
    simp only [Option.map_some, hctx, hok, hraw, hm.before p, hm.admits p, ok_bind, hpage, hmore]
    rfl

end Posts

/-! ## Where the pages are exact -/

/-- Following the cursors comes to an end and brings every row once, in order, and the page that brings the last
of them has no cursor. -/
structure Exact {α : Type} (page : Option Text → List α → Option Text → Prop) (rows : List α)
    (before : α → α → Prop) : Prop where
  ends : ∃ pages, Follows page none pages
  once : ∀ pages, Follows page none pages → pages.flatten.Perm rows
  ordered : ∀ pages, Follows page none pages → pages.flatten.Pairwise before
  closes : ∀ pages, Follows page none pages → ∀ j, rows ⊆ (pages.take (j + 1)).flatten → pages.length ≤ j + 1

def Notification.Precedes (a b : Notification) : Prop := b.key < a.key

/-- Pinned posts first. -/
def Row.Precedes (a b : Row) : Prop :=
  (a.2.isSome = true ∧ b.2.isSome = false) ∨ (a.2.isSome = b.2.isSome ∧ b.key < a.key)

def NotificationPages (driver : Driver) (db : Database) (userId : Uuid) (asked : Option ℤ)
    (cursor : Option Text) (rows : List Notification) (nextCursor : Option Text) : Prop :=
  notifications driver db userId asked cursor = .ok ⟨rows, nextCursor⟩

def PostPages (driver : Driver) (db : Database) (actor id : Uuid) (clock : Time) (asked : Option ℤ)
    (cursor : Option Text) (rows : List Row) (nextCursor : Option Text) : Prop :=
  posts driver db actor id clock asked cursor = .ok ⟨rows, nextCursor⟩

section Exact
variable {driver : Driver} {db : Database} {userId actor id : Uuid} {clock : Time} {asked : Option ℤ}
  {limit : ℕ} {ctx : Permissions.MemberContext}

lemma notificationPages_follows_iff (hlimit : cursorPagination asked none = .ok limit) (hpos : 0 < limit)
    (hreads : ∀ n ∈ ofUser db userId, driver.ReadsNotification n) {pages : List (List Notification)} :
    Follows (NotificationPages driver db userId asked) none pages ↔
      Follows (notificationKeys db userId limit hpos).feed.Page none pages := by
  refine Follows.map_none_iff driver.isoCursor (fun c => ∃ n ∈ ofUser db userId, c = n.key)
    (fun _ _ _ hp => Keyset.key_of_page hp) (fun cursor rows next' hknown => ?_)
  unfold NotificationPages
  rw [notifications_eq hlimit hpos hreads hknown]
  simp only [Keyset.page_iff, Except.ok.injEq, NotificationsPage.mk.injEq]
  constructor
  · rintro ⟨rfl, rfl⟩
    exact ⟨_, ⟨rfl, rfl⟩, rfl⟩
  · rintro ⟨next, ⟨rfl, rfl⟩, rfl⟩
    exact ⟨rfl, rfl⟩

lemma notifications_exact_iff (hlimit : cursorPagination asked none = .ok limit)
    (hreads : ∀ n ∈ ofUser db userId, driver.ReadsNotification n) :
    Exact (NotificationPages driver db userId asked) (ofUser db userId) Notification.Precedes ↔
      ofUser db userId = [] ∨ ¬ limit ∣ (ofUser db userId).length := by
  have hpos : 0 < limit := by
    obtain ⟨hone, -, rfl⟩ := (cursorPagination_eq_ok.mp hlimit).1
    omega
  have hf := fun pages => @notificationPages_follows_iff driver db userId asked limit hlimit hpos hreads pages
  have hcloses := (notificationKeys db userId limit hpos).closes_iff
  obtain ⟨pages, hpages⟩ := (notificationKeys db userId limit hpos).sound.exists_follows
  obtain ⟨-, -, hlen, hcover⟩ := Keyset.follows hpages
  constructor
  · intro h
    have hall := hcloses.mp fun j hj => hlen ▸ h.closes pages ((hf pages).mpr hpages) j ((hcover j).mpr hj)
    exact hall.resolve_left fun hone => absurd hone Nat.zero_ne_one
  · intro h
    have hall := hcloses.mpr (Or.inr h)
    refine ⟨⟨pages, (hf pages).mpr hpages⟩, fun pages hp => ?_, fun pages hp => ?_, fun pages hp j hj => ?_⟩
    · exact (Keyset.follows ((hf pages).mp hp)).1
    · exact (Keyset.follows ((hf pages).mp hp)).2.1
    · obtain ⟨-, -, hlen, hcover⟩ := Keyset.follows ((hf pages).mp hp)
      rw [hlen]
      exact hall j ((hcover j).mp hj)

def KeyedPosts (db : Database) (id : Uuid) (limit : ℕ) (hpos : 0 < limit) (cursor : Option (ℕ ×ₗ Uuid))
    (rows : List Row) (next : Option (ℕ ×ₗ Uuid)) : Prop :=
  ∃ rest, rows = pinnedFront db id cursor ++ rest ∧ (postKeys db id limit hpos).feed.Page cursor rest next

lemma postPages_follows_iff
    (hctx : db.requirePermission id actor Permissions.Permission.viewConversation clock = .ok ctx)
    (hreads : ∀ m ∈ postMessages db id, driver.ReadsPost m) (hpos : 0 < postsLimit asked)
    {pages : List (List Row)} :
    Follows (PostPages driver db actor id clock asked) none pages ↔
      ∃ rows rest,
        pages = ((descending Row.key (pinnedPosts db id)).take pinnedPerConversation ++ rows) :: rest ∧
        Follows (postKeys db id (postsLimit asked) hpos).feed.Page none (rows :: rest) := by
  refine Iff.trans ?_ (@Follows.head_iff _ _ _ (KeyedPosts db id (postsLimit asked) hpos) _ (fun _ _ => Iff.rfl)
    (fun c rows next => ⟨?_, fun hp => ⟨rows, rfl, hp⟩⟩) _)
  · refine Follows.map_none_iff driver.rawCursor (fun c => ∃ r ∈ otherPosts db id, c = r.key)
      (fun _ _ _ hp => ?_) (fun cursor rows next' hknown => ?_)
    · obtain ⟨rest, -, hp⟩ := hp
      exact Keyset.key_of_page hp
    · unfold PostPages KeyedPosts
      rw [posts_eq hctx hreads hpos hknown]
      simp only [Keyset.page_iff, Except.ok.injEq, PostsPage.mk.injEq]
      constructor
      · rintro ⟨rfl, rfl⟩
        exact ⟨_, ⟨_, rfl, rfl, rfl⟩, rfl⟩
      · rintro ⟨next, ⟨rest, rfl, rfl, rfl⟩, rfl⟩
        exact ⟨rfl, rfl⟩
  · rintro ⟨rest, rfl, hp⟩
    exact hp

lemma descending_perm (rows : List Row) : (descending Row.key rows).Perm rows := List.mergeSort_perm ..

lemma selected_perm : (pinnedPosts db id ++ otherPosts db id).Perm (selected db id) := by
  have h := List.filter_append_perm (fun r : Row => r.2.isSome) (selected db id)
  have hother : (selected db id).filter (fun r => !r.2.isSome) = otherPosts db id :=
    List.filter_congr fun r _ => by rw [Option.not_isSome]
  rwa [hother] at h

lemma posts_exact
    (hctx : db.requirePermission id actor Permissions.Permission.viewConversation clock = .ok ctx)
    (hreads : ∀ m ∈ postMessages db id, driver.ReadsPost m)
    (hpins : (db.pinnedMessages.rows.filter fun p => p.conversationId = id).length ≤ pinnedPerConversation) :
    Exact (PostPages driver db actor id clock asked) (selected db id) Row.Precedes := by
  have hpos : 0 < postsLimit asked := postsLimit_pos
  have hfront : (descending Row.key (pinnedPosts db id)).take pinnedPerConversation =
      descending Row.key (pinnedPosts db id) := by
    refine List.take_of_length_le ?_
    rw [(descending_perm _).length_eq]
    exact pinnedPosts_length_le.trans hpins
  have hf := fun pages => @postPages_follows_iff driver db actor id clock asked ctx hctx hreads hpos pages
  have hcloses := (postKeys db id (postsLimit asked) hpos).closes_iff.mpr (Or.inl rfl)
  simp only [hfront] at hf
  refine ⟨?_, fun pages hp => ?_, fun pages hp => ?_, fun pages hp j hj => ?_⟩
  · obtain ⟨pages, hpages⟩ := (postKeys db id (postsLimit asked) hpos).sound.exists_follows
    cases hpages with
    | last h => exact ⟨_, (hf _).mpr ⟨_, _, rfl, .last h⟩⟩
    | more h hrest => exact ⟨_, (hf _).mpr ⟨_, _, rfl, .more h hrest⟩⟩
  · obtain ⟨rows, rest, rfl, hpages⟩ := (hf pages).mp hp
    have hperm := (Keyset.follows hpages).1
    rw [List.flatten_cons, List.append_assoc, ← List.flatten_cons]
    exact ((descending_perm _).append hperm).trans selected_perm
  · obtain ⟨rows, rest, rfl, hpages⟩ := (hf pages).mp hp
    obtain ⟨hperm, hsorted, -, -⟩ := Keyset.follows hpages
    rw [List.flatten_cons, List.append_assoc, ← List.flatten_cons]
    have hpinned : ∀ r ∈ descending Row.key (pinnedPosts db id), r.2.isSome = true := fun r hr =>
      (List.mem_filter.mp ((descending_perm _).mem_iff.mp hr)).2
    have hother : ∀ r ∈ (rows :: rest).flatten, r.2.isSome = false := fun r hr =>
      Option.isSome_eq_false_iff.mpr (List.mem_filter.mp (hperm.mem_iff.mp hr)).2
    refine List.pairwise_append.mpr ⟨?_, ?_, fun a ha b hb => Or.inl ⟨hpinned a ha, hother b hb⟩⟩
    · refine (Pages.descending_pairwise (nodup_keys List.filter_sublist)).imp_of_mem fun {a b} ha hb hab => ?_
      exact Or.inr ⟨(hpinned a ha).trans (hpinned b hb).symm, hab⟩
    · exact hsorted.imp_of_mem fun {a b} ha hb hab => Or.inr ⟨(hother a ha).trans (hother b hb).symm, hab⟩
  · obtain ⟨rows, rest, rfl, hpages⟩ := (hf pages).mp hp
    obtain ⟨-, -, hlen, hcover⟩ := Keyset.follows hpages
    have hlength : (rows :: rest).length ≤ j + 1 := by
      rw [hlen]
      refine hcloses j ((hcover j).mp fun r hr => ?_)
      obtain ⟨hselected, hnone⟩ := List.mem_filter.mp hr
      have hmem := hj hselected
      rw [List.take_succ_cons, List.flatten_cons, List.append_assoc, ← List.flatten_cons,
        ← List.take_succ_cons] at hmem
      refine (List.mem_append.mp hmem).resolve_left fun hpin => ?_
      have hsome := (List.mem_filter.mp ((descending_perm _).mem_iff.mp hpin)).2
      rw [Option.isNone_iff_eq_none.mp hnone] at hsome
      cases hsome
    exact hlength

end Exact

/-- The posts are exact, and the notifications just where the last page is not full: a full one always has a
cursor, also where nothing follows. -/
theorem feeds_exact_iff {driver : Driver} {db : Database} {userId actor id : Uuid} {clock : Time}
    {asked askedPosts : Option ℤ} {limit : ℕ} {ctx : Permissions.MemberContext}
    (hlimit : cursorPagination asked none = .ok limit)
    (hreads : ∀ n ∈ ofUser db userId, driver.ReadsNotification n)
    (hctx : db.requirePermission id actor Permissions.Permission.viewConversation clock = .ok ctx)
    (hposts : ∀ m ∈ postMessages db id, driver.ReadsPost m)
    (hpins : (db.pinnedMessages.rows.filter fun p => p.conversationId = id).length ≤ pinnedPerConversation) :
    (Exact (NotificationPages driver db userId asked) (ofUser db userId) Notification.Precedes ↔
      ofUser db userId = [] ∨ ¬ limit ∣ (ofUser db userId).length) ∧
    Exact (PostPages driver db actor id clock askedPosts) (selected db id) Row.Precedes :=
  ⟨notifications_exact_iff hlimit hreads, posts_exact hctx hposts hpins⟩

namespace Sample

def text (t : ℕ) : Text :=
  "1970-01-01 00:00:00".toList ++ (if t = 0 then [] else '.' :: CivilTime.padded 6 t) ++ "+00".toList

def uuidText (id : Uuid) : Text :=
  "00000000-0000-4000-8000-".toList ++ (Nat.toDigits 16 id).leftpad 12 '0'

def driver : Driver where
  text := text
  timestamptz s := [0, 1].find? fun t => (Civil.ofMicros t).iso = s || text t = s
  uuidText := uuidText
  uuid s := (List.range 64).find? fun id => uuidText id = s
  datetime s := [0, 1].any fun t => (Civil.ofMicros t).iso = s
  isUuid s := (List.range 64).any fun id => uuidText id = s

def post (id : Uuid) (createdAt : ℕ) : Message := ⟨id, 1, none, .text, none, createdAt, none⟩

def database (notifications : KeyedTable Notification.id) : Database where
  toDatabase := Permissions.Sample.database
  notifications := notifications
  messages := ⟨[post 40 0, post 41 1], by decide⟩
  pinnedMessages := ⟨[⟨1, 40⟩], by decide⟩
  pin_placed := by decide

def three : Database := database ⟨[⟨30, 12, 0⟩, ⟨31, 12, 1⟩, ⟨32, 12, 1⟩], by decide⟩

def one : Database := database ⟨[⟨30, 12, 0⟩], by decide⟩

lemma readsId : ∀ id ∈ [30, 31, 32, 40, 41], driver.ReadsId id := by
  have h : ∀ id ∈ [30, 31, 32, 40, 41], (driver.uuidText id ≠ [] ∧ '|' ∉ driver.uuidText id) ∧
      driver.uuid (driver.uuidText id) = some id ∧ driver.isUuid (driver.uuidText id) = true := by
    decide
  exact fun id hid => ⟨(h id hid).1, (h id hid).2.1, (h id hid).2.2⟩

lemma readsNotification {n : Notification} (hid : n.id ∈ [30, 31, 32, 40, 41]) (hat : n.createdAt ∈ [0, 1])
    (hshort : (n.cursor driver).length ≤ 256) : driver.ReadsNotification n := by
  have h : ∀ t ∈ [0, 1], driver.timestamptz (Civil.ofMicros t).iso = some (Civil.ofMicros t).toMicros ∧
      driver.datetime (Civil.ofMicros t).iso = true := by decide
  exact ⟨(h _ hat).1, (h _ hat).2, readsId _ hid, hshort⟩

lemma readsPost {m : Message} (hid : m.id ∈ [30, 31, 32, 40, 41]) (hat : lastActivityAt m ∈ [0, 1]) :
    driver.ReadsPost m := by
  have h : ∀ t ∈ [0, 1], (driver.text t ≠ [] ∧ '|' ∉ driver.text t) ∧
      driver.timestamptz (driver.text t) = some t := by decide
  exact ⟨(h _ hat).1, (h _ hat).2, readsId _ hid⟩

lemma three_reads : ∀ n ∈ ofUser three 12, driver.ReadsNotification n := by
  have h : ∀ n ∈ ofUser three 12, n.id ∈ [30, 31, 32, 40, 41] ∧ n.createdAt ∈ [0, 1] ∧
      (n.cursor driver).length ≤ 256 := by decide
  exact fun n hn => readsNotification (h n hn).1 (h n hn).2.1 (h n hn).2.2

lemma one_reads : ∀ n ∈ ofUser one 12, driver.ReadsNotification n := by
  have h : ∀ n ∈ ofUser one 12, n.id ∈ [30, 31, 32, 40, 41] ∧ n.createdAt ∈ [0, 1] ∧
      (n.cursor driver).length ≤ 256 := by decide
  exact fun n hn => readsNotification (h n hn).1 (h n hn).2.1 (h n hn).2.2

lemma posts_read : ∀ m ∈ postMessages three 1, driver.ReadsPost m := by
  have h : ∀ m ∈ postMessages three 1, m.id ∈ [30, 31, 32, 40, 41] ∧ lastActivityAt m ∈ [0, 1] := by
    decide
  exact fun m hm => readsPost (h m hm).1 (h m hm).2

end Sample

open Sample

/-- Three notifications by pages of two, and the posts by pages of one. -/
theorem feeds_exact_iff_three :
    Exact (NotificationPages driver three 12 (some 2)) (ofUser three 12) Notification.Precedes ∧
      Exact (PostPages driver three 12 1 0 (some 1)) (selected three 1) Row.Precedes := by
  obtain ⟨hnotifications, hposts⟩ := @feeds_exact_iff driver three 12 12 1 0 (some 2) (some 1) 2 _ (by decide)
    three_reads rfl posts_read (by decide)
  exact ⟨hnotifications.mpr (Or.inr (by decide)), hposts⟩

/-- The only notification fills the first page, whose cursor leads to an empty one. -/
theorem page_after_last :
    ¬ Exact (NotificationPages driver one 12 (some 1)) (ofUser one 12) Notification.Precedes := by
  intro h
  have hlimit : cursorPagination (some 1) none = .ok 1 := by decide
  rcases (notifications_exact_iff hlimit one_reads).mp h with h | h
  · cases h
  · exact h (by decide)

end Yappy.KeysetFeeds
