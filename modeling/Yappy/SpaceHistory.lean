import Yappy.SpaceUpgrade

/-!
# What the upgrade to a space leaves

In an orderly run the upgrade moves the whole timeline: every message, mention and pin of the group
is the channel's afterwards, under the same numbers and with everyone's cursors.
-/
namespace Yappy.Tables
open Permissions (Time Uuid)
open ReadCommitted
open Statement

/-- The conversation a row belongs to that goes with a message or a timeline. A reminder counts
while it is pending. -/
def names : (k : Key) → Row k → Option Uuid
  | .mention .., (r : Mention) => some r.conversationId
  | .pin c _, _ => some c
  | .reminder _, (r : Reminder) =>
    if r.deliveredAt.isNone ∧ r.cancelledAt.isNone then some r.conversationId else none
  | .scheduledMessage _, (r : ScheduledMessage) => some r.conversationId
  | .photoWall _, (r : PhotoWall) => some r.conversationId
  | .liveLocation _, (r : LiveLocation) => some r.conversationId
  | _, _ => none

def about : (k : Key) → Row k → Option Uuid
  | .mention m _, _ => some m
  | .pin _ m, _ => some m
  | .reminder _, (r : Reminder) => r.messageId
  | .liveLocation m, _ => some m
  | _, _ => none

def Follows : Key → Prop
  | .mention .. | .pin .. => True
  | _ => False

/-- A row goes with a message that exists, and belongs to its conversation. -/
def Tied (rows : Database) : Prop :=
  ∀ k r m, rows k = some r → about k r = some m →
    ∃ c i, place rows m = some (c, i) ∧ ∀ c', names k r = some c' → c' = c

def conversationType (rows : Database) (c : Uuid) : Option Permissions.ConversationType :=
  (rows (.conversation c)).map Conversation.type

structure Grouped (g channelId : Uuid) (rows : Database) : Prop where
  gapless : Gapless rows
  tied : Tied rows
  type : conversationType rows g = some .group
  unused : rows (.conversation channelId) = none
  vacant : ∀ user, rows (.member channelId user) = none

def cursor (m : Member) : ℕ × ℕ := (m.lastReadSeq, m.historyStartSeq)

structure Upgraded (g channelId : Uuid) (before after : Database) : Prop where
  space : conversationType after g = some .space
  empty : ∀ m i, place after m ≠ some (g, i)
  moved : ∀ m i, place before m = some (g, i) → place after m = some (channelId, i)
  counter : ∃ n, head after channelId = some n ∧ (∃ m, place after m = some (channelId, n)) ∧
    ∀ m i, place after m = some (channelId, i) → i ≤ n
  left : ∀ k r, after k = some r → names k r ≠ some g
  about : ∀ k r m i c, after k = some r → about k r = some m → place before m = some (g, i) →
    names k r = some c → c = channelId
  followed : ∀ k r, before k = some r → names k r = some g →
    ∃ k' r', after k' = some r' ∧ names k' r' = some channelId ∧
      Tables.about k' r' = Tables.about k r
  cursors : ∀ user, (after (.member channelId user)).map cursor =
    (before (.member g user)).map cursor

section Facts
variable {rows view view' before : Database} {g channelId c : Uuid} {n : ℕ}

lemma Grouped.ne (h : Grouped g channelId rows) : g ≠ channelId := by
  rintro rfl
  have ht := h.type
  rw [conversationType, h.unused] at ht
  cases ht

lemma Grouped.exists_head (h : Grouped g channelId rows) : ∃ n, head rows g = some n := by
  obtain ⟨conv, hc, -⟩ := Option.map_eq_some_iff.mp h.type
  exact ⟨conv.messageSeq, by simp [head, hc]⟩

lemma Tied.of_rows (h : Tied view) (hplace : ∀ m p, place view m = some p → place view' m = some p)
    (hrows : ∀ k r m, view' k = some r → Tables.about k r = some m → view k = some r ∨
      ∃ c i, place view' m = some (c, i) ∧ ∀ c', names k r = some c' → c' = c) : Tied view' := by
  intro k r m hr ha
  rcases hrows k r m hr ha with hold | hnew
  · obtain ⟨c, i, hp, hn⟩ := h k r m hold ha
    exact ⟨c, i, hplace m _ hp, hn⟩
  · exact hnew

end Facts

/-! ## A send alone -/

structure Posted (g channelId messageId : Uuid) (view : Database) : Prop where
  grouped : Grouped g channelId view
  place : ∃ i, place view messageId = some (g, i)

section Send
variable {g channelId messageId : Uuid} {before view view' : Database}

lemma Posted.write (h : Posted g channelId messageId view)
    (hm : ∀ m, view' (.message m) = view (.message m))
    (hc : ∀ c, view' (.conversation c) = view (.conversation c))
    (hv : ∀ user, view' (.member channelId user) = view (.member channelId user))
    (hr : ∀ k r m, view' k = some r → about k r = some m → view k = some r ∨
      (m = messageId ∧ ∀ c', names k r = some c' → c' = g)) :
    Posted g channelId messageId view' where
  grouped := by
    have hg := h.grouped
    refine ⟨⟨fun c n hn => ?_, fun m c i hp => ?_⟩, ?_, ?_, (hc _).trans hg.unused,
      fun user => (hv user).trans (hg.vacant user)⟩
    · rw [head_congr (hc c)] at hn
      exact (hg.gapless.numbered c n hn).congr fun m i => by rw [place_congr (hm m)]
    · rw [place_congr (hm m)] at hp
      rw [head_congr (hc c)]
      exact hg.gapless.placed m c i hp
    · refine hg.tied.of_rows (fun m p hp => (place_congr (hm m)).trans hp) fun k r m hk ha => ?_
      rcases hr k r m hk ha with hold | ⟨rfl, hn⟩
      · exact Or.inl hold
      · obtain ⟨i, hi⟩ := h.place
        exact Or.inr ⟨g, i, (place_congr (hm m)).trans hi, hn⟩
    · unfold conversationType
      rw [hc]
      exact hg.type
  place := by
    obtain ⟨i, hi⟩ := h.place
    exact ⟨i, (place_congr (hm messageId)).trans hi⟩

lemma Grouped.post {id : Uuid} {conv conv' : Conversation} {row : Message} {view₁ : Database}
    (hg : Grouped g channelId before) (hconv : before (.conversation g) = some conv)
    (hself : view₁ (.conversation g) = some conv')
    (hframe : ∀ k, k ≠ .conversation g → view₁ k = before k)
    (hseq : conv'.messageSeq = conv.messageSeq + 1) (htype : conv'.type = conv.type)
    (hrow : row.conversationId = g ∧ row.seq = conv.messageSeq + 1)
    (hid : view₁ (.message id) = none) (hnew : view (.message id) = some row)
    (hrest : ∀ k, k ≠ .message id → view k = view₁ k) : Posted g channelId id view := by
  have hview : ∀ k, k ≠ .message id → k ≠ .conversation g → view k = before k :=
    fun k hk hk' => (hrest k hk).trans (hframe k hk')
  have hviewg : view (.conversation g) = some conv' := (hrest _ (by simp)).trans hself
  have hplace : ∀ m, m ≠ id → place view m = place before m := fun m hm =>
    place_congr (hview _ (by simp [hm]) (by simp))
  have hnone : place before id = none := by
    unfold place
    rw [← hframe _ (by simp), hid]
    rfl
  have hnewp : place view id = some (g, conv.messageSeq + 1) := by
    unfold place
    rw [hnew, ← hrow.1, ← hrow.2]
    rfl
  have hkept : ∀ m p, place before m = some p → place view m = some p := by
    intro m p hp
    rw [hplace m]
    · exact hp
    · rintro rfl
      rw [hnone] at hp
      cases hp
  have hheadg : head view g = some (conv.messageSeq + 1) := by
    unfold head
    rw [hviewg, ← hseq]
    rfl
  have hhead : ∀ c, c ≠ g → head view c = head before c := fun c hc =>
    head_congr (hview _ (by simp) (by simp [hc]))
  have hheadb : head before g = some conv.messageSeq := by
    unfold head
    rw [hconv]
    rfl
  refine ⟨⟨⟨fun c n hn => ?_, fun m c i hp => ?_⟩, ?_, ?_, ?_, fun user => ?_⟩, ⟨_, hnewp⟩⟩
  · by_cases hc : c = g
    · subst hc
      rw [hheadg] at hn
      obtain rfl := Option.some.inj hn
      exact (hg.gapless.numbered c _ hheadb).succ hnone hnewp hplace
    · rw [hhead c hc] at hn
      refine (hg.gapless.numbered c n hn).congr fun m i => ?_
      by_cases hm : m = id
      · subst hm
        rw [hnewp, hnone]
        simp [Ne.symm hc]
      · rw [hplace m hm]
  · by_cases hc : c = g
    · exact hc ▸ ⟨_, hheadg⟩
    · have hm : m ≠ id := by
        rintro rfl
        rw [hnewp] at hp
        simp only [Option.some.injEq, Prod.mk.injEq] at hp
        exact hc hp.1.symm
      rw [hplace m hm] at hp
      rw [hhead c hc]
      exact hg.gapless.placed m c i hp
  · refine hg.tied.of_rows hkept fun k r m hk ha => ?_
    refine Or.inl ((hview k ?_ ?_).symm.trans hk)
    · rintro rfl
      cases ha
    · rintro rfl
      cases ha
  · have ht := hg.type
    unfold conversationType at ht ⊢
    rw [hconv] at ht
    rw [hviewg, ← ht]
    simp [htype]
  · exact (hview _ (by simp) (by simp [Ne.symm hg.ne])).trans hg.unused
  · exact (hview _ (by simp) (by simp)).trans (hg.vacant user)

def sentPost (g channelId : Uuid) (rows' : Database) (rest : Program) : Prop :=
  Grouped g channelId rows' ∧ rest = .done

lemma ends_member {user : Uuid} {seq : ℕ} {clock : Time}
    (h : Posted g channelId messageId view) :
    Ends (sentPost g channelId)
      (update (.member g user) (Member.sent seq clock) fun _ => .commit .done) view := by
  have hdone : ∀ {v}, Posted g channelId messageId v →
      Ends (sentPost g channelId) (.commit .done) v :=
    fun hv => .commit ⟨hv.grouped, rfl⟩
  refine ends_update (fun _ => hdone h) fun r _ view' _ hframe => hdone (h.write (fun m => ?_)
    (fun c => ?_) (fun u => ?_) fun k r m hk ha => Or.inl ((hframe k ?_).symm.trans hk))
  · exact hframe _ (by simp)
  · exact hframe _ (by simp)
  · exact hframe _ (by simp [Ne.symm h.grouped.ne])
  · rintro rfl
    cases ha

lemma ends_materialise {user : Uuid} {clock : Time} {next : Program}
    (h : Posted g channelId messageId view)
    (hnext : ∀ v, Posted g channelId messageId v → Ends (sentPost g channelId) next v) :
    Ends (sentPost g channelId) (materialiseChannelMember g user clock next) view := by
  refine ends_read ?_
  split
  · exact hnext view h
  · split
    · exact hnext view h
    · refine ends_insertNew (fun _ _ => hnext view h) fun _ view' _ hframe => hnext view'
        (h.write (fun m => hframe _ (by simp)) (fun c => hframe _ (by simp))
          (fun u => hframe _ (by simp [Ne.symm h.grouped.ne]))
          fun k r m hk ha => Or.inl ((hframe k ?_).symm.trans hk))
      rintro rfl
      cases ha

lemma ends_mentions {seq : ℕ} {isBroadcast : Bool} {users : Database → List Uuid}
    {next : Program} (h : Posted g channelId messageId view)
    (hnext : ∀ v, Posted g channelId messageId v → Ends (sentPost g channelId) next v) :
    Ends (sentPost g channelId)
      (insertMentions messageId ⟨g, seq, isBroadcast⟩ users next) view := by
  refine ends_insertMentions fun view' hm hframe => hnext view' (h.write
    (fun m => hframe _ (by simp)) (fun c => hframe _ (by simp)) (fun u => hframe _ (by simp))
    fun k r m hk ha => ?_)
  cases k with
  | mention m' user =>
    rcases hm m' user with he | ⟨rfl, he⟩
    · exact Or.inl (he.symm.trans hk)
    · rw [he] at hk
      obtain rfl := Option.some.inj hk
      cases ha
      exact Or.inr ⟨rfl, fun c' hc' => (Option.some.inj hc').symm⟩
  | _ => exact Or.inl ((hframe _ (by simp)).symm.trans hk)

lemma ends_shareLocation {input : SendInput} {clock : Time} {next : Program}
    (h : Posted input.conversationId channelId input.messageId view)
    (hnext : ∀ v, Posted input.conversationId channelId input.messageId v →
      Ends (sentPost input.conversationId channelId) next v) :
    Ends (sentPost input.conversationId channelId) (shareLocation input clock next) view := by
  unfold shareLocation
  split
  · exact hnext view h
  · dsimp only
    split_ifs
    · exact .fail
    · refine ends_insert fun _ view' hself hframe => hnext view' (h.write
        (fun m => hframe _ (by simp)) (fun c => hframe _ (by simp)) (fun u => hframe _ (by simp))
        fun k r m hk ha => ?_)
      by_cases hkey : k = .liveLocation input.messageId
      · subst hkey
        rw [hself] at hk
        obtain rfl := Option.some.inj hk
        cases ha
        exact Or.inr ⟨rfl, fun c' hc' => (Option.some.inj hc').symm⟩
      · exact Or.inl ((hframe k hkey).symm.trans hk)

lemma ends_sendMessage {sees : Database → Uuid → Uuid → Bool} {input : SendInput}
    {isVirtual : Bool} {scope : Uuid} {clock : Time}
    (h : Grouped input.conversationId channelId before) :
    Ends (sentPost input.conversationId channelId)
      (sendMessage sees input isVirtual scope clock) before := by
  refine ends_allocate fun conv hconv view₁ hself hframe => ?_
  refine ends_insertMessage fun hid _ view hnew hrest => ?_
  have hposted := h.post hconv hself hframe rfl rfl ⟨rfl, rfl⟩ hid hnew hrest
  refine ends_shareLocation hposted fun v hv => ?_
  refine ends_mentions hv fun v hv => ends_mentions hv fun v hv => ends_mentions hv fun v hv => ?_
  cases isVirtual with
  | true => exact ends_materialise hv fun v hv => ends_member hv
  | false => exact ends_member hv

end Send

/-! ## The upgrade alone -/

section Upgrade
variable {g channelId : Uuid} {before view : Database} {post : Database → Program → Prop}
  {next : Program}

lemma ends_updateSelected {p : (k : Key) → Row k → Bool} {f : (k : Key) → Row k → Row k}
    (h : ∀ view' : Database, (∀ k, view' k = (view k).map fun r => if p k r then f k r else r) →
      Ends post next view') :
    Ends post (updateAll (fun view => view.select p) f next) view := by
  refine ends_updateAll fun view' hin hout => h view' fun k => ?_
  by_cases hk : k ∈ view.select p
  · obtain ⟨r, hr, hp⟩ := Rows.mem_select.mp hk
    rw [hin k hk, hr]
    simp [hp]
  · rw [hout k hk]
    cases hr : view k with
    | none => rfl
    | some r =>
      have hp : ¬ p k r = true := fun hp => hk (Rows.mem_select.mpr ⟨r, hr, hp⟩)
      simp [hp]

def Message.shifted (g channelId : Uuid) (r : Message) : Message :=
  if r.conversationId = g then { r with conversationId := channelId } else r

def Mention.shifted (g channelId : Uuid) (r : Mention) : Mention :=
  if r.conversationId = g then { r with conversationId := channelId } else r

lemma ends_moveMessages (h : ∀ view' : Database,
      (∀ m, view' (.message m) = (view (.message m)).map (Message.shifted g channelId)) →
      (∀ k, (∀ m, k ≠ .message m) → view' k = view k) → Ends post next view') :
    Ends post (moveMessages g channelId next) view := by
  refine ends_updateSelected fun view' hview => h view' (fun m => ?_) fun k hk => ?_
  · rw [hview]
    simp only [decide_eq_true_eq]
    rfl
  · rw [hview]
    cases k with
    | message m => exact absurd rfl (hk m)
    | _ => simp

lemma ends_moveMentions (h : ∀ view' : Database,
      (∀ m user, view' (.mention m user) =
        (view (.mention m user)).map (Mention.shifted g channelId)) →
      (∀ k, (∀ m user, k ≠ .mention m user) → view' k = view k) → Ends post next view') :
    Ends post (moveMentions g channelId next) view := by
  refine ends_updateSelected fun view' hview => h view' (fun m user => ?_) fun k hk => ?_
  · rw [hview]
    simp only [decide_eq_true_eq]
    rfl
  · rw [hview]
    cases k with
    | mention m user => exact absurd rfl (hk m user)
    | _ => simp

lemma ends_moveCalls (h : ∀ view' : Database,
      (∀ k, (∀ id, k ≠ .call id) → view' k = view k) → Ends post next view') :
    Ends post (moveCalls g channelId next) view := by
  refine ends_updateSelected fun view' hview => h view' fun k hk => ?_
  rw [hview]
  cases k with
  | call id => exact absurd rfl (hk id)
  | _ => simp

lemma mem_pinnedIn {m : Uuid} : m ∈ pinnedIn view g ↔ (view (.pin g m)).isSome := by
  unfold pinnedIn
  rw [List.mem_filterMap]
  constructor
  · rintro ⟨k, -, hk⟩
    cases k with
    | pin s message =>
      dsimp only at hk
      split_ifs at hk with hc
      cases hk
      exact hc.1 ▸ hc.2
    | _ => cases hk
  · intro hm
    exact ⟨.pin g m, view.covered _ (by simpa [Option.isSome_iff_ne_none] using hm), by simp [hm]⟩

lemma ends_movePins (hne : g ≠ channelId) (h : ∀ view' : Database,
      (∀ m, view' (.pin g m) = none) →
      (∀ m, view' (.pin channelId m) = (view (.pin g m)).or (view (.pin channelId m))) →
      (∀ k, (∀ m, k ≠ .pin g m ∧ k ≠ .pin channelId m) → view' k = view k) →
      Ends post next view') : Ends post (movePins g channelId next) view := by
  have hmem : ∀ k, (∀ m, k ≠ .pin g m ∧ k ≠ .pin channelId m) →
      k ∉ (pinnedIn view g).flatMap fun m => [Key.pin g m, .pin channelId m] := by
    intro k hk hin
    obtain ⟨m, -, hm⟩ := List.mem_flatMap.mp hin
    simp only [List.mem_cons, List.not_mem_nil, or_false] at hm
    rcases hm with rfl | rfl
    · exact (hk m).1 rfl
    · exact (hk m).2 rfl
  have hlisted : ∀ c m, (c = g ∨ c = channelId) → (view (.pin g m)).isSome →
      Key.pin c m ∈ (pinnedIn view g).flatMap fun m => [Key.pin g m, .pin channelId m] := by
    rintro c m hc hm
    refine List.mem_flatMap.mpr ⟨m, mem_pinnedIn.mpr hm, ?_⟩
    rcases hc with rfl | rfl <;> simp
  refine .statement (h _ (fun m => ?_) (fun m => ?_) fun k hk => ?_)
  · cases hm : view (.pin g m) with
    | none =>
      rw [overlay_apply, Rows.on_apply]
      split_ifs
      · simp [hm]
      · simp [hm]
    | some p =>
      rw [overlay_apply, Rows.on_apply, if_pos (hlisted g m (Or.inl rfl) (by simp [hm]))]
      simp [hm]
  · cases hm : view (.pin g m) with
    | none =>
      rw [overlay_apply, Rows.on_apply]
      split_ifs
      · simp [hm]
      · simp
    | some p =>
      rw [overlay_apply, Rows.on_apply, if_pos (hlisted channelId m (Or.inr rfl) (by simp [hm]))]
      simp [hm, Ne.symm hne]
  · rw [overlay_apply, Rows.on_apply, if_neg (hmem k hk)]
    rfl

lemma mem_membersOf {user : Uuid} : user ∈ membersOf view g ↔ (view (.member g user)).isSome := by
  unfold membersOf
  rw [List.mem_filterMap]
  constructor
  · rintro ⟨k, -, hk⟩
    cases k with
    | member s u =>
      dsimp only at hk
      split_ifs at hk with hc
      cases hk
      exact hc.1 ▸ hc.2
    | _ => cases hk
  · intro hm
    exact ⟨.member g user, view.covered _ (by simpa [Option.isSome_iff_ne_none] using hm),
      by simp [hm]⟩

lemma copiedMembers_member (view : Database) (user : Uuid) :
    copiedMembers g channelId view (.member channelId user) =
      (view (.member g user)).map fun m => some m.inChannel := by
  refine Rows.on_eq fun hsome => List.mem_map_of_mem (mem_membersOf.mpr ?_)
  cases hm : view (.member g user) with
  | none => simp [hm] at hsome
  | some m => rfl

lemma ends_copyMembers {conv : Conversation} (hconv : view (.conversation channelId) = some conv)
    (h : ∀ view' : Database,
      (∀ user, view' (.member channelId user) =
        ((view (.member g user)).map Member.inChannel).or (view (.member channelId user))) →
      (∃ conv' : Conversation, view' (.conversation channelId) = some conv' ∧
        conv'.messageSeq = conv.messageSeq) →
      (∀ k, k ≠ .conversation channelId → (∀ user, k ≠ .member channelId user) →
        view' k = view k) → Ends post next view') : Ends post (copyMembers g channelId next) view := by
  obtain ⟨n, hwrites⟩ : ∃ n, counted channelId (copiedMembers g channelId) view =
      andThen (copiedMembers g channelId view)
        (put (.conversation channelId) (conv.withCount n)) := by
    unfold counted
    rw [hconv]
    exact ⟨_, rfl⟩
  refine .statement (h _ (fun user => ?_) ⟨conv.withCount n, ?_, rfl⟩ fun k hk hu => ?_)
  · rw [hwrites, overlay_apply, andThen_apply, put_of_ne _ (by simp), Option.none_or,
      copiedMembers_member]
    cases view (.member g user) <;> rfl
  · rw [hwrites, overlay_apply, andThen_apply, put_self]
    rfl
  · rw [hwrites, overlay_apply, andThen_apply, put_of_ne _ hk, Option.none_or, copiedMembers,
      Rows.on_apply, if_neg]
    · rfl
    · intro hin
      obtain ⟨user, -, rfl⟩ := List.mem_map.mp hin
      exact hu user rfl

lemma ends_resetCursors (h : ∀ view' : Database,
      (∀ k, (∀ user, k ≠ .member g user) → view' k = view k) → Ends post next view') :
    Ends post (resetCursors g next) view := by
  refine ends_updateAll fun view' _ hout => h view' fun k hk => hout k ?_
  intro hin
  obtain ⟨user, -, rfl⟩ := List.mem_map.mp hin
  exact hk user rfl

end Upgrade

end Yappy.Tables
