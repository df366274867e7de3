import Yappy.MessageWriters

/-!
# Message numbers

The numbers of a conversation's messages are exactly those up to its `message_seq`, through every
interleaving of the writers: a transaction that has taken a number holds the conversation's row
until it ends, and none ends well between taking a number and inserting the message.
-/
namespace Yappy.Tables
open Permissions (Time Uuid)
open ReadCommitted

def place (rows : Database) (m : Uuid) : Option (Uuid × ℕ) :=
  (rows (.message m)).map fun r : Message => (r.conversationId, r.seq)

/-- `message_seq` of a conversation. -/
def head (rows : Database) (c : Uuid) : Option ℕ :=
  (rows (.conversation c)).map Conversation.messageSeq

/-- The messages of `c` have the numbers from 1 to `n`, each once. -/
structure Numbered (rows : Database) (c : Uuid) (n : ℕ) : Prop where
  within : ∀ m i, place rows m = some (c, i) → 1 ≤ i ∧ i ≤ n
  unique : ∀ i, 1 ≤ i → i ≤ n → ∃! m, place rows m = some (c, i)

structure Gapless (rows : Database) : Prop where
  numbered : ∀ c n, head rows c = some n → Numbered rows c n
  /-- `messages.conversation_id` refers to a conversation. -/
  placed : ∀ m c i, place rows m = some (c, i) → ∃ n, head rows c = some n

/-- Writes that neither number a message nor renumber one; a conversation they create is empty. -/
structure Harmless (writes : Database → Changes) : Prop where
  place : ∀ view m, place (overlay (writes view) view) m = place view m
  head : ∀ view c, head (overlay (writes view) view) c = head view c ∨
    (head view c = none ∧ head (overlay (writes view) view) c = some 0)

inductive Balanced : Program → Prop
  | done : Balanced .done
  | fail : Balanced .fail
  | commit {next : Program} (h : Balanced next) : Balanced (.commit next)
  | statement {writes : Database → Changes} {next : Database → Program} (hw : Harmless writes)
      (h : ∀ view, Balanced (next view)) : Balanced (.statement writes next)
  | post {c id : Uuid} {stamp : Conversation → Conversation} {row : ℕ → Message}
      {next : ℕ → Program} (hrow : ∀ seq, (row seq).conversationId = c ∧ (row seq).seq = seq)
      (h : ∀ seq, Balanced (next seq)) :
      Balanced (allocateMessageSeq c stamp fun seq => insertMessage id (row seq) (next seq))

/-! ## Places and heads -/

section Places
variable {rows rows' : Database} {changes other : Changes} {c m : Uuid} {i n : ℕ}

lemma place_congr (h : rows' (.message m) = rows (.message m)) : place rows' m = place rows m := by
  unfold place
  rw [h]

lemma head_congr (h : rows' (.conversation c) = rows (.conversation c)) :
    head rows' c = head rows c := by
  unfold head
  rw [h]

lemma Numbered.congr (h : Numbered rows c n)
    (hp : ∀ m i, place rows' m = some (c, i) ↔ place rows m = some (c, i)) :
    Numbered rows' c n where
  within m i hm := h.within m i ((hp m i).mp hm)
  unique i h1 hn := by
    obtain ⟨m, hm, hu⟩ := h.unique i h1 hn
    exact ⟨m, (hp m i).mpr hm, fun m' hm' => hu m' ((hp m' i).mp hm')⟩

lemma numbered_zero (h : ∀ m i, place rows m ≠ some (c, i)) : Numbered rows c 0 where
  within m i hm := absurd hm (h m i)
  unique i h1 hn := by omega

lemma Numbered.succ {id : Uuid} (h : Numbered rows c n) (hid : place rows id = none)
    (hnew : place rows' id = some (c, n + 1))
    (hold : ∀ m, m ≠ id → place rows' m = place rows m) : Numbered rows' c (n + 1) where
  within m i hm := by
    by_cases he : m = id
    · subst he
      rw [hnew] at hm
      simp only [Option.some.injEq, Prod.mk.injEq, true_and] at hm
      omega
    · rw [hold m he] at hm
      have := h.within m i hm
      omega
  unique i h1 hn := by
    rcases Nat.lt_or_ge n i with hlt | hle
    · have hi : i = n + 1 := by omega
      subst hi
      refine ⟨id, hnew, fun m hm => ?_⟩
      by_contra he
      change place rows' m = _ at hm
      rw [hold m he] at hm
      have := h.within m _ hm
      omega
    · obtain ⟨m, hm, hu⟩ := h.unique i h1 hle
      have hne : m ≠ id := by
        rintro rfl
        rw [hid] at hm
        cases hm
      refine ⟨m, (hold m hne).trans hm, fun m' hm' => ?_⟩
      change place rows' m' = _ at hm'
      by_cases he : m' = id
      · subst he
        rw [hnew] at hm'
        simp only [Option.some.injEq, Prod.mk.injEq, true_and] at hm'
        omega
      · rw [hold m' he] at hm'
        exact hu m' hm'

lemma harmless_empty : Harmless fun _ => .empty where
  place _ _ := rfl
  head _ _ := Or.inl rfl

/-- Rows of other tables, messages that keep their place and conversations that keep their count or
start at none. -/
theorem Harmless.of_rows {writes : Database → Changes}
    (hm : ∀ view m x, writes view (.message m) = some x → ∃ r r' : Message,
      view (.message m) = some r ∧ x = some r' ∧ r'.conversationId = r.conversationId ∧
        r'.seq = r.seq)
    (hc : ∀ view c x, writes view (.conversation c) = some x → ∃ r' : Conversation, x = some r' ∧
      ((∃ r : Conversation, view (.conversation c) = some r ∧ r'.messageSeq = r.messageSeq) ∨
        (view (.conversation c) = none ∧ r'.messageSeq = 0))) : Harmless writes where
  place view m := by
    cases hx : writes view (.message m) with
    | none => exact place_congr (overlay_of_none hx)
    | some x =>
      obtain ⟨r, r', hr, rfl, hconv, hseq⟩ := hm view m x hx
      unfold Tables.place
      rw [overlay_of_some hx, hr]
      simp [hconv, hseq]
  head view c := by
    cases hx : writes view (.conversation c) with
    | none => exact Or.inl (head_congr (overlay_of_none hx))
    | some x =>
      obtain ⟨r', rfl, ⟨r, hr, hseq⟩ | ⟨hr, hseq⟩⟩ := hc view c x hx
      · left
        unfold Tables.head
        rw [overlay_of_some hx, hr]
        simp [hseq]
      · right
        unfold Tables.head
        rw [overlay_of_some hx, hr]
        simp [hseq]

end Places

/-! ## A transaction among others -/

/-- How far the numbers of `c` go while a number of `due` is taken and not used. -/
def behind (due : Option Uuid) (c : Uuid) (n : ℕ) : ℕ := if due = some c then n - 1 else n

structure Sound (rows : Database) (changes : Changes) (due : Option Uuid) : Prop where
  kept : ∀ m c i, place rows m = some (c, i) → place (overlay changes rows) m = some (c, i)
  fresh : ∀ m c i, place (overlay changes rows) m = some (c, i) →
    changes (.conversation c) = none → place rows m = some (c, i)
  heads : ∀ c n, head rows c = some n → ∃ n', head (overlay changes rows) c = some n'
  placed : ∀ m c i, place (overlay changes rows) m = some (c, i) →
    ∃ n, head (overlay changes rows) c = some n
  numbered : ∀ c n, changes (.conversation c) ≠ none → head (overlay changes rows) c = some n →
    Numbered (overlay changes rows) c (behind due c n)

structure Pending (rows : Database) (changes : Changes) (row : Message) : Prop where
  locked : changes (.conversation row.conversationId) ≠ none
  head : head (overlay changes rows) row.conversationId = some row.seq
  positive : 1 ≤ row.seq

def Stands (rows : Database) (r : Request Row) : Prop :=
  (Sound rows r.changes none ∧ Balanced r.program) ∨ r.program = .fail ∧
    (∃ due, Sound rows r.changes due) ∨
  ∃ id row next, r.program = insertMessage id row next ∧ Balanced next ∧
    Pending rows r.changes row ∧ Sound rows r.changes (some row.conversationId)

section Transactions
variable {rows : Database} {changes other w : Changes} {due : Option Uuid} {c m : Uuid} {i n : ℕ}

lemma sound_empty (h : Gapless rows) : Sound rows .empty none where
  kept _ _ _ hm := hm
  fresh _ _ _ hm _ := hm
  heads _ n hn := ⟨n, hn⟩
  placed m c i hm := h.placed m c i hm
  numbered _ _ hc := absurd rfl hc

lemma Sound.untouched (h : Sound rows changes due) (hc : changes (.conversation c) = none) :
    head (overlay changes rows) c = head rows c ∧
      ∀ m i, place (overlay changes rows) m = some (c, i) ↔ place rows m = some (c, i) :=
  ⟨head_congr (overlay_of_none hc), fun m i => ⟨fun hm => h.fresh m c i hm hc, h.kept m c i⟩⟩

lemma Sound.gapless (h : Sound rows changes none) (hg : Gapless rows) :
    Gapless (overlay changes rows) where
  numbered c n hn := by
    by_cases hc : changes (.conversation c) = none
    · obtain ⟨hhead, hplace⟩ := h.untouched hc
      rw [hhead] at hn
      exact (hg.numbered c n hn).congr hplace
    · have := h.numbered c n hc hn
      rwa [behind, if_neg (by simp)] at this
  placed := h.placed

section Other
/- Another transaction commits, which has written none of the same rows. -/
variable (hd : ∀ k, changes k = none ∨ other k = none)
include hd

lemma locked_eq (ho : Sound rows other none)
    (hc : changes (.conversation c) ≠ none) :
    head (overlay changes (overlay other rows)) c = head (overlay changes rows) c ∧
      ∀ m i, place (overlay changes (overlay other rows)) m = some (c, i) ↔
        place (overlay changes rows) m = some (c, i) := by
  have hoc : other (.conversation c) = none := (hd _).resolve_left hc
  constructor
  · refine head_congr ?_
    obtain ⟨x, hx⟩ := Option.ne_none_iff_exists'.mp hc
    rw [overlay_of_some hx, overlay_of_some hx]
  · intro m i
    cases hm : changes (.message m) with
    | some x =>
      have hsame : place (overlay changes (overlay other rows)) m = place (overlay changes rows) m :=
        place_congr (by rw [overlay_of_some hm, overlay_of_some hm])
      rw [hsame]
    | none =>
      have hother : place (overlay changes (overlay other rows)) m = place (overlay other rows) m :=
        place_congr (overlay_of_none hm)
      have hrows : place (overlay changes rows) m = place rows m := place_congr (overlay_of_none hm)
      rw [hother, hrows]
      exact ⟨fun hp => ho.fresh m c i hp hoc, ho.kept m c i⟩

lemma Sound.unlocked (h : Sound rows changes due)
    (hc : changes (.conversation c) = none) :
    head (overlay changes (overlay other rows)) c = head (overlay other rows) c ∧
      ∀ m i, place (overlay changes (overlay other rows)) m = some (c, i) ↔
        place (overlay other rows) m = some (c, i) := by
  refine ⟨head_congr (overlay_of_none hc), fun m i => ?_⟩
  cases hm : changes (.message m) with
  | none => rw [place_congr (overlay_of_none hm)]
  | some x =>
    have hom : other (.message m) = none := (hd _).resolve_left (by simp [hm])
    have hsame : place (overlay changes (overlay other rows)) m = place (overlay changes rows) m :=
      place_congr (by rw [overlay_of_some hm, overlay_of_some hm])
    have hrows : place (overlay other rows) m = place rows m := place_congr (overlay_of_none hom)
    rw [hsame, hrows]
    exact (h.untouched hc).2 m i

lemma Sound.stable (h : Sound rows changes due) (ho : Sound rows other none)
    (hg : Gapless rows) : Sound (overlay other rows) changes due := by
  have hg' := ho.gapless hg
  refine ⟨fun m c i hm => ?_, fun m c i hm hc => ((h.unlocked hd hc).2 m i).mp hm,
    fun c n hn => ?_, fun m c i hm => ?_, fun c n hc hn => ?_⟩
  · by_cases hc : changes (.conversation c) = none
    · exact ((h.unlocked hd hc).2 m i).mpr hm
    · have hoc : other (.conversation c) = none := (hd _).resolve_left hc
      exact ((locked_eq hd ho hc).2 m i).mpr (h.kept m c i (ho.fresh m c i hm hoc))
  · by_cases hc : changes (.conversation c) = none
    · exact ⟨n, (h.unlocked hd hc).1.trans hn⟩
    · have hoc : other (.conversation c) = none := (hd _).resolve_left hc
      rw [(ho.untouched hoc).1] at hn
      rw [(locked_eq hd ho hc).1]
      exact h.heads c n hn
  · by_cases hc : changes (.conversation c) = none
    · rw [(h.unlocked hd hc).1]
      exact hg'.placed m c i (((h.unlocked hd hc).2 m i).mp hm)
    · rw [(locked_eq hd ho hc).1]
      exact h.placed m c i (((locked_eq hd ho hc).2 m i).mp hm)
  · rw [(locked_eq hd ho hc).1] at hn
    exact (h.numbered c n hc hn).congr (locked_eq hd ho hc).2

end Other

lemma Sound.statement (h : Sound rows changes none) (hg : Gapless rows)
    {writes : Database → Changes} (hw : Harmless writes) :
    Sound rows (andThen changes (writes (overlay changes rows))) none := by
  have hplace : ∀ m, place (overlay (andThen changes (writes (overlay changes rows))) rows) m =
      place (overlay changes rows) m := fun m =>
    (place_congr (by rw [overlay_andThen])).trans (hw.place _ m)
  have hhead : ∀ c, _ := fun c => by
    have := hw.head (overlay changes rows) c
    rwa [← overlay_andThen] at this
  have hgap := h.gapless hg
  refine ⟨fun m c i hm => (hplace m).trans (h.kept m c i hm), fun m c i hm hc => ?_,
    fun c n hn => ?_, fun m c i hm => ?_, fun c n _ hn => ?_⟩
  · rw [hplace] at hm
    rw [andThen_apply] at hc
    exact h.fresh m c i hm (Option.or_eq_none_iff.mp hc).2
  · obtain ⟨n', hn'⟩ := h.heads c n hn
    rcases hhead c with he | ⟨hnone, -⟩
    · exact ⟨n', he.trans hn'⟩
    · rw [hn'] at hnone
      cases hnone
  · rw [hplace] at hm
    obtain ⟨n, hn⟩ := hgap.placed m c i hm
    rcases hhead c with he | ⟨hnone, -⟩
    · exact ⟨n, he.trans hn⟩
    · rw [hn] at hnone
      cases hnone
  · rw [behind, if_neg (by simp)]
    rcases hhead c with he | ⟨hnone, hzero⟩
    · rw [he] at hn
      exact (hgap.numbered c n hn).congr fun m i => by rw [hplace]
    · rw [hn] at hzero
      obtain rfl := Option.some.inj hzero
      refine numbered_zero fun m i hm => ?_
      rw [hplace] at hm
      obtain ⟨n, hn⟩ := hgap.placed m c i hm
      rw [hnone] at hn
      cases hn

lemma Sound.allocate (h : Sound rows changes none) (hg : Gapless rows) {conv conv' : Conversation}
    (hc : overlay changes rows (.conversation c) = some conv)
    (hseq : conv'.messageSeq = conv.messageSeq + 1) :
    Sound rows (andThen changes (put (.conversation c) conv')) (some c) := by
  have hview : ∀ k, overlay (andThen changes (put (.conversation c) conv')) rows k =
      overlay (put (.conversation c) conv') (overlay changes rows) k := fun k => by rw [overlay_andThen]
  have hplace : ∀ m, place (overlay (andThen changes (put (.conversation c) conv')) rows) m =
      place (overlay changes rows) m := fun m =>
    place_congr ((hview _).trans (overlay_of_none (put_of_ne _ (by simp))))
  have hself : head (overlay (andThen changes (put (.conversation c) conv')) rows) c =
      some (conv.messageSeq + 1) := by
    unfold head
    rw [hview, overlay_of_some (put_self _ _)]
    simp [hseq]
  have hhead : ∀ d, d ≠ c → head (overlay (andThen changes (put (.conversation c) conv')) rows) d =
      head (overlay changes rows) d := fun d hd =>
    head_congr ((hview _).trans (overlay_of_none (put_of_ne _ (by simp [hd]))))
  have hexists : ∀ d n, head (overlay changes rows) d = some n →
      ∃ n', head (overlay (andThen changes (put (.conversation c) conv')) rows) d = some n' := by
    intro d n hn
    by_cases hd : d = c
    · subst hd
      exact ⟨_, hself⟩
    · exact ⟨n, (hhead d hd).trans hn⟩
  have hgap := h.gapless hg
  refine ⟨fun m d i hm => (hplace m).trans (h.kept m d i hm), fun m d i hm hd => ?_,
    fun d n hn => ?_, fun m d i hm => ?_, fun d n _ hn => ?_⟩
  · rw [hplace] at hm
    rw [andThen_apply] at hd
    exact h.fresh m d i hm (Option.or_eq_none_iff.mp hd).2
  · obtain ⟨n', hn'⟩ := h.heads d n hn
    exact hexists d n' hn'
  · rw [hplace] at hm
    obtain ⟨n, hn⟩ := hgap.placed m d i hm
    exact hexists d n hn
  · have hcongr : ∀ n, Numbered (overlay changes rows) d n → Numbered _ d n := fun n hn =>
      hn.congr fun m i => by rw [hplace]
    by_cases hd : d = c
    · subst hd
      rw [hself] at hn
      obtain rfl := Option.some.inj hn
      rw [behind, if_pos rfl, Nat.add_sub_cancel]
      exact hcongr _ (hgap.numbered d _ (by simp [head, hc]))
    · rw [hhead d hd] at hn
      rw [behind, if_neg (by simpa using Ne.symm hd)]
      exact hcongr n (hgap.numbered d n hn)

lemma Sound.insert {id : Uuid} {row : Message}
    (h : Sound rows changes (some row.conversationId)) (hp : Pending rows changes row)
    (hid : overlay changes rows (.message id) = none) :
    Sound rows (andThen changes (put (.message id) row)) none := by
  have hview : ∀ k, overlay (andThen changes (put (.message id) row)) rows k =
      overlay (put (.message id) row) (overlay changes rows) k := fun k => by rw [overlay_andThen]
  have hhead : ∀ d, head (overlay (andThen changes (put (.message id) row)) rows) d =
      head (overlay changes rows) d := fun d =>
    head_congr ((hview _).trans (overlay_of_none (put_of_ne _ (by simp))))
  have hplace : ∀ m, m ≠ id → place (overlay (andThen changes (put (.message id) row)) rows) m =
      place (overlay changes rows) m := fun m hm =>
    place_congr ((hview _).trans (overlay_of_none (put_of_ne _ (by simp [hm]))))
  have hnew : place (overlay (andThen changes (put (.message id) row)) rows) id =
      some (row.conversationId, row.seq) := by
    unfold place
    rw [hview, overlay_of_some (put_self _ _)]
    rfl
  have hold : place (overlay changes rows) id = none := by
    unfold place
    rw [hid]
    rfl
  have hchanges : ∀ d, andThen changes (put (.message id) row) (.conversation d) =
      changes (.conversation d) := fun d => by
    rw [andThen_apply, put_of_ne _ (by simp), Option.none_or]
  refine ⟨fun m d i hm => ?_, fun m d i hm hd => ?_, fun d n hn => ?_, fun m d i hm => ?_,
    fun d n hd hn => ?_⟩
  · have hm' := h.kept m d i hm
    rw [hplace m]
    · exact hm'
    · rintro rfl
      rw [hold] at hm'
      cases hm'
  · rw [hchanges] at hd
    by_cases he : m = id
    · subst he
      rw [hnew] at hm
      simp only [Option.some.injEq, Prod.mk.injEq] at hm
      exact absurd (hm.1 ▸ hd) hp.locked
    · rw [hplace m he] at hm
      exact h.fresh m d i hm hd
  · rw [hhead]
    exact h.heads d n hn
  · rw [hhead]
    by_cases he : m = id
    · subst he
      rw [hnew] at hm
      simp only [Option.some.injEq, Prod.mk.injEq] at hm
      exact ⟨row.seq, hm.1 ▸ hp.head⟩
    · rw [hplace m he] at hm
      exact h.placed m d i hm
  · rw [hchanges] at hd
    rw [hhead] at hn
    rw [behind, if_neg (by simp)]
    have hnum := h.numbered d n hd hn
    by_cases he : row.conversationId = d
    · subst he
      rw [hp.head] at hn
      obtain rfl := Option.some.inj hn
      rw [behind, if_pos rfl] at hnum
      obtain ⟨k, hk⟩ : ∃ k, row.seq = k + 1 := ⟨row.seq - 1, by have := hp.positive; omega⟩
      rw [hk] at hnew ⊢
      rw [hk, Nat.add_sub_cancel] at hnum
      exact hnum.succ hold hnew hplace
    · rw [behind, if_neg (by simpa using he)] at hnum
      refine hnum.congr fun m i => ?_
      by_cases hm : m = id
      · subst hm
        rw [hnew, hold]
        simp [he]
      · rw [hplace m hm]

end Transactions

/-! ## Requests -/

section Requests
variable {rows : Database} {changes other : Changes} {c id : Uuid}
  {stamp : Conversation → Conversation} {row : Message} {writes : Database → Changes}
  {next : Database → Program} {after : ℕ → Program} {rest : Program}

lemma allocateMessageSeq_inv (h : allocateMessageSeq c stamp after = .statement writes next)
    (view : Database) :
    (∃ conv : Conversation, view (.conversation c) = some conv ∧
      writes view = put (.conversation c) { stamp conv with messageSeq := conv.messageSeq + 1 } ∧
      next view = after (conv.messageSeq + 1)) ∨
    (writes view = .empty ∧ next view = .fail) := by
  unfold allocateMessageSeq Statement.update Statement.updateWhere at h
  obtain ⟨rfl, rfl⟩ := Program.statement.inj h
  beta_reduce
  cases hc : view (.conversation c) with
  | none => exact Or.inr ⟨rfl, rfl⟩
  | some conv => exact Or.inl ⟨conv, rfl, rfl, rfl⟩

lemma insertMessage_inv (h : insertMessage id row rest = .statement writes next)
    (view : Database) :
    (view (.message id) = none ∧ writes view = put (.message id) row ∧ next view = rest) ∨
    (writes view = .empty ∧ next view = .fail) := by
  unfold insertMessage at h
  obtain ⟨rfl, rfl⟩ := Program.statement.inj h
  cases hv : violates view id row with
  | true => exact Or.inr ⟨if_pos hv, if_pos hv⟩
  | false =>
    have hn : ¬ violates view id row = true := by simp [hv]
    refine Or.inl ⟨?_, if_neg hn, if_neg hn⟩
    simp only [violates, Bool.or_eq_false_iff, Option.isSome_eq_false_iff,
      Option.isNone_iff_eq_none] at hv
    exact hv.1.1

lemma Balanced.commit_inv {p next : Program} (h : Balanced p) (hp : p = .commit next) :
    Balanced next := by
  cases h with
  | commit h =>
    obtain rfl := Program.commit.inj hp
    exact h
  | post => cases hp
  | done => cases hp
  | fail => cases hp
  | statement => cases hp

lemma Balanced.statement_inv {p : Program} (h : Balanced p) (hp : p = .statement writes next) :
    (Harmless writes ∧ ∀ view, Balanced (next view)) ∨
    ∃ (c id : Uuid) (stamp : Conversation → Conversation) (row : ℕ → Message)
      (after : ℕ → Program), (∀ seq, (row seq).conversationId = c ∧ (row seq).seq = seq) ∧
      (∀ seq, Balanced (after seq)) ∧
      allocateMessageSeq c stamp (fun seq => insertMessage id (row seq) (after seq)) =
        .statement writes next := by
  cases h with
  | statement hw h =>
    obtain ⟨rfl, rfl⟩ := Program.statement.inj hp
    exact Or.inl ⟨hw, h⟩
  | @post c id stamp row after hrow h => exact Or.inr ⟨c, id, stamp, row, after, hrow, h, hp⟩
  | done => cases hp
  | fail => cases hp
  | commit => cases hp

lemma stands_fail {due : Option Uuid} (h : Sound rows changes due) :
    Stands rows ⟨changes, .fail⟩ := Or.inr (Or.inl ⟨rfl, due, h⟩)

lemma stands_statement (hg : Gapless rows) (h : Stands rows ⟨changes, .statement writes next⟩) :
    Stands rows ⟨andThen changes (writes (overlay changes rows)), next (overlay changes rows)⟩ := by
  rcases h with ⟨hs, hb⟩ | ⟨hfail, -⟩ | ⟨id, row, rest, hprog, hb, hp, hs⟩
  · rcases hb.statement_inv rfl with
      ⟨hw, hn⟩ | ⟨c, id, stamp, row, after, hrow, hafter, hprog⟩
    · exact Or.inl ⟨hs.statement hg hw, hn _⟩
    · rcases allocateMessageSeq_inv hprog (overlay changes rows) with
        ⟨conv, hconv, hw, hn⟩ | ⟨hw, hn⟩
      · obtain ⟨hc, hseq⟩ := hrow (conv.messageSeq + 1)
        rw [hw, hn]
        refine Or.inr (Or.inr ⟨id, _, _, rfl, hafter _, ⟨?_, ?_, by omega⟩, ?_⟩)
        · rw [hc, andThen_apply, put_self]
          simp
        · unfold head
          rw [hc, overlay_andThen, overlay_of_some (put_self _ _), hseq]
          rfl
        · rw [hc]
          exact hs.allocate hg hconv rfl
      · rw [hw, hn]
        exact stands_fail hs
  · cases hfail
  · rcases insertMessage_inv hprog.symm (overlay changes rows) with ⟨hid, hw, hn⟩ | ⟨hw, hn⟩
    · rw [hw, hn]
      exact Or.inl ⟨hs.insert hp hid, hb⟩
    · rw [hw, hn]
      exact stands_fail hs

lemma stands_commit (h : Stands rows ⟨changes, .commit rest⟩) :
    Sound rows changes none ∧ Balanced rest := by
  rcases h with ⟨hs, hb⟩ | ⟨hfail, -⟩ | ⟨id, row, rest, hprog, -⟩
  · exact ⟨hs, hb.commit_inv rfl⟩
  · cases hfail
  · cases hprog

lemma stands_stable {r : Request Row} (hg : Gapless rows)
    (ho : Stands rows ⟨other, .commit rest⟩) (h : Stands rows r)
    (hd : ∀ k, r.changes k = none ∨ other k = none) : Stands (overlay other rows) r := by
  obtain ⟨hso, -⟩ := stands_commit ho
  rcases h with ⟨hs, hb⟩ | ⟨hfail, due, hs⟩ | ⟨id, row, rest, hprog, hb, hp, hs⟩
  · exact Or.inl ⟨hs.stable hd hso hg, hb⟩
  · exact Or.inr (Or.inl ⟨hfail, due, hs.stable hd hso hg⟩)
  · refine Or.inr (Or.inr ⟨id, row, rest, hprog, hb, ⟨hp.locked, ?_, hp.positive⟩,
      hs.stable hd hso hg⟩)
    rw [(locked_eq hd hso hp.locked).1]
    exact hp.head

/-- The committed rows are numbered, and number what `rows₀` did as it did. -/
def Extends (rows₀ rows : Database) : Prop :=
  Gapless rows ∧ ∀ m c i, place rows₀ m = some (c, i) → place rows m = some (c, i)

lemma balanced_upholds (rows₀ : Database) {ok : Server Row → Event Row → Prop} :
    Upholds Balanced ok (Extends rows₀) fun _ => Stands where
  start _ hg hb := Or.inl ⟨sound_empty hg.1, hb⟩
  statement _ _ hg hs := stands_statement hg.1 hs
  commit _ _ hg hs := by
    obtain ⟨hsound, hb⟩ := stands_commit hs
    have hgap := hsound.gapless hg.1
    exact ⟨⟨hgap, fun m c i hm => hsound.kept m c i (hg.2 m c i hm)⟩,
      Or.inl ⟨sound_empty hgap, hb⟩⟩
  abort hg := Or.inl ⟨sound_empty hg.1, .done⟩
  stable _ hg ho hs hd := stands_stable hg.1 ho hs hd

end Requests

end Yappy.Tables
