import Yappy.MembershipOwners

/-!
# Bans

Nobody is banned from a conversation and in it, once whoever is banned while in it is removed by the
request that banned them and nobody comes in past a ban written after they were checked. A ban counts
until it expires, for the conversation and for whoever is refused entry.
-/
namespace Yappy.Tables
open Permissions (MemberRole Time Uuid)
open ReadCommitted
open Statement

/-- Not expired at `now`. -/
def Ban.live (now : Time) (b : Ban) : Bool := b.expiresAt.all fun t => now < t

def Banned (now : Time) (rows : Database) (g user : Uuid) : Prop :=
  ∃ b : Ban, rows (.ban g user) = some b ∧ b.live now = true

def Present (rows : Database) (g user : Uuid) : Prop :=
  ∃ m : Member, rows (.member g user) = some m ∧ m.leftAt = none

inductive Closing (g : Uuid) : Program → Prop
  | commit {next : Program} : Closing g (.commit next)
  | statement {writes : Database → Changes} {next : Database → Program}
      (hw : ∀ view user, writes view (.member g user) = none)
      (h : ∀ view, next view ≠ .fail → Closing g (next view)) : Closing g (.statement writes next)

section Eviction
variable (permissions : Database → Uuid → Uuid → ℕ) (g user : Uuid)

inductive Evicting : Request Row → Prop
  | asked {actor messageId : Uuid} {clock : Time} :
      Evicting ⟨.empty, removeMember permissions actor g user messageId clock⟩
  | ranked {role : MemberRole} {actor messageId : Uuid} {clock : Time} :
      Evicting ⟨.empty, checkTarget role g user (removal actor g user messageId clock)⟩
  | due {actor messageId : Uuid} {clock : Time} :
      Evicting ⟨.empty, removal actor g user messageId clock⟩
  | gone {changes : Changes} {program : Program}
      (hrow : ∃ m : Member, changes (.member g user) = some (some m) ∧ m.leftAt ≠ none)
      (hp : Closing g program) : Evicting ⟨changes, program⟩

def EvictedElsewhere (s : Server Row) (id : RequestId) : Prop :=
  ∃ other r, other ≠ id ∧ s.requests other = some r ∧ Evicting permissions g user r

end Eviction

/-- When each request looks at the bans, and when everyone else does in the end. -/
structure Clocks where
  check : RequestId → Time
  final : Time

/-- What a run has to meet for `g`. -/
def Lasting (permissions : Database → Uuid → Uuid → ℕ) (clocks : Clocks) (g : Uuid)
    (s : Server Row) : Event Row → Prop
  | .start .. => True
  | .statement id => ∀ changes writes next, s.requests id = some ⟨changes, .statement writes next⟩ →
      -- a removal that a ban goes on with is not refused, and does not fail
      ((∃ user, Evicting permissions g user ⟨changes, .statement writes next⟩) →
        next (overlay changes s.rows) ≠ .fail) ∧
      -- nobody is checked against a ban that has expired and is still there
      ∀ c users rest, .statement writes next = checkBans c users rest → ∀ user ∈ users,
        ∀ b : Ban, overlay changes s.rows (.ban c user) = some b → b.live (clocks.check id) = true
  | .commit id => ∀ changes next, s.requests id = some ⟨changes, .commit next⟩ →
      -- whoever comes in is not banned, or is about to be removed
      (∀ user, (∃ m : Member, changes (.member g user) = some (some m) ∧ m.leftAt = none) →
        Banned clocks.final s.rows g user → EvictedElsewhere permissions g user s id) ∧
      -- whoever is banned is not in, or is about to be removed
      ∀ user, (∃ b : Ban, changes (.ban g user) = some (some b) ∧ b.live clocks.final = true) →
        Present (overlay changes s.rows) g user →
        Evicting permissions g user ⟨.empty, next⟩ ∨ EvictedElsewhere permissions g user s id
  -- and is not rolled back
  | .abort id => ∀ r user, s.requests id = some r → ¬ Evicting permissions g user r

section Steps
variable {permissions : Database → Uuid → Uuid → ℕ} {clocks : Clocks} {g user : Uuid}
  {rows view : Database} {s s' : Server Row} {event : Event Row} {accepted : Program → Prop}

lemma closing_announce {id messageId : Uuid} {payload : SystemPayload} {clock : Time}
    {next : Program} : Closing g (announce id messageId payload clock next) := by
  have hconversation : ∀ {f : Conversation → Conversation} {rest : Option Conversation → Program},
      (∀ r, rest r ≠ .fail → Closing g (rest r)) →
      Closing g (update (.conversation id) f rest) := by
    intro f rest h
    refine .statement (fun view user => ?_) fun view => h _
    split
    · exact @put_of_ne _ Row _ _ _ _ (by simp)
    · rfl
  unfold announce writeSystemMessage allocateMessageSeq
  refine hconversation fun r hr => ?_
  cases r with
  | none => exact absurd rfl hr
  | some c =>
    refine .statement (fun view user => ?_) fun view hv => ?_
    · split_ifs
      · rfl
      · exact @put_of_ne _ Row _ _ _ _ (by simp)
    · split_ifs at hv ⊢
      · exact absurd rfl hv
      · exact hconversation fun _ _ => .commit

lemma Evicting.statement {changes : Changes} {writes : Database → Changes}
    {next : Database → Program}
    (h : Evicting permissions g user ⟨changes, .statement writes next⟩)
    (hok : next (overlay changes rows) ≠ .fail) (hin : Present rows g user) :
    Evicting permissions g user
      ⟨andThen changes (writes (overlay changes rows)), next (overlay changes rows)⟩ := by
  generalize hr : (⟨changes, .statement writes next⟩ : Request Row) = r at h
  cases h with
  | asked =>
    cases hr
    beta_reduce at hok ⊢
    rw [andThen_empty]
    split at hok
    · exact absurd rfl hok
    · split_ifs at hok ⊢ with hdm hself howner hkick
      · exact absurd rfl hok
      · exact absurd rfl hok
      · exact .due
      · exact absurd rfl hok
      · exact .ranked
  | ranked =>
    cases hr
    beta_reduce at hok ⊢
    rw [andThen_empty]
    split_ifs at hok ⊢
    · exact .due
    · exact absurd rfl hok
  | @due actor messageId clock =>
    cases hr
    beta_reduce at hok ⊢
    rw [overlay_empty] at hok ⊢
    obtain ⟨m, hm, hl⟩ := hin
    have hmatch : user ∈ matching rows g [user] fun m => m.leftAt.isNone :=
      mem_matching.mpr ⟨List.mem_singleton_self user, m, hm, by simp [hl]⟩
    rw [if_neg (List.ne_nil_of_mem hmatch)]
    refine .gone ⟨m.gone clock, ?_, by simp [Member.gone]⟩ closing_announce
    unfold updatedMembers
    rw [if_neg (List.ne_nil_of_mem hmatch), andThen_apply, counted_of_ne (by simp), replaced_member,
      if_pos hmatch, hm]
    rfl
  | gone hrow hp =>
    obtain ⟨m, hm, hl⟩ := hrow
    cases hr
    cases hp with
    | statement hw h =>
      refine .gone ⟨m, ?_, hl⟩ (h _ hok)
      rw [andThen_apply, hw, Option.none_or]
      exact hm

lemma Evicting.commit {changes : Changes} {next : Program}
    (h : Evicting permissions g user ⟨changes, .commit next⟩) :
    ¬ Present (overlay changes rows) g user := by
  generalize hr : (⟨changes, .commit next⟩ : Request Row) = r at h
  cases h with
  | asked | ranked | due => cases hr
  | gone hrow hp =>
    obtain ⟨m, hm, hl⟩ := hrow
    cases hr
    rintro ⟨m', hm', hl'⟩
    rw [overlay_of_some hm] at hm'
    obtain rfl := Option.some.inj hm'
    exact hl hl'

def Enforced (permissions : Database → Uuid → Uuid → ℕ) (now : Time) (g : Uuid)
    (s : Server Row) : Prop :=
  ∀ user, Banned now s.rows g user → Present s.rows g user →
    ∃ id r, s.requests id = some r ∧ Evicting permissions g user r

lemma Enforced.step (h : Enforced permissions clocks.final g s)
    (hok : Lasting permissions clocks g s event) (hs : Step accepted s event s') :
    Enforced permissions clocks.final g s' := by
  intro user hb hp
  -- a request that another one's step leaves as it was
  have hkeep : ∀ {t : Server Row} {id r'}, t.requests = s.requests →
      EvictedElsewhere permissions g user s id →
      ∃ i r, (t.set id r').requests i = some r ∧ Evicting permissions g user r := by
    rintro t id r' ht ⟨other, r, hne, hr, he⟩
    exact ⟨other, r, (set_requests_of_ne _ hne).trans ((congrFun ht other).trans hr), he⟩
  cases hs with
  | @start id program hid _ =>
    obtain ⟨i, r, hr, he⟩ := h user hb hp
    have hne : i ≠ id := by
      rintro rfl
      rw [hid] at hr
      cases hr
    exact hkeep rfl ⟨i, r, hne, hr, he⟩
  | @statement id changes writes next hr _ =>
    obtain ⟨i, r, hri, he⟩ := h user hb hp
    by_cases hi : i = id
    · subst hi
      rw [hr] at hri
      obtain rfl := Option.some.inj hri
      exact ⟨i, _, set_requests_self .., he.statement ((hok _ _ _ hr).1 ⟨user, he⟩) hp⟩
    · exact hkeep rfl ⟨i, r, hi, hri, he⟩
  | @commit id changes next hr =>
    obtain ⟨henter, hban⟩ := hok changes next hr
    change Banned _ (overlay changes s.rows) g user at hb
    change Present (overlay changes s.rows) g user at hp
    cases hx : changes (.ban g user) with
    | some x =>
      obtain ⟨b, hbx, hlive⟩ := hb
      rw [overlay_of_some hx] at hbx
      subst hbx
      rcases hban user ⟨b, hx, hlive⟩ hp with he | he
      · exact ⟨id, _, set_requests_self .., he⟩
      · exact hkeep rfl he
    | none =>
      have hb' : Banned clocks.final s.rows g user := by
        obtain ⟨b, hbx, hlive⟩ := hb
        rw [overlay_of_none hx] at hbx
        exact ⟨b, hbx, hlive⟩
      cases hm : changes (.member g user) with
      | some y =>
        obtain ⟨m, hmy, hl⟩ := hp
        rw [overlay_of_some hm] at hmy
        subst hmy
        exact hkeep rfl (henter user ⟨m, hm, hl⟩ hb')
      | none =>
        obtain ⟨i, r, hri, he⟩ := h user hb' (by
          obtain ⟨m, hmy, hl⟩ := hp
          rw [overlay_of_none hm] at hmy
          exact ⟨m, hmy, hl⟩)
        by_cases hi : i = id
        · subst hi
          rw [hr] at hri
          obtain rfl := Option.some.inj hri
          exact absurd hp he.commit
        · exact hkeep rfl ⟨i, r, hi, hri, he⟩
  | @abort id r₀ hr =>
    obtain ⟨i, r, hri, he⟩ := h user hb hp
    have hne : i ≠ id := by
      rintro rfl
      exact hok r user hri he
    exact hkeep rfl ⟨i, r, hne, hri, he⟩

end Steps

section Runs
variable {permissions : Database → Uuid → Uuid → ℕ} {clocks : Clocks} {g : Uuid}
  {rows : Database} {s s' : Server Row}

end Runs

namespace Sample

end Sample

namespace Sample

def asking (s : Server Row) (id : RequestId) : Bool :=
  match s.requests id with
  | some ⟨_, .statement ..⟩ => true
  | _ => false

def throws (s : Server Row) (id : RequestId) : Bool :=
  match (s.advance id).requests id with
  | some ⟨_, .fail⟩ => true
  | _ => false

def written (s : Server Row) (id : RequestId) : Changes :=
  match s.requests id with
  | some r => r.changes
  | none => .empty

end Sample

end Yappy.Tables
