import Yappy.BitMask

/-!
# The permission model

`packages/shared/src/permissions.ts`. A permission set is a mask of bits, and a member's
effective permissions are composed out of the conversation's base, the role ladder, named
roles, channel overwrites, the member's own pair of masks and an active mute.
-/
namespace Yappy.Permissions

inductive ConversationType
  | dm | group | channel | space
  deriving DecidableEq

inductive MemberRole
  | owner | admin | moderator | member | restricted
  deriving DecidableEq

/-- Milliseconds since the epoch. -/
abbrev Time := ℕ

namespace Permission

def viewConversation : ℕ := 2 ^ 0
def readHistory : ℕ := 2 ^ 1
def sendMessages : ℕ := 2 ^ 2
def sendMedia : ℕ := 2 ^ 3
def sendVoiceNotes : ℕ := 2 ^ 4
def sendStickers : ℕ := 2 ^ 5
def sendGifs : ℕ := 2 ^ 6
def sendPolls : ℕ := 2 ^ 7
def addReactions : ℕ := 2 ^ 8
def mentionAll : ℕ := 2 ^ 9
def embedLinks : ℕ := 2 ^ 10
def editOwnMessages : ℕ := 2 ^ 11
def deleteOwnMessages : ℕ := 2 ^ 12
def deleteAnyMessage : ℕ := 2 ^ 13
def pinMessages : ℕ := 2 ^ 14
def startCall : ℕ := 2 ^ 20
def joinCall : ℕ := 2 ^ 21
def endCallForAll : ℕ := 2 ^ 22
def screenShare : ℕ := 2 ^ 23
def inviteMembers : ℕ := 2 ^ 30
def manageInvites : ℕ := 2 ^ 31
def kickMembers : ℕ := 2 ^ 32
def banMembers : ℕ := 2 ^ 33
def muteMembers : ℕ := 2 ^ 34
def manageRoles : ℕ := 2 ^ 35
def manageConversation : ℕ := 2 ^ 36
def manageStickers : ℕ := 2 ^ 37
def administrator : ℕ := 2 ^ 62

/-- The entries of the `Permission` record, in its order. -/
def entries : List (String × ℕ) :=
  [("VIEW_CONVERSATION", viewConversation), ("READ_HISTORY", readHistory),
    ("SEND_MESSAGES", sendMessages), ("SEND_MEDIA", sendMedia),
    ("SEND_VOICE_NOTES", sendVoiceNotes), ("SEND_STICKERS", sendStickers),
    ("SEND_GIFS", sendGifs), ("SEND_POLLS", sendPolls), ("ADD_REACTIONS", addReactions),
    ("MENTION_ALL", mentionAll), ("EMBED_LINKS", embedLinks),
    ("EDIT_OWN_MESSAGES", editOwnMessages), ("DELETE_OWN_MESSAGES", deleteOwnMessages),
    ("DELETE_ANY_MESSAGE", deleteAnyMessage), ("PIN_MESSAGES", pinMessages),
    ("START_CALL", startCall), ("JOIN_CALL", joinCall), ("END_CALL_FOR_ALL", endCallForAll),
    ("SCREEN_SHARE", screenShare), ("INVITE_MEMBERS", inviteMembers),
    ("MANAGE_INVITES", manageInvites), ("KICK_MEMBERS", kickMembers),
    ("BAN_MEMBERS", banMembers), ("MUTE_MEMBERS", muteMembers), ("MANAGE_ROLES", manageRoles),
    ("MANAGE_CONVERSATION", manageConversation), ("MANAGE_STICKERS", manageStickers),
    ("ADMINISTRATOR", administrator)]

end Permission

open Permission

def allPermissions : ℕ := bitOr (entries.map Prod.snd)

def sendBundle : ℕ :=
  sendMessages ||| sendMedia ||| sendVoiceNotes ||| sendStickers ||| sendGifs ||| sendPolls |||
    addReactions ||| embedLinks

def ownMessageBundle : ℕ := editOwnMessages ||| deleteOwnMessages

def baseMember : ℕ :=
  viewConversation ||| readHistory ||| sendBundle ||| ownMessageBundle ||| startCall |||
    joinCall ||| screenShare ||| inviteMembers

def moderator : ℕ :=
  baseMember ||| deleteAnyMessage ||| pinMessages ||| muteMembers ||| kickMembers |||
    mentionAll ||| endCallForAll

def admin : ℕ :=
  moderator ||| banMembers ||| manageConversation ||| manageInvites ||| manageStickers |||
    manageRoles

def restricted : ℕ := viewConversation ||| readHistory ||| joinCall

def rolePermissions : MemberRole → ℕ
  | .owner => allPermissions
  | .admin => admin
  | .moderator => moderator
  | .member => 0
  | .restricted => restricted

def defaultConversationPermissions : ConversationType → ℕ
  | .dm => viewConversation ||| readHistory ||| sendBundle ||| ownMessageBundle |||
      pinMessages ||| startCall ||| joinCall ||| screenShare
  | .group => baseMember
  | .channel => baseMember
  | .space => viewConversation ||| readHistory ||| joinCall ||| inviteMembers

def roleRank : MemberRole → ℕ
  | .owner => 4
  | .admin => 3
  | .moderator => 2
  | .member => 1
  | .restricted => 0

structure EffectivePermissionInput where
  conversationType : ConversationType
  basePermissions : Option ℕ
  role : MemberRole
  rolePermissions : Option ℕ
  roleAllow : Option ℕ
  roleDeny : Option ℕ
  allow : Option ℕ
  deny : Option ℕ
  mutedUntil : Option Time
  now : Option Time

def silenced : ℕ := sendBundle ||| mentionAll ||| startCall

def effectivePermissions (input : EffectivePermissionInput) (clock : Time) : ℕ :=
  let base := input.basePermissions.getD (defaultConversationPermissions input.conversationType)
  if input.role = .restricted then
    andNot (restricted ||| input.allow.getD 0) (input.deny.getD 0)
  else
    let perms :=
      if input.role = .owner then allPermissions
      else base ||| rolePermissions input.role ||| input.rolePermissions.getD 0
    -- the bypass runs before the overwrites
    let perms := if perms &&& administrator ≠ 0 then allPermissions else perms
    let perms := andNot perms (input.roleDeny.getD 0)
    let perms := perms ||| input.roleAllow.getD 0
    let perms := perms ||| input.allow.getD 0
    let perms := andNot perms (input.deny.getD 0)
    let now := input.now.getD clock
    if (input.mutedUntil.any fun until_ => until_ > now) then andNot perms silenced else perms

def has (perms required : ℕ) : Bool :=
  perms &&& administrator != 0 || perms &&& required == required

def permissionNames (perms : ℕ) : List String :=
  (entries.filter fun e => perms &&& e.2 != 0).map Prod.fst

def parsePermissions (p : Option ℕ) : ℕ := p.getD 0

def outranks (actor target : MemberRole) : Bool := roleRank actor > roleRank target

/-! ### One bit at a time -/

lemma has_eq_true {perms required : ℕ} : has perms required = true ↔
    perms.testBit 62 = true ∨ ∀ i, required.testBit i = true → perms.testBit i = true := by
  rw [← and_eq_iff, ← and_two_pow_ne_zero]
  simp [has, administrator]

/-- The six masks a member's permissions are composed of, once the role is resolved. -/
structure Tiers where
  floor : ℕ
  roleDeny : ℕ
  roleAllow : ℕ
  allow : ℕ
  deny : ℕ
  muted : ℕ

namespace Tiers

def compose (t : Tiers) : ℕ :=
  andNot (andNot (andNot t.floor t.roleDeny ||| t.roleAllow ||| t.allow) t.deny) t.muted

lemma testBit_compose (t : Tiers) (i : ℕ) : t.compose.testBit i =
    ((t.floor.testBit i && !t.roleDeny.testBit i || t.roleAllow.testBit i || t.allow.testBit i) &&
      !t.deny.testBit i && !t.muted.testBit i) := by
  simp [compose, Bool.and_assoc]

def raised (t t' : Tiers) : ℕ :=
  andNot t'.floor t.floor ||| andNot t.roleDeny t'.roleDeny ||| andNot t'.roleAllow t.roleAllow |||
    andNot t'.allow t.allow ||| andNot t.deny t'.deny ||| andNot t.muted t'.muted

/-- Every tier is monotone in its grants and antitone in its denials, so a bit gained is a bit
that some tier raised. -/
theorem raised_of_gain {t t' : Tiers} {i : ℕ} (hold : t.compose.testBit i = false)
    (hnew : t'.compose.testBit i = true) : (raised t t').testBit i = true := by
  rw [testBit_compose] at hold hnew
  simp only [raised, Nat.testBit_or, testBit_andNot]
  by_contra hr
  simp only [Bool.not_eq_true, Bool.or_eq_false_iff, Bool.and_eq_false_iff, Bool.not_eq_false'] at hr
  obtain ⟨⟨⟨⟨⟨hfloor, hroleDeny⟩, hroleAllow⟩, hallow⟩, hdeny⟩, hmuted⟩ := hr
  simp only [Bool.and_eq_true, Bool.or_eq_true, Bool.not_eq_true'] at hnew
  obtain ⟨⟨hgrant, hd⟩, hm⟩ := hnew
  have hd' : t.deny.testBit i = false := by simpa [hd] using hdeny
  have hm' : t.muted.testBit i = false := by simpa [hm] using hmuted
  rcases hgrant with (⟨hf, hrd⟩ | hra) | ha
  · have hf' : t.floor.testBit i = true := by simpa [hf] using hfloor
    have hrd' : t.roleDeny.testBit i = false := by simpa [hrd] using hroleDeny
    simp [hf', hrd', hd', hm'] at hold
  · have hra' : t.roleAllow.testBit i = true := by simpa [hra] using hroleAllow
    simp [hra', hd', hm'] at hold
  · have ha' : t.allow.testBit i = true := by simpa [ha] using hallow
    simp [ha', hd', hm'] at hold

end Tiers

namespace EffectivePermissionInput

def rankMask (input : EffectivePermissionInput) : ℕ :=
  if input.role = .owner then allPermissions
  else input.basePermissions.getD (defaultConversationPermissions input.conversationType) |||
    Permissions.rolePermissions input.role ||| input.rolePermissions.getD 0

def isMuted (input : EffectivePermissionInput) (clock : Time) : Bool :=
  input.mutedUntil.any fun until_ => until_ > input.now.getD clock

/-- `restricted` reads the member's own pair of masks and nothing else. -/
def tiers (input : EffectivePermissionInput) (clock : Time) : Tiers :=
  if input.role = .restricted then
    ⟨restricted, 0, 0, input.allow.getD 0, input.deny.getD 0, 0⟩
  else
    ⟨if input.rankMask.testBit 62 then allPermissions else input.rankMask,
      input.roleDeny.getD 0, input.roleAllow.getD 0, input.allow.getD 0, input.deny.getD 0,
      if input.isMuted clock then silenced else 0⟩

end EffectivePermissionInput

@[simp] lemma andNot_zero (x : ℕ) : andNot x 0 = x := by simp [andNot]

lemma effectivePermissions_eq_compose (input : EffectivePermissionInput) (clock : Time) :
    effectivePermissions input clock = (input.tiers clock).compose := by
  unfold effectivePermissions EffectivePermissionInput.tiers
  by_cases hr : input.role = .restricted
  · simp [hr, Tiers.compose]
  · have hbypass : (input.rankMask &&& administrator ≠ 0) ↔ input.rankMask.testBit 62 = true :=
      and_two_pow_ne_zero
    simp only [hr, if_false, Tiers.compose]
    change (if input.isMuted clock = true then _ else _) = _
    simp only [show (if input.role = .owner then allPermissions else
      input.basePermissions.getD (defaultConversationPermissions input.conversationType) |||
        rolePermissions input.role ||| input.rolePermissions.getD 0) = input.rankMask from rfl,
      hbypass]
    split <;> simp

lemma testBit_silenced_administrator : silenced.testBit 62 = false := by decide

lemma testBit_silenced_view : silenced.testBit 0 = false := by decide

lemma testBit_allPermissions_administrator : allPermissions.testBit 62 = true := by decide

lemma EffectivePermissionInput.testBit_floor_of_base {input : EffectivePermissionInput} {i : ℕ}
    (clock : Time) (hr : input.role ≠ .restricted) (hall : allPermissions.testBit i = true)
    (hbase : (input.basePermissions.getD
      (defaultConversationPermissions input.conversationType)).testBit i = true) :
    (input.tiers clock).floor.testBit i = true := by
  simp only [tiers, hr, if_false]
  split_ifs
  · exact hall
  · simp only [rankMask]
    split_ifs
    · exact hall
    · simp only [Nat.testBit_or, hbase, Bool.true_or]

lemma testBit_default_view (type : ConversationType) :
    (defaultConversationPermissions type).testBit 0 = true := by
  cases type <;> decide

end Yappy.Permissions
