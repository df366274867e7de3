import Yappy.SealedTabs

/-!
# Headers as they are parsed

`parse` of `apps/webapp/src/lib/cipher.ts` asks that the fields of a header be there and checks no
type. Here the preamble is whatever came, read as the language reads it. The other fields are the
texts and numbers that they are declared to be.
-/
namespace Yappy.Cipher

open Ratchet

inductive Json
  | null
  | bool (b : Bool)
  | num (n : ℤ)
  | fraction (text : String)
  | str (s : String)
  | arr (items : List Json)
  | obj (names : List String)

namespace Json

def isNull : Json → Bool
  | null => true
  | _ => false

/-- `=== n` -/
def isNum (n : ℤ) : Json → Bool
  | num m => m = n
  | _ => false

mutual

/-- `String(value)`, none where it throws: what stands under `toString` in parsed JSON is no function. -/
def text : Json → Option String
  | null => some "null"
  | bool b => some (if b then "true" else "false")
  | num n => some (toString n)
  | fraction text => some text
  | str s => some s
  | arr items => joined items
  | obj names => if "toString" ∈ names then none else some "[object Object]"

/-- `items.join(',')` -/
def joined : List Json → Option String
  | [] => some ""
  | [item] => if item.isNull then some "" else item.text
  | item :: items => do
    let first ← if item.isNull then some "" else item.text
    let rest ← joined items
    some (first ++ "," ++ rest)

end

end Json

/-- What the preamble's properties read, none where it has no such property. -/
structure Preamble where
  ek : Option Json
  spkId : Option Json
  otkId : Option Json

structure RawHeader where
  v : ℕ
  s : String
  u : String
  r : String
  d : String
  pn : ℤ
  n : ℤ
  k : Option Preamble
  c : String
  g : String

/-- `value ?? '-'`, as it is joined. -/
def orDash : Option Json → Option String
  | none => some "-"
  | some value => if value.isNull then some "-" else value.text

namespace RawHeader

def fields (h : RawHeader) : Option (List String) := do
  let ek ← orDash (h.k.bind Preamble.ek)
  let spkId ← orDash (h.k.bind Preamble.spkId)
  let otkId ← orDash (h.k.bind Preamble.otkId)
  some ["yappy.e2e.v2", toString h.v, h.s, h.u, h.r, h.d, toString h.pn, toString h.n, ek, spkId, otkId]

def parse (h : RawHeader) : Option RawHeader :=
  if h.v ∈ messageFormats ∧ h.s ≠ "" ∧ h.u ≠ "" ∧ h.r ≠ "" ∧ h.d ≠ "" ∧ h.c ≠ "" ∧ h.g ≠ "" then some h
  else none

def wire (h : RawHeader) : RatchetHeader := ⟨h.d, h.pn, h.n, none⟩

variable (P : Primitives)

def headerBytes (h : RawHeader) : Option P.Bytes :=
  h.fields.map fun fields => P.utf8ToBytes (separator.intercalate fields)

def signedBytes (h : RawHeader) : Option P.Bytes :=
  h.fields.map fun fields => P.utf8ToBytes (separator.intercalate (fields ++ [h.c]))

end RawHeader

variable {P : Primitives} (C : Codec P) (S : Signing P) (read : String → P.Text)

/-- `me.preKeys[otkId]`: a property is looked up by its name. -/
def keyNamed (me : RecipientPrivates P) (otkId : Option Json) : Option ℕ := do
  let name ← match otkId with
    | none => some "undefined"
    | some value => value.text
  me.preKeys.keys.find? fun id => toString id = name

/-- `accept`, of a preamble whose types nobody has checked. -/
def acceptRaw (pre : Preamble) (me : RecipientPrivates P) (theirDeviceId : String) : Option (Session P) :=
  if (pre.spkId.all fun value => !value.isNum me.signedPreKeyId) then none
  else do
    let otkId ← match pre.otkId with
      | some .null => some none
      | otkId => some <$> keyNamed me otkId
    let ek ← match pre.ek with
      | none => some "undefined"
      | some value => value.text
    accept C ⟨ek, me.signedPreKeyId, otkId⟩ me theirDeviceId

structure RawOpened (P : Primitives) where
  plaintext : String
  session : Session P
  consumedPreKeyId : Option Json

/-- `h.k?.otkId ?? null` -/
def RawHeader.consumed (h : RawHeader) : Option Json :=
  (h.k.bind Preamble.otkId).filter fun value => !value.isNull

def openWithinRaw (h : RawHeader) (aad : P.Bytes) (session : Option (Session P)) (me : RecipientPrivates P)
    (rnd rnd' : P.Secret) : Option (RawOpened P) := do
  let accepted := h.k.bind fun pre => acceptRaw C pre me h.s
  let known ← session <|> accepted
  match ratchetDecrypt C known h.wire (read h.c) aad rnd with
  | some (next, plaintext) => some ⟨plaintext, next, if session.isSome then none else h.consumed⟩
  | none =>
    if session.isSome then do
      let restarted ← accepted
      let (next, plaintext) ← ratchetDecrypt C restarted h.wire (read h.c) aad rnd'
      some ⟨plaintext, next, h.consumed⟩
    else none

def RawHeader.verified (h : RawHeader) (identityKey : String) : Option Bool := do
  let signed ← h.signedBytes P
  S.verify h.g signed identityKey

def openSealedRaw (envelope : RawHeader) (session : Option (Session P)) (me : RecipientPrivates P)
    (deviceId : String) (senderIdentityKey : Option String) (expectedAuthorId : String)
    (rnd rnd' : P.Secret) : Option (RawOpened P) := do
  let h ← envelope.parse
  let identityKey ← senderIdentityKey
  if h.r ≠ deviceId ∨ h.u ≠ expectedAuthorId then none
  else do
    let verified ← h.verified S identityKey
    if verified then do
      let aad ← h.headerBytes P
      openWithinRaw C read h aad session me rnd rnd'
    else none

/-! ## Reading the joined text back -/

structure Preamble.Formed (pre : Preamble) : Prop where
  ek : ∃ text : String, pre.ek = some (.str text) ∧ '\u001f' ∉ text.toList
  spkId : ∃ n, pre.spkId = some (.num n)
  otkId : pre.otkId = some .null ∨ ∃ n, pre.otkId = some (.num n)

/-- A header of the declared types, in whose texts the separator does not occur. -/
structure RawHeader.Formed (h : RawHeader) : Prop where
  texts : ∀ text ∈ [h.s, h.u, h.r, h.d, h.c], '\u001f' ∉ text.toList
  preamble : ∀ pre, h.k = some pre → pre.Formed

section Reading
variable {h h₁ h₂ : RawHeader} {x y : Option Json} {m n : ℤ}

lemma toString_ne_dash (n : ℤ) : toString n ≠ "-" := by
  intro h
  cases n with
  | ofNat m =>
    refine @notMem_repr '-' (by decide) m ?_
    rw [show Nat.repr m = "-" from h]
    decide
  | negSucc m =>
    have hr : toString (Int.negSucc m) = "-" ++ Nat.repr (m + 1) := rfl
    rw [hr] at h
    have hl := congrArg (fun s => s.toList.length) h
    have hpos : 0 < (Nat.repr (m + 1)).toList.length := by
      rw [Nat.toList_repr]
      exact Nat.length_toDigits_pos
    simp only [String.toList_append, List.length_append] at hl
    have hdash : "-".toList.length = 1 := by decide
    omega

lemma orDash_str (text : String) : orDash (some (.str text)) = some text := rfl

def NumOrNull (x : Option Json) : Prop := x = some .null ∨ ∃ n, x = some (.num n)

lemma NumOrNull.inj (hx : NumOrNull x) (hy : NumOrNull y) (h : orDash x = orDash y) : x = y := by
  rcases hx with rfl | ⟨m, rfl⟩
  · rcases hy with rfl | ⟨n, rfl⟩
    · rfl
    · exact absurd (Option.some.inj h).symm (toString_ne_dash n)
  · rcases hy with rfl | ⟨n, rfl⟩
    · exact absurd (Option.some.inj h) (toString_ne_dash m)
    · rw [Int.repr_inj.mp (Option.some.inj h)]

lemma Preamble.Formed.inj {pre pre' : Preamble} (h : pre.Formed) (h' : pre'.Formed)
    (hek : orDash pre.ek = orDash pre'.ek) (hspk : orDash pre.spkId = orDash pre'.spkId)
    (hotk : orDash pre.otkId = orDash pre'.otkId) : pre = pre' := by
  obtain ⟨ek, spkId, otkId⟩ := pre
  obtain ⟨ek', spkId', otkId'⟩ := pre'
  obtain ⟨⟨t, rfl, -⟩, hs, ho⟩ := h
  obtain ⟨⟨t', rfl, -⟩, hs', ho'⟩ := h'
  obtain rfl := NumOrNull.inj (Or.inr hs) (Or.inr hs') hspk
  obtain rfl := NumOrNull.inj ho ho' hotk
  obtain rfl : t = t' := Option.some.inj hek
  rfl

lemma preamble_inj (hf₁ : h₁.Formed) (hf₂ : h₂.Formed)
    (hek : orDash (h₁.k.bind Preamble.ek) = orDash (h₂.k.bind Preamble.ek))
    (hspk : orDash (h₁.k.bind Preamble.spkId) = orDash (h₂.k.bind Preamble.spkId))
    (hotk : orDash (h₁.k.bind Preamble.otkId) = orDash (h₂.k.bind Preamble.otkId)) : h₁.k = h₂.k := by
  cases hk₁ : h₁.k with
  | none =>
    cases hk₂ : h₂.k with
    | none => rfl
    | some pre₂ =>
      rw [hk₁, hk₂] at hspk
      obtain ⟨n, hn⟩ := (hf₂.preamble pre₂ hk₂).spkId
      rw [Option.bind_some, hn] at hspk
      exact absurd (Option.some.inj hspk).symm (toString_ne_dash n)
  | some pre₁ =>
    cases hk₂ : h₂.k with
    | none =>
      rw [hk₁, hk₂] at hspk
      obtain ⟨n, hn⟩ := (hf₁.preamble pre₁ hk₁).spkId
      rw [Option.bind_some, hn] at hspk
      exact absurd (Option.some.inj hspk) (toString_ne_dash n)
    | some pre₂ =>
      rw [hk₁, hk₂] at hek hspk hotk
      rw [(hf₁.preamble pre₁ hk₁).inj (hf₂.preamble pre₂ hk₂) hek hspk hotk]

lemma orDash_formed (hf : h.Formed) {f : Preamble → Option Json}
    (hp : ∀ pre : Preamble, pre.Formed → ∃ text, orDash (f pre) = some text ∧ '\u001f' ∉ text.toList) :
    ∃ text, orDash (h.k.bind f) = some text ∧ '\u001f' ∉ text.toList := by
  cases hk : h.k with
  | none => exact ⟨"-", rfl, by decide⟩
  | some pre => exact hp pre (hf.preamble pre hk)

lemma NumOrNull.text (h : NumOrNull x) : ∃ text, orDash x = some text ∧ '\u001f' ∉ text.toList := by
  rcases h with rfl | ⟨n, rfl⟩
  · exact ⟨"-", rfl, by decide⟩
  · exact ⟨_, rfl, notMem_toString (by decide) (by decide) n⟩

lemma RawHeader.Formed.fields (hf : h.Formed) : ∃ ek spkId otkId,
    orDash (h.k.bind Preamble.ek) = some ek ∧ orDash (h.k.bind Preamble.spkId) = some spkId ∧
    orDash (h.k.bind Preamble.otkId) = some otkId ∧
    h.fields = some ["yappy.e2e.v2", toString h.v, h.s, h.u, h.r, h.d, toString h.pn, toString h.n, ek,
      spkId, otkId] ∧
    ∀ text ∈ ["yappy.e2e.v2", toString h.v, h.s, h.u, h.r, h.d, toString h.pn, toString h.n, ek, spkId,
      otkId] ++ [h.c], '\u001f' ∉ text.toList := by
  obtain ⟨ek, hek, hek'⟩ := @orDash_formed h hf Preamble.ek fun pre hpre => by
    obtain ⟨t, ht, hsep⟩ := hpre.ek
    exact ⟨t, by rw [ht, orDash_str], hsep⟩
  obtain ⟨spkId, hspk, hspk'⟩ := @orDash_formed h hf Preamble.spkId fun pre hpre =>
    NumOrNull.text (Or.inr hpre.spkId)
  obtain ⟨otkId, hotk, hotk'⟩ := @orDash_formed h hf Preamble.otkId fun pre hpre =>
    NumOrNull.text hpre.otkId
  refine ⟨ek, spkId, otkId, hek, hspk, hotk, ?_, ?_⟩
  · unfold RawHeader.fields
    rw [hek, hspk, hotk]
    rfl
  · have htexts := hf.texts
    simp only [List.mem_cons, List.not_mem_nil, or_false, forall_eq_or_imp, forall_eq] at htexts
    obtain ⟨hs, hu, hr, hd, hc⟩ := htexts
    simp only [List.cons_append, List.nil_append, List.mem_cons, List.not_mem_nil, or_false,
      forall_eq_or_imp, forall_eq]
    exact ⟨by decide, notMem_repr (by decide) _, hs, hu, hr, hd,
      notMem_toString (by decide) (by decide) _, notMem_toString (by decide) (by decide) _, hek', hspk',
      hotk', hc⟩

lemma intercalate_inj {l₁ l₂ : List String} (h₁ : ∀ text ∈ l₁, '\u001f' ∉ text.toList)
    (h₂ : ∀ text ∈ l₂, '\u001f' ∉ text.toList) (hne₁ : l₁ ≠ []) (hne₂ : l₂ ≠ [])
    (h : separator.intercalate l₁ = separator.intercalate l₂) : l₁ = l₂ := by
  have hsplit : ∀ l : List String, (∀ text ∈ l, '\u001f' ∉ text.toList) → l ≠ [] →
      (separator.intercalate l).toList.splitOn '\u001f' = l.map String.toList := by
    intro l hl hne
    rw [String.toList_intercalate]
    refine List.splitOn_intercalate '\u001f' (fun g hg => ?_) (by simpa using hne)
    obtain ⟨text, htext, rfl⟩ := List.mem_map.mp hg
    exact hl text htext
  have hlists := (hsplit l₁ h₁ hne₁).symm.trans ((congrArg _ (congrArg String.toList h)).trans
    (hsplit l₂ h₂ hne₂))
  exact List.map_injective_iff.mpr (fun a b hab => String.toList_inj.mp hab) hlists

variable {P : Primitives}

lemma signed_inj (hutf : Function.Injective P.utf8ToBytes) (hf₁ : h₁.Formed) (hf₂ : h₂.Formed)
    (h : h₁.signedBytes P = h₂.signedBytes P) : h₁ = { h₂ with g := h₁.g } := by
  obtain ⟨ek₁, spk₁, otk₁, hek₁, hspk₁, hotk₁, hfields₁, hsep₁⟩ := hf₁.fields
  obtain ⟨ek₂, spk₂, otk₂, hek₂, hspk₂, hotk₂, hfields₂, hsep₂⟩ := hf₂.fields
  unfold RawHeader.signedBytes at h
  rw [hfields₁, hfields₂, Option.map_some, Option.map_some] at h
  have hlist := intercalate_inj hsep₁ hsep₂ (by simp) (by simp) (hutf (Option.some.inj h))
  simp only [List.cons_append, List.nil_append, List.cons.injEq, true_and, and_true] at hlist
  obtain ⟨hv, hs, hu, hr, hd, hpn, hn, hek, hspk, hotk, hc⟩ := hlist
  have hk := preamble_inj hf₁ hf₂ (by rw [hek₁, hek₂, hek]) (by rw [hspk₁, hspk₂, hspk])
    (by rw [hotk₁, hotk₂, hotk])
  obtain ⟨v, s, u, r, d, pn, n, k, c, g⟩ := h₁
  have hv := Nat.repr_inj.mp hv
  have hpn := Int.repr_inj.mp hpn
  have hn := Int.repr_inj.mp hn
  dsimp only at *
  subst hv hs hu hr hd hpn hn hk hc
  rfl

end Reading

/-! ## Headers of the declared types -/

def Header.raw {P : Primitives} (S : Signing P) (h : Header P) : RawHeader where
  v := h.v
  s := h.s
  u := h.u
  r := h.r
  d := h.d
  pn := h.pn
  n := h.n
  k := h.k.map fun pre => ⟨some (.str pre.ek), some (.num pre.spkId),
    some (pre.otkId.elim .null fun id => .num id)⟩
  c := S.textOf h.c
  g := h.g

section Typed
variable {P : Primitives} {C : Codec P} {S : Signing P} {read : String → P.Text} {h : Header P}
  {session : Option (Session P)} {me : RecipientPrivates P} {deviceId : String} {rnd rnd' : P.Secret}

def Opened.raw (o : Opened P) : RawOpened P :=
  ⟨o.plaintext, o.session, o.consumedPreKeyId.map fun id => .num id⟩

end Typed

/-! ## Openings -/

section Openings
variable {P : Primitives} {C : Codec P} {S : Signing P} {read : String → P.Text} {h h₁ : RawHeader}
  {session : Option (Session P)} {me : RecipientPrivates P} {deviceId : String}
  {senderIdentityKey : Option String} {expectedAuthorId : String} {rnd rnd' : P.Secret}

lemma RawHeader.parse_eq (h : RawHeader) (hp : h.parse.isSome) : h.parse = some h := by
  unfold RawHeader.parse at hp ⊢
  split_ifs at hp ⊢
  · rfl
  · cases hp

lemma openSealedRaw_resign {g : String} (hp : h.parse.isSome) (hp' : ({ h with g } : RawHeader).parse.isSome)
    (hv : ∀ key, senderIdentityKey = some key → h.verified S key = ({ h with g } : RawHeader).verified S key) :
    openSealedRaw C S read { h with g } session me deviceId senderIdentityKey expectedAuthorId rnd rnd' =
      openSealedRaw C S read h session me deviceId senderIdentityKey expectedAuthorId rnd rnd' := by
  unfold openSealedRaw
  rw [h.parse_eq hp, RawHeader.parse_eq _ hp']
  cases senderIdentityKey with
  | none => rfl
  | some key =>
    simp only [Option.bind_eq_bind, Option.bind_some]
    rw [← hv key rfl]
    rfl

def RawHeader.quoted (h : RawHeader) : RawHeader :=
  { h with k := h.k.map fun pre => { pre with spkId := pre.spkId.bind fun id => id.text.map .str } }

lemma quoted_parse (hp : h.parse.isSome) : h.quoted.parse.isSome := by
  unfold RawHeader.parse at hp
  split_ifs at hp with hall
  · exact Option.isSome_iff_exists.mpr ⟨h.quoted, if_pos hall⟩
  · cases hp

lemma quoted_signed (hf : h.Formed) : h.quoted.fields = h.fields := by
  unfold RawHeader.fields RawHeader.quoted
  dsimp only
  cases hk : h.k with
  | none => rfl
  | some pre =>
    obtain ⟨n, hn⟩ := (hf.preamble pre hk).spkId
    simp only [Option.map_some, Option.bind_some, hn]
    rfl

lemma acceptRaw_text {pre : Preamble} {id : String} (hid : pre.spkId = some (.str id)) :
    acceptRaw C pre me deviceId = none := by
  unfold acceptRaw
  rw [hid, if_pos (by rfl)]

lemma quoted_refused {pre : Preamble} (hf : h.Formed) (hk : h.k = some pre) :
    openSealedRaw C S read h.quoted none me deviceId senderIdentityKey expectedAuthorId rnd rnd' = none := by
  obtain ⟨n, hn⟩ := (hf.preamble pre hk).spkId
  have haccept : (h.quoted.k.bind fun pre => acceptRaw C pre me h.quoted.s) = none := by
    unfold RawHeader.quoted
    rw [hk, Option.map_some, Option.bind_some]
    exact @acceptRaw_text _ _ _ _ _ (toString n) (by rw [hn]; rfl)
  have hwithin : ∀ aad, openWithinRaw C read h.quoted aad none me rnd rnd' = none := by
    intro aad
    unfold openWithinRaw
    rw [haccept]
    rfl
  unfold openSealedRaw
  cases hp : h.quoted.parse with
  | none => rfl
  | some parsed =>
    obtain rfl : parsed = h.quoted := by
      have heq := h.quoted.parse_eq (by rw [hp]; rfl)
      exact Option.some.inj (hp.symm.trans heq)
    cases senderIdentityKey with
    | none => rfl
    | some key =>
      simp only [Option.bind_eq_bind, Option.bind_some]
      split_ifs
      · rfl
      · refine Option.bind_eq_none_iff.mpr fun verified _ => ?_
        split_ifs
        · exact Option.bind_eq_none_iff.mpr fun aad _ => hwithin aad
        · rfl

/-- Two headers of the declared types and without separators in their texts are opened alike where
their signed bytes are the same and their signatures are worth the same. One that opens by its
preamble has a twin with the same signed bytes and the same signature that does not open. -/
theorem opened_alike (hutf : Function.Injective P.utf8ToBytes) (hf₁ : h₁.Formed) (hp₁ : h₁.parse.isSome) :
    (∀ h₂ : RawHeader, h₂.Formed → h₂.parse.isSome → h₁.signedBytes P = h₂.signedBytes P →
      (∀ key, senderIdentityKey = some key → h₁.verified S key = h₂.verified S key) →
      openSealedRaw C S read h₁ session me deviceId senderIdentityKey expectedAuthorId rnd rnd' =
        openSealedRaw C S read h₂ session me deviceId senderIdentityKey expectedAuthorId rnd rnd') ∧
    ((openSealedRaw C S read h₁ none me deviceId senderIdentityKey expectedAuthorId rnd rnd').isSome →
      ∃ h₂ : RawHeader, h₂.parse.isSome ∧ ¬ h₂.Formed ∧ h₁.signedBytes P = h₂.signedBytes P ∧
        h₂.g = h₁.g ∧
        openSealedRaw C S read h₂ none me deviceId senderIdentityKey expectedAuthorId rnd rnd' = none) := by
  constructor
  · intro h₂ hf₂ hp₂ hbytes hv
    obtain ⟨g, rfl⟩ : ∃ g, h₂ = { h₁ with g } := by
      refine ⟨h₂.g, ?_⟩
      rw [signed_inj hutf hf₁ hf₂ hbytes]
    exact (openSealedRaw_resign hp₁ hp₂ hv).symm
  · intro hopened
    cases hk : h₁.k with
    | none =>
      have hwithin : ∀ aad, openWithinRaw C read h₁ aad none me rnd rnd' = none := by
        intro aad
        unfold openWithinRaw
        rw [hk]
        rfl
      unfold openSealedRaw at hopened
      rw [h₁.parse_eq hp₁] at hopened
      cases senderIdentityKey with
      | none => cases hopened
      | some key =>
        simp only [Option.bind_eq_bind, Option.bind_some, hwithin] at hopened
        split_ifs at hopened
        · cases hopened
        · obtain ⟨opened, hopened⟩ := Option.isSome_iff_exists.mp hopened
          obtain ⟨verified, -, hopened⟩ := Option.bind_eq_some_iff.mp hopened
          split_ifs at hopened
          obtain ⟨aad, -, hopened⟩ := Option.bind_eq_some_iff.mp hopened
          cases hopened
    | some pre =>
      refine ⟨h₁.quoted, ?_, fun hformed => ?_, ?_, rfl, quoted_refused hf₁ hk⟩
      · exact quoted_parse hp₁
      · obtain ⟨n, hn⟩ := (hf₁.preamble pre hk).spkId
        obtain ⟨n', hn'⟩ := (hformed.preamble { pre with spkId := some (.str (toString n)) } (by
          unfold RawHeader.quoted
          rw [hk, Option.map_some, hn]
          rfl)).spkId
        cases hn'
      · unfold RawHeader.signedBytes
        rw [quoted_signed hf₁]
        rfl

end Openings

namespace Sample

open Symbolic Tabs.Sample

def hello : Option (Header primitives) := do
  let session ← beginSession codec signing bundle 3 5
  let (envelope, _) ← sealWith signing session "hello" sender 2
  some envelope

def rawHello : RawHeader := (hello.map (Header.raw signing)).getD ⟨0, "", "", "", "", 0, 0, none, "", ""⟩

def bodyOf (c : String) : Body :=
  ((hello.map Header.c).filter fun body => Tabs.Sample.text body = c).getD (.plain c)

abbrev phone : RecipientPrivates primitives := ⟨1, 7, ∅⟩

def answer (key : String) (h : RawHeader) : Option (RawOpened primitives) :=
  openSealedRaw codec signing bodyOf h none phone "phone" (some key) "ann" 11 12

def dashed : RawHeader :=
  { rawHello with k := rawHello.k.map fun pre => { pre with otkId := some (.str "-") } }

lemma rawHello_formed : rawHello.Formed where
  texts := by decide
  preamble pre hk := by
    have hpre : rawHello.k = some ⟨some (.str "3"), some (.num 1), some .null⟩ := rfl
    obtain rfl := Option.some.inj (hpre.symm.trans hk)
    exact ⟨⟨"3", rfl, by decide⟩, ⟨1, rfl⟩, Or.inl rfl⟩

lemma utf8_injective : Function.Injective primitives.utf8ToBytes := fun _ _ h => Body.plain.inj h

end Sample

open Sample Symbolic Tabs.Sample in
/-- One dash, and the message does not open. -/
theorem dashed_refused : rawHello.parse.isSome ∧ dashed.parse.isSome ∧
    rawHello.signedBytes primitives = dashed.signedBytes primitives ∧ rawHello.g = dashed.g ∧
    (answer "identity of ann" rawHello).map RawOpened.plaintext = some "hello" ∧
    (answer "identity of ann" dashed).isNone := by
  refine ⟨by decide, by decide, ?_, by decide, by decide, by decide⟩
  decide

open Sample Symbolic Tabs.Sample in
/-- Of two signatures that are nobody's, and of a number and its text. -/
theorem opened_alike_hello :
    answer "identity of eve" rawHello = answer "identity of eve" { rawHello with g := "forged" } ∧
    ∃ h₂ : RawHeader, rawHello.signedBytes primitives = h₂.signedBytes primitives ∧
      answer "identity of ann" h₂ = none := by
  have hp : rawHello.parse.isSome := by decide
  have hforged : ({ rawHello with g := "forged" } : RawHeader).Formed :=
    ⟨rawHello_formed.texts, rawHello_formed.preamble⟩
  have halike := (@opened_alike primitives codec signing bodyOf rawHello none phone "phone"
    (some "identity of eve") "ann" 11 12 utf8_injective rawHello_formed hp).1
  obtain ⟨h₂, -, -, hbytes, -, hnone⟩ := (@opened_alike primitives codec signing bodyOf rawHello none phone
    "phone" (some "identity of ann") "ann" 11 12 utf8_injective rawHello_formed hp).2 (by decide)
  refine ⟨halike _ hforged (by decide) rfl fun key hkey => ?_, h₂, hbytes, hnone⟩
  obtain rfl := Option.some.inj hkey
  decide

end Yappy.Cipher
