import Mathlib

/-!
# Addresses and their text

IPv4 and IPv6 addresses, the text that `inet_ntop` makes of them, and what `isIP` says of a text. The leading
characters of the text tell the class of an address.
-/
namespace Yappy.InternetAddress

abbrev Text := List Char

instance neZero_octet : NeZero 256 := ⟨by decide⟩

instance neZero_word : NeZero 65536 := ⟨by decide⟩

instance neZero_words : NeZero 8 := ⟨by decide⟩

inductive Address
  | v4 (a b c d : Fin 256)
  | v6 (words : Fin 8 → Fin 65536)
  deriving DecidableEq

/-! ## Text -/

def dec (n : Fin 256) : Text := Nat.toDigits 10 n

/-- `%x` of a word. -/
def hex (w : Fin 65536) : Text := Nat.toDigits 16 w

def v4Text (a b c d : Fin 256) : Text := List.intercalate ['.'] [dec a, dec b, dec c, dec d]

structure ZeroRun where
  base : ℕ
  len : ℕ

def longer (best cur : Option ZeroRun) : Option ZeroRun :=
  match best, cur with
  | some b, some c => if b.len < c.len then some c else some b
  | none, cur => cur
  | best, none => best

def extend (i : ℕ) : Option ZeroRun → ZeroRun
  | some c => ⟨c.base, c.len + 1⟩
  | none => ⟨i, 1⟩

def scan : ℕ → List (Fin 65536) → Option ZeroRun → Option ZeroRun → Option ZeroRun
  | _, [], best, cur => longer best cur
  | i, w :: words, best, cur =>
    if w = 0 then scan (i + 1) words best (some (extend i cur))
    else scan (i + 1) words (longer best cur) none

def bestRun (words : List (Fin 65536)) : Option ZeroRun := (scan 0 words none none).filter fun r => 2 ≤ r.len

def dotted (hi lo : Fin 65536) : Text :=
  v4Text (Fin.ofNat 256 (hi / 256)) (Fin.ofNat 256 hi) (Fin.ofNat 256 (lo / 256)) (Fin.ofNat 256 lo)

def joined (words : List (Fin 65536)) : Text := List.intercalate [':'] (words.map hex)

/-- What follows the zeros: an IPv4 address in the place of the last two words after six zeros, and after five and
`ffff`. -/
def rest (r : ZeroRun) (words : List (Fin 65536)) : Text :=
  match r, words.drop (r.base + r.len) with
  | ⟨0, 6⟩, [hi, lo] => dotted hi lo
  | ⟨0, 5⟩, [w, hi, lo] => if w = 0xffff then hex w ++ ':' :: dotted hi lo else joined [w, hi, lo]
  | _, words => joined words

def v6Text (words : List (Fin 65536)) : Text :=
  match bestRun words with
  | none => joined words
  | some r => joined (words.take r.base) ++ ':' :: ':' :: rest r words

/-- `inet_ntop` -/
def Address.text : Address → Text
  | .v4 a b c d => v4Text a b c d
  | .v6 words => v6Text (List.ofFn words)

/-! ## `isIP` -/

def isDigit (c : Char) : Bool := '0' ≤ c ∧ c ≤ '9'

def isHex (c : Char) : Bool := isDigit c ∨ ('a' ≤ c ∧ c ≤ 'f') ∨ ('A' ≤ c ∧ c ≤ 'F')

def v4Seg (g : Text) : Bool := ∃ n : Fin 256, g = dec n

def v6Seg (g : Text) : Bool := 1 ≤ g.length ∧ g.length ≤ 4 ∧ g.all isHex

def isIPv4 (s : Text) : Bool := (s.splitOn '.').length = 4 ∧ (s.splitOn '.').all v4Seg

def countWords : List Text → Option ℕ
  | [] => some 0
  | [g] => if v6Seg g then some 1 else if isIPv4 g then some 2 else none
  | g :: groups => if v6Seg g then (countWords groups).map (· + 1) else none

/-- `::` stands for one word at least. -/
def compressed (before after : List Text) : Bool :=
  before.all v6Seg ∧ (countWords after).any fun n => before.length + n ≤ 7

def groupsIPv6 : List Text → Bool
  | [[], [], []] => true
  | [] :: [] :: after => compressed [] after
  | groups =>
    if [] ∈ groups then
      let before := groups.takeWhile (· ≠ [])
      let after := (groups.dropWhile (· ≠ [])).tail
      before ≠ [] ∧ after ≠ [] ∧ compressed before (if after = [[]] then [] else after)
    else countWords groups = some 8

def isZone (s : Text) : Bool := s ≠ [] ∧ s.all fun c => c.isAlphanum ∨ c ∈ ['-', '.', ':']

def isIPv6 (s : Text) : Bool :=
  match s.splitOn '%' with
  | [s] => groupsIPv6 (s.splitOn ':')
  | [s, zone] => groupsIPv6 (s.splitOn ':') ∧ isZone zone
  | _ => false

def isIP (s : Text) : ℕ := if isIPv4 s then 4 else if isIPv6 s then 6 else 0

/-! ## Classes -/

/-- 127/8; 10/8, 172.16/12, 192.168/16; 100.64/10; 169.254/16; 224/4. -/
def PrivateV4 (a b : Fin 256) : Prop :=
  a = 127 ∨ (a = 10 ∨ (a = 172 ∧ 16 ≤ b ∧ b ≤ 31) ∨ (a = 192 ∧ b = 168)) ∨ (a = 100 ∧ 64 ≤ b ∧ b ≤ 127) ∨
    (a = 169 ∧ b = 254) ∨ (224 ≤ a ∧ a ≤ 239)

def LoopbackV6 (words : Fin 8 → Fin 65536) : Prop := words = ![0, 0, 0, 0, 0, 0, 0, 1]

/-- fc00::/7 -/
def UniqueLocal (words : Fin 8 → Fin 65536) : Prop := 0xfc00 ≤ words 0 ∧ words 0 ≤ 0xfdff

/-- fe80::/10 -/
def LinkLocal (words : Fin 8 → Fin 65536) : Prop := 0xfe80 ≤ words 0 ∧ words 0 ≤ 0xfebf

/-- ff00::/8 -/
def MulticastV6 (words : Fin 8 → Fin 65536) : Prop := 0xff00 ≤ words 0

/-- ::ffff:0:0/96 -/
def Mapped (words : Fin 8 → Fin 65536) : Prop :=
  words 0 = 0 ∧ words 1 = 0 ∧ words 2 = 0 ∧ words 3 = 0 ∧ words 4 = 0 ∧ words 5 = 0xffff

/-- Loopback, private, shared, unique-local, link-local or multicast, or an IPv4-mapped form of one. -/
def Address.Private : Address → Prop
  | .v4 a b _ _ => PrivateV4 a b
  | .v6 words => LoopbackV6 words ∨ UniqueLocal words ∨ LinkLocal words ∨ MulticastV6 words ∨
      (Mapped words ∧ PrivateV4 (Fin.ofNat 256 (words 6 / 256)) (Fin.ofNat 256 (words 6)))

/-! ## The text of an IPv4 address -/

lemma dec_plain (n : Fin 256) : '.' ∉ dec n ∧ ':' ∉ dec n := by
  revert n
  decide +kernel

lemma v4Text_split (a b c d : Fin 256) : (v4Text a b c d).splitOn '.' = [dec a, dec b, dec c, dec d] := by
  refine List.splitOn_intercalate '.' (fun g hg => ?_) (List.cons_ne_nil _ _)
  simp only [List.mem_cons, List.not_mem_nil, or_false] at hg
  rcases hg with rfl | rfl | rfl | rfl <;> exact (dec_plain _).1

lemma v4Seg_dec (n : Fin 256) : v4Seg (dec n) = true := decide_eq_true ⟨n, rfl⟩

lemma isIP_v4Text (a b c d : Fin 256) : isIP (v4Text a b c d) = 4 := by
  have hv4 : isIPv4 (v4Text a b c d) = true := by
    unfold isIPv4
    rw [v4Text_split]
    simp [v4Seg_dec]
  unfold isIP
  rw [if_pos hv4]

/-! ## The text of an IPv6 address -/

lemma hex_of_le {w : Fin 65536} (h : 256 ≤ w.val) :
    hex w = Nat.toDigits 16 (w / 256) ++ [(w / 16 % 16 : ℕ).digitChar, (w % 16 : ℕ).digitChar] := by
  unfold hex
  have hhigh : 16 ≤ w.val / 16 := by omega
  rw [Nat.toDigits_of_base_le (by decide) (by omega), Nat.toDigits_of_base_le (by decide) hhigh,
    Nat.div_div_eq_div_mul, List.append_assoc]
  rfl

lemma longer_base {n : ℕ} {best cur : Option ZeroRun} (hbest : ∀ r ∈ best, n ≤ r.base) (hcur : ∀ r ∈ cur, n ≤ r.base) :
    ∀ r ∈ longer best cur, n ≤ r.base := by
  unfold longer
  split
  · split_ifs
    · exact hcur
    · exact hbest
  · exact hcur
  · exact hbest

lemma scan_base {n : ℕ} (words : List (Fin 65536)) : ∀ (i : ℕ) (best cur : Option ZeroRun), n ≤ i →
    (∀ r ∈ best, n ≤ r.base) → (∀ r ∈ cur, n ≤ r.base) → ∀ r ∈ scan i words best cur, n ≤ r.base := by
  induction words with
  | nil => exact fun i best cur _ hbest hcur => longer_base hbest hcur
  | cons w words ih =>
    intro i best cur hi hbest hcur
    unfold scan
    split_ifs
    · refine ih (i + 1) best _ (hi.trans (Nat.le_succ i)) hbest fun r hr => ?_
      cases hr
      cases cur with
      | none => exact hi
      | some c => exact hcur c rfl
    · exact ih (i + 1) _ none (hi.trans (Nat.le_succ i)) (longer_base hbest hcur) nofun

lemma bestRun_base {w : Fin 65536} {words : List (Fin 65536)} (hw : w ≠ 0) :
    ∀ r ∈ bestRun (w :: words), 1 ≤ r.base := by
  intro r hr
  have hscan : r ∈ scan 1 words none none := by
    have hmem := (Option.mem_filter_iff.mp hr).1
    unfold scan at hmem
    rwa [if_neg hw] at hmem
  exact scan_base words 1 none none le_rfl nofun nofun r hscan

lemma joined_cons (w : Fin 65536) (words : List (Fin 65536)) : ∃ t, joined (w :: words) = hex w ++ t := by
  cases words with
  | nil => exact ⟨[], by simp [joined]⟩
  | cons w' words => exact ⟨':' :: joined (w' :: words), by simp [joined, List.intercalate]⟩

lemma v6Text_head {w : Fin 65536} {words : List (Fin 65536)} (hw : w ≠ 0) :
    ∃ t, v6Text (w :: words) = hex w ++ t := by
  unfold v6Text
  cases hr : bestRun (w :: words) with
  | none => exact joined_cons w words
  | some r =>
    obtain ⟨n, hn⟩ := Nat.exists_eq_add_of_le' (bestRun_base hw r hr)
    obtain ⟨t, ht⟩ := joined_cons w (words.take n)
    refine ⟨t ++ ':' :: ':' :: rest r (w :: words), ?_⟩
    dsimp only
    rw [hn, List.take_succ_cons, ht, List.append_assoc]

lemma bestRun_mapped (hi lo : Fin 65536) : bestRun [0, 0, 0, 0, 0, 0xffff, hi, lo] = some ⟨0, 5⟩ := by
  by_cases hhi : hi = 0 <;> by_cases hlo : lo = 0 <;> simp [bestRun, scan, longer, extend, hhi, hlo]

lemma v6Text_mapped (hi lo : Fin 65536) :
    v6Text [0, 0, 0, 0, 0, 0xffff, hi, lo] = "::ffff:".toList ++ dotted hi lo := by
  unfold v6Text
  rw [bestRun_mapped]
  rfl

/-! ## Brackets -/

lemma splitOn_cons {c sep : Char} (h : c ≠ sep) (s : Text) : ∃ g groups, (c :: s).splitOn sep = (c :: g) :: groups := by
  obtain ⟨g, groups, hs⟩ := List.exists_cons_of_ne_nil (List.splitOn_ne_nil sep s)
  refine ⟨g, groups, ?_⟩
  rw [List.splitOn_cons_eq_if_modifyHead, if_neg (by simpa using h), hs]
  rfl

lemma dec_head (n : Fin 256) : (dec n).head? ≠ some '[' := by
  revert n
  decide +kernel

lemma isIPv4_bracket (s : Text) : isIPv4 ('[' :: s) = false := by
  obtain ⟨g, groups, hs⟩ := splitOn_cons (by decide : '[' ≠ '.') s
  have hseg : v4Seg ('[' :: g) = false := by
    refine decide_eq_false fun ⟨n, hn⟩ => dec_head n ?_
    rw [← hn]
    rfl
  unfold isIPv4
  rw [hs, List.all_cons, hseg]
  simp

lemma v6Seg_bracket (g : Text) : v6Seg ('[' :: g) = false := by
  unfold v6Seg
  rw [List.all_cons, show isHex '[' = false by decide]
  simp

lemma countWords_bracket (g : Text) (groups : List Text) : countWords (('[' :: g) :: groups) = none := by
  cases groups with
  | nil =>
    unfold countWords
    rw [v6Seg_bracket, isIPv4_bracket]
    rfl
  | cons g' groups =>
    unfold countWords
    rw [v6Seg_bracket]
    rfl

lemma groupsIPv6_bracket (g : Text) (groups : List Text) : groupsIPv6 (('[' :: g) :: groups) = false := by
  unfold groupsIPv6
  split
  · rename_i h
    cases h
  · rename_i h
    cases h
  · split_ifs
    · have hbefore : (('[' :: g) :: groups).takeWhile (· ≠ []) = ('[' :: g) :: groups.takeWhile (· ≠ []) := rfl
      rw [hbefore]
      unfold compressed
      simp [v6Seg_bracket]
    · rw [countWords_bracket]
      rfl

lemma isIP_bracket (s : Text) : isIP ('[' :: s) = 0 := by
  have hv6 : isIPv6 ('[' :: s) = false := by
    obtain ⟨g, zones, hs⟩ := splitOn_cons (by decide : '[' ≠ '%') s
    obtain ⟨g', groups, hg⟩ := splitOn_cons (by decide : '[' ≠ ':') g
    unfold isIPv6
    rw [hs]
    match zones with
    | [] =>
      dsimp only
      rw [hg, groupsIPv6_bracket]
    | [zone] =>
      dsimp only
      rw [hg, groupsIPv6_bracket]
      simp
    | _ :: _ :: _ => rfl
  unfold isIP
  rw [isIPv4_bracket, hv6]
  rfl

end Yappy.InternetAddress
