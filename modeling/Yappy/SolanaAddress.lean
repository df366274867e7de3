import Yappy.MessageMarkdown
import Yappy.Numerals

/-!
# Payout addresses

`validateSolanaAddress` of `apps/api/src/lib/earlyclaim.ts`.
-/
namespace Yappy.SolanaAddress

open Markdown (CodeUnit Text indexOf text trim unit)
open Numerals (recode value zeros)

def base58 : Text :=
  text ['1', '2', '3', '4', '5', '6', '7', '8', '9', 'A', 'B', 'C', 'D', 'E', 'F', 'G', 'H', 'J', 'K', 'L',
    'M', 'N', 'P', 'Q', 'R', 'S', 'T', 'U', 'V', 'W', 'X', 'Y', 'Z', 'a', 'b', 'c', 'd', 'e', 'f', 'g',
    'h', 'i', 'j', 'k', 'm', 'n', 'o', 'p', 'q', 'r', 's', 't', 'u', 'v', 'w', 'x', 'y', 'z']

/-- What `for … of` goes through: the characters, a pair of surrogates taken together. -/
def characters : Text → List Text
  | u :: v :: rest =>
    if 0xD800 ≤ u.toNat ∧ u.toNat ≤ 0xDBFF ∧ 0xDC00 ≤ v.toNat ∧ v.toNat ≤ 0xDFFF then [u, v] :: characters rest
    else [u] :: characters (v :: rest)
  | [u] => [[u]]
  | [] => []

inductive Validation
  | ok
  | no (reason : Text)

/-- `for (let v = value; v > 0n; v >>= 8n) bytes++` -/
def byteCount (v : ℕ) : ℕ := if v = 0 then 0 else byteCount (v / 256) + 1
decreasing_by omega

def validateSolanaAddress (input : Text) : Validation :=
  let address := trim input
  if address.length < 32 ∨ 44 < address.length then .no (text "A Solana address is 32 to 44 characters.".toList)
  else match (characters address).find? fun ch => (indexOf base58 ch 0).isNone with
    | some ch => .no (text ['"'] ++ ch ++
        text "\" cannot appear in a Solana address — 0, O, I and l are never used.".toList)
    | none =>
      -- every character is found, so that none counts as less than zero
      let value := (characters address).foldl (fun value ch => value * 58 + (indexOf base58 ch 0).getD 0) 0
      let bytes := byteCount value + ((characters address).takeWhile (· = [unit '1'])).length
      if bytes ≠ 32 then
        .no (text "That is the right shape but not a valid address — check it again.".toList)
      else .ok

/-! ## What an address is -/

def character (digit : ℕ) : CodeUnit := base58[digit]?.getD 0

def encode (bytes : List UInt8) : Text := (recode 256 58 (bytes.map UInt8.toNat)).map character

/-! ## Characters and digits -/

def digit (u : CodeUnit) : ℕ := (indexOf base58 [u] 0).getD 0

lemma base58_ascii : ∀ u ∈ base58, u.toNat < 128 := by
  have hall : (base58.map UInt16.toNat).all (· < 128) = true := by decide
  intro u hu
  exact of_decide_eq_true (List.all_eq_true.mp hall _ (List.mem_map_of_mem hu))

lemma base58_sorted : base58.IsChain (· < ·) := by decide

lemma base58_nodup : base58.Nodup := by
  refine (List.isChain_iff_pairwise.mp base58_sorted).imp fun {a b} h => ?_
  rintro rfl
  exact UInt16.lt_irrefl a h

lemma length_base58 : base58.length = 58 := rfl

lemma startsAt_singleton {t : Text} {u : CodeUnit} {i : ℕ} :
    Markdown.startsAt t [u] i = true ↔ t[i]? = some u := by
  rw [Markdown.startsAt, List.isPrefixOf_iff_prefix, List.singleton_prefix_iff_head?_eq_some, List.head?_drop]

lemma indexOf_singleton {u : CodeUnit} {i : ℕ} : indexOf base58 [u] 0 = some i ↔ base58[i]? = some u := by
  constructor
  · intro h
    exact startsAt_singleton.mp (Markdown.find_bounds h).2.2
  · intro h
    obtain ⟨hi, -⟩ := List.getElem?_eq_some_iff.mp h
    cases hf : indexOf base58 [u] 0 with
    | none =>
      have hnone := List.find?_eq_none.mp hf i (List.mem_range'_1.mpr ⟨Nat.zero_le i, by omega⟩)
      exact absurd (startsAt_singleton.mpr h) hnone
    | some j =>
      have hj := startsAt_singleton.mp (Markdown.find_bounds hf).2.2
      obtain ⟨hlt, -⟩ := List.getElem?_eq_some_iff.mp hj
      exact congrArg some ((List.getElem?_inj hlt base58_nodup).mp (hj.trans h.symm))

lemma indexOf_isSome {u : CodeUnit} : (indexOf base58 [u] 0).isSome ↔ u ∈ base58 := by
  simp only [Option.isSome_iff_exists, indexOf_singleton, List.mem_iff_getElem?]

lemma character_digit {u : CodeUnit} (h : u ∈ base58) : character (digit u) = u := by
  obtain ⟨i, hi⟩ := Option.isSome_iff_exists.mp (indexOf_isSome.mpr h)
  rw [digit, hi, Option.getD_some, character, indexOf_singleton.mp hi, Option.getD_some]

lemma digit_lt {u : CodeUnit} (h : u ∈ base58) : digit u < 58 := by
  obtain ⟨i, hi⟩ := Option.isSome_iff_exists.mp (indexOf_isSome.mpr h)
  rw [digit, hi, Option.getD_some, ← length_base58]
  exact (List.getElem?_eq_some_iff.mp (indexOf_singleton.mp hi)).1

lemma digit_character {d : ℕ} (h : d < 58) : digit (character d) = d := by
  have hget : base58[d]? = some (character d) := by
    rw [character, List.getElem?_eq_getElem (h.trans_eq length_base58.symm), Option.getD_some]
  rw [digit, indexOf_singleton.mpr hget, Option.getD_some]

lemma character_mem {d : ℕ} (h : d < 58) : character d ∈ base58 := by
  rw [character, List.getElem?_eq_getElem (h.trans_eq length_base58.symm), Option.getD_some]
  exact List.getElem_mem _

lemma character_zero : character 0 = unit '1' := rfl

lemma digit_eq_zero {u : CodeUnit} (h : u ∈ base58) : digit u = 0 ↔ u = unit '1' := by
  rw [← character_zero]
  constructor
  · intro hd
    rw [← hd, character_digit h]
  · rintro rfl
    exact digit_character (Nat.succ_pos 57)

/-- The alphabet has no surrogates, so that its characters are code units. -/
theorem characters_eq {t : Text} (h : ∀ u ∈ t, u ∈ base58) : characters t = t.map fun u => [u] := by
  fun_induction characters t with
  | case1 u v rest hpair ih => exact absurd (base58_ascii u (h u List.mem_cons_self)) (by omega)
  | case2 u v rest _ ih =>
    rw [ih fun w hw => h w (List.mem_cons_of_mem _ hw)]
    rfl
  | case3 u => rfl
  | case4 => rfl

lemma mem_base58 {t : Text} (h : ∀ ch ∈ characters t, (indexOf base58 ch 0).isSome) :
    ∀ u ∈ t, u ∈ base58 := by
  fun_induction characters t with
  | case1 u v rest hpair ih =>
    obtain ⟨i, hi⟩ := Option.isSome_iff_exists.mp (h [u, v] List.mem_cons_self)
    have hu : base58[i]? = some u := by
      obtain ⟨s, hs⟩ := List.isPrefixOf_iff_prefix.mp (Markdown.find_bounds hi).2.2
      rw [← List.head?_drop, ← hs]
      rfl
    exact absurd (base58_ascii u (List.mem_of_getElem? hu)) (by omega)
  | case2 u v rest _ ih =>
    intro w hw
    rcases List.mem_cons.mp hw with rfl | hw
    · exact indexOf_isSome.mp (h [w] List.mem_cons_self)
    · exact ih (fun ch hch => h ch (List.mem_cons_of_mem _ hch)) w hw
  | case3 u =>
    intro w hw
    obtain rfl := List.mem_singleton.mp hw
    exact indexOf_isSome.mp (h [w] List.mem_cons_self)
  | case4 => exact fun _ hw => absurd hw List.not_mem_nil

lemma find_none_iff {t : Text} :
    ((characters t).find? fun ch => (indexOf base58 ch 0).isNone) = none ↔ ∀ u ∈ t, u ∈ base58 := by
  rw [List.find?_eq_none]
  constructor
  · intro h
    refine mem_base58 fun ch hch => ?_
    rw [Option.isSome_iff_ne_none, ne_eq, ← Option.isNone_iff_eq_none]
    exact h ch hch
  · intro h ch hch
    rw [characters_eq h] at hch
    obtain ⟨u, hu, rfl⟩ := List.mem_map.mp hch
    rw [Option.isNone_iff_eq_none, ← ne_eq, ← Option.isSome_iff_ne_none]
    exact indexOf_isSome.mpr (h u hu)

lemma byteCount_eq (v : ℕ) : byteCount v = (Nat.digits 256 v).length := by
  fun_induction byteCount v with
  | case1 => rfl
  | case2 v h ih => rw [Nat.digits_def' (by decide) (Nat.pos_of_ne_zero h), List.length_cons, ih]

lemma foldl_digits (t : Text) : (t.map fun u => [u]).foldl
    (fun value ch => value * 58 + (indexOf base58 ch 0).getD 0) 0 = value 58 (t.map digit) := by
  rw [List.foldl_map, ← Numerals.foldl_eq_value, List.foldl_map]
  rfl

lemma takeWhile_ones {t : Text} (h : ∀ u ∈ t, u ∈ base58) :
    ((t.map fun u => [u]).takeWhile (· = [unit '1'])).length = zeros (t.map digit) := by
  induction t with
  | nil => rfl
  | cons u t ih =>
    have hu := digit_eq_zero (h u List.mem_cons_self)
    have ht := ih fun w hw => h w (List.mem_cons_of_mem _ hw)
    unfold zeros at ht ⊢
    rw [List.map_cons, List.map_cons, List.takeWhile_cons, List.takeWhile_cons]
    by_cases hone : u = unit '1'
    · rw [if_pos (decide_eq_true (congrArg (fun w => [w]) hone)), if_pos (decide_eq_true (hu.mpr hone)),
        List.length_cons, List.length_cons, ht]
    · rw [if_neg fun h => hone (List.singleton_inj.mp (of_decide_eq_true h)),
        if_neg fun h => hone (hu.mp (of_decide_eq_true h))]
      rfl

lemma validate_eq_ok {input : Text} : validateSolanaAddress input = .ok ↔
    (32 ≤ (trim input).length ∧ (trim input).length ≤ 44) ∧ (∀ u ∈ trim input, u ∈ base58) ∧
      zeros ((trim input).map digit) + (Nat.digits 256 (value 58 ((trim input).map digit))).length = 32 := by
  unfold validateSolanaAddress
  dsimp only
  by_cases hlength : (trim input).length < 32 ∨ 44 < (trim input).length
  · rw [if_pos hlength]
    exact iff_of_false (by simp) fun h => by omega
  · rw [if_neg hlength]
    split
    · rename_i ch hch
      refine iff_of_false (by simp) fun h => ?_
      rw [find_none_iff.mpr h.2.1] at hch
      cases hch
    · rename_i hnone
      have hmem := find_none_iff.mp hnone
      rw [characters_eq hmem, foldl_digits, takeWhile_ones hmem, byteCount_eq, Nat.add_comm]
      split_ifs with hbytes
      · exact iff_of_false (by simp) fun h => hbytes h.2.2
      · exact iff_of_true rfl ⟨by omega, hmem, not_not.mp hbytes⟩

/-! ## Addresses -/

lemma toNat_lt {bytes : List UInt8} : ∀ d ∈ bytes.map UInt8.toNat, d < 256 := by
  intro d hd
  obtain ⟨byte, -, rfl⟩ := List.mem_map.mp hd
  exact byte.toNat_lt

lemma exists_bytes {ds : List ℕ} (h : ∀ d ∈ ds, d < 256) :
    ∃ bytes : List UInt8, bytes.map UInt8.toNat = ds := by
  refine ⟨ds.map UInt8.ofNat, ?_⟩
  rw [List.map_map]
  exact (List.map_congr_left fun d hd => UInt8.toNat_ofNat_of_lt' (h d hd)).trans (List.map_id ds)

lemma map_character_eq {t : Text} {ds : List ℕ} (hds : ∀ d ∈ ds, d < 58) :
    t = ds.map character ↔ (∀ u ∈ t, u ∈ base58) ∧ t.map digit = ds := by
  constructor
  · rintro rfl
    refine ⟨fun u hu => ?_, ?_⟩
    · obtain ⟨d, hd, rfl⟩ := List.mem_map.mp hu
      exact character_mem (hds d hd)
    · rw [List.map_map]
      exact (List.map_congr_left fun d hd => digit_character (hds d hd)).trans (List.map_id ds)
  · rintro ⟨hmem, rfl⟩
    rw [List.map_map]
    exact ((List.map_congr_left fun u hu => character_digit (hmem u hu)).trans (List.map_id t)).symm

lemma length_encode {bytes : List UInt8} (h : bytes.length = 32) :
    32 ≤ (encode bytes).length ∧ (encode bytes).length ≤ 44 := by
  have hlength : (bytes.map UInt8.toNat).length = 32 := (List.length_map _).trans h
  have hlow := @Numerals.length_le_recode 58 256 (bytes.map UInt8.toNat) (by decide) (by decide) toNat_lt
  have hhigh := @Numerals.length_recode_le 58 256 (bytes.map UInt8.toNat) 12 (by decide) (by decide) toNat_lt
    (by rw [hlength]; decide)
  rw [encode, List.length_map]
  omega

/-- What is accepted are the encodings of 32 bytes, and their lengths are those that are let through. -/
theorem validateSolanaAddress_ok_iff :
    (∀ input, validateSolanaAddress input = .ok ↔
      ∃ bytes : List UInt8, bytes.length = 32 ∧ trim input = encode bytes) ∧
    ∀ bytes : List UInt8, bytes.length = 32 → 32 ≤ (encode bytes).length ∧ (encode bytes).length ≤ 44 := by
  refine ⟨fun input => ?_, fun bytes => length_encode⟩
  rw [validate_eq_ok]
  constructor
  · rintro ⟨-, hmem, hcount⟩
    have hdigits : ∀ d ∈ (trim input).map digit, d < 58 := fun d hd => by
      obtain ⟨u, hu, rfl⟩ := List.mem_map.mp hd
      exact digit_lt (hmem u hu)
    obtain ⟨ds, hds, hlength, hrecode⟩ :=
      (Numerals.exists_recode_iff (by decide) (by decide) hdigits).mpr hcount
    obtain ⟨bytes, rfl⟩ := exists_bytes hds
    refine ⟨bytes, (List.length_map _).symm.trans hlength, ?_⟩
    exact (map_character_eq (Numerals.recode_lt (by decide))).mpr ⟨hmem, hrecode⟩
  · rintro ⟨bytes, hlength, he⟩
    obtain ⟨hmem, hdigits⟩ := (map_character_eq (Numerals.recode_lt (by decide))).mp he
    refine ⟨he ▸ length_encode hlength, hmem, ?_⟩
    refine (Numerals.exists_recode_iff (by decide) (by decide) ?_).mp
      ⟨bytes.map UInt8.toNat, toNat_lt, (List.length_map _).trans hlength, hdigits⟩
    rw [hdigits]
    exact Numerals.recode_lt (by decide)

end Yappy.SolanaAddress
