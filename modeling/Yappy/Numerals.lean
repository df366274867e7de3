import Mathlib.Data.Nat.Digits.Lemmas
import Mathlib.Data.List.TakeWhile

/-!
# Numerals in two bases

Strings of digits, the most significant first, and the encoding of a string in one base as a string in another:
the same number, after as many zeros. Such encodings read back, and a string is the encoding of some string of
a given length just where its zeros and the length of its number in the other base add up to that length.
-/
namespace Yappy.Numerals

def value (b : ℕ) (ds : List ℕ) : ℕ := Nat.ofDigits b ds.reverse

def numeral (b n : ℕ) : List ℕ := (Nat.digits b n).reverse

def zeros (ds : List ℕ) : ℕ := (ds.takeWhile (· = 0)).length

/-- A string in base `b` as one in base `c`. -/
def recode (b c : ℕ) (ds : List ℕ) : List ℕ := List.replicate (zeros ds) 0 ++ numeral c (value b ds)

variable {b c n : ℕ} {ds s : List ℕ}

@[simp] lemma value_nil : value b [] = 0 := rfl

lemma value_append_singleton (ds : List ℕ) (d : ℕ) : value b (ds ++ [d]) = value b ds * b + d := by
  rw [value, List.reverse_append, List.reverse_singleton, List.singleton_append, Nat.ofDigits_cons, value]
  ring

lemma foldl_eq_value (ds : List ℕ) : ds.foldl (fun n d => n * b + d) 0 = value b ds := by
  induction ds using List.reverseRecOn with
  | nil => rfl
  | append_singleton ds d ih =>
    rw [List.foldl_append, ih, List.foldl_cons, List.foldl_nil, value_append_singleton]

lemma value_replicate_append (k : ℕ) (ds : List ℕ) : value b (List.replicate k 0 ++ ds) = value b ds := by
  rw [value, List.reverse_append, List.reverse_replicate, Nat.ofDigits_append_replicate_zero, value]

lemma value_numeral (b n : ℕ) : value b (numeral b n) = n := by
  rw [value, numeral, List.reverse_reverse, Nat.ofDigits_digits]

lemma length_numeral (b n : ℕ) : (numeral b n).length = (Nat.digits b n).length := List.length_reverse

lemma numeral_lt (hb : 1 < b) : ∀ d ∈ numeral b n, d < b := fun _ hd =>
  Nat.digits_lt_base hb (List.mem_reverse.mp hd)

lemma zeros_cons_zero (ds : List ℕ) : zeros (0 :: ds) = zeros ds + 1 := rfl

lemma zeros_replicate_append (k : ℕ) (ds : List ℕ) : zeros (List.replicate k 0 ++ ds) = k + zeros ds := by
  induction k with
  | zero => rw [List.replicate_zero, List.nil_append, Nat.zero_add]
  | succ k ih => rw [List.replicate_succ, List.cons_append, zeros_cons_zero, ih, Nat.succ_add]

lemma zeros_numeral (b n : ℕ) : zeros (numeral b n) = 0 := by
  cases hd : numeral b n with
  | nil => rfl
  | cons d ds =>
    have hn : n ≠ 0 := by
      rintro rfl
      rw [numeral, Nat.digits_zero] at hd
      cases hd
    have hdigits : Nat.digits b n = ds.reverse ++ [d] := by
      rw [← List.reverse_reverse (Nat.digits b n), ← numeral, hd, List.reverse_cons]
    have hlast := Nat.getLast_digit_ne_zero b hn
    simp only [hdigits, List.getLast_append_singleton] at hlast
    rw [zeros, List.takeWhile_cons_of_neg (by simpa using hlast), List.length_nil]

lemma eq_replicate_append (ds : List ℕ) :
    ds = List.replicate (zeros ds) 0 ++ ds.dropWhile (· = 0) := by
  conv_lhs => rw [← List.takeWhile_append_dropWhile (p := fun d => decide (d = 0)) (l := ds)]
  congr 1
  exact List.eq_replicate_iff.mpr ⟨rfl, fun d hd => by simpa using List.mem_takeWhile_imp hd⟩

lemma eq_zeros_append (hb : 1 < b) (hds : ∀ d ∈ ds, d < b) :
    ds = List.replicate (zeros ds) 0 ++ numeral b (value b ds) := by
  have hsplit := eq_replicate_append ds
  have hvalue : value b ds = value b (ds.dropWhile (· = 0)) := by
    conv_lhs => rw [hsplit]
    exact value_replicate_append ..
  have hnumeral : numeral b (value b (ds.dropWhile (· = 0))) = ds.dropWhile (· = 0) := by
    rw [numeral, value, Nat.digits_ofDigits b hb _ (fun d hd => ?_) (fun hne => ?_), List.reverse_reverse]
    · exact hds d ((List.dropWhile_sublist _).subset (List.mem_reverse.mp hd))
    · have hhead := List.head_dropWhile_not (· = 0) (l := ds) (by simpa using hne)
      rw [List.getLast_reverse]
      simpa using hhead
  rw [hvalue, hnumeral]
  exact hsplit

lemma recode_self (hb : 1 < b) (hds : ∀ d ∈ ds, d < b) : recode b b ds = ds := (eq_zeros_append hb hds).symm

lemma length_recode (b c : ℕ) (ds : List ℕ) :
    (recode b c ds).length = zeros ds + (Nat.digits c (value b ds)).length := by
  rw [recode, List.length_append, List.length_replicate, length_numeral]

lemma recode_lt (hc : 1 < c) : ∀ d ∈ recode b c ds, d < c := by
  intro d hd
  rcases List.mem_append.mp hd with hd | hd
  · rw [List.eq_of_mem_replicate hd]
    omega
  · exact numeral_lt hc d hd

lemma value_recode (b c : ℕ) (ds : List ℕ) : value c (recode b c ds) = value b ds := by
  rw [recode, value_replicate_append, value_numeral]

lemma zeros_recode (b c : ℕ) (ds : List ℕ) : zeros (recode b c ds) = zeros ds := by
  rw [recode, zeros_replicate_append, zeros_numeral, Nat.add_zero]

lemma recode_recode (hb : 1 < b) (hds : ∀ d ∈ ds, d < b) : recode c b (recode b c ds) = ds := by
  rw [recode, zeros_recode, value_recode]
  exact (eq_zeros_append hb hds).symm

lemma exists_recode_iff (hb : 1 < b) (hc : 1 < c) (hs : ∀ d ∈ s, d < b) :
    (∃ ds : List ℕ, (∀ d ∈ ds, d < c) ∧ ds.length = n ∧ s = recode c b ds) ↔
      zeros s + (Nat.digits c (value b s)).length = n := by
  rw [← length_recode]
  constructor
  · rintro ⟨ds, hds, rfl, rfl⟩
    rw [recode_recode hc hds]
  · intro hn
    exact ⟨recode b c s, recode_lt hc, hn, (recode_recode hb hs).symm⟩

lemma length_le_recode (hb : 1 < b) (hbc : b ≤ c) (hds : ∀ d ∈ ds, d < c) :
    ds.length ≤ (recode c b ds).length := by
  have hc := hb.trans_le hbc
  conv_lhs => rw [← recode_self hc hds]
  rw [length_recode, length_recode]
  refine Nat.add_le_add_left ((Nat.digits_length_le_iff hc _).mpr ?_) _
  exact (Nat.lt_base_pow_length_digits hb).trans_le (Nat.pow_le_pow_left hbc _)

lemma length_recode_le {k : ℕ} (hb : 1 < b) (hc : 1 < c) (hds : ∀ d ∈ ds, d < c)
    (hpow : ∀ m ≤ ds.length, c ^ m ≤ b ^ (m + k)) : (recode c b ds).length ≤ ds.length + k := by
  have hlength : zeros ds + (Nat.digits c (value c ds)).length = ds.length := by
    rw [← length_recode, recode_self hc hds]
  have hdigits : (Nat.digits b (value c ds)).length ≤ (Nat.digits c (value c ds)).length + k :=
    (Nat.digits_length_le_iff hb _).mpr
      ((Nat.lt_base_pow_length_digits hc).trans_le (hpow _ (by omega)))
  rw [length_recode]
  omega

end Yappy.Numerals
