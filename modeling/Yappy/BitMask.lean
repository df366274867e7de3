import Mathlib

/-!
# Masks

A set of small numbers kept in the bits of one natural number. Every question about masks
comes down to one bit at a time, through `Nat.testBit`.
-/
namespace Yappy

/-- `x & ~y` on unbounded integers: the bits of `x` that `y` does not have. -/
def andNot (x y : ℕ) : ℕ := x ^^^ (x &&& y)

@[simp] lemma testBit_andNot (x y i : ℕ) :
    (andNot x y).testBit i = (x.testBit i && !y.testBit i) := by
  simp only [andNot, Nat.testBit_xor, Nat.testBit_and]
  cases x.testBit i <;> cases y.testBit i <;> rfl

lemma and_two_pow_ne_zero {x n : ℕ} : x &&& 2 ^ n ≠ 0 ↔ x.testBit n = true := by
  rw [Nat.and_two_pow]
  cases x.testBit n <;> simp

lemma and_two_pow_eq {x n : ℕ} : x &&& 2 ^ n = 2 ^ n ↔ x.testBit n = true := by
  rw [Nat.and_two_pow]
  cases x.testBit n
  · simpa using (Nat.two_pow_pos n).ne
  · simp

lemma and_eq_iff {x y : ℕ} : x &&& y = y ↔ ∀ i, y.testBit i = true → x.testBit i = true := by
  constructor
  · intro h i hy
    have := congrArg (Nat.testBit · i) h
    simpa [hy] using this
  · intro h
    refine Nat.eq_of_testBit_eq fun i => ?_
    have := h i
    rw [Nat.testBit_and]
    cases hy : y.testBit i <;> simp_all

lemma andNot_eq_zero {x y : ℕ} :
    andNot x y = 0 ↔ ∀ i, x.testBit i = true → y.testBit i = true := by
  constructor
  · intro h i hx
    have := congrArg (Nat.testBit · i) h
    simpa [hx] using this
  · intro h
    refine Nat.eq_of_testBit_eq fun i => ?_
    have := h i
    rw [testBit_andNot, Nat.zero_testBit]
    cases hx : x.testBit i <;> simp_all

/-- `bit_or` over a column, with `coalesce(_, 0)` for no rows. -/
def bitOr (column : List ℕ) : ℕ := column.foldr (· ||| ·) 0

@[simp] lemma bitOr_nil : bitOr [] = 0 := rfl

@[simp] lemma bitOr_cons (x : ℕ) (column : List ℕ) : bitOr (x :: column) = x ||| bitOr column :=
  rfl

lemma testBit_bitOr {column : List ℕ} {i : ℕ} :
    (bitOr column).testBit i = true ↔ ∃ x ∈ column, x.testBit i = true := by
  induction column with
  | nil => simp
  | cons x column ih => simp [Nat.testBit_or, ih]

lemma bitOr_congr {xs ys : List ℕ} (h : ∀ x, x ∈ xs ↔ x ∈ ys) : bitOr xs = bitOr ys := by
  refine Nat.eq_of_testBit_eq fun i => Bool.eq_iff_iff.mpr ?_
  simp only [testBit_bitOr, h]

/-! ### The same masks in a fixed-width register -/

lemma ofNat_or (w x y : ℕ) :
    BitVec.ofNat w (x ||| y) = BitVec.ofNat w x ||| BitVec.ofNat w y := by
  apply BitVec.eq_of_getLsbD_eq
  intro i hi
  simp only [BitVec.getLsbD_or, BitVec.getLsbD_ofNat, hi, decide_true, Bool.true_and,
    Nat.testBit_or]

lemma ofNat_and (w x y : ℕ) :
    BitVec.ofNat w (x &&& y) = BitVec.ofNat w x &&& BitVec.ofNat w y := by
  apply BitVec.eq_of_getLsbD_eq
  intro i hi
  simp only [BitVec.getLsbD_and, BitVec.getLsbD_ofNat, hi, decide_true, Bool.true_and,
    Nat.testBit_and]

lemma ofNat_andNot (w x y : ℕ) :
    BitVec.ofNat w (andNot x y) = BitVec.ofNat w x &&& ~~~BitVec.ofNat w y := by
  apply BitVec.eq_of_getLsbD_eq
  intro i hi
  simp only [BitVec.getLsbD_and, BitVec.getLsbD_not, BitVec.getLsbD_ofNat, hi, decide_true,
    Bool.true_and, testBit_andNot]

/-- `bit_or` as the database computes it, on registers of `w` bits. -/
def bitOrVec {w : ℕ} (column : List (BitVec w)) : BitVec w := column.foldr (· ||| ·) 0

lemma ofNat_bitOr (w : ℕ) (column : List ℕ) :
    BitVec.ofNat w (bitOr column) = bitOrVec (column.map (BitVec.ofNat w)) := by
  induction column with
  | nil => rfl
  | cons x column ih => rw [bitOr_cons, ofNat_or, ih]; rfl

lemma ofNat_inj_of_lt {w x y : ℕ} (hx : x < 2 ^ w) (hy : y < 2 ^ w) :
    BitVec.ofNat w x = BitVec.ofNat w y ↔ x = y := by
  constructor
  · intro h
    have := congrArg BitVec.toNat h
    rwa [BitVec.toNat_ofNat, BitVec.toNat_ofNat, Nat.mod_eq_of_lt hx, Nat.mod_eq_of_lt hy] at this
  · rintro rfl
    rfl

lemma ofNat_and_two_pow_ne_zero {w x n : ℕ} (h : n < w) :
    BitVec.ofNat w x &&& BitVec.ofNat w (2 ^ n) ≠ 0 ↔ x.testBit n = true := by
  have hn : 2 ^ n < 2 ^ w := Nat.pow_lt_pow_right (by decide) h
  rw [← ofNat_and, ← and_two_pow_ne_zero]
  exact not_congr (ofNat_inj_of_lt (lt_of_le_of_lt Nat.and_le_right hn) (Nat.two_pow_pos w))

lemma ofNat_and_two_pow_eq {w x n : ℕ} (h : n < w) :
    BitVec.ofNat w x &&& BitVec.ofNat w (2 ^ n) = BitVec.ofNat w (2 ^ n) ↔
      x.testBit n = true := by
  have hn : 2 ^ n < 2 ^ w := Nat.pow_lt_pow_right (by decide) h
  rw [← ofNat_and, ← and_two_pow_eq]
  exact ofNat_inj_of_lt (lt_of_le_of_lt Nat.and_le_right hn) hn

end Yappy
