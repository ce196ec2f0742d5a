import Mathlib.Data.Nat.Bitwise

/-!
# Words as bytes

A machine word as the bytes it is sent as, in either order, and the word
that bytes spell. Reading takes the word from the front of a list of bytes
and looks no further, so that what was written at the front of a longer
text is read back whatever comes behind it.
-/

namespace ByteOrder

/-- The bytes of a 16-bit word, the most significant first. -/
def be16 (w : UInt16) : List UInt8 :=
  [(w >>> 8).toUInt8, w.toUInt8]

/-- The bytes of a 32-bit word, the most significant first. -/
def be32 (w : UInt32) : List UInt8 :=
  [(w >>> 24).toUInt8, (w >>> 16).toUInt8, (w >>> 8).toUInt8, w.toUInt8]

/-- The bytes of a 16-bit word, the least significant first. -/
def le16 (w : UInt16) : List UInt8 :=
  [w.toUInt8, (w >>> 8).toUInt8]

/-- The bytes of a 32-bit word, the least significant first. -/
def le32 (w : UInt32) : List UInt8 :=
  [w.toUInt8, (w >>> 8).toUInt8, (w >>> 16).toUInt8, (w >>> 24).toUInt8]

/-- The 32-bit word at the front of a list, the most significant byte
first. -/
def ofBe32 : List UInt8 → UInt32
  | a :: b :: c :: d :: _ =>
    (a.toUInt32 <<< 24) ||| (b.toUInt32 <<< 16) ||| (c.toUInt32 <<< 8)
      ||| d.toUInt32
  | _ => 0

/-- The 32-bit word at the front of a list, the least significant byte
first. -/
def ofLe32 : List UInt8 → UInt32
  | a :: b :: c :: d :: _ =>
    a.toUInt32 ||| (b.toUInt32 <<< 8) ||| (c.toUInt32 <<< 16)
      ||| (d.toUInt32 <<< 24)
  | _ => 0

@[simp] theorem length_be16 (w : UInt16) : (be16 w).length = 2 := rfl

@[simp] theorem length_be32 (w : UInt32) : (be32 w).length = 4 := rfl

@[simp] theorem length_le16 (w : UInt16) : (le16 w).length = 2 := rfl

@[simp] theorem length_le32 (w : UInt32) : (le32 w).length = 4 := rfl

/-- A byte cut out of a number and put back holds the bits of its place. -/
theorem testBit_byte (n i : ℕ) {k : ℕ} (hk : k ≤ 24) :
    (((n >>> k % 2 ^ 8) <<< k) % 2 ^ 32).testBit i
      = (decide (k ≤ i ∧ i < k + 8) && n.testBit i) := by
  rw [Nat.testBit_mod_two_pow, Nat.testBit_shiftLeft, Nat.testBit_mod_two_pow,
    Nat.testBit_shiftRight]
  by_cases h : k ≤ i
  · rw [show k + (i - k) = i by omega]
    by_cases h' : i < k + 8
    · simp [h, h', show i < 32 by omega, show i - k < 8 by omega]
    · simp [h', show ¬ i - k < 8 by omega]
  · simp [h]

/-- The four bytes of a number below `2 ^ 32` put together again. -/
theorem lor_bytes {n : ℕ} (h : n < 2 ^ 32) :
    n % 2 ^ 8 ||| ((n >>> 8 % 2 ^ 8) <<< 8) % 2 ^ 32
        ||| ((n >>> 16 % 2 ^ 8) <<< 16) % 2 ^ 32
        ||| ((n >>> 24 % 2 ^ 8) <<< 24) % 2 ^ 32 = n := by
  refine Nat.eq_of_testBit_eq fun i => ?_
  rw [Nat.testBit_or, Nat.testBit_or, Nat.testBit_or, testBit_byte n i le_rfl,
    testBit_byte n i (by decide), testBit_byte n i (by decide),
    Nat.testBit_mod_two_pow, ← Bool.and_or_distrib_right,
    ← Bool.and_or_distrib_right, ← Bool.and_or_distrib_right]
  by_cases hi : i < 32
  · -- every bit lies in one of the bytes
    have hbyte : i < 8 ∨ 8 ≤ i ∧ i < 16 ∨ 16 ≤ i ∧ i < 24 ∨ 24 ≤ i := by omega
    rw [← Bool.decide_or, ← Bool.decide_or, ← Bool.decide_or,
      decide_eq_true (by omega), Bool.true_and]
  · have hbit : n.testBit i = false :=
      Nat.testBit_lt_two_pow (h.trans_le (Nat.pow_le_pow_right (by decide)
        (by omega)))
    rw [hbit, Bool.and_false]

/-- **A word written least significant byte first is read back.** -/
@[simp] theorem ofLe32_le32 (w : UInt32) (bytes : List UInt8) :
    ofLe32 (le32 w ++ bytes) = w := by
  refine UInt32.toNat_inj.mp ?_
  simp only [le32, List.cons_append, List.nil_append, ofLe32,
    UInt32.toNat_or, UInt32.toNat_shiftLeft, UInt8.toNat_toUInt32,
    UInt32.toNat_toUInt8, UInt32.toNat_shiftRight]
  exact lor_bytes w.toNat_lt

/-- The bytes in one order spell what their reverse spells in the other. -/
theorem ofBe32_reverse (a b c d : UInt8) (bytes bytes' : List UInt8) :
    ofBe32 (d :: c :: b :: a :: bytes) = ofLe32 (a :: b :: c :: d :: bytes') := by
  rw [ofBe32, ofLe32, UInt32.or_comm _ a.toUInt32,
    UInt32.or_comm _ (b.toUInt32 <<< 8), UInt32.or_comm (d.toUInt32 <<< 24),
    ← UInt32.or_assoc, ← UInt32.or_assoc]

/-- **A word written most significant byte first is read back.** -/
@[simp] theorem ofBe32_be32 (w : UInt32) (bytes : List UInt8) :
    ofBe32 (be32 w ++ bytes) = w :=
  (ofBe32_reverse _ _ _ _ bytes bytes).trans (ofLe32_le32 w bytes)

end ByteOrder
