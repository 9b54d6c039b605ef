import Dimensional.Integer.Fixed

/-!
# Reading an integer back from its bytes

The bytes of a value are its two's complement, lowest byte first, as many as the width has.  Nothing is lost
in them, at any width and with either signedness.

* `Fixed.ofBytes_bytesOf` — what some bytes of a number keep of it;
* `Fixed.ofLittleEndian_littleEndian`, `Fixed.littleEndian_injective` — a value can be read from its bytes.
-/

namespace Dimensional

namespace Fixed

variable {k : IntKind}

/-- The number that bytes stand for, the lowest first. -/
def ofBytes : List UInt8 → Nat
  | [] => 0
  | b :: bs => b.toNat + 256 * ofBytes bs

/-- The integer that bytes stand for in two's complement. Where the kind has a sign, the upper half of the
numbers stands for those below zero. -/
def ofLittleEndian (k : IntKind) (bytes : List UInt8) : Int :=
  let n := ofBytes bytes
  if k.signed ∧ 2 ^ (k.width.bits - 1) ≤ n then n - 2 ^ k.width.bits else n

theorem ofBytes_bytesOf (count n : Nat) : ofBytes (bytesOf count n) = n % 256 ^ count := by
  induction count generalizing n with
  | zero => rw [bytesOf, ofBytes, Nat.pow_zero, Nat.mod_one]
  | succ count ih =>
    have low : (UInt8.ofNat (n % 256)).toNat = n % 256 :=
      (UInt8.toNat_ofNat' ..).trans (Nat.mod_mod n 256)
    rw [bytesOf, ofBytes, low, ih, Nat.pow_succ', Nat.mod_mul]

theorem pow_bytes (w : Width) : 256 ^ w.bytes = 2 ^ w.bits := by
  rw [Width.bits, Nat.pow_mul]

theorem two_pow_bits (w : Width) : (2 : Int) ^ w.bits = 2 * 2 ^ (w.bits - 1) := by
  have bits : w.bits = w.bits - 1 + 1 := (Nat.sub_add_cancel w.bits_pos).symm
  rw [bits, Int.pow_succ, Int.mul_comm, Nat.add_sub_cancel]

/-- Bytes keep a value up to the number of values of its width. -/
theorem ofBytes_littleEndian (a : Fixed k) :
    (ofBytes a.littleEndian : Int) = a.toInt % 2 ^ k.width.bits := by
  have positive : (0 : Int) < 2 ^ k.width.bits := Int.pow_pos (by decide)
  have low := Int.emod_nonneg a.toInt (Int.ne_of_gt positive)
  have high := Int.emod_lt_of_pos a.toInt positive
  have small : (a.toInt % 2 ^ k.width.bits).toNat < 2 ^ k.width.bits := by
    rw [Int.toNat_lt low]
    exact_mod_cast high
  rw [littleEndian, ofBytes_bytesOf, pow_bytes, Nat.mod_eq_of_lt small, Int.toNat_of_nonneg low]

theorem ofLittleEndian_of_unsigned (h : k.signed = false) (a : Fixed k) :
    ofLittleEndian k a.littleEndian = a.toInt := by
  have low := a.min_le
  have high := a.le_max
  simp only [IntKind.min, IntKind.max, h, Bool.false_eq_true, if_false] at low high
  have own : a.toInt % 2 ^ k.width.bits = a.toInt := Int.emod_eq_of_lt low (Int.lt_of_le_sub_one high)
  simp only [ofLittleEndian, h, Bool.false_eq_true, false_and, if_false]
  rw [ofBytes_littleEndian, own]

theorem ofLittleEndian_of_signed (h : k.signed = true) (a : Fixed k) :
    ofLittleEndian k a.littleEndian = a.toInt := by
  have bytes := ofBytes_littleEndian a
  have twice := two_pow_bits k.width
  have low := a.min_le
  have high := a.le_max
  simp only [IntKind.min, IntKind.max, h, if_true] at low high
  have half : ((2 ^ (k.width.bits - 1) : Nat) : Int) = 2 ^ (k.width.bits - 1) := by simp
  simp only [ofLittleEndian, h, true_and]
  rcases Int.lt_or_le a.toInt 0 with negative | nonneg
  · -- below zero, the remainder is as far below the whole
    have above : a.toInt % 2 ^ k.width.bits = a.toInt + 2 ^ k.width.bits := by
      rw [← Int.add_emod_right, Int.emod_eq_of_lt (by omega) (by omega)]
    rw [if_pos (by omega), bytes, above]
    omega
  · have own : a.toInt % 2 ^ k.width.bits = a.toInt := Int.emod_eq_of_lt nonneg (by omega)
    rw [if_neg (by omega), bytes, own]

/-- **A value can be read from its bytes.** -/
theorem ofLittleEndian_littleEndian (a : Fixed k) : ofLittleEndian k a.littleEndian = a.toInt := by
  cases signed : k.signed with
  | false => exact ofLittleEndian_of_unsigned signed a
  | true => exact ofLittleEndian_of_signed signed a

theorem littleEndian_injective {a b : Fixed k} (h : a.littleEndian = b.littleEndian) : a = b :=
  ext (by rw [← ofLittleEndian_littleEndian a, h, ofLittleEndian_littleEndian])

end Fixed

end Dimensional
