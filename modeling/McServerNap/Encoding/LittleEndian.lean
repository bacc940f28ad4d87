import Mathlib.Algebra.Group.Nat.Defs
import Mathlib.Data.List.Basic

/-!
# Numbers as little-endian bytes

The first byte is the least significant one. A fixed number of bytes spells every number
below the corresponding power of 256 exactly once, so reading and writing invert each
other in both directions.
-/

namespace Encoding

/-- The number that the bytes spell, least significant byte first. -/
def fromLe : List UInt8 → Nat
  | [] => 0
  | byte :: rest => byte.toNat + 256 * fromLe rest

/-- The number in this many bytes. What does not fit is dropped. -/
def toLe : (width : Nat) → Nat → List UInt8
  | 0, _ => []
  | width + 1, value => UInt8.ofNat value :: toLe width (value / 256)

/-- A number is written in as many bytes as were asked for. -/
@[simp] theorem toLe_length (width value : Nat) : (toLe width value).length = width := by
  induction width generalizing value with
  | zero => rfl
  | succ width inductionHypothesis => simp [toLe, inductionHypothesis]

/-- So many bytes spell only numbers below this power. -/
theorem fromLe_lt (bytes : List UInt8) : fromLe bytes < 256 ^ bytes.length := by
  induction bytes with
  | nil => decide
  | cons byte rest inductionHypothesis =>
    have small := byte.toNat_lt
    simp only [fromLe, List.length_cons, Nat.pow_succ]
    omega

/-- Writing and reading back gives the number, where it fits. The induction is on the width, since
each byte takes the remainder and leaves the quotient. -/
theorem fromLe_toLe (width value : Nat) (fits : value < 256 ^ width) :
    fromLe (toLe width value) = value := by
  induction width generalizing value with
  | zero =>
    simp only [Nat.pow_zero] at fits
    simp only [toLe, fromLe]
    omega
  | succ width inductionHypothesis =>
    have smaller : value / 256 < 256 ^ width := by
      rw [Nat.pow_succ] at fits
      omega
    simp only [toLe, fromLe, inductionHypothesis _ smaller, UInt8.toNat_ofNat']
    omega

/-- Reading and writing back gives the bytes. -/
theorem toLe_fromLe (bytes : List UInt8) : toLe bytes.length (fromLe bytes) = bytes := by
  induction bytes with
  | nil => rfl
  | cons byte rest inductionHypothesis =>
    have small := byte.toNat_lt
    have low : UInt8.ofNat (byte.toNat + 256 * fromLe rest) = byte := by
      apply UInt8.toNat_inj.mp
      rw [UInt8.toNat_ofNat']
      omega
    have high : (byte.toNat + 256 * fromLe rest) / 256 = fromLe rest := by omega
    simp only [List.length_cons, toLe, fromLe, low, high, inductionHypothesis]

/-! ## Signed 32-bit numbers -/

/-- `i32::to_le_bytes`. -/
def int32ToLe (value : Int32) : List UInt8 := toLe 4 value.toUInt32.toNat

/-- `i32::from_le_bytes`. -/
def int32FromLe (bytes : List UInt8) : Int32 := (UInt32.ofNat (fromLe bytes)).toInt32

/-- A 32-bit number is written in four bytes. -/
@[simp] theorem int32ToLe_length (value : Int32) : (int32ToLe value).length = 4 :=
  toLe_length 4 _

/-- What is written is read back, negative numbers as their two's complement. -/
@[simp] theorem int32FromLe_int32ToLe (value : Int32) : int32FromLe (int32ToLe value) = value := by
  have fits : value.toUInt32.toNat < 256 ^ 4 := value.toUInt32.toNat_lt
  rw [int32FromLe, int32ToLe, fromLe_toLe 4 _ fits, UInt32.ofNat_toNat, Int32.toInt32_toUInt32]

/-- Four bytes are written back as they were. -/
theorem int32ToLe_int32FromLe (bytes : List UInt8) (counted : bytes.length = 4) :
    int32ToLe (int32FromLe bytes) = bytes := by
  have bounded : fromLe bytes < 2 ^ 32 := by
    have below := fromLe_lt bytes
    rw [counted] at below
    exact below
  rw [int32FromLe, int32ToLe, UInt32.toUInt32_toInt32, UInt32.toNat_ofNat',
    Nat.mod_eq_of_lt bounded]
  rw [← counted]
  exact toLe_fromLe bytes

end Encoding
