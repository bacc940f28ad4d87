import Mathlib.Algebra.Group.Nat.Defs

/-!
# Little-endian base-128 numbers

A number is cut into groups of seven bits, the lowest first. Every byte but the
last has its high bit set, so a reader finds the end of the number in the bytes
themselves. A number has many encodings, since groups of zeroes may follow the
highest one; the shortest has no such group.
-/

namespace Encoding

/-- The number that the low seven bits of the bytes spell out. -/
def groups : List UInt8 → Nat
  | [] => 0
  | byte :: rest => byte.toNat % 128 + 128 * groups rest

/-- Every byte announces that another one follows. -/
def Continued (bytes : List UInt8) : Prop := ∀ byte ∈ bytes, 128 ≤ byte.toNat

/-- Exactly the last byte announces no other. -/
def Terminated (bytes : List UInt8) : Prop :=
  ∃ leading last, bytes = leading ++ [last] ∧ Continued leading ∧ last.toNat < 128

/-- Without bytes the number is zero. -/
@[simp] theorem groups_nil : groups [] = 0 := rfl

/-- The first byte has the lowest group, and each later one weighs 128 times as much. -/
@[simp] theorem groups_cons (byte : UInt8) (rest : List UInt8) :
    groups (byte :: rest) = byte.toNat % 128 + 128 * groups rest := rfl

/-- Later bytes weigh as much as the earlier ones have places. -/
theorem groups_append (earlier later : List UInt8) :
    groups (earlier ++ later) = groups earlier + 128 ^ earlier.length * groups later := by
  induction earlier with
  | nil => simp
  | cons byte rest inductionHypothesis =>
    simp only [List.cons_append, groups_cons, inductionHypothesis, List.length_cons,
      Nat.pow_succ, Nat.mul_add]
    rw [Nat.mul_comm (128 ^ rest.length) 128, Nat.mul_assoc]
    omega

/-- So many groups spell only numbers below this power. -/
theorem groups_lt (bytes : List UInt8) : groups bytes < 128 ^ bytes.length := by
  induction bytes with
  | nil => simp
  | cons byte rest inductionHypothesis =>
    simp only [groups_cons, List.length_cons, Nat.pow_succ]
    have low : byte.toNat % 128 < 128 := Nat.mod_lt _ (by decide)
    omega

/-- No bytes are all continued. -/
@[simp] theorem continued_nil : Continued [] := by simp [Continued]

/-- Bytes are all continued if the first is and the others are. -/
@[simp] theorem continued_cons (byte : UInt8) (rest : List UInt8) :
    Continued (byte :: rest) ↔ 128 ≤ byte.toNat ∧ Continued rest := by
  simp [Continued]

/-- A terminated number has a last byte. -/
theorem not_terminated_nil : ¬ Terminated [] := by
  rintro ⟨leading, last, split, _, _⟩
  simp at split

/-- A terminated number is its last byte, or a continued byte before another
terminated number. -/
theorem terminated_cons (byte : UInt8) (rest : List UInt8) :
    Terminated (byte :: rest) ↔
      (byte.toNat < 128 ∧ rest = []) ∨ (128 ≤ byte.toNat ∧ Terminated rest) := by
  constructor
  · rintro ⟨leading, last, split, continued, ends⟩
    cases leading with
    | nil =>
      simp only [List.nil_append, List.cons.injEq] at split
      exact Or.inl ⟨split.1 ▸ ends, split.2⟩
    | cons first others =>
      simp only [List.cons_append, List.cons.injEq] at split
      rw [continued_cons, ← split.1] at continued
      exact Or.inr ⟨continued.1, others, last, split.2, continued.2, ends⟩
  · rintro (⟨ends, rfl⟩ | ⟨follows, leading, last, rfl, continued, ends⟩)
    · exact ⟨[], byte, rfl, continued_nil, ends⟩
    · exact ⟨byte :: leading, last, rfl, (continued_cons _ _).mpr ⟨follows, continued⟩, ends⟩

/-- One byte is terminated if it is not continued. -/
@[simp] theorem terminated_singleton (byte : UInt8) : Terminated [byte] ↔ byte.toNat < 128 := by
  simp [terminated_cons, not_terminated_nil]

/-- So it is not empty. -/
theorem Terminated.pos {bytes : List UInt8} (terminated : Terminated bytes) :
    0 < bytes.length := by
  obtain ⟨leading, last, rfl, _, _⟩ := terminated
  simp

/-- No terminated number is continued by another byte. -/
theorem Terminated.not_continued {bytes rest : List UInt8} (terminated : Terminated bytes) :
    ¬ Continued (bytes ++ rest) := by
  obtain ⟨leading, last, rfl, _, ends⟩ := terminated
  intro continued
  have follows : 128 ≤ last.toNat := continued last (by simp)
  omega

/-- The end of a number is found in its own bytes: what follows it does not
matter. -/
theorem Terminated.unique {first second restOfFirst restOfSecond : List UInt8}
    (one : Terminated first) (other : Terminated second)
    (same : first ++ restOfFirst = second ++ restOfSecond) :
    first = second ∧ restOfFirst = restOfSecond := by
  induction first generalizing second with
  | nil => exact absurd one not_terminated_nil
  | cons byte rest inductionHypothesis =>
    cases second with
    | nil => exact absurd other not_terminated_nil
    | cons byte' rest' =>
      simp only [List.cons_append, List.cons.injEq] at same
      obtain ⟨rfl, same⟩ := same
      rw [terminated_cons] at one other
      rcases one with ⟨ends, rfl⟩ | ⟨follows, one⟩
      · rcases other with ⟨_, rfl⟩ | ⟨follows, _⟩
        · exact ⟨rfl, same⟩
        · omega
      · rcases other with ⟨ends, _⟩ | ⟨_, other⟩
        · omega
        · obtain ⟨rfl, rfl⟩ := inductionHypothesis one other same
          exact ⟨rfl, rfl⟩

/-- Terminated numbers of one length and one value are the same bytes. The first byte is the
remainder of the value, and the bytes behind it spell the quotient. -/
theorem Terminated.eq_of_groups {first second : List UInt8} (one : Terminated first)
    (other : Terminated second) (sameLength : first.length = second.length)
    (sameValue : groups first = groups second) : first = second := by
  induction first generalizing second with
  | nil => exact absurd one not_terminated_nil
  | cons byte rest inductionHypothesis =>
    cases second with
    | nil => exact absurd other not_terminated_nil
    | cons byte' rest' =>
      simp only [List.length_cons, Nat.add_right_cancel_iff] at sameLength
      simp only [groups_cons] at sameValue
      have bounded := byte.toNat_lt
      have bounded' := byte'.toNat_lt
      rw [terminated_cons] at one other
      rcases one with ⟨ends, rfl⟩ | ⟨follows, one⟩
      · obtain rfl : rest' = [] := List.eq_nil_of_length_eq_zero sameLength.symm
        rcases other with ⟨ends', _⟩ | ⟨_, other⟩
        · simp only [groups_nil] at sameValue
          rw [UInt8.toNat_inj.mp (show byte.toNat = byte'.toNat by omega)]
        · exact absurd other not_terminated_nil
      · rcases other with ⟨_, rfl⟩ | ⟨follows', other⟩
        · obtain rfl : rest = [] := List.eq_nil_of_length_eq_zero sameLength
          exact absurd one not_terminated_nil
        · rw [inductionHypothesis one other sameLength (by omega),
            UInt8.toNat_inj.mp (show byte.toNat = byte'.toNat by omega)]

/-! ## Bytes as machine words -/

/-- A mask clears exactly the bytes that its table of 256 entries says. -/
theorem mask_clear (mask bound : Nat) (fits : mask < 256)
    (table : ∀ value < 256, value &&& mask = 0 ↔ value < bound) (byte : UInt8) :
    byte &&& UInt8.ofNat mask = 0 ↔ byte.toNat < bound := by
  rw [← table byte.toNat byte.toNat_lt, ← UInt8.toNat_inj, UInt8.toNat_and,
    UInt8.toNat_ofNat', Nat.mod_eq_of_lt fits]
  exact Iff.rfl

/-- The continuation bit is clear exactly below 128. All 256 bytes are checked. -/
theorem continuation_clear (byte : UInt8) : byte &&& 0x80 = 0 ↔ byte.toNat < 128 :=
  mask_clear 0x80 128 (by decide) (by decide +kernel) byte

/-- The group of a byte is what remains modulo 128. -/
theorem low_bits (byte : UInt8) : (byte &&& 0x7f).toNat = byte.toNat % 128 := by
  rw [UInt8.toNat_and]
  exact Nat.and_two_pow_sub_one_eq_mod byte.toNat 7

/-- The high four bits are clear exactly below 16. All 256 bytes are checked. -/
theorem high_bits_clear (byte : UInt8) : byte &&& 0xf0 = 0 ↔ byte.toNat < 16 :=
  mask_clear 0xf0 16 (by decide) (by decide +kernel) byte

/-- Putting a group above the bits already gathered adds it at its weight. -/
theorem or_shift (gathered group places : Nat) (fits : gathered < 2 ^ places) :
    gathered ||| group <<< places = gathered + 2 ^ places * group := by
  rw [Nat.shiftLeft_eq, Nat.mul_comm group, Nat.or_comm, ← Nat.two_pow_add_eq_or_of_lt fits,
    Nat.add_comm]

/-- Each place weighs seven bits. -/
theorem weight (places : Nat) : 128 ^ places = 2 ^ (places * 7) := by
  rw [Nat.mul_comm, Nat.pow_mul]

end Encoding
