import McServerNap.RoundTrip

/-!
# VarInts

Writing gives the shortest spelling, of the size that the separate table announces.
Decoding accepts every spelling of at most five bytes whose value fits 32 bits, and it
looks at no byte behind the spelling.
-/

namespace McServerNap

open Encoding

/-- The loop of `decode_varint` returns in its fifth turn: a fifth byte that announces
another one has already been refused for its high bits. -/
theorem decodeVarintFrom_returns (input : Bytes) (rounds position : Nat) (result : UInt32)
    (turns : rounds + position = 5) (started : 0 < rounds) :
    decodeVarintFrom input rounds position result ≠ .error .varintExceedsFiveBytes := by
  induction rounds generalizing position result with
  | zero => exact absurd started (Nat.lt_irrefl 0)
  | succ rounds inductionHypothesis =>
    unfold decodeVarintFrom
    split
    · exact nofun
    · rename_i byte found
      split
      · exact nofun
      · rename_i low
        simp only
        split
        · exact nofun
        · rename_i follows
          by_cases last : rounds = 0
          · have high : byte &&& 0xf0 = 0 := by
              by_contra high
              exact low ⟨by omega, high⟩
            have small := (high_bits_clear byte).mp high
            exact absurd ((continuation_clear byte).mpr (by omega)) follows
          · exact inductionHypothesis _ _ (by omega) (by omega)

/-- The accepted spelling is what the input begins with. This states the result without the field
and the rest, by the length alone, as callers use it. -/
theorem decodeVarint_eq_ok_take (input : Bytes) (value : Int32) (length : Nat) :
    decodeVarint input = .ok (value, length) ↔
      length ≤ 5 ∧ length ≤ input.length ∧ Terminated (input.take length) ∧
        groups (input.take length) < 2 ^ 32 ∧
        groups (input.take length) = value.toUInt32.toNat := by
  rw [decodeVarint_eq_ok]
  constructor
  · rintro ⟨field, rest, rfl, rfl, varint⟩
    rw [List.take_left]
    refine ⟨varint.short, by simp, varint.terminated, ?_, varint.spells⟩
    rw [varint.spells]
    exact value.toUInt32.toNat_lt
  · rintro ⟨short, enough, terminated, -, spells⟩
    have counted : (input.take length).length = length := by
      rw [List.length_take]
      omega
    exact ⟨input.take length, input.drop length, (List.take_append_drop _ _).symm, counted,
      terminated, by omega, spells⟩

/-- No spelling of a value is shorter than the one that is written: so many groups of seven bits
could not hold the value. -/
theorem IsVarint.written_shortest {field : Bytes} {value : Int32} (varint : IsVarint field value) :
    varintSize value ≤ field.length := by
  have positive := varint.terminated.pos
  have bound := groups_lt field
  rw [varint.spells] at bound
  unfold varintSize
  simp only [UInt32.le_iff_toNat_le, UInt32.reduceToNat]
  obtain ⟨more, counted⟩ : ∃ more, field.length = more + 1 := ⟨field.length - 1, by omega⟩
  rw [counted] at bound ⊢
  match more with
  | 0 => split_ifs <;> omega
  | 1 => split_ifs <;> omega
  | 2 => split_ifs <;> omega
  | 3 => split_ifs <;> omega
  | more + 4 => split_ifs <;> omega

/-- A written VarInt has the announced size, is decoded whatever follows it, and nothing
shorter decodes to its value. Decoding accepts exactly the terminated spellings of at most
five bytes whose value fits 32 bits; what follows a spelling does not matter, and the loop
never runs out of turns. -/
theorem varints_are_written_shortest_and_decoded :
    (∀ value : Int32, (writeVarint value []).length = varintSize value ∧
      1 ≤ varintSize value ∧ varintSize value ≤ 5 ∧
      (∀ output, writeVarint value output = output ++ writeVarint value []) ∧
      (∀ rest, decodeVarint (writeVarint value [] ++ rest) = .ok (value, varintSize value)) ∧
      ∀ (shorter : Bytes) (length : Nat), shorter.length < varintSize value →
        decodeVarint shorter ≠ .ok (value, length)) ∧
    (∀ (input : Bytes) (value : Int32) (length : Nat),
      decodeVarint input = .ok (value, length) ↔
        length ≤ 5 ∧ length ≤ input.length ∧ Terminated (input.take length) ∧
          groups (input.take length) < 2 ^ 32 ∧
          groups (input.take length) = value.toUInt32.toNat) ∧
    (∀ (input rest : Bytes) (value : Int32) (length : Nat),
      decodeVarint input = .ok (value, length) →
        decodeVarint (input.take length ++ rest) = .ok (value, length)) ∧
    ∀ input : Bytes, decodeVarint input ≠ .error .varintExceedsFiveBytes := by
  refine ⟨fun value => ?_, decodeVarint_eq_ok_take, fun input rest value length decoded => ?_,
    fun input => decodeVarintFrom_returns input 5 0 0 rfl (by decide)⟩
  · obtain ⟨varint, size, prepends⟩ := writeVarint_spec value
    have positive := varint.terminated.pos
    have short := varint.short
    refine ⟨size, by omega, by omega, prepends, writeVarint_decoded value,
      fun shorter length fewer decoded => ?_⟩
    obtain ⟨field, rest, rfl, -, spelled⟩ := (decodeVarint_eq_ok _ _ _).mp decoded
    have shortest := spelled.written_shortest
    rw [List.length_append] at fewer
    omega
  · obtain ⟨field, later, rfl, rfl, varint⟩ := (decodeVarint_eq_ok _ _ _).mp decoded
    rw [List.take_left]
    exact varint.decoded rest

end McServerNap
