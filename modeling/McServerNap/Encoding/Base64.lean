import Mathlib.Algebra.Group.Nat.Defs
import Mathlib.Data.List.Basic

/-!
# Bytes as Base64 text

Three bytes are four letters of six bits each. The last group is padded where one or two
bytes are left over; the bits that the padding cuts off are zero.
-/

namespace Encoding

/-- The letter of six bits. -/
def base64Letter (value : Nat) : Char :=
  if value < 26 then Char.ofNat ('A'.toNat + value)
  else if value < 52 then Char.ofNat ('a'.toNat + (value - 26))
  else if value < 62 then Char.ofNat ('0'.toNat + (value - 52))
  else if value = 62 then '+'
  else '/'

/-- The six bits of a letter. The padding has none. -/
def base64Value (letter : Char) : Option Nat :=
  if 'A' ≤ letter ∧ letter ≤ 'Z' then some (letter.toNat - 'A'.toNat)
  else if 'a' ≤ letter ∧ letter ≤ 'z' then some (letter.toNat - 'a'.toNat + 26)
  else if '0' ≤ letter ∧ letter ≤ '9' then some (letter.toNat - '0'.toNat + 52)
  else if letter = '+' then some 62
  else if letter = '/' then some 63
  else none

/-- The text of the bytes in groups of three, the last of them padded to four letters. -/
def toBase64 : List UInt8 → List Char
  | [] => []
  | [first] =>
    let group := first.toNat * 16
    [base64Letter (group / 64), base64Letter (group % 64), '=', '=']
  | [first, second] =>
    let group := (first.toNat * 256 + second.toNat) * 4
    [base64Letter (group / 64 / 64), base64Letter (group / 64 % 64), base64Letter (group % 64), '=']
  | first :: second :: third :: rest =>
    let group := (first.toNat * 256 + second.toNat) * 256 + third.toNat
    base64Letter (group / 64 / 64 / 64) :: base64Letter (group / 64 / 64 % 64) ::
      base64Letter (group / 64 % 64) :: base64Letter (group % 64) :: toBase64 rest

/-- The number that the letters spell in base 64. -/
def base64Group (letters : List Char) : Option Nat :=
  letters.foldlM (fun group letter => (base64Value letter).map (group * 64 + ·)) 0

/-- The bytes of a padded text. Padding is for the end only. -/
def fromBase64 : List Char → Option (List UInt8)
  | [] => some []
  | [first, second, '=', '='] => do
    let group ← base64Group [first, second]
    if group % 16 = 0 then some [.ofNat (group / 16)] else none
  | [first, second, third, '='] => do
    let group ← base64Group [first, second, third]
    if group % 4 = 0 then some [.ofNat (group / 4 / 256), .ofNat (group / 4)] else none
  | first :: second :: third :: fourth :: rest => do
    let group ← base64Group [first, second, third, fourth]
    let bytes ← fromBase64 rest
    return .ofNat (group / 256 / 256) :: .ofNat (group / 256) :: .ofNat group :: bytes
  | _ => none

/-- The letter of a value stands for that value, over the whole alphabet. -/
theorem base64Value_letter {value : Nat} (small : value < 64) :
    base64Value (base64Letter value) = some value := by
  have all : ∀ value < 64, base64Value (base64Letter value) = some value := by decide
  exact all value small

/-- No value is printed as padding. -/
theorem base64Letter_not_padding (value : Nat) : base64Letter value ≠ '=' := by
  by_cases small : value < 64
  · intro padding
    have read := base64Value_letter small
    rw [padding, show base64Value '=' = none by decide] at read
    cases read
  · have large : base64Letter value = '/' := by
      unfold base64Letter
      rw [if_neg (by omega), if_neg (by omega), if_neg (by omega), if_neg (by omega)]
    rw [large]
    decide

/-- What was printed is what is read. The cases are those of the printer: one or two bytes at the
end, which are padded, and otherwise three bytes for four letters. -/
theorem fromBase64_toBase64 (bytes : List UInt8) : fromBase64 (toBase64 bytes) = some bytes := by
  fun_induction toBase64 bytes with
  | case1 => rfl
  | case2 first group =>
    have bound := first.toNat_lt
    have spelled : base64Group [base64Letter (group / 64), base64Letter (group % 64)] =
        some group := by
      simp only [base64Group, List.foldlM_cons, List.foldlM_nil,
        base64Value_letter (show group / 64 < 64 by omega),
        base64Value_letter (Nat.mod_lt group (by decide : 0 < 64)), Option.map_some,
        Option.bind_eq_bind, Option.bind_some]
      exact congrArg some (by omega)
    simp only [fromBase64, spelled, Option.bind_eq_bind, Option.bind_some]
    rw [if_pos (by omega), show group / 16 = first.toNat by omega, UInt8.ofNat_toNat]
  | case3 first second group =>
    have bounds := And.intro first.toNat_lt second.toNat_lt
    have spelled : base64Group [base64Letter (group / 64 / 64), base64Letter (group / 64 % 64),
        base64Letter (group % 64)] = some group := by
      simp only [base64Group, List.foldlM_cons, List.foldlM_nil,
        base64Value_letter (show group / 64 / 64 < 64 by omega),
        base64Value_letter (Nat.mod_lt _ (by decide : 0 < 64)), Option.map_some,
        Option.bind_eq_bind, Option.bind_some]
      exact congrArg some (by omega)
    rw [fromBase64]
    · simp only [spelled, Option.bind_eq_bind, Option.bind_some]
      have low : UInt8.ofNat (group / 4) = second := by
        apply UInt8.toNat_inj.mp
        rw [UInt8.toNat_ofNat']
        omega
      rw [if_pos (by omega), low, show group / 4 / 256 = first.toNat by omega, UInt8.ofNat_toNat]
    · exact fun padding => absurd padding (base64Letter_not_padding _)
  | case4 first second third rest group inductionHypothesis =>
    have bounds := And.intro first.toNat_lt (And.intro second.toNat_lt third.toNat_lt)
    have spelled : base64Group [base64Letter (group / 64 / 64 / 64),
        base64Letter (group / 64 / 64 % 64), base64Letter (group / 64 % 64),
        base64Letter (group % 64)] = some group := by
      simp only [base64Group, List.foldlM_cons, List.foldlM_nil,
        base64Value_letter (show group / 64 / 64 / 64 < 64 by omega),
        base64Value_letter (Nat.mod_lt _ (by decide : 0 < 64)), Option.map_some,
        Option.bind_eq_bind, Option.bind_some]
      exact congrArg some (by omega)
    rw [fromBase64]
    · simp only [spelled, inductionHypothesis, Option.bind_eq_bind, Option.bind_some]
      have middle : UInt8.ofNat (group / 256) = second := by
        apply UInt8.toNat_inj.mp
        rw [UInt8.toNat_ofNat']
        omega
      have low : UInt8.ofNat group = third := by
        apply UInt8.toNat_inj.mp
        rw [UInt8.toNat_ofNat']
        omega
      rw [show group / 256 / 256 = first.toNat by omega, UInt8.ofNat_toNat, middle, low]
      rfl
    · exact fun _ padding => absurd padding (base64Letter_not_padding _)
    · exact fun padding => absurd padding (base64Letter_not_padding _)

end Encoding
