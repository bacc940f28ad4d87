import Mathlib.Algebra.Ring.Nat

/-!
# Text as UTF-8 bytes and as UTF-16 code units

Text is a list of Unicode scalar values. The two encodings measure it
differently: a scalar value takes one to four bytes, and one code unit or, above
the basic plane, two. Four bytes never go with one unit, which bounds the bytes
by three times the units.
-/

namespace Encoding

/-- The UTF-8 bytes of a text. -/
def utf8 (text : List Char) : List UInt8 := text.flatMap String.utf8EncodeChar

/-- The text whose UTF-8 encoding the bytes are, when there is one. -/
def fromUtf8 (bytes : List UInt8) : Option (List Char) :=
  bytes.toByteArray.utf8Decode?.map Array.toList

/-- The UTF-16 code units that one scalar value takes. -/
def unitsOf (letter : Char) : Nat := if letter.val ≤ 0xffff then 1 else 2

/-- The UTF-16 code units that a text takes. -/
def utf16Units (text : List Char) : Nat := (text.map unitsOf).sum

/-- The bytes are those of the library's own encoder. -/
theorem utf8_toByteArray (text : List Char) : (utf8 text).toByteArray = text.utf8Encode := rfl

/-- Decoding inverts encoding and accepts nothing else, so bytes that decode are the bytes of one
text only. -/
theorem fromUtf8_eq_some (bytes : List UInt8) (text : List Char) :
    fromUtf8 bytes = some text ↔ bytes = utf8 text := by
  constructor
  · intro decoded
    obtain ⟨letters, found, rfl⟩ := Option.map_eq_some_iff.mp decoded
    have valid : bytes.toByteArray.utf8Decode?.isSome := by simp [found]
    have inverse := ByteArray.utf8Encode_get_utf8Decode? (h := valid)
    simp only [found, Option.get_some] at inverse
    rw [← utf8_toByteArray] at inverse
    exact (List.toByteArray_inj.mp inverse).symm
  · rintro rfl
    simp [fromUtf8, utf8_toByteArray]

/-- What was encoded decodes to itself. -/
@[simp] theorem fromUtf8_utf8 (text : List Char) : fromUtf8 (utf8 text) = some text :=
  (fromUtf8_eq_some _ _).mpr rfl

/-- Distinct texts have distinct bytes. -/
theorem utf8_injective {first second : List Char} (same : utf8 first = utf8 second) :
    first = second := by
  have decoded : some first = some second := by
    rw [← fromUtf8_utf8 first, ← fromUtf8_utf8 second, same]
  exact Option.some.inj decoded

/-- The empty text has no bytes. -/
@[simp] theorem utf8_nil : utf8 [] = [] := rfl

/-- Letters are encoded one after the other. -/
@[simp] theorem utf8_cons (letter : Char) (rest : List Char) :
    utf8 (letter :: rest) = String.utf8EncodeChar letter ++ utf8 rest := rfl

/-- The empty text takes no units. -/
@[simp] theorem utf16Units_nil : utf16Units [] = 0 := rfl

/-- The units of a text are those of its letters together. -/
@[simp] theorem utf16Units_cons (letter : Char) (rest : List Char) :
    utf16Units (letter :: rest) = unitsOf letter + utf16Units rest := by
  simp [utf16Units]

/-- Texts one after the other take the units of both. -/
theorem utf16Units_append (first second : List Char) :
    utf16Units (first ++ second) = utf16Units first + utf16Units second := by
  simp [utf16Units]

/-- Only scalar values that take two units take four bytes, so a bound on the units is one on the
bytes. -/
theorem size_le_units (letter : Char) : letter.utf8Size ≤ 3 * unitsOf letter := by
  unfold unitsOf
  split
  case isTrue basic =>
    have notFour : letter.utf8Size ≠ 4 := by
      rw [Ne, Char.utf8Size_eq_four_iff]
      exact UInt32.not_lt.mpr basic
    have atMostFour := letter.utf8Size_le_four
    omega
  case isFalse =>
    have atMostFour := letter.utf8Size_le_four
    omega

/-- A text takes at most three bytes for each of its code units. -/
theorem utf8_length_le (text : List Char) : (utf8 text).length ≤ 3 * utf16Units text := by
  induction text with
  | nil => simp
  | cons letter rest inductionHypothesis =>
    have bound := size_le_units letter
    simp only [utf8_cons, List.length_append, String.length_utf8EncodeChar, utf16Units_cons]
    omega

end Encoding
