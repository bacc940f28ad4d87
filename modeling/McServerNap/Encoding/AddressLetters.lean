import McServerNap.Encoding.AddressText

/-!
# The letters of an address

An address is written in hexadecimal digits, colons and dots. So its text is never empty, and
nothing in it is a bracket, a blank or beyond ASCII. The case of its letters says nothing: the
readers take a text and its lower-case form alike.
-/

namespace Encoding

/-! ## Kinds of letters -/

/-- Taking nothing takes letters of any kind. -/
theorem Taken.refl (Kind : Char → Prop) (text : List Char) : Taken Kind text text :=
  ⟨[], rfl, nofun⟩

/-- What is taken in two steps is of the kind if both parts are. -/
theorem Taken.trans {Kind : Char → Prop} {text behind rest : List Char}
    (first : Taken Kind text behind) (second : Taken Kind behind rest) : Taken Kind text rest := by
  obtain ⟨front, rfl, frontKind⟩ := first
  obtain ⟨back, rfl, backKind⟩ := second
  refine ⟨front ++ back, by rw [List.append_assoc], fun letter mem => ?_⟩
  rcases List.mem_append.mp mem with mem | mem
  · exact frontKind letter mem
  · exact backKind letter mem

/-- One letter of the kind may be taken. -/
theorem Taken.cons {Kind : Char → Prop} {letter : Char} (kind : Kind letter) (rest : List Char) :
    Taken Kind (letter :: rest) rest :=
  ⟨[letter], rfl, by simpa using kind⟩

/-- If nothing is left, the whole text is of the kind. -/
theorem Taken.all {Kind : Char → Prop} {text : List Char} (taken : Taken Kind text []) :
    ∀ letter ∈ text, Kind letter := by
  obtain ⟨front, rfl, kind⟩ := taken
  rwa [List.append_nil]

/-- A reader of few letters is a reader of more. -/
theorem Takes.imp {α : Type} {Narrow Wide : Char → Prop} {reader : Reader α}
    (takes : Takes Narrow reader) (wider : ∀ letter, Narrow letter → Wide letter) :
    Takes Wide reader := by
  intro text value rest read
  obtain ⟨front, whole, kind⟩ := takes text value rest read
  exact ⟨front, whole, fun letter mem => wider letter (kind letter mem)⟩

/-- A separator that is of the kind may stand before what is read. -/
theorem Takes.separated {α : Type} {Kind : Char → Prop} {inner : Reader α}
    (takes : Takes Kind inner) (separator : Char) (kind : Kind separator) (index : Nat) :
    Takes Kind (readSeparator separator index inner) := by
  intro text value rest read
  rcases readSeparator_eq_some read with ⟨-, inside⟩ | ⟨behind, rfl, inside⟩
  · exact takes text value rest inside
  · exact (Taken.cons kind behind).trans (takes behind value rest inside)

/-- A letter that an address may contain. -/
def AddressLetter (letter : Char) : Prop :=
  (toDigit 16 letter).isSome ∨ letter = ':' ∨ letter = '.'

/-- The digit as a function of the letter's code. -/
theorem toDigit_eq (radix : Nat) (letter : Char) :
    toDigit radix letter =
      (if 48 ≤ letter.toNat ∧ letter.toNat ≤ 57 then some (letter.toNat - 48)
        else if 97 ≤ letter.toNat ∧ letter.toNat ≤ 122 then some (letter.toNat - 97 + 10)
        else if 65 ≤ letter.toNat ∧ letter.toNat ≤ 90 then some (letter.toNat - 65 + 10)
        else none).filter (· < radix) := by
  simp only [toDigit, Char.le_def, UInt32.le_iff_toNat_le]
  rfl

/-- The digits of a radix are the first digits and letters, in either case of the letters. All of
it is said by codes, for `omega`. -/
theorem toDigit_isSome_iff (radix : Nat) (letter : Char) :
    (toDigit radix letter).isSome ↔
      (48 ≤ letter.toNat ∧ letter.toNat ≤ 57 ∧ letter.toNat - 48 < radix) ∨
      (97 ≤ letter.toNat ∧ letter.toNat ≤ 122 ∧ letter.toNat - 87 < radix) ∨
      (65 ≤ letter.toNat ∧ letter.toNat ≤ 90 ∧ letter.toNat - 55 < radix) := by
  rw [toDigit_eq]
  split
  · simp
    omega
  · split
    · simp
      omega
    · split
      · simp
        omega
      · simp
        omega

/-- The digits of a small radix are hexadecimal digits. -/
theorem toDigit_hexadecimal {radix : Nat} (small : radix ≤ 16) {letter : Char}
    (digit : (toDigit radix letter).isSome) : AddressLetter letter := by
  left
  rw [toDigit_isSome_iff] at digit ⊢
  omega

/-- A number is made of digits, and up to radix 16 they are letters of an address. -/
theorem readNumber_letters {radix : Nat} (small : radix ≤ 16) (maxDigits bound : Nat)
    (allowZeroPrefix : Bool) :
    Takes AddressLetter (readNumber radix maxDigits bound allowZeroPrefix) :=
  (readNumber_takes radix maxDigits bound allowZeroPrefix).imp fun _ => toDigit_hexadecimal small

/-- An IPv4 address is made of decimal digits and dots. -/
theorem readIpv4Addr_letters : Takes AddressLetter readIpv4Addr := by
  intro text address rest read
  have octet := readNumber_letters (show 10 ≤ 16 by decide) 3 256 false
  have dotted (index : Nat) := octet.separated '.' (.inr (.inr rfl)) index
  simp only [readIpv4Addr, Option.bind_eq_bind, Option.bind_eq_some_iff] at read
  obtain ⟨⟨a, second⟩, first, ⟨b, third⟩, read, ⟨c, fourth⟩, next, ⟨d, behind⟩, last, same⟩ := read
  obtain ⟨-, rfl⟩ := Prod.mk.inj (Option.some.inj same)
  exact (dotted 0 _ _ _ first).trans <| (dotted 1 _ _ _ read).trans <|
    (dotted 2 _ _ _ next).trans (dotted 3 _ _ _ last)

/-- Groups are made of digits, colons and, in an embedded IPv4 address, dots. The induction is on
the groups that may still come. -/
theorem readGroupsFrom_letters (limit rounds : Nat) (groups : List UInt16) (text : List Char) :
    Taken AddressLetter text (readGroupsFrom limit rounds groups text).2.2 := by
  have colon : AddressLetter ':' := .inr (.inl rfl)
  induction rounds generalizing groups text with
  | zero => exact Taken.refl _ text
  | succ rounds inductionHypothesis =>
    unfold readGroupsFrom
    dsimp only
    split
    · rename_i address rest embedded
      split at embedded
      · exact readIpv4Addr_letters.separated ':' colon _ _ _ _ embedded
      · cases embedded
    · split
      · rename_i group rest read
        have taken := (readNumber_letters (Nat.le_refl 16) 4 65536 true).separated ':' colon _ _ _ _ read
        exact taken.trans (inductionHypothesis _ rest)
      · exact Taken.refl _ text

/-- So is an IPv6 address, which adds a gap of two colons. Both halves are read as groups, and the
gap between them is spelled with colons only. -/
theorem readIpv6Addr_letters : Takes AddressLetter readIpv6Addr := by
  intro text address rest read
  have colon : AddressLetter ':' := .inr (.inl rfl)
  have front := readGroupsFrom_letters 8 8 [] text
  unfold readIpv6Addr readGroups at read
  generalize readGroupsFrom 8 8 [] text = result at front read
  obtain ⟨head, embedded, behind⟩ := result
  dsimp only at front read
  split at read
  · obtain ⟨_, -, same⟩ := Option.map_eq_some_iff.mp read
    obtain ⟨-, rfl⟩ := Prod.mk.inj same
    exact front
  · split at read
    · cases read
    · split at read
      · rename_i further
        obtain ⟨_, -, same⟩ := Option.map_eq_some_iff.mp read
        obtain ⟨-, rfl⟩ := Prod.mk.inj same
        exact front.trans <| (Taken.cons colon _).trans <| (Taken.cons colon further).trans
          (readGroupsFrom_letters _ _ [] further)
      · cases read

/-- Every letter of an address text is a hexadecimal digit, a colon or a dot. -/
theorem parseIpAddr_letters {text : List Char} {address : IpAddr}
    (parsed : parseIpAddr text = some address) : ∀ letter ∈ text, AddressLetter letter := by
  apply Taken.all
  unfold parseIpAddr at parsed
  split at parsed
  · rename_i found read
    unfold readIpAddr at read
    split at read
    · rename_i ipv4 rest taken
      obtain ⟨-, rfl⟩ := Prod.mk.inj (Option.some.inj read)
      exact readIpv4Addr_letters _ _ _ taken
    · obtain ⟨⟨ipv6, rest⟩, taken, same⟩ := Option.map_eq_some_iff.mp read
      obtain ⟨-, rfl⟩ := Prod.mk.inj same
      exact readIpv6Addr_letters _ _ _ taken
  · cases parsed

/-- The codes of these letters lie in three ranges, so a bracket, a blank or a letter beyond ASCII
is none of them. -/
theorem AddressLetter.range {letter : Char} (kind : AddressLetter letter) :
    (46 ≤ letter.toNat ∧ letter.toNat ≤ 58) ∨ (65 ≤ letter.toNat ∧ letter.toNat ≤ 70) ∨
      (97 ≤ letter.toNat ∧ letter.toNat ≤ 102) := by
  rcases kind with digit | rfl | rfl
  · rw [toDigit_isSome_iff] at digit
    omega
  · decide
  · decide

/-! ## Upper and lower case -/

/-- The reader does not tell a text from its lower-case form. -/
def FoldsCase {α : Type} (reader : Reader α) : Prop :=
  ∀ text, reader (text.map Char.toLower) =
    (reader text).map fun (value, rest) => (value, rest.map Char.toLower)

/-- Lower-casing adds 32 to the codes of the capitals and keeps all others, which is how folding
the case becomes arithmetic. -/
theorem toNat_toLower (letter : Char) :
    letter.toLower.toNat =
      if 65 ≤ letter.toNat ∧ letter.toNat ≤ 90 then letter.toNat + 32 else letter.toNat := by
  unfold Char.toLower
  simp only [ge_iff_le, UInt32.le_iff_toNat_le]
  split
  · rename_i upper
    have upper' : 65 ≤ letter.toNat ∧ letter.toNat ≤ 90 := upper
    rw [if_pos upper']
    show (letter.val + 32).toNat = letter.toNat + 32
    rw [UInt32.toNat_add]
    show (letter.toNat + 32) % 2 ^ 32 = _
    omega
  · rename_i other
    rw [if_neg (show ¬ (65 ≤ letter.toNat ∧ letter.toNat ≤ 90) from other)]

/-- A digit has one value in both cases. -/
theorem toDigit_toLower (radix : Nat) (letter : Char) :
    toDigit radix letter.toLower = toDigit radix letter := by
  rw [toDigit_eq, toDigit_eq, toNat_toLower]
  by_cases upper : 65 ≤ letter.toNat ∧ letter.toNat ≤ 90
  · have digit : ¬ (48 ≤ letter.toNat ∧ letter.toNat ≤ 57) := by omega
    have lower : ¬ (97 ≤ letter.toNat ∧ letter.toNat ≤ 122) := by omega
    have raised : ¬ (48 ≤ letter.toNat + 32 ∧ letter.toNat + 32 ≤ 57) := by omega
    have lowered : 97 ≤ letter.toNat + 32 ∧ letter.toNat + 32 ≤ 122 := by omega
    rw [if_pos upper, if_neg raised, if_pos lowered, if_neg digit, if_neg lower, if_pos upper]
    congr 2
  · rw [if_neg upper]

/-- A letter that neither is upper case nor has an upper case is the lower case of no other. -/
theorem toLower_eq_iff (caseless : Char)
    (outside : caseless.toNat < 65 ∨ 90 < caseless.toNat ∧ caseless.toNat < 97) (letter : Char) :
    letter.toLower = caseless ↔ letter = caseless := by
  rw [← Char.toNat_inj, ← Char.toNat_inj, toNat_toLower]
  split <;> omega

/-- Scanning a lower-case text stops at the same place with the same value. The induction is on
the text. -/
theorem scanDigits_foldsCase (radix maxDigits value count : Nat) (text : List Char) :
    scanDigits radix maxDigits value count (text.map Char.toLower) =
      (scanDigits radix maxDigits value count text).map fun (value, count, rest) =>
        (value, count, rest.map Char.toLower) := by
  induction text generalizing value count with
  | nil => rfl
  | cons letter rest inductionHypothesis =>
    simp only [List.map_cons, scanDigits, toDigit_toLower]
    cases toDigit radix letter with
    | none => rfl
    | some digit =>
      dsimp only
      split
      · rfl
      · exact inductionHypothesis _ _

/-- A number reads the same in both cases: a letter and its lower case are the same digit, and a
leading zero is not a letter that has cases. -/
theorem readNumber_foldsCase (radix maxDigits bound : Nat) (allowZeroPrefix : Bool) :
    FoldsCase (readNumber radix maxDigits bound allowZeroPrefix) := by
  intro text
  have zero : (text.map Char.toLower).head? = some '0' ↔ text.head? = some '0' := by
    cases text with
    | nil => simp
    | cons letter rest =>
      simp only [List.map_cons, List.head?_cons, Option.some.injEq]
      exact toLower_eq_iff '0' (by decide) letter
  unfold readNumber
  rw [scanDigits_foldsCase]
  simp only [zero]
  cases scanDigits radix maxDigits 0 0 text with
  | none => rfl
  | some result =>
    simp only [Option.map_some]
    split
    · rfl
    · split
      · rfl
      · split <;> rfl

/-- So does what comes behind a separator, which has no case of its own. -/
theorem FoldsCase.separated {α : Type} {inner : Reader α} (folds : FoldsCase inner)
    (separator : Char)
    (outside : separator.toNat < 65 ∨ 90 < separator.toNat ∧ separator.toNat < 97) (index : Nat) :
    FoldsCase (readSeparator separator index inner) := by
  intro text
  unfold readSeparator
  split
  · cases text with
    | nil => rfl
    | cons letter rest =>
      simp only [List.map_cons, toLower_eq_iff separator outside letter]
      split
      · exact folds rest
      · rfl
  · exact folds text

/-- So does an IPv4 address: its four numbers are read one after the other, and the dots between
them have no case. -/
theorem readIpv4Addr_foldsCase : FoldsCase readIpv4Addr := by
  intro text
  have dotted (index : Nat) : FoldsCase (readSeparator '.' index (readNumber 10 3 256 false)) :=
    (readNumber_foldsCase 10 3 256 false).separated '.' (by decide) index
  simp only [readIpv4Addr, Option.bind_eq_bind]
  rw [dotted 0, Option.bind_map, Option.map_bind]
  congr 1
  funext first
  simp only [Function.comp_apply]
  rw [dotted 1, Option.bind_map, Option.map_bind]
  congr 1
  funext second
  simp only [Function.comp_apply]
  rw [dotted 2, Option.bind_map, Option.map_bind]
  congr 1
  funext third
  simp only [Function.comp_apply]
  rw [dotted 3, Option.bind_map, Option.map_bind]
  rfl

/-- So do groups, including whether the last of them was an embedded IPv4 address. The induction
is on the rounds that the loop may still take. -/
theorem readGroupsFrom_foldsCase (limit rounds : Nat) (groups : List UInt16) (text : List Char) :
    readGroupsFrom limit rounds groups (text.map Char.toLower) =
      let result := readGroupsFrom limit rounds groups text
      (result.1, result.2.1, result.2.2.map Char.toLower) := by
  induction rounds generalizing groups text with
  | zero => rfl
  | succ rounds inductionHypothesis =>
    have address := readIpv4Addr_foldsCase.separated ':' (by decide) groups.length text
    have group := (readNumber_foldsCase 16 4 65536 true).separated ':' (by decide)
      groups.length text
    have embedded : (if groups.length + 1 < limit then
        readSeparator ':' groups.length readIpv4Addr (text.map Char.toLower) else none) =
        (if groups.length + 1 < limit then
          readSeparator ':' groups.length readIpv4Addr text else none).map
            fun (value, rest) => (value, rest.map Char.toLower) := by
      split
      · exact address
      · rfl
    simp only [readGroupsFrom, embedded]
    cases (if groups.length + 1 < limit then
      readSeparator ':' groups.length readIpv4Addr text else none) with
    | some found => rfl
    | none =>
      simp only [Option.map_none, group]
      cases readSeparator ':' groups.length (readNumber 16 4 65536 true) text with
      | some found => exact inductionHypothesis _ _
      | none => rfl

/-- The same from the first group on. -/
theorem readGroups_foldsCase (limit : Nat) (text : List Char) :
    readGroups limit (text.map Char.toLower) =
      let result := readGroups limit text
      (result.1, result.2.1, result.2.2.map Char.toLower) :=
  readGroupsFrom_foldsCase limit limit [] text

/-- A gap is a gap in either case. -/
theorem gap_of_toLower {behind rest : List Char}
    (lowered : behind.map Char.toLower = ':' :: ':' :: rest) :
    ∃ further, behind = ':' :: ':' :: further ∧ further.map Char.toLower = rest := by
  obtain ⟨first, others, rfl, colon, same⟩ := List.map_eq_cons_iff.mp lowered
  obtain ⟨second, further, rfl, again, rfl⟩ := List.map_eq_cons_iff.mp same
  obtain rfl := (toLower_eq_iff ':' (by decide) first).mp colon
  obtain rfl := (toLower_eq_iff ':' (by decide) second).mp again
  exact ⟨further, rfl, rfl⟩

/-- So does an IPv6 address, whose gap has no case either: the groups in front of it and behind it
fold each for itself, and the colons stay. -/
theorem readIpv6Addr_foldsCase : FoldsCase readIpv6Addr := by
  intro text
  unfold readIpv6Addr
  rw [readGroups_foldsCase]
  obtain ⟨head, embedded, behind⟩ := readGroups 8 text
  dsimp only
  split
  · rw [Option.map_map]
    rfl
  · split
    · rfl
    · split
      · rename_i lowered rest same
        obtain ⟨further, rfl, rfl⟩ := gap_of_toLower same
        simp only [readGroups_foldsCase, Option.map_map]
        rfl
      · rename_i lowered other
        split
        · rename_i further
          exact absurd rfl (other (further.map Char.toLower))
        · rfl

/-- So an address of either family reads the same in both cases. -/
theorem readIpAddr_foldsCase : FoldsCase readIpAddr := by
  intro text
  unfold readIpAddr
  rw [readIpv4Addr_foldsCase, readIpv6Addr_foldsCase]
  cases readIpv4Addr text with
  | some found => rfl
  | none =>
    simp only [Option.map_none, Option.map_map]
    rfl

/-- An address text means the same in upper and in lower case. -/
theorem parseIpAddr_toLower (text : List Char) :
    parseIpAddr (text.map Char.toLower) = parseIpAddr text := by
  unfold parseIpAddr
  rw [readIpAddr_foldsCase]
  cases readIpAddr text with
  | none => rfl
  | some found =>
    obtain ⟨address, rest⟩ := found
    cases rest with
    | nil => rfl
    | cons letter rest => rfl

end Encoding
