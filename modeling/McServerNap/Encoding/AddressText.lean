import Mathlib.Data.List.Basic
import Mathlib.Tactic.IntervalCases
import McServerNap.Encoding.Address

/-!
# Printed addresses are read back

A number is printed without leading zeros, and what follows it in an address is a separator
or nothing, so a reader takes exactly its digits. An IPv6 address is printed without its
longest run of zero groups; the reader fills the gap with as many.
-/

namespace Encoding

/-! ## Numbers -/

/-- The text does not go on with a digit. -/
def EndsNumber (radix : Nat) (text : List Char) : Prop :=
  ∀ letter rest, text = letter :: rest → toDigit radix letter = none

/-- At the end of the text no digit follows. -/
theorem endsNumber_nil (radix : Nat) : EndsNumber radix [] := nofun

/-- No digit follows before another letter. -/
theorem endsNumber_cons {radix : Nat} {letter : Char} (other : toDigit radix letter = none)
    (rest : List Char) : EndsNumber radix (letter :: rest) := by
  intro first behind same
  obtain ⟨rfl, -⟩ := List.cons.inj same
  exact other

/-- The value that the digits add to what was read before. -/
def accumulate (radix value : Nat) (digits : List Char) : Nat :=
  digits.foldl (fun value letter => value * radix + (toDigit radix letter).getD 0) value

/-- The loop takes the digits and stops behind them. The induction is on the digits, with the
value and the count so far generalized, as the loop carries them along. -/
theorem scanDigits_digits (radix maxDigits value count : Nat) (digits rest : List Char)
    (all : ∀ letter ∈ digits, (toDigit radix letter).isSome) (ends : EndsNumber radix rest)
    (few : count + digits.length ≤ maxDigits) :
    scanDigits radix maxDigits value count (digits ++ rest) =
      some (accumulate radix value digits, count + digits.length, rest) := by
  induction digits generalizing value count with
  | nil =>
    cases rest with
    | nil => rfl
    | cons letter behind => simp [scanDigits, ends letter behind rfl, accumulate]
  | cons letter digits inductionHypothesis =>
    obtain ⟨isDigit, others⟩ := List.forall_mem_cons.mp all
    obtain ⟨digit, found⟩ := Option.isSome_iff_exists.mp isDigit
    simp only [List.length_cons] at few
    have room : ¬ maxDigits < count + 1 := by omega
    simp only [List.cons_append, scanDigits, found, if_neg room]
    rw [inductionHypothesis _ _ others (by omega)]
    simp only [accumulate, List.foldl_cons, found, Option.getD_some, List.length_cons]
    congr 3
    omega

/-- Printed digits are read as digits. -/
theorem toDigit_digitChar {radix digit : Nat} (small : radix ≤ 16) (below : digit < radix) :
    toDigit radix digit.digitChar = some digit := by
  have all : ∀ radix < 17, ∀ digit < radix, toDigit radix digit.digitChar = some digit := by
    decide
  exact all radix (by omega) digit below

section Printed

variable {radix : Nat}

/-- Printing a number and reading its digits gives the number. The induction is strong, because
the printer splits off the last digit and goes on with the quotient. -/
theorem toDigits_read (large : 1 < radix) (small : radix ≤ 16) (number : Nat) :
    (∀ letter ∈ Nat.toDigits radix number, (toDigit radix letter).isSome) ∧
      accumulate radix 0 (Nat.toDigits radix number) = number := by
  induction number using Nat.strongRecOn with
  | ind number inductionHypothesis =>
    rw [Nat.toDigits_eq_if large]
    split
    · rename_i single
      have read := toDigit_digitChar small single
      simp [accumulate, read]
    · rename_i several
      have smaller : number / radix < number := Nat.div_lt_self (by omega) large
      have last := toDigit_digitChar small (Nat.mod_lt number (show 0 < radix by omega))
      obtain ⟨all, value⟩ := inductionHypothesis _ smaller
      constructor
      · intro letter mem
        rcases List.mem_append.mp mem with mem | mem
        · exact all letter mem
        · rw [List.mem_singleton.mp mem, last]
          rfl
      · have joined : accumulate radix 0 (Nat.toDigits radix (number / radix)) =
            number / radix := value
        simp only [accumulate, List.foldl_append, List.foldl_cons, List.foldl_nil] at joined ⊢
        rw [joined, last, Option.getD_some, Nat.mul_comm]
        exact Nat.div_add_mod number radix

/-- Only zero is printed with a leading zero. The induction is strong, because the first digit is
that of the quotient. -/
theorem toDigits_head (large : 1 < radix) (number : Nat) (positive : 0 < number) :
    (Nat.toDigits radix number).head? ≠ some '0' := by
  induction number using Nat.strongRecOn with
  | ind number inductionHypothesis =>
    rw [Nat.toDigits_eq_if large]
    split
    · simp only [List.head?_cons, ne_eq, Option.some.injEq, Nat.digitChar_eq_zero]
      omega
    · rename_i several
      have smaller : number / radix < number := Nat.div_lt_self positive large
      have front : 0 < number / radix := Nat.div_pos (by omega) (by omega)
      rw [List.head?_append_of_ne_nil _ Nat.toDigits_ne_nil]
      exact inductionHypothesis _ smaller front

/-- A printed number is read back where no digit follows it: its value is in range, it is not
longer than the reader allows, and it has no zero in front. -/
theorem readNumber_toDigits (large : 1 < radix) (small : radix ≤ 16) {maxDigits bound : Nat}
    (allowZeroPrefix : Bool) {number : Nat} (below : number < bound)
    (few : number < radix ^ maxDigits) (some_digits : 0 < maxDigits) {rest : List Char}
    (ends : EndsNumber radix rest) :
    readNumber radix maxDigits bound allowZeroPrefix (Nat.toDigits radix number ++ rest) =
      some (number, rest) := by
  obtain ⟨all, value⟩ := toDigits_read large small number
  have counted : (Nat.toDigits radix number).length ≤ maxDigits :=
    (Nat.length_toDigits_le_iff large some_digits).mpr few
  have positive := Nat.length_toDigits_pos (b := radix) (n := number)
  have scanned := scanDigits_digits radix maxDigits 0 0 _ rest all ends (by omega)
  rw [value, Nat.zero_add] at scanned
  have unprefixed : ¬ ((Nat.toDigits radix number ++ rest).head? = some '0' ∧
      1 < (Nat.toDigits radix number).length) := by
    rintro ⟨zero, several⟩
    rw [List.head?_append_of_ne_nil _ Nat.toDigits_ne_nil] at zero
    rcases Nat.eq_zero_or_pos number with rfl | nonzero
    · simp at several
    · exact toDigits_head large number nonzero zero
  have nonempty : (Nat.toDigits radix number).length ≠ 0 := by omega
  unfold readNumber
  simp only [scanned, if_neg nonempty, if_pos below]
  rw [if_neg]
  simp only [Bool.and_eq_true, decide_eq_true_eq]
  rintro ⟨⟨-, zero⟩, several⟩
  exact unprefixed ⟨zero, several⟩

end Printed

/-! ## IPv4 -/

/-- A dot ends a decimal number. -/
theorem endsNumber_dot (rest : List Char) : EndsNumber 10 ('.' :: rest) :=
  endsNumber_cons (by decide) rest

/-- A printed octet is read back. -/
theorem readOctet (octet : UInt8) {rest : List Char} (ends : EndsNumber 10 rest) :
    readNumber 10 3 256 false (Nat.toDigits 10 octet.toNat ++ rest) = some (octet.toNat, rest) := by
  have below := octet.toNat_lt
  exact readNumber_toDigits (by decide) (by decide) false below (by omega) (by decide) ends

/-- The first element has no separator before it. -/
theorem readSeparator_first {α : Type} (separator : Char) (inner : Reader α) (text : List Char) :
    readSeparator separator 0 inner text = inner text := rfl

/-- Every later element is read behind its separator. -/
theorem readSeparator_later {α : Type} (separator : Char) {index : Nat} (later : 0 < index)
    (inner : Reader α) (text : List Char) :
    readSeparator separator index inner (separator :: text) = inner text := by
  simp only [readSeparator, if_pos later, ↓reduceIte]

/-- What is printed for an IPv4 address is read back, up to where no digit follows. -/
theorem readIpv4Addr_toText (address : Ipv4Addr) {rest : List Char} (ends : EndsNumber 10 rest) :
    readIpv4Addr (address.toText ++ rest) = some (address, rest) := by
  unfold readIpv4Addr Ipv4Addr.toText
  simp only [List.map_cons, List.map_nil, joinWith, List.append_assoc, List.cons_append,
    readSeparator_first, readSeparator_later '.' (show 0 < 1 by decide),
    readSeparator_later '.' (show 0 < 2 by decide), readSeparator_later '.' (show 0 < 3 by decide),
    readOctet _ (endsNumber_dot _), readOctet _ ends, Option.bind_eq_bind, Option.bind_some,
    UInt8.ofNat_toNat]
  rfl

/-! ## What a reader takes -/

/-- What lies before the rest is made of letters of one kind. -/
def Taken (Kind : Char → Prop) (text rest : List Char) : Prop :=
  ∃ taken, text = taken ++ rest ∧ ∀ letter ∈ taken, Kind letter

/-- The reader takes letters of one kind only. -/
def Takes {α : Type} (Kind : Char → Prop) (reader : Reader α) : Prop :=
  ∀ text value rest, reader text = some (value, rest) → Taken Kind text rest

/-- Scanning takes digits only. The induction is on the text, with any value and count so far. -/
theorem scanDigits_takes (radix maxDigits value count : Nat) (text : List Char)
    {result : Nat × Nat × List Char}
    (scanned : scanDigits radix maxDigits value count text = some result) :
    ∃ taken, text = taken ++ result.2.2 ∧
      ∀ letter ∈ taken, (toDigit radix letter).isSome := by
  induction text generalizing value count with
  | nil =>
    obtain rfl := Option.some.inj scanned
    exact ⟨[], rfl, nofun⟩
  | cons letter rest inductionHypothesis =>
    simp only [scanDigits] at scanned
    cases found : toDigit radix letter with
    | none =>
      rw [found] at scanned
      obtain rfl := Option.some.inj scanned
      exact ⟨[], rfl, nofun⟩
    | some digit =>
      simp only [found] at scanned
      split at scanned
      · cases scanned
      · obtain ⟨taken, split, all⟩ := inductionHypothesis _ _ scanned
        refine ⟨letter :: taken, by rw [split]; rfl, fun other mem => ?_⟩
        rcases List.mem_cons.mp mem with rfl | mem
        · rw [found]
          rfl
        · exact all other mem

/-- So does reading a number, which is a scan and two checks: what was taken was taken by the
scan, and the checks only decide whether it counts. -/
theorem readNumber_takes (radix maxDigits bound : Nat) (allowZeroPrefix : Bool) :
    Takes (fun letter => (toDigit radix letter).isSome)
      (readNumber radix maxDigits bound allowZeroPrefix) := by
  intro text value rest read
  unfold readNumber at read
  cases scanned : scanDigits radix maxDigits 0 0 text with
  | none =>
    rw [scanned] at read
    cases read
  | some result =>
    obtain ⟨number, count, behind⟩ := result
    have taken := scanDigits_takes radix maxDigits 0 0 text scanned
    simp only [scanned] at read
    split at read
    · cases read
    · split at read
      · cases read
      · split at read
        · obtain ⟨-, rfl⟩ := Prod.mk.inj (Option.some.inj read)
          exact taken
        · cases read

/-- What was read is either the first element or one behind a separator. A reader of elements can
then be inverted without looking at the index again. -/
theorem readSeparator_eq_some {α : Type} {separator : Char} {index : Nat} {inner : Reader α}
    {text : List Char} {result : α × List Char}
    (read : readSeparator separator index inner text = some result) :
    index = 0 ∧ inner text = some result ∨
      ∃ behind, text = separator :: behind ∧ inner behind = some result := by
  unfold readSeparator at read
  split at read
  · split at read
    · rename_i letter behind
      split at read
      · rename_i same
        subst same
        exact .inr ⟨behind, rfl, read⟩
      · cases read
    · cases read
  · exact .inl ⟨by omega, read⟩

/-- A dotted address has a dot behind its first octet. -/
theorem readIpv4Addr_none {text : List Char} (undotted : '.' ∉ text) : readIpv4Addr text = none := by
  apply Option.eq_none_iff_forall_ne_some.mpr
  intro result read
  simp only [readIpv4Addr, Option.bind_eq_bind, Option.bind_eq_some_iff] at read
  obtain ⟨⟨a, behind⟩, first, ⟨b, later⟩, second, -⟩ := read
  obtain ⟨taken, rfl, -⟩ := readNumber_takes 10 3 256 false text a behind first
  rcases readSeparator_eq_some second with ⟨impossible, -⟩ | ⟨_, rfl, -⟩
  · cases impossible
  · exact undotted (by simp)

/-! ## IPv6 -/

/-- A group as it is printed. -/
def groupText (segment : UInt16) : List Char := Nat.toDigits 16 segment.toNat

/-- Further groups, each behind its separator. -/
def laterGroups (segments : List UInt16) : List Char :=
  segments.flatMap fun segment => ':' :: groupText segment

/-- Printed groups are the first one and the later ones behind their separators. -/
theorem groupsText_cons (segment : UInt16) (segments : List UInt16) :
    groupsText (segment :: segments) = groupText segment ++ laterGroups segments := by
  induction segments generalizing segment with
  | nil => simp [groupsText, joinWith, laterGroups, groupText]
  | cons next segments inductionHypothesis =>
    have later := inductionHypothesis next
    simp only [groupsText, List.map_cons, joinWith, laterGroups, List.flatMap_cons] at later ⊢
    rw [later]
    rfl

/-- The groups end here: the text is over or goes on with a gap. -/
def EndsGroups (rest : List Char) : Prop := rest = [] ∨ ∃ more, rest = ':' :: ':' :: more

/-- A colon ends a hexadecimal number. -/
theorem endsNumber_colon (rest : List Char) : EndsNumber 16 (':' :: rest) :=
  endsNumber_cons (by decide) rest

/-- Where the groups end the last of them ends. -/
theorem EndsGroups.endsNumber {rest : List Char} (ends : EndsGroups rest) : EndsNumber 16 rest := by
  rcases ends with rfl | ⟨more, rfl⟩
  · exact endsNumber_nil 16
  · exact endsNumber_colon _

/-- There is no number where none begins. -/
theorem readNumber_none {radix : Nat} (maxDigits bound : Nat) (allowZeroPrefix : Bool)
    {text : List Char} (ends : EndsNumber radix text) :
    readNumber radix maxDigits bound allowZeroPrefix text = none := by
  have scanned := scanDigits_digits radix maxDigits 0 0 [] text nofun ends (Nat.zero_le _)
  simp only [List.nil_append] at scanned
  simp [readNumber, scanned]

/-- No further group is read where the groups end. -/
theorem EndsGroups.no_group {rest : List Char} (ends : EndsGroups rest) (index maxDigits bound : Nat) :
    readSeparator ':' index (readNumber 16 maxDigits bound true) rest = none := by
  rcases Nat.eq_zero_or_pos index with rfl | later
  · exact readNumber_none _ _ _ ends.endsNumber
  · rcases ends with rfl | ⟨more, rfl⟩
    · simp [readSeparator, later]
    · rw [readSeparator_later ':' later]
      exact readNumber_none _ _ _ (endsNumber_colon more)

/-- Without a dot there is no IPv4 address to embed. -/
theorem readSeparator_none {separator : Char} (index : Nat) {text : List Char}
    (undotted : '.' ∉ text) : readSeparator separator index readIpv4Addr text = none := by
  apply Option.eq_none_iff_forall_ne_some.mpr
  intro result read
  rcases readSeparator_eq_some read with ⟨-, inner⟩ | ⟨behind, rfl, inner⟩
  · rw [readIpv4Addr_none undotted] at inner
    cases inner
  · rw [readIpv4Addr_none fun dot => undotted (List.mem_cons_of_mem _ dot)] at inner
    cases inner

/-- No dotted address ends the groups where no dots follow. -/
theorem no_embedded (limit index : Nat) {text : List Char} (undotted : '.' ∉ text) :
    (if index + 1 < limit then readSeparator ':' index readIpv4Addr text else none) = none := by
  split
  · exact readSeparator_none _ undotted
  · rfl

/-- One turn of the loop where a group follows. -/
theorem readGroupsFrom_group (limit rounds : Nat) (groups : List UInt16) {segment : UInt16}
    {text rest : List Char} (undotted : '.' ∉ text)
    (read : readSeparator ':' groups.length (readNumber 16 4 65536 true) text =
      some (segment.toNat, rest)) :
    readGroupsFrom limit (rounds + 1) groups text =
      readGroupsFrom limit rounds (groups ++ [segment]) rest := by
  simp only [readGroupsFrom, no_embedded limit groups.length undotted, read, UInt16.ofNat_toNat]

/-- The loop stops where none follows. -/
theorem readGroupsFrom_stop (limit rounds : Nat) (groups : List UInt16) {text : List Char}
    (undotted : '.' ∉ text)
    (ended : readSeparator ':' groups.length (readNumber 16 4 65536 true) text = none) :
    readGroupsFrom limit (rounds + 1) groups text = (groups, false, text) := by
  simp only [readGroupsFrom, no_embedded limit groups.length undotted, ended]

/-- A printed group is read back: it has at most four digits and may begin with any of them. -/
theorem readGroup (segment : UInt16) {rest : List Char} (ends : EndsNumber 16 rest) :
    readNumber 16 4 65536 true (groupText segment ++ rest) = some (segment.toNat, rest) := by
  have below := segment.toNat_lt
  exact readNumber_toDigits (by decide) (by decide) true below (by omega) (by decide) ends

/-- Hexadecimal digits contain no dot. -/
theorem dot_not_mem_groupText (segment : UInt16) : '.' ∉ groupText segment := by
  intro dot
  have digit := (toDigits_read (show 1 < 16 by decide) (by decide) segment.toNat).1 '.' dot
  revert digit
  decide

/-- Nor do groups behind their colons. -/
theorem dot_not_mem_laterGroups (segments : List UInt16) : '.' ∉ laterGroups segments := by
  intro dot
  obtain ⟨segment, -, mem⟩ := List.mem_flatMap.mp dot
  rcases List.mem_cons.mp mem with colon | mem
  · exact absurd colon (by decide)
  · exact dot_not_mem_groupText segment mem

/-- Behind the first group, the loop takes the printed groups up to their end. It stops there
because what follows is neither a colon with a group nor an embedded IPv4 address. -/
theorem readGroupsFrom_later (limit rounds : Nat) (groups segments : List UInt16)
    (rest : List Char) (begun : 0 < groups.length) (few : segments.length ≤ rounds)
    (ends : EndsGroups rest) (undotted : '.' ∉ rest) :
    readGroupsFrom limit rounds groups (laterGroups segments ++ rest) =
      (groups ++ segments, false, rest) := by
  induction segments generalizing rounds groups with
  | nil =>
    simp only [laterGroups, List.flatMap_nil, List.nil_append, List.append_nil]
    cases rounds with
    | zero => rfl
    | succ rounds => exact readGroupsFrom_stop _ _ _ undotted (ends.no_group _ _ _)
  | cons segment segments inductionHypothesis =>
    cases rounds with
    | zero => simp at few
    | succ rounds =>
      have behind : EndsNumber 16 (laterGroups segments ++ rest) := by
        cases segments with
        | nil => exact ends.endsNumber
        | cons next segments => exact endsNumber_colon _
      have whole : '.' ∉ laterGroups (segment :: segments) ++ rest := by
        rw [List.mem_append]
        exact fun dot => dot.elim (dot_not_mem_laterGroups _) undotted
      have read : readSeparator ':' groups.length (readNumber 16 4 65536 true)
          (laterGroups (segment :: segments) ++ rest) =
            some (segment.toNat, laterGroups segments ++ rest) := by
        simp only [laterGroups, List.flatMap_cons, List.cons_append, List.append_assoc,
          readSeparator_later ':' begun] at behind ⊢
        exact readGroup segment behind
      have later := inductionHypothesis rounds (groups ++ [segment]) (by simp)
        (by simpa using few)
      rw [readGroupsFrom_group _ _ _ whole read, later, List.append_assoc, List.singleton_append]

/-- Printed groups are read back, up to a gap or the end of the text. The first group has no colon
in front of it; the lemma about the later ones does the rest. -/
theorem readGroups_groupsText (limit : Nat) (segments : List UInt16) (rest : List Char)
    (few : segments.length ≤ limit) (ends : EndsGroups rest) (undotted : '.' ∉ rest) :
    readGroups limit (groupsText segments ++ rest) = (segments, false, rest) := by
  unfold readGroups
  cases limit with
  | zero =>
    obtain rfl := List.eq_nil_of_length_eq_zero (Nat.le_zero.mp few)
    rfl
  | succ rounds =>
    cases segments with
    | nil =>
      simp only [groupsText, List.map_nil, joinWith, List.nil_append]
      exact readGroupsFrom_stop _ _ _ undotted (ends.no_group _ _ _)
    | cons segment segments =>
      have behind : EndsNumber 16 (laterGroups segments ++ rest) := by
        cases segments with
        | nil => exact ends.endsNumber
        | cons next segments => exact endsNumber_colon _
      have whole : '.' ∉ groupText segment ++ (laterGroups segments ++ rest) := by
        simp only [List.mem_append]
        exact fun dot => dot.elim (dot_not_mem_groupText segment)
          fun dot => dot.elim (dot_not_mem_laterGroups _) undotted
      rw [groupsText_cons, List.append_assoc,
        readGroupsFrom_group _ _ [] whole (readGroup segment behind)]
      exact readGroupsFrom_later _ rounds [segment] segments rest (by simp) (by simpa using few)
        ends undotted

/-! ## The gap -/

/-- The groups of the span are zero. -/
def Span.Zero (span : Span) (segments : List UInt16) : Prop :=
  span.start + span.length ≤ segments.length ∧
    (segments.drop span.start).take span.length = List.replicate span.length 0

/-- An empty span is a span of zeros. -/
theorem Span.zero_empty (segments : List UInt16) : Span.Zero ⟨0, 0⟩ segments :=
  ⟨Nat.zero_le _, rfl⟩

/-- More groups behind a span change nothing about it. -/
theorem Span.Zero.append {span : Span} {segments : List UInt16} (zero : span.Zero segments)
    (more : List UInt16) : span.Zero (segments ++ more) := by
  obtain ⟨inside, zeroes⟩ := zero
  refine ⟨by rw [List.length_append]; omega, ?_⟩
  rw [List.drop_append_of_le_length (by omega), List.take_append_of_le_length
    (by rw [List.length_drop]; omega)]
  exact zeroes

/-- A span that reaches the end grows by a zero group, which is how the printer's scan finds the
longest gap. -/
theorem Span.Zero.grow {start length : Nat} {segments : List UInt16}
    (zero : Span.Zero ⟨start, length⟩ segments) (reaches : start + length = segments.length) :
    Span.Zero ⟨start, length + 1⟩ (segments ++ [0]) := by
  obtain ⟨-, zeroes⟩ := zero
  dsimp only at zeroes
  have whole : segments.drop start = List.replicate length 0 := by
    rw [← zeroes, List.take_of_length_le]
    rw [List.length_drop]
    omega
  constructor
  · dsimp only
    rw [List.length_append, List.length_singleton]
    omega
  · dsimp only
    rw [List.drop_append_of_le_length (by omega), whole, ← List.replicate_succ',
      List.take_of_length_le (by rw [List.length_replicate])]

/-- The loop returns a span of zero groups: the current one ends where the loop stands, and the
longest one lies before it. -/
theorem longestZeroes_zero (before after : List UInt16) (current longest : Span)
    (reaches : current.length = 0 ∨ current.start + current.length = before.length)
    (currentZero : current.Zero before) (longestZero : longest.Zero before) :
    (longestZeroes before.length current longest after).Zero (before ++ after) := by
  induction after generalizing before current longest with
  | nil => simpa [longestZeroes] using longestZero
  | cons segment after inductionHypothesis =>
    have counted : before.length + 1 = (before ++ [segment]).length := by simp
    have whole : before ++ segment :: after = before ++ [segment] ++ after := by simp
    rw [whole, longestZeroes, counted]
    by_cases zero : segment = 0
    · subst zero
      rw [if_pos rfl]
      obtain ⟨start, begins⟩ :
          ∃ start, start = if current.length = 0 then before.length else current.start := ⟨_, rfl⟩
      rw [← begins]
      have ends : start + current.length = before.length := by
        by_cases empty : current.length = 0
        · rw [begins, if_pos empty, empty, Nat.add_zero]
        · rw [begins, if_neg empty]
          exact reaches.resolve_left empty
      have grown : Span.Zero ⟨start, current.length + 1⟩ (before ++ [0]) := by
        by_cases empty : current.length = 0
        · have fresh : Span.Zero ⟨start, current.length⟩ before := by
            rw [empty]
            exact ⟨by dsimp only; omega, rfl⟩
          exact fresh.grow ends
        · have same : current = ⟨start, current.length⟩ := by rw [begins, if_neg empty]
          rw [same] at currentZero
          exact currentZero.grow ends
      apply inductionHypothesis (before ++ [0])
      · right
        rw [List.length_append, List.length_singleton]
        dsimp only
        omega
      · exact grown
      · by_cases longer : longest.length < current.length + 1
        · rw [if_pos longer]
          exact grown
        · rw [if_neg longer]
          exact longestZero.append [0]
    · rw [if_neg zero]
      exact inductionHypothesis (before ++ [segment]) _ _ (.inl rfl) (Span.zero_empty _)
        (longestZero.append [segment])

/-- The groups around the span that is left out, with as many zeroes between them. -/
theorem gap_filled (segments : List UInt16) :
    let zeroes := longestZeroes 0 ⟨0, 0⟩ ⟨0, 0⟩ segments
    zeroes.start + zeroes.length ≤ segments.length ∧
      segments = segments.take zeroes.start ++ List.replicate zeroes.length 0 ++
        segments.drop (zeroes.start + zeroes.length) := by
  intro zeroes
  obtain ⟨inside, zero⟩ : zeroes.Zero segments :=
    longestZeroes_zero [] segments ⟨0, 0⟩ ⟨0, 0⟩ (.inl rfl) (Span.zero_empty _) (Span.zero_empty _)
  refine ⟨inside, ?_⟩
  rw [← zero, List.append_assoc, ← List.drop_drop, List.take_append_drop, List.take_append_drop]

/-! ## Round trip -/

/-- An address is the one of its own groups. -/
theorem Ipv6Addr.ofGroups_segments (address : Ipv6Addr) :
    Ipv6Addr.ofGroups address.segments = some address := by
  simp only [ofGroups, address.counted, ↓reduceDIte]

/-- So no printed group is taken for an embedded IPv4 address. -/
theorem dot_not_mem_groupsText (segments : List UInt16) : '.' ∉ groupsText segments := by
  cases segments with
  | nil => exact List.not_mem_nil
  | cons segment segments =>
    rw [groupsText_cons, List.mem_append]
    exact fun dot => dot.elim (dot_not_mem_groupText segment) (dot_not_mem_laterGroups _)

/-- Groups without a gap are read to the end. -/
theorem readIpv6Addr_groupsText (address : Ipv6Addr) :
    readIpv6Addr (groupsText address.segments) = some (address, []) := by
  have read := readGroups_groupsText 8 address.segments [] (Nat.le_of_eq address.counted)
    (.inl rfl) List.not_mem_nil
  rw [List.append_nil] at read
  unfold readIpv6Addr
  simp only [read, if_pos address.counted, Ipv6Addr.ofGroups_segments, Option.map_some]

/-- A gap between groups is filled with the zeroes it stands for: the groups in front of it and
those behind it are read back, and the rest of the eight are zero. -/
theorem readIpv6Addr_gap (address : Ipv6Addr) (head tail : List UInt16) (gap : Nat)
    (wide : 0 < gap) (whole : address.segments = head ++ List.replicate gap 0 ++ tail) :
    readIpv6Addr (groupsText head ++ "::".toList ++ groupsText tail) = some (address, []) := by
  have counted := address.counted
  simp only [whole, List.length_append, List.length_replicate] at counted
  have behind : '.' ∉ "::".toList ++ groupsText tail := by
    rw [List.mem_append]
    exact fun dot => dot.elim (by decide) (dot_not_mem_groupsText tail)
  have front := readGroups_groupsText 8 head ("::".toList ++ groupsText tail) (by omega)
    (.inr ⟨groupsText tail, rfl⟩) behind
  have back := readGroups_groupsText (8 - (head.length + 1)) tail [] (by omega) (.inl rfl)
    List.not_mem_nil
  rw [List.append_nil] at back
  have short : head.length ≠ 8 := by omega
  have filled : 8 - head.length - tail.length = gap := by omega
  have all : Ipv6Addr.ofGroups (head ++ List.replicate gap 0 ++ tail) = some address := by
    rw [← whole]
    exact address.ofGroups_segments
  unfold readIpv6Addr
  rw [List.append_assoc, front]
  simp only [if_neg short, Bool.false_eq_true, if_false]
  have colons : "::".toList ++ groupsText tail = ':' :: ':' :: groupsText tail := rfl
  simp only [colons, back, filled, all, Option.map_some]

/-- An address that is not a mapped one is printed in groups and read back. -/
theorem readIpv6Addr_toText (address : Ipv6Addr) (unmapped : address.toIpv4Mapped = none) :
    readIpv6Addr address.toText = some (address, []) ∧ '.' ∉ address.toText := by
  obtain ⟨-, filled⟩ := gap_filled address.segments
  unfold Ipv6Addr.toText
  simp only [unmapped]
  split
  · rename_i several
    constructor
    · exact readIpv6Addr_gap address _ _ _ (by omega) filled
    · simp only [List.mem_append]
      rintro ((dot | dot) | dot)
      · exact dot_not_mem_groupsText _ dot
      · exact absurd dot (by decide)
      · exact dot_not_mem_groupsText _ dot
  · exact ⟨readIpv6Addr_groupsText address, dot_not_mem_groupsText _⟩

/-! ## Mapped addresses -/

/-- The bytes of a group are those it was made from: the higher one is shifted down, and the lower
one is what is left. -/
theorem groupOf_bytes (high low : UInt8) :
    (groupOf high low >>> 8).toUInt8 = high ∧ (groupOf high low).toUInt8 = low := by
  have highBelow := high.toNat_lt
  have lowBelow := low.toNat_lt
  have value : (groupOf high low).toNat = high.toNat * 256 + low.toNat := by
    rw [groupOf, UInt16.toNat_ofNat_of_lt']
    simp only [UInt16.size]
    omega
  constructor
  · apply UInt8.toNat_inj.mp
    rw [UInt16.toNat_toUInt8, UInt16.toNat_shiftRight, value, Nat.shiftRight_eq_div_pow]
    simp only [UInt16.reduceToNat, Nat.reduceMod, Nat.reducePow]
    omega
  · apply UInt8.toNat_inj.mp
    rw [UInt16.toNat_toUInt8, value]
    omega

/-- A group is made from its own bytes. -/
theorem bytes_groupOf (group : UInt16) : groupOf (group >>> 8).toUInt8 group.toUInt8 = group := by
  have below := group.toNat_lt
  apply UInt16.toNat_inj.mp
  rw [groupOf, UInt16.toNat_toUInt8, UInt16.toNat_toUInt8, UInt16.toNat_shiftRight,
    Nat.shiftRight_eq_div_pow, UInt16.toNat_ofNat_of_lt']
  · simp only [UInt16.reduceToNat, Nat.reduceMod, Nat.reducePow]
    omega
  · simp only [UInt16.reduceToNat, Nat.reduceMod, Nat.reducePow, UInt16.size]
    omega

/-- Mapping an IPv4 address to IPv6 loses nothing. -/
theorem Ipv4Addr.toIpv4Mapped_toIpv6Mapped (address : Ipv4Addr) :
    address.toIpv6Mapped.toIpv4Mapped = some address := by
  obtain ⟨a, b, c, d⟩ := address
  show some (Ipv4Addr.mk _ _ _ _) = _
  rw [(groupOf_bytes a b).1, (groupOf_bytes a b).2, (groupOf_bytes c d).1, (groupOf_bytes c d).2]

/-- An IPv6 address that maps an IPv4 address is the one it is mapped to. -/
theorem Ipv6Addr.eq_toIpv6Mapped {address : Ipv6Addr} {ipv4 : Ipv4Addr}
    (mapped : address.toIpv4Mapped = some ipv4) : address = ipv4.toIpv6Mapped := by
  obtain ⟨segments, counted⟩ := address
  unfold toIpv4Mapped at mapped
  split at mapped
  · rename_i ab cd same
    obtain rfl : segments = _ := same
    obtain rfl := Option.some.inj mapped
    simp only [Ipv4Addr.toIpv6Mapped, bytes_groupOf]
  · cases mapped

/-- A dotted address begins with a digit. -/
theorem EndsNumber.no_ipv4 {text : List Char} (ends : EndsNumber 10 text) :
    readIpv4Addr text = none := by
  simp only [readIpv4Addr, readSeparator_first, readNumber_none 3 256 false ends,
    Option.bind_eq_bind, Option.bind_none]

/-- An address that begins with the gap has no groups before it. -/
theorem readGroups_gap (limit : Nat) (rest : List Char) :
    readGroups limit (':' :: ':' :: rest) = ([], false, ':' :: ':' :: rest) := by
  cases limit with
  | zero => rfl
  | succ rounds =>
    have noAddress : readIpv4Addr (':' :: ':' :: rest) = none :=
      EndsNumber.no_ipv4 (endsNumber_cons (by decide) _)
    have noGroup := readNumber_none 4 65536 true (endsNumber_colon (':' :: rest))
    simp only [readGroups, readGroupsFrom, List.length_nil, readSeparator_first, noAddress,
      ite_self, noGroup]

/-- The group of ones and the dotted address behind it. The loop prefers an embedded address where
two groups are still free, so it takes the dotted text as one. -/
theorem readGroups_mapped {text : List Char} {address : Ipv4Addr}
    (read : readIpv4Addr text = some (address, [])) :
    readGroups 7 (groupText 0xffff ++ ':' :: text) =
      ([0xffff, groupOf address.a address.b, groupOf address.c address.d], true, []) := by
  have noAddress : readIpv4Addr (groupText 0xffff ++ ':' :: text) = none :=
    EndsNumber.no_ipv4 (endsNumber_cons (show toDigit 10 'f' = none by decide) _)
  have group := readGroup 0xffff (endsNumber_colon text)
  have second : readGroupsFrom 7 6 [0xffff] (':' :: text) =
      ([0xffff, groupOf address.a address.b, groupOf address.c address.d], true, []) := by
    simp only [readGroupsFrom, List.length_singleton, readSeparator_later ':' Nat.one_pos, read]
    rfl
  rw [readGroups, readGroupsFrom]
  simp only [List.length_nil, readSeparator_first, noAddress, ite_self, group, List.nil_append,
    UInt16.ofNat_toNat]
  exact second

/-- The mapped form of a dotted text is read as the mapped address: there is no group in front of
the gap, and the last three groups behind it are the mark and the address. -/
theorem readIpAddr_mapped {text : List Char} {address : Ipv4Addr}
    (read : readIpv4Addr text = some (address, [])) :
    readIpAddr ("::ffff:".toList ++ text) = some (.v6 address.toIpv6Mapped, []) := by
  have spelled : "::ffff:".toList ++ text = ':' :: ':' :: (groupText 0xffff ++ ':' :: text) := rfl
  have noAddress : readIpv4Addr (':' :: ':' :: (groupText 0xffff ++ ':' :: text)) = none :=
    EndsNumber.no_ipv4 (endsNumber_cons (by decide) _)
  have none_before := readGroups_gap 8 (groupText 0xffff ++ ':' :: text)
  have behind := readGroups_mapped read
  rw [spelled]
  simp only [readIpAddr, noAddress, readIpv6Addr, none_before, List.length_nil, Nat.zero_add,
    Nat.reduceSub, behind, Bool.false_eq_true, if_false]
  rfl

/-- An address is of the IPv4 family only where the first reader accepts it. -/
theorem readIpAddr_eq_v4 {text rest : List Char} {address : Ipv4Addr}
    (read : readIpAddr text = some (.v4 address, rest)) :
    readIpv4Addr text = some (address, rest) := by
  unfold readIpAddr at read
  split at read
  · rename_i found behind dotted
    obtain ⟨same, rfl⟩ := Prod.mk.inj (Option.some.inj read)
    rw [dotted, IpAddr.v4.inj same]
  · obtain ⟨_, -, same⟩ := Option.map_eq_some_iff.mp read
    cases same

/-- A text is parsed to what is read from it with nothing left. -/
theorem parseIpAddr_eq_some {text : List Char} {address : IpAddr} :
    parseIpAddr text = some address ↔ readIpAddr text = some (address, []) := by
  unfold parseIpAddr
  cases readIpAddr text with
  | none => simp
  | some found =>
    obtain ⟨first, rest⟩ := found
    cases rest with
    | nil => simp
    | cons letter rest => simp

/-- The mapped form of an IPv4 text is parsed as the mapped address. -/
theorem parseIpAddr_mapped {text : List Char} {address : Ipv4Addr}
    (parsed : parseIpAddr text = some (.v4 address)) :
    parseIpAddr ("::ffff:".toList ++ text) = some (.v6 address.toIpv6Mapped) := by
  rw [parseIpAddr_eq_some] at parsed ⊢
  exact readIpAddr_mapped (readIpAddr_eq_v4 parsed)

/-! ## Addresses of both families -/

/-- Both families are read back: a text with colons is no IPv4 address, so the second reader gets
to it. -/
theorem readIpAddr_toText (address : IpAddr) : readIpAddr address.toText = some (address, []) := by
  cases address with
  | v4 address =>
    have read := readIpv4Addr_toText address (endsNumber_nil 10)
    rw [List.append_nil] at read
    simp only [readIpAddr, IpAddr.toText, read]
  | v6 address =>
    cases mapped : address.toIpv4Mapped with
    | none =>
      obtain ⟨read, undotted⟩ := readIpv6Addr_toText address mapped
      simp only [readIpAddr, IpAddr.toText, readIpv4Addr_none undotted, read, Option.map_some]
    | some ipv4 =>
      have read := readIpv4Addr_toText ipv4 (endsNumber_nil 10)
      rw [List.append_nil] at read
      rw [IpAddr.toText, Ipv6Addr.toText, mapped, Ipv6Addr.eq_toIpv6Mapped mapped]
      exact readIpAddr_mapped read

/-- A printed address is parsed back. -/
theorem parseIpAddr_toText (address : IpAddr) : parseIpAddr address.toText = some address := by
  rw [parseIpAddr_eq_some, readIpAddr_toText]

end Encoding
