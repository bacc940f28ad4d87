import McServerNap.Encoding.AddressText
import McServerNap.Encoding.Utf8

/-!
# JSON values and their texts

The values that programs print as JSON, with integers for numbers, printed without blanks.
A text escapes quotation marks, backslashes and control characters and keeps every other
character. The reader takes a printed value off the front of a text and leaves the rest; it
reads every escape of one code unit, also those that are never printed.
-/

namespace Encoding

/-- The values that are printed and read here: there is no null, and numbers are integers. Members
keep their order. -/
inductive Json where
  | integer (value : Int)
  | boolean (value : Bool)
  | text (value : List Char)
  | array (elements : List Json)
  | object (members : List (List Char × Json))
  deriving Repr

/-! ## Texts -/

/-- The letter behind the backslash, for what has a short escape. -/
def shortEscape (letter : Char) : Option Char :=
  if letter = '"' then some '"'
  else if letter = '\\' then some '\\'
  else if letter = '\x08' then some 'b'
  else if letter = '\t' then some 't'
  else if letter = '\n' then some 'n'
  else if letter = '\x0c' then some 'f'
  else if letter = '\r' then some 'r'
  else none

/-- What a letter is printed as within a text. -/
def escape (letter : Char) : List Char :=
  match shortEscape letter with
  | some code => ['\\', code]
  | none =>
    if letter.toNat < 32 then
      ['\\', 'u', '0', '0', (letter.toNat / 16).digitChar, (letter.toNat % 16).digitChar]
    else [letter]

/-- A text with its quotation marks. -/
def quote (value : List Char) : List Char := '"' :: (value.flatMap escape ++ ['"'])

/-- The letter of a short escape. -/
def unescape (code : Char) : Option Char :=
  if code = '"' then some '"'
  else if code = '\\' then some '\\'
  else if code = '/' then some '/'
  else if code = 'b' then some '\x08'
  else if code = 't' then some '\t'
  else if code = 'n' then some '\n'
  else if code = 'f' then some '\x0c'
  else if code = 'r' then some '\r'
  else none

/-- The letter with these four hexadecimal digits. Surrogates are no letters. -/
def letterOf (first second third fourth : Char) : Option Char := do
  let first ← toDigit 16 first
  let second ← toDigit 16 second
  let third ← toDigit 16 third
  let fourth ← toDigit 16 fourth
  let value := ((first * 16 + second) * 16 + third) * 16 + fourth
  if value.isValidChar then some (Char.ofNat value) else none

/-- The letters up to the closing quotation mark. -/
def readLetters : Reader (List Char)
  | [] => none
  | letter :: rest =>
    if letter = '"' then some ([], rest)
    else if letter = '\\' then
      match rest with
      | 'u' :: first :: second :: third :: fourth :: rest => do
        let letter ← letterOf first second third fourth
        let (letters, rest) ← readLetters rest
        return (letter :: letters, rest)
      | code :: rest => do
        let letter ← unescape code
        let (letters, rest) ← readLetters rest
        return (letter :: letters, rest)
      | [] => none
    else if letter.toNat < 32 then none
    else do
      let (letters, rest) ← readLetters rest
      return (letter :: letters, rest)

/-- A text from its opening quotation mark on. -/
def readQuoted : Reader (List Char)
  | '"' :: rest => readLetters rest
  | _ => none

/-! ## Values -/

/-- An integer in decimal, with a sign if it is negative. -/
def printInteger : Int → List Char
  | .ofNat value => Nat.toDigits 10 value
  | .negSucc value => '-' :: Nat.toDigits 10 (value + 1)

mutual

/-- A value without any blanks. -/
def Json.print : Json → List Char
  | .integer value => printInteger value
  | .boolean true => "true".toList
  | .boolean false => "false".toList
  | .text value => quote value
  | .array elements => '[' :: (joinWith ',' (printElements elements) ++ [']'])
  | .object members => '{' :: (joinWith ',' (printMembers members) ++ ['}'])

/-- The elements of an array, each by itself. -/
def printElements : List Json → List (List Char)
  | [] => []
  | element :: elements => element.print :: printElements elements

/-- The members of an object, each as its name and its value. -/
def printMembers : List (List Char × Json) → List (List Char)
  | [] => []
  | (name, value) :: members => (quote name ++ ':' :: value.print) :: printMembers members

end

/-- A number of any size, without leading zeros. -/
def readDigits : Reader Nat := fun text =>
  readNumber 10 text.length (10 ^ text.length) false text

/-- An integer with an optional sign. -/
def readInteger : Reader Int
  | '-' :: rest => (readDigits rest).map fun (value, rest) => (-value, rest)
  | text => (readDigits text).map fun (value, rest) => (value, rest)

/-- The elements up to the closing bracket, each but the first behind a comma. -/
def readElements {α : Type} (close : Char) (inner : Reader α) : (rounds : Nat) → Reader (List α)
  | 0 => fun _ => none
  | rounds + 1 => fun text => do
    let (element, text) ← inner text
    match text with
    | ',' :: rest => do
      let (elements, rest) ← readElements close inner rounds rest
      return (element :: elements, rest)
    | letter :: rest => if letter = close then some ([element], rest) else none
    | [] => none

/-- A list up to its closing bracket. -/
def readList {α : Type} (close : Char) (inner : Reader α) : Reader (List α) := fun text =>
  if text.head? = some close then some ([], text.tail)
  else readElements close inner text.length text

/-- A name, a colon and a value. -/
def readMember {α : Type} (inner : Reader α) : Reader (List Char × α) := fun text => do
  let (name, text) ← readQuoted text
  match text with
  | ':' :: text => do
    let (value, rest) ← inner text
    return ((name, value), rest)
  | _ => none

/-- A value of at most the given nesting. -/
def readJson : (depth : Nat) → Reader Json
  | 0 => fun _ => none
  | depth + 1 => fun text =>
    match text with
    | '"' :: rest => (readLetters rest).map fun (value, rest) => (.text value, rest)
    | '[' :: rest =>
      (readList ']' (readJson depth) rest).map fun (elements, rest) => (.array elements, rest)
    | '{' :: rest =>
      (readList '}' (readMember (readJson depth)) rest).map fun (members, rest) =>
        (.object members, rest)
    | 't' :: 'r' :: 'u' :: 'e' :: rest => some (.boolean true, rest)
    | 'f' :: 'a' :: 'l' :: 's' :: 'e' :: rest => some (.boolean false, rest)
    | text => (readInteger text).map fun (value, rest) => (.integer value, rest)

/-- The value that a whole text denotes. -/
def parseJson (text : List Char) : Option Json :=
  match readJson text.length text with
  | some (value, []) => some value
  | _ => none

/-- An object with the given names. -/
def Json.ofFields (fields : List (String × Json)) : Json :=
  .object (fields.map fun field => (field.1.toList, field.2))

/-- What a path of names leads to. -/
def Json.find : List String → Json → Option Json
  | [], value => some value
  | name :: path, .object members =>
    match members.lookup name.toList with
    | some value => value.find path
    | none => none
  | _, _ => none

/-- The empty path leads to the value itself. -/
@[simp] theorem Json.find_nil (value : Json) : value.find [] = some value := by
  cases value <;> rfl

/-- A path into an object looks up its first name and goes on from there. Names of fields are
given as strings, which are different exactly where their letters are. -/
@[simp] theorem Json.find_ofFields (fields : List (String × Json)) (name : String)
    (path : List String) :
    (Json.ofFields fields).find (name :: path) =
      (fields.lookup name).bind fun value => value.find path := by
  have found : (fields.map fun field => (field.1.toList, field.2)).lookup name.toList =
      fields.lookup name := by
    induction fields with
    | nil => rfl
    | cons field fields inductionHypothesis =>
      obtain ⟨first, value⟩ := field
      by_cases same : name = first
      · simp [same]
      · have others : (name.toList == first.toList) = false := by
          simpa [String.toList_inj] using same
        have differs : (name == first) = false := by simpa using same
        simpa [List.lookup_cons, others, differs] using inductionHypothesis
  rw [Json.ofFields, Json.find, found]
  cases fields.lookup name <;> rfl

/-! ## Printed texts are read back -/

/-- A control letter is read back from the two digits it is printed with. There are 32 of them to
check. -/
theorem letterOf_control {letter : Char} (control : letter.toNat < 32) :
    letterOf '0' '0' (letter.toNat / 16).digitChar (letter.toNat % 16).digitChar = some letter := by
  have high := toDigit_digitChar (by decide) (show letter.toNat / 16 < 16 by omega)
  have low := toDigit_digitChar (by decide) (show letter.toNat % 16 < 16 by omega)
  have zero : toDigit 16 '0' = some 0 := by decide
  have value : ((0 * 16 + 0) * 16 + letter.toNat / 16) * 16 + letter.toNat % 16 = letter.toNat := by
    omega
  simp only [letterOf, zero, high, low, Option.bind_eq_bind, Option.bind_some, value,
    Char.ofNat_toNat]
  rw [if_pos (Or.inl (by omega))]

/-- A short escape is read back, and it is not taken for a longer one. -/
theorem readLetters_short {letter code : Char} (short : shortEscape letter = some code)
    (text : List Char) :
    readLetters ('\\' :: code :: text) =
      (readLetters text).map fun (letters, rest) => (letter :: letters, rest) := by
  have inverse : unescape code = some letter ∧ code ≠ 'u' := by
    unfold shortEscape at short
    split_ifs at short <;> (subst_vars; cases short; decide)
  obtain ⟨unescaped, other⟩ := inverse
  rw [readLetters]
  · simp only [Char.reduceEq, ↓reduceIte, unescaped, Option.bind_eq_bind,
      Option.bind_some]
    cases readLetters text <;> rfl
  · intro first second third fourth rest same
    exact absurd same other

/-- An escaped letter is read back: a short escape by its code, another control character by its
four hexadecimal digits, and any other letter as it stands. -/
theorem readLetters_escape (letter : Char) (text : List Char) :
    readLetters (escape letter ++ text) =
      (readLetters text).map fun (letters, rest) => (letter :: letters, rest) := by
  unfold escape
  cases short : shortEscape letter with
  | some code => exact readLetters_short short text
  | none =>
    by_cases control : letter.toNat < 32
    · simp only [if_pos control, List.cons_append, List.nil_append]
      rw [readLetters]
      simp only [Char.reduceEq, ↓reduceIte, letterOf_control control, Option.bind_eq_bind,
        Option.bind_some]
      cases readLetters text <;> rfl
    · simp only [if_neg control, List.cons_append, List.nil_append]
      have unquoted : letter ≠ '"' := by
        rintro rfl
        cases short
      have unescaped : letter ≠ '\\' := by
        rintro rfl
        cases short
      rw [readLetters.eq_def]
      simp only [if_neg unquoted, if_neg unescaped, if_neg control]
      cases readLetters text <;> rfl

/-- The letters of a printed text are read back up to its closing mark, by induction on the text
with one case for each way a letter is escaped. -/
theorem readLetters_quote (value rest : List Char) :
    readLetters (value.flatMap escape ++ '"' :: rest) = some (value, rest) := by
  induction value with
  | nil =>
    rw [List.flatMap_nil, List.nil_append, readLetters.eq_def]
    rfl
  | cons letter value inductionHypothesis =>
    rw [List.flatMap_cons, List.append_assoc, readLetters_escape, inductionHypothesis]
    rfl

/-- The reader takes what was printed off the front of every text that does not go on with a
digit. -/
def ReadsBack {α : Type} (reader : Reader α) (printed : List Char) (value : α) : Prop :=
  ∀ rest, EndsNumber 10 rest → reader (printed ++ rest) = some (value, rest)

/-- Printed digits are read back: the bounds of the reader are those of a number that fills the
text, so they refuse nothing. -/
theorem readDigits_toDigits (value : Nat) :
    ReadsBack readDigits (Nat.toDigits 10 value) value := by
  intro rest ends
  have positive := Nat.length_toDigits_pos (b := 10) (n := value)
  have few : value < 10 ^ (Nat.toDigits 10 value ++ rest).length := by
    refine (Nat.length_toDigits_le_iff (by decide) ?_).mp ?_ <;> rw [List.length_append] <;> omega
  exact readNumber_toDigits (by decide) (by decide) false few few
    (by rw [List.length_append]; omega) ends

/-- What a printed number begins with. -/
def BeginsNumber (letter : Char) : Prop := letter = '-' ∨ (toDigit 10 letter).isSome

instance (letter : Char) : Decidable (BeginsNumber letter) := inferInstanceAs (Decidable (_ ∨ _))

/-- A printed integer begins with a digit or a sign, which no other value begins with. -/
theorem printInteger_begins (value : Int) :
    ∃ letter rest, printInteger value = letter :: rest ∧ BeginsNumber letter := by
  cases value with
  | ofNat value =>
    obtain ⟨digits, -⟩ := toDigits_read (by decide) (show 10 ≤ 16 by decide) value
    obtain ⟨letter, rest, printed⟩ := List.exists_cons_of_ne_nil (Nat.toDigits_ne_nil (b := 10) (n := value))
    exact ⟨letter, rest, printed, .inr (digits letter (printed ▸ List.mem_cons_self))⟩
  | negSucc value => exact ⟨'-', _, rfl, .inl rfl⟩

/-- A printed integer is read back, whatever its sign. A number without a sign begins with a
digit, so the reader does not take it for a negative one. -/
theorem readInteger_print (value : Int) :
    ReadsBack readInteger (printInteger value) value := by
  intro rest ends
  cases value with
  | ofNat value =>
    have read := readDigits_toDigits value rest ends
    obtain ⟨digits, -⟩ := toDigits_read (by decide) (show 10 ≤ 16 by decide) value
    obtain ⟨letter, later, printed⟩ := List.exists_cons_of_ne_nil (Nat.toDigits_ne_nil (b := 10) (n := value))
    have unsigned : letter ≠ '-' := by
      rintro rfl
      exact absurd (digits '-' (printed ▸ List.mem_cons_self)) (by decide)
    simp only [printInteger]
    rw [printed, List.cons_append] at read ⊢
    rw [readInteger, read]
    · rfl
    · intro behind same
      exact unsigned (List.cons.inj same).1
  | negSucc value =>
    simp only [printInteger, List.cons_append, readInteger, readDigits_toDigits _ rest ends]
    rfl

/-- A list of elements is read back when each element is. The induction is on the elements behind
the first, since a comma stands between any two of them. -/
theorem readElements_join {α : Type} {close : Char} {inner : Reader α} {print : α → List Char}
    (other : close ≠ ',') (ends : ∀ rest, EndsNumber 10 (close :: rest)) (elements : List α)
    (first : α) (all : ∀ element ∈ first :: elements, ReadsBack inner (print element) element)
    {rounds : Nat} (enough : elements.length < rounds) (rest : List Char) :
    readElements close inner rounds
      (joinWith ',' ((first :: elements).map print) ++ close :: rest) =
        some (first :: elements, rest) := by
  induction elements generalizing first rounds with
  | nil =>
    obtain ⟨rounds, rfl⟩ := Nat.exists_eq_succ_of_ne_zero (Nat.ne_zero_of_lt enough)
    have read := all first List.mem_cons_self (close :: rest) (ends rest)
    simp [joinWith, readElements, read]
  | cons second elements inductionHypothesis =>
    obtain ⟨rounds, rfl⟩ := Nat.exists_eq_succ_of_ne_zero (Nat.ne_zero_of_lt enough)
    obtain ⟨readFirst, others⟩ := List.forall_mem_cons.mp all
    have later := inductionHypothesis second others (Nat.lt_of_succ_lt_succ enough)
    have comma (behind : List Char) : EndsNumber 10 (',' :: behind) :=
      endsNumber_cons (by decide) behind
    simp only [List.map_cons, joinWith, List.append_assoc, List.cons_append] at later ⊢
    simp only [readElements, readFirst _ (comma _), Option.bind_eq_bind, Option.bind_some, later]
    rfl

/-- Joined parts are at least as long as they are many, and as long as each of them. Both bounds
are what limits the rounds and the depth of the readers. -/
theorem length_joinWith (separator : Char) (parts : List (List Char)) :
    parts.length ≤ (joinWith separator parts).length + 1 ∧
      ∀ part ∈ parts, part.length ≤ (joinWith separator parts).length := by
  induction parts with
  | nil => simp
  | cons part parts inductionHypothesis =>
    cases parts with
    | nil => simp [joinWith]
    | cons second parts =>
      obtain ⟨counted, contained⟩ := inductionHypothesis
      simp only [joinWith, List.length_append, List.length_cons] at counted ⊢
      refine ⟨by omega, List.forall_mem_cons.mpr ⟨by omega, fun later mem => ?_⟩⟩
      have within := contained later mem
      omega

/-- A list with its closing bracket is read back. No element begins with the bracket, so it is
not mistaken for an empty one. -/
theorem readList_join {α : Type} {close : Char} {inner : Reader α} {print : α → List Char}
    (other : close ≠ ',') (ends : ∀ rest, EndsNumber 10 (close :: rest)) (elements : List α)
    (opens : ∀ element ∈ elements, (print element).head?.any (· ≠ close))
    (all : ∀ element ∈ elements, ReadsBack inner (print element) element) (rest : List Char) :
    readList close inner (joinWith ',' (elements.map print) ++ close :: rest) =
      some (elements, rest) := by
  cases elements with
  | nil => simp [readList, joinWith]
  | cons first elements =>
    obtain ⟨counted, -⟩ := length_joinWith ',' ((first :: elements).map print)
    obtain ⟨letter, head, differs⟩ : ∃ letter,
        (joinWith ',' ((first :: elements).map print) ++ close :: rest).head? = some letter ∧
          letter ≠ close := by
      have opening := opens first List.mem_cons_self
      cases printed : print first with
      | nil => simp [printed] at opening
      | cons letter behind =>
        refine ⟨letter, ?_, by simpa [printed] using opening⟩
        cases elements <;> simp [joinWith, printed]
    rw [readList, head, if_neg (by simpa using differs)]
    refine readElements_join other ends elements first all ?_ rest
    simp only [List.length_map, List.length_cons, List.length_append] at counted ⊢
    omega

/-- A printed member is read back if its value is. -/
theorem readMember_print {α : Type} {inner : Reader α} {printed : List Char} {value : α}
    (read : ReadsBack inner printed value) (name : List Char) :
    ReadsBack (readMember inner) (quote name ++ ':' :: printed) (name, value) := by
  intro rest ends
  simp only [readMember, quote, List.cons_append, List.append_assoc, List.nil_append, readQuoted,
    readLetters_quote, Option.bind_eq_bind, Option.bind_some, read rest ends]
  rfl

/-- Printing the elements is printing each of them. -/
theorem printElements_eq (elements : List Json) :
    printElements elements = elements.map Json.print := by
  induction elements with
  | nil => rw [printElements, List.map_nil]
  | cons element elements inductionHypothesis =>
    rw [printElements, inductionHypothesis, List.map_cons]

/-- Printing the members is printing each of them behind its name. -/
theorem printMembers_eq (members : List (List Char × Json)) :
    printMembers members =
      members.map fun member => quote member.1 ++ ':' :: member.2.print := by
  induction members with
  | nil => rw [printMembers, List.map_nil]
  | cons member members inductionHypothesis =>
    rw [printMembers, inductionHypothesis, List.map_cons]

/-- No value begins with a closing bracket, so an empty array is told from the others. -/
theorem Json.print_opens (value : Json) : value.print.head?.any (· ≠ ']') := by
  cases value with
  | integer value =>
    obtain ⟨letter, rest, printed, begins⟩ := printInteger_begins value
    rw [Json.print, printed, List.head?_cons, Option.any_some, decide_eq_true_eq]
    rintro rfl
    exact absurd begins (by decide)
  | boolean value => cases value <;> rw [Json.print] <;> decide
  | text value => simp [Json.print, quote]
  | array elements => simp [Json.print]
  | object members => simp [Json.print]

/-- A number is what a text denotes that begins like one. A digit or a minus sign begins nothing
else, so the reader's other cases fall away. -/
theorem readJson_number {letter : Char} (begins : BeginsNumber letter) (depth : Nat)
    (rest : List Char) :
    readJson (depth + 1) (letter :: rest) =
      (readInteger (letter :: rest)).map fun (value, rest) => (.integer value, rest) := by
  have opening {other : Char} {behind : List Char} (same : letter :: rest = other :: behind) :
      BeginsNumber other := (List.cons.inj same).1 ▸ begins
  simp only [readJson]
  split
  case h_6 => rfl
  all_goals
    rename_i same
    exact absurd (opening same) (by decide)

/-- A closing bracket ends a number. -/
theorem endsNumber_bracket (rest : List Char) : EndsNumber 10 (']' :: rest) :=
  endsNumber_cons (by decide) rest

/-- A brace ends a number. -/
theorem endsNumber_brace (rest : List Char) : EndsNumber 10 ('}' :: rest) :=
  endsNumber_cons (by decide) rest

mutual

/-- A printed value is read back. The nesting is at most the length of the text, and every
element has a shorter text. -/
theorem readJson_print (value : Json) (depth : Nat) (deep : value.print.length ≤ depth) :
    ReadsBack (readJson depth) value.print value := by
  intro rest ends
  cases value with
  | integer value =>
    obtain ⟨letter, later, printed, begins⟩ := printInteger_begins value
    have read := readInteger_print value rest ends
    rw [Json.print] at deep ⊢
    rw [printed, List.cons_append] at read ⊢
    obtain ⟨depth, rfl⟩ := Nat.exists_eq_succ_of_ne_zero (n := depth) (by
      rw [printed, List.length_cons] at deep
      omega)
    rw [readJson_number begins, read]
    rfl
  | boolean value =>
    cases value with
    | false =>
      obtain ⟨depth, rfl⟩ := Nat.exists_eq_succ_of_ne_zero (Nat.ne_zero_of_lt deep)
      rfl
    | true =>
      obtain ⟨depth, rfl⟩ := Nat.exists_eq_succ_of_ne_zero (Nat.ne_zero_of_lt deep)
      rfl
  | text value =>
    obtain ⟨depth, rfl⟩ := Nat.exists_eq_succ_of_ne_zero (Nat.ne_zero_of_lt deep)
    simp [Json.print, quote, readJson, readLetters_quote]
  | array elements =>
    obtain ⟨depth, rfl⟩ := Nat.exists_eq_succ_of_ne_zero (Nat.ne_zero_of_lt deep)
    simp only [Json.print, printElements_eq, List.length_cons, List.length_append] at deep
    obtain ⟨-, contained⟩ := length_joinWith ',' (elements.map Json.print)
    have read := readJson_elements elements depth fun element mem => by
      have within := contained _ (List.mem_map_of_mem mem)
      omega
    simp [Json.print, printElements_eq, readJson, readList_join (by decide) endsNumber_bracket
      elements (fun element _ => element.print_opens) read]
  | object members =>
    obtain ⟨depth, rfl⟩ := Nat.exists_eq_succ_of_ne_zero (Nat.ne_zero_of_lt deep)
    simp only [Json.print, printMembers_eq, List.length_cons, List.length_append] at deep
    obtain ⟨-, contained⟩ := length_joinWith ','
      (members.map fun member => quote member.1 ++ ':' :: member.2.print)
    have read := readJson_members members depth fun member mem => by
      have within := contained _ (List.mem_map_of_mem mem)
      simp only [List.length_append, List.length_cons] at within
      omega
    simp [Json.print, printMembers_eq, readJson, readList_join (by decide) endsNumber_brace
      members (fun member _ => by simp [quote])
      fun member mem => readMember_print (read member mem) member.1]

/-- The elements of an array are read back at a depth that their own texts bound, which is the
induction hypothesis for the array. -/
theorem readJson_elements (elements : List Json) (depth : Nat)
    (deep : ∀ element ∈ elements, element.print.length ≤ depth) :
    ∀ element ∈ elements, ReadsBack (readJson depth) element.print element := by
  cases elements with
  | nil => simp
  | cons element elements =>
    obtain ⟨first, later⟩ := List.forall_mem_cons.mp deep
    exact List.forall_mem_cons.mpr
      ⟨readJson_print element depth first, readJson_elements elements depth later⟩

/-- So are the members of an object. -/
theorem readJson_members (members : List (List Char × Json)) (depth : Nat)
    (deep : ∀ member ∈ members, member.2.print.length ≤ depth) :
    ∀ member ∈ members, ReadsBack (readJson depth) member.2.print member.2 := by
  cases members with
  | nil => simp
  | cons member members =>
    obtain ⟨name, value⟩ := member
    obtain ⟨first, later⟩ := List.forall_mem_cons.mp deep
    exact List.forall_mem_cons.mpr
      ⟨readJson_print value depth first, readJson_members members depth later⟩

end

/-- A printed value is the one value that its text denotes. -/
theorem parseJson_print (value : Json) : parseJson value.print = some value := by
  have read := readJson_print value value.print.length (Nat.le_refl _) [] (endsNumber_nil 10)
  rw [List.append_nil] at read
  rw [parseJson, read]

/-! ## Sizes -/

/-- No letter takes more than six code units within a text: six are a control character's escape,
and a letter that is not escaped takes at most two. -/
theorem utf16Units_escape (letter : Char) : utf16Units (escape letter) ≤ 6 := by
  have unit (letter : Char) : unitsOf letter ≤ 2 := by
    unfold unitsOf
    split <;> omega
  have digit {value : Nat} (small : value < 16) : unitsOf value.digitChar = 1 := by
    have all : ∀ value < 16, unitsOf value.digitChar = 1 := by decide
    exact all value small
  unfold escape
  cases shortEscape letter with
  | some code =>
    have first := unit '\\'
    have second := unit code
    simp only [utf16Units_cons, utf16Units_nil]
    omega
  | none =>
    by_cases control : letter.toNat < 32
    · rw [if_pos control]
      simp only [utf16Units_cons, utf16Units_nil, digit (show letter.toNat / 16 < 16 by omega),
        digit (Nat.mod_lt _ (by decide : 0 < 16))]
      decide
    · have only := unit letter
      simp only [if_neg control, utf16Units_cons, utf16Units_nil]
      omega

/-- A quoted text takes at most six units for each letter, and the two marks. -/
theorem utf16Units_quote (value : List Char) : utf16Units (quote value) ≤ 6 * value.length + 2 := by
  have escaped : utf16Units (value.flatMap escape) ≤ 6 * value.length := by
    induction value with
    | nil => simp
    | cons letter value inductionHypothesis =>
      have bound := utf16Units_escape letter
      rw [List.flatMap_cons, utf16Units_append, List.length_cons]
      omega
  have marks : unitsOf '"' = 1 := by decide
  simp only [quote, utf16Units_cons, utf16Units_append, utf16Units_nil, marks]
  omega

end Encoding
