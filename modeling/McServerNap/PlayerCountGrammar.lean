import McServerNap.Encoding.Decimal
import McServerNap.PlayerCount

/-!
# What counts as a player count

The accepted replies are given as a grammar of their own: a fixed frame around two
unsigned 32-bit literals, and free text behind it. A literal has no blanks, and both
delimiters begin with one, so the first occurrence of a delimiter is the one of the frame
whatever the free text repeats.
-/

namespace McServerNap

open Encoding

/-! ## Literals -/

/-- The text is an unsigned 32-bit literal for the value: an optional plus sign and at
least one digit. -/
def IsLiteral (text : List Char) (value : Nat) : Prop :=
  ∃ digits, (text = digits ∨ text = '+' :: digits) ∧ digits ≠ [] ∧
    (∀ digit ∈ digits, IsDigit digit) ∧ decimal digits = value ∧ value < 2 ^ 32

/-- The value is built digit by digit, and refused once it leaves 32 bits. -/
theorem readDigits_cons (value : Nat) (letter : Char) (rest : List Char) :
    readDigits value (letter :: rest) = if IsDigit letter then
      if appendDigit value letter < 2 ^ 32 then readDigits (appendDigit value letter) rest
      else none
    else none := rfl

/-- Reading on from a value accepts digits only, and only while the number fits. The induction is
on the text, with the value read so far generalized. -/
theorem readDigits_eq_some (value : Nat) (text : List Char) (result : Nat)
    (fits : value < 2 ^ 32) :
    readDigits value text = some result ↔
      (∀ digit ∈ text, IsDigit digit) ∧ text.foldl appendDigit value = result ∧
        result < 2 ^ 32 := by
  induction text generalizing value with
  | nil =>
    simp only [readDigits, Option.some.injEq, List.not_mem_nil, IsEmpty.forall_iff,
      implies_true, true_and, List.foldl_nil]
    constructor
    · rintro rfl
      exact ⟨rfl, fits⟩
    · exact And.left
  | cons letter rest inductionHypothesis =>
    simp only [readDigits_cons, List.forall_mem_cons, List.foldl_cons]
    by_cases digit : IsDigit letter
    · rw [if_pos digit]
      by_cases small : appendDigit value letter < 2 ^ 32
      · rw [if_pos small]
        simp only [digit, true_and]
        exact inductionHypothesis _ small
      · rw [if_neg small]
        simp only [reduceCtorEq, false_iff]
        rintro ⟨-, rfl, bounded⟩
        have grown := le_foldl_appendDigit (appendDigit value letter) rest
        omega
    · rw [if_neg digit]
      simp only [reduceCtorEq, false_iff]
      exact fun accepted => digit accepted.1.1

/-- A plus sign is told from a digit. -/
theorem plus_not_digit : ¬ IsDigit '+' := by decide

/-- So is a blank. -/
theorem blank_not_digit : ¬ IsDigit ' ' := by decide

/-- A text is parsed exactly when it is a literal for the value. The cases are a text without
letters, a lone sign, a sign with digits behind it, and digits alone. -/
theorem parseU32_eq_some (text : List Char) (value : Nat) :
    parseU32 text = some value ↔ IsLiteral text value := by
  cases text with
  | nil =>
    simp only [parseU32, reduceCtorEq, false_iff]
    rintro ⟨digits, rfl | signed, nonempty, -⟩
    · exact nonempty rfl
    · cases signed
  | cons letter rest =>
    simp only [parseU32]
    by_cases sign : letter = '+'
    · subst sign
      rw [if_pos rfl]
      constructor
      · intro parsed
        split at parsed
        · cases parsed
        · rename_i nonempty
          obtain ⟨digits, counted, bounded⟩ :=
            (readDigits_eq_some 0 rest value (by decide)).mp parsed
          refine ⟨rest, .inr rfl, ?_, digits, counted, bounded⟩
          simpa using nonempty
      · rintro ⟨digits, plain | signed, nonempty, all, counted, bounded⟩
        · subst plain
          exact absurd (all '+' List.mem_cons_self) plus_not_digit
        · obtain rfl := (List.cons.inj signed).2
          rw [if_neg (by simpa using nonempty)]
          exact (readDigits_eq_some 0 rest value (by decide)).mpr ⟨all, counted, bounded⟩
    · rw [if_neg sign, readDigits_eq_some 0 _ _ (by decide)]
      constructor
      · rintro ⟨all, counted, bounded⟩
        exact ⟨letter :: rest, .inl rfl, List.cons_ne_nil _ _, all, counted, bounded⟩
      · rintro ⟨digits, rfl | signed, nonempty, all, counted, bounded⟩
        · exact ⟨all, counted, bounded⟩
        · exact absurd (List.cons.inj signed).1 sign

/-- A literal denotes one number. -/
theorem IsLiteral.unique {text : List Char} {first second : Nat} (one : IsLiteral text first)
    (other : IsLiteral text second) : first = second := by
  have parsed := (parseU32_eq_some text first).mpr one
  exact Option.some.inj (parsed.symm.trans ((parseU32_eq_some text second).mpr other))

/-- A literal contains no blank, so the delimiters of a reply cannot lie inside one. -/
theorem IsLiteral.no_blank {text : List Char} {value : Nat} (literal : IsLiteral text value) :
    ' ' ∉ text := by
  obtain ⟨digits, rfl | rfl, -, all, -⟩ := literal
  · exact fun blank => blank_not_digit (all ' ' blank)
  · intro blank
    rcases List.mem_cons.mp blank with sign | blank
    · exact absurd sign (by decide)
    · exact blank_not_digit (all ' ' blank)

/-! ## Splitting -/

/-- A prefix is stripped exactly where the text begins with it. -/
theorem stripPrefix_eq_some (opening text rest : List Char) :
    stripPrefix opening text = some rest ↔ text = opening ++ rest := by
  unfold stripPrefix
  split
  · rename_i opens
    obtain ⟨behind, rfl⟩ := List.isPrefixOf_iff_prefix.mp opens
    simp
  · rename_i differs
    simp only [reduceCtorEq, false_iff]
    rintro rfl
    exact differs (List.isPrefixOf_iff_prefix.mpr (List.prefix_append _ _))

/-- The parts stand around an occurrence of the delimiter. The induction is on the text, from
whose front the search goes on letter by letter. -/
theorem splitOnce_joins {delimiter text before behind : List Char}
    (split : splitOnce delimiter text = some (before, behind)) :
    text = before ++ delimiter ++ behind := by
  induction text generalizing before with
  | nil =>
    simp only [splitOnce] at split
    split at split
    · rename_i empty
      cases split
      rw [List.isEmpty_iff.mp empty]
      rfl
    · cases split
  | cons letter rest inductionHypothesis =>
    simp only [splitOnce] at split
    split at split
    · rename_i here
      cases split
      obtain ⟨behind, whole⟩ := List.isPrefixOf_iff_prefix.mp here
      rw [← whole, List.drop_left]
      rfl
    · obtain ⟨⟨skipped, rest'⟩, later, same⟩ := Option.map_eq_some_iff.mp split
      cases same
      rw [inductionHypothesis later]
      rfl

/-- An occurrence is the first one where the text before it has not even the first letter
of the delimiter. -/
theorem splitOnce_first (letter : Char) (delimiter before behind : List Char)
    (absent : letter ∉ before) :
    splitOnce (letter :: delimiter) (before ++ letter :: delimiter ++ behind) =
      some (before, behind) := by
  induction before with
  | nil =>
    have here : (letter :: delimiter).isPrefixOf (letter :: delimiter ++ behind) = true :=
      List.isPrefixOf_iff_prefix.mpr (List.prefix_append _ _)
    simp only [List.nil_append, List.cons_append, splitOnce] at here ⊢
    rw [if_pos here, ← List.cons_append, List.drop_left]
  | cons other before inductionHypothesis =>
    have differs : letter ≠ other := fun same => absent (same ▸ List.mem_cons_self)
    have later : ¬ (letter :: delimiter).isPrefixOf
        (other :: (before ++ letter :: delimiter ++ behind)) = true := by
      intro opens
      obtain ⟨_, whole⟩ := List.isPrefixOf_iff_prefix.mp opens
      exact differs (List.cons.inj whole).1
    simp only [List.cons_append, splitOnce]
    rw [if_neg later, inductionHypothesis fun found => absent (List.mem_cons_of_mem _ found)]
    rfl

/-! ## Replies -/

/-- The reply that reports these two literals, with free text behind the frame. -/
def listReply (playerCount maxPlayers names : List Char) : List Char :=
  "There are ".toList ++ (playerCount ++ " of a max of ".toList ++
    (maxPlayers ++ " players online:".toList ++ names))

/-- The delimiter before the limit begins with a blank. -/
theorem capacity_delimiter : " of a max of ".toList = ' ' :: "of a max of ".toList := by decide

/-- So does the one before the names. -/
theorem names_delimiter : " players online:".toList = ' ' :: "players online:".toList := by decide

/-- The first blank behind the count begins the delimiter. -/
theorem splitOnce_capacity {playerCount : List Char} {count : Nat}
    (counted : IsLiteral playerCount count) (behind : List Char) :
    splitOnce " of a max of ".toList (playerCount ++ " of a max of ".toList ++ behind) =
      some (playerCount, behind) := by
  rw [capacity_delimiter]
  exact splitOnce_first ' ' _ playerCount behind counted.no_blank

/-- The first delimiter before the names is the one behind the limit, since there is no blank
before it. -/
theorem splitOnce_names {maxPlayers : List Char} {limit : Nat}
    (limited : IsLiteral maxPlayers limit) (names : List Char) :
    splitOnce " players online:".toList (maxPlayers ++ " players online:".toList ++ names) =
      some (maxPlayers, names) := by
  rw [names_delimiter]
  exact splitOnce_first ' ' _ maxPlayers names limited.no_blank

/-- The reader takes a reply of the grammar apart where it was put together. -/
theorem parsePlayerCount_listReply {playerCount maxPlayers : List Char} {count limit : Nat}
    (counted : IsLiteral playerCount count) (limited : IsLiteral maxPlayers limit)
    (names : List Char) : parsePlayerCount (listReply playerCount maxPlayers names) = some count := by
  unfold parsePlayerCount listReply
  simp only [(stripPrefix_eq_some _ _ _).mpr rfl, Option.bind_eq_bind, Option.bind_some,
    splitOnce_capacity counted, splitOnce_names limited,
    (parseU32_eq_some maxPlayers limit).mpr limited,
    (parseU32_eq_some playerCount count).mpr counted]

/-- A reply is parsed exactly when it has this form, and to the first of its two literals. The
names behind it are free. -/
theorem parsePlayerCount_eq_some (response : List Char) (count : Nat) :
    parsePlayerCount response = some count ↔
      ∃ playerCount maxPlayers names limit, response = listReply playerCount maxPlayers names ∧
        IsLiteral playerCount count ∧ IsLiteral maxPlayers limit := by
  constructor
  · intro parsed
    simp only [parsePlayerCount, Option.bind_eq_bind, Option.bind_eq_some_iff] at parsed
    obtain ⟨framed, opened, ⟨playerCount, behind⟩, first, ⟨maxPlayers, names⟩, second, limit,
      limited, counted⟩ := parsed
    obtain rfl := (stripPrefix_eq_some _ _ _).mp opened
    obtain rfl := splitOnce_joins first
    obtain rfl := splitOnce_joins second
    exact ⟨playerCount, maxPlayers, names, limit, rfl, (parseU32_eq_some _ _).mp counted,
      (parseU32_eq_some _ _).mp limited⟩
  · rintro ⟨playerCount, maxPlayers, names, limit, rfl, counted, limited⟩
    exact parsePlayerCount_listReply counted limited names

/-- Two ways to read a reply as one of the grammar are the same. -/
theorem listReply_unique {playerCount maxPlayers names playerCount' maxPlayers' names' : List Char}
    {count limit count' limit' : Nat} (counted : IsLiteral playerCount count)
    (limited : IsLiteral maxPlayers limit) (counted' : IsLiteral playerCount' count')
    (limited' : IsLiteral maxPlayers' limit')
    (same : listReply playerCount maxPlayers names = listReply playerCount' maxPlayers' names') :
    playerCount = playerCount' ∧ maxPlayers = maxPlayers' ∧ names = names' := by
  have behind := List.append_cancel_left same
  have rests := (splitOnce_capacity counted _).symm.trans
    ((congrArg _ behind).trans (splitOnce_capacity counted' _))
  obtain ⟨rfl, rest⟩ := Prod.mk.inj (Option.some.inj rests)
  have tails := (splitOnce_names limited names).symm.trans
    ((congrArg _ rest).trans (splitOnce_names limited' names'))
  obtain ⟨rfl, rfl⟩ := Prod.mk.inj (Option.some.inj tails)
  exact ⟨rfl, rfl, rfl⟩

/-- A reply is read as a count exactly when it is the frame around two literals of which the
first denotes the count, whatever text follows; there is one way to see it so. In
particular no other text is read as zero players, nor is a reply that reports some. -/
theorem player_count_is_read_by_its_grammar (response : List Char) :
    (∀ count, parsePlayerCount response = some count ↔
      ∃ playerCount maxPlayers names limit, response = listReply playerCount maxPlayers names ∧
        IsLiteral playerCount count ∧ IsLiteral maxPlayers limit) ∧
    (∀ playerCount maxPlayers names playerCount' maxPlayers' names' count limit count' limit',
      response = listReply playerCount maxPlayers names → IsLiteral playerCount count →
      IsLiteral maxPlayers limit → response = listReply playerCount' maxPlayers' names' →
      IsLiteral playerCount' count' → IsLiteral maxPlayers' limit' →
      playerCount = playerCount' ∧ maxPlayers = maxPlayers' ∧ names = names' ∧ count = count' ∧
        limit = limit') ∧
    (observedPlayerCount response = some 0 →
      ∃ playerCount maxPlayers names limit, response = listReply playerCount maxPlayers names ∧
        IsLiteral playerCount 0 ∧ IsLiteral maxPlayers limit ∧
        ∀ count, IsLiteral playerCount count → count = 0) := by
  refine ⟨parsePlayerCount_eq_some response, ?_, fun empty => ?_⟩
  · intro playerCount maxPlayers names playerCount' maxPlayers' names' count limit count' limit'
      framed counted limited framed' counted' limited'
    obtain ⟨rfl, rfl, rfl⟩ := listReply_unique counted limited counted' limited'
      (framed.symm.trans framed')
    exact ⟨rfl, rfl, rfl, counted.unique counted', limited.unique limited'⟩
  · obtain ⟨playerCount, maxPlayers, names, limit, framed, counted, limited⟩ :=
      (parsePlayerCount_eq_some response 0).mp empty
    exact ⟨playerCount, maxPlayers, names, limit, framed, counted, limited,
      fun count other => other.unique counted⟩

end McServerNap
