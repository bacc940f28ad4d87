import McServerNap.Encoding.AddressLetters
import McServerNap.Endpoints

/-!
# One endpoint and its texts

A text is checked by what it means: the canonical address of an address text, the lower case of
a DNS name. Two texts with the same meaning pass or fail alike, and the canonical text of what
passed means the same again.
-/

namespace McServerNap

open Encoding

/-! ## Meaning -/

/-- The canonical address that the text spells. -/
def canonicalAddress (text : List Char) : Option IpAddr := (parseIpAddr text).map canonicalizeIp

/-- The canonical host that the text names. -/
def canonicalHost (text : List Char) : CanonicalHost :=
  match parseIpAddr text with
  | some address => .ip (canonicalizeIp address)
  | none => .dns (text.map Char.toLower)

/-- Two spellings of one host: they differ in the case of letters, or they are addresses that
count as the same, such as an IPv4 address and its mapped form. -/
inductive SpelledAlike (left right : List Char) : Prop where
  | case (folded : left.map Char.toLower = right.map Char.toLower)
  | address {first second : IpAddr} (left_spells : parseIpAddr left = some first)
      (right_spells : parseIpAddr right = some second)
      (same : canonicalizeIp first = canonicalizeIp second)

/-- A text is spelled like itself. -/
theorem SpelledAlike.refl (text : List Char) : SpelledAlike text text := .case rfl

/-- An IPv4 address and its mapped form. -/
theorem SpelledAlike.mapped {text : List Char} {address : Ipv4Addr}
    (spells : parseIpAddr text = some (.v4 address)) :
    SpelledAlike text ("::ffff:".toList ++ text) := by
  apply SpelledAlike.address spells (parseIpAddr_mapped spells)
  simp only [canonicalizeIp, Ipv4Addr.toIpv4Mapped_toIpv6Mapped]

/-- A canonical address is canonical. -/
theorem canonicalizeIp_idem (address : IpAddr) :
    canonicalizeIp (canonicalizeIp address) = canonicalizeIp address := by
  cases address with
  | v4 address => rfl
  | v6 address =>
    cases mapped : address.toIpv4Mapped with
    | none => simp only [canonicalizeIp, mapped]
    | some ipv4 => simp only [canonicalizeIp, mapped]

/-! ## Address texts -/

/-- Whatever spells an address passes the checks of its letters: an address has only digits,
letters up to `f`, dots and colons, and none of these is what the checks refuse. -/
theorem address_text_checks {text : List Char} {address : IpAddr}
    (spells : parseIpAddr text = some address) :
    text ≠ [] ∧ text.all isAscii ∧ ¬ text.any isAsciiWhitespace ∧
      text.head? ≠ some '[' ∧ text.getLast? ≠ some ']' := by
  have letters (letter : Char) (mem : letter ∈ text) := (parseIpAddr_letters spells letter mem).range
  refine ⟨?_, ?_, ?_, ?_, ?_⟩
  · rintro rfl
    cases spells
  · rw [List.all_eq_true]
    intro letter mem
    have range := letters letter mem
    simp only [isAscii, decide_eq_true_eq]
    omega
  · rw [List.any_eq_true]
    rintro ⟨letter, mem, blank⟩
    have range := letters letter mem
    simp only [isAsciiWhitespace, decide_eq_true_eq] at blank
    rcases blank with rfl | rfl | rfl | rfl | rfl <;> revert range <;> decide
  · intro bracket
    exact absurd (letters _ (List.mem_of_mem_head? bracket)) (by decide)
  · intro bracket
    exact absurd (letters _ (List.mem_of_getLast? bracket)) (by decide)

/-- A listener with the text of an address is accepted with the canonical address, if its port is
none of zero. -/
theorem validateListener_of_spells (listener : ListenerSchema) {address : IpAddr}
    (spells : parseIpAddr listener.address = some address) (positive : listener.port ≠ 0) :
    validateListener listener = .ok (canonicalizeIp address) := by
  obtain ⟨-, -, -, opens, closes⟩ := address_text_checks spells
  unfold validateListener
  rw [if_neg positive, if_neg (not_or.mpr ⟨opens, closes⟩), spells]

/-- A listener is accepted exactly for a port other than zero and the text of an address, which it
is known by in canonical form. -/
theorem validateListener_eq_ok {listener : ListenerSchema} {address : IpAddr} :
    validateListener listener = .ok address ↔
      listener.port ≠ 0 ∧ canonicalAddress listener.address = some address := by
  constructor
  · intro accepted
    unfold validateListener at accepted
    split at accepted
    · cases accepted
    · rename_i positive
      split at accepted
      · cases accepted
      · split at accepted
        · rename_i spelled spells
          rw [canonicalAddress, spells, ← Except.ok.inj accepted]
          exact ⟨positive, rfl⟩
        · cases accepted
  · rintro ⟨positive, canonical⟩
    obtain ⟨spelled, spells, rfl⟩ := Option.map_eq_some_iff.mp canonical
    exact validateListener_of_spells listener spells positive

/-- What is asked of a target that is an address. -/
def validateTargetAddress (address : IpAddr) : Except TargetError CanonicalHost :=
  if !(canonicalizeIp address).isUnspecified && !(canonicalizeIp address).isMulticast then
    .ok (.ip (canonicalizeIp address))
  else .error .unspecifiedOrMulticast

/-- A target with the text of an address is judged by that address. -/
theorem validateTarget_of_spells (target : TargetSchema) {address : IpAddr}
    (spells : parseIpAddr target.host = some address) (positive : target.port ≠ 0) :
    validateTarget target = validateTargetAddress address := by
  obtain ⟨nonempty, ascii, unspaced, opens, closes⟩ := address_text_checks spells
  unfold validateTarget
  rw [if_neg positive, if_neg nonempty, if_neg (not_not.mpr ⟨ascii, unspaced, opens, closes⟩),
    spells]
  rfl

/-- An accepted target counts as its canonical host. The validation computes the same host on the
way, so the records can be stated by the function that compares spellings. -/
theorem validateTarget_canonical {target : TargetSchema} {host : CanonicalHost}
    (accepted : validateTarget target = .ok host) : host = canonicalHost target.host := by
  unfold validateTarget at accepted
  split at accepted
  · cases accepted
  · split at accepted
    · cases accepted
    · split at accepted
      · cases accepted
      · rw [canonicalHost]
        cases spells : parseIpAddr target.host with
        | some address =>
          simp only [spells] at accepted
          split at accepted
          · exact (Except.ok.inj accepted).symm
          · cases accepted
        | none =>
          simp only [spells] at accepted
          cases portable : validateHostname target.host with
          | error error =>
            rw [portable] at accepted
            cases accepted
          | ok portable =>
            rw [portable] at accepted
            exact (Except.ok.inj accepted).symm

/-- An accepted host has no brackets around it. -/
theorem validateTarget_unbracketed {target : TargetSchema} {host : CanonicalHost}
    (accepted : validateTarget target = .ok host) : target.host.head? ≠ some '[' := by
  unfold validateTarget at accepted
  split at accepted
  · cases accepted
  · split at accepted
    · cases accepted
    · split at accepted
      · cases accepted
      · rename_i checked
        exact (not_not.mp checked).2.2.1

/-! ## Upper and lower case -/

/-- The letters and digits of ASCII, by their codes, so that the rules for a name can be decided
by arithmetic. -/
theorem isAlphanum_iff (letter : Char) :
    letter.isAlphanum ↔ (48 ≤ letter.toNat ∧ letter.toNat ≤ 57) ∨
      (65 ≤ letter.toNat ∧ letter.toNat ≤ 90) ∨ (97 ≤ letter.toNat ∧ letter.toNat ≤ 122) := by
  have upper : letter.isUpper ↔ 65 ≤ letter.toNat ∧ letter.toNat ≤ 90 := by
    unfold Char.isUpper
    simp only [ge_iff_le, UInt32.le_iff_toNat_le, decide_eq_true_eq]
    rfl
  have lower : letter.isLower ↔ 97 ≤ letter.toNat ∧ letter.toNat ≤ 122 := by
    unfold Char.isLower
    simp only [ge_iff_le, UInt32.le_iff_toNat_le, Bool.and_eq_true, decide_eq_true_eq]
    rfl
  have digit : letter.isDigit ↔ 48 ≤ letter.toNat ∧ letter.toNat ≤ 57 := by
    simp only [Char.isDigit, ge_iff_le, UInt32.le_iff_toNat_le, Bool.and_eq_true,
      decide_eq_true_eq]
    rfl
  unfold Char.isAlphanum Char.isAlpha
  rw [Bool.or_eq_true, Bool.or_eq_true, upper, lower, digit]
  omega

/-- Lower-casing keeps letters letters. -/
theorem isAlphanum_toLower (letter : Char) : letter.toLower.isAlphanum = letter.isAlphanum := by
  rw [Bool.eq_iff_iff, isAlphanum_iff, isAlphanum_iff, toNat_toLower]
  split <;> omega

/-- It keeps ASCII in ASCII. -/
theorem isAscii_toLower (letter : Char) : isAscii letter.toLower = isAscii letter := by
  rw [isAscii, isAscii, decide_eq_decide, toNat_toLower]
  split <;> omega

/-- It makes no blank, nor removes one. -/
theorem isAsciiWhitespace_toLower (letter : Char) :
    isAsciiWhitespace letter.toLower = isAsciiWhitespace letter := by
  simp only [isAsciiWhitespace, toLower_eq_iff ' ' (by decide),
    toLower_eq_iff '\t' (by decide), toLower_eq_iff '\n' (by decide),
    toLower_eq_iff '\x0c' (by decide), toLower_eq_iff '\r' (by decide)]

/-- A letter without case stands at the same ends of a text and of its lower case. -/
theorem ends_toLower (caseless : Char)
    (outside : caseless.toNat < 65 ∨ 90 < caseless.toNat ∧ caseless.toNat < 97)
    (text : List Char) :
    ((text.map Char.toLower).head? = some caseless ↔ text.head? = some caseless) ∧
      ((text.map Char.toLower).getLast? = some caseless ↔ text.getLast? = some caseless) := by
  have same (found : Option Char) :
      found.map Char.toLower = some caseless ↔ found = some caseless := by
    cases found with
    | none => simp
    | some letter =>
      simp only [Option.map_some, Option.some.injEq]
      exact toLower_eq_iff caseless outside letter
  rw [List.head?_map, List.getLast?_map]
  exact ⟨same _, same _⟩

/-- A dot has no case, so the labels of a lower-case name are those of the name in lower case. -/
theorem splitOn_toLower (text : List Char) :
    (text.map Char.toLower).splitOn '.' = (text.splitOn '.').map (List.map Char.toLower) := by
  induction text with
  | nil => rfl
  | cons letter rest inductionHypothesis =>
    rw [List.map_cons, List.splitOn_cons_eq_if_modifyHead, List.splitOn_cons_eq_if_modifyHead,
      inductionHypothesis]
    simp only [beq_iff_eq, toLower_eq_iff '.' (by decide)]
    split
    · rfl
    · cases rest.splitOn '.' with
      | nil => rfl
      | cons label labels => rfl

/-- A label is portable in both cases or in neither. -/
theorem isPortableLabel_toLower (label : List Char) :
    isPortableLabel (label.map Char.toLower) = isPortableLabel label := by
  have dash (letter : Char) : letter.toLower = '-' ↔ letter = '-' := toLower_eq_iff '-' (by decide) letter
  simp only [isPortableLabel, List.length_map, List.all_map, List.head?_map, List.getLast?_map,
    Option.any_map, Function.comp_def, isAlphanum_toLower, dash]

/-- So is a host name. -/
theorem validateHostname_toLower (host : List Char) :
    validateHostname (host.map Char.toLower) = validateHostname host := by
  have dot := (ends_toLower '.' (by decide) host).2
  simp only [validateHostname, List.length_map, ne_eq, dot, splitOn_toLower, List.all_map,
    Function.comp_def, isPortableLabel_toLower]

/-- A text in lower case is in lower case. -/
theorem map_toLower_idem (text : List Char) :
    (text.map Char.toLower).map Char.toLower = text.map Char.toLower := by
  rw [List.map_map]
  apply List.map_congr_left
  intro letter mem
  apply Char.toNat_inj.mp
  rw [Function.comp_apply, toNat_toLower, toNat_toLower]
  by_cases upper : 65 ≤ letter.toNat ∧ letter.toNat ≤ 90
  · rw [if_pos upper, if_neg (by omega)]
  · rw [if_neg upper, if_neg upper]

/-- A target is judged alike in both cases, as an address and as a name. -/
theorem validateTarget_toLower (host : List Char) (port : UInt16) :
    validateTarget ⟨host.map Char.toLower, port⟩ = validateTarget ⟨host, port⟩ := by
  have opens := (ends_toLower '[' (by decide) host).1
  have closes := (ends_toLower ']' (by decide) host).2
  simp only [validateTarget, List.map_eq_nil_iff, List.all_map, List.any_map, Function.comp_def,
    isAscii_toLower, isAsciiWhitespace_toLower, ne_eq, opens, closes, parseIpAddr_toLower,
    validateHostname_toLower, map_toLower_idem]

/-- So is a listener. -/
theorem validateListener_toLower (address : List Char) (port : UInt16) :
    validateListener ⟨address.map Char.toLower, port⟩ = validateListener ⟨address, port⟩ := by
  have opens := (ends_toLower '[' (by decide) address).1
  have closes := (ends_toLower ']' (by decide) address).2
  simp only [validateListener, opens, closes, parseIpAddr_toLower]

/-! ## Spellings -/

/-- Listeners that are spelled alike are judged alike. -/
theorem SpelledAlike.listener {left right : List Char} (alike : SpelledAlike left right)
    (port : UInt16) : validateListener ⟨left, port⟩ = validateListener ⟨right, port⟩ := by
  cases alike with
  | case folded => rw [← validateListener_toLower left, folded, validateListener_toLower right]
  | address left_spells right_spells same =>
    by_cases zero : port = 0
    · subst zero
      rfl
    · rw [validateListener_of_spells ⟨left, port⟩ left_spells zero,
        validateListener_of_spells ⟨right, port⟩ right_spells zero, same]

/-- Targets that are spelled alike are judged alike. -/
theorem SpelledAlike.target {left right : List Char} (alike : SpelledAlike left right)
    (port : UInt16) : validateTarget ⟨left, port⟩ = validateTarget ⟨right, port⟩ := by
  cases alike with
  | case folded => rw [← validateTarget_toLower left, folded, validateTarget_toLower right]
  | address left_spells right_spells same =>
    by_cases zero : port = 0
    · subst zero
      rfl
    · rw [validateTarget_of_spells ⟨left, port⟩ left_spells zero,
        validateTarget_of_spells ⟨right, port⟩ right_spells zero,
        validateTargetAddress, validateTargetAddress, same]

/-- A text and its lower case. -/
theorem SpelledAlike.lower (text : List Char) : SpelledAlike text (text.map Char.toLower) :=
  .case (by rw [map_toLower_idem])

/-! ## The endpoints in use -/

/-- A host that does not open with a bracket is stored as it is. -/
theorem Endpoint.new_unbracketed {host : List Char} (opens : host.head? ≠ some '[')
    (port : UInt16) : Endpoint.new host port = ⟨host, port⟩ := by
  unfold Endpoint.new
  split
  · exact absurd rfl opens
  · rfl

/-- The text of a canonical address spells that address. -/
theorem SpelledAlike.toText {text : List Char} {address : IpAddr}
    (spells : parseIpAddr text = some address) :
    SpelledAlike (canonicalizeIp address).toText text :=
  .address (parseIpAddr_toText _) spells (canonicalizeIp_idem address)

/-- The text that an accepted listener is bound to is accepted again, with the same canonical
address. -/
theorem listenerEndpoint_revalidates {listener : ListenerSchema} {address : IpAddr}
    (accepted : validateListener listener = .ok address) :
    ∃ endpoint, listenerEndpoint listener = .ok endpoint ∧ endpoint.port = listener.port ∧
      validateListener ⟨endpoint.host, endpoint.port⟩ = .ok address := by
  obtain ⟨positive, canonical⟩ := validateListener_eq_ok.mp accepted
  obtain ⟨spelled, spells, rfl⟩ := Option.map_eq_some_iff.mp canonical
  have opens := (address_text_checks (parseIpAddr_toText (canonicalizeIp spelled))).2.2.2.1
  refine ⟨⟨(canonicalizeIp spelled).toText, listener.port⟩, ?_, rfl, ?_⟩
  · rw [listenerEndpoint, accepted, ← Endpoint.new_unbracketed opens]
    rfl
  · rw [(SpelledAlike.toText spells).listener]
    exact accepted

/-- The text that an accepted target is connected to is accepted again, as the same host. -/
theorem targetEndpoint_revalidates {target : TargetSchema} {host : CanonicalHost}
    (accepted : validateTarget target = .ok host) :
    ∃ endpoint, targetEndpoint target = .ok endpoint ∧ endpoint.port = target.port ∧
      validateTarget ⟨endpoint.host, endpoint.port⟩ = .ok host := by
  obtain rfl := validateTarget_canonical accepted
  cases spells : parseIpAddr target.host with
  | some spelled =>
    have canonical : canonicalHost target.host = .ip (canonicalizeIp spelled) := by
      rw [canonicalHost, spells]
    have opens := (address_text_checks (parseIpAddr_toText (canonicalizeIp spelled))).2.2.2.1
    refine ⟨⟨(canonicalizeIp spelled).toText, target.port⟩, ?_, rfl, ?_⟩
    · rw [targetEndpoint, accepted, canonical, ← Endpoint.new_unbracketed opens]
      rfl
    · rw [(SpelledAlike.toText spells).target]
      exact accepted
  | none =>
    have canonical : canonicalHost target.host = .dns (target.host.map Char.toLower) := by
      rw [canonicalHost, spells]
    have opens : (target.host.map Char.toLower).head? ≠ some '[' := by
      rw [ne_eq, (ends_toLower '[' (by decide) target.host).1]
      exact validateTarget_unbracketed accepted
    refine ⟨⟨target.host.map Char.toLower, target.port⟩, ?_, rfl, ?_⟩
    · rw [targetEndpoint, accepted, canonical, ← Endpoint.new_unbracketed opens]
      rfl
    · rw [validateTarget_toLower]
      exact accepted

end McServerNap
