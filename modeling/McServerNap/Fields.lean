import Mathlib.Data.List.Basic
import McServerNap.Encoding.Reading
import McServerNap.Packet

/-!
# What the field readers accept

Each reader of the cursor is given the form of its field. The readers report how
much they took, so a form may follow another one and the forms of whole packets
are compositions.
-/

namespace McServerNap

open Encoding

/-! ## VarInts -/

/-- The bytes spell a VarInt: at most five of them, terminated, with a value of 32
bits. Nothing asks for the shortest spelling. -/
structure IsVarint (field : Bytes) (value : Int32) : Prop where
  terminated : Terminated field
  short : field.length ≤ 5
  spells : groups field = value.toUInt32.toNat

/-- One turn of the decoder adds the next group to the value read so far. The group is shifted
behind the earlier ones and no bit is lost, since the fifth has only four. -/
theorem gather_group (read : Bytes) (byte : UInt8) (result : UInt32)
    (gathered : result.toNat = groups read) (early : read.length ≤ 4)
    (fits : read.length = 4 → byte.toNat < 16) :
    (result ||| ((byte &&& 0x7f).toUInt32 <<< UInt32.ofNat (read.length * 7))).toNat =
      groups (read ++ [byte]) := by
  have low : byte.toNat % 128 < 128 := Nat.mod_lt _ (by decide)
  have places : read.length * 7 % 2 ^ 32 % 32 = read.length * 7 := by omega
  have noLoss : byte.toNat % 128 * 2 ^ (read.length * 7) < 2 ^ 32 := by
    by_cases lastByte : read.length = 4
    · have small := fits lastByte
      rw [lastByte, Nat.mod_eq_of_lt (by omega)]
      omega
    · have power : 2 ^ (read.length * 7) ≤ 2 ^ 21 :=
        Nat.pow_le_pow_right (by decide) (by omega)
      calc byte.toNat % 128 * 2 ^ (read.length * 7)
          ≤ 127 * 2 ^ 21 := Nat.mul_le_mul (by omega) power
        _ < 2 ^ 32 := by decide
  have below : groups read < 2 ^ (read.length * 7) := weight read.length ▸ groups_lt read
  rw [UInt32.toNat_or, UInt32.toNat_shiftLeft, UInt8.toNat_toUInt32, low_bits,
    UInt32.toNat_ofNat', places, gathered, Nat.shiftLeft_eq, Nat.mod_eq_of_lt noLoss,
    ← Nat.shiftLeft_eq, or_shift _ _ _ below, groups_append, weight]
  simp

/-- What the decoder is still to find when it has passed the continued bytes `read`: a terminated
continuation, within five bytes and 32 bits in all. Its loop is compared with this, turn by
turn, so that every case of the turn is one small lemma. -/
def VarintContinues (read unread : Bytes) (value : Int32) (length : Nat) : Prop :=
  ∃ field rest, unread = field ++ rest ∧ read.length + field.length = length ∧
    Terminated field ∧ length ≤ 5 ∧ groups (read ++ field) = value.toUInt32.toNat

/-- Five continued bytes leave no room for the byte that would end the number. -/
theorem not_continues_spent (read unread : Bytes) (value : Int32) (length : Nat)
    (spent : read.length = 5) : ¬ VarintContinues read unread value length := by
  rintro ⟨field, rest, _, rfl, terminated, short, _⟩
  have := terminated.pos
  omega

/-- A number that is still continued does not end where the input does. -/
theorem not_continues_nil (read : Bytes) (value : Int32) (length : Nat) :
    ¬ VarintContinues read [] value length := by
  rintro ⟨field, rest, split, _, terminated, _⟩
  obtain ⟨rfl, _⟩ := List.append_eq_nil_iff.mp split.symm
  exact not_terminated_nil terminated

/-- Before a byte without a continuation bit the number can only end there, so what is left to
find is decided by the value of the bytes read. -/
theorem continues_last (read : Bytes) (byte : UInt8) (tail : Bytes) (value : Int32) (length : Nat)
    (ends : byte.toNat < 128) :
    VarintContinues read (byte :: tail) value length ↔
      read.length + 1 = length ∧ length ≤ 5 ∧
        groups (read ++ [byte]) = value.toUInt32.toNat := by
  constructor
  · rintro ⟨field, rest, split, counted, terminated, short, spells⟩
    cases field with
    | nil => exact absurd terminated not_terminated_nil
    | cons first others =>
      simp only [List.cons_append, List.cons.injEq] at split
      obtain ⟨rfl, _⟩ := split
      rcases (terminated_cons _ _).mp terminated with ⟨_, rfl⟩ | ⟨follows, _⟩
      · exact ⟨counted, short, spells⟩
      · omega
  · rintro ⟨counted, short, spells⟩
    exact ⟨[byte], tail, rfl, counted, (terminated_singleton byte).mpr ends, short, spells⟩

/-- Before a byte with a continuation bit the number goes on: what is left to find after the
byte is what was left before it. -/
theorem continues_more (read : Bytes) (byte : UInt8) (tail : Bytes) (value : Int32) (length : Nat)
    (follows : 128 ≤ byte.toNat) :
    VarintContinues read (byte :: tail) value length ↔
      VarintContinues (read ++ [byte]) tail value length := by
  constructor
  · rintro ⟨field, rest, split, counted, terminated, short, spells⟩
    cases field with
    | nil => exact absurd terminated not_terminated_nil
    | cons first others =>
      simp only [List.cons_append, List.cons.injEq] at split
      obtain ⟨rfl, rfl⟩ := split
      rcases (terminated_cons _ _).mp terminated with ⟨small, _⟩ | ⟨_, terminated⟩
      · omega
      · simp only [List.length_cons] at counted
        exact ⟨others, rest, rfl, by simp; omega, terminated, short, by simpa using spells⟩
  · rintro ⟨field, rest, rfl, counted, terminated, short, spells⟩
    simp only [List.length_append, List.length_singleton] at counted
    exact ⟨byte :: field, rest, rfl, by simp only [List.length_cons]; omega,
      (terminated_cons _ _).mpr (Or.inr ⟨follows, terminated⟩), short, by simpa using spells⟩

/-- A fifth byte whose group reaches beyond bit 31 spells no 32-bit value: it either continues
the number past five bytes or ends it with too large a value. -/
theorem not_continues_overflow (read : Bytes) (byte : UInt8) (tail : Bytes) (value : Int32)
    (length : Nat) (fifth : read.length = 4) (large : 16 ≤ byte.toNat) :
    ¬ VarintContinues read (byte :: tail) value length := by
  intro continues
  by_cases ends : byte.toNat < 128
  · obtain ⟨-, -, spells⟩ := (continues_last read byte tail value length ends).mp continues
    rw [groups_append, fifth] at spells
    have bounded := value.toUInt32.toNat_lt
    simp only [groups_cons, groups_nil] at spells
    omega
  · have spent : (read ++ [byte]).length = 5 := by simp [fifth]
    exact not_continues_spent _ tail value length spent
      ((continues_more read byte tail value length (Nat.le_of_not_lt ends)).mp continues)

/-- The decoder's loop, after the continued bytes `read`: it accepts exactly a
terminated continuation that fits in five bytes and 32 bits. The induction is on the rounds
left, which with the bytes read make five. -/
theorem decodeVarintFrom_eq_ok (rounds : Nat) (read unread : Bytes) (result : UInt32)
    (value : Int32) (length : Nat) (position : read.length + rounds = 5)
    (gathered : result.toNat = groups read) :
    decodeVarintFrom (read ++ unread) rounds read.length result = .ok (value, length) ↔
      VarintContinues read unread value length := by
  induction rounds generalizing read unread result with
  | zero =>
    have spent := not_continues_spent read unread value length position
    simpa only [decodeVarintFrom, reduceCtorEq, false_iff] using spent
  | succ rounds inductionHypothesis =>
    cases unread with
    | nil =>
      have nothing := not_continues_nil read value length
      simpa only [decodeVarintFrom, List.append_nil, Nat.le_refl, List.getElem?_eq_none,
        reduceCtorEq, false_iff] using nothing
    | cons byte tail =>
      have found : (read ++ byte :: tail)[read.length]? = some byte := by simp
      simp only [decodeVarintFrom, found]
      by_cases overflow : read.length = 4 ∧ byte &&& 0xf0 ≠ 0
      · have large : 16 ≤ byte.toNat := Nat.le_of_not_lt fun small =>
          overflow.2 ((high_bits_clear byte).mpr small)
        have refused := not_continues_overflow read byte tail value length overflow.1 large
        simpa only [if_pos overflow, reduceCtorEq, false_iff] using refused
      · rw [if_neg overflow]
        have early : read.length ≤ 4 := by omega
        have fits : read.length = 4 → byte.toNat < 16 := fun last =>
          (high_bits_clear byte).mp (Decidable.byContradiction fun high => overflow ⟨last, high⟩)
        have next := gather_group read byte result gathered early fits
        by_cases ends : byte &&& 0x80 = 0
        · have small := (continuation_clear byte).mp ends
          rw [if_pos ends, continues_last read byte tail value length small, ← next,
            UInt32.toNat_inj]
          simp only [Except.ok.injEq, Prod.mk.injEq]
          constructor
          · rintro ⟨rfl, rfl⟩
            exact ⟨rfl, by omega, rfl⟩
          · rintro ⟨counted, -, same⟩
            exact ⟨by rw [same]; rfl, counted⟩
        · have follows : 128 ≤ byte.toNat :=
            Nat.le_of_not_lt fun small => ends ((continuation_clear byte).mpr small)
          have step := inductionHypothesis (read ++ [byte]) tail _
            (by simp only [List.length_append, List.length_singleton]; omega) next
          rw [List.append_assoc, List.singleton_append, List.length_append,
            List.length_singleton] at step
          rw [if_neg ends, continues_more read byte tail value length follows, step]

/-- `decode_varint` accepts exactly the inputs that begin with a VarInt. This is the loop's
invariant at its first round, where nothing has been read. -/
theorem decodeVarint_eq_ok (input : Bytes) (value : Int32) (length : Nat) :
    decodeVarint input = .ok (value, length) ↔
      ∃ field rest, input = field ++ rest ∧ field.length = length ∧ IsVarint field value := by
  have whole := decodeVarintFrom_eq_ok 5 [] input 0 value length rfl rfl
  simp only [VarintContinues, List.nil_append, List.length_nil, Nat.zero_add] at whole
  rw [decodeVarint, whole]
  constructor
  · rintro ⟨field, rest, split, counted, terminated, short, spells⟩
    exact ⟨field, rest, split, counted, terminated, counted ▸ short, spells⟩
  · rintro ⟨field, rest, split, counted, varint⟩
    exact ⟨field, rest, split, counted, varint.terminated, counted ▸ varint.short,
      varint.spells⟩

/-- A VarInt is found whatever follows it. -/
theorem IsVarint.decoded {field : Bytes} {value : Int32} (varint : IsVarint field value)
    (rest : Bytes) : decodeVarint (field ++ rest) = .ok (value, field.length) :=
  (decodeVarint_eq_ok _ _ _).mpr ⟨field, rest, rfl, rfl, varint⟩

/-- Bytes that decode as a whole are a VarInt. -/
theorem IsVarint.of_decoded {field : Bytes} {value : Int32}
    (decoded : decodeVarint field = .ok (value, field.length)) : IsVarint field value := by
  obtain ⟨found, rest, split, counted, varint⟩ := (decodeVarint_eq_ok _ _ _).mp decoded
  have nothing : rest = [] := by
    have lengths := congrArg List.length split
    rw [List.length_append] at lengths
    exact List.eq_nil_of_length_eq_zero (by omega)
  rw [split, nothing, List.append_nil]
  exact varint

/-! ## The cursor's readers -/

/-- A cursor between the bytes it has passed and those to come. -/
def CursorAt (cursor : PacketCursor) (before unread : Bytes) : Prop :=
  cursor = ⟨before ++ unread, before.length⟩

/-- A reader of the cursor and its form. Offsets are machine words. -/
abbrev FieldReads {α : Type} (budget : Nat) (reader : Reading α)
    (Form : Bytes → Bytes → α → Prop) : Prop :=
  Reads CursorAt (2 ^ 64) budget reader Form

/-- The slice from the offset to the end of the packet is what is unread. -/
theorem outcome_slice_unread {σ : Type} (before unread : Bytes) (state : σ) :
    outcome (slice (before ++ unread) before.length (before ++ unread).length) state =
      (.ok unread, state) := by
  simp [slice]

/-- A check passes or fails with its error, and leaves the state as it was. -/
theorem outcome_ensure {σ : Type} (condition : Prop) [Decidable condition]
    (error : ClientError) (state : σ) :
    outcome (ensure condition error) state =
      (if condition then .ok () else .error (.failed error), state) := by
  unfold ensure
  split <;> rfl

/-- A check reads nothing and holds if it is passed. It is a reader of the empty field, so checks
can be chained with readers. -/
theorem ensure_reads (condition : Prop) [Decidable condition] (error : ClientError) :
    FieldReads 0 (ensure condition error) (Silent fun _ _ => condition) where
  within := by
    rintro before field _ ⟨rfl, _⟩
    simp
  sound := by
    intro state before unread value later _ placed read
    rw [outcome_ensure] at read
    split at read
    · next held =>
      obtain ⟨_, rfl⟩ := Prod.mk.inj read
      exact ⟨[], unread, rfl, ⟨rfl, held⟩, by simpa using placed⟩
    · simp at read
  complete := by
    rintro state before field rest _ _ placed ⟨rfl, held⟩
    exact ⟨state, by rw [outcome_ensure, if_pos held], by simpa using placed⟩

/-- The position is the number of bytes already read, so a form may speak of the place of a
field. -/
theorem position_reads : FieldReads 0 PacketCursor.position
    (Silent fun before offset => offset = before.length) where
  within := by
    rintro before field _ ⟨rfl, _⟩
    simp
  sound := by
    rintro _ before unread value later _ rfl read
    obtain ⟨returned, rfl⟩ := Prod.mk.inj read
    have offset : before.length = value := Except.ok.inj returned
    exact ⟨[], unread, rfl, ⟨rfl, offset.symm⟩, by simp [CursorAt]⟩
  complete := by
    rintro _ before field rest _ _ rfl ⟨rfl, rfl⟩
    exact ⟨_, rfl, by simp [CursorAt]⟩

/-- `read_varint` decodes what is left. -/
theorem outcome_readVarint (before unread : Bytes) :
    outcome PacketCursor.readVarint ⟨before ++ unread, before.length⟩ =
      match decodeVarint unread with
      | .ok (value, length) => (.ok value, ⟨before ++ unread, before.length + length⟩)
      | .error error => (.error (.failed error), ⟨before ++ unread, before.length⟩) := by
  simp only [PacketCursor.readVarint, outcome_bind, outcome_get, outcome_slice_unread]
  cases decodeVarint unread <;> rfl

/-- A VarInt is read in its form, of at most five bytes, so the offset stays a machine word. -/
theorem readVarint_reads : FieldReads 5 PacketCursor.readVarint
    (fun _ field value => IsVarint field value) where
  within varint := varint.short
  sound := by
    rintro _ before unread value later _ rfl read
    rw [outcome_readVarint] at read
    cases decoded : decodeVarint unread with
    | error error => simp [decoded] at read
    | ok result =>
      obtain ⟨found, length⟩ := result
      obtain ⟨field, rest, rfl, rfl, varint⟩ := (decodeVarint_eq_ok _ _ _).mp decoded
      simp only [decoded, Prod.mk.injEq, Except.ok.injEq] at read
      obtain ⟨rfl, rfl⟩ := read
      exact ⟨field, rest, rfl, varint, by simp [CursorAt]⟩
  complete := by
    rintro _ before field rest value _ rfl varint
    refine ⟨⟨before ++ (field ++ rest), before.length + field.length⟩, ?_, by simp [CursorAt]⟩
    rw [outcome_readVarint, varint.decoded rest]

/-- `read_bytes` takes the bytes that are asked for when so many are left, and otherwise leaves
the cursor where it was. The checked addition has room to succeed. -/
theorem outcome_readBytes (length : Nat) (before unread : Bytes)
    (roomy : before.length + length < 2 ^ 64) :
    outcome (PacketCursor.readBytes length) ⟨before ++ unread, before.length⟩ =
      if length ≤ unread.length then
        (.ok (unread.take length), ⟨before ++ unread, before.length + length⟩)
      else (.error (.failed .packetTruncated), ⟨before ++ unread, before.length⟩) := by
  have inside : before.length + length ≤ (before ++ unread).length ↔ length ≤ unread.length := by
    simp
  simp only [PacketCursor.readBytes, outcome_bind, outcome_get, usizeCheckedAdd, if_pos roomy,
    outcome_ensure, inside]
  by_cases enough : length ≤ unread.length
  · simp [enough, slice]
  · simp [enough]

/-- As many bytes as asked for are read, if they are there and the offset does not overflow. -/
theorem readBytes_reads (length : Nat) : FieldReads length (PacketCursor.readBytes length)
    (fun _ field value => field.length = length ∧ value = field) where
  within := by
    rintro before field value ⟨counted, _⟩
    omega
  sound := by
    rintro _ before unread value later roomy rfl read
    rw [outcome_readBytes length before unread roomy] at read
    split at read
    · next enough =>
      obtain ⟨rfl, rfl⟩ := by simpa using read
      refine ⟨unread.take length, unread.drop length, by simp,
        ⟨List.length_take_of_le enough, rfl⟩, ?_⟩
      simp [CursorAt, Nat.min_eq_left enough]
    · simp at read
  complete := by
    rintro _ before field rest value roomy rfl ⟨rfl, rfl⟩
    refine ⟨⟨before ++ (value ++ rest), before.length + value.length⟩, ?_, by simp [CursorAt]⟩
    rw [outcome_readBytes _ before _ roomy, if_pos (by simp)]
    simp

/-- A length is accepted if it is not negative; it takes no byte of the packet, because the number
itself was read before. -/
theorem stringLength_reads (byteLength : Int32) :
    FieldReads 0 (PacketCursor.stringLength byteLength)
      (Silent fun _ length => 0 ≤ byteLength.toInt ∧ length = byteLength.toInt.toNat) := by
  by_cases negative : byteLength.toInt < 0
  · have fails : PacketCursor.stringLength byteLength = throw (.failed .negativeStringLength) := by
      unfold PacketCursor.stringLength ensure
      rw [if_neg (by omega)]
      rfl
    rw [fails]
    exact (Reads.throw _).congr fun before field value =>
      ⟨fun impossible => impossible.2.elim, fun formed => by
        obtain ⟨_, nonnegative, _⟩ := formed
        omega⟩
  · have returns : PacketCursor.stringLength byteLength = pure byteLength.toInt.toNat := by
      unfold PacketCursor.stringLength ensure
      rw [if_pos (by omega), if_neg negative]
      rfl
    rw [returns]
    exact (Reads.pure _).congr fun before field value => by
      simp only [Silent]
      constructor
      · rintro ⟨rfl, rfl⟩
        exact ⟨rfl, by omega, rfl⟩
      · rintro ⟨rfl, _, rfl⟩
        exact ⟨rfl, rfl⟩

/-- Bytes are accepted if they are the UTF-8 of a text, and then of one text only. The decoder
takes no byte of the packet itself. -/
theorem readUtf8_reads (bytes : Bytes) : FieldReads 0 (PacketCursor.readUtf8 bytes)
    (Silent fun _ text => bytes = utf8 text) := by
  cases decoded : fromUtf8 bytes with
  | none =>
    have fails : PacketCursor.readUtf8 bytes = throw (.failed .invalidUtf8) := by
      simp only [PacketCursor.readUtf8, decoded]
    rw [fails]
    exact (Reads.throw _).congr fun before field text =>
      ⟨fun impossible => impossible.2.elim, fun formed => by
        have found := (fromUtf8_eq_some _ _).mpr formed.2
        rw [decoded] at found
        simp at found⟩
  | some text =>
    have returns : PacketCursor.readUtf8 bytes = pure text := by
      simp only [PacketCursor.readUtf8, decoded]
    have bytes_eq := (fromUtf8_eq_some _ _).mp decoded
    rw [returns]
    exact (Reads.pure _).congr fun before field found => by
      simp only [Silent, bytes_eq]
      constructor
      · rintro ⟨rfl, rfl⟩
        exact ⟨rfl, rfl⟩
      · rintro ⟨rfl, same⟩
        exact ⟨rfl, (utf8_injective same).symm⟩

/-- Text after a VarInt of its length in bytes, standing at a range of offsets. -/
def IsString (before field : Bytes) (text : List Char) (start stop : Nat) : Prop :=
  ∃ lengthField length, field = lengthField ++ utf8 text ∧ IsVarint lengthField length ∧
    length.toInt = (utf8 text).length ∧ start = before.length + lengthField.length ∧
    stop = start + (utf8 text).length

/-- A length of 32 signed bits is below 2³¹, which bounds how far one string moves the cursor. -/
theorem length_lt (length : Int32) : length.toInt.toNat < 2 ^ 31 := by
  have bound := length.toInt_lt
  omega

/-- The bytes that a string's length announces are read within any offset. -/
theorem announced_reads (byteLength : Int32) (length : Nat)
    (announced : ∃ before field, Silent (τ := UInt8)
      (fun _ length => 0 ≤ byteLength.toInt ∧ length = byteLength.toInt.toNat) before field length) :
    FieldReads (2 ^ 31) (PacketCursor.readBytes length)
      (fun _ field value => field.length = length ∧ value = field) := by
  obtain ⟨_, _, _, _, rfl⟩ := announced
  exact (readBytes_reads _).relax (Nat.le_of_lt (length_lt byteLength))

/-- A string is its length and its bytes, and its range lies behind the length. The budget counts
the bytes of the number and what a number can announce, so no position goes round. -/
theorem readUtf8StringRange_reads : FieldReads (5 + 2 ^ 31) PacketCursor.readUtf8StringRange
    (fun before field range => ∃ text, IsString before field text range.1 range.2) := by
  have chain : FieldReads (5 + (0 + (0 + (2 ^ 31 + (0 + (0 + 0))))))
      PacketCursor.readUtf8StringRange _ :=
    readVarint_reads.bind fun byteLength _ => (stringLength_reads byteLength).bind fun length held =>
      position_reads.bind fun start _ => (announced_reads byteLength length held).bind fun bytes _ =>
      (readUtf8_reads bytes).bind fun _ _ => position_reads.bind fun stop _ => Reads.pure (start, stop)
  apply chain.congr
  intro before field range
  simp only [silent_followed, Silent]
  constructor
  · rintro ⟨lengthField, _, length, rfl, varint, _, ⟨nonnegative, rfl⟩, _, rfl, bytes, _, _, rfl,
      ⟨counted, rfl⟩, text, rfl, _, rfl, rfl, rfl⟩
    exact ⟨text, lengthField, length, by simp, varint, by omega, by simp, by simp; omega⟩
  · rintro ⟨text, lengthField, length, rfl, varint, counted, started, stopped⟩
    refine ⟨lengthField, utf8 text, length, rfl, varint, _, ⟨by omega, rfl⟩, _, rfl, utf8 text, [],
      _, by simp, ⟨by omega, rfl⟩, text, rfl, _, rfl, rfl, ?_⟩
    ext
    · simpa using started
    · simp only [stopped, started, List.length_append]

/-- A string within its limit of code units never exceeds the limit of bytes that
is checked first. -/
theorem readStringWithRange_reads (maxUtf16Units : Nat) :
    FieldReads (5 + 2 ^ 31) (PacketCursor.readStringWithRange maxUtf16Units)
      (fun before field read => IsString before field read.1 read.2.1 read.2.2 ∧
        utf16Units read.1 ≤ maxUtf16Units) := by
  have chain : FieldReads (5 + (0 + (0 + (0 + (2 ^ 31 + (0 + (0 + (0 + 0))))))))
      (PacketCursor.readStringWithRange maxUtf16Units) _ :=
    readVarint_reads.bind fun byteLength _ => (stringLength_reads byteLength).bind fun length held =>
      (ensure_reads _ _).bind fun _ _ =>
      position_reads.bind fun start _ => (announced_reads byteLength length held).bind fun bytes _ =>
      (readUtf8_reads bytes).bind fun text _ => (ensure_reads _ _).bind fun _ _ =>
      position_reads.bind fun stop _ => Reads.pure (text, start, stop)
  apply chain.congr
  intro before field read
  simp only [silent_followed, Silent]
  constructor
  · rintro ⟨lengthField, _, length, rfl, varint, _, ⟨nonnegative, rfl⟩, _, _, _, rfl, bytes, _, _,
      rfl, ⟨counted, rfl⟩, text, rfl, _, limited, _, rfl, rfl, rfl⟩
    have announced : length.toInt = ((utf8 text).length : Int) := by omega
    exact ⟨⟨lengthField, length, by simp, varint, announced, by simp, by simp; omega⟩, limited⟩
  · rintro ⟨⟨lengthField, length, rfl, varint, counted, started, stopped⟩, limited⟩
    have bytesFit := utf8_length_le read.1
    refine ⟨lengthField, utf8 read.1, length, rfl, varint, _, ⟨by omega, rfl⟩, ⟨⟩, by omega, _, rfl,
      utf8 read.1, [], _, by simp, ⟨by omega, rfl⟩, read.1, rfl, ⟨⟩, limited, _, rfl, rfl, ?_⟩
    ext
    · rfl
    · simpa using started
    · simp only [stopped, started, List.length_append]

/-- A string whatever its offsets. -/
def IsText (field : Bytes) (text : List Char) : Prop :=
  ∃ lengthField length, field = lengthField ++ utf8 text ∧ IsVarint lengthField length ∧
    length.toInt = (utf8 text).length

/-- A string is accepted if its text has at most so many UTF-16 units. The bound in bytes refuses
no such text, as a unit takes three bytes at most. -/
theorem readString_reads (maxUtf16Units : Nat) :
    FieldReads (5 + 2 ^ 31) (PacketCursor.readString maxUtf16Units)
      (fun _ field text => IsText field text ∧ utf16Units text ≤ maxUtf16Units) := by
  have chain : FieldReads (5 + 2 ^ 31 + 0) (PacketCursor.readString maxUtf16Units) _ :=
    (readStringWithRange_reads maxUtf16Units).bind fun read _ => Reads.pure read.1
  apply chain.congr
  intro before field text
  constructor
  · rintro ⟨_, _, ⟨text, start, stop⟩, rfl, ⟨⟨lengthField, length, rfl, varint, counted, _⟩,
      limited⟩, rfl, rfl⟩
    exact ⟨⟨lengthField, length, by simp, varint, counted⟩, limited⟩
  · rintro ⟨⟨lengthField, length, rfl, varint, counted⟩, limited⟩
    exact ⟨_, [], ⟨text, _, before.length + lengthField.length + (utf8 text).length⟩,
      (List.append_nil _).symm,
      ⟨⟨lengthField, length, rfl, varint, counted, rfl, rfl⟩, limited⟩, rfl, rfl⟩

/-- An array is the bytes themselves: the conversion from a slice of its length succeeds. -/
theorem readArray_reads (length : Nat) : FieldReads length (PacketCursor.readArray length)
    (fun _ field value => field.length = length ∧ value = field) := by
  have chain : FieldReads (length + 0) (PacketCursor.readArray length)
      (Followed (fun _ field value => field.length = length ∧ value = field)
        fun bytes => Silent fun _ returned => returned = bytes) :=
    (readBytes_reads length).bind fun bytes formed => by
      obtain ⟨_, _, counted, rfl⟩ := formed
      rw [if_pos counted]
      exact Reads.pure _
  apply chain.congr
  intro before field value
  constructor
  · rintro ⟨_, _, _, rfl, ⟨counted, rfl⟩, rfl, rfl⟩
    exact ⟨by simpa using counted, by simp⟩
  · rintro ⟨counted, rfl⟩
    exact ⟨value, [], value, by simp, ⟨counted, rfl⟩, rfl, rfl⟩

/-- `read_u16` takes two bytes, the higher first, and accepts any two. -/
theorem readU16_reads : FieldReads 2 PacketCursor.readU16
    (fun _ field value => ∃ high low : UInt8, field = [high, low] ∧
      value = UInt16.ofNat (high.toNat * 256 + low.toNat)) := by
  have chain : FieldReads (2 + 0) PacketCursor.readU16 _ :=
    (readArray_reads 2).bind fun bytes _ => Reads.pure (UInt16.ofNat (fromBeBytes bytes))
  apply chain.congr
  intro before field value
  constructor
  · rintro ⟨field, _, bytes, rfl, ⟨counted, same⟩, rfl, rfl⟩
    obtain ⟨high, low, rfl⟩ := List.length_eq_two.mp counted
    subst same
    exact ⟨high, low, rfl, by simp [fromBeBytes]⟩
  · rintro ⟨high, low, rfl, rfl⟩
    exact ⟨[high, low], [], [high, low], rfl, ⟨rfl, rfl⟩, rfl, by simp [fromBeBytes]⟩

/-- A boolean is one byte, zero or one; with any other byte the packet is refused. The byte is
read first and looked at after that. -/
theorem readBool_reads : FieldReads 1 PacketCursor.readBool
    (fun _ field value => field = [if value then 1 else 0]) := by
  have chain : FieldReads (1 + 0) PacketCursor.readBool
      (Followed (fun _ field value => field.length = 1 ∧ value = field)
        fun bytes => Silent fun _ returned => bytes = [if returned then 1 else 0]) :=
    (readArray_reads 1).bind fun bytes formed => by
      obtain ⟨_, _, counted, rfl⟩ := formed
      obtain ⟨byte, rfl⟩ := List.length_eq_one_iff.mp counted
      simp only [List.getElem?_cons_zero]
      by_cases zero : byte = 0
      · rw [if_pos zero, zero]
        exact (Reads.pure false).congr fun _ _ returned => by cases returned <;> simp [Silent]
      · rw [if_neg zero]
        by_cases one : byte = 1
        · rw [if_pos one, one]
          exact (Reads.pure true).congr fun _ _ returned => by cases returned <;> simp [Silent]
        · rw [if_neg one]
          exact (Reads.throw _).congr fun _ _ returned => by
            cases returned <;> simp [Silent, zero, one]
  apply chain.congr
  intro before field value
  constructor
  · rintro ⟨_, _, _, rfl, ⟨_, rfl⟩, rfl, rfl⟩
    simp
  · rintro rfl
    exact ⟨_, [], _, (List.append_nil _).symm, ⟨by simp, rfl⟩, rfl, rfl⟩

/-! ## Whole packets -/

/-- `ensure_finished` is content with a cursor at the end only. -/
theorem outcome_ensureFinished (before unread : Bytes) :
    outcome PacketCursor.ensureFinished ⟨before ++ unread, before.length⟩ =
      (if unread = [] then .ok () else .error (.failed .trailingData),
        ⟨before ++ unread, before.length⟩) := by
  have left : outcome PacketCursor.remaining ⟨before ++ unread, before.length⟩ =
      (.ok unread.length, ⟨before ++ unread, before.length⟩) := by
    simp [PacketCursor.remaining, outcome_bind]
  rw [PacketCursor.ensureFinished, outcome_bind_ok _ _ left, outcome_ensure]
  simp only [List.length_eq_zero_iff]

/-- A packet is accepted when its fields fill it. The final check leaves nothing unread, so the
bytes of the fields are the whole packet. -/
theorem whole_packet {α : Type} {budget : Nat} {fields : Reading α}
    {Form : Bytes → Bytes → α → Prop} (reads : FieldReads budget fields Form)
    (fits : budget < 2 ^ 64) (packet : Bytes) (value : α) :
    readPacketFields (fields >>= fun read => PacketCursor.ensureFinished >>= fun _ => pure read)
      packet = .ok value ↔ Form [] packet value := by
  have roomy : ([] : Bytes).length + budget < 2 ^ 64 := by simpa using fits
  constructor
  · intro accepted
    obtain ⟨later, whole⟩ : ∃ later, outcome (fields >>= fun read =>
        PacketCursor.ensureFinished >>= fun _ => pure read) (PacketCursor.new packet) =
          (.ok value, later) := ⟨_, Prod.ext accepted rfl⟩
    obtain ⟨read, between, readFields, finish⟩ := (outcome_bind_eq_ok _ _).mp whole
    have placed : CursorAt (PacketCursor.new packet) [] packet := rfl
    obtain ⟨field, rest, split, formed, placed⟩ := reads.sound roomy placed readFields
    cases placed
    rw [outcome_bind, outcome_ensureFinished] at finish
    by_cases ended : rest = []
    · simp only [ended, ↓reduceIte, outcome_pure, Prod.mk.injEq, Except.ok.injEq] at finish
      rw [split, ended, List.append_nil, ← finish.1]
      exact formed
    · simp [ended] at finish
  · intro formed
    have placed : CursorAt (PacketCursor.new packet) [] (packet ++ []) := by
      simp [CursorAt, PacketCursor.new]
    obtain ⟨later, readFields, placed⟩ := reads.complete roomy placed formed
    cases placed
    have finished := outcome_ensureFinished ([] ++ packet) []
    have whole := outcome_bind_ok fields
      (fun read => PacketCursor.ensureFinished >>= fun _ => pure read) readFields
    rw [outcome_bind_ok _ _ finished] at whole
    exact congrArg Prod.fst whole

end McServerNap
