import McServerNap.Fields

/-!
# The cursor stays inside its packet

Whatever is read, and whether it is read or refused, the cursor moves over some of the
bytes that were left. So every slice, array conversion and subtraction is in range, after
any sequence of operations. A value that is returned is the one spelled by exactly the
bytes that the cursor moved over.
-/

namespace McServerNap

open Encoding

/-! ## Readers that stay inside -/

/-- The reader moves over a field of what is left and does not panic. Its value, if it
returns one, is spelled by the field. -/
def StaysInside {α : Type} (reader : Reading α) (Spells : Bytes → Bytes → α → Prop) : Prop :=
  ∀ before unread, ∃ field rest result, unread = field ++ rest ∧
    outcome reader ⟨before ++ unread, before.length⟩ =
      (result, ⟨before ++ unread, before.length + field.length⟩) ∧
    result ≠ .error .panicked ∧ ∀ value, result = .ok value → Spells before field value

namespace StaysInside

variable {α β : Type} {reader : Reading α} {next : α → Reading β}
  {Spells Spells' : Bytes → Bytes → α → Prop} {Next : α → Bytes → Bytes → β → Prop}

/-- A reader that only looks at the cursor takes nothing. -/
theorem silent {holds : Bytes → α → Prop}
    (looks : ∀ before unread, ∃ result,
      outcome reader ⟨before ++ unread, before.length⟩ =
        (result, ⟨before ++ unread, before.length⟩) ∧
      result ≠ .error .panicked ∧ ∀ value, result = .ok value → holds before value) :
    StaysInside reader (Silent holds) := by
  intro before unread
  obtain ⟨result, read, calm, held⟩ := looks before unread
  exact ⟨[], unread, result, rfl, read, calm, fun value returned => ⟨rfl, held value returned⟩⟩

/-- Returning a value moves over nothing. -/
theorem pure (value : α) : StaysInside (pure value : Reading α)
    (Silent fun _ returned => returned = value) := by
  apply silent
  intro before unread
  exact ⟨.ok value, rfl, nofun, fun returned same => (Except.ok.inj same).symm⟩

/-- A check moves over nothing either, and holds if it is passed. -/
theorem ensured (condition : Prop) [Decidable condition] (error : ClientError) :
    StaysInside (ensure condition error) (Silent fun _ _ => condition) := by
  apply silent
  intro before unread
  refine ⟨_, outcome_ensure condition error _, ?_, fun value returned => ?_⟩
  · split <;> exact nofun
  · by_cases held : condition
    · exact held
    · rw [if_neg held] at returned
      cases returned

/-- One reader after the other moves over one field after the other. A failure of the first is
that of both; after a success the second starts where the first has stopped. -/
theorem bind (first : StaysInside reader Spells)
    (second : ∀ value, (∃ before field, Spells before field value) →
      StaysInside (next value) (Next value)) :
    StaysInside (reader >>= next) (Followed Spells Next) := by
  intro before unread
  obtain ⟨left, rest, result, rfl, read, calm, spelled⟩ := first before unread
  cases result with
  | error error =>
    refine ⟨left, rest, .error error, rfl, outcome_bind_error _ _ read, ?_, nofun⟩
    intro panicked
    cases panicked
    exact calm rfl
  | ok value =>
    have spells := spelled value rfl
    obtain ⟨right, rest, result, rfl, again, calm, following⟩ :=
      second value ⟨before, left, spells⟩ (before ++ left) rest
    simp only [List.append_assoc, List.length_append] at again
    refine ⟨left ++ right, rest, result, (List.append_assoc _ _ _).symm, ?_, calm,
      fun last returned => ⟨left, right, value, rfl, spells, following last returned⟩⟩
    rw [outcome_bind_ok _ _ read, again, List.length_append, Nat.add_assoc]

/-- What a field spells may be described less exactly. -/
theorem mono (inside : StaysInside reader Spells)
    (weaken : ∀ before field value, Spells before field value → Spells' before field value) :
    StaysInside reader Spells' := by
  intro before unread
  obtain ⟨field, rest, result, split, read, calm, spelled⟩ := inside before unread
  exact ⟨field, rest, result, split, read, calm,
    fun value returned => weaken before field value (spelled value returned)⟩

end StaysInside

namespace PacketCursor

/-- The offset that is returned is the number of bytes before the cursor. -/
theorem position_inside : StaysInside position (Silent fun before offset => offset = before.length) := by
  apply StaysInside.silent
  intro before unread
  exact ⟨.ok before.length, rfl, nofun, fun offset same => (Except.ok.inj same).symm⟩

/-- A VarInt is read over its own bytes. Where there is none the cursor stays. -/
theorem readVarint_inside : StaysInside readVarint fun _ field value => IsVarint field value := by
  intro before unread
  have read := outcome_readVarint before unread
  cases decoded : decodeVarint unread with
  | error error =>
    rw [decoded] at read
    exact ⟨[], unread, _, rfl, read, nofun, nofun⟩
  | ok result =>
    obtain ⟨value, length⟩ := result
    rw [decoded] at read
    obtain ⟨field, rest, rfl, rfl, varint⟩ := (decodeVarint_eq_ok _ _ _).mp decoded
    refine ⟨field, rest, .ok value, rfl, read, nofun, fun returned same => ?_⟩
    obtain rfl := Except.ok.inj same
    exact varint

/-- Any number of bytes may be asked for. Where they are refused, the cursor stays. -/
theorem outcome_readBytes_any (length : Nat) (before unread : Bytes) :
    (∃ error, outcome (readBytes length) ⟨before ++ unread, before.length⟩ =
      (.error (.failed error), ⟨before ++ unread, before.length⟩)) ∨
    length ≤ unread.length ∧ outcome (readBytes length) ⟨before ++ unread, before.length⟩ =
      (.ok (unread.take length), ⟨before ++ unread, before.length + length⟩) := by
  by_cases roomy : before.length + length < 2 ^ 64
  · rw [outcome_readBytes length before unread roomy]
    by_cases enough : length ≤ unread.length
    · rw [if_pos enough]
      exact .inr ⟨enough, rfl⟩
    · rw [if_neg enough]
      exact .inl ⟨_, rfl⟩
  · refine .inl ⟨.packetOffsetOverflow, ?_⟩
    simp only [readBytes, outcome_bind, outcome_get, usizeCheckedAdd, if_neg roomy, outcome_throw]

/-- As many bytes as were asked for are moved over, or none. -/
theorem readBytes_inside (length : Nat) :
    StaysInside (readBytes length) fun _ field value => field.length = length ∧ value = field := by
  intro before unread
  rcases outcome_readBytes_any length before unread with ⟨error, refused⟩ | ⟨enough, read⟩
  · exact ⟨[], unread, _, rfl, refused, nofun, nofun⟩
  · have counted : (unread.take length).length = length := List.length_take_of_le enough
    refine ⟨unread.take length, unread.drop length, .ok (unread.take length),
      (List.take_append_drop _ _).symm, ?_, nofun,
      fun value same => ⟨counted, (Except.ok.inj same).symm⟩⟩
    rw [read, counted]

/-- A length is only looked at, and a negative one is refused. -/
theorem stringLength_inside (byteLength : Int32) : StaysInside (stringLength byteLength)
    (Silent fun _ length => 0 ≤ byteLength.toInt ∧ length = byteLength.toInt.toNat) := by
  apply StaysInside.silent
  intro before unread
  simp only [stringLength, outcome_bind, outcome_ensure]
  by_cases nonnegative : 0 ≤ byteLength.toInt
  · have other : ¬ byteLength.toInt < 0 := by omega
    rw [if_pos nonnegative]
    simp only [if_neg other]
    refine ⟨.ok byteLength.toInt.toNat, rfl, by simp, fun length same => ?_⟩
    exact ⟨nonnegative, (Except.ok.inj same).symm⟩
  · rw [if_neg nonnegative]
    exact ⟨_, rfl, by simp, by simp⟩

/-- Bytes are only looked at as text. -/
theorem readUtf8_inside (bytes : Bytes) :
    StaysInside (readUtf8 bytes) (Silent fun _ text => bytes = utf8 text) := by
  apply StaysInside.silent
  intro before unread
  unfold readUtf8
  cases decoded : fromUtf8 bytes with
  | none => exact ⟨_, rfl, nofun, nofun⟩
  | some text =>
    refine ⟨.ok text, rfl, nofun, fun returned same => ?_⟩
    exact Except.ok.inj same ▸ ((fromUtf8_eq_some bytes text).mp decoded)

/-- The range of a string lies between the end of its length and the end of its bytes, both inside
the packet. -/
theorem readUtf8StringRange_inside : StaysInside readUtf8StringRange
    fun before field range => ∃ text, IsString before field text range.1 range.2 := by
  have chain : StaysInside readUtf8StringRange _ :=
    readVarint_inside.bind fun byteLength _ => (stringLength_inside byteLength).bind fun length _ =>
      position_inside.bind fun start _ => (readBytes_inside length).bind fun bytes _ =>
      (readUtf8_inside bytes).bind fun _ _ => position_inside.bind fun stop _ => .pure (start, stop)
  apply chain.mono
  intro before field range
  simp only [silent_followed, Silent]
  rintro ⟨lengthField, _, length, rfl, varint, _, ⟨nonnegative, rfl⟩, _, rfl, bytes, _, _, rfl,
    ⟨counted, rfl⟩, text, rfl, _, rfl, rfl, rfl⟩
  exact ⟨text, lengthField, length, by simp, varint, by omega, by simp, by simp; omega⟩

/-- The limit is on the UTF-16 units of the text, and is checked after the bytes have been moved
over. -/
theorem readStringWithRange_inside (maxUtf16Units : Nat) :
    StaysInside (readStringWithRange maxUtf16Units) fun before field read =>
      IsString before field read.1 read.2.1 read.2.2 ∧ utf16Units read.1 ≤ maxUtf16Units := by
  have chain : StaysInside (readStringWithRange maxUtf16Units) _ :=
    readVarint_inside.bind fun byteLength _ => (stringLength_inside byteLength).bind fun length _ =>
      (StaysInside.ensured _ _).bind fun _ _ => position_inside.bind fun start _ =>
      (readBytes_inside length).bind fun bytes _ => (readUtf8_inside bytes).bind fun text _ =>
      (StaysInside.ensured _ _).bind fun _ _ => position_inside.bind fun stop _ =>
      .pure (text, start, stop)
  apply chain.mono
  intro before field read
  simp only [silent_followed, Silent]
  rintro ⟨lengthField, _, length, rfl, varint, _, ⟨nonnegative, rfl⟩, _, _, _, rfl, bytes, _, _,
    rfl, ⟨counted, rfl⟩, text, rfl, _, limited, _, rfl, rfl, rfl⟩
  have announced : length.toInt = ((utf8 text).length : Int) := by omega
  exact ⟨⟨lengthField, length, by simp, varint, announced, by simp, by simp; omega⟩, limited⟩

/-- A string without its range is the same field. -/
theorem readString_inside (maxUtf16Units : Nat) : StaysInside (readString maxUtf16Units)
    fun _ field text => IsText field text ∧ utf16Units text ≤ maxUtf16Units := by
  have chain : StaysInside (readString maxUtf16Units) _ :=
    (readStringWithRange_inside maxUtf16Units).bind fun read _ => .pure read.1
  apply chain.mono
  rintro before field text ⟨_, _, ⟨read, start, stop⟩, rfl,
    ⟨⟨lengthField, length, rfl, varint, counted, -⟩, limited⟩, rfl, rfl⟩
  exact ⟨⟨lengthField, length, by simp, varint, counted⟩, limited⟩

/-- A slice of the asked length converts to an array of it, so the conversion cannot fail. -/
theorem readArray_inside (length : Nat) :
    StaysInside (readArray length) fun _ field value => field.length = length ∧ value = field := by
  have chain : StaysInside (readArray length)
      (Followed (fun _ field value => field.length = length ∧ value = field)
        fun bytes => Silent fun _ returned => returned = bytes) :=
    (readBytes_inside length).bind fun bytes formed => by
      obtain ⟨_, _, counted, rfl⟩ := formed
      rw [if_pos counted]
      exact .pure _
  apply chain.mono
  rintro before field value ⟨_, _, _, rfl, ⟨counted, rfl⟩, rfl, rfl⟩
  exact ⟨by simpa using counted, by simp⟩

/-- Two bytes, most significant first. -/
theorem readU16_inside : StaysInside readU16 fun _ field value =>
    field.length = 2 ∧ value = UInt16.ofNat (fromBeBytes field) := by
  have chain : StaysInside readU16 _ :=
    (readArray_inside 2).bind fun bytes _ => .pure (UInt16.ofNat (fromBeBytes bytes))
  apply chain.mono
  rintro before field value ⟨_, _, _, rfl, ⟨counted, rfl⟩, rfl, rfl⟩
  exact ⟨by simpa using counted, by simp⟩

/-- Eight bytes, most significant first. -/
theorem readI64_inside : StaysInside readI64 fun _ field value =>
    field.length = 8 ∧ value = (UInt64.ofNat (fromBeBytes field)).toInt64 := by
  have chain : StaysInside readI64 _ :=
    (readArray_inside 8).bind fun bytes _ => .pure (UInt64.ofNat (fromBeBytes bytes)).toInt64
  apply chain.mono
  rintro before field value ⟨_, _, _, rfl, ⟨counted, rfl⟩, rfl, rfl⟩
  exact ⟨by simpa using counted, by simp⟩

/-- One byte, which has to be zero or one. It is moved over before it is looked at, so a byte of
any other value has been read when the reader fails. -/
theorem readBool_inside : StaysInside readBool fun _ field value =>
    field = [if value then 1 else 0] := by
  have chain : StaysInside readBool
      (Followed (fun _ field value => field.length = 1 ∧ value = field)
        fun bytes => Silent fun _ returned => bytes = [if returned then 1 else 0]) :=
    (readArray_inside 1).bind fun bytes formed => by
      obtain ⟨_, _, counted, rfl⟩ := formed
      obtain ⟨byte, rfl⟩ := List.length_eq_one_iff.mp counted
      simp only [List.getElem?_cons_zero]
      apply StaysInside.silent
      intro before unread
      by_cases zero : byte = 0
      · refine ⟨.ok false, by rw [if_pos zero]; rfl, nofun, fun value same => ?_⟩
        rw [← Except.ok.inj same, zero]
        rfl
      · by_cases one : byte = 1
        · refine ⟨.ok true, by rw [if_neg zero, if_pos one]; rfl, nofun, fun value same => ?_⟩
          rw [← Except.ok.inj same, one]
          rfl
        · exact ⟨.error (.failed (.invalidBoolean byte)), by rw [if_neg zero, if_neg one]; rfl,
            nofun, nofun⟩
  apply chain.mono
  rintro before field value ⟨_, _, _, rfl, ⟨_, rfl⟩, rfl, rfl⟩
  simp

/-- The subtraction is in range wherever the cursor is inside. -/
theorem outcome_remaining (before unread : Bytes) :
    outcome remaining ⟨before ++ unread, before.length⟩ =
      (.ok unread.length, ⟨before ++ unread, before.length⟩) := by
  have inside : before.length ≤ before.length + unread.length := Nat.le_add_right _ _
  unfold remaining
  simp only [outcome_bind, outcome_get, List.length_append, if_pos inside, outcome_pure,
    Nat.add_sub_cancel_left]

end PacketCursor

/-! ## Sequences of operations -/

/-- The operations that move a cursor. -/
inductive CursorOperation where
  | readVarint
  | readString (maxUtf16Units : Nat)
  | readUtf8StringRange
  | readU16
  | readBool
  | readI64
  | readBytes (length : Nat)
  deriving DecidableEq, Repr

namespace CursorOperation

/-- What the operation returns. -/
abbrev Value : CursorOperation → Type
  | readVarint => Int32
  | readString _ => List Char
  | readUtf8StringRange => Nat × Nat
  | readU16 => UInt16
  | readBool => Bool
  | readI64 => Int64
  | readBytes _ => Bytes

/-- The method of the cursor that an operation stands for. -/
def reader : (operation : CursorOperation) → Reading operation.Value
  | readVarint => PacketCursor.readVarint
  | readString maxUtf16Units => PacketCursor.readString maxUtf16Units
  | readUtf8StringRange => PacketCursor.readUtf8StringRange
  | readU16 => PacketCursor.readU16
  | readBool => PacketCursor.readBool
  | readI64 => PacketCursor.readI64
  | readBytes length => PacketCursor.readBytes length

/-- The value is the one that these bytes spell. The range of a string is counted from the
start of the packet, so it depends on how much stands before. -/
def Spells : (operation : CursorOperation) → (before field : Bytes) → operation.Value → Prop
  | readVarint, _, field, value => IsVarint field value
  | readString maxUtf16Units, _, field, text =>
    IsText field text ∧ utf16Units text ≤ maxUtf16Units
  | readUtf8StringRange, before, field, range =>
    ∃ text, IsString before field text range.1 range.2
  | readU16, _, field, value => field.length = 2 ∧ value = UInt16.ofNat (fromBeBytes field)
  | readBool, _, field, value => field = [if value then 1 else 0]
  | readI64, _, field, value =>
    field.length = 8 ∧ value = (UInt64.ofNat (fromBeBytes field)).toInt64
  | readBytes length, _, field, value => field.length = length ∧ value = field

/-- These operations take their bytes in one piece, or none. -/
def InOnePiece : CursorOperation → Prop
  | readBytes _ | readU16 | readI64 => True
  | readVarint | readString _ | readUtf8StringRange | readBool => False

/-- Every operation stays inside, each by the lemma about its reader. -/
theorem inside : (operation : CursorOperation) → StaysInside operation.reader operation.Spells
  | readVarint => PacketCursor.readVarint_inside
  | readString maxUtf16Units => PacketCursor.readString_inside maxUtf16Units
  | readUtf8StringRange => PacketCursor.readUtf8StringRange_inside
  | readU16 => PacketCursor.readU16_inside
  | readBool => PacketCursor.readBool_inside
  | readI64 => PacketCursor.readI64_inside
  | readBytes length => PacketCursor.readBytes_inside length

/-- What follows a refused read does not run, and a conversion after a granted one does not
fail. -/
theorem refused_readArray (length : Nat) {α : Type} (convert : Bytes → α) {before unread : Bytes}
    {error : Interruption} {later : PacketCursor}
    (failed : outcome (do return convert (← PacketCursor.readArray length))
      ⟨before ++ unread, before.length⟩ = (.error error, later)) :
    later = ⟨before ++ unread, before.length⟩ := by
  unfold PacketCursor.readArray at failed
  rcases PacketCursor.outcome_readBytes_any length before unread with
    ⟨cause, refused⟩ | ⟨enough, granted⟩
  · simp only [bind_assoc, outcome_bind_error _ _ refused, Prod.mk.injEq] at failed
    exact failed.2.symm
  · have counted : (unread.take length).length = length := List.length_take_of_le enough
    simp only [bind_assoc, outcome_bind_ok _ _ granted, if_pos counted, pure_bind, outcome_pure,
      Prod.mk.injEq, reduceCtorEq, false_and] at failed

/-- An operation in one piece leaves the cursor where it was when it fails. -/
theorem InOnePiece.stays {operation : CursorOperation} (whole : operation.InOnePiece)
    {before unread : Bytes} {error : Interruption} {later : PacketCursor}
    (failed : outcome operation.reader ⟨before ++ unread, before.length⟩ = (.error error, later)) :
    later = ⟨before ++ unread, before.length⟩ := by
  cases operation with
  | readBytes length =>
    rcases PacketCursor.outcome_readBytes_any length before unread with
      ⟨cause, refused⟩ | ⟨enough, granted⟩
    · exact (Prod.mk.inj (refused.symm.trans failed)).2.symm
    · cases granted.symm.trans failed
  | readU16 => exact refused_readArray 2 _ failed
  | readI64 => exact refused_readArray 8 _ failed
  | readVarint => exact absurd whole id
  | readString maxUtf16Units => exact absurd whole id
  | readUtf8StringRange => exact absurd whole id
  | readBool => exact absurd whole id

/-- Where an operation leaves the cursor, whether it returned a value or an error. -/
def moves (cursor : PacketCursor) (operation : CursorOperation) : PacketCursor :=
  (outcome operation.reader cursor).2

end CursorOperation

/-- The cursor after a sequence of operations that goes on after errors. -/
def PacketCursor.after (cursor : PacketCursor) (operations : List CursorOperation) :
    PacketCursor :=
  operations.foldl CursorOperation.moves cursor

/-- The cursor has moved over some of its packet and has the rest before it. -/
theorem PacketCursor.after_inside (operations : List CursorOperation) (before unread : Bytes) :
    ∃ moved left, unread = moved ++ left ∧
      PacketCursor.after ⟨before ++ unread, before.length⟩ operations =
        ⟨before ++ unread, before.length + moved.length⟩ := by
  induction operations generalizing before unread with
  | nil => exact ⟨[], unread, rfl, rfl⟩
  | cons operation operations inductionHypothesis =>
    obtain ⟨field, rest, result, rfl, read, -, -⟩ := operation.inside before unread
    obtain ⟨moved, left, rfl, moves⟩ := inductionHypothesis (before ++ field) rest
    refine ⟨field ++ moved, left, (List.append_assoc _ _ _).symm, ?_⟩
    simp only [List.append_assoc, List.length_append] at moves
    simp only [after, List.foldl_cons, CursorOperation.moves, read, List.length_append] at moves ⊢
    rw [moves, Nat.add_assoc]

/-- Whatever was read before, with or without errors, the cursor is inside its packet. The
next operation keeps it there and never moves it back, and nothing in it panics; the value
that it returns is the one spelled by exactly the bytes that it moved over. An operation that
takes its bytes in one piece leaves the cursor where it was when it fails, and the count of
what remains is in range. -/
theorem cursor_never_leaves_its_packet (packet : Bytes) (earlier : List CursorOperation)
    (operation : CursorOperation) :
    let cursor := (PacketCursor.new packet).after earlier
    let result := (outcome operation.reader cursor).1
    let later := (outcome operation.reader cursor).2
    (cursor.packet = packet ∧ later.packet = packet) ∧
      (cursor.offset ≤ later.offset ∧ later.offset ≤ packet.length) ∧
      result ≠ .error .panicked ∧
      (∀ value, result = .ok value → operation.Spells (packet.take cursor.offset)
        ((packet.drop cursor.offset).take (later.offset - cursor.offset)) value) ∧
      (operation.InOnePiece → ∀ error, result = .error error → later = cursor) ∧
      outcome PacketCursor.remaining cursor = (.ok (packet.length - cursor.offset), cursor) := by
  obtain ⟨before, unread, rfl, stands⟩ := PacketCursor.after_inside earlier [] packet
  simp only [List.nil_append, List.length_nil, Nat.zero_add] at stands
  obtain ⟨field, rest, result, rfl, read, calm, spelled⟩ := operation.inside before unread
  simp only [PacketCursor.new, stands, read, PacketCursor.outcome_remaining]
  refine ⟨⟨trivial, trivial⟩, ⟨by omega, by simp⟩, calm, ?_, ?_, ?_⟩
  · intro value returned
    simpa using spelled value returned
  · intro whole error failed
    subst failed
    exact whole.stays read
  · simp

end McServerNap
