/-
Module: ChatRobots.Text.Utf8
Purpose: Texts as UTF-8 bytes, and bytes as texts.
Main exports: encodeUtf8, decodeUtf8?, decodeUtf8Lossy, utf8Fault?
-/

namespace ChatRobots.Text

/-!
A character is written as a lead byte and up to three more.  The lead byte fixes their number and,
to keep out overlong forms, surrogates and numbers beyond the last character, the range of the
first of them; the others range over `80..BF`.

Bytes are read in two ways.  The strict reading takes nothing but well-formed UTF-8.  The lossy
one puts a replacement character in the place of each ill-formed stretch: the longest beginning of
a character that is there, or one byte when it begins none.
-/

/-- The bytes of a text. -/
def encodeUtf8 (text : String) : List UInt8 :=
  text.toList.flatMap String.utf8EncodeChar

/-- What a lead byte announces: how many bytes follow, the bits that it holds, and the range of
the first byte after it. -/
structure Lead where
  more : Nat
  bits : Nat
  low : Nat
  high : Nat

/-- Read a lead byte beyond ASCII. -/
def Lead.ofByte? (byte : UInt8) : Option Lead :=
  let b := byte.toNat
  if b < 0xc2 then none
  else if b < 0xe0 then some ⟨1, b - 0xc0, 0x80, 0xbf⟩
  else if b = 0xe0 then some ⟨2, 0, 0xa0, 0xbf⟩
  else if b = 0xed then some ⟨2, 0xd, 0x80, 0x9f⟩
  else if b < 0xf0 then some ⟨2, b - 0xe0, 0x80, 0xbf⟩
  else if b = 0xf0 then some ⟨3, 0, 0x90, 0xbf⟩
  else if b < 0xf4 then some ⟨3, b - 0xf0, 0x80, 0xbf⟩
  else if b = 0xf4 then some ⟨3, 4, 0x80, 0x8f⟩
  else none

/-- Read the bytes after a lead byte: the character, if they are all there, and the rest. -/
def readTail : Nat → Nat → Nat → Nat → List UInt8 → Option Char × List UInt8
  | 0, bits, _, _, rest => (some (Char.ofNat bits), rest)
  | _ + 1, _, _, _, [] => (none, [])
  | more + 1, bits, low, high, byte :: rest =>
      if low ≤ byte.toNat ∧ byte.toNat ≤ high then
        readTail more (bits * 64 + (byte.toNat - 0x80)) 0x80 0xbf rest
      else (none, byte :: rest)

/-- Read the first character, or the first ill-formed stretch, of bytes that begin with this one. -/
def readChar (byte : UInt8) (rest : List UInt8) : Option Char × List UInt8 :=
  if byte.toNat < 0x80 then (some (Char.ofNat byte.toNat), rest)
  else match Lead.ofByte? byte with
    | none => (none, rest)
    | some lead => readTail lead.more lead.bits lead.low lead.high rest

theorem length_readTail_le (more bits low high : Nat) (bytes : List UInt8) :
    (readTail more bits low high bytes).2.length ≤ bytes.length := by
  fun_induction readTail more bits low high bytes <;> simp_all; omega

theorem length_readChar_le (byte : UInt8) (rest : List UInt8) :
    (readChar byte rest).2.length ≤ rest.length := by
  unfold readChar
  split
  · simp
  · split
    · simp
    · exact length_readTail_le ..

/-- Read bytes as a text, with a replacement character for each ill-formed stretch. -/
def decodeUtf8Lossy : List UInt8 → List Char
  | [] => []
  | byte :: rest =>
      (readChar byte rest).1.getD '\ufffd' :: decodeUtf8Lossy (readChar byte rest).2
termination_by bytes => bytes.length
decreasing_by
  have := length_readChar_le byte rest
  simp only [List.length_cons]
  omega

/-- Read bytes as a text, unless they are ill-formed somewhere. -/
def decodeUtf8? : List UInt8 → Option (List Char)
  | [] => some []
  | byte :: rest =>
      match (readChar byte rest).1 with
      | none => none
      | some c => (decodeUtf8? (readChar byte rest).2).map (c :: ·)
termination_by bytes => bytes.length
decreasing_by
  have := length_readChar_le byte rest
  simp only [List.length_cons]
  omega

/-- Where bytes stop being well-formed. -/
structure Utf8Fault where
  /-- How many bytes come before. -/
  index : Nat
  /-- How long the ill-formed stretch is; none when the bytes end within a character. -/
  length? : Option Nat
deriving DecidableEq, Repr

/-- The first fault of bytes that others come before. -/
def utf8FaultFrom? (index : Nat) : List UInt8 → Option Utf8Fault
  | [] => none
  | byte :: rest =>
      let after := (readChar byte rest).2
      let length := 1 + (rest.length - after.length)
      match (readChar byte rest).1 with
      | some _ => utf8FaultFrom? (index + length) after
      | none =>
          if after.isEmpty && (Lead.ofByte? byte).isSome then some ⟨index, none⟩
          else some ⟨index, some length⟩
termination_by bytes => bytes.length
decreasing_by
  have := length_readChar_le byte rest
  simp only [List.length_cons]
  omega

/-- The first fault of bytes, if they are ill-formed somewhere. -/
def utf8Fault? (bytes : List UInt8) : Option Utf8Fault :=
  utf8FaultFrom? 0 bytes

end ChatRobots.Text
