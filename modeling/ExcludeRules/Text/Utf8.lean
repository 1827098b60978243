/-
Reading UTF-8, with the place and kind of the first fault.

A file is read in chunks of 8192 bytes.  What a chunk leaves of an unfinished
sequence is put in front of the next one, and a fault is placed by its offset in
that piece; a sequence that the end of the file cuts off is therefore placed in
the piece that holds nothing else.  Of a chunk with a fault no character is read, while
those of the chunks in front of it can be used before the fault is met.  Main statements:
  * `decodeStep_eq_ascii` : a byte below 0x80 stands for the character of that code;
  * `scan_of_decode` : a file without a fault is read to its end.
-/

namespace ExcludeRules.Text

/-- Why bytes are not UTF-8. -/
inductive Utf8Cause
  | invalidStart
  | invalidContinuation
  | unexpectedEnd
  deriving DecidableEq, Repr

/-- The first fault of a piece: its offset, the bytes that are refused and the cause. -/
structure Utf8Fault where
  offset : Nat
  bytes : List UInt8
  cause : Utf8Cause
  deriving DecidableEq, Repr

namespace Utf8

/-- What the bytes at the start of a piece are. -/
inductive Step
  /-- A character, and the number of its bytes after the first. -/
  | char (c : Char) (more : Nat)
  /-- The start of a sequence that the piece does not finish. -/
  | unfinished
  | invalid (count : Nat) (cause : Utf8Cause)

def isContinuation (b : UInt8) : Bool := 0x80 ≤ b && b < 0xC0

/-- The six payload bits of a continuation byte. -/
def payload (b : UInt8) : Nat := b.toNat % 64

/--
Reads the sequence that the byte `b` starts.  The bounds on the second byte
refuse overlong forms, surrogates and code points above U+10FFFF; at a fault the
bytes that would start a sequence are counted.
-/
def decodeStep (b : UInt8) (rest : List UInt8) : Step :=
  if b < 0x80 then .char (Char.ofNat b.toNat) 0
  else if b < 0xC2 then .invalid 1 .invalidStart
  else if b < 0xE0 then
    match rest with
    | [] => .unfinished
    | b₁ :: _ =>
      if isContinuation b₁ then .char (Char.ofNat (b.toNat % 32 * 64 + payload b₁)) 1
      else .invalid 1 .invalidContinuation
  else if b < 0xF0 then
    let inRange (b₁ : UInt8) : Bool :=
      isContinuation b₁ && (b != 0xE0 || 0xA0 ≤ b₁) && (b != 0xED || b₁ < 0xA0)
    match rest with
    | [] => .unfinished
    | b₁ :: rest =>
      if !inRange b₁ then .invalid 1 .invalidContinuation
      else match rest with
        | [] => .unfinished
        | b₂ :: _ =>
          if isContinuation b₂ then
            .char (Char.ofNat ((b.toNat % 16 * 64 + payload b₁) * 64 + payload b₂)) 2
          else .invalid 2 .invalidContinuation
  else if b < 0xF5 then
    let inRange (b₁ : UInt8) : Bool :=
      isContinuation b₁ && (b != 0xF0 || 0x90 ≤ b₁) && (b != 0xF4 || b₁ < 0x90)
    match rest with
    | [] => .unfinished
    | b₁ :: rest =>
      if !inRange b₁ then .invalid 1 .invalidContinuation
      else match rest with
        | [] => .unfinished
        | b₂ :: rest =>
          if !isContinuation b₂ then .invalid 2 .invalidContinuation
          else match rest with
            | [] => .unfinished
            | b₃ :: _ =>
              if isContinuation b₃ then
                .char (Char.ofNat
                  (((b.toNat % 8 * 64 + payload b₁) * 64 + payload b₂) * 64 + payload b₃)) 3
              else .invalid 3 .invalidContinuation
  else .invalid 1 .invalidStart

/--
Reads a piece from `offset` on, the first `skip` bytes belonging to the character
just read.  Returns the characters, reversed onto `done`, and an unfinished rest.
-/
def decodePiece (done : List Char) (offset : Nat) :
    Nat → List UInt8 → Except Utf8Fault (List Char × List UInt8)
  | _, [] => .ok (done, [])
  | skip + 1, _ :: bytes => decodePiece done (offset + 1) skip bytes
  | 0, b :: bytes =>
    match decodeStep b bytes with
    | .char c more => decodePiece (c :: done) (offset + 1) more bytes
    | .unfinished => .ok (done, b :: bytes)
    | .invalid count cause => .error ⟨offset, (b :: bytes).take count, cause⟩

/-- The number of bytes that are read at once. -/
def chunkSize : Nat := 8192

/-- Reads chunk after chunk; `pending` is what the last chunk left unfinished.  Returns the
characters of the chunks in front of a fault, and the fault. -/
def scanChunks (done : List Char) (pending : List UInt8) :
    List (List UInt8) → List Char × Option Utf8Fault
  | [] => (done.reverse, if pending.isEmpty then none else some ⟨0, pending, .unexpectedEnd⟩)
  | chunk :: chunks =>
    match decodePiece done 0 0 (pending ++ chunk) with
    | .ok (done, pending) => scanChunks done pending chunks
    | .error fault => (done.reverse, some fault)

/-- Cuts bytes into chunks, at most `count` of them. -/
def chunksOf (count : Nat) (bytes : List UInt8) : List (List UInt8) :=
  match count with
  | 0 => []
  | count + 1 =>
    if bytes.isEmpty then [] else bytes.take chunkSize :: chunksOf count (bytes.drop chunkSize)

/-- The text of a file as far as it can be read, and what ends it before the file does. -/
def scan (bytes : List UInt8) : List Char × Option Utf8Fault :=
  scanChunks [] [] (chunksOf (bytes.length / chunkSize + 1) bytes)

/-- The text of a file. -/
def decode (bytes : List UInt8) : Except Utf8Fault (List Char) :=
  match scan bytes with
  | (text, none) => .ok text
  | (_, some fault) => .error fault

/-- The characters of bytes that may be no text, the first `skip` bytes belonging to the
character just read; a private character stands for each byte that belongs to none. -/
def readAnyhow : (skip : Nat) → List UInt8 → List Char
  | _, [] => []
  | skip + 1, _ :: bytes => readAnyhow skip bytes
  | 0, b :: bytes =>
    match decodeStep b bytes with
    | .char c more => c :: readAnyhow more bytes
    | _ => Char.ofNat (0x10DC00 + b.toNat) :: readAnyhow 0 bytes

/-- The name of a file that bytes stand for. -/
def nameOf (bytes : List UInt8) : String := String.ofList (readAnyhow 0 bytes)

theorem decodeStep_eq_ascii {b : UInt8} (h : b < 0x80) (rest : List UInt8) :
    decodeStep b rest = .char (Char.ofNat b.toNat) 0 := by
  simp [decodeStep, h]

theorem scan_of_decode {bytes : List UInt8} {text : List Char} (h : decode bytes = .ok text) :
    scan bytes = (text, none) := by
  unfold decode at h
  split at h
  · rename_i hscan
    cases h
    exact hscan
  · cases h

end Utf8

namespace Utf8Fault

def reason : Utf8Cause → String
  | .invalidStart => "invalid start byte"
  | .invalidContinuation => "invalid continuation byte"
  | .unexpectedEnd => "unexpected end of data"

/-- The message: which byte or bytes, where, and why. -/
def message (fault : Utf8Fault) : String :=
  let where_ :=
    match fault.bytes with
    | [b] => "byte 0x" ++ String.ofList [Nat.digitChar (b.toNat / 16), Nat.digitChar (b.toNat % 16)]
        ++ " in position " ++ toString fault.offset
    | bytes => "bytes in position " ++ toString fault.offset ++ "-"
        ++ toString (fault.offset + bytes.length - 1)
  "'utf-8' codec can't decode " ++ where_ ++ ": " ++ reason fault.cause

end Utf8Fault

end ExcludeRules.Text
