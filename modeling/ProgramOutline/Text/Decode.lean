/-!
# Decoding bytes

Bytes are decoded as UTF-8. Where they are not well formed, each longest start of a character that
cannot be continued, or else a single byte, is replaced by U+FFFD. The decoder is a machine that
takes one byte at a time, so decoding can be followed through any cut of the bytes.
-/

namespace ProgramOutline.Text

/-- The replacement character. -/
def replacement : Char := Char.ofNat 0xFFFD

/-- The state between two bytes of a text. -/
inductive Pending where
  /-- Between two characters. -/
  | none
  /-- Inside of a character: `value` holds the bits so far, `more` bytes are to follow, and the
      next one must be from `low` to `high`. -/
  | inside (value more : Nat) (low high : UInt8)
  deriving DecidableEq

/-- What a byte that starts a character leads to: a character or a state. -/
def firstByte (b : UInt8) : List Char × Pending :=
  if b < 0x80 then ([Char.ofNat b.toNat], .none)
  else if b < 0xC2 then ([replacement], .none)
  else if b < 0xE0 then ([], .inside (b.toNat % 32) 1 0x80 0xBF)
  else if b = 0xE0 then ([], .inside 0 2 0xA0 0xBF)
  else if b = 0xED then ([], .inside 13 2 0x80 0x9F)
  else if b < 0xF0 then ([], .inside (b.toNat % 16) 2 0x80 0xBF)
  else if b = 0xF0 then ([], .inside 0 3 0x90 0xBF)
  else if b < 0xF4 then ([], .inside (b.toNat % 8) 3 0x80 0xBF)
  else if b = 0xF4 then ([], .inside 4 3 0x80 0x8F)
  else ([replacement], .none)

/-- One step: the characters that a byte completes, and the state after it. -/
def decodeStep (pending : Pending) (b : UInt8) : List Char × Pending :=
  match pending with
  | .none => firstByte b
  | .inside value more low high =>
    if low ≤ b ∧ b ≤ high then
      let value := value * 64 + b.toNat % 64
      if more ≤ 1 then ([Char.ofNat value], .none) else ([], .inside value (more - 1) 0x80 0xBF)
    else
      let (chars, next) := firstByte b
      (replacement :: chars, next)

/-- The characters still owed at the end of the bytes. -/
def decodeEnd : Pending → List Char
  | .none => []
  | .inside _ _ _ _ => [replacement]

/-- The characters that bytes stand for, from a state on. -/
def decodeFrom (pending : Pending) : List UInt8 → List Char
  | [] => decodeEnd pending
  | b :: rest =>
    let (chars, next) := decodeStep pending b
    chars ++ decodeFrom next rest

/-- Bytes as text, with replacements for what is not well formed. -/
def decodeLossy (bytes : List UInt8) : List Char := decodeFrom .none bytes

/-- The bytes after a byte order mark, if they start with one. -/
def dropMark : List UInt8 → List UInt8
  | 0xEF :: 0xBB :: 0xBF :: rest => rest
  | bytes => bytes

/-- The text of a source file. -/
def decodeSource (bytes : List UInt8) : List Char := decodeLossy (dropMark bytes)

/-- The text of bytes that are well formed, or nothing. -/
def decodeStrictFrom (pending : Pending) : List UInt8 → Option (List Char)
  | [] => if pending = .none then some [] else none
  | b :: rest =>
    match pending, decodeStep pending b with
    | .none, (chars, next) =>
      if chars = [replacement] then none
      else (decodeStrictFrom next rest).map (chars ++ ·)
    | .inside _ _ low high, (chars, next) =>
      if low ≤ b ∧ b ≤ high then (decodeStrictFrom next rest).map (chars ++ ·) else none

/-- The text of bytes that are well formed UTF-8. -/
def decodeStrict? (bytes : List UInt8) : Option (List Char) := decodeStrictFrom .none bytes

end ProgramOutline.Text
