import LineScan.Text.Break

/-!
# Input streams

An input stream is a sequence of bytes that is read in chunks of a fixed size and decoded as UTF-8,
chunk by chunk. Its lines are handed out as soon as they are complete, so a stream that breaks off
has still given the lines before.

## Shape of a run

The decoder is a machine that takes one byte at a time (`Decoder.step`) and is carried over from
chunk to chunk, because a character may be divided between two of them. Bytes that are no text make
their whole chunk unreadable, and the stream breaks off at the end of the chunk before. A stream
that ends inside a character breaks off as well, but not before all of it has been read.
-/

namespace LineScan.Text

/-! ## UTF-8 -/

/-- Where the decoder stands between two bytes. -/
inductive Decoder where
  /-- Between characters. -/
  | start
  /-- Inside a character: `owed` bytes are missing, the next of them lies from `low` to `high`, and
  `value` is the number that the bits so far make. -/
  | inside (value owed low high : Nat)
  /-- After two bytes that begin a surrogate. No byte can follow. -/
  | stuck
  /-- After a byte that cannot be. -/
  | refused
  deriving DecidableEq, Repr

namespace Decoder

/-- Take the first byte of a character. -/
def first (b : Nat) : Decoder × Option Char :=
  if b < 0x80 then (.start, some (Char.ofNat b))
  else if 0xc2 ≤ b && b ≤ 0xdf then (.inside (b - 0xc0) 1 0x80 0xbf, none)
  else if 0xe0 ≤ b && b ≤ 0xef then
    (.inside (b - 0xe0) 2 (if b = 0xe0 then 0xa0 else 0x80) 0xbf, none)
  else if 0xf0 ≤ b && b ≤ 0xf4 then
    (.inside (b - 0xf0) 3 (if b = 0xf0 then 0x90 else 0x80) (if b = 0xf4 then 0x8f else 0xbf), none)
  else (.refused, none)

/-- The bits so far are those of a surrogate, whose last byte is owed. -/
def isSurrogate (value owed : Nat) : Bool := owed == 1 && 0x360 ≤ value && value ≤ 0x37f

/-- Take one byte; the answer is the character that it completes. -/
def step : Decoder → Nat → Decoder × Option Char
  | .start, b => first b
  | .inside value owed low high, b =>
    if b < low || high < b then (.refused, none)
    else
      let value := value * 64 + (b - 0x80)
      if owed ≤ 1 then (.start, some (Char.ofNat value))
      else if isSurrogate value (owed - 1) then (.stuck, none)
      else (.inside value (owed - 1) 0x80 0xbf, none)
  | .stuck, _ => (.refused, none)
  | .refused, _ => (.refused, none)

/-- Take some bytes; the answer is the text that they complete. -/
def run (d : Decoder) : List UInt8 → Decoder × List Char
  | [] => (d, [])
  | b :: rest =>
    let (d, c) := d.step b.toNat
    let (d, text) := run d rest
    (d, c.toList ++ text)

end Decoder

/-! ## Lines -/

/-- What can be read of an input stream. -/
structure Stream where
  /-- The lines that it gives, each with its line feed. -/
  lines : List Line
  /-- The stream breaks off after these lines. -/
  broken : Bool := false

namespace Stream

/-- The stream of a whole text. -/
def ofText (text : List Char) : Stream where
  lines := streamLines text

/-- A text without a carriage return at its end, which a line feed might follow. -/
def withoutOpenReturn (text : List Char) : List Char :=
  if text.getLast? = some '\r' then text.dropLast else text

/-- The stream that breaks off after a text: only its complete lines are given. -/
def ofBrokenText (text : List Char) : Stream where
  lines := (streamLines (withoutOpenReturn text)).filter fun line => line.getLast? = some '\n'
  broken := true

/-- Read chunks, after the text of those before. -/
def read (d : Decoder) (text : List Char) : List (List UInt8) → Stream
  | [] => if d = .start then ofText text else ofBrokenText text
  | chunk :: rest =>
    match d.run chunk with
    | (.refused, _) => ofBrokenText text
    | (d, more) => read d (text ++ more) rest

/-- The size of a chunk in bytes. -/
def chunkSize : Nat := 8192

/-- The chunks of an input. -/
def chunks (input : ByteArray) : List (List UInt8) :=
  (List.range ((input.size + chunkSize - 1) / chunkSize)).map fun i =>
    (input.extract (i * chunkSize) ((i + 1) * chunkSize)).toList

/-- The stream of an input. -/
def ofBytes (input : ByteArray) : Stream := read .start [] (chunks input)

end Stream

end LineScan.Text
