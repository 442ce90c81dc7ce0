import TrackSieve.Text.Hex
import TrackSieve.Text.Hidden

/-!
# Quoted bytes

Bytes that may not be text are shown between quotes. Where a character is encoded in UTF-8 it is
shown as itself or, if it would be misread, as an escape; any other byte is shown by its value.
-/

namespace TrackSieve.Text

/-- A character as it stands between quotes. -/
def quotedChar (c : Char) : List Char :=
  if c = '"' then ['\\', '"']
  else if c = '\\' then ['\\', '\\']
  else if c = '\n' then ['\\', 'n']
  else if c = '\t' then ['\\', 't']
  else if c = '\r' then ['\\', 'r']
  else if c = '\x00' then ['\\', '0']
  else if isHidden c then ['\\', 'u', '\x7b'] ++ hexChars c.toNat ++ ['\x7d']
  else [c]

/-- A byte that belongs to no character, as it stands between quotes. -/
def quotedByte (b : UInt8) : List Char :=
  ['\\', 'x'] ++ if b < 16 then '0' :: (hexChars b.toNat).map Char.toUpper
    else (hexChars b.toNat).map Char.toUpper

/-- The characters that show the bytes from a position on. -/
def quotedFrom (bytes : ByteArray) (i : Nat) : List Char :=
  if h : i < bytes.size then
    match bytes.utf8DecodeChar? i with
    | some c => quotedChar c ++ quotedFrom bytes (i + c.utf8Size)
    | none => quotedByte bytes[i] ++ quotedFrom bytes (i + 1)
  else []
termination_by bytes.size - i
decreasing_by
  · have := c.utf8Size_pos; omega
  · omega

/-- Bytes between quotes. -/
def quoted (bytes : ByteArray) : String :=
  String.ofList ('"' :: quotedFrom bytes 0 ++ ['"'])

end TrackSieve.Text
