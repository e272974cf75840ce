/-!
Reading bytes as text whatever they are. Bytes that do not form UTF-8 are read as
the replacement character, one for each longest front of a character that the
bytes cut short and one for each byte that can start none.
-/

namespace CallAtlas.Text

def replacement : Char := '�'

def continuation (first : UInt8) : Option (Nat × UInt8 × UInt8) :=
  if 0xC2 ≤ first && first ≤ 0xDF then some (1, 0x80, 0xBF)
  else if first = 0xE0 then some (2, 0xA0, 0xBF)
  else if first = 0xED then some (2, 0x80, 0x9F)
  else if 0xE1 ≤ first && first ≤ 0xEF then some (2, 0x80, 0xBF)
  else if first = 0xF0 then some (3, 0x90, 0xBF)
  else if first = 0xF4 then some (3, 0x80, 0x8F)
  else if 0xF1 ≤ first && first ≤ 0xF3 then some (3, 0x80, 0xBF)
  else none

/-- A character begun: the bytes it still needs, the bounds of the next one and its value. -/
structure Begun where
  missing : Nat
  least : UInt8
  most : UInt8
  value : Nat

def beginChar (byte : UInt8) : List Char × Option Begun :=
  if byte < 0x80 then ([Char.ofNat byte.toNat], none)
  else
    match continuation byte with
    | none => ([replacement], none)
    | some (missing, least, most) =>
        ([], some ⟨missing, least, most, byte.toNat % Nat.pow 2 (6 - missing)⟩)

def decodeLossyFrom : Option Begun → List UInt8 → List Char
  | none, [] => []
  | some _, [] => [replacement]
  | none, byte :: rest =>
      let (chars, begun) := beginChar byte
      chars ++ decodeLossyFrom begun rest
  | some begun, byte :: rest =>
      if begun.least ≤ byte && byte ≤ begun.most then
        let value := begun.value * 64 + byte.toNat % 64
        if begun.missing = 1 then Char.ofNat value :: decodeLossyFrom none rest
        else decodeLossyFrom (some ⟨begun.missing - 1, 0x80, 0xBF, value⟩) rest
      else
        let (chars, next) := beginChar byte
        replacement :: chars ++ decodeLossyFrom next rest

def decodeLossy (bytes : ByteArray) : List Char :=
  decodeLossyFrom none bytes.toList

end CallAtlas.Text
