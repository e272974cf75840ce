import CallAtlas.Path.Basic
import CallAtlas.Text.Lossy

/-!
Texts of bytes. Scripts and what programs pass to each other are bytes that need not
be UTF-8, so each character of such a text stands for the byte of its number.
-/

namespace CallAtlas.Script

abbrev ByteText := List Char

namespace ByteText

def ofBytes (bytes : ByteArray) : ByteText :=
  bytes.toList.map fun byte => Char.ofNat byte.toNat

def toBytes (text : ByteText) : ByteArray :=
  ⟨(text.map fun c => c.toNat.toUInt8).toArray⟩

def ofString (text : String) : ByteText :=
  ofBytes text.toUTF8

/-- The text that bytes are as UTF-8; bytes that are none are replaced. -/
def toText (text : ByteText) : String :=
  if text.all (·.toNat < 0x80) then String.ofList text
  else String.ofList (Text.decodeLossy (toBytes text))

def toPath (text : ByteText) : Path := ⟨text.toText⟩

def split (separator : Char) : ByteText → List ByteText
  | [] => [[]]
  | c :: rest =>
      if c = separator then [] :: split separator rest
      else
        match split separator rest with
        | [] => [[c]]
        | first :: more => (c :: first) :: more

def join (separator : ByteText) : List ByteText → ByteText
  | [] => []
  | [last] => last
  | first :: rest => first ++ separator ++ join separator rest

/-- The lines of a text without their ends; a last line may lack its end. -/
def lines (text : ByteText) : List ByteText :=
  let parts := split '\n' text
  if parts.getLast? = some [] then parts.dropLast else parts

def unlines (lines : List ByteText) : ByteText :=
  lines.flatMap (· ++ ['\n'])

end ByteText

def isNameChar (c : Char) : Bool := c.isAlphanum || c = '_'

def isNameStart (c : Char) : Bool := c.isAlpha || c = '_'

def isName : ByteText → Bool
  | [] => false
  | c :: rest => isNameStart c && rest.all isNameChar

end CallAtlas.Script
