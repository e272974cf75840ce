import CallAtlas.Script.ByteText

/-!
Names in messages. A name is put in quotes so that a shell would read it back, always or
only where it needs them; other texts are put in quotes with backslashes in them.
-/

namespace CallAtlas.Script.Utility

def controlLetter? (c : Char) : Option Char :=
  match c.toNat with
  | 7 => some 'a'
  | 8 => some 'b'
  | 9 => some 't'
  | 10 => some 'n'
  | 11 => some 'v'
  | 12 => some 'f'
  | 13 => some 'r'
  | _ => none

def isPrintable (c : Char) : Bool := 32 ≤ c.toNat && c.toNat < 127

def escapedChar (c : Char) : ByteText :=
  match controlLetter? c with
  | some letter => ['\\', letter]
  | none =>
      let digit := fun (place : Nat) => Char.ofNat ('0'.toNat + c.toNat / place % 8)
      ['\\', digit 64, digit 8, digit 1]

namespace ShellQuoting

def isHarmless (c : Char) : Bool :=
  c.isAlphanum || "%+,-./:]_@".toList.contains c

def needsQuotes (size place : Nat) (c : Char) : Bool :=
  if isHarmless c then false
  else if c = '\x7b' || c = '\x7d' then size = 1
  else if c = '#' || c = '~' then place = 0
  else true

def isPlain (size place : Nat) (c : Char) : Bool :=
  isHarmless c || c = ' ' || c = '\'' || (needsQuotes size place c && "\x7b\x7d#~".toList.contains c)

/-- A name between single quotes, with what cannot stand there in quotes of its own. -/
def body : Bool → ByteText → ByteText
  -- `escaping` tells that such quotes are open.
  | _, [] => []
  | escaping, c :: rest =>
      if c = '\'' then "'\\''".toList ++ body false rest
      else if isPrintable c then
        (if escaping then ['\'', '\''] else []) ++ c :: body false rest
      else (if escaping then [] else "'$'".toList) ++ escapedChar c ++ body true rest

end ShellQuoting

def quotedName (name : ByteText) : ByteText :=
  let indexed := name.zipIdx
  let isPlain := indexed.all fun (c, place) => ShellQuoting.isPlain name.length place c
  if name.contains '\'' && isPlain then '"' :: name ++ ['"']
  else '\'' :: ShellQuoting.body false name ++ ['\'']

def readableName (name : ByteText) : ByteText :=
  let needsQuotes := name.zipIdx.any fun (c, place) => ShellQuoting.needsQuotes name.length place c
  if name.isEmpty || needsQuotes then quotedName name else name

/-- A name as messages show it in front of what they say; a colon in it needs quotes too. -/
def shownName (name : ByteText) : ByteText :=
  if name.contains ':' then quotedName name else readableName name

def quotedText (text : ByteText) : ByteText :=
  let shown := text.flatMap fun c =>
    if c = '\'' || c = '\\' then ['\\', c]
    else if isPrintable c then [c]
    else escapedChar c
  '\'' :: shown ++ ['\'']

def quote (name : ByteText) : String := (quotedName name).toText

def bare (name : ByteText) : String := (shownName name).toText

def cite (text : ByteText) : String := (quotedText text).toText

end CallAtlas.Script.Utility
