/-!
Values of the JSON data format, as far as reports need them, and their indented
text: two blanks to a level, members in the order of the value, nothing between
the brackets of an empty array or object. Characters above the control characters
stand for themselves.
-/

namespace CallAtlas

inductive Json where
  | number (value : Nat)
  | string (text : String)
  | array (items : List Json)
  | object (members : List (String × Json))

namespace Json

def hexDigit (n : Nat) : Char :=
  (Nat.toDigits 16 n).headD '0'

def escapeChar (c : Char) : List Char :=
  if c = '"' then ['\\', '"']
  else if c = '\\' then ['\\', '\\']
  else if c = '\n' then ['\\', 'n']
  else if c = '\r' then ['\\', 'r']
  else if c = '\t' then ['\\', 't']
  else if c.toNat = 8 then ['\\', 'b']
  else if c.toNat = 12 then ['\\', 'f']
  else if c.toNat < 32 then
    ['\\', 'u', '0', '0', hexDigit (c.toNat / 16), hexDigit (c.toNat % 16)]
  else [c]

def quoted (text : String) : String :=
  "\"" ++ String.ofList (text.toList.flatMap escapeChar) ++ "\""

def indent (depth : Nat) : String :=
  String.ofList (List.replicate (2 * depth) ' ')

mutual

def pretty (depth : Nat) : Json → String
  | number value => toString value
  | string text => quoted text
  | array [] => "[]"
  | array (first :: rest) =>
      "[\n" ++ indent (depth + 1) ++ pretty (depth + 1) first ++ prettyItems (depth + 1) rest ++
        "\n" ++ indent depth ++ "]"
  | object [] => "\x7b\x7d"
  | object ((key, value) :: rest) =>
      "\x7b\n" ++ indent (depth + 1) ++ quoted key ++ ": " ++ pretty (depth + 1) value ++
        prettyMembers (depth + 1) rest ++ "\n" ++ indent depth ++ "\x7d"

def prettyItems (depth : Nat) : List Json → String
  | [] => ""
  | item :: rest => ",\n" ++ indent depth ++ pretty depth item ++ prettyItems depth rest

def prettyMembers (depth : Nat) : List (String × Json) → String
  | [] => ""
  | (key, value) :: rest =>
      ",\n" ++ indent depth ++ quoted key ++ ": " ++ pretty depth value ++ prettyMembers depth rest

end

def render (value : Json) : String :=
  pretty 0 value

end Json

end CallAtlas
