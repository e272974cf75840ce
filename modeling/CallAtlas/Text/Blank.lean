/-!
Blank characters: the Unicode property White_Space, which is what trimming and
the test for an empty line go by. Control characters outside the property, the
zero width space and the byte order mark are not blank.
-/

namespace CallAtlas.Text

def isBlank (c : Char) : Bool :=
  let n := c.toNat
  (9 ≤ n && n ≤ 13) || n == 0x20 || n == 0x85 || n == 0xA0 || n == 0x1680 ||
    (0x2000 ≤ n && n ≤ 0x200A) || n == 0x2028 || n == 0x2029 || n == 0x202F ||
    n == 0x205F || n == 0x3000

/-- A text without a visible character; the empty text is one. -/
def allBlank (text : List Char) : Bool :=
  text.all isBlank

def trim (text : List Char) : List Char :=
  ((text.dropWhile isBlank).reverse.dropWhile isBlank).reverse

def visible (text : List Char) : List Char :=
  text.filter (fun c => !isBlank c)

theorem isBlank_newline : isBlank '\n' = true := by decide

theorem isBlank_return : isBlank '\r' = true := by decide

@[simp] theorem visible_append (first second : List Char) :
    visible (first ++ second) = visible first ++ visible second := by
  simp [visible]

end CallAtlas.Text
