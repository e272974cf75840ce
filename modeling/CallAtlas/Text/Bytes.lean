/-!
Offsets into a text counted in bytes of its UTF-8 form. A text is the list of
its characters; an offset is meant to stand on a character boundary, and one
inside a character is moved to that character's start when text is taken and to
its end when text is dropped.
-/

namespace CallAtlas.Text

def byteLength (text : List Char) : Nat :=
  (text.map Char.utf8Size).foldr (· + ·) 0

def takeBytes : Nat → List Char → List Char
  | _, [] => []
  | n, c :: rest => if c.utf8Size ≤ n then c :: takeBytes (n - c.utf8Size) rest else []

def dropBytes : Nat → List Char → List Char
  | 0, text => text
  | _ + 1, [] => []
  | n + 1, c :: rest => dropBytes (n + 1 - c.utf8Size) rest

structure Span where
  start : Nat
  stop : Nat
  deriving DecidableEq, Repr

def slice (text : List Char) (span : Span) : List Char :=
  takeBytes (span.stop - span.start) (dropBytes span.start text)

@[simp] theorem byteLength_nil : byteLength [] = 0 := rfl

@[simp] theorem byteLength_cons (c : Char) (rest : List Char) :
    byteLength (c :: rest) = c.utf8Size + byteLength rest := by
  simp [byteLength]

@[simp] theorem byteLength_append (first second : List Char) :
    byteLength (first ++ second) = byteLength first + byteLength second := by
  induction first with
  | nil => simp
  | cons c rest ih => simp [ih, Nat.add_assoc]

theorem takeBytes_append (first second : List Char) :
    takeBytes (byteLength first) (first ++ second) = first := by
  induction first with
  | nil =>
      cases second with
      | nil => rfl
      | cons c rest =>
          have := c.utf8Size_pos
          simp [takeBytes]
          omega
  | cons c rest ih => simp [takeBytes, ih]

@[simp] theorem dropBytes_zero (text : List Char) : dropBytes 0 text = text := by
  cases text <;> rfl

theorem dropBytes_append (first second : List Char) :
    dropBytes (byteLength first) (first ++ second) = second := by
  induction first with
  | nil => simp
  | cons c rest ih =>
      have pos := c.utf8Size_pos
      obtain ⟨n, size⟩ : ∃ n, byteLength (c :: rest) = n + 1 :=
        ⟨byteLength (c :: rest) - 1, by simp; omega⟩
      have left : n + 1 - c.utf8Size = byteLength rest := by
        simp at size
        omega
      rw [size]
      simp [dropBytes, left, ih]

end CallAtlas.Text
