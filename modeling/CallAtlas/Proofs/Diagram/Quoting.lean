import CallAtlas.Diagram.Dot

/-!
Quoted strings. In the inside of one a backslash belongs to the character behind
it, and no quote stands alone; the first quote that stands alone is the end
(`splitQuoted_eq_some_iff`). An escaped label is such an inside whatever the label
holds, so a viewer reads all of it and nothing more, and gets the label back
without its carriage returns (`escapeLabel_exact`).
-/

namespace CallAtlas.Dot

inductive Inside : List Char → Prop where
  | nil : Inside []
  | plain {c : Char} {rest : List Char} (noQuote : c ≠ '"') (noBackslash : c ≠ '\\')
      (later : Inside rest) : Inside (c :: rest)
  | pair (c : Char) {rest : List Char} (later : Inside rest) : Inside ('\\' :: c :: rest)

/-- Reads up to the end of a quoted string: what is inside as it is written, and what is behind. -/
def splitQuoted : List Char → Option (List Char × List Char)
  | [] => none
  | '"' :: rest => some ([], rest)
  | '\\' :: c :: rest =>
      (splitQuoted rest).map fun (inside, behind) => ('\\' :: c :: inside, behind)
  | ['\\'] => none
  | c :: rest => (splitQuoted rest).map fun (inside, behind) => (c :: inside, behind)

/-- What a label was that is written so; only a quote, a backslash and an `n` make a pair. -/
def unescape? : List Char → Option (List Char)
  | [] => some []
  | '\\' :: '"' :: rest => (unescape? rest).map ('"' :: ·)
  | '\\' :: '\\' :: rest => (unescape? rest).map ('\\' :: ·)
  | '\\' :: 'n' :: rest => (unescape? rest).map ('\n' :: ·)
  | '\\' :: _ => none
  | c :: rest => (unescape? rest).map (c :: ·)

/-- A label without its carriage returns. -/
def withoutReturns (label : List Char) : List Char :=
  label.filter (· ≠ '\r')

section Reading

variable {text inside rest : List Char}

theorem splitQuoted_plain {c : Char} (noQuote : c ≠ '"') (noBackslash : c ≠ '\\')
    (rest : List Char) : splitQuoted (c :: rest) =
      (splitQuoted rest).map fun (inside, behind) => (c :: inside, behind) := by
  rw [splitQuoted]
  all_goals simp_all

theorem Inside.splitQuoted (isInside : Inside inside) (rest : List Char) :
    splitQuoted (inside ++ '"' :: rest) = some (inside, rest) := by
  induction isInside with
  | nil => rfl
  | plain noQuote noBackslash _ ih =>
      rw [List.cons_append, splitQuoted_plain noQuote noBackslash, ih]
      rfl
  | pair c _ ih =>
      rw [List.cons_append, List.cons_append, Dot.splitQuoted, ih]
      rfl

/-- Reading stops at the first quote that stands alone and nowhere else. -/
theorem splitQuoted_eq_some_iff :
    splitQuoted text = some (inside, rest) ↔ Inside inside ∧ text = inside ++ '"' :: rest := by
  constructor
  · intro read
    fun_induction splitQuoted text generalizing inside with
    | case1 => cases read
    | case2 =>
        obtain ⟨rfl, rfl⟩ := Prod.mk.inj (Option.some.inj read)
        exact ⟨.nil, rfl⟩
    | case3 c more ih =>
        obtain ⟨⟨part, behind⟩, found, same⟩ := Option.map_eq_some_iff.mp read
        obtain ⟨rfl, rfl⟩ := Prod.mk.inj same
        obtain ⟨isInside, rfl⟩ := ih found
        exact ⟨.pair c isInside, rfl⟩
    | case4 => cases read
    | case5 c more noQuote noPair noEnd ih =>
        have noBackslash : c ≠ '\\' := by
          rintro rfl
          cases more with
          | nil => exact noEnd rfl rfl
          | cons d more => exact noPair d more rfl rfl
        obtain ⟨⟨part, behind⟩, found, same⟩ := Option.map_eq_some_iff.mp read
        obtain ⟨rfl, rfl⟩ := Prod.mk.inj same
        obtain ⟨isInside, rfl⟩ := ih found
        exact ⟨.plain noQuote noBackslash isInside, rfl⟩
  · rintro ⟨isInside, rfl⟩
    exact isInside.splitQuoted rest

theorem unescape?_plain {c : Char} (noBackslash : c ≠ '\\') (rest : List Char) :
    unescape? (c :: rest) = (unescape? rest).map (c :: ·) := by
  rw [unescape?]
  all_goals simp_all

end Reading

section Writing

variable {label text : List Char}

def pairs : List (Char × Char) :=
  [('"', '"'), ('\\', '\\'), ('\n', 'n')]

/-- How a label is written: every character is dropped, written as a pair or kept. -/
inductive Writes : List Char → List Char → Prop
  | nil : Writes [] []
  | dropped {label text : List Char} (later : Writes label text) : Writes ('\r' :: label) text
  | paired {c second : Char} {label text : List Char} (pair : (c, second) ∈ pairs)
      (later : Writes label text) : Writes (c :: label) ('\\' :: second :: text)
  | kept {c : Char} {label text : List Char} (noReturn : c ≠ '\r') (noQuote : c ≠ '"')
      (noBackslash : c ≠ '\\') (later : Writes label text) : Writes (c :: label) (c :: text)

theorem writes_escape (label : List Char) : Writes label (escape label) := by
  induction label with
  | nil => exact .nil
  | cons c rest ih =>
      rw [escape]
      split
      · next quote => exact .paired (by simp [pairs, quote]) ih
      · next noQuote =>
          split
          · next backslash => exact .paired (by simp [pairs, backslash]) ih
          · next noBackslash =>
              split
              · next lineFeed => exact .paired (by simp [pairs, lineFeed]) ih
              · split
                · next dropped => exact dropped ▸ .dropped ih
                · next kept => exact .kept kept noQuote noBackslash ih

theorem lineFeed_not_mem_escape (label : List Char) : '\n' ∉ escape label := by
  induction label with
  | nil => simp [escape]
  | cons c label ih =>
      unfold escape
      repeat' split
      all_goals simp_all [Ne.symm]

theorem Writes.inside (writes : Writes label text) : Inside text := by
  induction writes with
  | nil => exact .nil
  | dropped _ ih => exact ih
  | @paired c second _ _ _ _ ih => exact .pair second ih
  | kept _ noQuote noBackslash _ ih => exact .plain noQuote noBackslash ih

theorem Writes.return_not_mem (writes : Writes label text) : '\r' ∉ text := by
  induction writes with
  | nil => exact List.not_mem_nil
  | dropped _ ih => exact ih
  | @paired c second _ _ pair _ ih =>
      have other : second ≠ '\r' := by
        rintro rfl
        simp [pairs] at pair
      simp [ih, Ne.symm other]
  | kept noReturn _ _ _ ih => simp [ih, Ne.symm noReturn]

theorem Writes.unescape? (writes : Writes label text) :
    unescape? text = some (withoutReturns label) := by
  induction writes with
  | nil => rfl
  | dropped _ ih => simpa [withoutReturns] using ih
  | paired pair _ ih =>
      simp only [pairs, List.mem_cons, Prod.mk.injEq, List.not_mem_nil, or_false] at pair
      rcases pair with ⟨rfl, rfl⟩ | ⟨rfl, rfl⟩ | ⟨rfl, rfl⟩
      all_goals simp [Dot.unescape?, ih, withoutReturns]
  | kept noReturn _ noBackslash _ ih =>
      rw [unescape?_plain noBackslash, ih]
      simp [withoutReturns, noReturn]

theorem escape_withoutReturns (label : List Char) :
    escape (withoutReturns label) = escape label := by
  induction label with
  | nil => rfl
  | cons c rest ih =>
      by_cases dropped : c = '\r'
      · subst dropped
        simpa [withoutReturns, escape] using ih
      · have kept : withoutReturns (c :: rest) = c :: withoutReturns rest := by
          simp [withoutReturns, dropped]
        rw [kept, escape, escape, ih]

theorem escape_eq_iff {label other : List Char} :
    escape label = escape other ↔ withoutReturns label = withoutReturns other := by
  constructor
  · intro same
    have read := (writes_escape label).unescape?
    rw [same, (writes_escape other).unescape?] at read
    exact (Option.some.inj read).symm
  · intro same
    rw [← escape_withoutReturns label, same, escape_withoutReturns]

end Writing

/-- An escaped label stands on one line and is the whole inside of a quoted string, whatever is
behind the string. Reading its pairs gives the label without its carriage returns, so two labels
are written alike if and only if they differ in carriage returns at most. -/
theorem escapeLabel_exact (label : String) (rest : List Char) :
    '\n' ∉ (escapeLabel label).toList ∧ '\r' ∉ (escapeLabel label).toList ∧
    splitQuoted ((escapeLabel label).toList ++ '"' :: rest) =
      some ((escapeLabel label).toList, rest) ∧
    unescape? (escapeLabel label).toList = some (withoutReturns label.toList) ∧
    ∀ other : String, escapeLabel label = escapeLabel other ↔
      withoutReturns label.toList = withoutReturns other.toList := by
  have written : ∀ label : String, (escapeLabel label).toList = escape label.toList :=
    fun label => String.toList_ofList
  rw [written]
  have writes := writes_escape label.toList
  refine ⟨lineFeed_not_mem_escape _, writes.return_not_mem,
    splitQuoted_eq_some_iff.mpr ⟨writes.inside, rfl⟩, writes.unescape?, fun other => ?_⟩
  rw [← String.toList_inj, written, written, escape_eq_iff]

end CallAtlas.Dot
