import CallAtlas.CommandLine.Output
import CallAtlas.Proofs.Path.Names

/-!
Which texts are accepted as output directories. The check looks for steps up twice:
in the components of the text as it is spelled, and in the text with its backslashes
read as slashes, there by three spellings of a step up among slashes. Together they
find a step up wherever it stands and nothing else (`admission_exact`).
-/

namespace CallAtlas

namespace Path

theorem split_eq_splitOn (text : List Char) : split text = text.splitOn '/' := by
  induction text with
  | nil => rfl
  | cons c rest ih =>
      rw [split, List.splitOn_cons_eq_if_modifyHead, ih]
      by_cases slash : c = '/'
      · simp [slash]
      · obtain ⟨first, more, pieces⟩ := List.exists_cons_of_ne_nil (List.splitOn_ne_nil '/' rest)
        simp [slash, pieces]

/-- A part of a text that has a slash or nothing on each side. -/
def Stands (part text : List Char) : Prop :=
  ∃ before after, text = before ++ part ++ after ∧
    (before = [] ∨ ∃ front, before = front ++ ['/']) ∧ (after = [] ∨ ∃ back, after = '/' :: back)

theorem stands_of_mem_split {part text : List Char} (member : part ∈ split text) :
    Stands part text := by
  -- On the length of the text: its first part is known, and the others are parts of the rest.
  induction whole : text.length using Nat.strongRecOn generalizing text with
  | ind size ih =>
      by_cases slash : '/' ∈ text
      · obtain ⟨front, back, rfl, free⟩ := List.eq_append_cons_of_mem slash
        rw [split_append, split_of_free free, List.singleton_append, List.mem_cons] at member
        rcases member with rfl | later
        · exact ⟨[], '/' :: back, rfl, .inl rfl, .inr ⟨back, rfl⟩⟩
        · have shorter : back.length < size := by
            simp [← whole]
            omega
          obtain ⟨before, after, rfl, left, right⟩ := ih back.length shorter later rfl
          refine ⟨front ++ '/' :: before, after, by simp, ?_, right⟩
          rcases left with rfl | ⟨lead, rfl⟩
          · exact .inr ⟨front, rfl⟩
          · exact .inr ⟨front ++ '/' :: lead, by simp⟩
      · rw [split_of_free slash, List.mem_singleton] at member
        subst member
        exact ⟨[], [], by simp, .inl rfl, .inl rfl⟩

theorem Stands.mem_split {part text : List Char} (stands : Stands part text) (free : '/' ∉ part) :
    part ∈ split text := by
  obtain ⟨before, after, rfl, left, right⟩ := stands
  have here : part ∈ split (part ++ after) := by
    rcases right with rfl | ⟨back, rfl⟩
    · simp [split_of_free free]
    · simp [split_append, split_of_free free]
  rcases left with rfl | ⟨front, rfl⟩
  · exact here
  · rw [List.append_assoc, List.append_assoc, List.singleton_append, split_append]
    exact List.mem_append_right _ here

theorem up_mem_components_iff {path : Path} :
    Component.up ∈ path.components ↔ ['.', '.'] ∈ split path.text.toList := by
  have steps : ∀ pieces : List String, Component.up ∈ pieces.filterMap step? ↔ ".." ∈ pieces := by
    intro pieces
    simp [step?_eq_up_iff]
  have spelled : ".." ∈ path.pieces ↔ ['.', '.'] ∈ split path.text.toList := by
    rw [pieces, show ".." = String.ofList ['.', '.'] from rfl]
    exact List.mem_map_of_injective fun _ _ => String.ofList_injective
  rw [← spelled, components]
  split
  · simp [steps]
  · split
    · next here =>
        rw [List.mem_cons, steps]
        obtain ⟨rest, pieces⟩ := List.head?_eq_some_iff.mp here
        simp [pieces]
    · exact steps _

end Path

namespace OutputDirectory

open CallAtlas.Path (Stands)

section Texts

variable {part text first second : List Char}

theorem occursIn_iff : occursIn part text = true ↔ part <:+: text := by
  induction text with
  | nil => simp [occursIn]
  | cons c rest ih =>
      rw [occursIn, Bool.or_eq_true, List.isPrefixOf_iff_prefix, ih, List.infix_cons_iff]

theorem normalized_append : normalized (first ++ second) = normalized first ++ normalized second :=
  List.map_append

theorem normalized_eq_up (same : normalized text = ['.', '.']) : text = ['.', '.'] := by
  have dot : ∀ c : Char, (if c = '\\' then '/' else c) = '.' → c = '.' := by
    intro c read
    by_cases backslash : c = '\\'
    · rw [if_pos backslash] at read
      cases read
    · rwa [if_neg backslash] at read
  obtain ⟨c, rest, rfl, first, later⟩ := List.map_eq_cons_iff.mp same
  obtain ⟨d, rest, rfl, second, last⟩ := List.map_eq_cons_iff.mp later
  rw [dot c first, dot d second, List.map_eq_nil_iff.mp last]

theorem stands_normalized (stands : Stands part text) :
    Stands (normalized part) (normalized text) := by
  obtain ⟨before, after, rfl, left, right⟩ := stands
  refine ⟨normalized before, normalized after, by simp [normalized_append], ?_, ?_⟩
  · rcases left with rfl | ⟨front, rfl⟩
    · exact .inl rfl
    · exact .inr ⟨normalized front, normalized_append⟩
  · rcases right with rfl | ⟨back, rfl⟩
    · exact .inl rfl
    · exact .inr ⟨normalized back, rfl⟩

/-- The three spellings cover every step up but the one that is all of the text. -/
theorem stands_up_iff : Stands ['.', '.'] text ↔ text = ['.', '.'] ∨ hasStepUp text = true := by
  simp only [hasStepUp, Bool.or_eq_true, occursIn_iff, List.isPrefixOf_iff_prefix,
    List.isSuffixOf_iff_suffix]
  constructor
  · rintro ⟨before, after, rfl, rfl | ⟨front, rfl⟩, rfl | ⟨back, rfl⟩⟩
    · exact .inl rfl
    · exact .inr (.inl (.inr ⟨back, rfl⟩))
    · exact .inr (.inr ⟨front, by simp⟩)
    · exact .inr (.inl (.inl ⟨front, back, by simp⟩))
  · rintro (rfl | (⟨front, back, rfl⟩ | ⟨back, rfl⟩) | ⟨front, rfl⟩)
    · exact ⟨[], [], rfl, .inl rfl, .inl rfl⟩
    · exact ⟨front ++ ['/'], '/' :: back, by simp, .inr ⟨front, rfl⟩, .inr ⟨back, rfl⟩⟩
    · exact ⟨[], '/' :: back, rfl, .inl rfl, .inr ⟨back, rfl⟩⟩
    · exact ⟨front ++ ['/'], [], by simp, .inr ⟨front, rfl⟩, .inl rfl⟩

end Texts

/-- A text without a NUL, and without a step up however slashes and backslashes are mixed in it. -/
def Admissible (text : String) : Prop :=
  '\x00' ∉ text.toList ∧ ['.', '.'] ∉ (normalized text.toList).splitOn '/'

/-- Both tests together find the steps up of the normalized text: the first one, on the text as it
is spelled, finds the only one that the second does not. -/
theorem mem_splitOn_normalized_iff (text : String) :
    ['.', '.'] ∈ (normalized text.toList).splitOn '/' ↔
      Component.up ∈ Path.components ⟨text⟩ ∨ hasStepUp (normalized text.toList) = true := by
  rw [← Path.split_eq_splitOn, Path.up_mem_components_iff]
  constructor
  · intro member
    rcases stands_up_iff.mp (Path.stands_of_mem_split member) with whole | found
    · rw [normalized_eq_up whole]
      exact .inl (by decide)
    · exact .inr found
  · rintro (spelled | found)
    · exact (stands_normalized (Path.stands_of_mem_split spelled)).mem_split (by decide)
    · exact (stands_up_iff.mpr (.inr found)).mem_split (by decide)

/-- A text is accepted, as it is, exactly if it is admissible, and every other one is an argument
that is not valid. -/
theorem admission_exact (text : String) :
    (∀ directory, check text = .ok directory ↔ directory = ⟨text⟩ ∧ Admissible text) ∧
    ((∃ fault, check text = .error fault ∧ fault.toFailure = .invalidArgument fault.message) ↔
      ¬ Admissible text) := by
  rw [Admissible, mem_splitOn_normalized_iff, not_or, check]
  by_cases nul : '\x00' ∈ text.toList
  · simp [nul, OutputFault.toFailure]
  · by_cases up : Component.up ∈ Path.components ⟨text⟩
    · simp [nul, up, OutputFault.toFailure]
    · by_cases disguised : hasStepUp (normalized text.toList) = true
      · simp [nul, up, disguised, OutputFault.toFailure]
      · simp [nul, up, disguised, eq_comm]

example : check "out/..\\up" = .error (.disguisedStepUp "out/..\\up") := by
  rfl

example : check "out\\..up/.../up.." = .ok ⟨"out\\..up/.../up.."⟩ := by
  rfl

end OutputDirectory

end CallAtlas
