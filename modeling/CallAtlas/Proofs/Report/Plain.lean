import CallAtlas.Proofs.Diagram.Export
import CallAtlas.Report.Basic

/-!
Reading plain reports back. The empty lines of a report stand between its sections,
and a name without blanks ends at the next space of its line. So the lines of the
functions, the callers and the dead tell what they list. What a report leaves out
follows from the rest: the roots that call nothing from the names and the calls,
and the dead, where they have no section, from the roots.
-/

namespace CallAtlas

namespace FunctionRecord

def facts (record : FunctionRecord) : String × Nat × Nat :=
  (record.name, record.lineCount, record.definingLine)

end FunctionRecord

namespace Report

/-- A name that stands in one line and in one part of it. -/
def Unbroken (name : String) : Prop :=
  ' ' ∉ name.toList ∧ '\n' ∉ name.toList

instance (name : String) : Decidable (Unbroken name) :=
  inferInstanceAs (Decidable (_ ∧ _))

section Lines

theorem toList_functionLine (record : FunctionRecord) : (functionLine record).toList =
    ['-', ' '] ++ ((record.name.toList ++ [':']) ++ ' ' :: (Nat.toDigits 10 record.lineCount ++
      ' ' :: ("lines (line ".toList ++ (Nat.toDigits 10 record.definingLine ++ [')'])))) := by
  have parts : functionLine record = "- " ++ record.name ++ ": " ++ record.lineCount.repr ++
      " lines (line " ++ record.definingLine.repr ++ ")" := rfl
  simp [parts]

theorem toList_callLine (entry : String × NameSet) : (callLine entry).toList =
    ['-', ' '] ++ (entry.1.toList ++ ' ' :: (['-', '>', ' '] ++
      ([','] ++ [' ']).intercalate (entry.2.toList.map String.toList))) := by
  simp [callLine]

theorem not_digit {c : Char} (plain : c.isDigit = false) (number : Nat) :
    c ∉ Nat.toDigits 10 number := by
  intro member
  rw [Text.digit_of_mem member] at plain
  cases plain

theorem facts_of_functionLine {record other : FunctionRecord} (unbroken : Unbroken record.name)
    (unbroken' : Unbroken other.name) (same : functionLine record = functionLine other) :
    record.facts = other.facts := by
  have texts := congrArg String.toList same
  rw [toList_functionLine, toList_functionLine] at texts
  obtain ⟨names, rest⟩ := Text.parts_unique (by simp [unbroken.1]) (by simp [unbroken'.1])
    (List.append_cancel_left texts)
  obtain ⟨sizes, rest⟩ := Text.parts_unique (not_digit (by decide) _) (not_digit (by decide) _) rest
  have places := List.append_cancel_right (List.append_cancel_left rest)
  rw [FunctionRecord.facts, FunctionRecord.facts, Text.toDigits_injective sizes,
    Text.toDigits_injective places, String.toList_injective (List.append_cancel_right names)]

theorem callees_ne_nil {callees : NameSet} (some : callees ≠ ∅) :
    callees.toList.map String.toList ≠ [] := by
  intro none
  refine some (NameSet.ext fun name => ?_)
  rw [NameSet.mem_def, List.map_eq_nil_iff.mp none]
  rfl

theorem callees_free {callees : NameSet} (unbroken : ∀ name ∈ callees.toList, Unbroken name) :
    ∀ part ∈ callees.toList.map String.toList, ' ' ∉ part := by
  intro part member
  obtain ⟨name, listed, rfl⟩ := List.mem_map.mp member
  exact (unbroken name listed).1

theorem eq_of_callLine {entry other : String × NameSet}
    (unbroken : ∀ name ∈ entry.1 :: entry.2.toList, Unbroken name)
    (unbroken' : ∀ name ∈ other.1 :: other.2.toList, Unbroken name)
    (some : entry.2 ≠ ∅) (some' : other.2 ≠ ∅) (same : callLine entry = callLine other) :
    entry = other := by
  have texts := congrArg String.toList same
  rw [toList_callLine, toList_callLine] at texts
  obtain ⟨callers, rest⟩ := Text.parts_unique (unbroken entry.1 List.mem_cons_self).1
    (unbroken' other.1 List.mem_cons_self).1 (List.append_cancel_left texts)
  have callees := Text.intercalate_injective (by decide)
    (callees_ne_nil some) (callees_ne_nil some')
    (callees_free fun name member => unbroken name (List.mem_cons_of_mem _ member))
    (callees_free fun name member => unbroken' name (List.mem_cons_of_mem _ member))
    (List.append_cancel_left rest)
  have lists := List.map_injective_iff.mpr (fun _ _ => String.toList_injective) callees
  refine Prod.ext (String.toList_injective callers) (NameSet.ext fun name => ?_)
  rw [NameSet.mem_def, NameSet.mem_def, lists]

theorem eq_of_item {name other : String} (same : item name = item other) : name = other := by
  have texts := congrArg String.toList same
  rw [item, item, String.toList_append, String.toList_append] at texts
  exact String.toList_injective (List.append_cancel_left texts)

theorem lineFeed_not_mem_functionLine {record : FunctionRecord} (unbroken : Unbroken record.name) :
    '\n' ∉ (functionLine record).toList := by
  have size := not_digit (c := '\n') (by decide) record.lineCount
  have place := not_digit (c := '\n') (by decide) record.definingLine
  simp [toList_functionLine, unbroken.2, size, place]

theorem lineFeed_not_mem_item {name : String} (unbroken : Unbroken name) :
    '\n' ∉ (item name).toList := by
  simp [item, unbroken.2]

theorem lineFeed_not_mem_callLine {entry : String × NameSet}
    (unbroken : ∀ name ∈ entry.1 :: entry.2.toList, Unbroken name) :
    '\n' ∉ (callLine entry).toList := by
  rw [List.forall_mem_cons] at unbroken
  have callees : '\n' ∉ ([','] ++ [' ']).intercalate (entry.2.toList.map String.toList) := by
    refine Text.not_mem_intercalate (by decide) fun part member => ?_
    obtain ⟨name, listed, rfl⟩ := List.mem_map.mp member
    exact (unbroken.2 name listed).2
  simp only [toList_callLine, List.mem_append, List.mem_cons, List.not_mem_nil, not_or]
  exact ⟨by decide, unbroken.1.2, by decide, by decide, callees⟩

end Lines

section Sections

def functionsSection (analysis : Analysis) : List String :=
  s!"FUNCTIONS ({analysis.catalog.size}):" :: (bySize analysis).map functionLine

def rootsSection (analysis : Analysis) : List String :=
  s!"ROOTS ({analysis.rootsWithCalls.length}):" :: analysis.rootsWithCalls.map item

def callsSection (analysis : Analysis) : List String :=
  "CALLS:" :: (if analysis.relation.isEmpty then ["(none)"] else []) ++
    analysis.relation.toList.map callLine

def deadSection (analysis : Analysis) : List (List String) :=
  if analysis.dead = analysis.roots then []
  else [s!"DEAD ({analysis.dead.size}):" :: analysis.dead.toList.map item]

def sections (analysis : Analysis) : List (List String) :=
  functionsSection analysis :: rootsSection analysis :: callsSection analysis ::
    deadSection analysis

variable {analysis other : Analysis}

theorem plainLines_eq (filled : analysis.catalog.isEmpty = false) :
    plainLines analysis = List.intercalate ([] ++ [""]) (sections analysis) := by
  rw [plainLines, if_neg (by simp [filled]), sections, deadSection, functionsSection, rootsSection,
    callsSection]
  by_cases same : analysis.dead = analysis.roots
  · simp [same, List.intercalate_cons_cons]
  · simp [same, List.intercalate_cons_cons]

theorem functionLine_ne_empty (record : FunctionRecord) : functionLine record ≠ "" := by
  simp [← String.toList_eq_nil_iff, toList_functionLine]

theorem callLine_ne_empty (entry : String × NameSet) : callLine entry ≠ "" := by
  simp [← String.toList_eq_nil_iff, toList_callLine]

theorem item_ne_empty (name : String) : item name ≠ "" := by
  simp [item]

theorem empty_not_mem_sections (analysis : Analysis) : ∀ part ∈ sections analysis, "" ∉ part := by
  have functions := Text.empty_not_mem_map functionLine functionLine_ne_empty (bySize analysis)
  have roots := Text.empty_not_mem_map item item_ne_empty analysis.rootsWithCalls
  have calls := Text.empty_not_mem_map callLine callLine_ne_empty analysis.relation.toList
  have dead := Text.empty_not_mem_map item item_ne_empty analysis.dead.toList
  intro part member
  rw [sections, List.mem_cons, List.mem_cons, List.mem_cons] at member
  obtain rfl | rfl | rfl | member := member
  · simpa [functionsSection] using functions
  · simpa [rootsSection] using roots
  · simp only [callsSection, List.mem_append, List.mem_cons, not_or]
    refine ⟨⟨by decide, ?_⟩, calls⟩
    split <;> decide
  · rw [deadSection] at member
    split at member
    · cases member
    · rw [List.mem_singleton.mp member]
      simpa using dead

theorem sections_unique (filled : analysis.catalog.isEmpty = false)
    (filled' : other.catalog.isEmpty = false) (same : plainLines analysis = plainLines other) :
    sections analysis = sections other := by
  rw [plainLines_eq filled, plainLines_eq filled'] at same
  exact Text.intercalate_injective List.not_mem_nil (List.cons_ne_nil _ _) (List.cons_ne_nil _ _)
    (empty_not_mem_sections analysis) (empty_not_mem_sections other) same

theorem isEmpty_eq_of_plainLines (same : plainLines analysis = plainLines other) :
    analysis.catalog.isEmpty = other.catalog.isEmpty := by
  have starts : ∀ analysis : Analysis, analysis.catalog.isEmpty = true ↔
      (plainLines analysis).head? = some "No functions found." := by
    intro analysis
    rw [plainLines]
    cases analysis.catalog.isEmpty with
    | true => simp
    | false =>
        have differ : s!"FUNCTIONS ({analysis.catalog.size}):" ≠ "No functions found." := by
          intro same
          have letters := congrArg (fun text => text.toList.head?) same
          simp [toString] at letters
        simpa using differ
  rw [Bool.eq_iff_iff, starts, starts, same]

end Sections

/-- An analysis whose names can be read back from its report. -/
structure Readable (analysis : Analysis) : Prop where
  functions : ∀ record ∈ analysis.catalog.values, Unbroken record.name
  roots : ∀ name ∈ analysis.roots, Unbroken name
  calls : ∀ entry ∈ analysis.relation.toList,
    entry.2 ≠ ∅ ∧ ∀ name ∈ entry.1 :: entry.2.toList, Unbroken name
  dead : ∀ name ∈ analysis.dead, Unbroken name

theorem readable_of_derived {settings : AnalysisSettings} {tree : SyntaxTree} {analysis : Analysis}
    (derived : Analysis.Derived settings tree analysis)
    (unbroken : ∀ name, analysis.catalog.contains name = true → Unbroken name) :
    Readable analysis := by
  constructor
  case functions =>
    intro record member
    obtain ⟨⟨name, record⟩, listed, rfl⟩ := List.mem_map.mp member
    have found := NameMap.mem_toList_iff.mp listed
    rw [Catalog.name_of_get? derived.catalog found]
    exact unbroken name (by rw [NameMap.contains, found]; rfl)
  case roots => exact fun name root => unbroken name (derived.mem_roots_iff.mp root).1
  case calls =>
    rintro ⟨caller, callees⟩ listed
    have found := NameMap.mem_toList_iff.mp listed
    obtain ⟨callee, calls⟩ := derived.exists_callee found
    refine ⟨derived.inhabited found, List.forall_mem_cons.mpr ⟨?_, fun name member => ?_⟩⟩
    · exact unbroken caller (derived.caller_known calls)
    · exact unbroken name
        (derived.callee_known (CallRelation.calls_iff.mpr ⟨callees, found, member⟩))
  case dead => exact fun name dead => unbroken name (derived.dead_known dead)

section Reading

variable {analysis other : Analysis}

theorem Readable.lineFeed_not_mem (readable : Readable analysis) :
    ∀ line ∈ (plainLines analysis).map String.toList, '\n' ∉ line := by
  intro text member
  obtain ⟨line, listed, rfl⟩ := List.mem_map.mp member
  have heading : ∀ count, '\n' ∉ Nat.toDigits 10 count := not_digit (by decide)
  have items : ∀ names : List String, (∀ name ∈ names, Unbroken name) →
      line ∈ names.map item → '\n' ∉ line.toList := by
    intro names unbroken shown
    obtain ⟨name, named, rfl⟩ := List.mem_map.mp shown
    exact lineFeed_not_mem_item (unbroken name named)
  rw [plainLines] at listed
  split at listed
  · rw [List.mem_singleton.mp listed]
    decide
  · simp only [List.mem_append, List.mem_cons] at listed
    rcases listed with ((((rfl | function) | rfl | rfl | root) | rfl | rfl | none) | call) | dead
    · simp [toString, heading]
    · obtain ⟨record, among, rfl⟩ := List.mem_map.mp function
      exact lineFeed_not_mem_functionLine (readable.functions record (List.mem_mergeSort.mp among))
    · decide
    · simp [toString, heading]
    · exact items _ (fun name among => readable.roots name (List.mem_filter.mp among).1) root
    · decide
    · decide
    · split at none
      · rw [List.mem_singleton.mp none]
        decide
      · cases none
    · obtain ⟨entry, among, rfl⟩ := List.mem_map.mp call
      exact lineFeed_not_mem_callLine (readable.calls entry among).2
    · split at dead
      · cases dead
      · obtain rfl | rfl | shown := List.mem_cons.mp dead |>.imp_right List.mem_cons.mp
        · decide
        · simp [toString, heading]
        · exact items _ readable.dead shown

theorem toList_plain (analysis : Analysis) : (plain analysis).toList =
    Text.unlines ((plainLines analysis).map String.toList) := by
  simp [plain, Text.unlines, String.toList_join, List.flatMap_map]

theorem plainLines_unique (readable : Readable analysis) (readable' : Readable other)
    (same : plain analysis = plain other) : plainLines analysis = plainLines other := by
  have lists := Text.unlines_injective readable.lineFeed_not_mem readable'.lineFeed_not_mem
    (by rw [← toList_plain, ← toList_plain, same])
  exact List.map_injective_iff.mpr (fun _ _ => String.toList_injective) lists

theorem facts_of_section (readable : Readable analysis) (readable' : Readable other)
    (same : functionsSection analysis = functionsSection other) (facts : String × Nat × Nat) :
    facts ∈ analysis.catalog.values.map FunctionRecord.facts ↔
      facts ∈ other.catalog.values.map FunctionRecord.facts := by
  have sorted : ∀ analysis : Analysis,
      ((bySize analysis).map FunctionRecord.facts).Perm
        (analysis.catalog.values.map FunctionRecord.facts) :=
    fun analysis => (List.mergeSort_perm _ _).map _
  have lines := Text.map_eq_of_lines FunctionRecord.facts ?_ (List.cons.inj same).2
  · rw [← (sorted analysis).mem_iff, lines, (sorted other).mem_iff]
  · intro record member record' member' line
    exact facts_of_functionLine (readable.functions record (List.mem_mergeSort.mp member))
      (readable'.functions record' (List.mem_mergeSort.mp member')) line

theorem relation_of_section (readable : Readable analysis) (readable' : Readable other)
    (same : callsSection analysis = callsSection other) : analysis.relation = other.relation := by
  have lines : (if analysis.relation.isEmpty then ["(none)"] else []) ++
      analysis.relation.toList.map callLine =
    (if other.relation.isEmpty then ["(none)"] else []) ++ other.relation.toList.map callLine :=
    (List.cons.inj same).2
  -- The mark of an empty relation is no line of a caller.
  have unmarked : ∀ entry, callLine entry ≠ "(none)" := by
    intro entry marked
    have texts := congrArg String.toList marked
    simp [toList_callLine] at texts
  have lists : analysis.relation.toList = other.relation.toList := by
    cases empty : analysis.relation.isEmpty <;> cases empty' : other.relation.isEmpty <;>
      simp only [empty, empty', if_true, Bool.false_eq_true, if_false, List.nil_append] at lines
    · have told := Text.map_eq_of_lines id ?_ lines
      · simpa using told
      · intro entry member entry' member' line
        obtain ⟨some, unbroken⟩ := readable.calls entry member
        obtain ⟨some', unbroken'⟩ := readable'.calls entry' member'
        exact eq_of_callLine unbroken unbroken' some some' line
    · have marked : "(none)" ∈ analysis.relation.toList.map callLine := by simp [lines]
      obtain ⟨entry, -, line⟩ := List.mem_map.mp marked
      exact absurd line (unmarked entry)
    · have marked : "(none)" ∈ other.relation.toList.map callLine := by simp [← lines]
      obtain ⟨entry, -, line⟩ := List.mem_map.mp marked
      exact absurd line (unmarked entry)
    · rw [List.isEmpty_iff.mp empty, List.isEmpty_iff.mp empty']
  refine NameMap.ext fun name => ?_
  rw [NameMap.get?, NameMap.get?, lists]

theorem dead_of_section (roots : analysis.roots = other.roots)
    (same : deadSection analysis = deadSection other) : analysis.dead = other.dead := by
  rw [deadSection, deadSection] at same
  by_cases shared : analysis.dead = analysis.roots <;> by_cases shared' : other.dead = other.roots
  · rw [shared, shared', roots]
  · rw [if_pos shared, if_neg shared'] at same
    cases same
  · rw [if_neg shared, if_pos shared'] at same
    cases same
  · rw [if_neg shared, if_neg shared'] at same
    have lines := (List.cons.inj (List.cons.inj same).1).2
    have told := Text.map_eq_of_lines id (fun _ _ _ _ line => eq_of_item line) lines
    refine NameSet.ext fun name => ?_
    rw [NameSet.mem_def, NameSet.mem_def, ← List.map_id analysis.dead.toList, told, List.map_id]

end Reading

section Analyses

variable {settings settings' : AnalysisSettings} {tree tree' : SyntaxTree}
  {analysis other : Analysis}

theorem known_iff_facts (derived : Analysis.Derived settings tree analysis) {name : String} :
    analysis.catalog.contains name = true ↔
      ∃ size place, (name, size, place) ∈ analysis.catalog.values.map FunctionRecord.facts := by
  constructor
  · intro known
    obtain ⟨record, found⟩ := Option.isSome_iff_exists.mp known
    have listed := List.mem_map_of_mem (f := Prod.snd) (NameMap.mem_toList_iff.mpr found)
    refine ⟨record.lineCount, record.definingLine, List.mem_map.mpr ⟨record, listed, ?_⟩⟩
    rw [FunctionRecord.facts, Catalog.name_of_get? derived.catalog found]
  · rintro ⟨size, place, listed⟩
    obtain ⟨record, value, facts⟩ := List.mem_map.mp listed
    obtain ⟨⟨key, record⟩, entry, rfl⟩ := List.mem_map.mp value
    have found := NameMap.mem_toList_iff.mp entry
    obtain rfl : name = key :=
      (Prod.mk.inj facts).1.symm.trans (Catalog.name_of_get? derived.catalog found)
    rw [NameMap.contains, found]
    rfl

theorem unknown_of_empty (empty : analysis.catalog.isEmpty = true) (name : String) :
    ¬ analysis.catalog.contains name = true := by
  intro known
  have listed := NameMap.mem_names.mpr known
  rw [NameMap.names, List.isEmpty_iff.mp empty] at listed
  cases listed

-- Without functions there is nothing to call.
theorem relation_of_empty (derived : Analysis.Derived settings tree analysis)
    (empty : analysis.catalog.isEmpty = true) : analysis.relation = ∅ := by
  refine NameMap.ext fun name => ?_
  cases found : analysis.relation.get? name with
  | none => rfl
  | some callees =>
      obtain ⟨callee, calls⟩ := derived.exists_callee found
      exact absurd (derived.caller_known calls) (unknown_of_empty empty name)

theorem dead_of_empty (derived : Analysis.Derived settings tree analysis)
    (empty : analysis.catalog.isEmpty = true) : analysis.dead = ∅ := by
  apply NameSet.ext
  intro name
  constructor
  · intro dead
    exact absurd (derived.dead_known dead) (unknown_of_empty empty name)
  · intro none
    exact absurd none (NameSet.not_mem_empty name)

/-- The plain report of an analysis tells names, sizes and places of its functions, its calls, its
roots and its dead. Of the names it is only asked that they hold no space and no line feed: a comma
in a name does no harm, since one between two names has a space behind it. -/
theorem plain_determines (done : Analysis.ofTree settings tree = .ok analysis)
    (done' : Analysis.ofTree settings' tree' = .ok other)
    (unbroken : ∀ name, analysis.catalog.contains name = true → Unbroken name)
    (unbroken' : ∀ name, other.catalog.contains name = true → Unbroken name)
    (same : plain analysis = plain other) :
    (∀ facts, facts ∈ analysis.catalog.values.map FunctionRecord.facts ↔
      facts ∈ other.catalog.values.map FunctionRecord.facts) ∧
    analysis.relation = other.relation ∧ analysis.roots = other.roots ∧
    analysis.dead = other.dead := by
  have derived := Analysis.derived_of_ok done
  have derived' := Analysis.derived_of_ok done'
  have readable := readable_of_derived derived unbroken
  have readable' := readable_of_derived derived' unbroken'
  have lines := plainLines_unique readable readable' same
  have empties := isEmpty_eq_of_plainLines lines
  have parts : (∀ facts, facts ∈ analysis.catalog.values.map FunctionRecord.facts ↔
      facts ∈ other.catalog.values.map FunctionRecord.facts) ∧
      analysis.relation = other.relation ∧
      (analysis.roots = other.roots → analysis.dead = other.dead) := by
    cases empty : analysis.catalog.isEmpty with
    | true =>
        have empty' := empties.symm.trans empty
        refine ⟨fun facts => ?_, ?_, fun _ => ?_⟩
        · rw [NameMap.values, NameMap.values, List.isEmpty_iff.mp empty, List.isEmpty_iff.mp empty']
        · rw [relation_of_empty derived empty, relation_of_empty derived' empty']
        · rw [dead_of_empty derived empty, dead_of_empty derived' empty']
    | false =>
        have told := sections_unique empty (empties.symm.trans empty) lines
        rw [sections, sections] at told
        obtain ⟨functions, rest⟩ := List.cons.inj told
        obtain ⟨-, rest⟩ := List.cons.inj rest
        obtain ⟨calls, dead⟩ := List.cons.inj rest
        exact ⟨facts_of_section readable readable' functions,
          relation_of_section readable readable' calls, fun roots => dead_of_section roots dead⟩
  obtain ⟨facts, relation, dead⟩ := parts
  have roots : analysis.roots = other.roots := by
    refine NameSet.ext fun name => ?_
    rw [derived.mem_roots_iff, derived'.mem_roots_iff, known_iff_facts derived,
      known_iff_facts derived', relation]
    simp only [facts]
  exact ⟨facts, relation, roots, dead roots⟩

end Analyses

def selfCall : SyntaxTree :=
  Sketch.program "function a() \x7b a(); \x7d\nfunction b() \x7b\x7d"
    [Sketch.function "function_declaration" 0 21 [Sketch.call 15],
      Sketch.function "function_declaration" 22 37 []]

def selfCallSpaced : SyntaxTree :=
  Sketch.program "function a() \x7b  a(); \x7d\nfunction b() \x7b\x7d"
    [Sketch.function "function_declaration" 0 22 [Sketch.call 16],
      Sketch.function "function_declaration" 23 38 []]

def selfCallSettings : AnalysisSettings where
  denylist := ∅
  deadCode := .unreachableFromRoots

def selfCallLines : List String :=
  ["FUNCTIONS (2):", "- a: 1 lines (line 1)", "- b: 1 lines (line 2)", "", "ROOTS (0):", "",
    "CALLS:", "- a -> a", "", "DEAD (1):", "- a"]

theorem bySize_of_sorted {analysis : Analysis}
    (sorted : analysis.catalog.values.Pairwise fun first second => goesBefore first second = true) :
    bySize analysis = analysis.catalog.values :=
  List.mergeSort_of_pairwise sorted

theorem selfCall_determined : ∃ analysis other,
    Analysis.ofTree selfCallSettings selfCall = .ok analysis ∧
    Analysis.ofTree selfCallSettings selfCallSpaced = .ok other ∧ analysis.catalog ≠ other.catalog ∧
    plainLines analysis = selfCallLines ∧ plain analysis = plain other ∧
    analysis.relation = other.relation ∧ analysis.roots = other.roots ∧
    analysis.dead = other.dead := by
  obtain ⟨analysis, done, lines, names, values⟩ :
      ∃ analysis, Analysis.ofTree selfCallSettings selfCall = .ok analysis ∧
        plainLines analysis = selfCallLines ∧ analysis.catalog.names = ["a", "b"] ∧
        analysis.catalog.values.map (·.region.span.stop) = [21, 37] := by
    refine ⟨_, rfl, ?_, by decide +kernel, by decide +kernel⟩
    rw [plainLines, bySize_of_sorted (by decide +kernel)]
    decide +kernel
  obtain ⟨other, done', lines', names', values'⟩ :
      ∃ other, Analysis.ofTree selfCallSettings selfCallSpaced = .ok other ∧
        plainLines other = selfCallLines ∧ other.catalog.names = ["a", "b"] ∧
        other.catalog.values.map (·.region.span.stop) = [22, 38] := by
    refine ⟨_, rfl, ?_, by decide +kernel, by decide +kernel⟩
    rw [plainLines, bySize_of_sorted (by decide +kernel)]
    decide +kernel
  have differ : analysis.catalog ≠ other.catalog := by
    intro same
    rw [same, values'] at values
    exact absurd values (by decide)
  have same : plain analysis = plain other := by
    rw [plain, plain, lines, lines']
  have unbroken : ∀ name ∈ ["a", "b"], Unbroken name := by decide
  obtain ⟨-, parts⟩ := plain_determines done done'
    (fun name known => unbroken name (names ▸ NameMap.mem_names.mpr known))
    (fun name known => unbroken name (names' ▸ NameMap.mem_names.mpr known))
    same
  exact ⟨analysis, other, done, done', differ, lines, same, parts⟩

end Report

end CallAtlas
