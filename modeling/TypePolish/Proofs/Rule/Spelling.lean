import TypePolish.Proofs.Rule.Pass
import TypePolish.Rule.Table
import TypePolish.Rule.Written

/-!
Reading a written rule back. In a pattern a backslash takes the meaning from the character after
it, and in a template a dollar sign begins a reference to a group unless it is doubled. A literal
pattern reads as its text with every mark escaped (`readPattern_literalPattern`), a literal template
as its text without any reference (`readTemplate_literalTemplate`), and so what a match writes is
the template of its rule, expanded with what the match captured (`Rule.expand_template`).
-/

namespace TypePolish

structure PatternChar where
  escaped : Bool
  char : Char
  deriving DecidableEq, Repr

def readPattern : Text → List PatternChar
  | '\\' :: char :: rest => ⟨true, char⟩ :: readPattern rest
  | char :: rest => ⟨false, char⟩ :: readPattern rest
  | [] => []

inductive TemplatePart
  | literal (char : Char)
  | reference (name : Text)
  deriving DecidableEq, Repr

def isReferenceChar (char : Char) : Bool :=
  char.isAlphanum || char == '_'

def nextPart (char : Char) (rest : Text) : TemplatePart × Text :=
  if char = '$' then
    match rest with
    | '$' :: later => (.literal '$', later)
    | '{' :: later =>
        if '}' ∈ later then
          (.reference (later.takeWhile (· != '}')), (later.dropWhile (· != '}')).tail)
        else (.literal '$', rest)
    | _ =>
        if rest.takeWhile isReferenceChar = [] then (.literal '$', rest)
        else (.reference (rest.takeWhile isReferenceChar), rest.dropWhile isReferenceChar)
  else (.literal char, rest)

theorem length_nextPart_le (char : Char) (rest : Text) :
    (nextPart char rest).2.length ≤ rest.length := by
  unfold nextPart
  split
  · split
    · simp
    next later =>
      have shorter := (List.dropWhile_suffix (l := later) (· != '}')).length_le
      split
      · simp only [List.length_tail, List.length_cons]
        omega
      · simp
    · split
      · simp
      · exact (List.dropWhile_suffix isReferenceChar).length_le
  · simp

def readTemplate : Text → List TemplatePart
  | [] => []
  | char :: rest => (nextPart char rest).1 :: readTemplate (nextPart char rest).2
termination_by text => text.length
decreasing_by
  have := length_nextPart_le char rest
  simp only [List.length_cons]
  omega

def groupNumber? (name : Text) : Option Nat :=
  if name ≠ [] ∧ name.all Char.isDigit then some (Nat.ofDigitChars 10 name 0) else none

def TemplatePart.text (group : Nat → Text) : TemplatePart → Text
  | .literal char => [char]
  | .reference name =>
      match groupNumber? name with
      | some index => group index
      | none => []

def expand (group : Nat → Text) (template : Text) : Text :=
  (readTemplate template).flatMap (TemplatePart.text group)

section

variable {char : Char} {rest : Text}

theorem readPattern_plain (plain : char ≠ '\\') :
    readPattern (char :: rest) = ⟨false, char⟩ :: readPattern rest := by
  cases rest <;> simp [readPattern, plain]

theorem readPattern_literalPattern (text : Text) :
    readPattern (literalPattern text) =
      text.map fun char => ⟨decide (char ∈ patternMarks), char⟩ := by
  induction text with
  | nil => rfl
  | cons char later ih =>
      rw [literalPattern] at ih ⊢
      rw [List.flatMap_cons, List.map_cons]
      by_cases mark : char ∈ patternMarks
      · simp [mark, readPattern, ih]
      · have plain : char ≠ '\\' := by
          rintro rfl
          exact mark (by decide)
        simp [mark, readPattern_plain plain, ih]

theorem readTemplate_dollars : readTemplate ('$' :: '$' :: rest) =
    .literal '$' :: readTemplate rest := by
  rw [readTemplate]
  rfl

theorem readTemplate_plain (plain : char ≠ '$') :
    readTemplate (char :: rest) = .literal char :: readTemplate rest := by
  rw [readTemplate]
  simp [nextPart, plain]

theorem readTemplate_literalTemplate (text : Text) :
    readTemplate (literalTemplate text) = text.map .literal := by
  induction text with
  | nil => rw [literalTemplate, List.flatMap_nil, readTemplate, List.map_nil]
  | cons char later ih =>
      rw [literalTemplate] at ih ⊢
      rw [List.flatMap_cons, List.map_cons]
      by_cases dollar : char = '$'
      · subst dollar
        simp [readTemplate_dollars, ih]
      · simp [dollar, readTemplate_plain dollar, ih]

theorem readTemplate_first_group : readTemplate (Place.nameStart.template ++ rest) =
    .reference ['1'] :: readTemplate rest := by
  change readTemplate ('$' :: '{' :: '1' :: '}' :: rest) = _
  rw [readTemplate]
  simp [nextPart]

end

theorem expand_literalTemplate (group : Nat → Text) (text : Text) :
    expand group (literalTemplate text) = text := by
  rw [expand, readTemplate_literalTemplate, List.flatMap_map]
  exact List.flatMap_singleton' text

theorem expand_first_group (group : Nat → Text) (rest : Text) :
    expand group (Place.nameStart.template ++ rest) = group 1 ++ expand group rest := by
  rw [expand, readTemplate_first_group]
  rfl

namespace Rule

def captured (rule : Rule) (hit : Hit) : Nat → Text
  | 0 => hit.boundary.toList ++ rule.target
  | 1 => hit.boundary.toList
  | _ => []

variable {rule : Rule} {opened : Bool} {text : Text} {hit : Hit}

theorem expand_template (found : rule.hit? opened text = some hit) :
    expand (rule.captured hit) rule.template = rule.replacement hit := by
  rw [template, replacement]
  cases place : rule.place with
  | anywhere =>
      rw [boundary_of_anywhere place found]
      exact expand_literalTemplate _ rule.substitute
  | nameStart =>
      rw [expand_first_group, expand_literalTemplate]
      rfl

theorem pattern_dateField (name : Text) : (dateField name).pattern =
    "(^|[^\\w$])".toList ++ literalPattern name ++ ": string;".toList := by
  have plain : literalPattern stringDeclaration = ": string;".toList := by decide
  rw [← plain, List.append_assoc, literalPattern, literalPattern, ← List.flatMap_append]
  rfl

theorem template_dateField (name : Text) : (dateField name).template =
    Place.nameStart.template ++ literalTemplate (name ++ dateDeclaration) := rfl

theorem literalPattern_inj {name other : Text}
    (same : literalPattern name = literalPattern other) : name = other := by
  have read := congrArg (fun pattern => (readPattern pattern).map PatternChar.char) same
  simpa [readPattern_literalPattern, Function.comp_def] using read

end Rule

open Rule

/-- The pattern of a rule for a date field spells the name, with a backslash before each mark and
before nothing else, and its template spells the name after a reference to the first group. So the
patterns of different names differ, and a match writes back what it found but for the type. -/
theorem dateField_spells_name (name : Text) :
    Table.ofDateFields [name] = [dateField name] ∧
      (∃ escaped,
        (dateField name).pattern = "(^|[^\\w$])".toList ++ escaped ++ ": string;".toList ∧
        (readPattern escaped).map PatternChar.char = name ∧
        ∀ read ∈ readPattern escaped, read.escaped = true ↔ read.char ∈ patternMarks) ∧
      (∀ other, (dateField other).pattern = (dateField name).pattern ↔ other = name) ∧
      readTemplate (dateField name).template =
        .reference ['1'] :: (name ++ ": Date;".toList).map .literal ∧
      (∀ group, expand group (dateField name).template = group 1 ++ name ++ ": Date;".toList) ∧
      ∀ opened text hit, (dateField name).hit? opened text = some hit →
        text = hit.boundary.toList ++ name ++ ": string;".toList ++ hit.rest ∧
        expand ((dateField name).captured hit) (dateField name).template =
          (dateField name).replacement hit ∧
        (dateField name).sweep opened text =
          hit.boundary.toList ++ name ++ ": Date;".toList ++
            (dateField name).sweep false hit.rest := by
  have expands (group : Nat → Text) :
      expand group (dateField name).template = group 1 ++ name ++ ": Date;".toList := by
    rw [template_dateField, expand_first_group, expand_literalTemplate, List.append_assoc]
    rfl
  refine ⟨rfl, ⟨literalPattern name, pattern_dateField name, ?_, ?_⟩, ?_, ?_, expands, ?_⟩
  · rw [readPattern_literalPattern, List.map_map]
    exact List.map_id name
  · intro read listed
    rw [readPattern_literalPattern] at listed
    obtain ⟨char, _, rfl⟩ := List.mem_map.mp listed
    exact decide_eq_true_iff
  · intro other
    constructor
    · intro same
      rw [pattern_dateField, pattern_dateField, List.append_left_inj, List.append_right_inj] at same
      exact literalPattern_inj same
    · rintro rfl
      rfl
  · rw [template_dateField, readTemplate_first_group, readTemplate_literalTemplate]
    rfl
  · intro opened text hit found
    have written := expand_template found
    refine ⟨?_, written, ?_⟩
    · have whole := eq_of_hit? found
      rwa [dateField, ← List.append_assoc] at whole
    · rw [sweep_hit found, ← written, expands]
      rfl

def markedName : Text :=
  "$\x7b1\x7d.$1$$\\".toList

theorem markedName_spelled :
    (dateField markedName).pattern =
        "(^|[^\\w$])\\$\\\x7b1\\\x7d\\.\\$1\\$\\$\\\\: string;".toList ∧
      (dateField markedName).template =
        "$\x7b1\x7d$$\x7b1\x7d.$$1$$$$\\: Date;".toList ∧
      (dateField markedName).hit? true ('(' :: markedName ++ ": string;)".toList) =
        some ⟨some '(', [')']⟩ ∧
      (dateField markedName).apply ('(' :: markedName ++ ": string;)".toList) =
        '(' :: markedName ++ ": Date;)".toList := by
  have found : (dateField markedName).hit? true ('(' :: markedName ++ ": string;)".toList) =
      some ⟨some '(', [')']⟩ := by
    decide +kernel
  obtain ⟨_, _, _, _, _, writes⟩ := dateField_spells_name markedName
  have rest : (dateField markedName).sweep false [')'] = [')'] := by decide +kernel
  have written := (writes _ _ _ found).2.2
  rw [rest] at written
  exact ⟨by decide, by decide, found, written⟩

end TypePolish
