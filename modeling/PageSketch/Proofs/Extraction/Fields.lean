import Mathlib.Data.List.Forall2
import PageSketch.Proofs.Extraction.Wording
import PageSketch.Proofs.Pattern.Words

/-! The fields of a form come from its lines: a sign that a description shows is shown by one of its lines, and
the field is read from the first of them. -/
namespace PageSketch

open Pattern

/-- A sign that a description shows in lower case is shown by one of its lines. -/
theorem FieldRule.occursIn_lowered_iff {rule : FieldRule} (listed : rule ∈ fieldRules) (intent : Intent) :
    rule.sign.occursIn intent.lowered = true ↔
      ∃ line ∈ intent.lines, rule.sign.occursIn line.lower = true := by
  have byLine {pattern : Pattern} (stays : pattern.staysInWord = true) (filled : pattern.occursIn [] = false) :
      pattern.occursIn intent.lowered = true ↔ ∃ line ∈ intent.lines, pattern.occursIn line.lower = true :=
    occursIn_lower_iff stays filled intent.description
  have inWord : ∀ rule ∈ fieldRules.take 1 ++ fieldRules.drop 2,
      rule.sign.staysInWord = true ∧ rule.sign.occursIn [] = false := by decide +kernel
  -- The second sign, for the name of a person, is the only one that goes over blanks.
  have parts : fieldRules = fieldRules.take 1 ++ fieldRules[1] :: fieldRules.drop 2 := rfl
  rw [parts, List.mem_append, List.mem_cons, or_left_comm, ← List.mem_append] at listed
  rcases listed with rfl | other
  · have same (text : Text) : fieldRules[1].sign.occursIn text = (word (literal "name")).occursIn text :=
      occursIn_optional_word rfl (by decide) text
    simp only [same]
    exact byLine (by decide +kernel) (by decide +kernel)
  · obtain ⟨stays, filled⟩ := inWord rule other
    exact byLine stays filled

private theorem bareChoice_sublist (text : Text) : (bareChoice text).Sublist text := by
  have bare := (List.dropWhile_sublist Text.isQuote).trans (Text.trim_sublist text)
  rw [bareChoice, Text.dropEndWhile_eq_rdropWhile]
  exact (Text.trim_sublist _).trans ((List.rdropWhile_prefix _ _).sublist.trans bare)

/-- A choice that a line gives is a text between commas, without blanks around it. -/
theorem choice_of_mem_choicesOn {line : Text} {choice : String} (member : choice ∈ choicesOn line) :
    choice ≠ "" ∧ Text.trim choice.toList = choice.toList ∧ ',' ∉ choice.toList := by
  obtain ⟨bare, kept, rfl⟩ := List.mem_map.mp member
  obtain ⟨given, filled⟩ := List.mem_filter.mp kept
  obtain ⟨piece, cut, rfl⟩ := List.mem_map.mp given
  rw [Bool.not_eq_true', List.isEmpty_eq_false_iff] at filled
  rw [String.toList_ofList]
  refine ⟨fun empty => filled (String.ofList_eq_empty_iff.mp empty), Text.trim_trim _, fun comma => ?_⟩
  have absent := Text.unmarked_of_mem_pieces cut ',' ((bareChoice_sublist piece).subset comma)
  cases absent

/-- What a form offers to choose from suits its control. -/
structure Field.HasChoices (field : Field) : Prop where
  some : field.control = .select → field.choices ≠ []
  each : ∀ choice ∈ field.choices, choice ≠ "" ∧ Text.trim choice.toList = choice.toList ∧
    ',' ∉ choice.toList
  none : field.control ≠ .select → field.choices = []

private theorem FieldRule.hasChoices_fieldOn (rule : FieldRule) (required : Bool) (line : Text) :
    (rule.fieldOn required line).HasChoices := by
  have choices : (rule.fieldOn required line).choices =
      if (rule.fieldOn required line).control = .select then orDefaults (choicesOn line) defaultChoices
      else [] := rfl
  constructor
  case some =>
    intro select
    rw [choices, if_pos select]
    exact orDefaults_ne_nil _ (by decide)
  case each =>
    intro choice member
    rw [choices] at member
    split at member
    · rcases mem_orDefaults member with given | default
      · exact choice_of_mem_choicesOn given
      · have all : ∀ choice ∈ defaultChoices, choice ≠ "" ∧ Text.trim choice.toList = choice.toList ∧
            ',' ∉ choice.toList := by decide
        exact all choice default
    · cases member
  case none =>
    intro other
    rw [choices, if_neg other]

/-- The field of a rule as the first line that shows its sign gives it. -/
def FieldRule.IsReadFrom (rule : FieldRule) (required : Bool) (lines : List Text) (field : Field) : Prop :=
  ∃ earlier line later, lines = earlier ++ line :: later ∧
    (∀ other ∈ earlier, rule.sign.occursIn other.lower = false) ∧
    rule.sign.occursIn line.lower = true ∧ field = rule.fieldOn required line

namespace Intent

variable (intent : Intent)

/-- The field of a rule is read from the first line that shows its sign, if there is one. -/
theorem formFields_eq :
    intent.formFields =
      (fieldRules.filter fun rule => rule.sign.occursIn intent.lowered).map fun rule =>
        rule.fieldOn (requiredSign.occursIn intent.lowered)
          ((intent.lines.find? fun line => rule.sign.occursIn line.lower).getD []) := by
  have line (rule : FieldRule) :
      ((intent.lines.map fun line => (line, line.lower)).find? fun pair =>
          rule.sign.occursIn pair.2).map Prod.fst =
        intent.lines.find? fun line => rule.sign.occursIn line.lower := by
    rw [List.find?_map, Option.map_map]
    exact Option.map_id'
  refine congrArg (fun fieldOf => List.map fieldOf _) (funext fun rule => ?_)
  exact congrArg (fun line => rule.fieldOn _ (line.getD [])) (line rule)

/-- A rule whose sign the description shows finds its line. -/
theorem isReadFrom_fieldOn {rule : FieldRule}
    (member : rule ∈ fieldRules.filter fun rule => rule.sign.occursIn intent.lowered) (required : Bool) :
    rule.IsReadFrom required intent.lines (rule.fieldOn required
      ((intent.lines.find? fun line => rule.sign.occursIn line.lower).getD [])) := by
  obtain ⟨listed, shown⟩ := List.mem_filter.mp member
  obtain ⟨witness, present, occurs⟩ := (FieldRule.occursIn_lowered_iff listed intent).mp shown
  have onLine : (intent.lines.find? fun line => rule.sign.occursIn line.lower).isSome = true :=
    List.find?_isSome.mpr ⟨witness, present, occurs⟩
  obtain ⟨line, found⟩ := Option.isSome_iff_exists.mp onLine
  obtain ⟨occurs, earlier, later, same, hidden⟩ := List.find?_eq_some_iff_append.mp found
  refine ⟨earlier, line, later, same, fun other before => ?_, occurs, ?_⟩
  · simpa using hidden other before
  · rw [found, Option.getD_some]

private theorem forall₂_formFields :
    List.Forall₂ (fun rule field =>
        rule.IsReadFrom (requiredSign.occursIn intent.lowered) intent.lines field)
      (fieldRules.filter fun rule => rule.sign.occursIn intent.lowered) intent.formFields := by
  rw [formFields_eq, List.forall₂_map_right_iff, List.forall₂_same]
  exact fun rule member => intent.isReadFrom_fieldOn member _

private theorem nodup_names_formFields : (intent.formFields.map Field.name).Nodup := by
  have names : intent.formFields.map Field.name =
      (fieldRules.filter fun rule => rule.sign.occursIn intent.lowered).map FieldRule.name := by
    rw [formFields_eq, List.map_map]
    rfl
  have distinct : (fieldRules.map FieldRule.name).Nodup := by decide
  rw [names]
  exact distinct.sublist (List.filter_sublist.map FieldRule.name)

/-- The fields of a form are one for each rule whose sign the description shows, in the order of the rules. A
sign is shown by the description just if one of its lines shows it, and the field is read from the first such
line. So the names differ, all fields alike must be filled in or not, and the fields to select from have choices
that could be written on a line, while the others have none. -/
theorem formFields_read_from_lines :
    (∀ rule ∈ fieldRules, rule.sign.occursIn intent.lowered = true ↔
        ∃ line ∈ intent.lines, rule.sign.occursIn line.lower = true) ∧
      List.Forall₂ (fun rule field =>
          rule.IsReadFrom (requiredSign.occursIn intent.lowered) intent.lines field)
        (fieldRules.filter fun rule => rule.sign.occursIn intent.lowered) intent.formFields ∧
      (intent.formFields.map Field.name).Nodup ∧
      ∀ field ∈ intent.formFields,
        field.required = requiredSign.occursIn intent.lowered ∧ field.HasChoices := by
  refine ⟨fun rule listed => FieldRule.occursIn_lowered_iff listed intent, intent.forall₂_formFields,
    intent.nodup_names_formFields, fun field member => ?_⟩
  rw [formFields_eq] at member
  obtain ⟨rule, _, rfl⟩ := List.mem_map.mp member
  exact ⟨rfl, rule.hasChoices_fieldOn _ _⟩

end Intent

end PageSketch
