import PageSketch.Proofs.Extraction.Quoting

/-! The parts of a form. A list line stands in the part that the nearest header in front of it opens; what a form
says of its style, its behavior and its button is read off the lines with these parts. -/
namespace PageSketch

namespace FormPart

def headed? (line : Text) : Option FormPart :=
  if Text.isListItem line then none else opened? line.lower

/-- The part that is open behind some lines, when `part` is open in front of them: the last header among them
counts. -/
def openBehind (part : FormPart) (lines : List Text) : FormPart :=
  ((lines.filterMap headed?).getLast?).getD part

/-- The lines, each with the part that the nearest header in front of it opens. -/
def located (lines : List Text) : List (FormPart × Text) :=
  lines.mapIdx fun place line => (general.openBehind (lines.take place), line)

def items (part : FormPart) (lines : List Text) : List Text :=
  (listLines part (located lines)).map Text.itemText

variable (part : FormPart)

private theorem behind_eq (line : Text) : part.behind line = (headed? line).getD part := by
  rw [behind, headed?]
  split
  · rfl
  · rfl

private theorem openBehind_cons (line : Text) (lines : List Text) :
    part.openBehind (line :: lines) = (part.behind line).openBehind lines := by
  rw [openBehind, openBehind, behind_eq]
  cases opens : headed? line with
  | none => rw [List.filterMap_cons_none opens, Option.getD_none]
  | some own => rw [List.filterMap_cons_some opens, List.getLast?_cons, Option.getD_some, Option.getD_some]

/-- The part that is handed on from line to line is that of the nearest header. -/
theorem placed_eq_mapIdx (lines : List Text) :
    part.placed lines = lines.mapIdx fun place line => (part.openBehind (lines.take place), line) := by
  induction lines generalizing part with
  | nil => rfl
  | cons line rest ih =>
    rw [placed, ih, List.mapIdx_cons]
    simp only [List.take_succ_cons, openBehind_cons]
    rfl

private theorem foldl_behind (lines : List Text) : lines.foldl behind part = part.openBehind lines := by
  induction lines generalizing part with
  | nil => rfl
  | cons line rest ih => rw [List.foldl_cons, ih, openBehind_cons]

end FormPart

namespace FormNotes

private theorem part_read (notes : FormNotes) (line : Text) :
    (notes.read line).part = (FormPart.headed? line).getD notes.part := by
  rw [read_eq, ← FormPart.behind_eq]
  rfl

private theorem part_foldl_read (notes : FormNotes) (lines : List Text) :
    (lines.foldl read notes).part = notes.part.openBehind lines := by
  rw [foldl_read, ← FormPart.foldl_behind]
  rfl

private theorem foldl_read_start (button : Text) (lines : List Text) :
    lines.foldl read { button := button } =
      { part := FormPart.general.openBehind lines
        button := ((FormPart.buttonLines (FormPart.located lines)).filterMap Text.firstQuoted).getLast?.getD button
        styling := FormPart.styling.items lines
        behavior := FormPart.behavior.items lines } := by
  rw [foldl_read, FormPart.foldl_behind, FormPart.placed_eq_mapIdx, noting, Text.firstQuotedLine,
    ← List.getLast?_filterMap]
  rfl

end FormNotes

namespace Intent

variable (intent : Intent)

/-- What a form says besides its fields. Only a header changes the part in which the lines behind it stand; the
list lines about the style and about the behavior are noted in order. The button is named by the last line that
quotes a text among the list lines about it and the lines that open its part, or else by the first such line
anywhere that speaks of its text; the message is the first text that a note on the behavior quotes for it. -/
theorem form_noted_by_parts :
    (∀ (notes : FormNotes) (line : Text), (notes.read line).part = (FormPart.headed? line).getD notes.part) ∧
      (∀ (notes : FormNotes) (lines : List Text),
        (lines.foldl FormNotes.read notes).part = notes.part.openBehind lines) ∧
      (intent.extract .form).options.entries =
        [("buttonText", .text (String.ofList
            (((FormPart.buttonLines (FormPart.located intent.lines)).filterMap Text.firstQuoted).getLast?.getD
              ((Text.firstQuotedLine (intent.lines.filter isButtonTextLine)).getD "Submit".toList)))),
          ("successMessage", .text (Text.quotedOr
            ((FormPart.behavior.items intent.lines).filter fun item => item.lower.mentionsAny ["success", "show"])
            "Success! Thank you for your submission.")),
          ("styling", .list ((FormPart.styling.items intent.lines).map String.ofList)),
          ("behavior", .list ((FormPart.behavior.items intent.lines).map String.ofList))] := by
  refine ⟨FormNotes.part_read, FormNotes.part_foldl_read, ?_⟩
  have notes := FormNotes.foldl_read_start (anyButtonText intent.lines) intent.lines
  rw [extract, extractForm, notes]
  exact OrderedMap.entries_ofList Kind.form.nodup_optionForms

end Intent

end PageSketch
