import PageSketch.Extraction.Form
import PageSketch.Proofs.Text.Quoted

/-! What the lines of a form note. A line that is no list line may open a part, and the list lines behind it
stand in that part; all notes are read off the lines with the parts that they stand in. -/
namespace PageSketch

namespace FormPart

/-- The part that is open behind a line, when `part` is open in front of it. -/
def behind (part : FormPart) (line : Text) : FormPart :=
  if Text.isListItem line then part else (opened? line.lower).getD part

/-- The lines of a form, each with the part that is open in front of it. -/
def placed : FormPart → List Text → List (FormPart × Text)
  | _, [] => []
  | part, line :: rest => (part, line) :: placed (part.behind line) rest

def listLines (part : FormPart) (placed : List (FormPart × Text)) : List Text :=
  (placed.filter fun (own, line) => Text.isListItem line && decide (own = part)).map Prod.snd

/-- Whether the text of the button may stand on a line: a list line in the part of the button, or a line that
opens that part. -/
def isOnButton (part : FormPart) (line : Text) : Bool :=
  if Text.isListItem line then decide (part = button) else decide (opened? line.lower = some button)

def buttonLines (placed : List (FormPart × Text)) : List Text :=
  (placed.filter fun (part, line) => isOnButton part line).map Prod.snd

end FormPart

namespace FormNotes

/-- The notes after some more lines, the last of which leaves `part` open. -/
def noting (notes : FormNotes) (placed : List (FormPart × Text)) (part : FormPart) : FormNotes where
  part := part
  button := (Text.firstQuotedLine (FormPart.buttonLines placed).reverse).getD notes.button
  styling := notes.styling ++ (FormPart.listLines .styling placed).map Text.itemText
  behavior := notes.behavior ++ (FormPart.listLines .behavior placed).map Text.itemText

private theorem noting_nil (notes : FormNotes) : notes.noting [] notes.part = notes := by
  simp [noting, FormPart.buttonLines, FormPart.listLines, Text.firstQuotedLine]

private theorem noting_noting (notes : FormNotes) (earlier later : List (FormPart × Text)) (between last : FormPart) :
    (notes.noting earlier between).noting later last = notes.noting (earlier ++ later) last := by
  have button : Text.firstQuotedLine (FormPart.buttonLines (earlier ++ later)).reverse =
      (Text.firstQuotedLine (FormPart.buttonLines later).reverse).or
        (Text.firstQuotedLine (FormPart.buttonLines earlier).reverse) := by
    rw [FormPart.buttonLines, List.filter_append, List.map_append, List.reverse_append,
      Text.firstQuotedLine_append]
    rfl
  simp only [noting, button, Option.getD_or, FormPart.listLines, List.filter_append, List.map_append,
    List.append_assoc]

private theorem noting_listLine (notes : FormNotes) {line : Text} (item : Text.isListItem line = true)
    (part : FormPart) :
    notes.noting [(part, line)] part =
      { part := part
        button := if part = .button then (Text.firstQuoted line).getD notes.button else notes.button
        styling := if part = .styling then notes.styling ++ [Text.itemText line] else notes.styling
        behavior := if part = .behavior then notes.behavior ++ [Text.itemText line] else notes.behavior } := by
  cases part <;>
    simp [noting, FormPart.listLines, FormPart.buttonLines, FormPart.isOnButton, Text.firstQuotedLine, item]

private theorem noting_otherLine (notes : FormNotes) {line : Text} (other : Text.isListItem line = false)
    (before part : FormPart) :
    notes.noting [(before, line)] part =
      { notes with
        part := part
        button :=
          if FormPart.opened? line.lower = some .button then (Text.firstQuoted line).getD notes.button
          else notes.button } := by
  by_cases opens : FormPart.opened? line.lower = some .button <;>
    simp [noting, FormPart.listLines, FormPart.buttonLines, FormPart.isOnButton, Text.firstQuotedLine, other,
      opens]

theorem read_eq (notes : FormNotes) (line : Text) :
    notes.read line = notes.noting [(notes.part, line)] (notes.part.behind line) := by
  cases item : Text.isListItem line with
  | true =>
    have stays : notes.part.behind line = notes.part := if_pos item
    rw [stays, noting_listLine notes item, read, if_pos item]
    obtain ⟨part, button, styling, behavior⟩ := notes
    cases part with
    | button => simp only [Text.firstQuoted_itemText]; rfl
    | general | fields | styling | behavior => rfl
  | false =>
    have moves : notes.part.behind line = (FormPart.opened? line.lower).getD notes.part :=
      if_neg (by rw [item]; exact Bool.false_ne_true)
    rw [moves, noting_otherLine notes item, read, if_neg (by rw [item]; exact Bool.false_ne_true)]
    cases FormPart.opened? line.lower with
    | none => rfl
    | some part => cases part <;> rfl

theorem foldl_read (notes : FormNotes) (lines : List Text) :
    lines.foldl read notes =
      notes.noting (notes.part.placed lines) (lines.foldl FormPart.behind notes.part) := by
  induction lines generalizing notes with
  | nil => exact notes.noting_nil.symm
  | cons line rest ih =>
    -- What the line leaves open is open in front of the rest.
    rw [List.foldl_cons, List.foldl_cons, FormPart.placed, ih, read_eq, noting_noting]
    rfl

end FormNotes

end PageSketch
