import PageSketch.Extraction.Kinds
import PageSketch.Proofs.Extraction.Notes
import PageSketch.Proofs.Text.Trim

/-! Wordings that are read from a description are never empty: quoted texts have at least one character, and what
the roles and the notes keep of their lines is the first or the last of these. -/
namespace PageSketch

variable {found : Option Text} {default : String}

private theorem Text.firstQuoted_ne_some_nil (text : Text) : firstQuoted text ≠ some [] := by
  intro found
  rw [firstQuoted_eq_find?] at found
  exact absurd (List.find?_some found) (by decide)

theorem Text.firstQuotedLine_ne_some_nil (lines : List Text) : firstQuotedLine lines ≠ some [] := by
  intro found
  obtain ⟨line, _, quoted⟩ := List.exists_of_findSome?_eq_some found
  exact firstQuoted_ne_some_nil line quoted

private theorem Text.getD_ne_nil {text : Text} (filled : found ≠ some []) (given : text ≠ []) :
    found.getD text ≠ [] := by
  cases found with
  | none => exact given
  | some quoted => exact fun empty => filled (congrArg some empty)

/-- A wording that is found, or else given, is not empty. -/
theorem wording_ne_empty (filled : found ≠ some []) (given : default ≠ "") :
    (found.map String.ofList).getD default ≠ "" := by
  cases found with
  | none => exact given
  | some text => exact fun empty => filled (congrArg some (String.ofList_eq_empty_iff.mp empty))

namespace Slot

variable {Role : Type} [DecidableEq Role]

def linesOf (roleOf? : Text → Option Role) (role : Role) (lines : List Text) : List Text :=
  lines.filter fun line => decide (roleOf? line.lower = some role)

private theorem foldl_offerTo (roleOf? : Text → Option Role) (slots : Role → Slot) (lines : List Text) (role : Role) :
    lines.foldl (offerTo roleOf?) slots role =
      ⟨(slots role).seen || !(linesOf roleOf? role lines).isEmpty,
        (slots role).text.or (Text.firstQuotedLine (linesOf roleOf? role lines))⟩ := by
  induction lines generalizing slots with
  | nil =>
    change slots role = ⟨(slots role).seen || false, (slots role).text.or none⟩
    rw [Bool.or_false, Option.or_none]
  | cons line rest ih =>
    rw [List.foldl_cons, ih, offerTo]
    by_cases plays : roleOf? line.lower = some role
    · have own : linesOf roleOf? role (line :: rest) = line :: linesOf roleOf? role rest :=
        List.filter_cons_of_pos (decide_eq_true plays)
      rw [if_pos plays, own, Text.firstQuotedLine_cons, ← Option.or_assoc, List.isEmpty_cons, Bool.not_false,
        Bool.or_true]
      rfl
    · have other : linesOf roleOf? role (line :: rest) = linesOf roleOf? role rest :=
        List.filter_cons_of_neg (by rw [decide_eq_true_iff]; exact plays)
      rw [if_neg plays, other]

theorem fill_eq (roleOf? : Text → Option Role) (lines : List Text) (role : Role) :
    fill roleOf? lines role =
      ⟨!(linesOf roleOf? role lines).isEmpty, Text.firstQuotedLine (linesOf roleOf? role lines)⟩ := by
  rw [fill, foldl_offerTo, Bool.false_or, Option.none_or]

/-- No lines leave an empty text in the slot of any role. -/
theorem text_fill_ne_some_nil (roleOf? : Text → Option Role) (lines : List Text) (role : Role) :
    (fill roleOf? lines role).text ≠ some [] := by
  rw [fill_eq]
  exact Text.firstQuotedLine_ne_some_nil _

theorem textOr_ne_empty (roleOf? : Text → Option Role) (lines : List Text) (role : Role)
    (given : default ≠ "") : (fill roleOf? lines role).textOr default ≠ "" :=
  wording_ne_empty (text_fill_ne_some_nil roleOf? lines role) given

theorem textWhenSeen?_ne_empty (roleOf? : Text → Option Role) (lines : List Text) (role : Role)
    (given : default ≠ "") :
    ∀ value ∈ (fill roleOf? lines role).textWhenSeen? default, value ≠ "" := by
  intro value found
  obtain ⟨_, same⟩ := Option.ite_none_right_eq_some.mp found
  exact Option.some.inj same ▸ textOr_ne_empty roleOf? lines role given

end Slot

/-- The lines of a form leave its button with a text. -/
theorem FormNotes.button_foldl_ne_nil {notes : FormNotes} (filled : notes.button ≠ []) (lines : List Text) :
    (lines.foldl FormNotes.read notes).button ≠ [] := by
  rw [foldl_read]
  exact Text.getD_ne_nil (Text.firstQuotedLine_ne_some_nil _) filled

theorem anyButtonText_ne_nil (lines : List Text) : anyButtonText lines ≠ [] :=
  Text.getD_ne_nil (Text.firstQuotedLine_ne_some_nil _) (by decide)

variable {Entry : Type} {entries defaults : List Entry}

theorem orDefaults_ne_nil (entries : List Entry) (given : defaults ≠ []) :
    orDefaults entries defaults ≠ [] := by
  unfold orDefaults
  split
  · exact given
  · rename_i some
    exact fun empty => some (List.isEmpty_iff.mpr empty)

theorem mem_orDefaults {entry : Entry} (member : entry ∈ orDefaults entries defaults) :
    entry ∈ entries ∨ entry ∈ defaults := by
  unfold orDefaults at member
  split at member
  · exact .inr member
  · exact .inl member

/-- A cell is trimmed and not empty. -/
theorem cell_of_mem_cells {isMark : Char → Bool} {text : Text} {cell : String}
    (member : cell ∈ cells isMark text) : cell ≠ "" ∧ Text.trim cell.toList = cell.toList := by
  obtain ⟨piece, kept, rfl⟩ := List.mem_map.mp member
  obtain ⟨trimmed, filled⟩ := List.mem_filter.mp kept
  obtain ⟨whole, _, rfl⟩ := List.mem_map.mp trimmed
  rw [Bool.not_eq_true', List.isEmpty_eq_false_iff] at filled
  refine ⟨fun empty => filled (String.ofList_eq_empty_iff.mp empty), ?_⟩
  rw [String.toList_ofList, Text.trim_trim]

/-- Wherever the columns of a table come from, each is trimmed and not empty. -/
theorem Intent.column_of_mem_tableColumns {intent : Intent} {column : String}
    (member : column ∈ intent.tableColumns) :
    column ≠ "" ∧ Text.trim column.toList = column.toList := by
  have found {texts : Option (List String)}
      (cut : ∀ cells ∈ texts, ∀ cell ∈ cells, cell ≠ "" ∧ Text.trim cell.toList = cell.toList)
      (listed : column ∈ texts.getD []) : column ≠ "" ∧ Text.trim column.toList = column.toList := by
    cases texts with
    | none => exact absurd listed List.not_mem_nil
    | some cells => exact cut cells rfl column listed
  rcases mem_orDefaults member with named | rest
  · refine found (fun cells given cell inside => ?_) named
    obtain ⟨text, _, rfl⟩ := Option.map_eq_some_iff.mp given
    exact cell_of_mem_cells inside
  · have given : ∀ column ∈ defaultColumns,
        column ≠ "" ∧ Text.trim column.toList = column.toList := by decide
    rcases mem_orDefaults rest with described | default
    · refine found (fun cells given cell inside => ?_) described
      obtain ⟨text, _, rfl⟩ := Option.map_eq_some_iff.mp given
      exact cell_of_mem_cells inside
    · exact given column default

/-- The number of columns that a gallery asks for is positive, also as an integer with 64 bits. -/
theorem toInt_galleryColumns (text : Text) :
    1 ≤ (Int64.ofNat ((galleryColumns? text).getD 3)).toInt := by
  cases asked : galleryColumns? text with
  | none => decide
  | some count =>
    obtain ⟨bounded, positive⟩ := Option.filter_eq_some_iff.mp asked
    obtain ⟨digits, _, read⟩ := Option.bind_eq_some_iff.mp bounded
    have small := of_decide_eq_true (Option.filter_eq_some_iff.mp read).2
    have large := of_decide_eq_true positive
    rw [Option.getD_some, Int64.toInt_ofNat_of_lt (by rw [maxInt64] at small; omega)]
    omega

theorem Intent.modalSize_mem (intent : Intent) : intent.modalSize ∈ ["small", "medium", "large"] := by
  simp only [Intent.modalSize]
  split
  · rename_i named
    simpa using (Option.filter_eq_some_iff.mp named).2
  · split
    · decide
    · split <;> decide

theorem Intent.copyright_ne_empty (intent : Intent) : intent.copyright ≠ "" := by
  refine wording_ne_empty (Text.firstQuotedLine_ne_some_nil _) fun empty => ?_
  change "© " ++ toString intent.year ++ " Company. All rights reserved." = "" at empty
  rw [String.append_eq_empty_iff] at empty
  exact absurd empty.2 (by decide)

end PageSketch
