import PageSketch.Proofs.Component.Entries
import PageSketch.Proofs.Program.Components
import PageSketch.Proofs.Source.Row

/-! What every component of a source holds: a name and directives that stand on a row as they are, and a
description of lines that are text in any block. -/
namespace PageSketch

open Source

def DirectiveValue.raw : DirectiveValue → Text
  | text value => value.toList
  | flag _ => []

/-- A directive that a row can hold, and that is read off that row again. -/
structure IsWritable (entry : String × DirectiveValue) : Prop where
  directive : IsDirective entry.1.toList entry.2.raw
  kept : .ofRaw (String.ofList entry.2.raw) = entry.2

/-- A line of a block that is text. -/
structure IsBlockText (text : Text) : Prop where
  line : IsLineText text
  plain : classify text = .content ∨ classify text = .blockOpen

theorem IsBlockText.ne_closing {text : Text} (block : IsBlockText text) : text ≠ ['}'] := by
  rintro rfl
  rcases block.plain with content | opening
  · cases content
  · cases opening

/-- What holds of a component of a source. -/
structure Component.IsStored (year : Int) (component : Component) : Prop where
  name : IsWritable ("component", .text component.name)
  directives : ∀ entry ∈ component.directives.entries, IsWritable entry
  description : ∃ texts, component.description = String.ofList (Text.joined ['\n'] texts) ∧
    ∀ text ∈ texts, IsBlockText text
  extraction : component =
    component.withExtraction ((Intent.ofComponent component year).extract component.kind)

private theorem DirectiveValue.raw_ofRaw (raw : String) : (DirectiveValue.ofRaw raw).raw = raw.toList := by
  unfold DirectiveValue.ofRaw
  split
  · rename_i empty
    rw [String.isEmpty_iff.mp empty]
    rfl
  · rfl

private theorem isWritable_of_isDirective {name value : Text} (directive : IsDirective name value) :
    IsWritable (String.ofList name, .ofRaw (String.ofList value)) := by
  have raw := DirectiveValue.raw_ofRaw (String.ofList value)
  rw [String.toList_ofList] at raw
  exact ⟨by rw [String.toList_ofList, raw]; exact directive, by rw [raw]⟩

private theorem isWritable_text {name value : String} (directive : IsDirective name.toList value.toList)
    (nonempty : value ≠ "") : IsWritable (name, .text value) := by
  refine ⟨directive, ?_⟩
  rw [DirectiveValue.raw, String.ofList_toList, DirectiveValue.ofRaw, if_neg]
  rwa [String.isEmpty_iff]

theorem IsWritable.ne_empty {name value : String} (writable : IsWritable (name, .text value)) :
    value ≠ "" := by
  rintro rfl
  exact absurd writable.kept (by simp [DirectiveValue.raw, DirectiveValue.ofRaw])

theorem isWritable_word {name value : String} (isNamed : name.toList ≠ [])
    (isName : name.toList.all isNameChar = true) (nonempty : value ≠ "")
    (isWord : value.toList.all isNameChar = true) : IsWritable (name, .text value) := by
  rw [List.all_eq_true] at isName isWord
  refine isWritable_text ⟨isNamed, isName, ?_, ?_⟩ nonempty
  · exact fun present => absurd (isWord _ present) (by decide)
  · exact Text.trim_eq_self
      (fun char first => isBlank_of_isNameChar (isWord char (List.mem_of_mem_head? first)))
      fun char last => isBlank_of_isNameChar (isWord char (List.mem_of_getLast? last))

private theorem isWritable_placeholder (count : Nat) :
    IsWritable ("component", .text s!"Component{count}") := by
  have same : s!"Component{count}" = "Component" ++ Nat.repr count := rfl
  have letters : "Component".toList.all isNameChar = true := by decide
  have digits : (Nat.toDigits 10 count).all isNameChar = true := by
    rw [List.all_eq_true]
    intro digit member
    have isDigit := Nat.isDigit_of_mem_toDigits (by decide) (by decide) member
    simp [isNameChar, Char.isAlphanum, isDigit]
  rw [same]
  refine isWritable_word (by simp) (by decide) (by simp) ?_
  rw [String.toList_append, Nat.toList_repr, List.all_append, letters, digits]
  rfl

variable {year : Int} {source : Text} {passage : Passage}

private theorem isLineText_of_mem_live (cut : passage ∈ passages (lines source)) {line : Line}
    (counting : line ∈ passage.live) : IsLineText line.text :=
  isLineText_of_mem_lines (mem_of_mem_passages cut (passage.live_sublist.subset counting))

private theorem isWritable_name (cut : passage ∈ passages (lines source)) (place : Nat) :
    IsWritable ("component", .text (passage.name place)) := by
  unfold Passage.name
  split
  · exact isWritable_placeholder (place + 1)
  · rename_i named
    obtain ⟨key, same, kind⟩ := Line.kind_of_start passage.started
    have directive := isDirective_of_classify
      (isLineText_of_mem_live cut (List.mem_cons_self)) kind
    refine isWritable_text ?_ ?_
    · rw [← same, String.toList_ofList, String.toList_ofList]
      exact directive
    · rw [ne_eq, String.ofList_eq_empty_iff, ← List.isEmpty_iff]
      exact named

/-- The directives of a passage can be written. -/
theorem isWritable_of_mem_settings (cut : passage ∈ passages (lines source))
    {entry : String × DirectiveValue} (set : entry ∈ settings passage.live) : IsWritable entry := by
  obtain ⟨line, counting, setting⟩ := List.mem_filterMap.mp set
  unfold Line.setting? at setting
  split at setting
  · rename_i name value kind
    cases setting
    exact isWritable_of_isDirective
      (isDirective_of_classify (isLineText_of_mem_live cut counting) kind)
  · cases setting

private theorem isBlockText_of_mem_block (cut : passage ∈ passages (lines source)) {line : Line}
    (inBlock : line ∈ passage.block) (isText : line.isText = true) : IsBlockText line.text := by
  have counting : line ∈ passage.live :=
    List.mem_cons_of_mem _ (List.mem_append_right _ inBlock)
  have noClose := Passage.not_brace_of_mem_block inBlock
  refine ⟨isLineText_of_mem_live cut counting, ?_⟩
  change line.kind = .content ∨ line.kind = .blockOpen
  cases kind : line.kind with
  | content => exact .inl rfl
  | blockOpen => exact .inr rfl
  | blockClose => exact absurd (Line.kind_eq_blockClose.mp kind) noClose
  | directive name value => simp [Line.isText, kind] at isText
  | nameless => simp [Line.isText, kind] at isText

/-- Every component of a source can be written as a source again. -/
theorem isStored_of_mem {component : Component}
    (member : component ∈ (Program.ofSource year source).components) : component.IsStored year := by
  obtain ⟨passage, cut, place, rfl⟩ := exists_passage_of_mem member
  constructor
  case name => exact isWritable_name cut place
  case directives =>
    intro entry stored
    exact isWritable_of_mem_settings cut (OrderedMap.mem_of_mem_entries_ofList stored)
  case description =>
    refine ⟨(passage.block.filter Line.isText).map Line.text, rfl, ?_⟩
    intro text member
    obtain ⟨line, kept, rfl⟩ := List.mem_map.mp member
    obtain ⟨inBlock, isText⟩ := List.mem_filter.mp kept
    exact isBlockText_of_mem_block cut inBlock isText
  case extraction => rfl

end PageSketch
