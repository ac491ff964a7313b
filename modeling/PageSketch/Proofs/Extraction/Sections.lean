import PageSketch.Extraction.Kinds
import PageSketch.Proofs.Extraction.Parts
import PageSketch.Proofs.Pattern.Reading
import PageSketch.Proofs.Text.Occurrence
import PageSketch.Proofs.Text.Quoted

/-! Accordions and tabs: each header line opens a section, and the lines up to the next header are its content. -/
namespace PageSketch

open Pattern

private theorem Text.afterLetters?_eq_some_iff {mark text rest : Text} :
    afterLetters? mark text = some rest ↔
      ∃ letters, text = letters ++ rest ∧ letters.map Char.toLower = mark := by
  induction mark generalizing text with
  | nil =>
    rw [afterLetters?, Option.some_inj]
    constructor
    · rintro rfl
      exact ⟨[], rfl, rfl⟩
    · rintro ⟨letters, rfl, spelt⟩
      rw [List.map_eq_nil_iff.mp spelt, List.nil_append]
  | cons letter marks ih =>
    cases text with
    | nil =>
      constructor
      · rintro ⟨⟩
      · rintro ⟨letters, same, spelt⟩
        rw [(List.append_eq_nil_iff.mp same.symm).1] at spelt
        cases spelt
    | cons first others =>
      rw [afterLetters?, Option.ite_none_right_eq_some, ih]
      constructor
      · rintro ⟨same, letters, rfl, rfl⟩
        exact ⟨first :: letters, rfl, by rw [List.map_cons, same]⟩
      · rintro ⟨letters, same, spelt⟩
        cases letters with
        | nil => cases spelt
        | cons head tail =>
          obtain ⟨rfl, rfl⟩ := List.cons.inj same
          obtain ⟨own, others⟩ := List.cons.inj spelt
          exact ⟨own, tail, rfl, others⟩

/-- What a text has between two quotation marks at its start, with nothing but blanks behind them. -/
def pairBody? : Text → Option Text
  | [] => none
  | opening :: rest =>
    if Text.isQuote opening then
      match rest.dropWhile (!Text.isQuote ·) with
      | [] => none
      | _ :: after =>
        if rest.takeWhile (!Text.isQuote ·) ≠ [] ∧ after.dropWhile Text.isBlank = [] then
          some (rest.takeWhile (!Text.isQuote ·))
        else none
    else none

private theorem firstGroup?_quotedItem (line : Text) :
    quotedItem.firstGroup? line =
      (Text.after? "-".toList line).bind fun rest => pairBody? (rest.dropWhile Text.isBlank) := by
  rw [firstGroup?, find?_eq_matchAt? (fun _ _ => rfl)]
  change ((next (next (next (next (next (next (next textStart (literal "-")) blanks) (one Text.isQuote))
    (group (several (!Text.isQuote ·)))) (one Text.isQuote)) blanks) textEnd).useAt none line some).bind _ = _
  simp only [useAt, useAt_literal, useAt_several, blanks, useAt_run, Option.isNone_none, if_true,
    Option.bind_assoc]
  refine congrArg (Option.bind _) (funext fun rest => ?_)
  cases rest.dropWhile Text.isBlank with
  | nil => rfl
  | cons opening inner =>
    rw [pairBody?, useAt]
    cases opens : Text.isQuote opening with
    | false => rfl
    | true =>
      have closes := List.head?_dropWhile_not (!Text.isQuote ·) inner
      rw [if_pos rfl, if_pos rfl]
      by_cases filled : inner.takeWhile (!Text.isQuote ·) = []
      · rw [if_pos filled]
        cases inner.dropWhile (!Text.isQuote ·) with
        | nil => rfl
        | cons closing after => exact (if_neg fun both => both.1 filled).symm
      · rw [if_neg filled]
        cases behind : inner.dropWhile (!Text.isQuote ·) with
        | nil => rfl
        | cons closing after =>
          rw [behind] at closes
          rw [useAt, if_pos (by simpa using closes)]
          by_cases blank : after.dropWhile Text.isBlank = []
          · rw [if_pos (List.isEmpty_iff.mpr blank)]
            exact (congrArg some (text_takeWhile _ inner)).trans (if_pos ⟨filled, blank⟩).symm
          · rw [if_neg (by rw [List.isEmpty_iff]; exact blank)]
            exact (if_neg fun both => blank both.2).symm

/-- A list line that is one quoted text: a dash, and between two quotation marks a text without any, with nothing
but blanks around them. -/
inductive IsQuotedItem (body : Text) : Text → Prop
  | quoted {left right : Text} {opening closing : Char} (before : ∀ char ∈ left, Text.isBlank char = true)
      (opens : Text.isQuote opening = true) (filled : body ≠ [])
      (plain : ∀ char ∈ body, Text.isQuote char = false) (closes : Text.isQuote closing = true)
      (after : ∀ char ∈ right, Text.isBlank char = true) :
      IsQuotedItem body ('-' :: (left ++ opening :: (body ++ closing :: right)))

private theorem pairBody?_eq_some_iff {text body : Text} :
    pairBody? text = some body ↔ ∃ opening closing right, text = opening :: (body ++ closing :: right) ∧
      Text.isQuote opening = true ∧ body ≠ [] ∧ (∀ char ∈ body, Text.isQuote char = false) ∧
      Text.isQuote closing = true ∧ ∀ char ∈ right, Text.isBlank char = true := by
  constructor
  · intro found
    cases text with
    | nil => cases found
    | cons opening rest =>
      rw [pairBody?] at found
      split at found
      · rename_i opens
        split at found
        · cases found
        · rename_i closing right behind
          split at found
          · rename_i both
            have whole : rest.takeWhile (!Text.isQuote ·) ++ closing :: right = rest := by
              rw [← behind, List.takeWhile_append_dropWhile]
            have closes := List.head?_dropWhile_not (!Text.isQuote ·) rest
            rw [behind] at closes
            cases found
            refine ⟨opening, closing, right, by rw [whole], opens, both.1, fun char member => ?_,
              by simpa using closes, List.dropWhile_eq_nil_iff.mp both.2⟩
            have plain := List.mem_takeWhile_imp member
            simpa using plain
          · cases found
      · cases found
  · rintro ⟨opening, closing, right, rfl, opens, filled, plain, closes, after⟩
    rw [pairBody?, if_pos opens, Text.takeWhile_plain plain closes, Text.dropWhile_plain plain closes]
    exact if_pos ⟨filled, List.dropWhile_eq_nil_iff.mpr after⟩

/-- The list lines that are one quoted text are those that look like one. -/
theorem firstGroup?_quotedItem_eq_some_iff {line body : Text} :
    quotedItem.firstGroup? line = some body ↔ IsQuotedItem body line := by
  rw [firstGroup?_quotedItem, Option.bind_eq_some_iff]
  constructor
  · rintro ⟨rest, dash, found⟩
    obtain ⟨opening, closing, right, behind, opens, filled, plain, closes, after⟩ :=
      pairBody?_eq_some_iff.mp found
    rw [Text.after?_eq_some_iff.mp dash, ← List.takeWhile_append_dropWhile (p := Text.isBlank) (l := rest),
      behind]
    exact .quoted (fun _ => List.mem_takeWhile_imp) opens filled plain closes after
  · rintro ⟨before, opens, filled, plain, closes, after⟩
    refine ⟨_, rfl, ?_⟩
    rw [List.dropWhile_append_of_pos before, List.dropWhile_cons_of_neg ?_]
    · exact pairBody?_eq_some_iff.mpr ⟨_, _, _, rfl, opens, filled, plain, closes, after⟩
    · intro blank
      rw [Text.isQuote_of_isBlank blank] at opens
      cases opens

private theorem behind?_sameLetter {letters : Text} (noK : 'k' ∉ letters) (noS : 's' ∉ letters) (text : Text) :
    behind? sameLetter letters text = Text.afterLetters? letters text := by
  induction letters generalizing text with
  | nil => rfl
  | cons letter letters ih =>
    rw [List.mem_cons, not_or] at noK noS
    cases text with
    | nil => rfl
    | cons first rest =>
      rw [behind?, Text.afterLetters?, sameLetter_eq (Ne.symm noK.1) (Ne.symm noS.1), ih noK.2 noS.2]
      simp only [beq_iff_eq]

/-- What a line says behind `a:`, in any letter case, and the blanks that follow it, or else all it says. -/
def answerText (line : Text) : Text :=
  ((Text.afterLetters? "a:".toList line).map fun rest => rest.dropWhile Text.isBlank).getD line

private theorem withoutAnswerMark_eq (line : Text) : withoutAnswerMark line = answerText line := by
  have noK : 'k' ∉ "a:".toList := by decide
  have noS : 's' ∉ "a:".toList := by decide
  rw [withoutAnswerMark, answerText, find?_eq_matchAt? (fun _ _ => rfl), ← behind?_sameLetter noK noS]
  change ((((next (next textStart (caseless "a:")) blanks).useAt none line some).map (·.rest)).getD line) = _
  simp only [useAt, useAt_caseless, blanks, useAt_run, Option.isNone_none, if_true]
  cases behind? sameLetter "a:".toList line <;> rfl

/-- A header line and the title that it gives: a line that starts with two hashes or, in any letter case, with the
mark, or a list line that is one quoted text. -/
inductive IsHeader (mark : Text) : (line title : Text) → Prop
  | hashes (rest : Text) : IsHeader mark ('#' :: '#' :: rest) (Text.unquote (rest.dropWhile (· == '#')))
  | marked {letters : Text} (spelt : letters.map Char.toLower = mark) (rest : Text) :
      IsHeader mark (letters ++ rest) (Text.unquote rest)
  | quoted {line body : Text} (item : IsQuotedItem body line) : IsHeader mark line (Text.trim body)

private theorem headerTitle?_eq_some_iff {mark : String} {first : Char} {letters line title : Text}
    (spelt : mark.toList = first :: letters) (noHash : first ≠ '#') (noDash : first ≠ '-') :
    headerTitle? mark line = some title ↔ IsHeader mark.toList line title := by
  unfold headerTitle?
  constructor
  · intro found
    split at found
    · rename_i rest hashes
      rw [Text.after?_eq_some_iff.mp hashes, ← Option.some.inj found]
      exact .hashes rest
    · split at found
      · rename_i rest marked
        obtain ⟨letters, rfl, same⟩ := Text.afterLetters?_eq_some_iff.mp marked
        rw [← Option.some.inj found]
        exact .marked same rest
      · obtain ⟨body, quoted, rfl⟩ := Option.map_eq_some_iff.mp found
        exact .quoted (firstGroup?_quotedItem_eq_some_iff.mp quoted)
  · intro header
    -- No line has two of the forms, because no two of them start with the same character.
    cases header with
    | hashes rest => rfl
    | @marked own same rest =>
      have unhashed : Text.after? ['#', '#'] (own ++ rest) = none := by
        rw [Option.eq_none_iff_forall_ne_some]
        intro behind hashes
        rw [spelt] at same
        cases own with
        | nil => cases same
        | cons head tail =>
          have hash : head = '#' := (List.cons.inj (Text.after?_eq_some_iff.mp hashes)).1
          have lowered : head.toLower = first := (List.cons.inj same).1
          rw [hash] at lowered
          exact noHash lowered.symm
      rw [unhashed, Text.afterLetters?_eq_some_iff.mpr ⟨own, rfl, same⟩]
    | quoted item =>
      have quoted := firstGroup?_quotedItem_eq_some_iff.mpr item
      cases item with
      | quoted before opens filled plain closes after =>
        have unmarked (rest : Text) : Text.afterLetters? mark.toList ('-' :: rest) = none := by
          rw [spelt]
          exact if_neg (Ne.symm noDash)
        rw [quoted, unmarked]
        rfl

/-- The section of a header line: its title, and one after the other the lines up to the next header, each
without the mark of an answer and with a space behind it. -/
def Part.toSection {mark : String} (part : Part (headerTitle? mark)) : Section where
  title := String.ofList part.head
  content := String.ofList (part.body.flatMap fun line => answerText line ++ [' '])

def addContent (entry : Text × Text) (line : Text) : Text × Text :=
  (entry.1, entry.2 ++ withoutAnswerMark line ++ [' '])

private theorem addSectionLine_eq (mark : String) :
    addSectionLine mark = addLine (headerTitle? mark) (fun title => (title, [])) addContent := by
  funext sections line
  rw [addSectionLine, addLine]
  cases headerTitle? mark line with
  | some title => rfl
  | none => cases sections.getLast? <;> rfl

private theorem foldl_addContent (entry : Text × Text) (body : List Text) :
    body.foldl addContent entry = (entry.1, entry.2 ++ body.flatMap fun line => answerText line ++ [' ']) := by
  induction body generalizing entry with
  | nil => rw [List.flatMap_nil, List.append_nil]; rfl
  | cons line rest ih =>
    rw [List.foldl_cons, ih, List.flatMap_cons]
    simp only [addContent, withoutAnswerMark_eq, List.append_assoc]

private theorem collectSections_eq (mark : String) (lines : List Text) :
    collectSections mark lines = (parts (headerTitle? mark) lines).map Part.toSection := by
  rw [collectSections, addSectionLine_eq, foldl_addLine, List.map_map]
  refine List.map_congr_left fun part _ => ?_
  rw [Function.comp_apply, foldl_addContent]
  rfl

/-- A kind whose items are sections. -/
structure Sectioning where
  kind : Kind
  /-- What marks a header line, in lower case. -/
  mark : String
  /-- The sections of a description without a header line. -/
  defaults : List Section
  item : Section → Item

def sectionings : List Sectioning :=
  [⟨.accordion, "q:", defaultQuestions, .accordionEntry⟩, ⟨.tabs, "tab:", defaultTabs, .tabEntry⟩]

private theorem Sectioning.items_extract {sectioning : Sectioning} (listed : sectioning ∈ sectionings)
    (intent : Intent) :
    (intent.extract sectioning.kind).items =
      (if intent.lines.any fun line => (headerTitle? sectioning.mark line).isSome then
        collectSections sectioning.mark intent.lines
      else sectioning.defaults).map sectioning.item := by
  have items : (intent.extract sectioning.kind).items =
      (orDefaults (collectSections sectioning.mark intent.lines) sectioning.defaults).map sectioning.item := by
    simp only [sectionings, List.mem_cons, List.not_mem_nil, or_false] at listed
    rcases listed with rfl | rfl <;> rfl
  rw [items, collectSections_eq, orDefaults_map_parts]

private theorem Sectioning.headerTitle?_eq_some_iff {sectioning : Sectioning} (listed : sectioning ∈ sectionings)
    (line title : Text) :
    headerTitle? sectioning.mark line = some title ↔ IsHeader sectioning.mark.toList line title := by
  simp only [sectionings, List.mem_cons, List.not_mem_nil, or_false] at listed
  rcases listed with rfl | rfl
  · have spelt : "q:".toList = ['q', ':'] := by decide
    exact PageSketch.headerTitle?_eq_some_iff spelt (by decide) (by decide)
  · have spelt : "tab:".toList = ['t', 'a', 'b', ':'] := by decide
    exact PageSketch.headerTitle?_eq_some_iff spelt (by decide) (by decide)

/-- An accordion, and tabs alike, have one section for each header line, in order. Its content is made of the
lines between its header and the next one; no line is lost but those before the first header. Without a header
line the default sections stand in. -/
theorem sections_between_headers {sectioning : Sectioning} (listed : sectioning ∈ sectionings) :
    (∀ line title, headerTitle? sectioning.mark line = some title ↔
        IsHeader sectioning.mark.toList line title) ∧
      (∀ lines,
        (lines.takeWhile fun line => (headerTitle? sectioning.mark line).isNone) ++
            (parts (headerTitle? sectioning.mark) lines).flatMap Part.lines = lines ∧
          collectSections sectioning.mark lines =
            (parts (headerTitle? sectioning.mark) lines).map Part.toSection) ∧
      ∀ intent : Intent,
        ((∃ line ∈ intent.lines, ∃ title, IsHeader sectioning.mark.toList line title) →
          (intent.extract sectioning.kind).items =
            (collectSections sectioning.mark intent.lines).map sectioning.item) ∧
        ((∀ line ∈ intent.lines, ∀ title, ¬ IsHeader sectioning.mark.toList line title) →
          (intent.extract sectioning.kind).items = sectioning.defaults.map sectioning.item) := by
  have titles := Sectioning.headerTitle?_eq_some_iff listed
  refine ⟨titles, fun lines => ⟨takeWhile_append_parts _ lines, collectSections_eq _ lines⟩,
    fun intent => ⟨?_, ?_⟩⟩
  · rintro ⟨line, member, title, header⟩
    have headed : (intent.lines.any fun line => (headerTitle? sectioning.mark line).isSome) = true :=
      List.any_eq_true.mpr ⟨line, member, by rw [(titles line title).mpr header]; rfl⟩
    rw [Sectioning.items_extract listed, if_pos headed]
  · intro plain
    have unheaded : ¬ (intent.lines.any fun line => (headerTitle? sectioning.mark line).isSome) = true := by
      intro headed
      obtain ⟨line, member, announced⟩ := List.any_eq_true.mp headed
      obtain ⟨title, found⟩ := Option.isSome_iff_exists.mp announced
      exact plain line member title ((titles line title).mp found)
    rw [Sectioning.items_extract listed, if_neg unheaded]

theorem sections_between_headers_question :
    (Intent.extract ⟨"Help", "Intro\nQ: Price?\nA: Ten\nper month".toList, ∅, 2025⟩ .accordion).items =
      [.accordionEntry ⟨"Price?", "Ten per month "⟩] := by
  have listed : ⟨.accordion, "q:", defaultQuestions, .accordionEntry⟩ ∈ sectionings := List.mem_cons_self
  obtain ⟨titles, _, items⟩ := sections_between_headers listed
  have header := (titles "Q: Price?".toList "Price?".toList).mp (by decide +kernel)
  exact ((items _).1 ⟨_, by decide +kernel, _, header⟩).trans (by decide +kernel)

end PageSketch
