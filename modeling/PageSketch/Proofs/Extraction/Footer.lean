import PageSketch.Proofs.Extraction.Parts
import PageSketch.Proofs.Extraction.Quoting
import PageSketch.Proofs.Program.Components
import PageSketch.Proofs.Text.Occurrence

/-! Footers: each header opens a group, and the list lines up to the next header are its links. The year is seen
in the copyright line of a footer that states none, and nowhere else in a program. -/
namespace PageSketch

private theorem groupTitle?_eq_some_iff {line title : Text} :
    groupTitle? line = some title ↔
      ∃ rest, line = '#' :: rest ∧ Text.trim (rest.dropWhile (· == '#')) = title := by
  rw [groupTitle?, Option.ite_none_right_eq_some]
  constructor
  · rintro ⟨hash, same⟩
    obtain ⟨rest, rfl⟩ := List.head?_eq_some_iff.mp hash
    exact ⟨rest, rfl, Option.some.inj same⟩
  · rintro ⟨rest, rfl, same⟩
    exact ⟨rfl, congrArg some same⟩

/-- The link that a line gives: a list line gives one when its name is not empty. -/
def linkOn? (line : Text) : Option Link :=
  if Text.isListItem line ∧ Text.itemName line ≠ [] then
    some ⟨String.ofList (Text.itemName line), String.ofList ('#' :: Text.slug (Text.itemName line))⟩
  else none

theorem LinkGroup.read_eq (group : LinkGroup) (line : Text) :
    group.read line = { group with links := group.links ++ (linkOn? line).toList } := by
  rw [read, listNames, linkOn?]
  by_cases item : Text.isListItem line = true
  · by_cases named : Text.itemName line = []
    · simp [item, named]
    · simp [item, named, Link.ofName, Text.anchor]
  · simp [item]

theorem LinkGroup.foldl_read (group : LinkGroup) (lines : List Text) :
    lines.foldl read group = { group with links := group.links ++ lines.filterMap linkOn? } := by
  induction lines generalizing group with
  | nil => rw [List.filterMap_nil, List.append_nil, List.foldl_nil]
  | cons line rest ih =>
    rw [List.foldl_cons, ih, read_eq]
    cases link : linkOn? line with
    | none => rw [List.filterMap_cons_none link, Option.toList_none, List.append_nil]
    | some own =>
      rw [List.filterMap_cons_some link, Option.toList_some, List.append_assoc, List.singleton_append]

/-- The group of a header: its title, and a link for each list line up to the next header. -/
def Part.toGroup (part : Part groupTitle?) : LinkGroup where
  title := String.ofList part.head
  links := part.body.filterMap linkOn?

theorem foldl_addGroupLine (lines : List Text) :
    lines.foldl addGroupLine [] = (parts groupTitle? lines).map Part.toGroup := by
  have step : addGroupLine = addLine groupTitle? (fun title => ⟨String.ofList title, []⟩) LinkGroup.read := by
    funext groups line
    rw [addGroupLine, addLine]
    cases groupTitle? line with
    | some title => rfl
    | none => cases groups.getLast? <;> rfl
  rw [step, foldl_addLine]
  apply List.map_congr_left
  intro part _
  rw [LinkGroup.foldl_read]
  rfl

def statedCopyright? (lines : List Text) : Option Text :=
  Text.firstQuotedLine (Text.linesMentioning ["copyright", "©", "(c)"] lines)

/-- The options of a component with these lines in another year: a footer that states no copyright gets the
default copyright line of that year. -/
def optionsIn (year : Int) (kind : Kind) (lines : List Text) (options : OrderedMap OptionValue) :
    OrderedMap OptionValue :=
  if kind = .footer ∧ statedCopyright? lines = none then
    options.set "copyright" (.text (defaultCopyright year))
  else options

/-- The component in another year. -/
def Component.inYear (year : Int) (component : Component) : Component :=
  { component with
    options := optionsIn year component.kind (Text.lines component.description.toList) component.options }

def Program.inYear (year : Int) (program : Program) : Program :=
  { program with components := program.components.map (Component.inYear year) }

namespace Intent

variable (intent : Intent)

private theorem extractFooter_inYear (year : Int) :
    { intent with year }.extractFooter =
      { intent.extractFooter with
        options := optionsIn year .footer intent.lines intent.extractFooter.options } := by
  have own : intent.copyright =
      ((statedCopyright? intent.lines).map String.ofList).getD (defaultCopyright intent.year) := rfl
  have other : { intent with year }.copyright =
      ((statedCopyright? intent.lines).map String.ofList).getD (defaultCopyright year) := rfl
  rw [extractFooter, extractFooter, own, other, optionsIn]
  cases statedCopyright? intent.lines with
  | none => rfl
  | some text => rfl

/-- Whatever the kind, another year changes nothing but the copyright line of a footer that states none. -/
theorem extract_inYear (kind : Kind) (year : Int) :
    { intent with year }.extract kind =
      { intent.extract kind with options := optionsIn year kind intent.lines (intent.extract kind).options } := by
  cases kind with
  | footer => exact intent.extractFooter_inYear year
  | form | hero | card | navigation | modal | table | gallery | accordion | tabs | carousel | pricing
  | testimonial => rfl

end Intent

open Source

private theorem component_inYear (passage : Passage) (place : Nat) (year other : Int) :
    passage.component other place = (passage.component year place).inYear other := by
  have later := Intent.extract_inYear (Intent.ofComponent (passage.written place) year)
    (passage.written place).kind other
  have same : Intent.ofComponent (passage.written place) other =
      { Intent.ofComponent (passage.written place) year with year := other } := rfl
  rw [Passage.component, same, later]
  rfl

private theorem ofSource_inYear (source : Text) (year other : Int) :
    Program.ofSource other source = (Program.ofSource year source).inYear other := by
  have components : ((passages (lines source)).mapIdx fun place passage => passage.component other place) =
      ((passages (lines source)).mapIdx fun place passage => passage.component year place).map
        (Component.inYear other) := by
    apply List.ext_getElem?
    intro place
    rw [List.getElem?_mapIdx, List.getElem?_map, List.getElem?_mapIdx, Option.map_map]
    exact congrArg (Option.map · _) (funext fun passage => component_inYear passage place year other)
  rw [ofSource_eq other, ofSource_eq year, Program.inYear, components]

namespace Intent

variable (intent : Intent)

private theorem socialLinks_eq :
    intent.socialLinks =
      (socialPlatforms.filter fun platform => platform.toList <:+: intent.lowered).map fun platform =>
        ⟨platform, "https://" ++ platform ++ ".com"⟩ := by
  have found : intent.mentions = fun platform => decide (platform.toList <:+: intent.lowered) := by
    funext platform
    rw [mentions, Text.mentions, Bool.eq_iff_iff, Text.holds_iff_isInfix, decide_eq_true_iff]
  rw [socialLinks, found]

end Intent

/-- A footer has one group for each line that starts with a hash, in order, with the links that the list lines up
to the next such line give; behind the groups stand the links to the platforms whose names occur in the
description, each once and in their own order. Its copyright line is the first text quoted on a line about it, or
else the default one of the year, and the year is seen nowhere else: not in any other kind or option, and not in
the program of a source. -/
theorem footer_groups_between_headers (intent : Intent) :
    (∀ line title, groupTitle? line = some title ↔
        ∃ rest, line = '#' :: rest ∧ Text.trim (rest.dropWhile (· == '#')) = title) ∧
      (intent.lines.takeWhile fun line => (groupTitle? line).isNone) ++
          (parts groupTitle? intent.lines).flatMap Part.lines = intent.lines ∧
      (intent.extract .footer).items =
        ((parts groupTitle? intent.lines).map Part.toGroup).map .footerSection ++
          ((socialPlatforms.filter fun platform => platform.toList <:+: intent.lowered).map fun platform =>
            ⟨platform, "https://" ++ platform ++ ".com"⟩).map .socialLink ∧
      socialPlatforms.Nodup ∧
      (intent.extract .footer).options.get? "copyright" = some (.text
        (Text.quotedOr (Text.linesMentioning ["copyright", "©", "(c)"] intent.lines)
          (defaultCopyright intent.year))) ∧
      (∀ kind year, { intent with year }.extract kind =
        { intent.extract kind with
          options := optionsIn year kind intent.lines (intent.extract kind).options }) ∧
      ∀ source year other, Program.ofSource other source = (Program.ofSource year source).inYear other := by
  refine ⟨fun _ _ => groupTitle?_eq_some_iff, takeWhile_append_parts groupTitle? intent.lines, ?_, by decide,
    ?_, intent.extract_inYear, ofSource_inYear⟩
  · rw [← foldl_addGroupLine, ← Intent.socialLinks_eq]
    rfl
  · exact OrderedMap.get?_ofList_of_mem Kind.footer.nodup_optionForms List.mem_cons_self

end PageSketch
