import PageSketch.Extraction.Kinds
import PageSketch.Proofs.Extraction.Parts
import PageSketch.Proofs.Pattern.Reading
import PageSketch.Proofs.Text.Occurrence

/-! Price lists: each plan is read from its header and the lines up to the next one, and from nothing else. -/
namespace PageSketch

open Pattern

/-- A price as a line states it. -/
structure PriceNote where
  number : Text
  /-- What the price is paid for, if that follows. -/
  period : Option Text

/-- A point and the digits behind it at the front of a text, if there are digits. -/
def decimalsAt (text : Text) : Text :=
  match Text.after? ['.'] text with
  | some rest => if rest.takeWhile Text.isDigit = [] then [] else '.' :: rest.takeWhile Text.isDigit
  | none => []

def numberAt (text : Text) : Text := text.takeWhile Text.isDigit ++ decimalsAt (text.dropWhile Text.isDigit)

/-- The word behind a slash at the front of a text, which may have blanks around it. -/
def periodAt? (text : Text) : Option Text :=
  (Text.after? ['/'] (text.dropWhile Text.isBlank)).bind fun rest =>
    if (rest.dropWhile Text.isBlank).takeWhile Text.isWordChar = [] then none
    else some ((rest.dropWhile Text.isBlank).takeWhile Text.isWordChar)

/-- The price at the front of a text: a dollar sign and a number. -/
def priceAt? (text : Text) : Option PriceNote :=
  (Text.after? ['$'] text).bind fun rest =>
    if rest.takeWhile Text.isDigit = [] then none
    else some ⟨numberAt rest, periodAt? (rest.drop (numberAt rest).length)⟩

def priceOn? (line : Text) : Option PriceNote := line.tails.findSome? priceAt?

def pricedNumber : Pattern := digits ++ optional (literal "." ++ digits)

def pricedPeriod : Pattern := blanks ++ literal "/" ++ blanks ++ group (several Text.isWordChar)

private theorem planPrice_eq : planPrice = next (next (literal "$") (group pricedNumber)) (optional pricedPeriod) := rfl

private theorem exists_useAt_period {Result : Type} (before : Option Char) (text : Text) (result : Match → Result) :
    ∃ tail : Match, tail.groups.map Slice.text = (periodAt? text).toList ∧
      (optional pricedPeriod).useAt before text (fun tail => some (result tail)) = some (result tail) := by
  have slash : "/".toList = ['/'] := by decide
  change ∃ tail : Match, _ ∧ (either (next (next (next blanks (literal "/")) blanks)
    (group (several Text.isWordChar))) empty).useAt before text _ = _
  simp only [useAt, blanks, useAt_run, useAt_literal, useAt_several, periodAt?, slash]
  cases Text.after? ['/'] (text.dropWhile Text.isBlank) with
  | none => exact ⟨⟨⟨text, 0⟩, before, text, []⟩, rfl, rfl⟩
  | some rest =>
    rw [Option.bind_some, Option.bind_some]
    by_cases empty : (rest.dropWhile Text.isBlank).takeWhile Text.isWordChar = []
    · rw [if_pos empty, if_pos empty]
      exact ⟨⟨⟨text, 0⟩, before, text, []⟩, rfl, rfl⟩
    · rw [if_neg empty, if_neg empty]
      have word := text_takeWhile Text.isWordChar (rest.dropWhile Text.isBlank)
      refine ⟨_, ?_, rfl⟩
      exact congrArg (fun word => [word]) word

/-- A match of the number at the front of a text. -/
structure IsNumberMatch (text : Text) (found : Match) : Prop where
  number : found.taken.text = numberAt text
  behind : found.rest = text.drop (numberAt text).length
  bare : found.groups = []

private theorem isNumberMatch_of_append {text rest : Text} (parts : numberAt text ++ rest = text) {length : Nat}
    (size : length = (numberAt text).length) (last : Option Char) :
    IsNumberMatch text ⟨⟨text, length⟩, last, rest, []⟩ := by
  subst size
  constructor
  case number =>
    calc
      text.take (numberAt text).length = (numberAt text ++ rest).take (numberAt text).length := by rw [parts]
      _ = numberAt text := List.take_left
  case behind =>
    calc
      rest = (numberAt text ++ rest).drop (numberAt text).length := List.drop_left.symm
      _ = text.drop (numberAt text).length := by rw [parts]
  case bare => rfl

private theorem isNumberMatch_whole {text : Text} (noDecimals : decimalsAt (text.dropWhile Text.isDigit) = [])
    (last : Option Char) :
    IsNumberMatch text
      ⟨⟨text, (text.takeWhile Text.isDigit).length⟩, last, text.dropWhile Text.isDigit, []⟩ := by
  have same : numberAt text = text.takeWhile Text.isDigit := by
    rw [numberAt, noDecimals, List.append_nil]
  apply isNumberMatch_of_append
  · rw [same, List.takeWhile_append_dropWhile]
  · rw [same]

private theorem isNumberMatch_decimals {text rest : Text}
    (point : Text.after? ['.'] (text.dropWhile Text.isDigit) = some rest)
    (digit : rest.takeWhile Text.isDigit ≠ []) (last : Option Char) :
    IsNumberMatch text
      ⟨⟨text, (text.takeWhile Text.isDigit).length + (['.'].length + (rest.takeWhile Text.isDigit).length)⟩,
        last, rest.dropWhile Text.isDigit, []⟩ := by
  have decimals : decimalsAt (text.dropWhile Text.isDigit) = '.' :: rest.takeWhile Text.isDigit := by
    rw [decimalsAt, point]
    exact if_neg digit
  apply isNumberMatch_of_append
  · have behind := Text.after?_eq_some_iff.mp point
    rw [numberAt, decimals, List.append_assoc, List.cons_append, List.takeWhile_append_dropWhile]
    calc
      text.takeWhile Text.isDigit ++ '.' :: rest =
          text.takeWhile Text.isDigit ++ text.dropWhile Text.isDigit := by rw [behind]; rfl
      _ = text := List.takeWhile_append_dropWhile
  · rw [numberAt, decimals, List.length_append, List.length_singleton, List.length_cons, Nat.add_comm 1]

private theorem exists_useAt_number {Result : Type} {use : Match → Option Result}
    (total : ∀ found, (use found).isSome = true) (before : Option Char) {text : Text}
    (digit : text.takeWhile Text.isDigit ≠ []) :
    ∃ head, IsNumberMatch text head ∧ pricedNumber.useAt before text use = use head := by
  have dot : ".".toList = ['.'] := by decide
  change ∃ head, _ ∧ (next digits (either (next (literal ".") digits) empty)).useAt before text _ = _
  simp only [useAt, digits, useAt_literal, useAt_several, dot]
  rw [if_neg digit]
  cases point : Text.after? ['.'] (text.dropWhile Text.isDigit) with
  | none =>
    have noDecimals : decimalsAt (text.dropWhile Text.isDigit) = [] := by rw [decimalsAt, point]
    exact ⟨_, isNumberMatch_whole noDecimals _, rfl⟩
  | some rest =>
    rw [Option.bind_some]
    by_cases empty : rest.takeWhile Text.isDigit = []
    · have noDecimals : decimalsAt (text.dropWhile Text.isDigit) = [] := by
        rw [decimalsAt, point]
        exact if_pos empty
      rw [if_pos empty]
      exact ⟨_, isNumberMatch_whole noDecimals _, rfl⟩
    · rw [if_neg empty]
      exact ⟨_, isNumberMatch_decimals point empty _, preferred_eq_self _ _ (total _)⟩

def noteOf (found : Match) : PriceNote := ⟨(found.group? 0).getD [], found.group? 1⟩

/-- A price match, made of the matches of its number and of what stands behind that. -/
def priceMatch (text : Text) (number behind : Match) : Match :=
  ⟨⟨text, 1 + number.taken.length + behind.taken.length⟩, behind.last, behind.rest,
    number.taken :: number.groups ++ behind.groups⟩

private theorem map_matchAt?_planPrice (before : Option Char) (text : Text) :
    (planPrice.matchAt? before text).map noteOf = priceAt? text := by
  have dollar : "$".toList = ['$'] := by decide
  rw [matchAt?, planPrice_eq]
  simp only [useAt, useAt_literal, dollar, priceAt?]
  cases Text.after? ['$'] text with
  | none => rfl
  | some rest =>
    rw [Option.bind_some, Option.bind_some]
    by_cases digit : rest.takeWhile Text.isDigit = []
    · change Option.map noteOf ((next (several Text.isDigit) _).useAt _ rest _) = _
      rw [useAt, useAt_several, if_pos digit, if_pos digit]
      rfl
    · -- What follows the number may be missing, so it never makes the number shorter.
      have total (head : Match) : ((optional pricedPeriod).useAt head.last head.rest fun tail =>
          some (priceMatch text head tail)).isSome = true := by
        obtain ⟨_, _, made⟩ := exists_useAt_period head.last head.rest (priceMatch text head)
        rw [made]
        rfl
      obtain ⟨head, ⟨number, behind, bare⟩, used⟩ := exists_useAt_number total
        ((text.take ['$'].length).getLast?.or before) digit
      obtain ⟨tail, groups, made⟩ := exists_useAt_period head.last head.rest (priceMatch text head)
      have period : tail.groups[0]?.map Slice.text = periodAt? head.rest := by
        rw [← List.getElem?_map, groups]
        cases periodAt? head.rest <;> rfl
      rw [if_neg digit, ← behind, ← number, ← period]
      refine (congrArg (Option.map noteOf) (used.trans made)).trans ?_
      rw [priceMatch, bare]
      rfl

private theorem map_find?_planPrice (line : Text) : (planPrice.find? line).map noteOf = priceOn? line :=
  map_find?_eq_findSome? map_matchAt?_planPrice line

namespace Plan

def mentionsButton (line : Text) : Bool := line.lower.mentions "button"

def standsOut (text : Text) : Bool := text.lower.mentionsAny highlightWords

/-- What a line adds to a plan: a list line that states no price and does not mention the button. -/
def featureOn? (line : Text) : Option String :=
  if (priceOn? line).isNone && !mentionsButton line && Text.isListItem line && !(Text.itemText line).isEmpty then
    some (String.ofList (Text.itemText line))
  else none

def buttonOn? (line : Text) : Option Text := if mentionsButton line then Text.firstQuoted line else none

/-- The plan after some more of its lines. -/
def reading (plan : Plan) (lines : List Text) : Plan where
  name := plan.name
  price := ((lines.filterMap priceOn?).getLast?.map fun note => String.ofList note.number).getD plan.price
  period := (((lines.filterMap priceOn?).filterMap PriceNote.period).getLast?.map fun period =>
    String.ofList period.lower).getD plan.period
  features := plan.features ++ lines.filterMap featureOn?
  highlighted := plan.highlighted || lines.any standsOut
  buttonText := ((lines.filterMap buttonOn?).getLast?.map String.ofList).getD plan.buttonText

private theorem reading_nil (plan : Plan) : plan.reading [] = plan := by
  simp [reading]

private theorem reading_reading (plan : Plan) (earlier later : List Text) :
    (plan.reading earlier).reading later = plan.reading (earlier ++ later) := by
  simp only [reading, List.filterMap_append, List.getLast?_append, Option.map_or, Option.getD_or, List.any_append,
    List.append_assoc, Bool.or_assoc]

/-- One line tells four things, each of which it may leave as it is. -/
theorem reading_singleton (plan : Plan) (line : Text) :
    plan.reading [line] =
      { name := plan.name
        price := ((priceOn? line).map fun note => String.ofList note.number).getD plan.price
        period := (((priceOn? line).bind PriceNote.period).map fun period => String.ofList period.lower).getD
          plan.period
        features := plan.features ++ (featureOn? line).toList
        highlighted := plan.highlighted || standsOut line
        buttonText := ((buttonOn? line).map String.ofList).getD plan.buttonText } := by
  have single {Value : Type} (read : Text → Option Value) : [line].filterMap read = (read line).toList := by
    rw [List.filterMap_cons]
    cases read line <;> rfl
  have last {Value : Type} (value : Option Value) : value.toList.getLast? = value := by cases value <;> rfl
  have periods (note : Option PriceNote) :
      note.toList.filterMap PriceNote.period = (note.bind PriceNote.period).toList := by
    cases note with
    | none => rfl
    | some note =>
      rw [Option.toList_some, List.filterMap_cons, Option.bind_some]
      cases note.period <;> rfl
  simp only [reading, single, periods, last, List.any_cons, List.any_nil, Bool.or_false]

/-- The plan after what its line says about the button. -/
def withButton (plan : Plan) (line : Text) : Plan :=
  if mentionsButton line then
    { plan with buttonText := ((Text.firstQuoted line).map String.ofList).getD plan.buttonText }
  else plan

def withMark (plan : Plan) (line : Text) : Plan :=
  if standsOut line then { plan with highlighted := true } else plan

/-- The plan with the feature that its line gives. -/
def withFeature (plan : Plan) (line : Text) : Plan :=
  if (planPrice.find? line).isNone && !mentionsButton line && Text.isListItem line &&
      !(Text.itemText line).isEmpty then
    { plan with features := plan.features ++ [String.ofList (Text.itemText line)] }
  else plan

private theorem withPrice_find? (plan : Plan) (line : Text) :
    ((planPrice.find? line).map plan.withPrice).getD plan =
      { plan with
        price := ((priceOn? line).map fun note => String.ofList note.number).getD plan.price
        period := (((priceOn? line).bind PriceNote.period).map fun period => String.ofList period.lower).getD
          plan.period } := by
  rw [← map_find?_planPrice]
  cases planPrice.find? line <;> rfl

private theorem withButton_eq (plan : Plan) (line : Text) :
    plan.withButton line =
      { plan with buttonText := ((buttonOn? line).map String.ofList).getD plan.buttonText } := by
  rw [withButton, buttonOn?]
  cases mentionsButton line <;> rfl

private theorem withMark_eq (plan : Plan) (line : Text) :
    plan.withMark line = { plan with highlighted := plan.highlighted || standsOut line } := by
  rw [withMark]
  cases standsOut line with
  | true => rw [Bool.or_true]; rfl
  | false => rw [Bool.or_false]; rfl

private theorem withFeature_eq (plan : Plan) (line : Text) :
    plan.withFeature line = { plan with features := plan.features ++ (featureOn? line).toList } := by
  have unpriced : (planPrice.find? line).isNone = (priceOn? line).isNone := by
    rw [← map_find?_planPrice]
    cases planPrice.find? line <;> rfl
  rw [withFeature, featureOn?, unpriced]
  split
  · rfl
  · rw [Option.toList_none, List.append_nil]

theorem read_eq (plan : Plan) (line : Text) : plan.read line = plan.reading [line] := by
  -- The four steps in the order of the reader; none changes what another one looks at.
  have steps : plan.read line =
      (((((planPrice.find? line).map plan.withPrice).getD plan).withButton line).withMark
        line).withFeature line := rfl
  rw [steps, withFeature_eq, withMark_eq, withButton_eq, withPrice_find?, reading_singleton]

theorem foldl_read (plan : Plan) (lines : List Text) : lines.foldl read plan = plan.reading lines := by
  induction lines generalizing plan with
  | nil => exact plan.reading_nil.symm
  | cons line rest ih => rw [List.foldl_cons, ih, read_eq, reading_reading, List.singleton_append]

/-- A plan as its name and its lines state it. Where several lines state one thing, the last of them counts. -/
def stated (name : Text) (lines : List Text) : Plan where
  name := String.ofList name
  price := ((lines.filterMap priceOn?).getLast?.map fun note => String.ofList note.number).getD ""
  period := (((lines.filterMap priceOn?).filterMap PriceNote.period).getLast?.map fun period =>
    String.ofList period.lower).getD "month"
  features := lines.filterMap featureOn?
  highlighted := (name :: lines).any standsOut
  buttonText := ((lines.filterMap buttonOn?).getLast?.map String.ofList).getD "Get Started"

private theorem reading_named (name : Text) (lines : List Text) : (named name).reading lines = stated name lines := by
  rw [reading, stated, List.any_cons]
  rfl

end Plan

private theorem planName?_eq_some_iff {line name : Text} :
    planName? line = some name ↔
      ∃ rest, line = '#' :: '#' :: rest ∧ Text.unquote (rest.dropWhile (· == '#')) = name := by
  rw [planName?, Option.map_eq_some_iff]
  refine exists_congr fun rest => and_congr_left fun _ => ?_
  exact Text.after?_eq_some_iff

private theorem foldl_addPlanLine (lines : List Text) :
    lines.foldl addPlanLine [] = (parts planName? lines).map fun part => Plan.stated part.head part.body := by
  have step : addPlanLine = addLine planName? Plan.named Plan.read := by
    funext plans line
    rw [addPlanLine, addLine]
    cases planName? line with
    | some name => rfl
    | none => cases plans.getLast? <;> rfl
  rw [step, foldl_addLine]
  refine List.map_congr_left fun part _ => ?_
  rw [Plan.foldl_read, Plan.reading_named]

/-- There is one plan for each line that starts with two hashes, in order, as this line and the lines up to the
next one state it. Without such a line the default plans stand in. -/
theorem plans_between_headers (intent : Intent) :
    (∀ line name, planName? line = some name ↔
        ∃ rest, line = '#' :: '#' :: rest ∧ Text.unquote (rest.dropWhile (· == '#')) = name) ∧
      (intent.lines.takeWhile fun line => (planName? line).isNone) ++
          (parts planName? intent.lines).flatMap Part.lines = intent.lines ∧
      (intent.extract .pricing).items =
        (if intent.lines.any fun line => (planName? line).isSome then
          (parts planName? intent.lines).map fun part => Plan.stated part.head part.body
        else defaultPlans).map .pricingPlan := by
  refine ⟨fun _ _ => planName?_eq_some_iff, takeWhile_append_parts planName? intent.lines, ?_⟩
  have items : (intent.extract .pricing).items =
      (orDefaults (intent.lines.foldl addPlanLine []) defaultPlans).map .pricingPlan := rfl
  rw [items, foldl_addPlanLine, orDefaults_map_parts]

end PageSketch
