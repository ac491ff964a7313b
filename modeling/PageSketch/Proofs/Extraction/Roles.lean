import PageSketch.Proofs.Extraction.Quoting
import PageSketch.Proofs.Text.Occurrence

/-! Heroes, cards and modals, whose lines play roles. The lines are gone through once and fill all roles together;
what they leave for a role is what the lines of this role alone say of it. -/
namespace PageSketch

section Amount

open Pattern

/-- A point or a comma and the digits behind it at the front of a text, if there are digits. -/
def centsAt : Text → Text
  | [] => []
  | mark :: rest =>
    if (mark = '.' ∨ mark = ',') ∧ rest.takeWhile Text.isDigit ≠ [] then mark :: rest.takeWhile Text.isDigit
    else []

/-- The amount at the front of a text: a dollar sign, digits and cents. -/
def amountAt? (text : Text) : Option Text :=
  (Text.after? ['$'] text).bind fun rest =>
    if rest.takeWhile Text.isDigit = [] then none
    else some ('$' :: (rest.takeWhile Text.isDigit ++ centsAt (rest.dropWhile Text.isDigit)))

def amountOn? (line : Text) : Option Text := line.tails.findSome? amountAt?

def centsPart : Pattern := optional (one (fun char => char == '.' || char == ',') ++ digits)

private theorem cardPrice_eq : cardPrice = next (next (literal "$") digits) centsPart := rfl

private theorem isPrefix_centsAt (text : Text) : centsAt text <+: text := by
  cases text with
  | nil => exact List.nil_prefix
  | cons mark rest =>
    rw [centsAt]
    split
    · exact List.cons_prefix_cons.mpr ⟨rfl, List.takeWhile_prefix _⟩
    · exact List.nil_prefix

private theorem exists_useAt_cents {Result : Type} (before : Option Char) (text : Text) (result : Match → Result) :
    ∃ tail : Match, tail.taken.length = (centsAt text).length ∧
      centsPart.useAt before text (fun tail => some (result tail)) = some (result tail) := by
  change ∃ tail : Match, _ ∧ (either (next (one _) (several Text.isDigit)) empty).useAt before text _ = _
  cases text with
  | nil => exact ⟨_, rfl, rfl⟩
  | cons mark rest =>
    simp only [useAt, useAt_several, centsAt, Bool.or_eq_true, beq_iff_eq]
    by_cases marked : mark = '.' ∨ mark = ','
    · by_cases digit : rest.takeWhile Text.isDigit = []
      · rw [if_pos marked, if_pos digit, if_neg fun both => both.2 digit]
        exact ⟨_, rfl, rfl⟩
      · rw [if_pos marked, if_neg digit, if_pos ⟨marked, digit⟩]
        exact ⟨_, Nat.add_comm _ _, rfl⟩
    · rw [if_neg marked, if_neg fun both => marked both.1]
      exact ⟨_, rfl, rfl⟩

private theorem map_matchAt?_cardPrice (before : Option Char) (text : Text) :
    (cardPrice.matchAt? before text).map (·.taken.text) = amountAt? text := by
  have dollar : "$".toList = ['$'] := by decide
  rw [matchAt?, cardPrice_eq]
  change Option.map _ ((next (next (literal "$") (several Text.isDigit)) centsPart).useAt before text some) = _
  simp only [useAt, useAt_literal, dollar, useAt_several, amountAt?]
  cases sign : Text.after? ['$'] text with
  | none => rfl
  | some rest =>
    rw [Option.bind_some, Option.bind_some]
    by_cases digit : rest.takeWhile Text.isDigit = []
    · rw [if_pos digit, if_pos digit]
      rfl
    · obtain ⟨tail, length, made⟩ := exists_useAt_cents (rest.takeWhile Text.isDigit).getLast?
        (rest.dropWhile Text.isDigit) fun tail => (⟨⟨text, ['$'].length + (rest.takeWhile Text.isDigit).length +
          tail.taken.length⟩, tail.last, tail.rest, [] ++ [] ++ tail.groups⟩ : Match)
      have front : '$' :: (rest.takeWhile Text.isDigit ++ centsAt (rest.dropWhile Text.isDigit)) <+: text := by
        have parts := List.takeWhile_append_dropWhile (p := Text.isDigit) (l := rest)
        have longer := (List.prefix_append_right_inj (rest.takeWhile Text.isDigit)).mpr
          (isPrefix_centsAt (rest.dropWhile Text.isDigit))
        rw [parts] at longer
        rw [Text.after?_eq_some_iff.mp sign]
        exact List.cons_prefix_cons.mpr ⟨rfl, longer⟩
      rw [if_neg digit, if_neg digit, made, Option.map_some, List.prefix_iff_eq_take.mp front]
      refine congrArg (fun length => some (text.take length)) ?_
      simp only [List.length_cons, List.length_append, List.length_nil, length]
      omega

private theorem map_find?_cardPrice (line : Text) : (cardPrice.find? line).map (·.taken.text) = amountOn? line :=
  map_find?_eq_findSome? map_matchAt?_cardPrice line

private theorem firstCardPrice?_eq (lines : List Text) :
    firstCardPrice? lines = (Slot.linesOf CardRole.of? .price lines).findSome? amountOn? :=
  congrArg (List.findSome? · _) (funext map_find?_cardPrice)

end Amount

/-- The roles that lines play in a kind, and how each is worded. -/
structure Casting (Role : Type) where
  kind : Kind
  /-- The role that a line in lower case plays. -/
  roleOf? : Text → Option Role
  /-- The option that a role words. -/
  key : Role → String
  /-- The wording of a role when none of its lines has a quoted text. -/
  fallback : Role → (lines : List Text) → String
  /-- The roles that no line need play. -/
  optional : List Role := []
  /-- What is in the place of an option whose role no line plays. -/
  missing : Option OptionValue := none
  /-- The directive that words a role in place of all lines. -/
  directive? : Role → Option String := fun _ => none

def heroCasting : Casting HeroRole where
  kind := .hero
  roleOf? := HeroRole.of?
  key
    | .headline => "headline"
    | .subheadline => "subheadline"
    | .action => "ctaText"
    | .secondary => "secondaryText"
    | .badge => "badge"
  fallback role _ :=
    match role with
    | .headline => "Welcome to Our Platform"
    | .subheadline => "Build something amazing with us today."
    | .action => "Get Started"
    | .secondary => "Learn More"
    | .badge => "New"
  optional := [.secondary, .badge]
  missing := some .none

def cardCasting : Casting CardRole where
  kind := .card
  roleOf? := CardRole.of?
  key
    | .title => "title"
    | .content => "content"
    | .button => "buttonText"
    | .price => "price"
    | .badge => "badge"
  fallback role lines :=
    match role with
    | .title => "Card Title"
    | .content => "Description text here."
    | .button => "View"
    | .price => String.ofList ((lines.findSome? amountOn?).getD [])
    | .badge => ""
  optional := [.price, .badge]

def modalCasting : Casting ModalRole where
  kind := .modal
  roleOf? := ModalRole.of?
  key
    | .title => "title"
    | .content => "content"
    | .confirm => "confirmText"
    | .cancel => "cancelText"
    | .trigger => "triggerText"
  fallback role _ :=
    match role with
    | .title => "Modal Title"
    | .content => "This is the modal content."
    | .confirm => "Confirm"
    | .cancel => "Cancel"
    | .trigger => "Open Modal"
  directive?
    | .trigger => some "trigger"
    | .title | .content | .confirm | .cancel => none

namespace Casting

variable {Role : Type} [DecidableEq Role] (casting : Casting Role) (role : Role) (intent : Intent)

def Plays (line : Text) : Prop := casting.roleOf? line.lower = some role

instance (line : Text) : Decidable (casting.Plays role line) :=
  inferInstanceAs (Decidable (casting.roleOf? line.lower = some role))

def lines : List Text := Slot.linesOf casting.roleOf? role intent.lines

def named? : Option String :=
  ((casting.directive? role).bind intent.directiveText?).filter (!·.isEmpty)

/-- The option of a role, by a search of the lines for this role alone. -/
inductive Words : Option OptionValue → Prop
  | named {text : String} (given : casting.named? role intent = some text) : Words (some (.text text))
  | quoted {earlier later : List Text} {line text : Text} (unnamed : casting.named? role intent = none)
      (same : intent.lines = earlier ++ line :: later) (plays : casting.Plays role line)
      (quoted : Text.firstQuoted line = some text)
      (first : ∀ other ∈ earlier, casting.Plays role other → Text.firstQuoted other = none) :
      Words (some (.text (String.ofList text)))
  | unquoted (unnamed : casting.named? role intent = none)
      (played : role ∈ casting.optional → ∃ line ∈ intent.lines, casting.Plays role line)
      (plain : ∀ line ∈ intent.lines, casting.Plays role line → Text.firstQuoted line = none) :
      Words (some (.text (casting.fallback role (casting.lines role intent))))
  | missing (free : role ∈ casting.optional) (idle : ∀ line ∈ intent.lines, ¬ casting.Plays role line) :
      Words casting.missing

/-- The option of a role, read off the lines that play it. -/
def option? : Option OptionValue :=
  match casting.named? role intent with
  | some text => some (.text text)
  | none =>
    if role ∈ casting.optional ∧ (casting.lines role intent).isEmpty then casting.missing
    else some (.text (Text.quotedOr (casting.lines role intent)
      (casting.fallback role (casting.lines role intent))))

variable {casting role intent}

/-- The first quoted text on the lines of a role is on the first line of the role that has one. -/
theorem exists_line_of_firstQuotedLine {text : Text}
    (found : Text.firstQuotedLine (casting.lines role intent) = some text) :
    ∃ earlier line later, intent.lines = earlier ++ line :: later ∧ casting.Plays role line ∧
      Text.firstQuoted line = some text ∧
      ∀ other ∈ earlier, casting.Plays role other → Text.firstQuoted other = none := by
  obtain ⟨earlier, line, later, same, quoted, plain⟩ := List.findSome?_eq_some_iff.mp found
  obtain ⟨before, rest, whole, rfl, behind⟩ := List.filter_eq_append_iff.mp same
  obtain ⟨between, after, rfl, idle, plays, rfl⟩ := List.filter_eq_cons_iff.mp behind
  refine ⟨before ++ between, line, after, by rw [whole, List.append_assoc], of_decide_eq_true plays, quoted, ?_⟩
  intro other member playsToo
  rcases List.mem_append.mp member with first | second
  · exact plain other (List.mem_filter.mpr ⟨first, decide_eq_true playsToo⟩)
  · exact absurd (decide_eq_true playsToo) (idle other second)

private theorem isEmpty_lines_iff :
    (casting.lines role intent).isEmpty = true ↔ ∀ line ∈ intent.lines, ¬ casting.Plays role line := by
  simp only [List.isEmpty_iff, lines, Slot.linesOf, List.filter_eq_nil_iff, decide_eq_true_eq, Plays]

private theorem words_option? : casting.Words role intent (casting.option? role intent) := by
  rw [option?]
  cases named : casting.named? role intent with
  | some text => exact .named named
  | none =>
    by_cases vacant : role ∈ casting.optional ∧ (casting.lines role intent).isEmpty = true
    · rw [if_pos vacant]
      exact .missing vacant.1 (isEmpty_lines_iff.mp vacant.2)
    · rw [if_neg vacant, Text.quotedOr]
      cases found : Text.firstQuotedLine (casting.lines role intent) with
      | some text =>
        obtain ⟨earlier, line, later, same, plays, quoted, plain⟩ := exists_line_of_firstQuotedLine found
        exact .quoted named same plays quoted plain
      | none =>
        refine .unquoted named (fun free => ?_) fun line member plays => ?_
        · by_contra idle
          simp only [not_exists, not_and] at idle
          exact vacant ⟨free, isEmpty_lines_iff.mpr idle⟩
        · exact List.findSome?_eq_none_iff.mp found line (List.mem_filter.mpr ⟨member, decide_eq_true plays⟩)

private theorem option?_of_needed (unnamed : casting.named? role intent = none) (needed : role ∉ casting.optional) :
    casting.option? role intent = some (.text (Text.quotedOr (casting.lines role intent)
      (casting.fallback role (casting.lines role intent)))) := by
  rw [option?, unnamed]
  exact if_neg fun vacant => needed vacant.1

private theorem option?_of_optional (unnamed : casting.named? role intent = none) (free : role ∈ casting.optional) :
    casting.option? role intent =
      if (casting.lines role intent).isEmpty then casting.missing
      else some (.text (Text.quotedOr (casting.lines role intent)
        (casting.fallback role (casting.lines role intent)))) := by
  rw [option?, unnamed]
  simp only [free, true_and]

end Casting

private theorem Slot.textWhenSeen?_eq {Role : Type} [DecidableEq Role] (roleOf? : Text → Option Role) (role : Role)
    (lines : List Text) (default : String) :
    (fill roleOf? lines role).textWhenSeen? default =
      if (linesOf roleOf? role lines).isEmpty then none
      else some (Text.quotedOr (linesOf roleOf? role lines) default) := by
  rw [fill_eq, textWhenSeen?]
  cases (linesOf roleOf? role lines).isEmpty <;> rfl

namespace Intent

variable (intent : Intent)

private theorem get?_extractHero (role : HeroRole) :
    intent.extractHero.options.get? (heroCasting.key role) = heroCasting.option? role intent := by
  cases role with
  | headline | subheadline | action =>
    rw [Casting.option?_of_needed rfl (by decide)]
    refine OrderedMap.get?_ofList_of_mem Kind.hero.nodup_optionForms ?_
    simp [Slot.textOr_fill, heroCasting, Casting.lines]
  | secondary | badge =>
    rw [Casting.option?_of_optional rfl (by decide)]
    have value (lines : List Text) (default : String) :
        (if lines.isEmpty then heroCasting.missing else some (.text (Text.quotedOr lines default))) =
          some (.ofText? (if lines.isEmpty then none else some (Text.quotedOr lines default))) := by
      split <;> rfl
    rw [value]
    refine OrderedMap.get?_ofList_of_mem Kind.hero.nodup_optionForms ?_
    simp [Slot.textWhenSeen?_eq, heroCasting, Casting.lines]

private theorem get?_extractModal (role : ModalRole) :
    intent.extractModal.options.get? (modalCasting.key role) = modalCasting.option? role intent := by
  cases role with
  | title | content | confirm | cancel =>
    rw [Casting.option?_of_needed rfl (by decide)]
    refine OrderedMap.get?_ofList_of_mem Kind.modal.nodup_optionForms ?_
    simp [Slot.textOr_fill, modalCasting, Casting.lines]
  | trigger =>
    cases named : modalCasting.named? .trigger intent with
    | some text =>
      rw [Casting.option?, named]
      refine OrderedMap.get?_ofList_of_mem Kind.modal.nodup_optionForms ?_
      have directive : (intent.directiveText? "trigger").filter (!·.isEmpty) = some text := named
      simp [directive, modalCasting]
    | none =>
      rw [Casting.option?_of_needed named (by decide)]
      refine OrderedMap.get?_ofList_of_mem Kind.modal.nodup_optionForms ?_
      have directive : (intent.directiveText? "trigger").filter (!·.isEmpty) = none := named
      simp [directive, Slot.textOr_fill, modalCasting, Casting.lines]

private theorem get?_cardOptions (title content button image hasButton : OptionValue) (price badge : Option String)
    (role : CardRole) :
    (OrderedMap.ofList ([("title", title), ("content", content), ("buttonText", button), ("hasImage", image),
        ("hasButton", hasButton)] ++ (price.map fun text => ("price", OptionValue.text text)).toList ++
        (badge.map fun text => ("badge", OptionValue.text text)).toList)).get? (cardCasting.key role) =
      match role with
      | .title => some title
      | .content => some content
      | .button => some button
      | .price => price.map .text
      | .badge => badge.map .text := by
  cases price <;> cases badge <;> cases role <;> rfl

/-- The price of a card is the quoted text on its price lines, or else the first amount there. -/
theorem cardPriceText?_eq (lines : List Text) :
    cardPriceText? (Slot.fill CardRole.of? lines .price) lines =
      if (Slot.linesOf CardRole.of? .price lines).isEmpty then none
      else some (Text.quotedOr (Slot.linesOf CardRole.of? .price lines)
        (String.ofList (((Slot.linesOf CardRole.of? .price lines).findSome? amountOn?).getD []))) := by
  rw [Slot.fill_eq, cardPriceText?, firstCardPrice?_eq, Text.quotedOr]
  cases (Slot.linesOf CardRole.of? .price lines).isEmpty with
  | true => rfl
  | false => cases Text.firstQuotedLine (Slot.linesOf CardRole.of? .price lines) <;> rfl

private theorem get?_extractCard (role : CardRole) :
    intent.extractCard.options.get? (cardCasting.key role) = cardCasting.option? role intent := by
  have value (lines : List Text) (text : String) :
      (if lines.isEmpty then none else some text).map OptionValue.text =
        if lines.isEmpty then cardCasting.missing else some (.text text) := by
    split <;> rfl
  rw [extractCard, get?_cardOptions]
  cases role with
  | title | content | button =>
    rw [Casting.option?_of_needed rfl (by decide)]
    exact congrArg (fun text => some (OptionValue.text text)) (Slot.textOr_fill _)
  | price =>
    rw [Casting.option?_of_optional rfl (by decide), cardPriceText?_eq]
    exact value _ _
  | badge =>
    rw [Casting.option?_of_optional rfl (by decide), Slot.textWhenSeen?_eq]
    exact value _ _

end Intent

/-- What is read of a kind for a role agrees with a search for this role alone, and so depends on no line of
another role. -/
structure Casting.IsSearched {Role : Type} [DecidableEq Role] (casting : Casting Role) : Prop where
  words (intent : Intent) (role : Role) :
    casting.Words role intent ((intent.extract casting.kind).options.get? (casting.key role))
  missing_iff (intent : Intent) {role : Role} (free : role ∈ casting.optional) :
    (intent.extract casting.kind).options.get? (casting.key role) = casting.missing ↔
      ∀ line ∈ intent.lines, ¬ casting.Plays role line
  apart {intent intent' : Intent} {role other : Role} (differs : other ≠ role)
    (directives : intent.directives = intent'.directives)
    (others : (intent.lines.filter fun line => (casting.roleOf? line.lower).any (· ≠ role)) =
      intent'.lines.filter fun line => (casting.roleOf? line.lower).any (· ≠ role)) :
    (intent.extract casting.kind).options.get? (casting.key other) =
      (intent'.extract casting.kind).options.get? (casting.key other)

namespace Casting

variable {Role : Type} [DecidableEq Role] {casting : Casting Role} {role other : Role} {intent intent' : Intent}

/-- The lines of a role are among those that play another role than some other one. -/
theorem lines_eq_of_others (differs : other ≠ role)
    (others : (intent.lines.filter fun line => (casting.roleOf? line.lower).any (· ≠ role)) =
      intent'.lines.filter fun line => (casting.roleOf? line.lower).any (· ≠ role)) :
    casting.lines other intent = casting.lines other intent' := by
  have among (intent : Intent) : casting.lines other intent =
      (intent.lines.filter fun line => (casting.roleOf? line.lower).any (· ≠ role)).filter fun line =>
        decide (casting.roleOf? line.lower = some other) := by
    rw [List.filter_filter]
    refine List.filter_congr fun line _ => ?_
    by_cases plays : casting.roleOf? line.lower = some other
    · simp [plays, differs]
    · simp [plays]
  rw [among, among, others]

private theorem isSearched (noText : ∀ text, casting.missing ≠ some (.text text))
    (unnamed : ∀ role ∈ casting.optional, casting.directive? role = none)
    (read : ∀ intent role, (intent.extract casting.kind).options.get? (casting.key role) =
      casting.option? role intent) : casting.IsSearched where
  words intent role := by
    rw [read]
    exact words_option?
  missing_iff intent role free := by
    have none : casting.named? role intent = none := by rw [named?, unnamed role free]; rfl
    rw [read, option?_of_optional none free, ← isEmpty_lines_iff]
    constructor
    · intro same
      by_contra played
      rw [if_neg played] at same
      exact noText _ same.symm
    · intro idle
      exact if_pos idle
  apart {intent intent' role other} differs directives others := by
    have named : casting.named? other intent = casting.named? other intent' := by
      unfold named? Intent.directiveText?
      rw [directives]
    rw [read, read, option?, option?, named, lines_eq_of_others differs others]

end Casting

private theorem DirectiveValue.text?_ofRaw_ne_empty (raw : String) : (ofRaw raw).text? ≠ some "" := by
  unfold ofRaw
  split
  · nofun
  · rename_i filled
    intro same
    cases same
    exact filled rfl

/-- The options that the roles of a hero, a card and a modal word are those that a search for each role alone
finds: the first quoted text on its lines, or else its fallback, which for the price of a card is the first amount
on its lines; an optional role is missing just if no line plays it, and a directive, whose text as it is written is
never empty, names the trigger of a modal before all lines. So the lines of one role never change what another one
words. -/
theorem roles_worded_apart :
    heroCasting.IsSearched ∧ cardCasting.IsSearched ∧ modalCasting.IsSearched ∧
      ∀ raw, (DirectiveValue.ofRaw raw).text? ≠ some "" := by
  refine ⟨?_, ?_, ?_, DirectiveValue.text?_ofRaw_ne_empty⟩
  · exact Casting.isSearched nofun (fun _ _ => rfl) Intent.get?_extractHero
  · exact Casting.isSearched nofun (fun _ _ => rfl) Intent.get?_extractCard
  · exact Casting.isSearched nofun nofun Intent.get?_extractModal

/-- A badge line that speaks of a price and of a button is not missed by either of them. -/
theorem price_kept_without_badge :
    (Intent.extract ⟨"Offer", "Badge: '$5 off' button\nPrice: $10.50 only".toList, ∅, 2024⟩ .card).options.get?
        "price" =
      (Intent.extract ⟨"Offer", "Price: $10.50 only".toList, ∅, 2024⟩ .card).options.get? "price" :=
  @Casting.IsSearched.apart _ _ _ roles_worded_apart.2.1 _ _ .badge .price (by decide) rfl (by decide +kernel)

end PageSketch
