import PageSketch.Proofs.Extraction.Shape
import PageSketch.Proofs.Text.Phrase

/-! Keywords in a description. The flags of a component ask the whole description for their keywords, and roles ask
one line after the other. About a keyword that is a phrase the description and its lines say the same. -/
namespace PageSketch

/-- A Boolean option of a kind, and the keywords that decide about it. -/
structure Flag where
  key : String
  /-- One of these must be mentioned, if there are any. -/
  wanted : List String := []
  /-- None of these may be mentioned. -/
  unwanted : List String := []

/-- What the lines of a description say about a flag, each of them read as the lines of roles are. -/
def Flag.IsRaised (flag : Flag) (lines : List Text) : Prop :=
  (flag.wanted = [] ∨ ∃ line ∈ lines, line.lower.mentionsAny flag.wanted = true) ∧
    ∀ line ∈ lines, line.lower.mentionsAny flag.unwanted = false

instance (flag : Flag) (lines : List Text) : Decidable (flag.IsRaised lines) :=
  inferInstanceAs (Decidable (_ ∧ _))

def Kind.flags : Kind → List Flag
  | form => []
  | hero =>
    [{ key := "backgroundImage"
       wanted := ["background image", "background-image", "bg image", "image background"] },
      { key := "centered", unwanted := ["left aligned", "left-aligned"] }]
  | card =>
    [{ key := "hasImage", wanted := ["image", "photo", "picture"], unwanted := ["no image"] },
      { key := "hasButton", wanted := ["button", "cta"] }]
  | navigation => [{ key := "sticky", wanted := ["sticky", "fixed"] }]
  | modal =>
    [{ key := "showClose", unwanted := ["no close", "without close"] },
      { key := "showConfirm", wanted := ["confirm"] },
      { key := "showCancel", wanted := ["cancel"] },
      { key := "closeOnOverlay", wanted := ["overlay", "click outside"] },
      { key := "closeOnEscape", wanted := ["escape", "esc key"] }]
  | table =>
    [{ key := "sortable", wanted := ["sort"] },
      { key := "searchable", wanted := ["search", "filter"] },
      { key := "paginated", wanted := ["paginat", "pages"] },
      { key := "striped", wanted := ["stripe"] },
      { key := "hoverable", wanted := ["hover"] }]
  | footer => [{ key := "newsletter", wanted := ["newsletter", "subscribe"] }]
  | gallery => [{ key := "lightbox", wanted := ["lightbox"] }]
  | accordion => [{ key := "allowMultiple", wanted := ["multiple"] }]
  | tabs => [{ key := "vertical", wanted := ["vertical"] }, { key := "pills", wanted := ["pill"] }]
  | carousel =>
    [{ key := "autoplay", wanted := ["autoplay", "auto-play", "automatic"] },
      { key := "showDots", unwanted := ["no dots"] },
      { key := "showArrows", unwanted := ["no arrows"] }]
  | pricing => [{ key := "billingToggle", wanted := ["annual", "yearly", "toggle"] }]
  | testimonial => [{ key := "showStars", wanted := ["star", "rating"] }]

private theorem Kind.keys_flags (kind : Kind) :
    kind.flags.map Flag.key = (kind.optionForms.filter (·.2 = .flag)).map Prod.fst := by
  cases kind <;> rfl

/-- All keywords of flags are phrases. -/
theorem Kind.isPhrase_keyword {kind : Kind} {flag : Flag} (listed : flag ∈ kind.flags) :
    (∀ needle ∈ flag.wanted, Text.IsPhrase needle.toList) ∧
      ∀ needle ∈ flag.unwanted, Text.IsPhrase needle.toList := by
  have each : ∀ flag ∈ kind.flags, (∀ needle ∈ flag.wanted, Text.IsPhrase needle.toList) ∧
      ∀ needle ∈ flag.unwanted, Text.IsPhrase needle.toList := by
    cases kind <;> decide +kernel
  exact each flag listed

namespace Intent

variable {intent : Intent} {flag : Flag}

private theorem mentions_iff {needle : String} (phrase : Text.IsPhrase needle.toList) :
    intent.mentions needle = true ↔ ∃ line ∈ intent.lines, needle.toList <:+: line.lower := by
  rw [mentions, Text.mentions, Text.holds_iff_isInfix]
  exact phrase.isInfix_lower_iff intent.description

private theorem mentionsAny_iff {needles : List String} (phrases : ∀ needle ∈ needles, Text.IsPhrase needle.toList) :
    intent.mentionsAny needles = true ↔ ∃ line ∈ intent.lines, line.lower.mentionsAny needles = true := by
  simp only [mentionsAny, Text.mentionsAny, List.any_eq_true]
  constructor
  · rintro ⟨needle, listed, mentioned⟩
    obtain ⟨line, member, inside⟩ := (mentions_iff (phrases needle listed)).mp mentioned
    exact ⟨line, member, needle, listed, Text.holds_iff_isInfix.mpr inside⟩
  · rintro ⟨line, member, needle, listed, mentioned⟩
    exact ⟨needle, listed,
      (mentions_iff (phrases needle listed)).mpr ⟨line, member, Text.holds_iff_isInfix.mp mentioned⟩⟩

/-- What the description as a whole says about a flag. -/
def raises (intent : Intent) (flag : Flag) : Bool :=
  (flag.wanted.isEmpty || intent.mentionsAny flag.wanted) && !intent.mentionsAny flag.unwanted

private theorem raises_eq_decide {kind : Kind} (listed : flag ∈ kind.flags) :
    intent.raises flag = decide (flag.IsRaised intent.lines) := by
  obtain ⟨wanted, unwanted⟩ := Kind.isPhrase_keyword listed
  have nowhere : intent.mentionsAny flag.unwanted = false ↔
      ∀ line ∈ intent.lines, line.lower.mentionsAny flag.unwanted = false := by
    rw [← Bool.not_eq_true, mentionsAny_iff unwanted]
    simp
  rw [Bool.eq_iff_iff, decide_eq_true_iff, Flag.IsRaised, ← mentionsAny_iff wanted, ← nowhere]
  simp [raises]

private theorem mentionsAny_nil : intent.mentionsAny [] = false := rfl

private theorem mentionsAny_singleton (needle : String) : intent.mentionsAny [needle] = intent.mentions needle :=
  Bool.or_false _

variable {kind : Kind} {pairs : List (String × OptionValue)}

private theorem get?_flag_ofList (keys : (pairs.map Prod.fst).Sublist (kind.optionForms.map Prod.fst))
    (given : ∀ flag ∈ kind.flags, (flag.key, .bool (intent.raises flag)) ∈ pairs) (listed : flag ∈ kind.flags) :
    (OrderedMap.ofList pairs).get? flag.key = some (.bool (intent.raises flag)) :=
  OrderedMap.get?_ofList_of_mem (kind.nodup_optionForms.sublist keys) (given flag listed)

/-- Each flag of a kind is set to what the description as a whole says about it. -/
theorem get?_flag (listed : flag ∈ kind.flags) :
    (intent.extract kind).options.get? flag.key = some (.bool (intent.raises flag)) := by
  cases kind with
  | form => cases listed
  | card =>
    refine get?_flag_ofList ?_ ?_ listed
    · rw [List.map_append, List.map_append]
      exact ((List.Sublist.refl _).append (keys_ofText?_sublist "price" _)).append
        (keys_ofText?_sublist "badge" _)
    · simp [Kind.flags, raises, mentionsAny_nil, mentionsAny_singleton]
  | navigation =>
    refine get?_flag_ofList ?_ ?_ listed
    · rw [List.map_append]
      exact (List.Sublist.refl _).append (keys_unless_sublist _ ("ctaText", _))
    · simp [Kind.flags, raises, mentionsAny_nil]
  | hero | modal | table | footer | gallery | accordion | tabs | carousel | pricing | testimonial =>
    refine get?_flag_ofList (List.Sublist.refl _) ?_ listed
    simp [Kind.flags, raises, mentionsAny_nil, mentionsAny_singleton]

end Intent

/-- A description mentions a phrase just if one of its lines does. So its flags, which are all the Boolean options,
are what its lines say about their keywords. -/
theorem mentions_read_by_line (intent : Intent) :
    (∀ needle : String, Text.IsPhrase needle.toList →
        (intent.mentions needle = true ↔ ∃ line ∈ intent.lines, needle.toList <:+: line.lower)) ∧
      (∀ needles : List String, (∀ needle ∈ needles, Text.IsPhrase needle.toList) →
        (intent.mentionsAny needles = true ↔ Text.linesMentioning needles intent.lines ≠ [])) ∧
      ∀ kind : Kind, kind.flags.map Flag.key = (kind.optionForms.filter (·.2 = .flag)).map Prod.fst ∧
        ∀ flag ∈ kind.flags, (intent.extract kind).options.get? flag.key =
          some (.bool (decide (flag.IsRaised intent.lines))) := by
  refine ⟨fun needle => Intent.mentions_iff, ?_, fun kind => ⟨kind.keys_flags, ?_⟩⟩
  · intro needles phrases
    rw [Intent.mentionsAny_iff phrases, Text.linesMentioning, ne_eq, List.filter_eq_nil_iff]
    push Not
    rfl
  · intro flag listed
    rw [Intent.get?_flag listed, Intent.raises_eq_decide listed]

/-- A sigma at the end of a line is a final one in the description too. -/
theorem final_sigma_mentioned : Text.IsPhrase "οδος".toList ∧
    Intent.mentions ⟨"Map", "ΟΔΟΣ\nΑ".toList, ∅, 2025⟩ "οδος" = true := by
  have phrase : Text.IsPhrase "οδος".toList := by decide
  obtain ⟨each, _, _⟩ := mentions_read_by_line ⟨"Map", "ΟΔΟΣ\nΑ".toList, ∅, 2025⟩
  refine ⟨phrase, (each "οδος" phrase).mpr ⟨"ΟΔΟΣ".toList, ?_, ?_⟩⟩
  · decide +kernel
  · decide +kernel

end PageSketch
