import PageSketch.Extraction.Basic
import PageSketch.Pattern

/-! Price lists: plans under headers that start with two hashes. -/
namespace PageSketch

def highlightWords : List String := ["popular", "recommended", "featured", "highlight"]

open Pattern in
/-- A price in dollars, with the period it is paid for if that follows. -/
def planPrice : Pattern :=
  literal "$" ++ group (digits ++ optional (literal "." ++ digits)) ++
    optional (blanks ++ literal "/" ++ blanks ++ group (several Text.isWordChar))

/-- A plan as its header announces it. -/
def Plan.named (name : Text) : Plan :=
  { name := String.ofList name
    price := ""
    period := "month"
    features := []
    highlighted := name.lower.mentionsAny highlightWords
    buttonText := "Get Started" }

/-- The name that a header line gives a plan. -/
def planName? (line : Text) : Option Text :=
  (Text.after? ['#', '#'] line).map fun rest => Text.unquote (rest.dropWhile (· == '#'))

/-- The plan with the price, and the period if there is one, of a price match. -/
def Plan.withPrice (plan : Plan) (found : Pattern.Match) : Plan :=
  { plan with
    price := String.ofList ((found.group? 0).getD [])
    period := ((found.group? 1).map fun period => String.ofList (Text.lower period)).getD
      plan.period }

/-- The plan after one more of its lines. A line with a price or about the button gives no
feature. -/
def Plan.read (plan : Plan) (line : Text) : Plan :=
  let lowered := line.lower
  let price := planPrice.find? line
  let onButton := lowered.mentions "button"
  let feature := Text.itemText line
  let priced := (price.map plan.withPrice).getD plan
  let buttoned :=
    if onButton then
      { priced with
        buttonText := ((Text.firstQuoted line).map String.ofList).getD priced.buttonText }
    else priced
  let marked :=
    if lowered.mentionsAny highlightWords then { buttoned with highlighted := true } else buttoned
  if price.isNone && !onButton && Text.isListItem line && !feature.isEmpty then
    { marked with features := marked.features ++ [String.ofList feature] }
  else marked

/-- The plans after one more line: a header opens one, any other line goes to the last one. -/
def addPlanLine (plans : List Plan) (line : Text) : List Plan :=
  match planName? line, plans.getLast? with
  | some name, _ => plans ++ [Plan.named name]
  | none, some plan => plans.dropLast ++ [plan.read line]
  | none, none => plans

/-- The plans of a description without headers. -/
def defaultPlans : List Plan :=
  [⟨"Starter", "9", "month", ["1 project", "Basic analytics", "Email support"], false,
      "Get Started"⟩,
    ⟨"Professional", "29", "month",
      ["Unlimited projects", "Advanced analytics", "Priority support"], true, "Get Started"⟩,
    ⟨"Enterprise", "99", "month",
      ["Everything in Professional", "Dedicated manager", "Custom integrations"], false,
      "Get Started"⟩]

/-- The plans and options of a price list. -/
def Intent.extractPricing (intent : Intent) : Extraction :=
  { items := (orDefaults (intent.lines.foldl addPlanLine []) defaultPlans).map .pricingPlan
    options := .ofList
      [("billingToggle", .bool (intent.mentionsAny ["annual", "yearly", "toggle"]))] }

end PageSketch
