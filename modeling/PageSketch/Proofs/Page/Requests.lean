import PageSketch.Proofs.Page.Stock
import PageSketch.Proofs.Template.Errors

/-! A registry of templates that is added to and asked, one request after the other. Whatever has been asked
before, it fills the text that it has accepted last under a name, as if that text were given with the data. -/
namespace PageSketch

namespace Template.Registry

/-- Something that a registry is asked for. -/
inductive Request where
  | register (name text : String)
  | has (name : String)
  | render (name : String) (data : Json)
  | renderText (text : String) (data : Json)

/-- What a registry answers. -/
inductive Answer where
  | registered (result : Except RegistryError Unit)
  | has (known : Bool)
  | rendered (result : Except RegistryError String)

/-- The registry after a request, and its answer. A text that is refused leaves the old one in its place. -/
def answer (registry : Registry) : Request → Registry × Answer
  | .register name text =>
    match registry.register name text with
    | .ok changed => (changed, .registered (.ok ()))
    | .error problem => (registry, .registered (.error problem))
  | .has name => (registry, .has (registry.has name))
  | .render name data => (registry, .rendered (registry.render name data))
  | .renderText text data => (registry, .rendered (Template.renderText text data))

def after (registry : Registry) (requests : List Request) : Registry :=
  requests.foldl (fun registry request => (registry.answer request).1) registry

def answers (registry : Registry) : List Request → List Answer
  | [] => []
  | request :: rest => (registry.answer request).2 :: (registry.answer request).1.answers rest

/-- The name and text of a registration that the registry accepts. -/
def accepted? (registry : Registry) (request : Request) : Option (String × String) :=
  match request with
  | .register name text =>
    match (registry.answer request).2 with
    | .registered (.ok ()) => some (name, text)
    | _ => none
  | .has _ | .render _ _ | .renderText _ _ => none

/-- The names and texts of the registrations that are accepted among several requests. -/
def accepted (registry : Registry) : List Request → List (String × String)
  | [] => []
  | request :: rest =>
    (registry.accepted? request).toList ++ (registry.answer request).1.accepted rest

variable {registry : Registry} {texts : List (String × String)}

/-- One request: a text that is accepted is kept, and nothing else changes. -/
theorem Keeps.answer (keeps : Keeps texts registry) (request : Request) :
    Keeps (texts ++ (registry.accepted? request).toList) (registry.answer request).1 := by
  cases request with
  | register name text =>
    cases parsed : parse? text.toList with
    | none => simpa [accepted?, Registry.answer, Registry.register, parsed] using keeps
    | some template => simpa [accepted?, Registry.answer, Registry.register, parsed] using keeps.set parsed name
  | has | render | renderText =>
    rw [accepted?, Option.toList_none, List.append_nil]
    exact keeps

theorem Keeps.after (keeps : Keeps texts registry) (requests : List Request) :
    Keeps (texts ++ registry.accepted requests) (registry.after requests) := by
  induction requests generalizing texts registry with
  | nil =>
    rw [accepted, List.append_nil]
    exact keeps
  | cons request rest ih =>
    rw [accepted, ← List.append_assoc]
    exact ih (keeps.answer request)

private theorem answer_registered_or_same (registry : Registry) (request : Request) :
    (registry.answer request).2 = .registered (.ok ()) ∨ (registry.answer request).1 = registry := by
  cases request with
  | register name text =>
    rw [answer]
    split
    · exact .inl rfl
    · exact .inr rfl
  | has | render | renderText => exact .inr rfl

def startTexts (stocked : Bool) : List (String × String) := if stocked then Stock.templates else []

/-- The registry that is made with the stock templates, or with none. -/
def start (stocked : Bool) : Registry := if stocked then Stock.registry else ⟨∅⟩

private theorem keeps_start (stocked : Bool) : Keeps (startTexts stocked) (start stocked) := by
  cases stocked with
  | false => exact keeps_empty
  | true => exact Stock.keeps_registry

/-- The text that counts under a name: the one accepted last, or the one made with when none is accepted. -/
def current? (made accepted : List (String × String)) (name : String) : Option String :=
  (OrderedMap.last? accepted name).or (OrderedMap.last? made name)

/-- A registry serves the texts that it was made with and those accepted since. -/
structure Serves (made accepted : List (String × String)) (registry : Registry) : Prop where
  has : ∀ name, registry.has name = true ↔ name ∈ made.map Prod.fst ∨ name ∈ accepted.map Prod.fst
  missing : ∀ name data unknown, registry.render name data = .error (.notFound unknown) ↔
    unknown = name ∧ registry.has name = false
  drawn : ∀ name data text, current? made accepted name = some text → ∀ filled,
    registry.render name data = .ok filled ↔ Template.renderText text data = .ok filled
  /-- The error is that of the text on its own, for the same reason and at the same position. Only, the text on its own
  has no name that the error could say. -/
  failed : ∀ name data text, current? made accepted name = some text → ∀ problem,
    registry.render name data = .error problem ↔ ∃ cause, cause.template? = none ∧
      Template.renderText text data = .error (.render cause) ∧
        problem = .render { cause with template? := some name }
  /-- Only a registration that is accepted changes what is answered later. -/
  unchanged : ∀ request, (registry.answer request).2 = .registered (.ok ()) ∨
    ∀ later, (registry.answer request).1.answers later = registry.answers later

/-- A text on its own is filled, or the error says no name. -/
theorem renderText_cases (text : String) (data : Json) :
    (∃ filled, Template.renderText text data = .ok filled) ∨
      ∃ cause, cause.template? = none ∧ Template.renderText text data = .error (.render cause) := by
  rw [Template.renderText]
  split
  · rename_i template _
    cases filled : template.render data with
    | ok text => exact .inl ⟨text, rfl⟩
    | error cause => exact .inr ⟨cause, isUnnamed_render template data cause filled, rfl⟩
  · exact .inr ⟨_, rfl, rfl⟩

private theorem Keeps.render_of_current (keeps : Keeps texts registry) {name text : String}
    (given : OrderedMap.last? texts name = some text) (data : Json) :
    (∃ filled, Template.renderText text data = .ok filled ∧ registry.render name data = .ok filled) ∨
      ∃ cause, cause.template? = none ∧ Template.renderText text data = .error (.render cause) ∧
        registry.render name data = .error (.render { cause with template? := some name }) := by
  have eq : registry.render name data = (Template.renderText text data).mapError (·.inTemplate name) := by
    rw [keeps.render_eq, given]
  rw [eq]
  rcases renderText_cases text data with ⟨filled, same⟩ | ⟨cause, unnamed, same⟩
  · refine .inl ⟨filled, same, ?_⟩
    rw [same]
    rfl
  · refine .inr ⟨cause, unnamed, same, ?_⟩
    have named : cause.inTemplate name = { cause with template? := some name } := by
      rw [RenderError.inTemplate, unnamed, Option.none_or]
    rw [← named, same]
    rfl

/-- Whatever a registry is asked for, it serves the texts that it has accepted. -/
theorem serves_accepted_texts (stocked : Bool) (requests : List Request) :
    Serves (startTexts stocked) ((start stocked).accepted requests) ((start stocked).after requests) := by
  have keeps := (keeps_start stocked).after requests
  constructor
  case has =>
    intro name
    rw [keeps.has_iff, List.map_append, List.mem_append]
  case missing =>
    intro name data unknown
    rw [← Bool.not_eq_true, keeps.has_iff, ← OrderedMap.last?_eq_none_iff]
    cases given : OrderedMap.last? (startTexts stocked ++ (start stocked).accepted requests) name with
    | none =>
      rw [keeps.render_eq, given]
      simp [eq_comm]
    | some text =>
      rcases keeps.render_of_current given data with ⟨filled, _, drawn⟩ | ⟨cause, _, _, failed⟩
      · simp [drawn]
      · simp [failed]
  case drawn =>
    intro name data text given filled
    rw [current?, ← OrderedMap.last?_append] at given
    rcases keeps.render_of_current given data with ⟨own, same, drawn⟩ | ⟨cause, _, same, failed⟩
    · rw [drawn, same]
    · simp [failed, same]
  case failed =>
    intro name data text given problem
    rw [current?, ← OrderedMap.last?_append] at given
    rcases keeps.render_of_current given data with ⟨own, same, drawn⟩ | ⟨cause, unnamed, same, failed⟩
    · simp [drawn, same]
    · rw [failed, same]
      constructor
      · rintro ⟨⟩
        exact ⟨cause, unnamed, rfl, rfl⟩
      · rintro ⟨_, _, ⟨⟩, rfl⟩
        rfl
  case unchanged =>
    intro request
    refine (answer_registered_or_same _ request).imp_right fun same later => ?_
    rw [same]

end Template.Registry

end PageSketch
