import PageSketch.Proofs.Component.Entries
import PageSketch.Template.Registry

/-! What a registry of templates keeps: under each name the template of the text that was registered last. -/
namespace PageSketch.Template

/-- The error with the name of the template that it is about. -/
def RegistryError.inTemplate (error : RegistryError) (name : String) : RegistryError :=
  match error with
  | render cause => render (cause.inTemplate name)
  | error => error

namespace Registry

/-- A registry that has been given these texts, each of which is a template. Under each name it has the
template of the last of them. -/
structure Keeps (texts : List (String × String)) (registry : Registry) : Prop where
  valid : ∀ entry ∈ texts, (parse? entry.2.toList).isSome
  found : ∀ name, registry.templates.get? name =
    (OrderedMap.last? texts name).bind fun text => parse? text.toList

variable {registry : Registry} {texts : List (String × String)}

theorem keeps_empty : Keeps [] ⟨∅⟩ := ⟨nofun, fun _ => rfl⟩

theorem Keeps.set (keeps : Keeps texts registry) {text : String} {template : Template}
    (parsed : parse? text.toList = some template) (name : String) :
    Keeps (texts ++ [(name, text)]) ⟨registry.templates.set name template⟩ := by
  constructor
  case valid =>
    intro entry member
    rcases List.mem_append.mp member with before | last
    · exact keeps.valid entry before
    · rw [List.mem_singleton.mp last, parsed]
      rfl
  case found =>
    intro key
    rw [OrderedMap.get?_set, OrderedMap.last?_concat]
    split
    · exact parsed.symm
    · exact keeps.found key

/-- Texts that are templates are all kept. -/
theorem Keeps.registerAll (keeps : Keeps texts registry) {entries : List (String × String)}
    (valid : ∀ entry ∈ entries, (parse? entry.2.toList).isSome) :
    Keeps (texts ++ entries) (entries.foldl (fun registry (name, text) =>
      (registry.register name text).toOption.getD registry) registry) := by
  induction entries generalizing texts registry with
  | nil =>
    rw [List.append_nil]
    exact keeps
  | cons entry rest ih =>
    obtain ⟨name, text⟩ := entry
    obtain ⟨first, others⟩ := List.forall_mem_cons.mp valid
    obtain ⟨template, parsed⟩ := Option.isSome_iff_exists.mp first
    have changed : (registry.register name text).toOption.getD registry =
        ⟨registry.templates.set name template⟩ := by
      rw [Registry.register, parsed]
      rfl
    have later := ih (keeps.set parsed name) others
    rw [← changed] at later
    rw [List.append_cons]
    exact later

theorem Keeps.has_iff (keeps : Keeps texts registry) {name : String} :
    registry.has name = true ↔ name ∈ texts.map Prod.fst := by
  rw [has, keeps.found]
  cases given : OrderedMap.last? texts name with
  | none => simpa using OrderedMap.last?_eq_none_iff.mp given
  | some text =>
    have listed : name ∈ texts.map Prod.fst := by
      by_contra absent
      rw [OrderedMap.last?_eq_none_iff.mpr absent] at given
      cases given
    exact iff_of_true (keeps.valid _ (OrderedMap.mem_of_last? given)) listed

/-- A text that is kept is filled as if it were given with the data, but an error says the name. -/
theorem Keeps.render_eq (keeps : Keeps texts registry) (name : String) (data : Json) :
    registry.render name data =
      match OrderedMap.last? texts name with
      | some text => (Template.renderText text data).mapError (·.inTemplate name)
      | none => .error (.notFound name) := by
  rw [render, keeps.found]
  cases given : OrderedMap.last? texts name with
  | none => rfl
  | some text =>
    obtain ⟨template, parsed⟩ := Option.isSome_iff_exists.mp (keeps.valid _ (OrderedMap.mem_of_last? given))
    simp only [Option.bind_some, Template.renderText, parsed]
    cases template.render data <;> rfl

end Registry

end PageSketch.Template
