import PageSketch.Component.Basic
import PageSketch.Proofs.Component.Entries

/-! What a component holds once options and directives have been set on it, one after the other: each key once,
where it was first set, with what it was set to last. No option is read in two ways. -/
namespace PageSketch

namespace Component

/-- One thing set on a component. -/
inductive Write where
  | option (key : String) (value : OptionValue)
  | directive (name raw : String)

def write (component : Component) : Write → Component
  | .option key value => component.setOption key value
  | .directive name raw => component.setDirective name raw

namespace Write

def option? : Write → Option (String × OptionValue)
  | option key value => some (key, value)
  | directive _ _ => none

def directive? : Write → Option (String × DirectiveValue)
  | option _ _ => none
  | directive name raw => some (name, .ofRaw raw)

def options (writes : List Write) : List (String × OptionValue) := writes.filterMap option?

def directives (writes : List Write) : List (String × DirectiveValue) := writes.filterMap directive?

end Write

/-- A way of reading an option. -/
inductive Reader where
  | text | int | list | bool
  deriving DecidableEq

/-- Whether an option has a value when it is read this way; as a Boolean, whether it is true. -/
def answers (component : Component) (key : String) : Reader → Bool
  | .text => (component.optionText? key).isSome
  | .int => (component.optionInt? key).isSome
  | .list => (component.optionList? key).isSome
  | .bool => component.optionIsTrue key

open OrderedMap in
/-- A component of this name holds what these writes have set on it, and nothing else. -/
structure Holds (name : String) (writes : List Write) (component : Component) : Prop where
  /-- Each key stands where it was first set. -/
  optionKeys : component.options.keys = ((Write.options writes).map Prod.fst).eraseDups
  optionOnce : component.options.keys.Nodup
  option : ∀ key, component.option? key = last? (Write.options writes) key
  directiveKeys : component.directives.keys = ((Write.directives writes).map Prod.fst).eraseDups
  directiveOnce : component.directives.keys.Nodup
  directive : ∀ name, component.directives.get? name = last? (Write.directives writes) name
  /-- All else is as it is in a new component, and one more write changes one map only. -/
  others : component = { name, options := component.options, directives := component.directives }
  optionApart : ∀ key value, { component.setOption key value with options := component.options } = component
  directiveApart : ∀ name raw,
    { component.setDirective name raw with directives := component.directives } = component
  /-- Each reader answers for values of its own form, with the value that was set last. -/
  text : ∀ key value, component.optionText? key = some value ↔
    last? (Write.options writes) key = some (.text value)
  int : ∀ key value, component.optionInt? key = some value ↔
    last? (Write.options writes) key = some (.int value)
  list : ∀ key values, component.optionList? key = some values ↔
    last? (Write.options writes) key = some (.list values)
  bool : ∀ key, component.optionIsTrue key = true ↔
    last? (Write.options writes) key = some (.bool true)
  single : ∀ key reader other,
    component.answers key reader = true → component.answers key other = true → reader = other
  silent : ∀ key, (∀ reader, component.answers key reader = false) ↔
    key ∉ (Write.options writes).map Prod.fst ∨ last? (Write.options writes) key = some .none ∨
      last? (Write.options writes) key = some (.bool false)

variable {component : Component} {key : String}

private theorem bind_option?_eq_some_iff {Value : Type} {read : OptionValue → Option Value}
    {form : Value → OptionValue}
    (reads : ∀ held value, read held = some value ↔ held = form value) {value : Value} :
    (component.option? key).bind read = some value ↔ component.option? key = some (form value) := by
  rw [Option.bind_eq_some_iff]
  constructor
  · rintro ⟨held, given, known⟩
    rw [given, (reads held value).mp known]
  · intro given
    exact ⟨form value, given, (reads _ value).mpr rfl⟩

private theorem optionText?_eq_some_iff {value : String} :
    component.optionText? key = some value ↔ component.option? key = some (.text value) :=
  bind_option?_eq_some_iff fun held _ => by cases held <;> simp [OptionValue.text?]

private theorem optionInt?_eq_some_iff {value : Int64} :
    component.optionInt? key = some value ↔ component.option? key = some (.int value) :=
  bind_option?_eq_some_iff fun held _ => by cases held <;> simp [OptionValue.int?]

private theorem optionList?_eq_some_iff {values : List String} :
    component.optionList? key = some values ↔ component.option? key = some (.list values) :=
  bind_option?_eq_some_iff fun held _ => by cases held <;> simp [OptionValue.list?]

private theorem optionIsTrue_iff :
    component.optionIsTrue key = true ↔ component.option? key = some (.bool true) := by
  rw [optionIsTrue]
  cases component.option? key with
  | none => simp
  | some held => cases held <;> simp [OptionValue.isTrue]

/-- The way in which a value can be read. -/
def readerOf? : OptionValue → Option Reader
  | .text _ => some .text
  | .int _ => some .int
  | .list _ => some .list
  | .bool true => some .bool
  | .bool false | .none => none

/-- An option answers only the reader for the value that it holds. -/
theorem answers_iff {reader : Reader} :
    component.answers key reader = true ↔ (component.option? key).bind readerOf? = some reader := by
  have held : component.answers key reader = (component.option? key).any fun value =>
      readerOf? value = some reader := by
    cases reader <;>
      simp only [answers, optionText?, optionInt?, optionList?, optionIsTrue] <;>
      cases component.option? key with
      | none => rfl
      | some value => rcases value with (_ | _) | _ | _ | _ | _ <;> rfl
  rw [held, Option.any_eq_true, Option.bind_eq_some_iff]
  simp

/-- No reader gets an answer from an option that is not set, or set to nothing or to false. -/
theorem forall_answers_eq_false_iff : (∀ reader, component.answers key reader = false) ↔
    component.option? key = none ∨ component.option? key = some .none ∨
      component.option? key = some (.bool false) := by
  simp only [← Bool.not_eq_true, answers_iff, Option.bind_eq_some_iff]
  constructor
  · intro unread
    cases held : component.option? key with
    | none => exact .inl rfl
    | some value =>
      refine .inr ?_
      cases value with
      | none => exact .inl rfl
      | bool value =>
        cases value with
        | false => exact .inr rfl
        | true => exact absurd ⟨_, held, rfl⟩ (unread .bool)
      | text => exact absurd ⟨_, held, rfl⟩ (unread .text)
      | int => exact absurd ⟨_, held, rfl⟩ (unread .int)
      | list => exact absurd ⟨_, held, rfl⟩ (unread .list)
  · rintro (unset | nothing | untrue) reader
    · simp [unset]
    · simp [nothing, readerOf?]
    · simp [untrue, readerOf?]

private theorem foldl_write (component : Component) (writes : List Write) :
    writes.foldl write component =
      { component with
        options := (Write.options writes).foldl
          (fun map (key, value) => map.set key value) component.options
        directives := (Write.directives writes).foldl
          (fun map (key, value) => map.set key value) component.directives } := by
  induction writes generalizing component with
  | nil => rfl
  | cons first rest ih =>
    rw [List.foldl_cons, ih]
    cases first <;> rfl

/-- A new component holds, after any writes, what they have set last. -/
theorem holds_last_writes (name : String) (writes : List Write) :
    Holds name writes (writes.foldl write { name }) := by
  have written := foldl_write { name } writes
  have option (key : String) : (writes.foldl write { name }).option? key =
      OrderedMap.last? (Write.options writes) key := by
    rw [written]
    exact OrderedMap.get?_ofList _ key
  constructor
  case optionKeys =>
    rw [written]
    exact OrderedMap.keys_ofList _
  case optionOnce => exact (writes.foldl write { name }).options.distinct
  case option => exact option
  case directiveKeys =>
    rw [written]
    exact OrderedMap.keys_ofList _
  case directiveOnce => exact (writes.foldl write { name }).directives.distinct
  case directive =>
    intro key
    rw [written]
    exact OrderedMap.get?_ofList _ key
  case others => rw [written]
  case optionApart => exact fun _ _ => rfl
  case directiveApart => exact fun _ _ => rfl
  case text => exact fun key _ => option key ▸ optionText?_eq_some_iff
  case int => exact fun key _ => option key ▸ optionInt?_eq_some_iff
  case list => exact fun key _ => option key ▸ optionList?_eq_some_iff
  case bool => exact fun key => option key ▸ optionIsTrue_iff
  case single =>
    intro key reader other first second
    exact Option.some.inj ((answers_iff.mp first).symm.trans (answers_iff.mp second))
  case silent =>
    intro key
    rw [← OrderedMap.last?_eq_none_iff, ← option key]
    exact forall_answers_eq_false_iff

end Component

end PageSketch
