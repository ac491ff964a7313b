import Mathlib.Data.List.Forall2
import PageSketch.OrderedMap
import PageSketch.Template.Render

/-! Shapes of data, and templates that suit them. A shape says what a template may do with a value; data
of one shape are alike when no test and no loop can tell them apart, however their texts read. -/
namespace PageSketch.Template

/-- What a template may do with a value. -/
inductive Shape where
  /-- Show it. -/
  | shown
  /-- Show it, test it, or loop over it. -/
  | plain
  /-- Test it or loop over it; its elements have one shape. -/
  | list (element : Shape)
  /-- Test it or step into it; its fields have shapes by name. -/
  | record (field : String → Shape)

/-- Two values that tests and loops treat alike: the same value, or texts that differ in wording. -/
inductive PlainAlike : Json → Json → Prop where
  | same (value : Json) : PlainAlike value value
  | text {left right : String} (empty : left.isEmpty = right.isEmpty) :
      PlainAlike (.text left) (.text right)
  | texts {lefts rights : List String}
      (empty : List.Forall₂ (fun left right => left.isEmpty = right.isEmpty) lefts rights) :
      PlainAlike (.ofTexts lefts) (.ofTexts rights)

namespace Shape

/-- Two values of the shape that a template for the shape treats alike. -/
def Alike : Shape → Json → Json → Prop
  | shown, _, _ => True
  | plain, left, right => PlainAlike left right
  | list element, left, right =>
    ∃ lefts rights, left = .array lefts ∧ right = .array rights ∧
      List.Forall₂ element.Alike lefts rights
  | record field, left, right =>
    ∃ lefts rights, left = .object lefts ∧ right = .object rights ∧
      List.Forall₂ (fun left right => left.1 = right.1 ∧ (field left.1).Alike left.2 right.2)
        lefts rights

/-- The shape that a path leads to. -/
def at? : Shape → List String → Option Shape
  | shape, [] => some shape
  | record field, name :: rest => (field name).at? rest
  | _, _ :: _ => none

/-- Whether a template may test the value. -/
def isTested : Shape → Bool
  | shown => false
  | _ => true

/-- The shape of what a loop over the value goes through. -/
def element? : Shape → Option Shape
  | plain => some plain
  | list element => some element
  | _ => none

end Shape

/-- What a template may do with the value of an expression inside levels of these shapes. The place in
a loop is the only value that a template may compare. -/
def Expr.shape? (shapes : List Shape) : Expr → Option Shape
  | .path (.level up) names => shapes[up]?.bind (·.at? names)
  | .loopValue up _ => shapes[up]?.map fun _ => .plain
  | .call "eq" [.loopValue up "index", .path (.level other) names] =>
    match shapes[up]?, shapes[other]?.bind (·.at? names) with
    | some _, some .plain => some .plain
    | _, _ => none
  | _ => none

/-- Whether an expression calls something. -/
def Expr.isCall : Expr → Bool
  | .call _ _ => true
  | _ => false

/-- Whether the function makes a text of whatever it gets. -/
def Function.makesText : Function → Bool
  | kebabCase | pascalCase | upperFirst | stars | join => true
  | _ => false

mutual

/-- Whether a part of a template does with its values only what their shapes allow. -/
def Node.suits (shapes : List Shape) : Node → Bool
  | .text _ => true
  | .value _ source => !source.isCall && (source.shape? shapes).isSome
  | .call _ name args =>
    (Function.named? name).any Function.makesText && args.all fun arg => (arg.shape? shapes).isSome
  | .block name [arg] body otherwise =>
    match Block.named? name, arg.shape? shapes with
    | some (.when _), some shape => shape.isTested && suitsAll shapes body && suitsAll shapes otherwise
    | some .each, some shape =>
      match shape.element? with
      | some element => suitsAll (element :: shapes) body && suitsAll shapes otherwise
      | none => false
    | _, _ => false
  | .block _ _ _ _ => false
  | .placed _ node => node.suits shapes

def suitsAll (shapes : List Shape) : List Node → Bool
  | [] => true
  | first :: rest => first.suits shapes && suitsAll shapes rest

end

/-- Two levels of one shape that are alike, in the same round of a loop. -/
structure Level.Alike (shape : Shape) (left right : Level) : Prop where
  value : shape.Alike left.value right.value
  loop : left.loop = right.loop
  place : ∀ value ∈ left.loop.lookup "index", ∃ index, value = .number index

/-- Two scopes whose levels have these shapes and are alike, the innermost in front. -/
def Scope.Alike (shapes : List Shape) (left right : Scope) : Prop :=
  ∀ up shape, shapes[up]? = some shape →
    ∃ inLeft inRight, left.levelAt? up = some inLeft ∧ right.levelAt? up = some inRight ∧
      Level.Alike shape inLeft inRight

variable {shape found : Shape} {shapes : List Shape} {left right : Scope}

theorem Scope.Alike.enter {inLeft inRight : Level} (outside : Scope.Alike shapes left right)
    (inside : Level.Alike shape inLeft inRight) :
    Scope.Alike (shape :: shapes) (left.enter inLeft) (right.enter inRight) := by
  intro up inner known
  cases up with
  | zero =>
    cases known
    exact ⟨inLeft, inRight, rfl, rfl, inside⟩
  | succ up => exact outside up inner known

theorem Scope.alike_whole {left right : Json} (alike : shape.Alike left right) :
    Scope.Alike [shape] ⟨⟨left, []⟩, []⟩ ⟨⟨right, []⟩, []⟩ := by
  intro up inner known
  cases up with
  | zero =>
    cases known
    exact ⟨_, _, rfl, rfl, alike, rfl, by simp⟩
  | succ up => simp at known

private theorem alike_lookup {field : String → Shape} {lefts rights : List (String × Json)}
    (alike : List.Forall₂ (fun left right => left.1 = right.1 ∧
      (field left.1).Alike left.2 right.2) lefts rights) (name : String) :
    Option.Rel (field name).Alike (lefts.lookup name) (rights.lookup name) := by
  induction alike with
  | nil => exact .none
  | @cons left right lefts rights first _ ih =>
    obtain ⟨key, value⟩ := left
    obtain ⟨other, twin⟩ := right
    obtain ⟨same, alike⟩ := first
    cases same
    rw [OrderedMap.lookup_cons_eq_ite, OrderedMap.lookup_cons_eq_ite]
    split
    · rename_i same
      cases same
      exact .some alike
    · exact ih

/-- A path that a shape allows leads to alike values, and never fails. -/
theorem alike_steps {names : List String} {left right : Option Json}
    (leads : shape.at? names = some found) (alike : Option.Rel shape.Alike left right) :
    ∃ inLeft inRight, names.foldlM stepInto left = .ok inLeft ∧
      names.foldlM stepInto right = .ok inRight ∧ Option.Rel found.Alike inLeft inRight := by
  induction names generalizing shape left right with
  | nil =>
    rw [Shape.at?, Option.some.injEq] at leads
    subst leads
    exact ⟨left, right, rfl, rfl, alike⟩
  | cons name rest ih =>
    cases shape with
    | shown | plain | list element => simp [Shape.at?] at leads
    | record field =>
      rw [Shape.at?] at leads
      cases alike with
      | none => exact ih leads .none
      | some alike =>
        obtain ⟨lefts, rights, rfl, rfl, fields⟩ := alike
        exact ih leads (alike_lookup fields name)

/-- Alike values pass the same tests. -/
theorem isTruthy_alike {left right : Json} (tested : shape.isTested) (alike : shape.Alike left right) :
    left.isTruthy = right.isTruthy := by
  cases shape with
  | shown => cases tested
  | plain =>
    cases alike with
    | same => rfl
    | text empty => simp [Json.isTruthy, empty]
    | texts empty =>
      cases empty with
      | nil => rfl
      | cons => rfl
  | list element =>
    obtain ⟨lefts, rights, rfl, rfl, elements⟩ := alike
    cases elements with
    | nil => rfl
    | cons => rfl
  | record field =>
    obtain ⟨lefts, rights, rfl, rfl, fields⟩ := alike
    cases fields with
    | nil => rfl
    | cons => rfl

/-- The place in a loop is the same as a value or not, whichever of two alike values that is. -/
theorem same_alike {place left right : Json} (alike : PlainAlike left right)
    (number : place = .null ∨ ∃ index, place = .number index) : place.same left = place.same right := by
  cases alike with
  | same => rfl
  | text empty =>
    rcases number with rfl | ⟨index, rfl⟩
    · rfl
    · rfl
  | texts empty =>
    rcases number with rfl | ⟨index, rfl⟩
    · rfl
    · rfl

private theorem place_of_mem_rounds {value : Json} {level : Level} (round : level ∈ rounds value) :
    ∀ place ∈ level.loop.lookup "index", ∃ index, place = .number index := by
  cases value with
  | array values =>
    obtain ⟨index, _, rfl⟩ := List.mem_mapIdx.mp round
    intro place found
    cases found
    exact ⟨index, rfl⟩
  | object fields =>
    obtain ⟨index, _, rfl⟩ := List.mem_mapIdx.mp round
    simp [loopFacts, OrderedMap.lookup_cons_eq_ite]
  | null | bool _ | number _ | double _ | text _ => cases round

private theorem alike_rounds_array {lefts rights : List Json}
    (alike : List.Forall₂ shape.Alike lefts rights) :
    List.Forall₂ (Level.Alike shape) (rounds (.array lefts)) (rounds (.array rights)) := by
  have count := alike.length_eq
  rw [List.forall₂_iff_get]
  refine ⟨by simp [rounds, count], ?_⟩
  intro index inLeft inRight
  have place := place_of_mem_rounds ((rounds (.array lefts)).get_mem ⟨index, inLeft⟩)
  refine ⟨?_, ?_, place⟩
  · simp only [rounds, List.get_eq_getElem, List.getElem_mapIdx]
    exact (List.forall₂_iff_get.mp alike).2 index _ _
  · simp [rounds, loopFacts, count]

/-- The rounds of loops over alike values are alike. -/
theorem alike_rounds {left right : Json} (loops : shape.element? = some found)
    (alike : shape.Alike left right) :
    List.Forall₂ (Level.Alike found) (rounds left) (rounds right) := by
  cases shape with
  | shown | record field => cases loops
  | list element =>
    cases loops
    obtain ⟨lefts, rights, rfl, rfl, elements⟩ := alike
    exact alike_rounds_array elements
  | plain =>
    cases loops
    cases alike with
    | same value =>
      rw [List.forall₂_same]
      exact fun level round => ⟨.same _, rfl, place_of_mem_rounds round⟩
    | text empty => exact .nil
    | texts empty =>
      apply alike_rounds_array
      rw [List.forall₂_map_left_iff, List.forall₂_map_right_iff]
      exact empty.imp fun _ _ same => .text same

/-- A path that the shapes of the levels allow has alike values in alike scopes. -/
theorem alike_find {up : Nat} {names : List String}
    (leads : shapes[up]?.bind (·.at? names) = some found) (alike : Scope.Alike shapes left right) :
    ∃ inLeft inRight, left.find (.level up) names = .ok inLeft ∧
      right.find (.level up) names = .ok inRight ∧ Option.Rel found.Alike inLeft inRight := by
  obtain ⟨shape, known, steps⟩ := Option.bind_eq_some_iff.mp leads
  obtain ⟨inLeft, inRight, leftLevel, rightLevel, same⟩ := alike up shape known
  simp only [Scope.find, Scope.start, leftLevel, rightLevel, Option.getD_some]
  exact alike_steps steps (.some same.value)

private theorem lookup_loop_alike {up : Nat} (known : shapes[up]? = some shape)
    (alike : Scope.Alike shapes left right) (name : String) :
    (left.levelAt? up).bind (·.loop.lookup name) = (right.levelAt? up).bind (·.loop.lookup name) := by
  obtain ⟨inLeft, inRight, leftLevel, rightLevel, same⟩ := alike up shape known
  rw [leftLevel, rightLevel, Option.bind_some, Option.bind_some, same.loop]

private theorem place_alike {up : Nat} (known : shapes[up]? = some shape)
    (alike : Scope.Alike shapes left right) :
    ((left.levelAt? up).bind (·.loop.lookup "index")).getD .null = .null ∨
      ∃ index, ((left.levelAt? up).bind (·.loop.lookup "index")).getD .null = .number index := by
  obtain ⟨inLeft, inRight, leftLevel, rightLevel, same⟩ := alike up shape known
  rw [leftLevel, Option.bind_some]
  cases found : inLeft.loop.lookup "index" with
  | none => exact .inl rfl
  | some value => exact .inr (same.place value found)

/-- An expression that suits the shapes has alike values in alike scopes, and never fails. -/
theorem alike_eval {source : Expr} (suits : source.shape? shapes = some found)
    (alike : Scope.Alike shapes left right) :
    ∃ inLeft inRight, source.eval left = .ok inLeft ∧ source.eval right = .ok inRight ∧
      Option.Rel found.Alike inLeft inRight := by
  revert suits
  fun_cases source.shape? shapes with
  | case1 up names => exact fun leads => by simpa only [Expr.eval] using alike_find leads alike
  | case2 up name =>
    intro suits
    obtain ⟨shape, known, rfl⟩ := Option.map_eq_some_iff.mp suits
    rw [Expr.eval, Expr.eval, lookup_loop_alike known alike]
    refine ⟨_, _, rfl, rfl, ?_⟩
    cases (right.levelAt? up).bind (·.loop.lookup name) with
    | none => exact .none
    | some value => exact .some (.same value)
  | case3 up other names shape leads known =>
    intro suits
    cases suits
    obtain ⟨leftValue, rightValue, leftFound, rightFound, values⟩ := alike_find leads alike
    have valuesAlike : PlainAlike (leftValue.getD .null) (rightValue.getD .null) := by
      cases values with
      | none => exact .same _
      | some alike => exact alike
    -- Only because the other side is a place in a loop does the wording of a text not matter here.
    have same := same_alike valuesAlike (place_alike known alike)
    simp only [Expr.eval, evalAll, leftFound, rightFound, lookup_loop_alike known alike] at same ⊢
    refine ⟨_, _, rfl, rfl, .some ?_⟩
    rw [same]
    exact .same _
  | case4 => exact fun suits => nomatch suits
  | case5 => exact fun suits => nomatch suits

theorem evalAll_ok {args : List Expr} (suit : ∀ arg ∈ args, (arg.shape? shapes).isSome)
    (alike : Scope.Alike shapes left right) :
    (∃ values, evalAll left args = .ok values) ∧ ∃ values, evalAll right args = .ok values := by
  induction args with
  | nil => exact ⟨⟨[], rfl⟩, [], rfl⟩
  | cons arg rest ih =>
    obtain ⟨first, others⟩ := List.forall_mem_cons.mp suit
    obtain ⟨found, known⟩ := Option.isSome_iff_exists.mp first
    obtain ⟨inLeft, inRight, leftFound, rightFound, _⟩ := alike_eval known alike
    obtain ⟨⟨lefts, leftRest⟩, rights, rightRest⟩ := ih others
    simp only [evalAll, leftFound, rightFound, leftRest, rightRest]
    exact ⟨⟨_, rfl⟩, _, rfl⟩

end PageSketch.Template
