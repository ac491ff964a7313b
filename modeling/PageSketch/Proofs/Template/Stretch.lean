import PageSketch.Proofs.Template.Shape

/-! A filled template cut into stretches by where its text comes from. A template that suits its data is
filled without failure, and alike data give the same stretches of the template's own text. -/
namespace PageSketch.Template

/-- A stretch of a filled template, by where it comes from. -/
inductive Stretch where
  /-- Text of the template itself. -/
  | own (text : Text)
  /-- A value, which is escaped where it is inserted. -/
  | escaped (text : Text)
  /-- What is inserted as it is: a raw value, or what a call has made. -/
  | verbatim (text : Text)

namespace Stretch

/-- The text of the stretch as it stands in the filled template. -/
def text : Stretch → Text
  | own text => text
  | escaped text => escape text
  | verbatim text => text

/-- The text that is inserted as it is, if the stretch is one. -/
def verbatim? : Stretch → Option Text
  | verbatim text => some text
  | _ => none

/-- Two stretches that come from the same place of a template. -/
inductive Alike : Stretch → Stretch → Prop where
  | own (text : Text) : Alike (.own text) (.own text)
  | escaped (left right : Text) : Alike (.escaped left) (.escaped right)
  | verbatim (left right : Text) : Alike (.verbatim left) (.verbatim right)

end Stretch

def textOf (stretches : List Stretch) : Text := stretches.flatMap Stretch.text

theorem textOf_append (first second : List Stretch) :
    textOf (first ++ second) = textOf first ++ textOf second := List.flatMap_append

/-- The texts that are inserted as they are. -/
def verbatims (stretches : List Stretch) : List Text := stretches.filterMap Stretch.verbatim?

mutual

/-- The stretches of a part of a template that suits its data. -/
def Node.stretches : Node → Scope → List Stretch
  | .text text, _ => [.own text]
  | .value escaped source, scope =>
    match source.eval scope with
    | .ok (some value) => [if escaped then .escaped value.display else .verbatim value.display]
    | _ => []
  | .call escaped name args, scope =>
    match evalAll scope args with
    | .ok values => [.verbatim ((insertCall escaped name values).toOption.getD [])]
    | .error _ => []
  | .block name args body otherwise, scope =>
    match Block.named? name, evalAll scope args with
    | some (.when wanted), .ok (value :: _) =>
      if value.isTruthy == wanted then stretchesAll body scope else stretchesAll otherwise scope
    | some .each, .ok (value :: _) =>
      if (rounds value).isEmpty then stretchesAll otherwise scope
      else (rounds value).flatMap fun level => stretchesAll body (scope.enter level)
    | _, _ => []
  | .placed _ node, scope => node.stretches scope

def stretchesAll : List Node → Scope → List Stretch
  | [], _ => []
  | first :: rest, scope => first.stretches scope ++ stretchesAll rest scope

end

section Making

variable {Left Right Result : Type}

/-- What a block makes at a place of a template, from what its body and what stands in for it make there. -/
def inBlock (name : String) (args : List Expr) (body otherwise : Scope → List Result) (scope : Scope) :
    List Result :=
  match Block.named? name, evalAll scope args with
  | some (.when wanted), .ok (value :: _) =>
    if value.isTruthy == wanted then body scope else otherwise scope
  | some .each, .ok (value :: _) =>
    if (rounds value).isEmpty then otherwise scope
    else (rounds value).flatMap fun level => body (scope.enter level)
  | _, _ => []

/-- What relates the bodies of two blocks relates the blocks, if it relates what is made in a row when it relates
what is made one by one. -/
theorem inBlock_rel (relation : List Left → List Right → Prop) (none : relation [] [])
    (append : ∀ {left right lefts rights}, relation left right → relation lefts rights →
      relation (left ++ lefts) (right ++ rights))
    {body otherwise : Scope → List Left} {body' otherwise' : Scope → List Right}
    (bodies : ∀ scope, relation (body scope) (body' scope))
    (others : ∀ scope, relation (otherwise scope) (otherwise' scope)) (name : String) (args : List Expr)
    (scope : Scope) :
    relation (inBlock name args body otherwise scope) (inBlock name args body' otherwise' scope) := by
  have rounds (levels : List Level) : relation (levels.flatMap fun level => body (scope.enter level))
      (levels.flatMap fun level => body' (scope.enter level)) := by
    induction levels with
    | nil => exact none
    | cons level rest ih => exact append (bodies (scope.enter level)) ih
  unfold inBlock
  split
  · split
    · exact bodies scope
    · exact others scope
  · split
    · exact others scope
    · exact rounds _
  · exact none

/-- What holds of the body of a block holds of the block. -/
theorem inBlock_keeps (holds : List Result → Prop) (none : holds [])
    (append : ∀ {own rest}, holds own → holds rest → holds (own ++ rest)) {body otherwise : Scope → List Result}
    (bodies : ∀ scope, holds (body scope)) (others : ∀ scope, holds (otherwise scope)) (name : String)
    (args : List Expr) (scope : Scope) : holds (inBlock name args body otherwise scope) := by
  have same := inBlock_rel (fun left right => left = right ∧ holds left) ⟨rfl, none⟩
    (fun first rest => ⟨by rw [first.1, rest.1], append first.2 rest.2⟩)
    (fun scope => ⟨rfl, bodies scope⟩) (fun scope => ⟨rfl, others scope⟩) name args scope
  exact same.2

variable {name : String} {arg : Expr} {body otherwise : Scope → List Result} {scope : Scope}
  {value : Option Json}

private theorem inBlock_when {wanted : Bool} (named : Block.named? name = some (.when wanted))
    (found : arg.eval scope = .ok value) :
    inBlock name [arg] body otherwise scope =
      if (value.getD .null).isTruthy == wanted then body scope else otherwise scope := by
  simp only [inBlock, evalAll, found, named]
  rfl

private theorem inBlock_each (named : Block.named? name = some .each) (found : arg.eval scope = .ok value) :
    inBlock name [arg] body otherwise scope =
      if (rounds (value.getD .null)).isEmpty then otherwise scope
      else (rounds (value.getD .null)).flatMap fun level => body (scope.enter level) := by
  simp only [inBlock, evalAll, found, named]
  rfl

theorem inBlock_loop (named : Block.named? name = some .each) (found : arg.eval scope = .ok value)
    (nothing : ∀ scope, otherwise scope = []) :
    inBlock name [arg] body otherwise scope =
      (rounds (value.getD .null)).flatMap fun level => body (scope.enter level) := by
  rw [inBlock_each named found]
  split
  · rename_i empty
    rw [List.isEmpty_iff.mp empty, nothing]
    rfl
  · rfl

theorem inBlock_nil (name : String) (args : List Expr) (scope : Scope) :
    inBlock name args (fun _ => []) (fun _ => []) scope = ([] : List Result) :=
  inBlock_keeps (· = []) rfl (fun own rest => by rw [own, rest, List.nil_append]) (fun _ => rfl) (fun _ => rfl)
    name args scope

/-- Whether a test of a template holds at a place. -/
def Expr.passes (test : Expr) (scope : Scope) : Bool :=
  match test.eval scope with
  | .ok value => (value.getD .null).isTruthy
  | .error _ => false

theorem inBlock_if (test : Expr) (body : Scope → List Result) {otherwise : Scope → List Result}
    (nothing : ∀ scope, otherwise scope = []) (scope : Scope) :
    inBlock "if" [test] body otherwise scope = if test.passes scope then body scope else [] := by
  have named : Block.named? "if" = some (.when true) := rfl
  unfold Expr.passes
  split
  · rename_i value found
    rw [inBlock_when named found, nothing, beq_true]
  · rename_i problem failed
    simp [inBlock, evalAll, failed, bind, Except.bind]

end Making

theorem Node.stretches_block (name : String) (args : List Expr) (body otherwise : List Node) (scope : Scope) :
    (Node.block name args body otherwise).stretches scope =
      inBlock name args (stretchesAll body) (stretchesAll otherwise) scope := by
  rw [Node.stretches]
  rfl

/-- Two runs of a template that both end well and differ in no stretch of the template's own text. -/
structure FilledAlike (left right : Except RenderError Text) (lefts rights : List Stretch) : Prop where
  left : left = .ok (textOf lefts)
  right : right = .ok (textOf rights)
  alike : List.Forall₂ Stretch.Alike lefts rights

variable {shapes : List Shape} {left right : Scope}

@[simp]
theorem raised_ok {Value : Type} (value : Value) : raised (.ok value) = .ok value := rfl

private theorem Function.call_of_makesText {function : Function} (makes : function.makesText) (name : String)
    (args : List Json) : ∃ text, function.call name args = .ok (.text text) := by
  cases function with
  | kebabCase | pascalCase | upperFirst | stars | join => exact ⟨_, rfl⟩
  | eq | ne | gt | gte | lt | lte | and | or | not | len | lookup => cases makes

private theorem insertCall_ok {name : String} (makes : (Function.named? name).any Function.makesText)
    (escaped : Bool) (args : List Json) : ∃ text, insertCall escaped name args = .ok text := by
  obtain ⟨function, named, makes⟩ := (Option.any_eq_true _ _).mp makes
  obtain ⟨text, called⟩ := Function.call_of_makesText makes name args
  simp only [insertCall, callNamed, named, called]
  exact ⟨_, rfl⟩

private theorem fillsAlike_value {escaped : Bool} {source : Expr} (noCall : source.isCall = false)
    (suits : (source.shape? shapes).isSome) (alike : Scope.Alike shapes left right) :
    FilledAlike ((Node.value escaped source).render left) ((Node.value escaped source).render right)
      ((Node.value escaped source).stretches left) ((Node.value escaped source).stretches right) := by
  obtain ⟨found, known⟩ := Option.isSome_iff_exists.mp suits
  obtain ⟨inLeft, inRight, leftFound, rightFound, values⟩ := alike_eval known alike
  have inserted (value : Json) : raised (insertValue escaped source (some value)) =
      .ok (textOf [if escaped then .escaped value.display else .verbatim value.display]) := by
    cases source with
    | call => cases noCall
    | literal | path | loopValue => cases escaped <;> simp [insertValue, textOf, Stretch.text, shown]
  simp only [Node.render, Node.stretches, leftFound, rightFound]
  cases values with
  | none =>
    have nothing : raised (insertValue escaped source none) = .ok (textOf []) := rfl
    exact ⟨nothing, nothing, .nil⟩
  | some =>
    refine ⟨inserted _, inserted _, .cons ?_ .nil⟩
    cases escaped with
    | true => exact .escaped _ _
    | false => exact .verbatim _ _

private theorem fillsAlike_call {escaped : Bool} {name : String} {args : List Expr}
    (makes : (Function.named? name).any Function.makesText)
    (suit : ∀ arg ∈ args, (arg.shape? shapes).isSome) (alike : Scope.Alike shapes left right) :
    FilledAlike ((Node.call escaped name args).render left) ((Node.call escaped name args).render right)
      ((Node.call escaped name args).stretches left) ((Node.call escaped name args).stretches right) := by
  obtain ⟨⟨lefts, leftFound⟩, rights, rightFound⟩ := evalAll_ok suit alike
  obtain ⟨leftText, leftMade⟩ := insertCall_ok makes escaped lefts
  obtain ⟨rightText, rightMade⟩ := insertCall_ok makes escaped rights
  simp only [Node.render, Node.stretches, leftFound, rightFound]
  refine ⟨?_, ?_, .cons (.verbatim _ _) .nil⟩
  · simp [leftMade, textOf, Stretch.text, Except.toOption, bind, Except.bind, raised_ok]
  · simp [rightMade, textOf, Stretch.text, Except.toOption, bind, Except.bind, raised_ok]

/-- Where a part stands matters only to its errors. -/
theorem FilledAlike.placed {left right : Except RenderError Text} {lefts rights : List Stretch}
    (filled : FilledAlike left right lefts rights) (position : Position) :
    FilledAlike (left.mapError (·.atTag position)) (right.mapError (·.atTag position)) lefts rights := by
  refine ⟨?_, ?_, filled.alike⟩
  · rw [filled.left]
    rfl
  · rw [filled.right]
    rfl

theorem FilledAlike.append {left right leftRest rightRest : Except RenderError Text}
    {lefts rights leftsRest rightsRest : List Stretch} (first : FilledAlike left right lefts rights)
    (rest : FilledAlike leftRest rightRest leftsRest rightsRest) :
    FilledAlike
      (do
        let text ← left
        let texts ← leftRest
        return text ++ texts)
      (do
        let text ← right
        let texts ← rightRest
        return text ++ texts)
      (lefts ++ leftsRest) (rights ++ rightsRest) := by
  refine ⟨?_, ?_, List.rel_append first.alike rest.alike⟩
  · rw [first.left, rest.left, textOf_append]
    rfl
  · rw [first.right, rest.right, textOf_append]
    rfl

private theorem mapM_flatten_cons (fill : Level → Except RenderError Text) (first : Level)
    (rest : List Level) :
    (do
      let texts ← (first :: rest).mapM fill
      return texts.flatten) =
      (do
        let text ← fill first
        let texts ← (do
          let texts ← rest.mapM fill
          return texts.flatten)
        return text ++ texts) := by
  simp only [List.mapM_cons, bind_assoc, pure_bind, List.flatten_cons]

/-- What holds of each round of a loop holds of all of them in a row. -/
theorem fillsAlike_rounds {body : List Node} {lefts rights : List Level}
    (each : List.Forall₂ (fun inLeft inRight => FilledAlike
      (renderAll body (left.enter inLeft)) (renderAll body (right.enter inRight))
      (stretchesAll body (left.enter inLeft)) (stretchesAll body (right.enter inRight)))
        lefts rights) :
    FilledAlike
      (do
        let texts ← lefts.mapM fun level => renderAll body (left.enter level)
        return texts.flatten)
      (do
        let texts ← rights.mapM fun level => renderAll body (right.enter level)
        return texts.flatten)
      (lefts.flatMap fun level => stretchesAll body (left.enter level))
      (rights.flatMap fun level => stretchesAll body (right.enter level)) := by
  induction each with
  | nil => exact ⟨rfl, rfl, .nil⟩
  | cons first _ ih =>
    rw [mapM_flatten_cons, mapM_flatten_cons, List.flatMap_cons, List.flatMap_cons]
    exact first.append ih

private theorem isEmpty_alike {lefts rights : List Level} {relation : Level → Level → Prop}
    (alike : List.Forall₂ relation lefts rights) : lefts.isEmpty = rights.isEmpty := by
  cases alike with
  | nil => rfl
  | cons => rfl

section Blocks

variable {name : String} {arg : Expr} {body otherwise : List Node} {scope : Scope}
  {value : Option Json}

theorem render_when {wanted : Bool} (named : Block.named? name = some (.when wanted))
    (found : arg.eval scope = .ok value) :
    (Node.block name [arg] body otherwise).render scope =
      if (value.getD .null).isTruthy == wanted then renderAll body scope
      else renderAll otherwise scope := by
  simp only [Node.render, evalAll, found, named]
  rfl

theorem stretches_when {wanted : Bool} (named : Block.named? name = some (.when wanted))
    (found : arg.eval scope = .ok value) :
    (Node.block name [arg] body otherwise).stretches scope =
      if (value.getD .null).isTruthy == wanted then stretchesAll body scope
      else stretchesAll otherwise scope := by
  rw [Node.stretches_block, inBlock_when named found]

private theorem render_each (named : Block.named? name = some .each) (found : arg.eval scope = .ok value) :
    (Node.block name [arg] body otherwise).render scope =
      if (rounds (value.getD .null)).isEmpty then renderAll otherwise scope
      else do
        let texts ← (rounds (value.getD .null)).mapM fun level => renderAll body (scope.enter level)
        return texts.flatten := by
  simp only [Node.render, evalAll, found, named]
  rfl

private theorem stretches_each (named : Block.named? name = some .each)
    (found : arg.eval scope = .ok value) :
    (Node.block name [arg] body otherwise).stretches scope =
      if (rounds (value.getD .null)).isEmpty then stretchesAll otherwise scope
      else (rounds (value.getD .null)).flatMap fun level => stretchesAll body (scope.enter level) := by
  rw [Node.stretches_block, inBlock_each named found]

end Blocks

mutual

/-- A part of a template that suits alike data is filled with both, and alike. -/
theorem Node.fillsAlike (node : Node) {shapes : List Shape} {left right : Scope}
    (suits : node.suits shapes) (alike : Scope.Alike shapes left right) :
    FilledAlike (node.render left) (node.render right) (node.stretches left)
      (node.stretches right) := by
  match node with
  | .text text =>
    simp only [Node.render, Node.stretches]
    exact ⟨by simp [textOf, Stretch.text], by simp [textOf, Stretch.text], .cons (.own text) .nil⟩
  | .value escaped source =>
    simp only [Node.suits, Bool.and_eq_true, Bool.not_eq_true'] at suits
    exact fillsAlike_value suits.1 suits.2 alike
  | .call escaped name args =>
    simp only [Node.suits, Bool.and_eq_true, List.all_eq_true] at suits
    exact fillsAlike_call suits.1 suits.2 alike
  | .block _ [] _ _ | .block _ (_ :: _ :: _) _ _ => simp [Node.suits] at suits
  | .block name [arg] body otherwise =>
    rw [Node.suits] at suits
    split at suits
    · rename_i wanted shape named known
      simp only [Bool.and_eq_true] at suits
      obtain ⟨inLeft, inRight, leftFound, rightFound, values⟩ := alike_eval known alike
      -- Alike values pass the same tests, so both runs go on with the same body.
      have truth : (inLeft.getD .null).isTruthy = (inRight.getD .null).isTruthy := by
        cases values with
        | none => rfl
        | some values => exact isTruthy_alike suits.1.1 values
      rw [render_when named leftFound, render_when named rightFound, stretches_when named leftFound,
        stretches_when named rightFound, truth]
      split
      · exact fillsAlike_all body suits.1.2 alike
      · exact fillsAlike_all otherwise suits.2 alike
    · rename_i shape named known
      split at suits
      · rename_i element loops
        simp only [Bool.and_eq_true] at suits
        obtain ⟨inLeft, inRight, leftFound, rightFound, values⟩ := alike_eval known alike
        -- And they make for as many rounds, in each of which both scopes have one more level.
        have levels : List.Forall₂ (Level.Alike element) (rounds (inLeft.getD .null))
            (rounds (inRight.getD .null)) := by
          cases values with
          | none => exact .nil
          | some values => exact alike_rounds loops values
        have each := levels.imp fun _ _ inside => fillsAlike_all body suits.1 (alike.enter inside)
        rw [render_each named leftFound, render_each named rightFound,
          stretches_each named leftFound, stretches_each named rightFound, isEmpty_alike levels]
        split
        · exact fillsAlike_all otherwise suits.2 alike
        · exact fillsAlike_rounds each
      · cases suits
    · cases suits
  | .placed position node =>
    rw [Node.suits] at suits
    simp only [Node.render, Node.stretches]
    exact (node.fillsAlike suits alike).placed position

/-- Parts of a template that suit alike data are filled with both, and alike. -/
theorem fillsAlike_all (nodes : List Node) {shapes : List Shape} {left right : Scope}
    (suit : suitsAll shapes nodes) (alike : Scope.Alike shapes left right) :
    FilledAlike (renderAll nodes left) (renderAll nodes right) (stretchesAll nodes left)
      (stretchesAll nodes right) := by
  match nodes with
  | [] => exact ⟨rfl, rfl, .nil⟩
  | first :: rest =>
    simp only [suitsAll, Bool.and_eq_true] at suit
    have head := first.fillsAlike suit.1 alike
    have tail := fillsAlike_all rest suit.2 alike
    rw [renderAll, renderAll, stretchesAll, stretchesAll]
    exact head.append tail

end

end PageSketch.Template
