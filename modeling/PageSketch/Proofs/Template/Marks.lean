import PageSketch.Proofs.Template.Verbatim
import PageSketch.Proofs.Text.Marks

/-! The characters of a filled template that open and close tags and attributes: those of the template's
own text, and those of what is inserted as it is. -/
namespace PageSketch.Template

/-- The template's own text, if the stretch is some. -/
def Stretch.own? : Stretch → Option Text
  | own text => some text
  | _ => none

/-- What the template's own text has of the characters that markup is made of. -/
def ownMarks (stretches : List Stretch) : Text := (stretches.filterMap Stretch.own?).flatMap Text.marks

/-- What is inserted as it is has of the characters that markup is made of. -/
def foreignMarks (stretches : List Stretch) : Text := (verbatims stretches).flatMap Text.marks

theorem ownMarks_alike {lefts rights : List Stretch} (alike : List.Forall₂ Stretch.Alike lefts rights) :
    ownMarks lefts = ownMarks rights := by
  induction alike with
  | nil => rfl
  | cons first _ ih =>
    unfold ownMarks at ih ⊢
    cases first <;> simp [List.filterMap_cons, Stretch.own?, ih]

/-- The characters that markup is made of are the template's own, and others in between. -/
theorem ownMarks_sublist (stretches : List Stretch) :
    (ownMarks stretches).Sublist (textOf stretches).marks := by
  induction stretches with
  | nil => exact .slnil
  | cons stretch rest ih =>
    rw [textOf, List.flatMap_cons, ← textOf, Text.marks_append]
    cases stretch with
    | own text => exact ih.append_left text.marks
    | escaped text => exact List.sublist_append_of_sublist_right ih
    | verbatim text => exact List.sublist_append_of_sublist_right ih

/-- Those others come from what is inserted as it is. -/
theorem length_marks_textOf (stretches : List Stretch) :
    (textOf stretches).marks.length =
      (ownMarks stretches).length + (foreignMarks stretches).length := by
  induction stretches with
  | nil => rfl
  | cons stretch rest ih =>
    rw [textOf, List.flatMap_cons, ← textOf, Text.marks_append, List.length_append, ih]
    unfold ownMarks foreignMarks verbatims
    simp only [List.filterMap_cons]
    cases stretch with
    | own text => simp [Stretch.own?, Stretch.verbatim?, Stretch.text, Nat.add_assoc]
    | escaped text => simp [Stretch.own?, Stretch.verbatim?, Stretch.text, Text.marks_escape]
    | verbatim text => simp [Stretch.own?, Stretch.verbatim?, Stretch.text, Nat.add_left_comm]

/-- All tags and attributes are the template's own just if nothing is inserted as it is that could open
or close one. -/
theorem marks_textOf_eq_iff (stretches : List Stretch) :
    (textOf stretches).marks = ownMarks stretches ↔ foreignMarks stretches = [] := by
  have lengths := length_marks_textOf stretches
  constructor
  · intro same
    rw [same] at lengths
    exact List.eq_nil_of_length_eq_zero (by omega)
  · intro clean
    rw [clean, List.length_nil, Nat.add_zero] at lengths
    exact ((ownMarks_sublist stretches).eq_of_length lengths.symm).symm

private theorem flatMap_mapIdx_map {Value Other Placed Result : Type} {encode : Value → Other}
    {place : Nat → Other → Placed} {results : Placed → List Result} {own : Value → List Result}
    (same : ∀ index value, results (place index (encode value)) = own value) (values : List Value) :
    ((values.map encode).mapIdx place).flatMap results = values.flatMap own := by
  induction values generalizing place with
  | nil => rfl
  | cons value rest ih =>
    rw [List.map_cons, List.mapIdx_cons, List.flatMap_cons, List.flatMap_cons, same,
      ih fun index => same (index + 1)]

theorem verbatims_each {Value : Type} {encode : Value → Json} {inserts : Value → List Text}
    {arg : Expr} {body : List Node} {scope : Scope} {values : List Value}
    (found : arg.eval scope = .ok (some (.array (values.map encode))))
    (each : ∀ value loop,
      verbatims (stretchesAll body (scope.enter ⟨encode value, loop⟩)) = inserts value) :
    verbatims ((Node.block "each" [arg] body []).stretches scope) = values.flatMap inserts := by
  have nothing (scope : Scope) : stretchesAll [] scope = [] := rfl
  rw [Node.stretches_block, inBlock_loop rfl found nothing, Option.getD_some, verbatims_flatMap, rounds]
  apply flatMap_mapIdx_map
  exact fun _ value => each value _

theorem verbatims_call {name : String} {args : List Expr} {scope : Scope} {values : List Json}
    {text : Text} (found : evalAll scope args = .ok values)
    (made : insertCall true name values = .ok text) :
    verbatims ((Node.call true name args).stretches scope) = [text] := by
  simp only [Node.stretches, found, made]
  rfl

/-- A block inserts nothing that could open or close a tag when its bodies do not, wherever they
stand. -/
theorem foreignMarks_block {body otherwise : List Node}
    (clean : ∀ scope, foreignMarks (stretchesAll body scope) = [])
    (clean' : ∀ scope, foreignMarks (stretchesAll otherwise scope) = []) (name : String)
    (args : List Expr) (scope : Scope) :
    foreignMarks ((Node.block name args body otherwise).stretches scope) = [] := by
  rw [Node.stretches_block]
  refine inBlock_keeps (fun stretches => foreignMarks stretches = []) rfl ?_ clean clean' name args scope
  intro own rest first later
  rw [foreignMarks, verbatims_append, List.flatMap_append, ← foreignMarks, ← foreignMarks, first, later]
  rfl

end PageSketch.Template
