import PageSketch.Template.Render

/-! The errors of a template that is filled: none of them says the name of the template, which only the registry
knows. -/
namespace PageSketch.Template

variable {Value Result : Type}

def IsUnnamed (result : Except RenderError Value) : Prop :=
  ∀ cause, result = .error cause → cause.template? = none

private theorem isUnnamed_ok (value : Value) : IsUnnamed (.ok value) := nofun

private theorem isUnnamed_raised (result : Except Reason Value) : IsUnnamed (raised result) := by
  cases result with
  | ok value => exact isUnnamed_ok value
  | error reason =>
    rintro _ ⟨⟩
    rfl

private theorem IsUnnamed.bind {result : Except RenderError Value} {next : Value → Except RenderError Result}
    (first : IsUnnamed result) (rest : ∀ value, IsUnnamed (next value)) : IsUnnamed (result >>= next) := by
  cases result with
  | ok value => exact rest value
  | error problem => exact fun _ same => first _ (congrArg Except.error (Except.error.inj same))

private theorem IsUnnamed.atTag {result : Except RenderError Value} (inside : IsUnnamed result)
    (position : Position) : IsUnnamed (result.mapError (·.atTag position)) := by
  cases result with
  | ok value => exact isUnnamed_ok value
  | error problem =>
    rintro _ ⟨⟩
    exact inside problem rfl

private theorem isUnnamed_mapM {fill : Value → Except RenderError Result} (each : ∀ value, IsUnnamed (fill value))
    (values : List Value) : IsUnnamed (values.mapM fill) := by
  induction values with
  | nil => exact isUnnamed_ok []
  | cons first rest ih =>
    rw [List.mapM_cons]
    exact (each first).bind fun own => ih.bind fun others => isUnnamed_ok (own :: others)

mutual

theorem Node.isUnnamed_render (node : Node) (scope : Scope) : IsUnnamed (node.render scope) := by
  match node with
  | .text text =>
    rw [Node.render]
    exact isUnnamed_ok text
  | .value escaped source =>
    rw [Node.render]
    exact (isUnnamed_raised _).bind fun value => isUnnamed_raised _
  | .call escaped name args =>
    rw [Node.render]
    exact (isUnnamed_raised _).bind fun values => isUnnamed_raised _
  | .block name args body otherwise =>
    rw [Node.render]
    refine (isUnnamed_raised _).bind fun values => ?_
    split
    · split
      · exact isUnnamed_renderAll body scope
      · exact isUnnamed_renderAll otherwise scope
    · split
      · exact isUnnamed_renderAll otherwise scope
      · exact (isUnnamed_mapM (fun level => isUnnamed_renderAll body (scope.enter level)) _).bind fun texts =>
          isUnnamed_ok texts.flatten
    · split
      · exact isUnnamed_renderAll body _
      · exact isUnnamed_renderAll otherwise scope
    · exact isUnnamed_renderAll body scope
    · exact isUnnamed_raised _
  | .placed position node =>
    rw [Node.render]
    exact (node.isUnnamed_render scope).atTag position

private theorem isUnnamed_renderAll (nodes : List Node) (scope : Scope) : IsUnnamed (renderAll nodes scope) := by
  match nodes with
  | [] => exact isUnnamed_ok []
  | first :: rest =>
    rw [renderAll]
    exact (first.isUnnamed_render scope).bind fun text =>
      (isUnnamed_renderAll rest scope).bind fun texts => isUnnamed_ok (text ++ texts)

end

/-- A template that cannot be filled with data does not know its own name. -/
theorem isUnnamed_render (template : Template) (data : Json) : IsUnnamed (template.render data) := by
  have unnamed := isUnnamed_renderAll template ⟨⟨data, []⟩, []⟩
  rw [Template.render]
  cases filled : renderAll template ⟨⟨data, []⟩, []⟩ with
  | ok text => exact isUnnamed_ok (String.ofList text)
  | error problem =>
    rintro _ ⟨⟩
    exact unnamed problem filled

end PageSketch.Template
