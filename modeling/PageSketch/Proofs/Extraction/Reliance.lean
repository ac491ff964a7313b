import PageSketch.Extraction.Kinds

/-! What is read from a description relies on no other directives than those that say something about a
modal or a table. -/
namespace PageSketch

def consultedDirectives : List String := ["columns", "size", "trigger"]

/-- Other directives may be set in any way. -/
theorem extract_congr (intent : Intent) (others : OrderedMap DirectiveValue)
    (same : ∀ name ∈ consultedDirectives, others.get? name = intent.directives.get? name)
    (kind : Kind) : { intent with directives := others }.extract kind = intent.extract kind := by
  have text (name : String) (consulted : name ∈ consultedDirectives) :
      { intent with directives := others }.directiveText? name = intent.directiveText? name :=
    congrArg (Option.bind · DirectiveValue.text?) (same name consulted)
  cases kind with
  | modal =>
    have size : { intent with directives := others }.modalSize = intent.modalSize := by
      rw [Intent.modalSize, text "size" (by decide)]
      rfl
    rw [Intent.extract, Intent.extractModal, text "trigger" (by decide), size]
    rfl
  | table =>
    have columns : { intent with directives := others }.tableColumns = intent.tableColumns := by
      rw [Intent.tableColumns, text "columns" (by decide)]
      rfl
    rw [Intent.extract, Intent.extractTable, columns]
    rfl
  | form | hero | card | navigation | footer | gallery | accordion | tabs | carousel | pricing
  | testimonial => rfl

end PageSketch
