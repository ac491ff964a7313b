import PageSketch.Proofs.Command.Record
import PageSketch.Proofs.Page.Filling

/-! What drawing a source fails by: by its source and by the files of its place, and never by what a
component is like. -/
namespace PageSketch

/-- The problem is that the source holds nothing, or lies with the files of a place. -/
inductive CommandError.IsOutside (input : String) : CommandError → Prop where
  | emptySource : IsOutside input .emptySource
  | unreadable (cause : FileError) : IsOutside input (.unreadable input cause)
  | unwritable (path : String) (cause : FileError) : IsOutside input (.unwritable path cause)

namespace Task

variable {Place Value Result : Type} {problems : CommandError → Prop}

/-- However the place is, the task fails by one of these problems if it fails. -/
structure FailsBy (task : Task (StateM Place) Value) (problems : CommandError → Prop) : Prop where
  run : ∀ place problem, (task.run place).1 = .error problem → problems problem

private theorem failsBy_pure (value : Value) : FailsBy (pure value : Task (StateM Place) Value) problems :=
  ⟨fun _ _ failed => nomatch failed⟩

private theorem failsBy_throw {problem : CommandError} (allowed : problems problem) :
    FailsBy (throw problem : Task (StateM Place) Value) problems := by
  constructor
  intro place other failed
  cases failed
  exact allowed

theorem FailsBy.bind {task : Task (StateM Place) Value} {next : Value → Task (StateM Place) Result}
    (fails : FailsBy task problems) (failsNext : ∀ value, FailsBy (next value) problems) :
    FailsBy (task >>= next) problems := by
  constructor
  intro place problem failed
  rw [run_bind] at failed
  rcases first : task.run place with ⟨early | value, later⟩
  · rw [first] at failed
    cases failed
    exact fails.run place problem (by rw [first])
  · rw [first] at failed
    exact (failsNext value).run later problem failed

theorem FailsBy.mapM {Entry : Type} {task : Entry → Task (StateM Place) Value}
    (fails : ∀ entry, FailsBy (task entry) problems) (entries : List Entry) :
    FailsBy (entries.mapM task) problems := by
  induction entries with
  | nil => exact failsBy_pure []
  | cons entry rest ih =>
    rw [List.mapM_cons]
    exact (fails entry).bind fun value => ih.bind fun values => failsBy_pure (value :: values)

private theorem failsBy_of_run {task : Task (StateM Place) Value}
    {operation : StateM Place (Except FileError Value)} {tell : FileError → CommandError}
    (run : ∀ place, task.run place = ((operation place).1.mapError tell, (operation place).2))
    (allowed : ∀ cause, problems (tell cause)) : FailsBy task problems := by
  constructor
  intro place problem failed
  rw [run] at failed
  rcases ran : (operation place).1 with cause | value
  · rw [ran] at failed
    cases failed
    exact allowed cause
  · rw [ran] at failed
    cases failed

variable [FileStore (StateM Place)] {input : String}

private theorem failsBy_load (year : Int) (input : String) :
    FailsBy (load year input : Task (StateM Place) Program) (CommandError.IsOutside input) := by
  refine (failsBy_of_run (run_read input) .unreadable).bind fun source => ?_
  cases Program.ofDocument? year source.toList with
  | none => exact failsBy_throw .emptySource
  | some program => exact failsBy_pure program

/-- Drawing a component fails only where a file cannot be written: it always has a page. -/
theorem failsBy_writePage (credits : Credits) (folder : String) (component : Component) :
    FailsBy (writePage credits folder component : Task (StateM Place) (List String))
      (CommandError.IsOutside input) := by
  obtain ⟨page, drawn, named, _⟩ := exists_page credits component
  rw [writePage_eq drawn named]
  refine FailsBy.mapM (fun asset => ?_) Asset.all
  have wrote : FailsBy (write (component.path folder asset) (page.text asset) :
      Task (StateM Place) Unit) (CommandError.IsOutside input) := failsBy_of_run (run_write _ _) (.unwritable _)
  exact wrote.bind fun _ => failsBy_pure _

private theorem failsBy_compile (year : Int) (credits : Credits) (input folder : String) :
    FailsBy (compile year credits input folder : Task (StateM Place) (List String))
      (CommandError.IsOutside input) := by
  rw [compile_eq]
  refine (failsBy_load year input).bind fun program => ?_
  have made : FailsBy (makeFolders folder : Task (StateM Place) Unit) (CommandError.IsOutside input) :=
    failsBy_of_run (run_makeFolders folder) (.unwritable folder)
  have drawn (component : Component) : FailsBy (writePage credits folder component :
      Task (StateM Place) (List String)) (CommandError.IsOutside input) :=
    failsBy_writePage credits folder component
  have pages := FailsBy.mapM drawn program.components
  exact made.bind fun _ => pages.bind fun paths => failsBy_pure paths.flatten

end Task

/-- Every component has a page, whatever it holds: the template of each kind is filled with its data, and
the template of a page is, around any body. So a source is never found to describe what cannot be drawn. -/
theorem drawing_never_fails :
    (∀ (kind : Kind) (component : Component),
      ∃ text, Stock.registry.render (Stock.bodyName kind) component.bodyData = .ok text) ∧
    (∀ (component : Component) (credits : Credits) (body : String),
      ∃ text, Stock.registry.render Stock.pageName (component.pageData credits body) = .ok text) ∧
    (∀ (component : Component) (credits : Credits), ∃ page, Page.ofComponent credits component = .ok page) ∧
    ∀ (Place : Type) [FileStore (StateM Place)] (year : Int) (credits : Credits)
      (input folder : String) (place : Place) (name : String) (cause : Template.RegistryError),
      ((Task.compile year credits input folder : Task (StateM Place) _).run place).1 ≠
        .error (.undrawable name cause) := by
  refine ⟨Stock.exists_render_body, Stock.exists_render_page, fun component credits => ?_, ?_⟩
  · obtain ⟨page, drawn, _⟩ := exists_page credits component
    exact ⟨page, drawn⟩
  · intro Place _ year credits input folder place name cause failed
    have outside := (Task.failsBy_compile year credits input folder).run place _ failed
    cases outside

end PageSketch
