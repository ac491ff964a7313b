import PageSketch.Proofs.Command.Paths

/-! The paths that a task hands to a place to write to, kept on record. -/
namespace PageSketch

/-- A place, and the paths that have been handed to it to write to. -/
structure Recorded (Place : Type) where
  place : Place
  written : List String := []

variable {Place Value Result : Type}

/-- The place does what it is asked to, and the paths to write to go on record. -/
instance [FileStore (StateM Place)] : FileStore (StateM (Recorded Place)) where
  read path := fun recorded =>
    let (result, place) := (FileStore.read path : StateM Place (Except FileError String)) recorded.place
    (result, { recorded with place })
  write path text := fun recorded =>
    let (result, place) :=
      (FileStore.write path text : StateM Place (Except FileError Unit)) recorded.place
    (result, ⟨place, recorded.written ++ [path]⟩)
  makeFolders path := fun recorded =>
    let (result, place) :=
      (FileStore.makeFolders path : StateM Place (Except FileError Unit)) recorded.place
    (result, { recorded with place })
  has path := fun recorded =>
    let (result, place) := (FileStore.has path : StateM Place Bool) recorded.place
    (result, { recorded with place })

namespace Task

theorem run_bind (task : Task (StateM Place) Value) (next : Value → Task (StateM Place) Result)
    (place : Place) :
    (task >>= next).run place =
      match task.run place with
      | (.ok value, later) => (next value).run later
      | (.error problem, later) => (.error problem, later) := by
  have run : (task >>= next).run place =
      (ExceptT.bindCont next (task.run place).1) (task.run place).2 := rfl
  rw [run]
  rcases task.run place with ⟨_ | _, later⟩ <;> rfl

/-- On record, a task does what it does without, and the record is of these paths, up to where the task
fails. -/
structure Records (kept : Task (StateM (Recorded Place)) Value) (task : Task (StateM Place) Value)
    (paths : List String) : Prop where
  run : ∀ recorded, match task.run recorded.place with
    | (.ok value, later) => kept.run recorded = (.ok value, ⟨later, recorded.written ++ paths⟩)
    | (.error problem, later) => ∃ written, written <+: paths ∧
      kept.run recorded = (.error problem, ⟨later, recorded.written ++ written⟩)

/-- However the task ends, the record is of the first of the paths. -/
theorem Records.exists_written {kept : Task (StateM (Recorded Place)) Value}
    {task : Task (StateM Place) Value} {paths : List String} (records : Records kept task paths)
    (recorded : Recorded Place) :
    ∃ written, written <+: paths ∧ kept.run recorded =
      ((task.run recorded.place).1, ⟨(task.run recorded.place).2, recorded.written ++ written⟩) := by
  have run := records.run recorded
  rcases ran : task.run recorded.place with ⟨problem | value, later⟩
  · simpa only [ran] using run
  · simp only [ran] at run
    exact ⟨paths, List.prefix_rfl, run⟩

private theorem records_pure (value : Value) :
    Records (pure value) (pure value : Task (StateM Place) Value) [] := by
  constructor
  intro recorded
  change _ = (Except.ok value, Recorded.mk recorded.place (recorded.written ++ []))
  rw [List.append_nil]
  rfl

private theorem records_throw (problem : CommandError) (paths : List String) :
    Records (throw problem) (throw problem : Task (StateM Place) Value) paths := by
  constructor
  intro recorded
  refine ⟨[], List.nil_prefix, ?_⟩
  rw [List.append_nil]
  rfl

theorem Records.bind {kept : Task (StateM (Recorded Place)) Value} {task : Task (StateM Place) Value}
    {keptNext : Value → Task (StateM (Recorded Place)) Result}
    {next : Value → Task (StateM Place) Result} {first rest : List String}
    (records : Records kept task first) (recordsNext : ∀ value, Records (keptNext value) (next value) rest) :
    Records (kept >>= keptNext) (task >>= next) (first ++ rest) := by
  constructor
  intro recorded
  have start := records.run recorded
  rw [run_bind, run_bind]
  rcases ran : task.run recorded.place with ⟨problem | value, later⟩
  · simp only [ran] at start
    obtain ⟨written, before, kept⟩ := start
    rw [kept]
    exact ⟨written, before.trans (List.prefix_append _ _), rfl⟩
  · simp only [ran] at start
    rw [start]
    have go := (recordsNext value).run ⟨later, recorded.written ++ first⟩
    dsimp only at go ⊢
    rcases went : (next value).run later with ⟨problem | result, last⟩
    · simp only [went] at go
      obtain ⟨written, before, kept⟩ := go
      exact ⟨first ++ written, (List.prefix_append_right_inj first).mpr before,
        by rw [kept, List.append_assoc]⟩
    · simp only [went] at go
      rw [go, List.append_assoc]

theorem Records.mapM {Entry : Type} {keep : Entry → Task (StateM (Recorded Place)) Value}
    {task : Entry → Task (StateM Place) Value} {paths : Entry → List String}
    (records : ∀ entry, Records (keep entry) (task entry) (paths entry)) (entries : List Entry) :
    Records (entries.mapM keep) (entries.mapM task) (entries.flatMap paths) := by
  induction entries with
  | nil => exact records_pure []
  | cons entry rest ih =>
    rw [List.mapM_cons, List.mapM_cons, List.flatMap_cons]
    refine (records entry).bind fun value => ?_
    have done := ih.bind fun values => records_pure (value :: values)
    rwa [List.append_nil] at done

variable [FileStore (StateM Place)]

theorem run_read (path : String) (place : Place) :
    (read path : Task (StateM Place) String).run place =
      (((FileStore.read path : StateM Place _) place).1.mapError (.unreadable path),
        ((FileStore.read path : StateM Place _) place).2) := rfl

theorem run_write (path text : String) (place : Place) :
    (write path text : Task (StateM Place) Unit).run place =
      (((FileStore.write path text : StateM Place _) place).1.mapError (.unwritable path),
        ((FileStore.write path text : StateM Place _) place).2) := rfl

theorem run_makeFolders (path : String) (place : Place) :
    (makeFolders path : Task (StateM Place) Unit).run place =
      (((FileStore.makeFolders path : StateM Place _) place).1.mapError (.unwritable path),
        ((FileStore.makeFolders path : StateM Place _) place).2) := rfl

omit [FileStore (StateM Place)] in
/-- One operation on a place is on record with the paths that go on record whether or not it fails. -/
theorem records_of_run {kept : Task (StateM (Recorded Place)) Value} {task : Task (StateM Place) Value}
    {operation : StateM Place (Except FileError Value)} {problem : FileError → CommandError}
    {paths : List String}
    (run : ∀ place, task.run place = ((operation place).1.mapError problem, (operation place).2))
    (runKept : ∀ recorded, kept.run recorded = ((operation recorded.place).1.mapError problem,
      ⟨(operation recorded.place).2, recorded.written ++ paths⟩)) :
    Records kept task paths := by
  constructor
  intro recorded
  rw [run, runKept]
  rcases operation recorded.place with ⟨cause | value, later⟩
  · exact ⟨paths, List.prefix_rfl, rfl⟩
  · rfl

private theorem records_write (path text : String) :
    Records (write path text) (write path text : Task (StateM Place) Unit) [path] :=
  records_of_run (run_write path text) fun _ => rfl

private theorem records_makeFolders (path : String) :
    Records (makeFolders path) (makeFolders path : Task (StateM Place) Unit) [] :=
  records_of_run (run_makeFolders path) fun _ => by
    rw [List.append_nil]
    rfl

private theorem records_read (path : String) :
    Records (read path) (read path : Task (StateM Place) String) [] :=
  records_of_run (run_read path) fun _ => by
    rw [List.append_nil]
    rfl

private theorem records_load (year : Int) (input : String) :
    Records (load year input) (load year input : Task (StateM Place) Program) [] := by
  change Records (read input >>= _) (read input >>= _) ([] ++ [])
  refine (records_read input).bind fun source => ?_
  cases Program.ofDocument? year source.toList with
  | none => exact records_throw .emptySource []
  | some program => exact records_pure program

private theorem records_writePage (credits : Credits) (folder : String) (component : Component) :
    Records (writePage credits folder component)
      (writePage credits folder component : Task (StateM Place) (List String))
      (Asset.all.map (component.path folder)) := by
  obtain ⟨page, drawn, named, _⟩ := exists_page credits component
  rw [writePage_eq drawn named, writePage_eq drawn named, List.map_eq_flatMap]
  refine Records.mapM (fun asset => ?_) Asset.all
  have wrote : Records (write (component.path folder asset) (page.text asset))
      (write (component.path folder asset) (page.text asset) : Task (StateM Place) Unit)
      [component.path folder asset] := records_write _ _
  have done := wrote.bind fun _ => records_pure (component.path folder asset)
  rwa [List.append_nil] at done

/-- Writing the pages of a program writes to the paths of its components' files. -/
theorem records_writePages (credits : Credits) (folder : String) (program : Program) :
    Records (writePages credits folder program)
      (writePages credits folder program : Task (StateM Place) (List String))
      (program.components.flatMap fun component => Asset.all.map (component.path folder)) := by
  have made : Records (makeFolders folder) (makeFolders folder : Task (StateM Place) Unit) [] :=
    records_makeFolders folder
  have pages : Records (program.components.mapM (writePage credits folder))
      (program.components.mapM (writePage credits folder) : Task (StateM Place) (List (List String)))
      (program.components.flatMap fun component => Asset.all.map (component.path folder)) :=
    Records.mapM (records_writePage credits folder) program.components
  have flat := pages.bind fun paths => records_pure paths.flatten
  have done := made.bind fun _ => flat
  rwa [List.nil_append, List.append_nil] at done

theorem exists_of_load {year : Int} {input : String} {place later : Place} {program : Program}
    (loaded : (load year input : Task (StateM Place) Program).run place = (.ok program, later)) :
    ∃ source, (FileStore.read input : StateM Place _) place = (.ok source, later) ∧
      program = Program.ofSource year source.toList := by
  rw [load, run_bind, run_read] at loaded
  rcases reading : (FileStore.read input : StateM Place _) place with ⟨problem | source, found⟩
  · simp only [reading, Except.mapError] at loaded
    cases loaded
  · simp only [reading, Except.mapError, Program.ofDocument?] at loaded
    by_cases blank : (Text.trim source.toList).isEmpty
    · rw [if_pos blank] at loaded
      cases loaded
    · rw [if_neg blank] at loaded
      cases loaded
      exact ⟨source, rfl, rfl⟩

/-- Whatever a place is like: the paths that drawing a source hands to it are those of the files of the
source's components. Such a path is that of a file in the folder just if the component's name holds no
slash, or spells the folder out from the root in front of such a name. -/
theorem compile_writes_in_folder_iff (year : Int) (credits : Credits) (input folder : String)
    (place : Place) :
    ∃ written,
      (compile year credits input folder : Task (StateM (Recorded Place)) _).run ⟨place, []⟩ =
        (((compile year credits input folder : Task (StateM Place) _).run place).1,
          ⟨((compile year credits input folder : Task (StateM Place) _).run place).2, written⟩) ∧
      ∀ path ∈ written, ∃ source component asset,
        ((FileStore.read input : StateM Place _) place).1 = .ok source ∧
        component ∈ (Program.ofSource year source.toList).components ∧
        path = component.path folder asset ∧
        (IsFileIn folder path ↔ ∃ own : String, '/' ∉ own.toList ∧ (component.name = own ∨
          component.name.toList.head? = some '/' ∧ component.name = folderStart folder ++ own)) := by
  have kept := (records_load year input : Records _ (_ : Task (StateM Place) Program) _).run ⟨place, []⟩
  rw [compile_eq, compile_eq, run_bind, run_bind]
  rcases loaded : (load year input : Task (StateM Place) Program).run place with ⟨problem | program, later⟩
  · -- nothing has been written when the source cannot be read
    simp only [loaded] at kept
    obtain ⟨written, before, ran⟩ := kept
    rw [List.prefix_nil.mp before] at ran
    rw [ran]
    exact ⟨[], rfl, by simp⟩
  · simp only [loaded] at kept
    obtain ⟨source, reads, rfl⟩ := exists_of_load loaded
    obtain ⟨written, before, ran⟩ := (records_writePages credits folder
      (Program.ofSource year source.toList)).exists_written ⟨later, []⟩
    rw [kept]
    refine ⟨written, ran, fun path member => ?_⟩
    obtain ⟨component, listed, inside⟩ := List.mem_flatMap.mp (before.subset member)
    obtain ⟨asset, _, rfl⟩ := List.mem_map.mp inside
    exact ⟨source, component, asset, by rw [reads], listed, rfl, isFileIn_path_iff component folder asset⟩

end Task

/-- A name leads out of the folder that the component is drawn into. -/
theorem name_leaves_folder :
    ∃ component ∈ (Program.ofSource 2025 "@component ../up".toList).components,
      component.path "dist" .html = "dist/../up.html" ∧
        ¬ IsFileIn "dist" (component.path "dist" .html) := by
  obtain ⟨component, listed, named⟩ : ∃ component ∈
      (Program.ofSource 2025 "@component ../up".toList).components, component.name = "../up" := by
    decide +kernel
  refine ⟨component, listed, ?_, ?_⟩
  · rw [Component.path, named]
    decide +kernel
  · rw [isFileIn_path_iff, named]
    rintro ⟨own, unbroken, rfl | ⟨rooted, _⟩⟩
    · exact unbroken (by decide)
    · exact absurd rooted (by decide)

end PageSketch
