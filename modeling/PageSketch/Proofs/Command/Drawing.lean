import PageSketch.Proofs.Command.Places
import PageSketch.Proofs.Command.Record

/-! Drawing a source into a tree of files: when it ends well, and what it writes then. -/
namespace PageSketch

namespace Task

variable {Value Result : Type}

private theorem run_bind_eq_ok_iff {Place : Type} {task : Task (StateM Place) Value}
    {next : Value → Task (StateM Place) Result} {place later : Place} {result : Result} :
    (task >>= next).run place = (.ok result, later) ↔
      ∃ value middle, task.run place = (.ok value, middle) ∧
        (next value).run middle = (.ok result, later) := by
  rw [run_bind]
  constructor
  · intro ran
    rcases first : task.run place with ⟨problem | value, middle⟩
    · rw [first] at ran
      cases ran
    · rw [first] at ran
      exact ⟨value, middle, rfl, ran⟩
  · rintro ⟨value, middle, first, ran⟩
    rw [first]
    exact ran

private theorem run_write_eq_ok_iff {path text : String} {workspace later : Workspace} :
    (write path text : Task (StateM Workspace) Unit).run workspace = (.ok (), later) ↔
      (FileStore.write path text : StateM Workspace _) workspace = (.ok (), later) := by
  rw [run_write]
  rcases (FileStore.write path text : StateM Workspace _) workspace with ⟨problem | _, next⟩
  · constructor <;> intro same <;> cases same
  · constructor <;> intro same <;> cases same <;> rfl

private theorem run_mapM_write_eq_ok_iff {Entry : Type} {path text : Entry → String} {entries : List Entry}
    {workspace later : Workspace} {paths : List String} :
    (entries.mapM fun entry => do
      write (path entry) (text entry)
      return path entry : Task (StateM Workspace) (List String)).run workspace = (.ok paths, later) ↔
      paths = entries.map path ∧
        Workspace.Written later (entries.map fun entry => (path entry, text entry)) workspace := by
  induction entries generalizing workspace paths with
  | nil =>
    constructor
    · intro ran
      cases ran
      exact ⟨rfl, rfl⟩
    · rintro ⟨rfl, rfl⟩
      rfl
  | cons entry rest ih =>
    rw [List.mapM_cons]
    constructor
    · intro ran
      obtain ⟨_, middle, first, ran⟩ := run_bind_eq_ok_iff.mp ran
      obtain ⟨others, last, second, ran⟩ := run_bind_eq_ok_iff.mp ran
      obtain ⟨_, _, wrote, first⟩ := run_bind_eq_ok_iff.mp first
      cases ran
      cases first
      obtain ⟨rfl, written⟩ := ih.mp second
      exact ⟨rfl, middle, run_write_eq_ok_iff.mp wrote, written⟩
    · rintro ⟨rfl, middle, wrote, written⟩
      have first : (do
          write (path entry) (text entry)
          return path entry : Task (StateM Workspace) String).run workspace =
          (.ok (path entry), middle) :=
        run_bind_eq_ok_iff.mpr ⟨(), middle, run_write_eq_ok_iff.mpr wrote, rfl⟩
      have second := ih.mpr ⟨rfl, written⟩
      exact run_bind_eq_ok_iff.mpr ⟨_, middle, first,
        run_bind_eq_ok_iff.mpr ⟨_, later, second, rfl⟩⟩

section Drawing

variable {credits : Credits} {folder : String} {page : Component → Page}
  (drawn : ∀ component, Page.ofComponent credits component = .ok (page component))
  (named : ∀ component, (page component).name = component.name)

include drawn named

/-- Drawing components ends well in the tree in which the files of their pages are written. -/
theorem run_mapM_writePage_eq_ok_iff {components : List Component} {workspace later : Workspace}
    {paths : List (List String)} :
    (components.mapM (writePage credits folder) :
      Task (StateM Workspace) (List (List String))).run workspace = (.ok paths, later) ↔
      paths = components.map (fun component => Asset.all.map (component.path folder)) ∧
        Workspace.Written later (components.flatMap fun component => Asset.all.map fun asset =>
          (component.path folder asset, (page component).text asset)) workspace := by
  induction components generalizing workspace paths with
  | nil =>
    constructor
    · intro ran
      cases ran
      exact ⟨rfl, rfl⟩
    · rintro ⟨rfl, rfl⟩
      rfl
  | cons component rest ih =>
    rw [List.mapM_cons, writePage_eq (drawn component) (named component), List.flatMap_cons,
      Workspace.written_append]
    constructor
    · intro ran
      obtain ⟨_, middle, first, ran⟩ := run_bind_eq_ok_iff.mp ran
      obtain ⟨others, _, second, ran⟩ := run_bind_eq_ok_iff.mp ran
      cases ran
      obtain ⟨rfl, before⟩ := run_mapM_write_eq_ok_iff.mp first
      obtain ⟨rfl, after⟩ := ih.mp second
      exact ⟨rfl, middle, before, after⟩
    · rintro ⟨rfl, middle, before, after⟩
      have first := run_mapM_write_eq_ok_iff.mpr ⟨rfl, before⟩
      have second := ih.mpr ⟨rfl, after⟩
      exact run_bind_eq_ok_iff.mpr ⟨_, middle, first,
        run_bind_eq_ok_iff.mpr ⟨_, later, second, rfl⟩⟩

/-- Drawing a source well: what is read is drawn, component by component, into the tree with the folder. -/
theorem written_of_compile {year : Int} {input : String} {before after : Workspace}
    {paths : List String}
    (done : (compile year credits input folder : Task (StateM Workspace) _).run before =
      (.ok paths, after)) :
    ∃ source made, ((FileStore.read input : StateM Workspace _) before).1 = .ok source ∧
      paths = (Program.ofSource year source.toList).components.flatMap
        (fun component => Asset.all.map (component.path folder)) ∧
      Workspace.Written after ((Program.ofSource year source.toList).components.flatMap
        fun component => Asset.all.map fun asset =>
          (component.path folder asset, (page component).text asset)) made := by
  rw [compile_eq] at done
  obtain ⟨program, loaded, load, done⟩ := run_bind_eq_ok_iff.mp done
  obtain ⟨source, reads, rfl⟩ := exists_of_load load
  obtain ⟨_, made, _, done⟩ := run_bind_eq_ok_iff.mp done
  obtain ⟨pages, _, pagesDone, done⟩ := run_bind_eq_ok_iff.mp done
  cases done
  obtain ⟨rfl, written⟩ := (run_mapM_writePage_eq_ok_iff drawn named).mp pagesDone
  exact ⟨source, made, by rw [reads], List.flatMap_def.symm, written⟩

end Drawing

/-- Drawing ends well when there is a text to draw, the folder can be made, and each file has a place in
it. -/
theorem exists_run_compile {year : Int} (credits : Credits) {input folder : String}
    {before made : Workspace} {source : String}
    (reads : (FileStore.read input : StateM Workspace _) before = (.ok source, before))
    (filled : (Text.trim source.toList).isEmpty = false)
    (makes : (FileStore.makeFolders folder : StateM Workspace _) before = (.ok (), made))
    (places : ∀ component ∈ (Program.ofSource year source.toList).components, ∀ asset ∈ Asset.all,
      ((Route.ofPath (component.path folder asset)).bind made.placeForFile).isOk) :
    ∃ paths after, (compile year credits input folder : Task (StateM Workspace) _).run before =
      (.ok paths, after) := by
  choose page drawn named _ using exists_page credits
  have loaded : (load year input : Task (StateM Workspace) Program).run before =
      (.ok (Program.ofSource year source.toList), before) := by
    rw [load, run_bind, run_read, reads]
    simp only [Except.mapError, Program.ofDocument?, filled]
    rfl
  have folders : (makeFolders folder : Task (StateM Workspace) Unit).run before = (.ok (), made) := by
    rw [run_makeFolders, makes]
    rfl
  have ready : ∀ write ∈ (Program.ofSource year source.toList).components.flatMap fun component =>
      Asset.all.map fun asset => (component.path folder asset, (page component).text asset),
      ∃ location, made.Leads write.1 location ∧ made.find? location ≠ some .folder := by
    intro write listed
    obtain ⟨component, among, inside⟩ := List.mem_flatMap.mp listed
    obtain ⟨asset, _, rfl⟩ := List.mem_map.mp inside
    have place := places component among asset asset.mem_all
    cases read : Route.ofPath (component.path folder asset) with
    | error problem =>
      rw [read] at place
      cases place
    | ok route =>
      rw [read, Except.bind] at place
      cases placed : made.placeForFile route with
      | error problem =>
        rw [placed] at place
        cases place
      | ok location =>
        have named := hasFileName_path component folder asset
        exact ⟨location, Workspace.leads_of_placeForFile read named placed⟩
  obtain ⟨after, written⟩ := Workspace.exists_written ready
  have pages := (run_mapM_writePage_eq_ok_iff drawn named).mpr ⟨rfl, written⟩
  rw [compile_eq]
  exact ⟨_, after, run_bind_eq_ok_iff.mpr ⟨_, before, loaded, run_bind_eq_ok_iff.mpr ⟨(), made, folders,
    run_bind_eq_ok_iff.mpr ⟨_, after, pages, rfl⟩⟩⟩⟩

/-- After a component's file was written, its path leads to a file with the text of a file that was
written there. -/
theorem exists_text_of_compile {folder : String} {page : Component → Page}
    {components : List Component} {made after : Workspace}
    (written : Workspace.Written after (components.flatMap fun component => Asset.all.map fun asset =>
      (component.path folder asset, (page component).text asset)) made)
    {component : Component} (listed : component ∈ components) (asset : Asset) :
    ∃ location, after.Leads (component.path folder asset) location ∧
      ∃ last ∈ components, ∃ other, after.Leads (last.path folder other) location ∧
        after.find? location = some (.file (some ((page last).text other))) := by
  have files : ∀ write ∈ components.flatMap fun component => Asset.all.map fun asset =>
      (component.path folder asset, (page component).text asset), Workspace.HasFileName write.1 := by
    intro write member
    obtain ⟨component, _, inside⟩ := List.mem_flatMap.mp member
    obtain ⟨asset, _, rfl⟩ := List.mem_map.mp inside
    exact hasFileName_path component folder asset
  have ours : (component.path folder asset, (page component).text asset) ∈
      components.flatMap fun component => Asset.all.map fun asset =>
        (component.path folder asset, (page component).text asset) :=
    List.mem_flatMap.mpr ⟨component, listed, List.mem_map.mpr ⟨asset, asset.mem_all, rfl⟩⟩
  obtain ⟨location, leads, write, member, leads', there⟩ := written.exists_text files ours
  obtain ⟨last, among, inside⟩ := List.mem_flatMap.mp member
  obtain ⟨other, _, rfl⟩ := List.mem_map.mp inside
  exact ⟨location, leads, last, among, other, leads', there⟩

end Task

end PageSketch
