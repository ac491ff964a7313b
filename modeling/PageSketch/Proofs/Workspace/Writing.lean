import Mathlib.Data.List.Basic
import PageSketch.Workspace.Store

/-! Writing files into a tree: where a path leads stays where it leads, and a file holds what was written
to it last. -/
namespace PageSketch.Workspace

variable {workspace later : Workspace}

/-- A tree after some files have been written: folders stay folders, and nothing goes away. -/
structure Grown (workspace later : Workspace) : Prop where
  here : later.here = workspace.here
  folders : ∀ location, workspace.find? location = some .folder → later.find? location = some .folder
  entries : ∀ location, (workspace.find? location).isSome → (later.find? location).isSome

theorem Grown.refl (workspace : Workspace) : Grown workspace workspace :=
  ⟨rfl, fun _ => id, fun _ => id⟩

theorem Grown.trans {last : Workspace} (first : Grown workspace later) (second : Grown later last) :
    Grown workspace last :=
  ⟨second.here.trans first.here, fun _ folder => second.folders _ (first.folders _ folder),
    fun _ entry => second.entries _ (first.entries _ entry)⟩

private theorem grown_put {location : Location} (below : location ≠ [])
    (free : workspace.find? location ≠ some .folder) (text : Option String) :
    Grown workspace (workspace.put location (.file text)) := by
  refine ⟨rfl, fun place folder => ?_, fun place entry => ?_⟩
  · rw [find?_put _ _ _ _ below]
    split
    · rename_i same
      rw [same] at folder
      exact absurd folder free
    · exact folder
  · rw [find?_put _ _ _ _ below]
    split
    · rfl
    · exact entry

private theorem step_grown (grows : Grown workspace later) {folder location : Location} {name : String}
    (leads : workspace.step folder name = .ok location) : later.step folder name = .ok location := by
  unfold step at leads ⊢
  split
  · rename_i here
    rwa [if_pos here] at leads
  · rename_i notHere
    rw [if_neg notHere] at leads
    split
    · rename_i out
      rwa [if_pos out] at leads
    · rename_i notOut
      rw [if_neg notOut] at leads
      split at leads
      · cases leads
      · rename_i short
        rw [if_neg short]
        split at leads
        · rename_i there
          rw [if_pos (grows.entries _ there)]
          exact leads
        · cases leads

private theorem walk_grown (grows : Grown workspace later) {names : List String} {start location : Location}
    (leads : workspace.walk start names = .ok location) : later.walk start names = .ok location := by
  induction names generalizing start with
  | nil => exact leads
  | cons name rest ih =>
    rw [walk] at leads ⊢
    split at leads
    · rename_i folder
      rw [if_pos (grows.folders _ folder)]
      cases steps : workspace.step start name with
      | error problem =>
        rw [steps] at leads
        cases leads
      | ok next =>
        rw [steps] at leads
        rw [step_grown grows steps]
        exact ih leads
    · cases leads

private theorem walk_append (workspace : Workspace) (start : Location) (before after : List String) :
    workspace.walk start (before ++ after) =
      (workspace.walk start before).bind fun location => workspace.walk location after := by
  induction before generalizing start with
  | nil => rfl
  | cons name rest ih =>
    rw [List.cons_append, walk, walk]
    split
    · cases workspace.step start name with
      | error problem => rfl
      | ok next => exact ih next
    · rfl

/-- The last name of a path is in a folder, and the folder is where the names before it lead. -/
theorem folderOf_eq_ok {route : Route} {folder : Location}
    (leads : workspace.folderOf route = .ok folder) :
    workspace.walk (workspace.startOf route) route.names.dropLast = .ok folder ∧
      workspace.find? folder = some .folder := by
  rw [folderOf, walk_append] at leads
  cases inner : workspace.walk (workspace.startOf route) route.names.dropLast with
  | error problem =>
    rw [inner] at leads
    cases leads
  | ok location =>
    rw [inner] at leads
    simp only [Except.bind, walk] at leads
    split at leads
    · rename_i isFolder
      cases leads
      exact ⟨rfl, isFolder⟩
    · cases leads

/-- Whether a path leads to a location as that of a file, which need not be there yet. -/
inductive Leads (workspace : Workspace) (path : String) : Location → Prop where
  | intro {route : Route} {folder : Location} {name : String}
    (read : Route.ofPath path = .ok route) (closed : route.endsInSlash = false)
    (last : route.names.getLast? = some name) (plain : name ≠ "." ∧ name ≠ "..")
    (short : ¬ Route.maxNameBytes < name.utf8ByteSize)
    (inside : workspace.walk (workspace.startOf route) route.names.dropLast = .ok folder)
    (isFolder : workspace.find? folder = some .folder) : Leads workspace path (folder ++ [name])

private theorem step_plain {name : String} (plain : name ≠ "." ∧ name ≠ "..")
    (short : ¬ Route.maxNameBytes < name.utf8ByteSize) (folder : Location) :
    workspace.step folder name =
      if (workspace.find? (folder ++ [name])).isSome then .ok (folder ++ [name])
      else .error .missing := by
  rw [step, if_neg plain.1, if_neg plain.2, if_neg short]

namespace Leads

variable {path : String} {location : Location}

private theorem ne_nil (leads : workspace.Leads path location) : location ≠ [] := by
  cases leads
  simp

/-- A path leads where it led before the tree grew. -/
theorem grown (leads : workspace.Leads path location) (grows : Grown workspace later) :
    later.Leads path location := by
  cases leads with
  | intro read closed last plain short inside isFolder =>
    have start (route : Route) : later.startOf route = workspace.startOf route := by
      rw [startOf, startOf, grows.here]
    refine .intro read closed last plain short ?_ (grows.folders _ isFolder)
    rw [start]
    exact walk_grown grows inside

theorem locate (leads : workspace.Leads path location) (there : (workspace.find? location).isSome) :
    (Route.ofPath path).bind workspace.locate = .ok location := by
  cases leads with
  | @intro route folder name read closed last plain short inside isFolder =>
    have names : route.names.dropLast ++ [name] = route.names :=
      List.dropLast_append_getLast? _ last
    rw [read, Except.bind, Workspace.locate, closed, ← names, if_neg (by simp), List.append_nil,
      walk_append, inside]
    simp only [Except.bind, walk, if_pos isFolder, step_plain plain short, if_pos there]
    rfl

theorem unique (leads : workspace.Leads path location) {other : Location}
    (leads' : workspace.Leads path other) : location = other := by
  cases leads with
  | intro read _ last _ _ inside _ =>
    cases leads' with
    | intro read' _ last' _ _ inside' _ =>
      rw [read] at read'
      cases read'
      rw [last] at last'
      rw [inside] at inside'
      cases last'
      cases inside'
      rfl

theorem read (leads : workspace.Leads path location) {text : String}
    (there : workspace.find? location = some (.file (some text))) :
    (FileStore.read path : StateM Workspace _) workspace = (.ok text, workspace) := by
  have found := leads.locate (by rw [there]; rfl)
  have text : (Route.ofPath path).bind workspace.text = .ok text := by
    cases leads with
    | intro read =>
      rw [read] at found ⊢
      simp only [Except.bind] at found ⊢
      rw [Workspace.text, found]
      simp only [bind, Except.bind, there]
  change ((Route.ofPath path).bind workspace.text, workspace) = _
  rw [text]

end Leads

/-- Whether the last name of a path is that of a file or of nothing. -/
def HasFileName (path : String) : Prop :=
  ∀ route name, Route.ofPath path = .ok route → route.names.getLast? = some name →
    name ≠ "." ∧ name ≠ ".."

/-- The place for a file is where its path leads, and no folder is there. -/
theorem leads_of_placeForFile {path : String} {route : Route} {location : Location}
    (read : Route.ofPath path = .ok route) (named : HasFileName path)
    (placed : workspace.placeForFile route = .ok location) :
    workspace.Leads path location ∧ workspace.find? location ≠ some .folder := by
  unfold placeForFile at placed
  cases leads : workspace.folderOf route with
  | error problem =>
    rw [leads] at placed
    cases placed
  | ok folder =>
    rw [leads] at placed
    obtain ⟨inside, isFolder⟩ := folderOf_eq_ok leads
    simp only [bind, Except.bind] at placed
    split at placed
    · rename_i name last closed
      have plain := named route name read last
      by_cases long : Route.maxNameBytes < name.utf8ByteSize
      · rw [step, if_neg plain.1, if_neg plain.2, if_pos long] at placed
        cases placed
      · have leads : workspace.Leads path (folder ++ [name]) :=
          .intro read closed last plain long inside isFolder
        rw [step_plain plain long] at placed
        by_cases there : (workspace.find? (folder ++ [name])).isSome
        · simp only [if_pos there] at placed
          split at placed
          · cases placed
          · rename_i free
            cases placed
            exact ⟨leads, free⟩
        · simp only [if_neg there] at placed
          cases placed
          refine ⟨leads, fun isFolder => there ?_⟩
          rw [isFolder]
          rfl
    · cases placed

/-- Writing a file puts it where its path leads, and where no folder is. -/
theorem exists_leads_of_write {path text : String} (named : HasFileName path)
    (wrote : (FileStore.write path text : StateM Workspace _) workspace = (.ok (), later)) :
    ∃ location, workspace.Leads path location ∧ workspace.find? location ≠ some .folder ∧
      later = workspace.put location (.file (some text)) := by
  change workspace.changed ((Route.ofPath path).bind fun route =>
    workspace.writeFile route (.file (some text))) = _ at wrote
  cases read : Route.ofPath path with
  | error problem =>
    rw [read] at wrote
    cases wrote
  | ok route =>
    simp only [read, Except.bind, writeFile] at wrote
    cases placed : workspace.placeForFile route with
    | error problem =>
      rw [placed] at wrote
      cases wrote
    | ok location =>
      rw [placed] at wrote
      cases wrote
      obtain ⟨leads, free⟩ := leads_of_placeForFile read named placed
      exact ⟨location, leads, free, rfl⟩

/-- A file can be written where its path leads, unless a folder is there. -/
theorem write_of_leads {path : String} {location : Location} (leads : workspace.Leads path location)
    (free : workspace.find? location ≠ some .folder) (text : String) :
    (FileStore.write path text : StateM Workspace _) workspace =
      (.ok (), workspace.put location (.file (some text))) := by
  change workspace.changed ((Route.ofPath path).bind fun route =>
    workspace.writeFile route (.file (some text))) = _
  cases leads with
  | @intro route folder name read closed last plain short inside isFolder =>
    have around : workspace.folderOf route = .ok folder := by
      rw [folderOf, walk_append, inside]
      simp only [Except.bind, walk, if_pos isFolder]
      rfl
    have placed : workspace.placeForFile route = .ok (folder ++ [name]) := by
      rw [placeForFile, around, last, closed]
      simp only [bind, Except.bind, step_plain plain short]
      by_cases there : (workspace.find? (folder ++ [name])).isSome
      · simp only [if_pos there, if_neg free]
      · simp only [if_neg there]
    rw [read, Except.bind, writeFile, placed]
    rfl

/-- The tree after some texts have been written to some paths, one after the other. -/
def Written (later : Workspace) : List (String × String) → Workspace → Prop
  | [], workspace => workspace = later
  | (path, text) :: rest, workspace =>
    ∃ next, (FileStore.write path text : StateM Workspace _) workspace = (.ok (), next) ∧
      Written later rest next

/-- Files can be written when no folder is where their paths lead. -/
theorem exists_written {writes : List (String × String)}
    (ready : ∀ write ∈ writes, ∃ location, workspace.Leads write.1 location ∧
      workspace.find? location ≠ some .folder) : ∃ later, Written later writes workspace := by
  induction writes generalizing workspace with
  | nil => exact ⟨workspace, rfl⟩
  | cons write rest ih =>
    obtain ⟨⟨place, leads, free⟩, others⟩ := List.forall_mem_cons.mp ready
    have grows := grown_put leads.ne_nil free (some write.2)
    have still : ∀ other ∈ rest, ∃ location,
        (workspace.put place (.file (some write.2))).Leads other.1 location ∧
          (workspace.put place (.file (some write.2))).find? location ≠ some .folder := by
      intro other listed
      obtain ⟨location, leads', free'⟩ := others other listed
      refine ⟨location, leads'.grown grows, ?_⟩
      rw [find?_put _ _ _ _ leads.ne_nil]
      split
      · simp
      · exact free'
    obtain ⟨later, written⟩ := ih still
    exact ⟨later, _, write_of_leads leads free write.2, written⟩

theorem written_append {first rest : List (String × String)} :
    Written later (first ++ rest) workspace ↔
      ∃ middle, Written middle first workspace ∧ Written later rest middle := by
  induction first generalizing workspace with
  | nil => simp [Written]
  | cons pair others ih =>
    rw [List.cons_append]
    constructor
    · rintro ⟨next, wrote, written⟩
      obtain ⟨middle, before, after⟩ := ih.mp written
      exact ⟨middle, ⟨next, wrote, before⟩, after⟩
    · rintro ⟨middle, ⟨next, wrote, before⟩, after⟩
      exact ⟨next, wrote, ih.mpr ⟨middle, before, after⟩⟩

/-- When files have been written, the tree has grown, their paths lead somewhere, and every location holds
the text of a path that leads there, or what it held before and no path leads there. -/
theorem Written.grown {writes : List (String × String)} (named : ∀ write ∈ writes, HasFileName write.1)
    (written : Written later writes workspace) :
    Grown workspace later ∧ (∀ write ∈ writes, ∃ location, later.Leads write.1 location) ∧
      ∀ location, (∃ write ∈ writes, later.Leads write.1 location ∧
        later.find? location = some (.file (some write.2))) ∨
      (∀ write ∈ writes, ¬ later.Leads write.1 location) ∧
        later.find? location = workspace.find? location := by
  induction writes generalizing workspace with
  | nil =>
    cases written
    exact ⟨.refl _, by simp, fun location => .inr ⟨by simp, rfl⟩⟩
  | cons write rest ih =>
    obtain ⟨next, wrote, written⟩ := written
    obtain ⟨ours, others⟩ := List.forall_mem_cons.mp named
    obtain ⟨place, leads, free, rfl⟩ := exists_leads_of_write ours wrote
    have grows := grown_put leads.ne_nil free (some write.2)
    obtain ⟨growsOn, lead, outcome⟩ := ih others written
    have leadsLater := leads.grown (grows.trans growsOn)
    refine ⟨grows.trans growsOn, List.forall_mem_cons.mpr ⟨⟨place, leadsLater⟩, lead⟩,
      fun location => ?_⟩
    -- What is written later may take the place of this text; only if nothing does, this one is left.
    rcases outcome location with ⟨last, listed, there⟩ | ⟨none, same⟩
    · exact .inl ⟨last, List.mem_cons_of_mem _ listed, there⟩
    · rw [find?_put _ _ _ _ leads.ne_nil] at same
      by_cases here : location = place
      · rw [if_pos here] at same
        exact .inl ⟨write, List.mem_cons_self, by rwa [here], same⟩
      · rw [if_neg here] at same
        exact .inr ⟨List.forall_mem_cons.mpr ⟨fun ours => here (ours.unique leadsLater), none⟩, same⟩

/-- Each path that has been written to leads to a file, and the file has the text that some path was given
that leads there. -/
theorem Written.exists_text {writes : List (String × String)}
    (named : ∀ write ∈ writes, HasFileName write.1) (written : Written later writes workspace)
    {write : String × String} (listed : write ∈ writes) :
    ∃ location, later.Leads write.1 location ∧ ∃ last ∈ writes, later.Leads last.1 location ∧
      later.find? location = some (.file (some last.2)) := by
  obtain ⟨_, lead, outcome⟩ := written.grown named
  obtain ⟨location, leads⟩ := lead write listed
  refine ⟨location, leads, ?_⟩
  rcases outcome location with found | ⟨none, _⟩
  · exact found
  · exact absurd leads (none write listed)

end PageSketch.Workspace
