import PageSketch.Proofs.Command.Drawing

/-! What drawing a source leaves in a tree of files: the files of each component, unless another's are at
the same place. -/
namespace PageSketch

/-- Whether a component's file is in a tree, with the text that the component gives it. -/
def Component.IsKept (component : Component) (credits : Credits) (folder : String)
    (workspace : Workspace) (asset : Asset) : Prop :=
  ∃ text, component.asset credits asset = .ok text ∧
    ((FileStore.read (component.path folder asset) : StateM Workspace _) workspace).1 = .ok text

/-- Where a component's file is in a tree. -/
def Component.locate (component : Component) (folder : String) (workspace : Workspace) (asset : Asset) :
    Except FileError Location :=
  (Route.ofPath (component.path folder asset)).bind workspace.locate

section Drawn

variable {credits : Credits} {folder : String} {page : Component → Page}
  {components : List Component} {made after : Workspace}
  (texts : ∀ (component : Component) (asset : Asset),
    component.asset credits asset = .ok ((page component).text asset))
  (written : Workspace.Written after (components.flatMap fun component => Asset.all.map fun asset =>
    (component.path folder asset, (page component).text asset)) made)

include texts written

/-- Where the file of a component is that was drawn, and what it holds. -/
theorem exists_kept {component : Component} (listed : component ∈ components) (asset : Asset) :
    ∃ location text, after.find? location = some (.file (some text)) ∧
      component.locate folder after asset = .ok location ∧
      after.Leads (component.path folder asset) location ∧
      (component.IsKept credits folder after asset ↔ component.asset credits asset = .ok text) ∧
      ∃ last ∈ components, ∃ other, last.locate folder after other = .ok location ∧
        last.asset credits other = .ok text := by
  obtain ⟨location, leads, last, among, other, leads', there⟩ :=
    Task.exists_text_of_compile written listed asset
  have found : (after.find? location).isSome := by
    rw [there]
    rfl
  refine ⟨location, (page last).text other, there, leads.locate found, leads, ?_, last, among, other,
    leads'.locate found, texts last other⟩
  rw [Component.IsKept, leads.read there]
  constructor
  · rintro ⟨text, given, kept⟩
    cases kept
    exact given
  · exact fun given => ⟨_, given, rfl⟩

private theorem forall_isKept_iff :
    (∀ component ∈ components, ∀ asset, component.IsKept credits folder after asset) ↔
      ∀ component ∈ components, ∀ twin ∈ components, ∀ asset other,
        component.locate folder after asset = twin.locate folder after other →
          component.asset credits asset = twin.asset credits other := by
  constructor
  · intro all component listed twin listed' asset other together
    obtain ⟨location, text, there, located, _, holds, _⟩ := exists_kept texts written listed asset
    obtain ⟨location', text', there', located', _, holds', _⟩ := exists_kept texts written listed' other
    rw [located, located', Except.ok.injEq] at together
    rw [together, there', Option.some.injEq, Entry.file.injEq, Option.some.injEq] at there
    rw [holds.mp (all component listed asset), holds'.mp (all twin listed' other), there]
  · -- what is in the tree at the place of a file is the text of some file that was written there
    intro equal component listed asset
    obtain ⟨location, text, _, located, _, holds, last, among, other, located', given⟩ :=
      exists_kept texts written listed asset
    rw [holds, ← given]
    exact equal component listed last among asset other (located.trans located'.symm)

private theorem asset_eq_of_locate_eq (distinct : (components.map Component.name).Nodup)
    (unbroken : ∀ component ∈ components, '/' ∉ component.name.toList) :
    ∀ component ∈ components, ∀ twin ∈ components, ∀ asset other,
      component.locate folder after asset = twin.locate folder after other →
        component.asset credits asset = twin.asset credits other := by
  intro component listed twin listed' asset other together
  obtain ⟨location, _, _, located, leads, _⟩ := exists_kept texts written listed asset
  obtain ⟨location', _, _, located', leads', _⟩ := exists_kept texts written listed' other
  rw [located, located', Except.ok.injEq] at together
  subst together
  obtain ⟨rfl, names⟩ := leads.same_file leads' (unbroken _ listed) (unbroken _ listed')
  rw [List.inj_on_of_nodup_map distinct listed listed' names]

end Drawn

private theorem asset_eq_of_isKept {credits : Credits} {folder : String} {workspace : Workspace}
    {component twin : Component} {asset : Asset} (named : component.name = twin.name)
    (kept : component.IsKept credits folder workspace asset)
    (kept' : twin.IsKept credits folder workspace asset) :
    component.asset credits asset = twin.asset credits asset := by
  obtain ⟨text, given, reads⟩ := kept
  obtain ⟨text', given', reads'⟩ := kept'
  rw [Component.path, named] at reads
  rw [Component.path, reads] at reads'
  cases reads'
  rw [given, given']

private theorem form_ne_empty : Stock.Scripts.form ≠ Stock.Scripts.empty := by
  rw [Stock.Scripts.form, Stock.Scripts.empty, Ne, ← String.toList_inj, Stock.toList_braced, Stock.toList_braced]
  decide +kernel

private theorem script_ne_script {first second : Component} (named : first.name = second.name)
    (isForm : first.kind = .form) (still : second.kind.script? = none) (credits : Credits) :
    first.script credits ≠ second.script credits := by
  intro same
  rw [Component.script, Component.script, named, isForm, still, Kind.script?, Option.getD_some,
    Option.getD_none, String.append_right_inj] at same
  exact form_ne_empty same

/-- Of two components with one name and scripts that differ, one loses its script. -/
theorem exists_lost_of_name_eq {year : Int} {credits : Credits} {input folder source : String}
    {before after : Workspace} {paths : List String}
    (done : (Task.compile year credits input folder : Task (StateM Workspace) _).run before =
      (.ok paths, after))
    (reads : ((FileStore.read input : StateM Workspace _) before).1 = .ok source)
    {first second : Component}
    (components : (Program.ofSource year source.toList).components = [first, second])
    (named : first.name = second.name) (scripts : first.script credits ≠ second.script credits) :
    ¬ paths.Nodup ∧ ∃ component ∈ (Program.ofSource year source.toList).components,
      ¬ component.IsKept credits folder after .js := by
  choose page drawn names _ using exists_page credits
  obtain ⟨source', _, reads', same, _⟩ := Task.written_of_compile drawn names done
  obtain rfl : source = source' := Except.ok.inj (reads.symm.trans reads')
  constructor
  · rw [same, nodup_paths_iff, components]
    simp [named]
  · by_contra all
    push Not at all
    rw [components] at all
    have kept := all first List.mem_cons_self
    have kept' := all second (List.mem_cons_of_mem _ List.mem_cons_self)
    have equal : first.asset credits .js = second.asset credits .js := asset_eq_of_isKept named kept kept'
    rw [Component.asset, Component.asset, Except.ok.injEq] at equal
    exact scripts equal

namespace Workspace

def holding (source : String) : Workspace :=
  fresh.put (fresh.here ++ ["in.centaur"]) (.file (some source))

/-- The tree with the source and a folder to draw it into. -/
def readyFor (source : String) : Workspace := (holding source).put (fresh.here ++ ["dist"]) .folder

end Workspace

private theorem exists_run_holding (source : String) (filled : (Text.trim source.toList).isEmpty = false)
    (places : ∀ component ∈ (Program.ofSource 2025 source.toList).components, ∀ asset ∈ Asset.all,
      ((Route.ofPath (component.path "dist" asset)).bind (Workspace.readyFor source).placeForFile).isOk) :
    ∃ paths after, (Task.compile 2025 {} "in.centaur" "dist" : Task (StateM Workspace) _).run
      (.holding source) = (.ok paths, after) := by
  have reads : (FileStore.read "in.centaur" : StateM Workspace _) (.holding source) =
      (.ok source, .holding source) := rfl
  have makes : (FileStore.makeFolders "dist" : StateM Workspace _) (.holding source) =
      (.ok (), .readyFor source) := rfl
  exact Task.exists_run_compile {} reads filled makes places

/-- When a source has been drawn well, the paths are those of the components' files in order. They differ
just if those of the components do. All files are kept just if no two that are at one place differ, and they
are when the components have names of their own, without slashes. -/
theorem compile_keeps_files {year : Int} {credits : Credits} {input folder : String}
    {before after : Workspace} {paths : List String}
    (done : (Task.compile year credits input folder : Task (StateM Workspace) _).run before =
      (.ok paths, after)) :
    ∃ source, ((FileStore.read input : StateM Workspace _) before).1 = .ok source ∧
      let components := (Program.ofSource year source.toList).components
      paths = components.flatMap (fun component => Asset.all.map (component.path folder)) ∧
      (paths.Nodup ↔ (components.map fun component => joinPath folder component.name).Nodup) ∧
      ((∀ component ∈ components, ∀ asset, component.IsKept credits folder after asset) ↔
        ∀ component ∈ components, ∀ twin ∈ components, ∀ asset other,
          component.locate folder after asset = twin.locate folder after other →
            component.asset credits asset = twin.asset credits other) ∧
      ((components.map Component.name).Nodup → (∀ component ∈ components, '/' ∉ component.name.toList) →
        paths.Nodup ∧
          ∀ component ∈ components, ∀ asset, component.IsKept credits folder after asset) := by
  choose page drawn named texts using exists_page credits
  obtain ⟨source, made, reads, same, written⟩ := Task.written_of_compile drawn named done
  have apart := nodup_paths_iff (Program.ofSource year source.toList).components folder
  have kept := forall_isKept_iff texts written
  rw [← same] at apart
  refine ⟨source, reads, same, apart, kept, fun distinct unbroken => ?_⟩
  have places := nodup_joined distinct unbroken folder
  have equal := asset_eq_of_locate_eq texts written distinct unbroken
  exact ⟨apart.mpr places, kept.mpr equal⟩

theorem compile_keeps_two_pages :
    ∃ paths after, (Task.compile 2025 {} "in.centaur" "dist" : Task (StateM Workspace) _).run
        (.holding "@component Login\n@component") = (.ok paths, after) ∧ paths.Nodup ∧
      ∀ component ∈ (Program.ofSource 2025 "@component Login\n@component".toList).components, ∀ asset,
        component.IsKept {} "dist" after asset := by
  have names : (Program.ofSource 2025 "@component Login\n@component".toList).components.map
      Component.name = ["Login", "Component2"] := by
    decide +kernel
  obtain ⟨paths, after, done⟩ := exists_run_holding "@component Login\n@component"
    (by decide +kernel) (by decide +kernel)
  obtain ⟨source, reads, _, _, _, kept⟩ := compile_keeps_files done
  obtain rfl : "@component Login\n@component" = source := Except.ok.inj reads
  refine ⟨paths, after, done, kept ?_ ?_⟩
  · rw [names]
    decide
  · intro component listed
    have name := List.mem_map_of_mem (f := Component.name) listed
    rw [names] at name
    revert name
    generalize component.name = name
    revert name
    decide

/-- A component without a name gets one that another has been given, and one of them loses its script. -/
theorem placeholder_takes_path :
    ∃ source paths after, (Task.compile 2025 {} "in.centaur" "dist" : Task (StateM Workspace) _).run
        (.holding source) = (.ok paths, after) ∧ ¬ paths.Nodup ∧
      ∃ component ∈ (Program.ofSource 2025 source.toList).components,
        ¬ component.IsKept {} "dist" after .js := by
  have described : (Program.ofSource 2025
      "@component Component2\n@type form\n@component\n@type hero".toList).components.map
      (fun component => (component.name, component.kind)) =
        [("Component2", .form), ("Component2", .hero)] := by
    decide +kernel
  obtain ⟨paths, after, done⟩ := exists_run_holding
    "@component Component2\n@type form\n@component\n@type hero" (by decide +kernel) (by decide +kernel)
  obtain ⟨first, others, components, isFirst, rest⟩ := List.map_eq_cons_iff.mp described
  obtain ⟨second, last, rfl, isSecond, none⟩ := List.map_eq_cons_iff.mp rest
  obtain rfl := List.map_eq_nil_iff.mp none
  obtain ⟨name, isForm⟩ := Prod.mk.inj isFirst
  obtain ⟨name', isBanner⟩ := Prod.mk.inj isSecond
  have named : first.name = second.name := name.trans name'.symm
  have still : second.kind.script? = .none := by rw [isBanner, Kind.script?]
  have lost := exists_lost_of_name_eq done rfl components named (script_ne_script named isForm still {})
  exact ⟨_, paths, after, done, lost⟩

end PageSketch
