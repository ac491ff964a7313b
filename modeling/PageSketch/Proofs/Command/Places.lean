import PageSketch.Proofs.Command.Paths
import PageSketch.Proofs.Text.Pieces
import PageSketch.Proofs.Workspace.Writing

/-! Where in a tree the paths of components' files lead. -/
namespace PageSketch

private theorem getLast?_names {path : String} {route : Route} (read : Route.ofPath path = .ok route)
    {others : List Text} {last : Text}
    (pieces : Text.pieces (· == '/') path.toList = others ++ [last]) (filled : last ≠ []) :
    route.names.getLast? = some (String.ofList last) := by
  unfold Route.ofPath at read
  split at read
  · cases read
  · split at read
    · cases read
    · split at read
      · cases read
      · cases read
        have kept : [last].filter (!·.isEmpty) = [last] := by simp [filled]
        rw [pieces, List.filter_append, kept, List.map_append, List.map_singleton,
          List.getLast?_concat]

private theorem beq_slash_of_notMem {text : Text} (unbroken : '/' ∉ text) : ∀ char ∈ text, (char == '/') = false := by
  intro char member
  rw [beq_eq_false_iff_ne]
  rintro rfl
  exact unbroken member

/-- The last name of a component's file is neither that of the folder nor that of the one around it. -/
theorem hasFileName_path (component : Component) (folder : String) (asset : Asset) :
    Workspace.HasFileName (component.path folder asset) := by
  intro route name read last
  have same : (component.path folder asset).toList =
      (joinPath folder component.name).toList ++ asset.ending := by
    rw [path_eq_fileName, asset.fileName_toList]
  obtain ⟨others, rest, pieces⟩ :=
    Text.exists_pieces_append (· == '/') (joinPath folder component.name).toList
  have ends := pieces asset.ending (beq_slash_of_notMem asset.slash_notMem_ending)
  rw [← same] at ends
  -- The ending alone is longer than the names that lead elsewhere, whatever the component is called.
  have long : 2 < (rest ++ asset.ending).length := by
    have ends := asset.two_lt_length_ending
    rw [List.length_append]
    omega
  rw [getLast?_names read ends (by rintro none; rw [none] at long; simp at long)] at last
  cases last
  have differs (short : String) (small : short.toList.length ≤ 2) :
      String.ofList (rest ++ asset.ending) ≠ short := by
    rintro rfl
    rw [String.toList_ofList] at small
    omega
  exact ⟨differs "." (by decide), differs ".." (by decide)⟩

private theorem getLast?_names_path {component : Component} (unbroken : '/' ∉ component.name.toList)
    {folder : String} {asset : Asset} {route : Route}
    (read : Route.ofPath (component.path folder asset) = .ok route) :
    route.names.getLast? = some (asset.fileName component.name) := by
  have single := asset.isFileName_fileName unbroken
  have own : Text.pieces (· == '/') (asset.fileName component.name).toList =
      [(asset.fileName component.name).toList] := Text.pieces_of_unmarked (beq_slash_of_notMem single.unbroken)
  have filled : (asset.fileName component.name).toList ≠ [] := fun none =>
    single.filled (String.toList_eq_nil_iff.mp none)
  have path : (component.path folder asset).toList =
      (folderStart folder).toList ++ (asset.fileName component.name).toList := by
    rw [Component.path, joinPath_eq, if_neg fun rooted => single.unbroken (List.mem_of_head? rooted),
      String.toList_append]
  have pieces : ∃ others, Text.pieces (· == '/') (component.path folder asset).toList =
      others ++ [(asset.fileName component.name).toList] := by
    rw [path]
    rcases getLast?_folderStart folder with empty | slash
    · rw [empty]
      exact ⟨[], own⟩
    · rw [← List.dropLast_append_getLast? _ slash, List.append_assoc, List.singleton_append,
        Text.pieces_append_mark (by decide), own]
      exact ⟨_, rfl⟩
  obtain ⟨others, pieces⟩ := pieces
  rw [getLast?_names read pieces filled, String.ofList_toList]

namespace Workspace

/-- A path's last name is the last of the location that the path leads to. -/
theorem Leads.exists_route {workspace : Workspace} {path : String} {location : Location}
    (leads : workspace.Leads path location) :
    ∃ route, Route.ofPath path = .ok route ∧ location.getLast? = route.names.getLast? := by
  cases leads with
  | @intro route folder name read _ last =>
    exact ⟨route, read, by rw [List.getLast?_concat, last]⟩

/-- Files of components whose names hold no slash are at one location only when they are the same. -/
theorem Leads.same_file {workspace : Workspace} {folder : String} {location : Location}
    {component twin : Component} {asset other : Asset}
    (leads : workspace.Leads (component.path folder asset) location)
    (leads' : workspace.Leads (twin.path folder other) location)
    (unbroken : '/' ∉ component.name.toList) (unbroken' : '/' ∉ twin.name.toList) :
    asset = other ∧ component.name = twin.name := by
  obtain ⟨route, read, last⟩ := leads.exists_route
  obtain ⟨route', read', last'⟩ := leads'.exists_route
  rw [getLast?_names_path unbroken read] at last
  rw [last, getLast?_names_path unbroken' read', Option.some.injEq] at last'
  exact Asset.fileName_inj last'

end Workspace

end PageSketch
