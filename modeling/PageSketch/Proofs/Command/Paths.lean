import Mathlib.Data.List.Nodup
import PageSketch.Command.Basic
import PageSketch.Proofs.Page.Header

/-! Paths of files in a folder, and those that the files of a component are written to. -/
namespace PageSketch

/-- How the paths of what is in a folder begin. -/
def folderStart (folder : String) : String :=
  if folder.toList.getLast?.all (· == '/') then folder else folder ++ "/"

/-- Whether a text names a file on its own, without a step into another folder or out of one. -/
structure IsFileName (name : String) : Prop where
  filled : name ≠ ""
  notHere : name ≠ "."
  notOut : name ≠ ".."
  unbroken : '/' ∉ name.toList

/-- Whether a path is that of a file in a folder: the folder, then a name that stands alone. -/
def IsFileIn (folder path : String) : Prop :=
  ∃ name, IsFileName name ∧ path = folderStart folder ++ name

theorem joinPath_eq (folder path : String) :
    joinPath folder path =
      if path.toList.head? = some '/' then path else folderStart folder ++ path := by
  unfold joinPath folderStart
  split
  · rfl
  · split <;> rfl

theorem getLast?_folderStart (folder : String) :
    folderStart folder = "" ∨ (folderStart folder).toList.getLast? = some '/' := by
  unfold folderStart
  split
  · rename_i ends
    cases last : folder.toList.getLast? with
    | none =>
      left
      rw [← String.toList_inj]
      exact List.getLast?_eq_none_iff.mp last
    | some char =>
      right
      rw [last] at ends
      rw [beq_iff_eq.mp ends]
  · right
    simp

namespace Asset

def ending (asset : Asset) : Text := '.' :: asset.suffix.toList

theorem fileName_toList (asset : Asset) (component : String) :
    (asset.fileName component).toList = component.toList ++ asset.ending := by
  simp [fileName, ending]

theorem slash_notMem_ending (asset : Asset) : '/' ∉ asset.ending := by
  cases asset <;> decide

theorem two_lt_length_ending (asset : Asset) : 2 < asset.ending.length := by
  cases asset <;> decide

theorem isFileName_fileName {component : String} (unbroken : '/' ∉ component.toList) (asset : Asset) :
    IsFileName (asset.fileName component) := by
  have long : 2 < (asset.fileName component).toList.length := by
    have ends := asset.two_lt_length_ending
    rw [fileName_toList, List.length_append]
    omega
  have differs (short : String) (small : short.toList.length ≤ 2) :
      asset.fileName component ≠ short := by
    rintro rfl
    omega
  refine ⟨differs "" (by decide), differs "." (by decide), differs ".." (by decide), ?_⟩
  rw [fileName_toList, List.mem_append, not_or]
  exact ⟨unbroken, asset.slash_notMem_ending⟩

theorem mem_all (asset : Asset) : asset ∈ all := by
  cases asset <;> decide

private theorem nodup_all : all.Nodup := by
  decide

theorem fileName_inj {asset other : Asset} {name twin : String}
    (same : asset.fileName name = other.fileName twin) : asset = other ∧ name = twin := by
  -- A name may hold dots of its own, but no suffix holds one: what follows the last dot is the suffix.
  have suffixed (asset : Asset) (name : String) :
      (asset.fileName name).toList.reverse.takeWhile (· ≠ '.') = asset.suffix.toList.reverse := by
    rw [fileName_toList]
    cases asset <;> simp [ending, suffix]
  have suffixes : asset.suffix.toList.reverse = other.suffix.toList.reverse := by
    rw [← suffixed asset name, ← suffixed other twin, same]
  have assets : asset = other := by
    revert suffixes
    cases asset <;> cases other <;> decide
  refine ⟨assets, ?_⟩
  subst assets
  have texts := congrArg String.toList same
  rw [fileName_toList, fileName_toList] at texts
  exact String.toList_inj.mp (List.append_cancel_right texts)

end Asset

def Component.path (component : Component) (folder : String) (asset : Asset) : String :=
  joinPath folder (asset.fileName component.name)

private theorem head?_fileName (asset : Asset) (component : String) :
    (asset.fileName component).toList.head? = some '/' ↔ component.toList.head? = some '/' := by
  rw [Asset.fileName_toList]
  cases component.toList with
  | nil => simp [Asset.ending]
  | cons first rest => simp

/-- The files of a component are at the component's own path, but for their endings. -/
theorem path_eq_fileName (component : Component) (folder : String) (asset : Asset) :
    component.path folder asset = asset.fileName (joinPath folder component.name) := by
  rw [Component.path, joinPath_eq, joinPath_eq]
  by_cases rooted : component.name.toList.head? = some '/'
  · rw [if_pos ((head?_fileName asset component.name).mpr rooted), if_pos rooted]
  · rw [if_neg (mt (head?_fileName asset component.name).mp rooted), if_neg rooted, Asset.fileName,
      Asset.fileName, String.append_assoc, String.append_assoc, String.append_assoc]

/-- Files share a path just if they are the same file of components that share theirs. -/
theorem path_eq_path_iff {folder : String} {component twin : Component} {asset other : Asset} :
    component.path folder asset = twin.path folder other ↔
      asset = other ∧ joinPath folder component.name = joinPath folder twin.name := by
  rw [path_eq_fileName, path_eq_fileName]
  refine ⟨Asset.fileName_inj, ?_⟩
  rintro ⟨rfl, same⟩
  rw [same]

theorem nodup_paths_iff (components : List Component) (folder : String) :
    (components.flatMap fun component => Asset.all.map (component.path folder)).Nodup ↔
      (components.map fun component => joinPath folder component.name).Nodup := by
  have own (component : Component) : (Asset.all.map (component.path folder)).Nodup :=
    Asset.nodup_all.map fun _ _ same => (path_eq_path_iff.mp same).1
  have apart (component twin : Component) :
      (Asset.all.map (component.path folder)).Disjoint (Asset.all.map (twin.path folder)) ↔
        joinPath folder component.name ≠ joinPath folder twin.name := by
    constructor
    · intro disjoint same
      refine disjoint (List.mem_map_of_mem (Asset.mem_all .html)) ?_
      rw [path_eq_path_iff.mpr ⟨rfl, same⟩]
      exact List.mem_map_of_mem (Asset.mem_all .html)
    · intro differ path member member'
      obtain ⟨asset, _, rfl⟩ := List.mem_map.mp member
      obtain ⟨other, _, same⟩ := List.mem_map.mp member'
      exact differ (path_eq_path_iff.mp same).2.symm
  rw [List.nodup_flatMap, List.Nodup, List.pairwise_map]
  refine (and_iff_right fun component _ => own component).trans ?_
  exact List.Pairwise.iff fun component twin => apart component twin

private theorem joinPath_inj {folder name twin : String} (unbroken : '/' ∉ name.toList)
    (unbroken' : '/' ∉ twin.toList) (same : joinPath folder name = joinPath folder twin) :
    name = twin := by
  rw [joinPath_eq, joinPath_eq, if_neg fun rooted => unbroken (List.mem_of_head? rooted),
    if_neg fun rooted => unbroken' (List.mem_of_head? rooted), ← String.toList_inj,
    String.toList_append, String.toList_append] at same
  exact String.toList_inj.mp (List.append_cancel_left same)

theorem nodup_joined {components : List Component} (distinct : (components.map Component.name).Nodup)
    (unbroken : ∀ component ∈ components, '/' ∉ component.name.toList) (folder : String) :
    (components.map fun component => joinPath folder component.name).Nodup := by
  rw [List.Nodup, List.pairwise_map] at distinct ⊢
  refine distinct.imp_of_mem fun listed listed' differ together => differ ?_
  exact joinPath_inj (unbroken _ listed) (unbroken _ listed') together

private theorem eq_nil_of_folderStart_eq {folder : String} {before after : Text}
    (same : (folderStart folder).toList = before ++ after) (unbroken : '/' ∉ after) : after = [] := by
  rcases getLast?_folderStart folder with empty | slash
  · rw [empty] at same
    exact (List.append_eq_nil_iff.mp same.symm).2
  · cases after with
    | nil => rfl
    | cons first rest =>
      rw [same, List.getLast?_append_cons] at slash
      exact absurd (List.mem_of_getLast? slash) unbroken

/-- A component's file is in the folder just if the component's name holds no slash, or spells the folder
out from the root in front of such a name. -/
theorem isFileIn_path_iff (component : Component) (folder : String) (asset : Asset) :
    IsFileIn folder (component.path folder asset) ↔
      ∃ own : String, '/' ∉ own.toList ∧ (component.name = own ∨
        component.name.toList.head? = some '/' ∧ component.name = folderStart folder ++ own) := by
  rw [Component.path, joinPath_eq]
  constructor
  · rintro ⟨name, single, same⟩
    split at same
    · rename_i rooted
      have rooted := (head?_fileName asset component.name).mp rooted
      have parts : component.name.toList ++ asset.ending =
          (folderStart folder).toList ++ name.toList := by
        rw [← asset.fileName_toList, same, String.toList_append]
      rcases List.append_eq_append_iff.mp parts with ⟨added, start, ending⟩ | ⟨own, start, last⟩
      · have slash := asset.slash_notMem_ending
        rw [ending, List.mem_append, not_or] at slash
        rw [eq_nil_of_folderStart_eq start slash.1, List.append_nil, String.toList_inj] at start
        exact ⟨"", by simp, .inr ⟨rooted, by rw [start, String.append_empty]⟩⟩
      · have unbroken := single.unbroken
        rw [last, List.mem_append, not_or] at unbroken
        refine ⟨String.ofList own, by rw [String.toList_ofList]; exact unbroken.1, .inr ⟨rooted, ?_⟩⟩
        rw [← String.toList_inj, start, String.toList_append, String.toList_ofList]
    · have whole : asset.fileName component.name = name := by
        rw [← String.toList_inj, String.toList_append, String.toList_append] at same
        exact String.toList_inj.mp (List.append_cancel_left same)
      have unbroken := single.unbroken
      rw [← whole, asset.fileName_toList, List.mem_append, not_or] at unbroken
      exact ⟨component.name, unbroken.1, .inl rfl⟩
  · rintro ⟨own, unbroken, rfl | ⟨rooted, spelled⟩⟩
    · have single := asset.isFileName_fileName unbroken
      rw [if_neg fun rooted => single.unbroken (List.mem_of_head? rooted)]
      exact ⟨_, single, rfl⟩
    · rw [if_pos ((head?_fileName asset component.name).mpr rooted)]
      refine ⟨asset.fileName own, asset.isFileName_fileName unbroken, ?_⟩
      rw [spelled, Asset.fileName, Asset.fileName, String.append_assoc, String.append_assoc,
        String.append_assoc]

/-- Every component is drawn as a page, whose files are those of the component. -/
theorem exists_page (credits : Credits) (component : Component) :
    ∃ page, Page.ofComponent credits component = .ok page ∧ page.name = component.name ∧
      ∀ asset, component.asset credits asset = .ok (page.text asset) := by
  obtain ⟨rest, _, markup⟩ := exists_markup_eq component
  refine ⟨_, by rw [Page.ofComponent, markup credits]; rfl, rfl, fun asset => ?_⟩
  cases asset with
  | html => exact markup credits
  | css | js => rfl

namespace Task

variable {m : Type → Type} [Monad m] [FileStore m]

theorem writePage_eq [LawfulMonad m] {credits : Credits} {component : Component} {page : Page}
    (drawn : Page.ofComponent credits component = .ok page) (named : page.name = component.name)
    (folder : String) :
    (writePage credits folder component : Task m (List String)) =
      Asset.all.mapM fun asset => do
        write (component.path folder asset) (page.text asset)
        return component.path folder asset := by
  have known : (ExceptT.mk (pure ((Page.ofComponent credits component).mapError
      (.undrawable component.name))) : Task m Page) = pure page := by
    rw [drawn]
    rfl
  rw [writePage, known, pure_bind, Page.files, List.mapM_map, named]
  rfl

/-- Writes the files of a program's components into a folder, which is made first. -/
def writePages (credits : Credits) (folder : String) (program : Program) : Task m (List String) := do
  makeFolders folder
  return (← program.components.mapM (writePage credits folder)).flatten

theorem compile_eq (year : Int) (credits : Credits) (input folder : String) :
    (compile year credits input folder : Task m (List String)) =
      load year input >>= writePages credits folder := rfl

end Task

end PageSketch
