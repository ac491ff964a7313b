import PageSketch.Page.Stock.Registry
import PageSketch.Proofs.Template.Names
import PageSketch.Proofs.Template.Registry
import PageSketch.Proofs.Template.Verbatim

/-! The stock templates: each is found under its name, suits the data of a page, and inserts nothing as it
is but for a few calls. -/
namespace PageSketch

open Template

namespace Stock

def entryShape : Shape :=
  .record fun name => if name = "links" then .list (.record fun _ => .plain) else .plain

/-- The shape of the data that the template of a body is filled with. -/
def bodyShape : Shape :=
  .record fun name =>
    match name with
    | "slug" => .shown
    | "options" => .record fun _ => .plain
    | "fields" | "items" | "sections" | "socials" => .list entryShape
    | _ => .plain

def pageShape : Shape := .record fun _ => .plain

def named (name : String) : Expr := .path (.level 0) [name]

/-- All that the template of a body inserts as it is, with the blocks around it. -/
def leaks : Kind → Template
  | .form =>
    [.block "each" [named "fields"]
      [.block "if" [named "is_checkbox"] []
        [.block "if" [named "is_select"]
          [.block "each" [named "options"] [.call true "kebab_case" [.path (.level 0) []]] []]
          []]]
      []]
  | .footer =>
    [.block "if" [named "socials"]
      [.block "each" [named "socials"] [.call true "upper_first" [named "platform"]] []] []]
  | .testimonial =>
    [.block "each" [named "items"]
      [.block "if" [.path (.level 1) ["options", "showStars"]] [.call true "stars" [named "rating"]] []]
      []]
  | _ => []

/-- Whether a template suits the data of a body and inserts as it is only what it should. -/
def isBody (kind : Kind) (template : Template) : Bool :=
  suitsAll [bodyShape] template && nodesAgree (leaksAll template) (leaks kind)

theorem toList_braced (chars : Text) : (braced (String.ofList chars)).toList = chars.map brace := by
  rw [braced, String.toList_ofList, String.toList_ofList]

private theorem any_parse?_braced {chars : Text} {check : Template → Bool}
    (checked : (parse? (chars.map brace)).any check = true) :
    (parse? (braced (String.ofList chars)).toList).any check = true := by
  rwa [toList_braced]

set_option maxRecDepth 20000 in
/-- The text of each stock body is a template that suits its data. -/
theorem parse?_body (kind : Kind) : (parse? (body kind).toList).any (isBody kind) = true := by
  cases kind <;> exact any_parse?_braced (by decide +kernel)

/-- Whether a template is the header as it is, then markup, and reads the header nowhere else. -/
def isPage : Template → Bool
  | .placed _ (.value false header) :: .text start :: rest =>
    header.agrees (named "header") && "<!DOCTYPE html>".toList.isPrefixOf start &&
      suitsAll [pageShape] rest && readAll (· != "header") rest
  | _ => false

set_option maxRecDepth 20000 in
/-- The text of the stock page is a template that starts with the header. -/
theorem parse?_page : (parse? Templates.page.toList).any isPage = true :=
  any_parse?_braced (by decide +kernel)

private theorem isSome_parse? : ∀ entry ∈ templates, (parse? entry.2.toList).isSome := by
  intro entry member
  rcases List.mem_cons.mp member with rfl | ofKind
  · exact Option.isSome_of_any parse?_page
  · obtain ⟨kind, _, rfl⟩ := List.mem_map.mp ofKind
    exact Option.isSome_of_any (parse?_body kind)

private theorem nodup_names : (templates.map Prod.fst).Nodup := by
  have names : templates.map Prod.fst = pageName :: Kind.all.map bodyName := by
    simp [templates, Function.comp_def]
  rw [names]
  decide +kernel

theorem keeps_registry : Registry.Keeps templates registry :=
  Registry.keeps_empty.registerAll isSome_parse?

/-- Each stock text is found under its name as the template that it is. -/
theorem get?_of_mem {name text : String} {template : Template} (listed : (name, text) ∈ templates)
    (parsed : parse? text.toList = some template) : registry.templates.get? name = some template := by
  rw [keeps_registry.found, OrderedMap.last?_of_mem nodup_names listed]
  exact parsed

theorem mem_all (kind : Kind) : kind ∈ Kind.all := by cases kind <;> decide

theorem get?_body {kind : Kind} {template : Template} (parsed : parse? (body kind).toList = some template) :
    registry.templates.get? (bodyName kind) = some template := by
  have listed : (bodyName kind, body kind) ∈ templates :=
    List.mem_cons_of_mem _ (List.mem_map.mpr ⟨kind, mem_all kind, rfl⟩)
  exact get?_of_mem listed parsed

/-- The template of a stock body is found, suits its data, and inserts as it is only what it should. -/
theorem exists_body (kind : Kind) :
    ∃ template, registry.templates.get? (bodyName kind) = some template ∧ isBody kind template := by
  obtain ⟨template, parsed, suits⟩ := (Option.any_eq_true _ _).mp (parse?_body kind)
  exact ⟨template, get?_body parsed, suits⟩

theorem render_eq {name : String} {template : Template} {data : Json} {text : Text}
    (found : registry.templates.get? name = some template)
    (filled : renderAll template ⟨⟨data, []⟩, []⟩ = .ok text) :
    registry.render name data = .ok (String.ofList text) := by
  rw [Registry.render, found]
  simp only [PageSketch.Template.render, filled]
  rfl

/-- The template of the stock page is found, and starts with the header. -/
theorem exists_page :
    ∃ template, registry.templates.get? pageName = some template ∧ isPage template := by
  obtain ⟨template, parsed, starts⟩ := (Option.any_eq_true _ _).mp parse?_page
  have listed : (pageName, Templates.page) ∈ templates := List.mem_cons_self
  exact ⟨template, get?_of_mem listed parsed, starts⟩

end Stock

end PageSketch
