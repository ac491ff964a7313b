import PageSketch.Page.Basic
import PageSketch.Proofs.Page.Escaping
import PageSketch.Proofs.Text.Occurrence

/-! The comment at the top of a file: where it ends, and what comes after it. -/
namespace PageSketch

open Template

namespace Asset

def closingMark : Asset → Text
  | html => "-->".toList
  | css | js => "*/".toList

/-- How the file goes on after the comment at its top. -/
def beginning : Asset → Text
  | html => "<!DOCTYPE html>".toList
  | css => "\n:root \x7b".toList
  | js => "\n(function () \x7b".toList

private theorem closingMark_ne_nil (asset : Asset) : asset.closingMark ≠ [] := by
  cases asset <;> decide

private theorem newline_notMem_closingMark (asset : Asset) : '\n' ∉ asset.closingMark := by
  cases asset <;> decide

private theorem space_notMem_closingMark (asset : Asset) : ' ' ∉ asset.closingMark := by
  cases asset <;> decide

private theorem header_toList (asset : Asset) (component : String) (credits : Credits) :
    (asset.header component credits).toList =
      asset.comment.opening.toList ++ '\n' ::
        ((asset.comment.lead ++ "@centaur-generated true").toList ++ '\n' ::
        ((asset.comment.lead ++ "@version " ++ version).toList ++ '\n' ::
        (((asset.comment.lead ++ "@component").toList ++ ' ' :: component.toList) ++ '\n' ::
        (((asset.comment.lead ++ "@human").toList ++ ' ' :: credits.human.toList) ++ '\n' ::
        (((asset.comment.lead ++ "@ai").toList ++ ' ' :: credits.ai.toList) ++ '\n' ::
        (asset.comment.closing.toList ++ '\n' :: [])))))) := by
  simp [header, headerLines, String.join]

private theorem occurrences_header (asset : Asset) (component : String) (credits : Credits) :
    Text.occurrences asset.closingMark (asset.header component credits).toList =
      Text.occurrences asset.closingMark component.toList +
        Text.occurrences asset.closingMark credits.human.toList +
        Text.occurrences asset.closingMark credits.ai.toList + 1 := by
  have fixed : Text.occurrences asset.closingMark asset.comment.opening.toList = 0 ∧
      Text.occurrences asset.closingMark (asset.comment.lead ++ "@centaur-generated true").toList = 0 ∧
      Text.occurrences asset.closingMark (asset.comment.lead ++ "@version " ++ version).toList = 0 ∧
      Text.occurrences asset.closingMark (asset.comment.lead ++ "@component").toList = 0 ∧
      Text.occurrences asset.closingMark (asset.comment.lead ++ "@human").toList = 0 ∧
      Text.occurrences asset.closingMark (asset.comment.lead ++ "@ai").toList = 0 ∧
      Text.occurrences asset.closingMark asset.comment.closing.toList = 1 := by
    cases asset <;> decide +kernel
  obtain ⟨opening, generated, version, named, human, ai, closing⟩ := fixed
  -- A mark holds no line feed and no blank, so it stands within a name or in what is fixed of a line.
  have newline := asset.newline_notMem_closingMark
  have space := asset.space_notMem_closingMark
  have marked := asset.closingMark_ne_nil
  rw [header_toList, Text.occurrences_append_cons marked newline,
    Text.occurrences_append_cons marked newline, Text.occurrences_append_cons marked newline,
    Text.occurrences_append_cons marked newline, Text.occurrences_append_cons marked newline,
    Text.occurrences_append_cons marked newline, Text.occurrences_append_cons marked newline,
    Text.occurrences_append_cons marked space, Text.occurrences_append_cons marked space,
    Text.occurrences_append_cons marked space, opening, generated, version, named, human, ai, closing,
    Text.occurrences]
  omega

theorem exists_header_eq (asset : Asset) (component : String) (credits : Credits) :
    ∃ inside, (asset.header component credits).toList = inside ++ asset.closingMark ++ ['\n'] := by
  have closing : ∃ gap, asset.comment.closing.toList = gap ++ asset.closingMark := by
    cases asset with
    | html => exact ⟨[], by decide⟩
    | css | js => exact ⟨[' '], by decide⟩
  obtain ⟨gap, closing⟩ := closing
  refine ⟨(asset.comment.opening ++ "\n" ++ String.join ((headerLines component credits).map fun line =>
    asset.comment.lead ++ line ++ "\n")).toList ++ gap, ?_⟩
  rw [header, String.toList_append, String.toList_append, closing, ← List.append_assoc]
  rfl

/-- A header closes its comment once just if no name in it closes a comment. -/
theorem occurrences_header_eq_one_iff (asset : Asset) (component : String) (credits : Credits) :
    Text.occurrences asset.closingMark (asset.header component credits).toList = 1 ↔
      ∀ name ∈ [component, credits.human, credits.ai],
        Text.holds asset.closingMark name.toList = false := by
  have marked := asset.closingMark_ne_nil
  rw [occurrences_header, List.forall_mem_cons, List.forall_mem_cons, List.forall_mem_singleton,
    ← Text.occurrences_eq_zero_iff marked, ← Text.occurrences_eq_zero_iff marked,
    ← Text.occurrences_eq_zero_iff marked]
  omega

end Asset

theorem exists_markup_eq (component : Component) :
    ∃ rest : String, Asset.html.beginning <+: rest.toList ∧ ∀ credits,
      component.markup credits = .ok (Asset.html.header component.name credits ++ rest) := by
  obtain ⟨body, drawn⟩ : ∃ body, component.body = .ok body := by
    obtain ⟨lefts, _, drawn, _⟩ := exists_body_alike keepsEmpty_maskText component
    exact ⟨_, drawn⟩
  obtain ⟨template, found, isPage⟩ := Stock.exists_page
  unfold Stock.isPage at isPage
  split at isPage
  · rename_i position header start nodes
    simp only [Bool.and_eq_true] at isPage
    obtain ⟨⟨⟨named, starts⟩, suit⟩, read⟩ := isPage
    have named := header.eq_of_agrees _ named
    have alike : Stock.pageShape.Alike (component.pageData {} body) (component.pageData {} body) :=
      ⟨_, _, rfl, rfl, List.forall₂_same.mpr fun _ _ => ⟨rfl, .same _⟩⟩
    have filled := (fillsAlike_all nodes suit (Scope.alike_whole alike)).left
    generalize textOf (stretchesAll nodes ⟨⟨component.pageData {} body, []⟩, []⟩) = text at filled
    -- The template reads the header in its first place only.
    have same (credits : Credits) : renderAll nodes ⟨⟨component.pageData credits body, []⟩, []⟩ =
        renderAll nodes ⟨⟨component.pageData {} body, []⟩, []⟩ := by
      apply renderAll_congr nodes read
      intro name other
      have other : name ≠ "header" := by simpa using other
      have skip (value : Json) (rest : List (String × Json)) :
          List.lookup name (("header", value) :: rest) = List.lookup name rest := by
        rw [OrderedMap.lookup_cons_eq_ite, if_neg other]
      exact (skip _ _).trans (skip _ _).symm
    have begins : Asset.html.beginning <+: (String.ofList (start ++ text)).toList := by
      rw [String.toList_ofList]
      exact (List.isPrefixOf_iff_prefix.mp starts).trans (List.prefix_append start text)
    refine ⟨String.ofList (start ++ text), begins, fun credits => ?_⟩
    have top : (Node.placed position (.value false header)).render ⟨⟨component.pageData credits body, []⟩, []⟩ =
        .ok (Asset.html.header component.name credits).toList := by
      rw [named]
      rfl
    have rendered : renderAll (.placed position (.value false header) :: .text start :: nodes)
        ⟨⟨component.pageData credits body, []⟩, []⟩ =
          .ok ((Asset.html.header component.name credits).toList ++ (start ++ text)) := by
      rw [renderAll, top, renderAll, Node.render, same credits, filled]
      rfl
    have page : component.markup credits =
        Stock.registry.render Stock.pageName (component.pageData credits body) := by
      have bound (next : String → Except RegistryError String) :
          (Except.ok body >>= next) = next body := rfl
      rw [Component.markup, drawn, bound]
    rw [page, Stock.render_eq found rendered, String.ofList_append, String.ofList_toList]
  · cases isPage

private theorem beginning_prefix_stylesheet (component : Component) :
    Asset.css.beginning <+: ("\n" ++ component.theme.palette.declarations component.accent ++ "\n" ++
      component.baseRules ++ Rule.lines component.kind.rules ++ component.narrowRules).toList := by
  have start : Asset.css.beginning <+: "\n".toList ++ ":root \x7b\n".toList :=
    List.isPrefixOf_iff_prefix.mp (by decide)
  simp only [Palette.declarations, String.append_assoc, String.toList_append]
  rw [← List.append_assoc]
  exact start.trans (List.prefix_append _ _)

private theorem prefix_braced {start chars : Text} (starts : start.isPrefixOf chars = true) :
    start.map Stock.brace <+: (Stock.braced (String.ofList chars)).toList := by
  rw [Stock.toList_braced]
  exact (List.isPrefixOf_iff_prefix.mp starts).map Stock.brace

set_option maxRecDepth 20000 in
/-- Every script is one function that is called at once. -/
theorem beginning_prefix_script (kind : Kind) :
    Asset.js.beginning <+: ("\n" ++ kind.script?.getD Stock.Scripts.empty).toList := by
  have call : "(function () \x7b".toList = "(function () ‹".toList.map Stock.brace := by decide
  have start : "(function () \x7b".toList <+: (kind.script?.getD Stock.Scripts.empty).toList := by
    rw [call]
    cases kind <;> exact prefix_braced (by decide +kernel)
  rw [String.toList_append]
  exact (List.prefix_append_right_inj ['\n']).mpr start

/-- A file is its header, and a text that no credits change. Only a page tells the name once more. -/
theorem exists_asset_eq (component : Component) (asset : Asset) :
    ∃ rest : String, asset.beginning <+: rest.toList ∧
      (∀ credits,
        component.asset credits asset = .ok (asset.header component.name credits ++ rest)) ∧
      (asset = .html ∨ ∀ name credits,
        { component with name }.asset credits asset = .ok (asset.header name credits ++ rest)) := by
  cases asset with
  | html =>
    obtain ⟨rest, begins, markup⟩ := exists_markup_eq component
    exact ⟨rest, begins, markup, .inl rfl⟩
  | css =>
    let rest := "\n" ++ component.theme.palette.declarations component.accent ++ "\n" ++
      component.baseRules ++ Rule.lines component.kind.rules ++ component.narrowRules
    have named (name : String) (credits : Credits) : { component with name }.asset credits .css =
        .ok (Asset.css.header name credits ++ rest) := by
      simp only [Component.asset, Component.stylesheet, rest, String.append_assoc]
      rfl
    exact ⟨rest, beginning_prefix_stylesheet component, named component.name, .inr named⟩
  | js =>
    let rest := "\n" ++ component.kind.script?.getD Stock.Scripts.empty
    have named (name : String) (credits : Credits) : { component with name }.asset credits .js =
        .ok (Asset.js.header name credits ++ rest) := by
      simp only [Component.asset, Component.script, rest, String.append_assoc]
    exact ⟨rest, beginning_prefix_script component.kind, named component.name, .inr named⟩

/-- A file is its header, which ends in the mark that ends a comment, and then its markup, rules or script,
which no credits change, and no name unless the file is a page. That mark stands in the header once, and is
the first in the file, just if neither the name of the component nor a name in the credits holds such a
mark. -/
theorem header_is_one_comment_iff (component : Component) (asset : Asset) :
    ∃ rest : String, asset.beginning <+: rest.toList ∧
      (asset = .html ∨ ∀ name credits,
        { component with name }.asset credits asset = .ok (asset.header name credits ++ rest)) ∧
      ∀ credits, ∃ inside : Text,
        component.asset credits asset = .ok (asset.header component.name credits ++ rest) ∧
        (asset.header component.name credits).toList = inside ++ asset.closingMark ++ ['\n'] ∧
        (Text.occurrences asset.closingMark (asset.header component.name credits).toList = 1 ↔
          ∀ name ∈ [component.name, credits.human, credits.ai],
            Text.holds asset.closingMark name.toList = false) ∧
        (Text.cut? asset.closingMark (asset.header component.name credits ++ rest).toList =
            some (inside, '\n' :: rest.toList) ↔
          ∀ name ∈ [component.name, credits.human, credits.ai],
            Text.holds asset.closingMark name.toList = false) := by
  obtain ⟨rest, begins, files, named⟩ := exists_asset_eq component asset
  refine ⟨rest, begins, named, fun credits => ?_⟩
  obtain ⟨inside, header⟩ := asset.exists_header_eq component.name credits
  have marked := asset.closingMark_ne_nil
  have once := asset.occurrences_header_eq_one_iff component.name credits
  have file : (asset.header component.name credits ++ rest).toList =
      inside ++ asset.closingMark ++ '\n' :: rest.toList := by
    rw [String.toList_append, header, List.append_assoc]
    rfl
  have count : Text.occurrences asset.closingMark (asset.header component.name credits).toList =
      Text.occurrences asset.closingMark (inside ++ asset.closingMark) := by
    rw [header, Text.occurrences_append_cons marked asset.newline_notMem_closingMark]
    rfl
  refine ⟨inside, files credits, header, once, ?_⟩
  rw [file, Text.cut?_append_iff marked, ← count]
  exact once

/-- A name ends the comment that it stands in, and begins a script. -/
theorem name_closes_comment :
    ∃ component ∈ (Program.ofSource 2025
        "@component Login --><script>alert(1)</script>".toList).components,
      Text.occurrences Asset.html.closingMark (Asset.html.header component.name {}).toList = 2 := by
  decide +kernel

end PageSketch
