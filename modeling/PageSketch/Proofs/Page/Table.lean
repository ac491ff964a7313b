import PageSketch.Proofs.Page.Elements
import PageSketch.Proofs.Page.Filling

/-! The body of a table read back: its headings are the columns, and the cells of its rows are those of the
items, whatever is written in them. -/
namespace PageSketch

open Template Markup

def headings (body : String) : List String := (within "th" (tokens body.toList)).map shown

def cellTexts (row : List Token) : List String := (within "td" row).map shown

def rowTexts (part : List Token) : List (List String) := (within "tr" part).map cellTexts

def sectionTexts (body : String) : List (List (List String)) :=
  (within "tbody" (tokens body.toList)).map rowTexts

namespace Stock

def own : Expr := .path (.level 0) []

def tableHeadings : List (Outline Expr) :=
  [.block "each" [.path (.level 0) ["options", "columns"]] [.part own] []]

def tableCells : List (Outline Expr) := [.block "each" [named "cells"] [.part own] []]

def tableRows : List (Outline (List (Outline Expr))) :=
  [.block "each" [named "items"] [.part tableCells] []]

def haveCells : (cells : List (Outline Expr)) → List (Outline Snippet) → Bool := holds "td" areValue

def haveRows : (rows : List (Outline (List (Outline Expr)))) → List (Outline Snippet) → Bool :=
  holds "tr" haveCells

def isTable (outlines : List (Outline Snippet)) : Bool :=
  holds "th" areValue tableHeadings outlines && holds "tbody" haveRows [.part tableRows] outlines

set_option maxRecDepth 20000 in
private theorem isTable_outline? : (outline? .table).any isTable = true := by
  rw [outline?, body, Templates.table, toList_braced]
  decide +kernel

end Stock

section Drawn

variable {outlines : List (Outline Snippet)}

private theorem cellTexts_eq {cells : List (Outline Expr)} (found : Stock.haveCells cells outlines) (scope : Scope) :
    cellTexts (tokensAll outlines scope) = madeAll Expr.shown cells scope :=
  map_within_of_holds found (fun _ _ value => shown_of_areValue value) scope

private theorem rowTexts_eq {rows : List (Outline (List (Outline Expr)))} (found : Stock.haveRows rows outlines)
    (scope : Scope) : rowTexts (tokensAll outlines scope) = madeAll (madeAll Expr.shown) rows scope :=
  map_within_of_holds found (fun _ _ cells => cellTexts_eq cells) scope

variable {scope : Scope}

private theorem madeAll_own {arg : Expr} {texts : List String}
    (found : arg.eval scope = .ok (some (.ofTexts texts))) :
    madeAll Expr.shown [.block "each" [arg] [.part Stock.own] []] scope = texts := by
  have each := madeAll_each_value found fun text loop =>
    (Expr.shown_text rfl : Stock.own.shown (scope.enter ⟨.text text, loop⟩) = text)
  rw [each, List.map_id']

end Drawn

/-- The body of a table has the columns as headings and shows each row, whatever stands in a cell. -/
theorem table_shows_data {component : Component} (table : component.kind = .table) {columns : List String}
    (titles : component.option? "columns" = some (.list columns)) {rows : List (List String)}
    (data : component.items = rows.map .tableRow) :
    ∃ body, component.body = .ok body ∧ headings body = columns ∧ sectionTexts body = [rows] := by
  obtain ⟨body, drawn⟩ := Stock.exists_render_body component.kind component
  obtain ⟨outline, isTable, read⟩ := Component.exists_outline drawn table Stock.isTable_outline?
  simp only [Stock.isTable, Bool.and_eq_true] at isTable
  have options : (Expr.path (.level 0) ["options", "columns"]).eval component.scope =
      .ok (some (.ofTexts columns)) := by
    rw [component.eval_option, titles]
    rfl
  refine ⟨body, drawn, ?_, ?_⟩
  · rw [headings, read, map_within_of_holds isTable.1 fun _ _ value => shown_of_areValue value]
    exact madeAll_own options
  · have each := madeAll_each_value (Component.eval_items data) fun cells loop =>
      (madeAll_own rfl : madeAll Expr.shown Stock.tableCells
        (component.scope.enter ⟨(Item.tableRow cells).toJson, loop⟩) = cells)
    rw [List.map_id'] at each
    rw [sectionTexts, read, map_within_of_holds isTable.2 fun _ _ rows => rowTexts_eq rows]
    exact congrArg (fun shown => [shown]) each

/-- Cells that look like tags or like escapes are shown as they were written. -/
theorem table_shows_markup :
    ∃ body,
      ({ name := "Prices", kind := .table,
         options := .ofList [("columns", .list ["</th><th>", "&lt;"])],
         items := [["</td><td>", "&amp;lt;"], [], ["<tr>"]].map .tableRow } : Component).body = .ok body ∧
        headings body = ["</th><th>", "&lt;"] ∧
        sectionTexts body = [[["</td><td>", "&amp;lt;"], [], ["<tr>"]]] :=
  table_shows_data rfl rfl rfl

end PageSketch
