import PageSketch.Proofs.Template.Stretch

/-! Templates that read their data by name only: without loops, and without steps into what is found. Such a
template is filled the same with all data that agree on the names it reads. -/
namespace PageSketch.Template

/-- Whether an expression is one of the names that may be read. -/
def Expr.reads (allowed : String → Bool) : Expr → Bool
  | .path (.level 0) [name] => allowed name
  | _ => false

mutual

/-- Whether a part of a template reads its data by these names only. -/
def Node.reads (allowed : String → Bool) : Node → Bool
  | .text _ => true
  | .value _ source => source.reads allowed
  | .call _ _ _ => false
  | .block name [arg] body otherwise =>
    match Block.named? name with
    | some (.when _) => arg.reads allowed && readAll allowed body && readAll allowed otherwise
    | _ => false
  | .block _ _ _ _ => false
  | .placed _ node => node.reads allowed

def readAll (allowed : String → Bool) : List Node → Bool
  | [] => true
  | first :: rest => first.reads allowed && readAll allowed rest

end

variable {allowed : String → Bool} {left right : List (String × Json)}

/-- Data that agree on a name have the same value for it. -/
theorem Expr.eval_congr {source : Expr} (reads : source.reads allowed)
    (agree : ∀ name, allowed name → left.lookup name = right.lookup name) :
    ∃ value, source.eval ⟨⟨.object left, []⟩, []⟩ = .ok value ∧
      source.eval ⟨⟨.object right, []⟩, []⟩ = .ok value := by
  unfold Expr.reads at reads
  split at reads
  · rename_i name
    refine ⟨left.lookup name, rfl, ?_⟩
    rw [agree name reads]
    rfl
  · cases reads

mutual

private theorem Node.render_congr (node : Node) (reads : node.reads allowed)
    (agree : ∀ name, allowed name → left.lookup name = right.lookup name) :
    node.render ⟨⟨.object left, []⟩, []⟩ = node.render ⟨⟨.object right, []⟩, []⟩ := by
  match node with
  | .text text => simp only [Node.render]
  | .value escaped source =>
    obtain ⟨value, onLeft, onRight⟩ := source.eval_congr reads agree
    simp only [Node.render, onLeft, onRight]
  | .call _ _ _ | .block _ [] _ _ | .block _ (_ :: _ :: _) _ _ => simp [Node.reads] at reads
  | .block name [arg] body otherwise =>
    rw [Node.reads] at reads
    split at reads
    · rename_i wanted named
      simp only [Bool.and_eq_true] at reads
      obtain ⟨value, onLeft, onRight⟩ := arg.eval_congr reads.1.1 agree
      rw [render_when named onLeft, render_when named onRight, renderAll_congr body reads.1.2 agree,
        renderAll_congr otherwise reads.2 agree]
    · cases reads
  | .placed position node =>
    rw [Node.reads] at reads
    simp only [Node.render, node.render_congr reads agree]

theorem renderAll_congr (nodes : List Node) (read : readAll allowed nodes)
    (agree : ∀ name, allowed name → left.lookup name = right.lookup name) :
    renderAll nodes ⟨⟨.object left, []⟩, []⟩ = renderAll nodes ⟨⟨.object right, []⟩, []⟩ := by
  match nodes with
  | [] => simp only [renderAll]
  | first :: rest =>
    simp only [readAll, Bool.and_eq_true] at read
    simp only [renderAll, first.render_congr read.1 agree, renderAll_congr rest read.2 agree]

end

end PageSketch.Template
