import PageSketch.Proofs.Template.Stretch

/-! What a template inserts as it is. Nothing else of the template matters for that, so it is enough to
know the calls and raw values, and the blocks around them. -/
namespace PageSketch.Template

mutual

/-- A part of a template without all that inserts nothing as it is. -/
def Node.leaks : Node → List Node
  | .text _ => []
  | .value escaped source => if escaped then [] else [.value escaped source]
  | .call escaped name args => [.call escaped name args]
  | .block name args body otherwise =>
    if (leaksAll body).isEmpty && (leaksAll otherwise).isEmpty then []
    else [.block name args (leaksAll body) (leaksAll otherwise)]
  | .placed _ node => node.leaks

def leaksAll : List Node → List Node
  | [] => []
  | first :: rest => first.leaks ++ leaksAll rest

end

theorem verbatims_append (first second : List Stretch) :
    verbatims (first ++ second) = verbatims first ++ verbatims second := List.filterMap_append

theorem verbatims_flatMap {Value : Type} (values : List Value) (stretches : Value → List Stretch) :
    verbatims (values.flatMap stretches) = values.flatMap fun value => verbatims (stretches value) := by
  induction values with
  | nil => rfl
  | cons first rest ih => rw [List.flatMap_cons, verbatims_append, ih, List.flatMap_cons]

theorem stretchesAll_append (first second : List Node) (scope : Scope) :
    stretchesAll (first ++ second) scope = stretchesAll first scope ++ stretchesAll second scope := by
  induction first with
  | nil => rfl
  | cons node rest ih => rw [List.cons_append, stretchesAll, stretchesAll, ih, List.append_assoc]

theorem stretchesAll_singleton (node : Node) (scope : Scope) :
    stretchesAll [node] scope = node.stretches scope := by
  rw [stretchesAll, stretchesAll, List.append_nil]

private theorem verbatims_block {body body' otherwise otherwise' : List Node}
    (same : ∀ scope, verbatims (stretchesAll body scope) = verbatims (stretchesAll body' scope))
    (same' : ∀ scope,
      verbatims (stretchesAll otherwise scope) = verbatims (stretchesAll otherwise' scope))
    (name : String) (args : List Expr) (scope : Scope) :
    verbatims ((Node.block name args body otherwise).stretches scope) =
      verbatims ((Node.block name args body' otherwise').stretches scope) := by
  rw [Node.stretches_block, Node.stretches_block]
  refine inBlock_rel (fun left right => verbatims left = verbatims right) rfl ?_ same same' name args scope
  intro left right lefts rights first rest
  rw [verbatims_append, verbatims_append, first, rest]

private theorem stretches_block_nil (name : String) (args : List Expr) (scope : Scope) :
    (Node.block name args [] []).stretches scope = [] := by
  rw [Node.stretches_block]
  exact inBlock_nil name args scope

mutual

private theorem Node.verbatims_leaks (node : Node) (scope : Scope) :
    verbatims (stretchesAll node.leaks scope) = verbatims (node.stretches scope) := by
  match node with
  | .text text => rfl
  | .value escaped source =>
    cases escaped with
    | false => rw [Node.leaks, if_neg (by simp), stretchesAll_singleton]
    | true =>
      simp only [Node.leaks, if_true, stretchesAll, Node.stretches]
      split <;> rfl
  | .call escaped name args => rw [Node.leaks, stretchesAll_singleton]
  | .block name args body otherwise =>
    have same := verbatims_block (fun scope => verbatims_leaksAll body scope)
      (fun scope => verbatims_leaksAll otherwise scope) name args scope
    rw [Node.leaks, ← same]
    split
    · rename_i empty
      simp only [Bool.and_eq_true, List.isEmpty_iff] at empty
      rw [empty.1, empty.2, stretches_block_nil]
      rfl
    · rw [stretchesAll_singleton]
  | .placed _ node =>
    rw [Node.leaks, Node.stretches]
    exact node.verbatims_leaks scope

/-- What a template inserts as it is, it inserts by the calls and raw values in it. -/
theorem verbatims_leaksAll (nodes : List Node) (scope : Scope) :
    verbatims (stretchesAll (leaksAll nodes) scope) = verbatims (stretchesAll nodes scope) := by
  match nodes with
  | [] => rfl
  | first :: rest =>
    rw [leaksAll, stretchesAll_append, verbatims_append, first.verbatims_leaks,
      verbatims_leaksAll rest, stretchesAll, verbatims_append]

end

mutual

/-- Whether two expressions are the same. Literals are not compared. -/
def Expr.agrees : Expr → Expr → Bool
  | .path origin names, .path origin' names' => origin == origin' && names == names'
  | .loopValue up name, .loopValue up' name' => up == up' && name == name'
  | .call name args, .call name' args' => name == name' && argsAgree args args'
  | _, _ => false

def argsAgree : List Expr → List Expr → Bool
  | [], [] => true
  | first :: rest, first' :: rest' => first.agrees first' && argsAgree rest rest'
  | _, _ => false

end

mutual

def Node.agrees : Node → Node → Bool
  | .text text, .text text' => text == text'
  | .value escaped source, .value escaped' source' => escaped == escaped' && source.agrees source'
  | .call escaped name args, .call escaped' name' args' =>
    escaped == escaped' && name == name' && argsAgree args args'
  | .block name args body otherwise, .block name' args' body' otherwise' =>
    name == name' && argsAgree args args' && nodesAgree body body' && nodesAgree otherwise otherwise'
  | _, _ => false

def nodesAgree : List Node → List Node → Bool
  | [], [] => true
  | first :: rest, first' :: rest' => first.agrees first' && nodesAgree rest rest'
  | _, _ => false

end

mutual

theorem Expr.eq_of_agrees (expr other : Expr) (agree : expr.agrees other) : expr = other := by
  match expr, other with
  | .path origin names, .path origin' names' =>
    simp only [Expr.agrees, Bool.and_eq_true, beq_iff_eq] at agree
    rw [agree.1, agree.2]
  | .loopValue up name, .loopValue up' name' =>
    simp only [Expr.agrees, Bool.and_eq_true, beq_iff_eq] at agree
    rw [agree.1, agree.2]
  | .call name args, .call name' args' =>
    simp only [Expr.agrees, Bool.and_eq_true, beq_iff_eq] at agree
    rw [agree.1, eq_of_argsAgree args args' agree.2]

theorem eq_of_argsAgree (args others : List Expr) (agree : argsAgree args others) :
    args = others := by
  match args, others with
  | [], [] => rfl
  | first :: rest, first' :: rest' =>
    simp only [argsAgree, Bool.and_eq_true] at agree
    rw [first.eq_of_agrees first' agree.1, eq_of_argsAgree rest rest' agree.2]

end

mutual

theorem Node.eq_of_agrees (node other : Node) (agree : node.agrees other) : node = other := by
  match node, other with
  | .text text, .text text' =>
    simp only [Node.agrees, beq_iff_eq] at agree
    rw [agree]
  | .value escaped source, .value escaped' source' =>
    simp only [Node.agrees, Bool.and_eq_true, beq_iff_eq] at agree
    rw [agree.1, source.eq_of_agrees source' agree.2]
  | .call escaped name args, .call escaped' name' args' =>
    simp only [Node.agrees, Bool.and_eq_true, beq_iff_eq] at agree
    rw [agree.1.1, agree.1.2, eq_of_argsAgree args args' agree.2]
  | .block name args body otherwise, .block name' args' body' otherwise' =>
    simp only [Node.agrees, Bool.and_eq_true, beq_iff_eq] at agree
    obtain ⟨⟨⟨sameName, sameArgs⟩, sameBody⟩, sameOtherwise⟩ := agree
    rw [sameName, eq_of_argsAgree args args' sameArgs, eq_of_nodesAgree body body' sameBody,
      eq_of_nodesAgree otherwise otherwise' sameOtherwise]

theorem eq_of_nodesAgree (nodes others : List Node) (agree : nodesAgree nodes others) :
    nodes = others := by
  match nodes, others with
  | [], [] => rfl
  | first :: rest, first' :: rest' =>
    simp only [nodesAgree, Bool.and_eq_true] at agree
    rw [first.eq_of_agrees first' agree.1, eq_of_nodesAgree rest rest' agree.2]

end

end PageSketch.Template
