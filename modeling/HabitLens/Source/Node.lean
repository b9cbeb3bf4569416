import HabitLens.Source.Tree

/-!
The nodes of a program's tree, their children in order, and the walk over a tree level by level.
-/

namespace HabitLens.Source

inductive Node where
  | module (body : List Stmt)
  | stmt (s : Stmt)
  | expr (e : Expr)
  | params (p : Params)
  | param (p : Param)
  | keyword (k : Keyword)
  | comprehension (c : Comprehension)
  | handler (h : Handler)
  | matchCase (c : MatchCase)
  | withItem (w : WithItem)
  | pattern (p : Pattern)

def Expr.children : Expr → List Node
  | boolOp _ _ values => values.map .expr
  | named _ target value => [.expr target, .expr value]
  | binary _ left _ right => [.expr left, .expr right]
  | unary _ _ operand => [.expr operand]
  | lambda _ params body => [.params params, .expr body]
  | ifElse _ test body orelse => [.expr test, .expr body, .expr orelse]
  | dict _ keys values => (keys.filterMap id).map .expr ++ values.map .expr
  | set _ elements => elements.map .expr
  | listComp _ element clauses => .expr element :: clauses.map .comprehension
  | setComp _ element clauses => .expr element :: clauses.map .comprehension
  | dictComp _ key value clauses => .expr key :: .expr value :: clauses.map .comprehension
  | generator _ element clauses => .expr element :: clauses.map .comprehension
  | await _ value => [.expr value]
  | yield _ value => value.toList.map .expr
  | yieldFrom _ value => [.expr value]
  | compare _ left _ others => .expr left :: others.map .expr
  | call _ function args keywords =>
    .expr function :: (args.map .expr ++ keywords.map .keyword)
  | formatted _ value _ spec => .expr value :: spec.toList.map .expr
  | joined _ values => values.map .expr
  | constant .. => []
  | attr _ value _ _ => [.expr value]
  | subscript _ value index _ => [.expr value, .expr index]
  | starred _ value _ => [.expr value]
  | name .. => []
  | list _ elements _ => elements.map .expr
  | tuple _ elements _ => elements.map .expr
  | slice _ lower upper step =>
    lower.toList.map .expr ++ upper.toList.map .expr ++ step.toList.map .expr

def Pattern.children : Pattern → List Node
  | value _ expr => [.expr expr]
  | singleton .. => []
  | sequence _ patterns => patterns.map .pattern
  | mapping _ keys patterns _ => keys.map .expr ++ patterns.map .pattern
  | cls _ name patterns _ named =>
    .expr name :: (patterns.map .pattern ++ named.map .pattern)
  | star .. => []
  | capture _ pattern _ => pattern.toList.map .pattern
  | alternatives _ patterns => patterns.map .pattern

def Stmt.children : Stmt → List Node
  | functionDef _ _ _ params body decorators returns =>
    .params params :: (body.map .stmt ++ decorators.map .expr ++ returns.toList.map .expr)
  | classDef _ _ bases keywords body decorators =>
    bases.map .expr ++ keywords.map .keyword ++ body.map .stmt ++ decorators.map .expr
  | ret _ value => value.toList.map .expr
  | delete _ targets => targets.map .expr
  | assign _ targets value => targets.map .expr ++ [.expr value]
  | augAssign _ target _ value => [.expr target, .expr value]
  | annAssign _ target annot value _ =>
    .expr target :: .expr annot :: value.toList.map .expr
  | forLoop _ _ target iter body orelse =>
    .expr target :: .expr iter :: (body.map .stmt ++ orelse.map .stmt)
  | whileLoop _ test body orelse => .expr test :: (body.map .stmt ++ orelse.map .stmt)
  | cond _ test body orelse => .expr test :: (body.map .stmt ++ orelse.map .stmt)
  | withBlock _ _ items body => items.map .withItem ++ body.map .stmt
  | matchOn _ subject cases => .expr subject :: cases.map .matchCase
  | raise _ exc cause => exc.toList.map .expr ++ cause.toList.map .expr
  | tryBlock _ _ body handlers orelse finalbody =>
    body.map .stmt ++ handlers.map .handler ++ orelse.map .stmt ++ finalbody.map .stmt
  | assert _ test message => .expr test :: message.toList.map .expr
  | imports .. | importFrom .. | global .. | nonlocal .. => []
  | expr _ value => [.expr value]
  | pass _ | breakLoop _ | continueLoop _ => []

namespace Node

def children : Node → List Node
  | module body => body.map .stmt
  | stmt s => s.children
  | expr e => e.children
  | params (.mk posOnly args vararg kwOnly kwDefaults kwarg defaults) =>
    posOnly.map .param ++ args.map .param ++ vararg.toList.map .param ++ kwOnly.map .param ++
      (kwDefaults.filterMap id).map .expr ++ kwarg.toList.map .param ++ defaults.map .expr
  | param (.mk _ _ annot) => annot.toList.map .expr
  | keyword (.mk _ _ value) => [.expr value]
  | comprehension (.mk _ target iter conditions) =>
    .expr target :: .expr iter :: conditions.map .expr
  | handler (.mk _ type _ body) => type.toList.map .expr ++ body.map .stmt
  | matchCase (.mk shape guard body) =>
    .pattern shape :: (guard.toList.map .expr ++ body.map .stmt)
  | withItem ⟨context, target⟩ => .expr context :: target.toList.map .expr
  | pattern p => p.children

/-- A measure of a tree that exceeds what its children have together. -/
noncomputable def weight : Node → Nat
  | module body => sizeOf body
  | stmt s => sizeOf s
  | expr e => sizeOf e
  | params p => sizeOf p
  | param p => sizeOf p
  | keyword k => sizeOf k
  | comprehension c => sizeOf c
  | handler h => sizeOf h
  | matchCase c => sizeOf c
  | withItem w => sizeOf w
  | pattern p => sizeOf p

noncomputable def totalWeight : List Node → Nat
  | [] => 0
  | n :: ns => n.weight + totalWeight ns

@[simp]
theorem totalWeight_nil : totalWeight [] = 0 := rfl

@[simp]
theorem totalWeight_cons (n : Node) (ns : List Node) :
    totalWeight (n :: ns) = n.weight + totalWeight ns := rfl

@[simp]
theorem totalWeight_append (as bs : List Node) :
    totalWeight (as ++ bs) = totalWeight as + totalWeight bs := by
  induction as with
  | nil => simp
  | cons n as ih => simp [ih, Nat.add_assoc]

theorem totalWeight_map_lt [SizeOf α] (f : α → Node) (h : ∀ a, (f a).weight = sizeOf a)
    (as : List α) :
    totalWeight (as.map f) < sizeOf as := by
  induction as with
  | nil => simp
  | cons a as ih => simp [h]; omega

theorem totalWeight_toList_lt [SizeOf α] (f : α → Node) (h : ∀ a, (f a).weight = sizeOf a)
    (o : Option α) : totalWeight (o.toList.map f) < sizeOf o := by
  cases o <;> simp [h]

theorem totalWeight_filterMap_lt [SizeOf α] (f : α → Node) (h : ∀ a, (f a).weight = sizeOf a)
    (os : List (Option α)) : totalWeight ((os.filterMap id).map f) < sizeOf os := by
  induction os with
  | nil => simp
  | cons o os ih => cases o <;> grind [totalWeight_cons, List.cons.sizeOf_spec]

theorem totalWeight_children_expr (e : Expr) : totalWeight e.children < sizeOf e := by
  have exprs := totalWeight_map_lt Node.expr (fun _ => rfl)
  have clauses := totalWeight_map_lt Node.comprehension (fun _ => rfl)
  have keywords := totalWeight_map_lt Node.keyword (fun _ => rfl)
  have optional := totalWeight_toList_lt Node.expr (fun _ => rfl)
  have keyed := totalWeight_filterMap_lt Node.expr (fun _ => rfl)
  cases e <;> simp [Expr.children, weight] <;> grind

theorem totalWeight_children_pattern (p : Pattern) : totalWeight p.children < sizeOf p := by
  have exprs := totalWeight_map_lt Node.expr (fun _ => rfl)
  have patterns := totalWeight_map_lt Node.pattern (fun _ => rfl)
  have optional := totalWeight_toList_lt Node.pattern (fun _ => rfl)
  cases p <;> simp [Pattern.children, weight] <;> grind

theorem totalWeight_children_stmt (s : Stmt) : totalWeight s.children < sizeOf s := by
  have exprs := totalWeight_map_lt Node.expr (fun _ => rfl)
  have stmts := totalWeight_map_lt Node.stmt (fun _ => rfl)
  have keywords := totalWeight_map_lt Node.keyword (fun _ => rfl)
  have handlers := totalWeight_map_lt Node.handler (fun _ => rfl)
  have arms := totalWeight_map_lt Node.matchCase (fun _ => rfl)
  have items := totalWeight_map_lt Node.withItem (fun _ => rfl)
  have optional := totalWeight_toList_lt Node.expr (fun _ => rfl)
  cases s <;> simp [Stmt.children, weight] <;> grind

theorem totalWeight_children_params (p : Params) :
    totalWeight (Node.params p).children < sizeOf p := by
  have exprs := totalWeight_map_lt Node.expr (fun _ => rfl)
  have ps := totalWeight_map_lt Node.param (fun _ => rfl)
  have optional := totalWeight_toList_lt Node.param (fun _ => rfl)
  have keyed := totalWeight_filterMap_lt Node.expr (fun _ => rfl)
  cases p
  simp [children]
  grind

theorem totalWeight_children_lt (n : Node) : totalWeight n.children < n.weight := by
  have exprs := totalWeight_map_lt Node.expr (fun _ => rfl)
  have stmts := totalWeight_map_lt Node.stmt (fun _ => rfl)
  have optional := totalWeight_toList_lt Node.expr (fun _ => rfl)
  cases n with
  | module body => exact stmts body
  | stmt s => exact totalWeight_children_stmt s
  | expr e => exact totalWeight_children_expr e
  | params p => exact totalWeight_children_params p
  | pattern p => exact totalWeight_children_pattern p
  | param p => cases p; simp [children, weight]; grind
  | keyword k => cases k; grind [children, weight, totalWeight_cons, totalWeight_nil]
  | comprehension c => cases c; simp [children, weight]; grind
  | handler h => cases h; simp [children, weight]; grind
  | matchCase c => cases c; simp [children, weight]; grind
  | withItem w => cases w; simp [children, weight]; grind

theorem totalWeight_flatMap_children_le (ns : List Node) :
    totalWeight (ns.flatMap children) ≤ totalWeight ns := by
  induction ns with
  | nil => simp
  | cons n ns ih =>
    have := totalWeight_children_lt n
    simp
    omega

theorem totalWeight_flatMap_children_lt (n : Node) (ns : List Node) :
    totalWeight ((n :: ns).flatMap children) < totalWeight (n :: ns) := by
  have := totalWeight_children_lt n
  have := totalWeight_flatMap_children_le ns
  simp
  omega

def levels : List Node → List Node
  | [] => []
  | n :: ns => n :: ns ++ levels ((n :: ns).flatMap children)
termination_by ns => totalWeight ns
decreasing_by exact totalWeight_flatMap_children_lt n ns

/-- The node and all nodes below it, level by level. -/
def walk (n : Node) : List Node :=
  levels [n]

end Node

/-- A node met on a walk, with the nodes above it, the nearest first. -/
structure Visit where
  node : Node
  above : List Node

namespace Visit

/-- The children of a visited node. If nodes are not linked, nothing is known above them. -/
def below (linked : Bool) (v : Visit) : List Visit :=
  v.node.children.map fun c => ⟨c, if linked then v.node :: v.above else []⟩

theorem node_below (linked : Bool) (v : Visit) :
    (v.below linked).map (·.node) = v.node.children := by
  simp [below, Function.comp_def]

theorem node_flatMap_below (linked : Bool) (vs : List Visit) :
    (vs.flatMap (below linked)).map (·.node) = (vs.map (·.node)).flatMap Node.children := by
  simp only [List.map_flatMap, List.flatMap_map, node_below]

def levels (linked : Bool) : List Visit → List Visit
  | [] => []
  | v :: vs => v :: vs ++ levels linked ((v :: vs).flatMap (below linked))
termination_by vs => Node.totalWeight (vs.map (·.node))
decreasing_by
  rw [node_flatMap_below]
  exact Node.totalWeight_flatMap_children_lt v.node (vs.map (·.node))

end Visit

def Node.visits (linked : Bool) (n : Node) : List Visit :=
  Visit.levels linked [⟨n, []⟩]

end HabitLens.Source
