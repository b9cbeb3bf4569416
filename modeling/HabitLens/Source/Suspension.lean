import HabitLens.Source.Node

/-!
Which functions are suspended: those whose own scope waits for something or yields.
-/

namespace HabitLens.Source

/-- The defaults of parameters, which belong to the scope outside the function. -/
def Params.outer (ps : Params) : List Node :=
  ps.defaults.map .expr ++ (ps.kwDefaults.filterMap id).map .expr

def Params.annots (ps : Params) : List Node :=
  (ps.posOnly ++ ps.args ++ ps.vararg.toList ++ ps.kwOnly ++ ps.kwarg.toList).flatMap fun p =>
    (Node.param p).children

def outerIterable (clauses : List Comprehension) : List Node :=
  (clauses.take 1).map fun c => .expr c.iter

def Node.inScope : Node → List Node
  | .stmt (.functionDef _ _ _ ps _ decorators returns) =>
    ps.outer ++ ps.annots ++ decorators.map .expr ++ returns.toList.map .expr
  | .stmt (.classDef _ _ bases keywords _ decorators) =>
    bases.map .expr ++ keywords.map .keyword ++ decorators.map .expr
  | .expr (.lambda _ ps _) => ps.outer
  | .expr (.listComp _ _ clauses) | .expr (.setComp _ _ clauses)
  | .expr (.dictComp _ _ _ clauses) | .expr (.generator _ _ clauses) => outerIterable clauses
  | n => n.children

def comprehensionNodes (clauses : List Comprehension) (parts : List Expr) : List Node :=
  match clauses with
  | [] => []
  | first :: others =>
    .expr first.target :: first.conditions.map .expr ++ others.map .comprehension ++
      parts.map .expr

def Node.yields : Nat → Node → Bool
  | 0, _ => false
  | _ + 1, .expr (.yield ..) | _ + 1, .expr (.yieldFrom ..) => true
  | depth + 1, n => n.inScope.any (yields depth)

mutual

def Node.awaits : Nat → Node → Bool
  | 0, _ => false
  | _ + 1, .expr (.await ..) => true
  | depth + 1, n =>
    n.inScope.any (Node.awaits depth) ||
      match n with
      | .expr (.listComp _ e clauses) | .expr (.setComp _ e clauses) =>
        comprehensionAwaits clauses [e] depth
      | .expr (.dictComp _ k v clauses) => comprehensionAwaits clauses [k, v] depth
      | _ => false

def comprehensionAwaits (clauses : List Comprehension) (parts : List Expr) : Nat → Bool
  | 0 => false
  | depth + 1 =>
    clauses.any Comprehension.isAsync ||
      (comprehensionNodes clauses parts).any (Node.awaits depth)

end

end HabitLens.Source
