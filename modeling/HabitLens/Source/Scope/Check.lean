import HabitLens.Source.Scope.Walk

/-!
Declarations that reach into outer scopes, checked against the names there.
-/

namespace HabitLens.Source.Scope

def directiveLine (s : Scope) (name : String) : Nat :=
  (s.directives.lookup name).getD 0

/-- What names an inner scope can reach: none at all stands for the outermost scope. -/
abbrev Reach : Type := Option (List String)

/-- Checks the names of a scope in order; the result is what is bound here and what is in reach. -/
def checkNames (s : Scope) (bound : Reach) (own : List String) :
    Table NameUse → Except Fault (List String × Reach)
  | [] => .ok (own, bound)
  | (name, use) :: rest =>
    if use.isGlobal then
      if use.isNonlocal then
        .error (.onLine (s.directiveLine name) s!"name '{name}' is nonlocal and global")
      else checkNames s (bound.map (·.filter (· != name))) own rest
    else if use.isNonlocal then
      match bound with
      | none =>
        .error (.onLine (s.directiveLine name) "nonlocal declaration not allowed at module level")
      | some names =>
        if names.contains name then checkNames s bound own rest
        else .error (.onLine (s.directiveLine name) s!"no binding for nonlocal '{name}' found")
    else if use.isBound then checkNames s bound (name :: own) rest
    else checkNames s bound own rest

mutual

def check (bound : Reach) : Scope → Except Fault Unit
  | ⟨kind, comp, names, directives, inTarget, depth, children⟩ => do
    let s : Scope := ⟨kind, comp, names, directives, inTarget, depth, []⟩
    let (own, after) ← checkNames s bound [] names
    let reach := match kind with
      | .cls => "__class__" :: bound.getD []
      | .function => own ++ after.getD []
      | _ => after.getD []
    checkAll (some reach) children

def checkAll (bound : Reach) : List Scope → Except Fault Unit
  | [] => .ok ()
  | s :: rest => do
    check bound s
    checkAll bound rest

end

def checkProgram (body : List Stmt) (lazyAnnots : Bool) (depth : Nat) : Except Fault Unit := do
  let visitor := Visitor.toDepth depth
  let (_, s) ← (visitor.stmts body).run { stack := [{ kind := .module }], lazyAnnots }
  check none (s.stack.headD { kind := .module })

end HabitLens.Source.Scope
