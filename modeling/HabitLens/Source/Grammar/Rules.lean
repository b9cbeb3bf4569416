import HabitLens.Source.Grammar.Parser

/-!
The rules that rules of a lower level refer back to. Every rule is a function of this record, so
that the grammar can be written from the bottom up and its recursion is tied in one place.
-/

namespace HabitLens.Source.Grammar

inductive ExprRule where
  | expression
  | namedExpression
  | starExpression
  | disjunction
  | inversion
  | bitOr
  | factor
  | starTarget
  | targetWithStarAtom
  | singleTarget
  | delTarget

structure Rules where
  expr : ExprRule → Parser Expr
  pattern : Parser Pattern
  block : Parser (List Stmt)
  field : FieldText → Except Fault Expr

namespace Rules

variable (r : Rules)

def expression : Parser Expr := r.expr .expression

def namedExpression : Parser Expr := r.expr .namedExpression

def starExpression : Parser Expr := r.expr .starExpression

def disjunction : Parser Expr := r.expr .disjunction

def inversion : Parser Expr := r.expr .inversion

def bitOr : Parser Expr := r.expr .bitOr

def factor : Parser Expr := r.expr .factor

def starTarget : Parser Expr := r.expr .starTarget

def targetWithStarAtom : Parser Expr := r.expr .targetWithStarAtom

def singleTarget : Parser Expr := r.expr .singleTarget

def delTarget : Parser Expr := r.expr .delTarget

end Rules

end HabitLens.Source.Grammar
