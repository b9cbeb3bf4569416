/-!
What the page shows: elements with a style that hold texts and other elements. An element may have
been given markup as a text instead, which is not looked into.
-/

namespace HabitLens.Page

inductive Markup where
  | text (s : String)
  | element (tag style markup : String) (highlighted : Bool) (children : List Markup)

namespace Markup

def node (tag style : String) (children : List Markup) : Markup :=
  .element tag style "" false children

def content (s : String) : List Markup :=
  if s.isEmpty then [] else [.text s]

def label (tag style s : String) : Markup :=
  node tag style (content s)

def given (tag style markup : String) : Markup :=
  .element tag style markup false []

mutual

def givens : Markup → List String
  | .text _ => []
  | .element _ _ markup _ children =>
    (if markup.isEmpty then [] else [markup]) ++ givensAll children

def givensAll : List Markup → List String
  | [] => []
  | m :: ms => givens m ++ givensAll ms

end

end Markup

end HabitLens.Page
