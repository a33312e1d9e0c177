import Mathlib.Data.List.Basic

/-
  Ordered forests by first child and next sibling, and
  cursors into them.

  A pointer to a node is the forest of the node and of the
  siblings behind it; a pointer that is null is the empty
  forest.  A cursor also remembers, for every ancestor of the
  node, the siblings behind that ancestor.

  Key definitions include:
    * `Forest`, with `children`, `next` and `siblings`
    * `Forest.labels`
    * `Cursor`, with `children`, `next` and `parentNext`
-/

------------------------------------------------------------
-- Forests
------------------------------------------------------------

/- A first node with its children, and the rest. -/
inductive Forest (α : Type) where
  | nil
  | cons (label : α) (children rest : Forest α)
deriving DecidableEq, Repr

namespace Forest

variable {α : Type}

def isNil : Forest α → Bool
| nil => true
| cons _ _ _ => false

/- The children of the first node. -/
def children : Forest α → Forest α
| nil => nil
| cons _ children _ => children

/- The siblings behind the first node. -/
def next : Forest α → Forest α
| nil => nil
| cons _ _ rest => rest

/- The labels in document order. -/
def labels : Forest α → List α
| nil => []
| cons a children rest =>
    a :: (children.labels ++ rest.labels)

def append : Forest α → Forest α → Forest α
| nil, after => after
| cons a children rest, after =>
    cons a children (rest.append after)

/- A single tree. -/
def node (a : α) (children : List (Forest α)) : Forest α :=
  cons a (children.foldr append nil) nil

@[simp] theorem isNil_nil :
    (nil : Forest α).isNil = true := rfl

@[simp] theorem isNil_cons
    (a : α)
    (children rest : Forest α) :
    (cons a children rest).isNil = false := rfl

@[simp] theorem children_cons
    (a : α)
    (children rest : Forest α) :
    (cons a children rest).children = children := rfl

@[simp] theorem next_cons
    (a : α)
    (children rest : Forest α) :
    (cons a children rest).next = rest := rfl

theorem isNil_iff
    {forest : Forest α} :
    forest.isNil = true ↔ forest = nil := by
  cases forest with
  | nil => simp
  | cons a children rest => simp

@[simp] theorem labels_nil :
    (nil : Forest α).labels = [] := rfl

@[simp] theorem labels_cons
    (a : α)
    (children rest : Forest α) :
    (cons a children rest).labels =
      a :: (children.labels ++ rest.labels) := rfl

end Forest

------------------------------------------------------------
-- Cursors
------------------------------------------------------------

/- A pointer, and what is behind each ancestor. -/
structure Cursor (α : Type) where
  here : Forest α
  above : List (Forest α)

namespace Cursor

variable {α : Type}

/- The first child. -/
def children (c : Cursor α) : Cursor α :=
  ⟨c.here.children, c.here.next :: c.above⟩

/- The next sibling. -/
def next (c : Cursor α) : Cursor α :=
  ⟨c.here.next, c.above⟩

/- The next sibling of the parent. -/
def parentNext (c : Cursor α) : Cursor α :=
  match c.above with
  | [] => ⟨.nil, []⟩
  | rest :: above => ⟨rest, above⟩

@[simp] theorem children_cons
    (a : α)
    (children rest : Forest α)
    (above : List (Forest α)) :
    Cursor.children ⟨.cons a children rest, above⟩ =
      ⟨children, rest :: above⟩ := rfl

@[simp] theorem next_cons
    (a : α)
    (children rest : Forest α)
    (above : List (Forest α)) :
    Cursor.next ⟨.cons a children rest, above⟩ =
      ⟨rest, above⟩ := rfl

@[simp] theorem parentNext_cons
    (here rest : Forest α)
    (above : List (Forest α)) :
    Cursor.parentNext ⟨here, rest :: above⟩ =
      ⟨rest, above⟩ := rfl

end Cursor
