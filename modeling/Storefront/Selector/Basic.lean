/-! # Selectors

A selector is a chain of compounds: the rightmost describes the element itself, and each further one
an element that stands in a relation to the one on its right.
-/
namespace Storefront

namespace Selector

inductive Relation
  | descendant
  | child
  | nextSibling
  | laterSibling
deriving DecidableEq, Repr

inductive Compare
  | equals
  | includes
  | dash
  | startsWith
  | endsWith
  | contains
deriving DecidableEq, Repr

/-- Whether case counts in a value: as told, or else as is usual for the attribute. -/
inductive CaseRule
  | sensitive
  | insensitive
  | usual
deriving DecidableEq, Repr

/-- Positions `a * n + b` among siblings. -/
structure Nth where
  a : Int
  b : Int
  fromEnd : Bool
  ofType : Bool
deriving DecidableEq, Repr

end Selector

mutual
inductive Selector.Part
  | localName (name : String)
  | noNamespace
  | any
  | id (name : String)
  | cls (name : String)
  | hasAttr (anyNamespace : Bool) (name : String)
  | attr (anyNamespace : Bool) (name : String) (op : Selector.Compare) (value : String)
      (rule : Selector.CaseRule)
  | root
  | empty
  | scope
  | nth (n : Selector.Nth)
  | only (ofType : Bool)
  | is (list : List Selector)
  | not (list : List Selector)
  | has (list : List Selector)
  /-- The element that a relative selector starts from. -/
  | anchor

/-- A compound, and what stands to its left. -/
inductive Selector
  | compound (parts : List Selector.Part)
  | related (left : Selector) (relation : Selector.Relation) (parts : List Selector.Part)
end

instance : Inhabited Selector := ⟨.compound []⟩

end Storefront
