import Storefront.Mold.Work

/-! # Pipelines of molds

The molds of a pipeline work on one buffer, from left to right, up to the first that fails.
-/
namespace Storefront.Mold

def apply (m : Mold) (s : List Char) : Except Fault (List Char) :=
  match m.work.run s with
  | .ok () s => .ok s
  | .error f _ => .error f

/-- What is left in the buffer after a pipeline, and the fault that stopped it, if one did. -/
def run : List Mold → List Char → List Char × Option Fault
  | [], s => (s, none)
  | m :: rest, s =>
    match m.work.run s with
    | .ok () s => run rest s
    | .error f s => (s, some f)

/-- The buffer after each mold, up to the fault that stops the pipeline. -/
def trace : List Mold → List Char → List (Except Fault (List Char))
  | [], _ => []
  | m :: rest, s =>
    match m.work.run s with
    | .ok () s => .ok s :: trace rest s
    | .error f _ => [.error f]

def applyAll (molds : List Mold) (s : List Char) : Except Fault (List Char) :=
  match run molds s with
  | (s, none) => .ok s
  | (_, some f) => .error f

def applyString (molds : List Mold) (s : String) : Except Fault String :=
  (applyAll molds s.toList).map String.ofList

end Storefront.Mold
