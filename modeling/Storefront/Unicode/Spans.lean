/-! # Sorted tables

Look-up in tables that are sorted by their first key.
-/
namespace Storefront.Unicode

/-- Halves the stretch `[low, high)` until it holds one index: the last whose key is at most `n`,
if the key at `low` is. -/
def bisect {α : Type} (key : α → Nat) (table : Array α) (n : Nat) :
    (fuel : Nat) → (low high : Nat) → Nat
  | 0, low, _ => low
  | fuel + 1, low, high =>
    if high ≤ low + 1 then low
    else
      let middle := (low + high) / 2
      match table[middle]? with
      | some entry =>
        if key entry ≤ n then bisect key table n fuel middle high
        else bisect key table n fuel low middle
      | none => low

def lastAtMost {α : Type} (key : α → Nat) (table : Array α) (n : Nat) : Option α :=
  match table[bisect key table n 32 0 table.size]? with
  | some entry => if key entry ≤ n then some entry else none
  | none => none

def inSpans (table : Array (Nat × Nat)) (n : Nat) : Bool :=
  match lastAtMost (·.1) table n with
  | some (_, last) => decide (n ≤ last)
  | none => false

end Storefront.Unicode
