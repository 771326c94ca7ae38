/-! # Finite maps

A table has at most one value for each key. Its order is that in which keys were bound last.
-/
namespace Storefront

structure Table (κ α : Type) where
  entries : List (κ × α) := []
deriving DecidableEq

namespace Table
variable {κ α : Type} [DecidableEq κ]

def get? (t : Table κ α) (key : κ) : Option α := t.entries.lookup key

def erase (t : Table κ α) (key : κ) : Table κ α := ⟨t.entries.filter (·.1 != key)⟩

def insert (t : Table κ α) (key : κ) (value : α) : Table κ α := ⟨(t.erase key).entries ++ [(key, value)]⟩

def size (t : Table κ α) : Nat := t.entries.length

theorem lookup_filter (entries : List (κ × α)) (a b : κ) :
    (entries.filter (·.1 != a)).lookup b = if b = a then none else entries.lookup b := by
  induction entries with
  | nil => simp
  | cons e rest ih =>
    obtain ⟨k, v⟩ := e
    by_cases hk : k = a <;> by_cases hb : b = k <;> grind

theorem get?_erase (t : Table κ α) (a b : κ) :
    (t.erase a).get? b = if b = a then none else t.get? b := lookup_filter t.entries a b

theorem get?_insert (t : Table κ α) (a b : κ) (v : α) :
    (t.insert a v).get? b = if b = a then some v else t.get? b := by
  have h := get?_erase t a b
  simp only [get?, insert, List.lookup_append] at h ⊢
  rw [h]
  by_cases hb : b = a <;> grind

end Table
end Storefront
