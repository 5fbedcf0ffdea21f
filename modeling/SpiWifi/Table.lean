/-!
# Finite tables

A finite map as a list of pairs in the order in which the keys first came. The first pair of a key
counts, and setting a key that is there replaces its value.
-/

namespace SpiWifi

abbrev Table (κ α : Type) := List (κ × α)

namespace Table

variable {κ α : Type} [DecidableEq κ]

def get? (k : κ) : Table κ α → Option α
  | [] => none
  | (key, value) :: rest => if key = k then some value else get? k rest

def set (k : κ) (v : α) : Table κ α → Table κ α
  | [] => [(k, v)]
  | (key, value) :: rest => if key = k then (key, v) :: rest else (key, value) :: set k v rest

@[simp] theorem get?_set_self (k : κ) (v : α) (t : Table κ α) : get? k (set k v t) = some v := by
  induction t with
  | nil => simp [set, get?]
  | cons pair rest ih =>
    obtain ⟨key, value⟩ := pair
    by_cases h : key = k <;> simp [set, get?, h, ih]

theorem get?_set_ne {k k' : κ} (h : k' ≠ k) (v : α) (t : Table κ α) :
    get? k' (set k v t) = get? k' t := by
  induction t with
  | nil => simp [set, get?, h.symm]
  | cons pair rest ih =>
    obtain ⟨key, value⟩ := pair
    by_cases hk : key = k
    · subst hk
      simp [set, get?, h.symm]
    · simp only [set, hk, if_false, get?, ih]

end Table

end SpiWifi
