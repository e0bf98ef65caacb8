import CssTheming.Text.Basic

/-!
# Entries

A mapping from names to values whose order counts: the entries come in the order in which their
names were first set. Setting a name anew replaces its value where it stands.

## Main statements

* `Entries.keys_set`: setting an entry keeps the order of the names. -/

namespace CssTheming

/-- Values by name, in the order in which the names were first set. -/
abbrev Entries (α : Type) := List (Text × α)

namespace Entries

variable {α : Type}

/-- The names, in order. -/
def keys (entries : Entries α) : List Text :=
  entries.map (·.1)

/-- The value of `name`, if it has one. -/
def get? (entries : Entries α) (name : Text) : Option α :=
  entries.lookup name

/-- Whether `name` has a value. -/
def contains (entries : Entries α) (name : Text) : Bool :=
  entries.any (·.1 == name)

/-- Gives `name` a value: in place if it has one, and at the end otherwise. -/
def set : Entries α → Text → α → Entries α
  | [], name, value => [(name, value)]
  | entry :: entries, name, value =>
    if entry.1 = name then (name, value) :: entries else entry :: set entries name value

/-- Gives `name` a value at the end, unless it has one. -/
def setIfNew (entries : Entries α) (name : Text) (value : α) : Entries α :=
  if entries.contains name then entries else entries ++ [(name, value)]

/-- The entries after setting those of `later` one by one. -/
def merge (entries later : Entries α) : Entries α :=
  later.foldl (fun merged entry => merged.set entry.1 entry.2) entries

/-- Setting an entry keeps the names in their order, and a new one comes behind the others. -/
theorem keys_set (entries : Entries α) (name : Text) (value : α) :
    (entries.set name value).keys =
      if name ∈ entries.keys then entries.keys else entries.keys ++ [name] := by
  induction entries with
  | nil => simp [set, keys]
  | cons entry entries ih =>
    rw [set]
    split
    · -- the value is replaced where it stands
      next he => simp [keys, he]
    · next he =>
      -- an earlier entry has another name, so it is passed over
      have he' : ¬ name = entry.1 := fun h => he h.symm
      simp only [keys, List.map_cons, List.mem_cons, he', false_or] at ih ⊢
      rw [ih]
      split <;> simp_all

end Entries

end CssTheming
