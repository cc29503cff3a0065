/-!
# Names grouped under names

An index lists, under each key, the names added to it, in the order of the additions. A key
that nothing was added to has the empty list.
-/

namespace Devirt

/-- The keys with their lists of names. -/
structure NameIndex where
  groups : List (String × List String) := []
deriving DecidableEq, Repr

namespace NameIndex

/-- The groups with a name added at the end of one of them. -/
def addTo (key name : String) : List (String × List String) → List (String × List String)
  | [] => [(key, [name])]
  | (other, names) :: rest =>
    if other = key then (other, names ++ [name]) :: rest
    else (other, names) :: addTo key name rest

/-- The names of the first group with this key. -/
def namesUnder (key : String) : List (String × List String) → List String
  | [] => []
  | (other, names) :: rest => if other = key then names else namesUnder key rest

/-- The index with a name added under the key. -/
def add (index : NameIndex) (key name : String) : NameIndex := ⟨addTo key name index.groups⟩

/-- The names added under the key, first added first. -/
def names (index : NameIndex) (key : String) : List String := namesUnder key index.groups

/-- Adding a name under a key extends that key's list and leaves the others as they are. -/
theorem names_add (index : NameIndex) (key name other : String) :
    (index.add key name).names other =
      index.names other ++ if other = key then [name] else [] := by
  obtain ⟨groups⟩ := index
  simp only [add, names]
  induction groups with
  | nil => simp [addTo, namesUnder, eq_comm]
  | cons group rest ih =>
    obtain ⟨first, held⟩ := group
    by_cases hf : first = key <;> by_cases ho : first = other <;>
      simp_all [addTo, namesUnder, eq_comm]

end NameIndex

end Devirt
