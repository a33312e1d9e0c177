import Mathlib.Data.List.AList

/-
  Finite maps with values of one type: association lists
  without duplicate keys.

  Key definitions include:
    * `Dict`
    * `Dict.isEmpty`, `Dict.values`

  Key theorems include:
    * `Dict.lookup_insert_eq`, `Dict.lookup_erase_eq`
    * `Dict.isEmpty_iff`, `Dict.mem_values_iff`
-/

------------------------------------------------------------
-- Finite Maps
------------------------------------------------------------

/- A finite map. -/
abbrev Dict (κ β : Type) := AList (fun _ : κ => β)

namespace Dict

variable {κ β : Type}

def isEmpty (d : Dict κ β) : Bool :=
  d.entries.isEmpty

/- The values in the order of the list. -/
def values (d : Dict κ β) : List β :=
  d.entries.map Sigma.snd

variable [DecidableEq κ]

theorem lookup_empty (k : κ) :
    (∅ : Dict κ β).lookup k = none :=
  AList.lookup_empty k

theorem lookup_insert_eq
    (d : Dict κ β)
    (k k' : κ)
    (v : β) :
    (d.insert k v).lookup k' =
      if k' = k then some v else d.lookup k' := by
  by_cases hKey : k' = k
  · rw [hKey, if_pos rfl]
    exact AList.lookup_insert d
  · rw [if_neg hKey]
    exact AList.lookup_insert_ne hKey

theorem lookup_erase_eq
    (d : Dict κ β)
    (k k' : κ) :
    (d.erase k).lookup k' =
      if k' = k then none else d.lookup k' := by
  by_cases hKey : k' = k
  · rw [hKey, if_pos rfl]
    exact AList.lookup_erase k d
  · rw [if_neg hKey]
    exact AList.lookup_erase_ne hKey

/- An empty map has no value at any key. -/
theorem isEmpty_iff
    {d : Dict κ β} :
    d.isEmpty = true ↔ ∀ k, d.lookup k = none := by
  unfold isEmpty
  rw [List.isEmpty_iff]
  constructor
  · intro hNil k
    rw [AList.lookup_eq_none, AList.mem_keys, AList.keys, hNil]
    exact List.not_mem_nil
  · intro hAll
    rw [List.eq_nil_iff_forall_not_mem]
    rintro ⟨k, v⟩ hMem
    have hLookup : d.lookup k = some v :=
      AList.mem_lookup_iff.mpr hMem
    rw [hAll k] at hLookup
    cases hLookup

theorem mem_values_iff
    {d : Dict κ β}
    {v : β} :
    v ∈ d.values ↔ ∃ k, d.lookup k = some v := by
  unfold values
  rw [List.mem_map]
  constructor
  · rintro ⟨⟨k, w⟩, hMem, hEq⟩
    rw [← hEq]
    exact ⟨k, AList.mem_lookup_iff.mpr hMem⟩
  · rintro ⟨k, hLookup⟩
    exact ⟨⟨k, v⟩, AList.mem_lookup_iff.mp hLookup, rfl⟩

end Dict
