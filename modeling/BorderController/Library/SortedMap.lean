import Mathlib.Data.List.Sort

/-
  Maps as lists of entries sorted by key, and how a sequence
  of entries is collected in one.

  Key definitions include:
    * `SortedMap.insert`
    * `SortedMap.ofEntries`
    * `SortedMap.Sorted`

  Key theorems include:
    * `SortedMap.sorted_ofEntries`
    * `SortedMap.ofEntries_perm`
    * `SortedMap.ofEntries_of_sorted`
-/

------------------------------------------------------------
-- Insertion
------------------------------------------------------------

namespace SortedMap

variable {κ β : Type}
variable [LinearOrder κ]

/- Set the value of a key. -/
def insert
    (key : κ)
    (value : β) :
    List (κ × β) → List (κ × β)
  | [] => [(key, value)]
  | entry :: map =>
      if key < entry.1 then
        (key, value) :: entry :: map
      else if key = entry.1 then
        (key, value) :: map
      else
        entry :: insert key value map

/- Later entries of a key replace earlier ones. -/
def ofEntries (entries : List (κ × β)) : List (κ × β) :=
  entries.foldl
    (fun map entry => insert entry.1 entry.2 map) []

def Sorted (map : List (κ × β)) : Prop :=
  map.Pairwise fun a b => a.1 < b.1

variable {key : κ}
variable {value : β}
variable {map : List (κ × β)}

theorem mem_insert
    {entry : κ × β}
    (hEntry : entry ∈ insert key value map) :
    entry = (key, value) ∨ entry ∈ map := by
  induction map with
  | nil => exact .inl (List.mem_singleton.mp hEntry)
  | cons other map ih =>
      unfold insert at hEntry
      split_ifs at hEntry with hLess hSame
      · exact List.mem_cons.mp hEntry
      · rcases List.mem_cons.mp hEntry with hNew | hOld
        · exact .inl hNew
        · exact .inr (List.mem_cons_of_mem _ hOld)
      · rcases List.mem_cons.mp hEntry with hHead | hTail
        · exact .inr (List.mem_cons.mpr (.inl hHead))
        · rcases ih hTail with hNew | hOld
          · exact .inl hNew
          · exact .inr (List.mem_cons_of_mem _ hOld)

theorem sorted_insert
    (hSorted : Sorted map) :
    Sorted (insert key value map) := by
  induction map with
  | nil => exact List.pairwise_singleton _ _
  | cons entry map ih =>
      rcases List.pairwise_cons.mp hSorted with ⟨hHead, hTail⟩
      unfold insert
      split_ifs with hLess hSame
      · refine List.pairwise_cons.mpr ⟨?_, hSorted⟩
        intro other hOther
        rcases List.mem_cons.mp hOther with hEq | hOther
        · rw [hEq]
          exact hLess
        · exact lt_trans hLess (hHead other hOther)
      · refine List.pairwise_cons.mpr ⟨?_, hTail⟩
        rw [hSame]
        exact hHead
      · refine List.pairwise_cons.mpr ⟨?_, ih hTail⟩
        intro other hOther
        rcases mem_insert hOther with hNew | hOld
        · rw [hNew]
          exact lt_of_le_of_ne (le_of_not_gt hLess)
            fun h => hSame h.symm
        · exact hHead other hOld

theorem insert_perm
    (hFresh : key ∉ map.map Prod.fst) :
    (insert key value map).Perm ((key, value) :: map) := by
  induction map with
  | nil => exact .refl _
  | cons entry map ih =>
      rw [List.map_cons, List.mem_cons, not_or] at hFresh
      unfold insert
      rw [if_neg hFresh.1]
      split_ifs with hLess
      · exact .refl _
      · exact ((ih hFresh.2).cons entry).trans
          (.swap _ _ _)

end SortedMap

------------------------------------------------------------
-- Collecting Entries
------------------------------------------------------------

namespace SortedMap

variable {κ β : Type}
variable [LinearOrder κ]
variable {entries map : List (κ × β)}

theorem sorted_foldl
    (hSorted : Sorted map) :
    Sorted
      (entries.foldl
        (fun map entry => insert entry.1 entry.2 map)
        map) := by
  induction entries generalizing map with
  | nil => exact hSorted
  | cons entry entries ih => exact ih (sorted_insert hSorted)

theorem sorted_ofEntries : Sorted (ofEntries entries) :=
  sorted_foldl .nil

theorem mem_foldl
    {entry : κ × β}
    (hEntry :
      entry ∈
        entries.foldl
          (fun map entry => insert entry.1 entry.2 map)
          map) :
    entry ∈ entries ∨ entry ∈ map := by
  induction entries generalizing map with
  | nil => exact .inr hEntry
  | cons head entries ih =>
      rcases ih hEntry with hLater | hInserted
      · exact .inl (List.mem_cons_of_mem _ hLater)
      · rcases mem_insert hInserted with hHead | hOld
        · exact .inl (List.mem_cons.mpr (.inl hHead))
        · exact .inr hOld

theorem mem_of_mem_ofEntries
    {entry : κ × β}
    (hEntry : entry ∈ ofEntries entries) :
    entry ∈ entries := by
  rcases mem_foldl hEntry with hIn | hNone
  · exact hIn
  · contradiction

theorem foldl_perm
    (hNodup : ((entries ++ map).map Prod.fst).Nodup) :
    (entries.foldl
      (fun map entry => insert entry.1 entry.2 map)
      map).Perm (entries ++ map) := by
  induction entries generalizing map with
  | nil => exact .refl _
  | cons entry entries ih =>
      have hMiddle :
          (entries ++ entry :: map).Perm
            (entry :: entries ++ map) :=
        List.perm_middle
      have hFresh : entry.1 ∉ map.map Prod.fst := by
        rw [List.cons_append, List.map_cons,
          List.nodup_cons, List.map_append,
          List.mem_append, not_or] at hNodup
        exact hNodup.1.2
      have hInsert :
          (insert entry.1 entry.2 map).Perm (entry :: map) :=
        insert_perm hFresh
      have hAll :=
        (hInsert.append_left entries).trans hMiddle
      have hKeys := hAll.map Prod.fst
      exact (ih (hKeys.nodup_iff.mpr hNodup)).trans hAll

/- Different keys are all kept. -/
theorem ofEntries_perm
    (hNodup : (entries.map Prod.fst).Nodup) :
    (ofEntries entries).Perm entries := by
  have hFold := @foldl_perm _ _ _ entries []
  rw [List.append_nil] at hFold
  exact hFold hNodup

theorem Sorted.nodup
    (hSorted : Sorted map) :
    (map.map Prod.fst).Nodup :=
  List.pairwise_map.mpr (hSorted.imp fun h => ne_of_lt h)

theorem ofEntries_of_sorted
    (hSorted : Sorted entries) :
    ofEntries entries = entries := by
  refine (ofEntries_perm hSorted.nodup).eq_of_pairwise
    ?_ sorted_ofEntries hSorted
  intro a b _ _ hLess hGreater
  exact absurd hLess (lt_asymm hGreater)

end SortedMap
