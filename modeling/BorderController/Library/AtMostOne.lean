import Mathlib.Data.List.Basic

/-
  Lists of which at most one entry has a property.

  Entries are appended without the property, and an entry is
  updated in place.

  Key definitions include:
    * `AtMostOne`

  Key theorems include:
    * `AtMostOne.append_singleton`
    * `AtMostOne.set`
    * `AtMostOne.set_of_none`
-/

------------------------------------------------------------
-- At Most One Entry
------------------------------------------------------------

/- No two entries of the list have the property. -/
def AtMostOne
    {α : Type}
    (P : α → Prop)
    (xs : List α) :
    Prop :=
  ∀ (i j : Nat) (x y : α),
    xs[i]? = some x →
    xs[j]? = some y →
    P x →
    P y →
    i = j

namespace AtMostOne

variable {α : Type}
variable {P Q : α → Prop}
variable {xs : List α}
variable {i : Nat}
variable {x y : α}

theorem nil : AtMostOne P [] := by
  intro i j x y hx
  simp at hx

/- A stronger property is had by at most one entry as well. -/
theorem mono
    (hOne : AtMostOne P xs)
    (hStronger : ∀ x ∈ xs, Q x → P x) :
    AtMostOne Q xs := by
  intro i j x y hx hy hQx hQy
  apply hOne i j x y hx hy
  · exact hStronger x (List.mem_of_getElem? hx) hQx
  · exact hStronger y (List.mem_of_getElem? hy) hQy

/- A new entry without the property. -/
theorem append_singleton
    (hOne : AtMostOne P xs)
    (hNew : ¬ P x) :
    AtMostOne P (xs ++ [x]) := by
  have hOld :
      ∀ {k : Nat} {z : α},
        (xs ++ [x])[k]? = some z →
        P z →
        xs[k]? = some z := by
    intro k z hz hPz
    by_cases hk : k < xs.length
    · rwa [List.getElem?_append_left hk] at hz
    · rw [List.getElem?_append_right (by omega),
        List.getElem?_singleton] at hz
      by_cases hLast : k - xs.length = 0
      · rw [if_pos hLast] at hz
        cases hz
        contradiction
      · rw [if_neg hLast] at hz
        contradiction
  intro i j y z hy hz hPy hPz
  exact hOne i j y z (hOld hy hPy) (hOld hz hPz) hPy hPz

/- An entry of an updated list is the new one or an old one. -/
theorem getElem?_set_cases
    {j : Nat}
    {z : α}
    (hz : (xs.set i y)[j]? = some z) :
    (j = i ∧ z = y) ∨ (j ≠ i ∧ xs[j]? = some z) := by
  by_cases hSame : j = i
  · subst hSame
    rw [List.getElem?_set_self'] at hz
    cases hOld : xs[j]? with
    | none => simp [hOld] at hz
    | some old =>
        simp only [hOld, Option.map_eq_map, Option.map_some,
          Option.some.injEq, Function.const_apply] at hz
        exact Or.inl ⟨rfl, hz.symm⟩
  · rw [List.getElem?_set_ne (fun h => hSame h.symm)] at hz
    exact Or.inr ⟨hSame, hz⟩

/- An update that gives no entry the property. -/
theorem set
    (hOne : AtMostOne P xs)
    (hGet : xs[i]? = some x)
    (hKeep : P y → P x) :
    AtMostOne P (xs.set i y) := by
  intro j k z w hz hw hPz hPw
  rcases getElem?_set_cases hz with
    ⟨hj, hzy⟩ | ⟨hj, hOldZ⟩
  · subst hj hzy
    rcases getElem?_set_cases hw with
      ⟨hk, hwy⟩ | ⟨hk, hOldW⟩
    · exact hk.symm
    · exact hOne _ k x w hGet hOldW (hKeep hPz) hPw
  · rcases getElem?_set_cases hw with
      ⟨hk, hwy⟩ | ⟨hk, hOldW⟩
    · subst hk hwy
      exact hOne j _ z x hOldZ hGet hPz (hKeep hPw)
    · exact hOne j k z w hOldZ hOldW hPz hPw

/- An update of a list in which no entry has the property. -/
theorem set_of_none
    (hNone : ∀ x ∈ xs, ¬ P x) :
    AtMostOne P (xs.set i y) := by
  intro j k z w hz hw hPz hPw
  rcases getElem?_set_cases hz with
    ⟨hj, _⟩ | ⟨_, hOldZ⟩
  · rcases getElem?_set_cases hw with
      ⟨hk, _⟩ | ⟨_, hOldW⟩
    · rw [hj, hk]
    · exact absurd hPw
        (hNone w (List.mem_of_getElem? hOldW))
  · exact absurd hPz (hNone z (List.mem_of_getElem? hOldZ))

end AtMostOne
