import BorderController.Library.KeyedList

/-
  Changes of a keyed list at one key.

  A patch appends an entry or replaces one in place.  Patches
  at different keys neither see nor disturb each other.

  Key definitions include:
    * `KeyedList.Patch`
    * `KeyedList.Patch.At`

  Key theorems include:
    * `KeyedList.Patch.At.firstMatch_apply`
    * `KeyedList.Patch.At.lastMatch_apply`
    * `KeyedList.Patch.At.withKey_comm`
-/

------------------------------------------------------------
-- Searching Past Another Key
------------------------------------------------------------

namespace KeyedList

variable {α κ : Type}
variable [DecidableEq κ]
variable {key : α → κ}
variable {k : κ}
variable {xs : List α}

theorem firstMatch_append_singleton
    {x : α}
    (hOther : key x ≠ k) :
    firstMatch key k (xs ++ [x]) = firstMatch key k xs := by
  induction xs with
  | nil => simp [firstMatch, hOther]
  | cons y ys ih =>
      by_cases hKey : key y = k
      · simp [firstMatch, hKey]
      · simp [firstMatch, hKey, ih]

theorem lastMatch_append_singleton
    {x : α}
    (hOther : key x ≠ k) :
    lastMatch key k (xs ++ [x]) = lastMatch key k xs := by
  induction xs with
  | nil => simp [lastMatch, hOther]
  | cons y ys ih => simp only [List.cons_append, lastMatch, ih]

/- An appended entry is the last one with its own key. -/
theorem lastMatch_append_self
    {x : α}
    (xs : List α)
    (hKey : key x = k) :
    lastMatch key k (xs ++ [x]) = some (xs.length, x) := by
  induction xs with
  | nil => simp [lastMatch, hKey]
  | cons y ys ih => simp [lastMatch, ih]

/- An update of an entry with another key is not found. -/
theorem firstMatch_set_of_ne
    {i : Nat}
    {x y : α}
    (hGet : xs[i]? = some x)
    (hKey : key y = key x)
    (hOther : key x ≠ k) :
    firstMatch key k (xs.set i y) = firstMatch key k xs := by
  rw [firstMatch_set hGet hKey]
  cases hFound : firstMatch key k xs with
  | none => rfl
  | some p =>
      rcases firstMatch_eq_some_iff.mp hFound with
        ⟨hThere, hSame, _⟩
      have hIndex : p.1 ≠ i := by
        intro hEq
        rw [hEq, hGet] at hThere
        cases hThere
        exact hOther hSame
      simp [hIndex]

theorem lastMatch_set_of_ne
    {i : Nat}
    {x y : α}
    (hGet : xs[i]? = some x)
    (hKey : key y = key x)
    (hOther : key x ≠ k) :
    lastMatch key k (xs.set i y) = lastMatch key k xs := by
  induction xs generalizing i with
  | nil => simp at hGet
  | cons z zs ih =>
      cases i with
      | zero =>
          have hHead : z = x := by
            simpa using hGet
          subst hHead
          simp only [List.set_cons_zero, lastMatch, hKey,
            hOther, if_false]
      | succ i =>
          have hTail := ih (by simpa using hGet)
          simp only [List.set_cons_succ, lastMatch, hTail]

end KeyedList

------------------------------------------------------------
-- Patches
------------------------------------------------------------

namespace KeyedList

inductive Patch (α : Type) where
  | kept
  | added (x : α)
  | replaced (i : Nat) (x : α)

namespace Patch

variable {α κ : Type}

def apply (p : Patch α) (xs : List α) : List α :=
  match p with
  | kept => xs
  | added x => xs ++ [x]
  | replaced i x => xs.set i x

/- The patch adds nothing. -/
def InPlace : Patch α → Prop
  | added _ => False
  | _ => True

/- The patch concerns entries with key `k` only. -/
inductive At
    (key : α → κ)
    (k : κ)
    (xs : List α) :
    Patch α → Prop
  | kept : At key k xs .kept
  | added {x : α} :
      key x = k →
      At key k xs (.added x)
  | replaced {i : Nat} {x y : α} :
      xs[i]? = some x →
      key x = k →
      key y = k →
      At key k xs (.replaced i y)

namespace At

variable {key : α → κ}
variable {k k' : κ}
variable {xs : List α}
variable {p q : Patch α}

/- Entries with other keys stay where they are. -/
theorem getElem?_apply
    {i : Nat}
    {x : α}
    (hAt : p.At key k xs)
    (hOther : key x ≠ k) :
    (p.apply xs)[i]? = some x ↔ xs[i]? = some x := by
  cases hAt with
  | kept => rfl
  | @added y hKey =>
      have hNe : y ≠ x := by
        rintro rfl
        exact hOther hKey
      change (xs ++ [y])[i]? = some x ↔ _
      rw [List.getElem?_append]
      split
      · rfl
      · rename_i hBound
        rw [List.getElem?_eq_none (Nat.le_of_not_lt hBound)]
        cases i - xs.length <;> simp [hNe]
  | @replaced j y z hGet hBefore hAfter =>
      change (xs.set j z)[i]? = some x ↔ _
      by_cases hIndex : j = i
      · subst hIndex
        have hBound := (List.getElem?_eq_some_iff.mp hGet).1
        rw [List.getElem?_set_self hBound, hGet]
        constructor
        · rintro ⟨⟩
          exact absurd hAfter hOther
        · rintro ⟨⟩
          exact absurd hBefore hOther
      · rw [List.getElem?_set_ne hIndex]

variable [DecidableEq κ]

/- A patch is not found under another key. -/
theorem firstMatch_apply
    (hAt : p.At key k xs)
    (hNe : k ≠ k') :
    firstMatch key k' (p.apply xs) =
      firstMatch key k' xs := by
  cases hAt with
  | kept => rfl
  | added hKey =>
      exact firstMatch_append_singleton (hKey ▸ hNe)
  | replaced hGet hBefore hAfter =>
      exact firstMatch_set_of_ne hGet
        (hAfter.trans hBefore.symm) (hBefore ▸ hNe)

theorem lastMatch_apply
    (hAt : p.At key k xs)
    (hNe : k ≠ k') :
    lastMatch key k' (p.apply xs) = lastMatch key k' xs := by
  cases hAt with
  | kept => rfl
  | added hKey =>
      exact lastMatch_append_singleton (hKey ▸ hNe)
  | replaced hGet hBefore hAfter =>
      exact lastMatch_set_of_ne hGet
        (hAfter.trans hBefore.symm) (hBefore ▸ hNe)

/- The entries with another key are as they were. -/
theorem withKey_apply
    (hAt : p.At key k xs)
    (hNe : k ≠ k') :
    withKey key k' (p.apply xs) = withKey key k' xs := by
  cases hAt with
  | kept => rfl
  | @added x hKey =>
      change withKey key k' (xs ++ [x]) = _
      rw [withKey_append_singleton, hKey, if_neg hNe,
        List.append_nil]
  | replaced hGet hBefore hAfter =>
      exact withKey_set_of_ne hGet
        (hAfter.trans hBefore.symm) (hBefore ▸ hNe)

end At

end Patch

end KeyedList

------------------------------------------------------------
-- Patches at Different Keys
------------------------------------------------------------

namespace KeyedList

namespace Patch

namespace At

variable {α κ : Type}
variable {key : α → κ}
variable {k k' : κ}
variable {xs : List α}
variable {p q : Patch α}

/- A replacement does not meet an entry that is added. -/
private theorem replaced_append
    {i : Nat}
    {x y z : α}
    (hGet : xs[i]? = some y) :
    (xs ++ [x]).set i z = xs.set i z ++ [x] :=
  List.set_append_left i z
    (List.getElem?_eq_some_iff.mp hGet).1

/- Patches commute if one of them adds nothing. -/
theorem apply_comm
    (hAt : p.At key k xs)
    (hOther : q.At key k' xs)
    (hNe : k ≠ k')
    (hInPlace : p.InPlace) :
    q.apply (p.apply xs) = p.apply (q.apply xs) := by
  cases hAt with
  | kept => rfl
  | added hKey => exact absurd hInPlace id
  | @replaced i x z hGet hBefore hAfter =>
      cases hOther with
      | kept => rfl
      | added hKey' => exact (replaced_append hGet).symm
      | @replaced j x' z' hGet' hBefore' hAfter' =>
          have hIndex : i ≠ j := by
            rintro rfl
            rw [hGet] at hGet'
            cases hGet'
            exact hNe (hBefore.symm.trans hBefore')
          exact List.set_comm _ _ hIndex

variable [DecidableEq κ]

/- In either order, each key has the same entries. -/
theorem withKey_comm
    (hAt : p.At key k xs)
    (hOther : q.At key k' xs)
    (hNe : k ≠ k')
    (other : κ) :
    withKey key other (q.apply (p.apply xs)) =
      withKey key other (p.apply (q.apply xs)) := by
  cases hAt with
  | kept => rfl
  | @added x hKey =>
      cases hOther with
      | kept => rfl
      | @added y hKey' =>
          change withKey key other (xs ++ [x] ++ [y]) =
            withKey key other (xs ++ [y] ++ [x])
          rw [withKey_append_singleton,
            withKey_append_singleton,
            withKey_append_singleton,
            withKey_append_singleton, hKey, hKey']
          by_cases hFirst : k = other
          · have hSecond : k' ≠ other := by
              rintro rfl
              exact hNe hFirst
            simp [hFirst, hSecond]
          · simp [hFirst]
      | replaced hGet hBefore hAfter =>
          exact congrArg (withKey key other)
            (replaced_append hGet)
  | replaced hGet hBefore hAfter =>
      have hReplaced :
          (Patch.replaced _ _).At key k xs :=
        .replaced hGet hBefore hAfter
      rw [hReplaced.apply_comm hOther hNe trivial]

end At

end Patch

end KeyedList
