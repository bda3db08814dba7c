import Mathlib.Data.List.Basic

/-
  Lists of keyed entries that are searched by key from one
  end and updated in place.

  Keys need not be unique: a search returns the position of
  the first (or last) entry with the key, and an update
  through that position leaves every other entry alone.

  Key definitions include:
    * `KeyedList.firstMatch`
    * `KeyedList.lastMatch`
    * `KeyedList.withKey`

  Key theorems include:
    * `KeyedList.firstMatch_eq_some_iff`
    * `KeyedList.firstMatch_append_of_some`
    * `KeyedList.firstMatch_set`
    * `KeyedList.lastMatch_eq_none_iff`
    * `KeyedList.exists_withKey_of_lastMatch`
    * `KeyedList.filterMap_set`
    * `KeyedList.withKey_set`
    * `KeyedList.firstMatch_map`, `KeyedList.lastMatch_map`
-/

------------------------------------------------------------
-- Searching from the Front
------------------------------------------------------------

namespace KeyedList

variable {α κ : Type}
variable [DecidableEq κ]

/- The first entry with key `k`, with its position. -/
def firstMatch
    (key : α → κ)
    (k : κ) :
    List α → Option (Nat × α)
  | [] => none
  | x :: xs =>
      if key x = k then
        some (0, x)
      else
        (firstMatch key k xs).map fun p => (p.1 + 1, p.2)

/-
  A search succeeds at a position exactly when the entry there
  has the key and no earlier entry has it.
-/
theorem firstMatch_eq_some_iff
    {key : α → κ}
    {k : κ}
    {xs : List α}
    {i : Nat}
    {x : α} :
    firstMatch key k xs = some (i, x) ↔
      xs[i]? = some x ∧ key x = k ∧
        ∀ j < i, ∀ y, xs[j]? = some y → key y ≠ k := by
  induction xs generalizing i with
  | nil => simp [firstMatch]
  | cons y ys ih =>
      by_cases hKey : key y = k
      · cases i with
        | zero =>
            simp only [firstMatch, hKey, if_true]
            constructor
            · intro h
              cases h
              simp [hKey]
            · intro h
              have hHead : y = x := by
                simpa using h.1
              simp [hHead]
        | succ i =>
            simp only [firstMatch, hKey, if_true]
            constructor
            · intro h
              simp at h
            · intro h
              exact absurd hKey
                (h.2.2 0 (Nat.succ_pos i) y (by simp))
      · cases i with
        | zero =>
            simp only [firstMatch, hKey, if_false]
            constructor
            · intro h
              rcases Option.map_eq_some_iff.mp h with
                ⟨p, _, hPair⟩
              simp at hPair
            · intro h
              have hHead : y = x := by
                simpa using h.1
              subst hHead
              exact absurd h.2.1 hKey
        | succ i =>
            simp only [firstMatch, hKey, if_false]
            have hShift :
                (firstMatch key k ys).map
                      (fun p => (p.1 + 1, p.2)) =
                    some (i + 1, x) ↔
                  firstMatch key k ys = some (i, x) := by
              cases firstMatch key k ys with
              | none => simp
              | some p => simp [Prod.ext_iff]
            rw [hShift, ih]
            constructor
            · rintro ⟨hGet, hX, hBefore⟩
              refine ⟨by simpa using hGet, hX, ?_⟩
              intro j hj z hz
              cases j with
              | zero =>
                  have hHead : y = z := by
                    simpa using hz
                  exact hHead ▸ hKey
              | succ j =>
                  exact hBefore j (by omega) z
                    (by simpa using hz)
            · rintro ⟨hGet, hX, hBefore⟩
              refine ⟨by simpa using hGet, hX, ?_⟩
              intro j hj z hz
              exact hBefore (j + 1) (by omega) z
                (by simpa using hz)

/- The search is the standard first-match search. -/
theorem find?_eq_firstMatch
    (key : α → κ)
    (k : κ)
    (xs : List α) :
    xs.find? (fun x => key x = k) =
      (firstMatch key k xs).map Prod.snd := by
  induction xs with
  | nil => rfl
  | cons x xs ih =>
      by_cases hKey : key x = k
      · simp [firstMatch, hKey]
      · simp [firstMatch, hKey, ih, Function.comp_def]

/- Appending entries does not move an entry already found. -/
theorem firstMatch_append_of_some
    {key : α → κ}
    {k : κ}
    {xs : List α}
    {p : Nat × α}
    (ys : List α)
    (hFound : firstMatch key k xs = some p) :
    firstMatch key k (xs ++ ys) = some p := by
  induction xs generalizing p with
  | nil => simp [firstMatch] at hFound
  | cons x xs ih =>
      by_cases hKey : key x = k
      · simpa [firstMatch, hKey] using hFound
      · simp only [firstMatch, hKey, if_false] at hFound
        rcases Option.map_eq_some_iff.mp hFound with
          ⟨q, hq, hPair⟩
        simp [firstMatch, hKey, ih hq, hPair]

/- An appended entry is found if no earlier one has its key. -/
theorem firstMatch_append_of_none
    {key : α → κ}
    {k : κ}
    {xs : List α}
    {x y : α}
    {i : Nat}
    (hMissing : firstMatch key k xs = none)
    (hFound : firstMatch key k (xs ++ [y]) = some (i, x)) :
    x = y := by
  induction xs generalizing i with
  | nil =>
      by_cases hKey : key y = k
      · simp only [List.nil_append, firstMatch, hKey, if_true,
          Option.some.injEq, Prod.mk.injEq] at hFound
        exact hFound.2.symm
      · simp [firstMatch, hKey] at hFound
  | cons z zs ih =>
      by_cases hKey : key z = k
      · simp [firstMatch, hKey] at hMissing
      · simp only [firstMatch, hKey, if_false,
          Option.map_eq_none_iff] at hMissing
        simp only [List.cons_append, firstMatch, hKey,
          if_false] at hFound
        rcases Option.map_eq_some_iff.mp hFound with
          ⟨⟨j, found⟩, hTail, hPair⟩
        cases hPair
        exact ih hMissing hTail

/- With unique keys, every entry is found by its own key. -/
theorem firstMatch_of_nodup
    {key : α → κ}
    {xs : List α}
    {i : Nat}
    {x : α}
    (hNodup : (xs.map key).Nodup)
    (hGet : xs[i]? = some x) :
    firstMatch key (key x) xs = some (i, x) := by
  refine firstMatch_eq_some_iff.mpr ⟨hGet, rfl, ?_⟩
  intro j hj y hy hKey
  have hSame : (xs.map key)[j]? = (xs.map key)[i]? := by
    rw [List.getElem?_map, List.getElem?_map, hy, hGet,
      Option.map_some, Option.map_some, hKey]
  have hBound : j < (xs.map key).length := by
    rw [List.length_map]
    exact (List.getElem?_eq_some_iff.mp hy).1
  have hEq := (List.getElem?_inj hBound hNodup).mp hSame
  omega

/- Updating an entry in place, with its key kept. -/
theorem firstMatch_set
    {key : α → κ}
    {k : κ}
    {xs : List α}
    {i : Nat}
    {x y : α}
    (hGet : xs[i]? = some x)
    (hKey : key y = key x) :
    firstMatch key k (xs.set i y) =
      (firstMatch key k xs).map fun p =>
        if p.1 = i then (i, y) else p := by
  induction xs generalizing i with
  | nil => simp at hGet
  | cons z zs ih =>
      cases i with
      | zero =>
          have hHead : z = x := by
            simpa using hGet
          subst hHead
          by_cases hz : key z = k
          · simp [firstMatch, hKey, hz]
          · simp [firstMatch, hKey, hz, Function.comp_def]
      | succ i =>
          by_cases hz : key z = k
          · simp [firstMatch, hz]
          · have hTail := ih (i := i) (by simpa using hGet)
            simp only [List.set_cons_succ, firstMatch, hz,
              if_false, hTail, Option.map_map]
            congr 1
            funext p
            by_cases hp : p.1 = i <;> simp [hp]

end KeyedList

------------------------------------------------------------
-- Searching from the Back
------------------------------------------------------------

namespace KeyedList

variable {α κ : Type}
variable [DecidableEq κ]

/- The last entry with key `k`, with its position. -/
def lastMatch
    (key : α → κ)
    (k : κ) :
    List α → Option (Nat × α)
  | [] => none
  | x :: xs =>
      match lastMatch key k xs with
      | some p => some (p.1 + 1, p.2)
      | none => if key x = k then some (0, x) else none

theorem lastMatch_eq_none_iff
    {key : α → κ}
    {k : κ}
    {xs : List α} :
    lastMatch key k xs = none ↔
      ∀ x ∈ xs, key x ≠ k := by
  induction xs with
  | nil => simp [lastMatch]
  | cons x xs ih =>
      cases hTail : lastMatch key k xs with
      | some p =>
          have hNot : ¬ ∀ y ∈ xs, key y ≠ k := by
            rw [← ih, hTail]
            simp
          simp only [lastMatch, hTail]
          constructor
          · intro h
            simp at h
          · intro h
            exact absurd
              (fun y hy => h y (List.mem_cons_of_mem x hy))
              hNot
      | none =>
          have hAll := ih.mp hTail
          by_cases hKey : key x = k
          · simp [lastMatch, hTail, hKey]
          · simpa [lastMatch, hTail, hKey] using hAll

/- The entry found is where the search says and has the key. -/
theorem getElem?_of_lastMatch
    {key : α → κ}
    {k : κ}
    {xs : List α}
    {i : Nat}
    {x : α}
    (hFound : lastMatch key k xs = some (i, x)) :
    xs[i]? = some x ∧ key x = k := by
  induction xs generalizing i with
  | nil => simp [lastMatch] at hFound
  | cons y ys ih =>
      cases hTail : lastMatch key k ys with
      | some p =>
          simp only [lastMatch, hTail, Option.some.injEq,
            Prod.mk.injEq] at hFound
          rcases hFound with ⟨hi, hx⟩
          subst hi
          subst hx
          simpa using ih (i := p.1) hTail
      | none =>
          by_cases hKey : key y = k
          · simp only [lastMatch, hTail, hKey, if_true,
              Option.some.injEq, Prod.mk.injEq] at hFound
            rcases hFound with ⟨hi, hx⟩
            subst hi
            subst hx
            simp [hKey]
          · simp [lastMatch, hTail, hKey] at hFound

end KeyedList

------------------------------------------------------------
-- The Entries with One Key
------------------------------------------------------------

namespace KeyedList

variable {α κ : Type}
variable [DecidableEq κ]

/- The entries with key `k`, in order. -/
def withKey
    (key : α → κ)
    (k : κ)
    (xs : List α) :
    List α :=
  xs.filter fun x => key x = k

theorem withKey_append_singleton
    (key : α → κ)
    (k : κ)
    (xs : List α)
    (x : α) :
    withKey key k (xs ++ [x]) =
      withKey key k xs ++ (if key x = k then [x] else []) := by
  unfold withKey
  rw [List.filter_append]
  by_cases hKey : key x = k <;> simp [hKey]

/- The first entry with a key heads the entries with it. -/
theorem find?_eq_head?_withKey
    (key : α → κ)
    (k : κ)
    (xs : List α) :
    xs.find? (fun x => key x = k) =
      (withKey key k xs).head? := by
  unfold withKey
  exact List.head?_filter.symm

theorem withKey_eq_nil_iff
    {key : α → κ}
    {k : κ}
    {xs : List α} :
    withKey key k xs = [] ↔ lastMatch key k xs = none := by
  rw [lastMatch_eq_none_iff]
  unfold withKey
  simp [List.filter_eq_nil_iff]

/- Updating an entry, with its key kept, shows at its key only. -/
theorem withKey_set_of_ne
    {key : α → κ}
    {k : κ}
    {xs : List α}
    {i : Nat}
    {x y : α}
    (hGet : xs[i]? = some x)
    (hKey : key y = key x)
    (hOther : key x ≠ k) :
    withKey key k (xs.set i y) = withKey key k xs := by
  unfold withKey
  induction xs generalizing i with
  | nil => rfl
  | cons z zs ih =>
      cases i with
      | zero =>
          have hHead : z = x := by
            simpa using hGet
          subst hHead
          simp [hKey, hOther]
      | succ i =>
          have hTail := ih (by simpa using hGet)
          by_cases hz : key z = k <;> simp [hz, hTail]

/-
  The last entry with a key ends the entries with it, and an
  update there changes that end.
-/
theorem exists_withKey_of_lastMatch
    {key : α → κ}
    {k : κ}
    {xs : List α}
    {i : Nat}
    {x y : α}
    (hFound : lastMatch key k xs = some (i, x))
    (hKey : key y = k) :
    ∃ front,
      withKey key k xs = front ++ [x] ∧
        withKey key k (xs.set i y) = front ++ [y] := by
  unfold withKey
  induction xs generalizing i with
  | nil => simp [lastMatch] at hFound
  | cons z zs ih =>
      cases hTail : lastMatch key k zs with
      | some p =>
          simp only [lastMatch, hTail, Option.some.injEq,
            Prod.mk.injEq] at hFound
          rcases hFound with ⟨hi, hx⟩
          subst hi
          subst hx
          rcases ih hTail with ⟨front, hBefore, hAfter⟩
          by_cases hz : key z = k
          · exact ⟨z :: front, by simp [hz, hBefore],
              by simp [hz, hAfter]⟩
          · exact ⟨front, by simp [hz, hBefore],
              by simp [hz, hAfter]⟩
      | none =>
          have hNone : zs.filter (fun z => key z = k) = [] :=
            withKey_eq_nil_iff.mpr hTail
          by_cases hz : key z = k
          · simp only [lastMatch, hTail, hz, if_true,
              Option.some.injEq, Prod.mk.injEq] at hFound
            rcases hFound with ⟨hi, hx⟩
            subst hi
            subst hx
            exact ⟨[], by simp [hz, hNone],
              by simp [hKey, hNone]⟩
          · simp [lastMatch, hTail, hz] at hFound

end KeyedList

------------------------------------------------------------
-- Positions Among the Kept
------------------------------------------------------------

namespace KeyedList

variable {α β κ : Type}

/- Where an element of a list is among those that `f` keeps. -/
theorem filterMap_set
    {f : α → Option β}
    {as : List α}
    {n : Nat}
    {a a' : α}
    {b b' : β}
    (hGet : as[n]? = some a)
    (hBefore : f a = some b)
    (hAfter : f a' = some b') :
    (as.filterMap f)[((as.take n).filterMap f).length]? =
        some b ∧
      (as.set n a').filterMap f =
        (as.filterMap f).set ((as.take n).filterMap f).length
          b' := by
  induction as generalizing n with
  | nil => contradiction
  | cons first as ih =>
      cases n with
      | zero =>
          cases hGet
          rw [List.set_cons_zero,
            List.filterMap_cons_some hBefore,
            List.filterMap_cons_some hAfter]
          exact ⟨rfl, rfl⟩
      | succ n =>
          rcases ih hGet with ⟨hOld, hNew⟩
          rw [List.set_cons_succ, List.take_succ_cons]
          cases hFirst : f first with
          | none =>
              rw [List.filterMap_cons_none hFirst,
                List.filterMap_cons_none hFirst,
                List.filterMap_cons_none hFirst]
              exact ⟨hOld, hNew⟩
          | some c =>
              rw [List.filterMap_cons_some hFirst,
                List.filterMap_cons_some hFirst,
                List.filterMap_cons_some hFirst, hNew]
              exact ⟨hOld, rfl⟩

theorem filterMap_set_of_none
    {f : α → Option β}
    {as : List α}
    {n : Nat}
    {a a' : α}
    (hGet : as[n]? = some a)
    (hBefore : f a = none)
    (hAfter : f a' = none) :
    (as.set n a').filterMap f = as.filterMap f := by
  induction as generalizing n with
  | nil => rfl
  | cons first as ih =>
      cases n with
      | zero =>
          cases hGet
          rw [List.set_cons_zero,
            List.filterMap_cons_none hBefore,
            List.filterMap_cons_none hAfter]
      | succ n =>
          rw [List.set_cons_succ, List.filterMap_cons,
            List.filterMap_cons, ih hGet]

variable [DecidableEq κ]

/- An update of an entry, seen among the entries with its key. -/
theorem withKey_set
    {key : α → κ}
    {k : κ}
    {xs : List α}
    {i : Nat}
    {x y : α}
    (hGet : xs[i]? = some x)
    (hBefore : key x = k)
    (hAfter : key y = k) :
    ∃ j,
      (withKey key k xs)[j]? = some x ∧
        withKey key k (xs.set i y) =
          (withKey key k xs).set j y := by
  have hKept :
      ∀ zs : List α,
        withKey key k zs =
          zs.filterMap (Option.guard fun z => key z = k) :=
    fun _ => congrFun List.filterMap_eq_filter.symm _
  rw [hKept, hKept]
  exact ⟨_, filterMap_set hGet (by simp [hBefore])
    (by simp [hAfter])⟩

end KeyedList

------------------------------------------------------------
-- Rewriting All Entries
------------------------------------------------------------

namespace KeyedList

variable {α κ : Type}
variable [DecidableEq κ]
variable {key : α → κ}

/- A search finds the same entry, rewritten. -/
theorem firstMatch_map
    (f : α → α)
    (hKey : ∀ x, key (f x) = key x)
    (k : κ)
    (xs : List α) :
    firstMatch key k (xs.map f) =
      (firstMatch key k xs).map fun p => (p.1, f p.2) := by
  induction xs with
  | nil => rfl
  | cons x xs ih =>
      rw [List.map_cons, firstMatch, firstMatch, hKey, ih]
      by_cases hHere : key x = k
      · simp [hHere]
      · simp [hHere, Function.comp_def]

theorem lastMatch_map
    (f : α → α)
    (hKey : ∀ x, key (f x) = key x)
    (k : κ)
    (xs : List α) :
    lastMatch key k (xs.map f) =
      (lastMatch key k xs).map fun p => (p.1, f p.2) := by
  induction xs with
  | nil => rfl
  | cons x xs ih =>
      rw [List.map_cons, lastMatch, lastMatch, hKey, ih]
      cases hTail : lastMatch key k xs with
      | some p => rfl
      | none =>
          by_cases hHere : key x = k <;> simp [hHere]

end KeyedList
