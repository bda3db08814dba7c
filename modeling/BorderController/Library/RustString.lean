import Mathlib.Data.List.DropRight

/-
  The part of Rust's `str` and `char` that string checks use.

  Strings are read through their list of characters.

  Key definitions include:
    * `RustString.isWhitespace`
    * `RustString.trim`
    * `RustString.isBlank`
    * `RustString.len`
    * `RustString.startsWith`, `RustString.endsWith`
    * `RustString.isAsciiHexdigit`
    * `RustString.less`

  Key theorems include:
    * `RustString.isBlank_eq_false_iff`
    * `RustString.lessChars_append_iff`
-/

------------------------------------------------------------
-- Whitespace
------------------------------------------------------------

namespace RustString

/- `char::is_whitespace`: the Unicode property White_Space. -/
def isWhitespace (c : Char) : Bool :=
  let n := c.toNat
  (9 ≤ n && n ≤ 13) || n == 0x20 || n == 0x85 ||
    n == 0xA0 || n == 0x1680 ||
    (0x2000 ≤ n && n ≤ 0x200A) ||
    n == 0x2028 || n == 0x2029 || n == 0x202F ||
    n == 0x205F || n == 0x3000

/- `str::trim`: drop whitespace at both ends. -/
def trim (s : String) : List Char :=
  (s.toList.dropWhile isWhitespace).rdropWhile isWhitespace

/- `s.trim().is_empty()`. -/
def isBlank (s : String) : Bool :=
  (trim s).isEmpty

/- A string that is not blank has something to read. -/
theorem isBlank_eq_false_iff
    {s : String} :
    isBlank s = false ↔
      ∃ c ∈ s.toList, isWhitespace c = false := by
  have hBlank :
      isBlank s = true ↔
        ∀ c ∈ s.toList, isWhitespace c = true := by
    unfold isBlank trim
    rw [List.isEmpty_iff, List.rdropWhile_eq_nil_iff]
    constructor
    · intro hRest c hMem
      rw [← @List.takeWhile_append_dropWhile _ isWhitespace
        s.toList, List.mem_append] at hMem
      rcases hMem with hFront | hBack
      · exact List.mem_takeWhile_imp hFront
      · exact hRest c hBack
    · intro hAll c hMem
      exact hAll c ((List.dropWhile_sublist _).mem hMem)
  rw [← Bool.not_eq_true, hBlank]
  simp

end RustString

------------------------------------------------------------
-- Shape
------------------------------------------------------------

namespace RustString

/- `str::len`: the number of bytes. -/
def len (s : String) : Nat :=
  s.utf8ByteSize

def startsWith (start s : String) : Bool :=
  start.toList.isPrefixOf s.toList

/- `str::ends_with` for a single character. -/
def endsWith (c : Char) (s : String) : Bool :=
  s.toList.getLast? = some c

/- `str::contains` for a single character. -/
def contains (c : Char) (s : String) : Bool :=
  c ∈ s.toList

/- `char::is_ascii_hexdigit`. -/
def isAsciiHexdigit (c : Char) : Bool :=
  ('0' ≤ c && c ≤ '9') || ('a' ≤ c && c ≤ 'f') ||
    ('A' ≤ c && c ≤ 'F')

end RustString

------------------------------------------------------------
-- Order
------------------------------------------------------------

namespace RustString

def lessChars : List Char → List Char → Bool
  | _, [] => false
  | [], _ :: _ => true
  | a :: s, b :: t =>
      if a.toNat < b.toNat then true
      else if b.toNat < a.toNat then false
      else lessChars s t

/- `<` for `str`: UTF-8 keeps the order of code points. -/
def less (s t : String) : Bool :=
  lessChars s.toList t.toList

variable {a b : Char}
variable {s t u v : List Char}

theorem lessChars_of_lt
    (hLess : a.toNat < b.toNat) :
    lessChars (a :: s) (b :: t) = true := by
  unfold lessChars
  rw [if_pos hLess]

theorem lessChars_of_gt
    (hGreater : b.toNat < a.toNat) :
    lessChars (a :: s) (b :: t) = false := by
  unfold lessChars
  rw [if_neg (Nat.lt_asymm hGreater), if_pos hGreater]

@[simp] theorem lessChars_cons_self :
    lessChars (a :: s) (a :: t) = lessChars s t := by
  rw [lessChars, if_neg (Nat.lt_irrefl _),
    if_neg (Nat.lt_irrefl _)]

@[simp] theorem lessChars_self : lessChars s s = false := by
  induction s with
  | nil => rfl
  | cons a s ih => rw [lessChars_cons_self, ih]

/- Blocks of the same length are compared first. -/
theorem lessChars_append_iff
    (hLength : s.length = t.length) :
    lessChars (s ++ u) (t ++ v) = true ↔
      lessChars s t = true ∨
        s = t ∧ lessChars u v = true := by
  induction s generalizing t with
  | nil =>
      have hNil := List.length_eq_zero_iff.mp hLength.symm
      subst hNil
      simp
  | cons a s ih =>
      cases t with
      | nil => contradiction
      | cons b t =>
          rcases Nat.lt_trichotomy a.toNat b.toNat with
            hLess | hSame | hGreater
          · simp [lessChars_of_lt hLess]
          · have hEq : a = b := Char.toNat_inj.mp hSame
            subst hEq
            have hRest := ih (Nat.succ.inj hLength)
            simpa using hRest
          · have hNe : a ≠ b := by
              intro hEq
              rw [hEq] at hGreater
              exact Nat.lt_irrefl _ hGreater
            simp [lessChars_of_gt hGreater, hNe]

end RustString
