import BorderController.Library.Json
import Mathlib.Tactic.SplitIfs

/-
  Printing and parsing JSON texts.

  A plain tree is read back from its text if it is not nested
  too deeply, and else the parser reports the limit.

  Key definitions include:
    * `Json.compact`

  Key theorems include:
    * `Json.readString_escape`
    * `Json.parseNumber_printInteger`
    * `Json.parseValue_print`
    * `Json.parse_print`
-/

------------------------------------------------------------
-- Strings
------------------------------------------------------------

namespace Json

variable {rest : List Char}

theorem hexValue_hexDigit :
    ∀ n < 16, hexValue (hexDigit n) = some n := by
  decide

/- The four hex digits of a control character. -/
theorem readHex_hexDigit
    {n : Nat}
    (hSmall : n < 256) :
    readHex
        ('0' :: '0' :: hexDigit (n / 16) ::
          hexDigit (n % 16) :: rest) =
      .ok (n, rest) := by
  have hHigh := hexValue_hexDigit (n / 16) (by omega)
  have hLow := hexValue_hexDigit (n % 16) (by omega)
  have hZero : hexValue '0' = some 0 := rfl
  unfold readHex
  simp only [hHigh, hLow, hZero]
  congr 2
  omega

variable {fuel : Nat}
variable {tail : List Char}
variable {c : Char}

/- One round that reads an escape sequence. -/
theorem readChars_sequence
    {input : List Char}
    (hEscape : readEscape input = .ok (c, tail)) :
    readChars (fuel + 1) ('\\' :: input) =
      (readChars fuel tail).map fun p => (c :: p.1, p.2) := by
  have hBackslash : ('\\' : Char) ≠ '"' := by decide
  conv_lhs => unfold readChars
  rw [if_neg hBackslash, if_pos rfl]
  simp only [hEscape]
  cases readChars fuel tail <;> rfl

/- One round that reads a character as it is. -/
theorem readChars_visible
    (hQuote : c ≠ '"')
    (hSlash : c ≠ '\\')
    (hControl : ¬ c.toNat < 32) :
    readChars (fuel + 1) (c :: tail) =
      (readChars fuel tail).map fun p => (c :: p.1, p.2) := by
  conv_lhs => unfold readChars
  rw [if_neg hQuote, if_neg hSlash, if_neg hControl]
  cases readChars fuel tail <;> rfl

/- An escaped character is read back, one round a character. -/
theorem readChars_escape :
    readChars (fuel + 1) (escape c ++ tail) =
      (readChars fuel tail).map fun p => (c :: p.1, p.2) := by
  unfold escape
  by_cases hQuote : c = '"'
  · subst hQuote
    exact readChars_sequence rfl
  by_cases hSlash : c = '\\'
  · subst hSlash
    exact readChars_sequence rfl
  rw [if_neg hQuote, if_neg hSlash]
  by_cases hBack : c = '\x08'
  · subst hBack
    exact readChars_sequence rfl
  by_cases hTab : c = '\t'
  · subst hTab
    exact readChars_sequence rfl
  by_cases hLine : c = '\n'
  · subst hLine
    exact readChars_sequence rfl
  by_cases hFeed : c = '\x0c'
  · subst hFeed
    exact readChars_sequence rfl
  by_cases hReturn : c = '\r'
  · subst hReturn
    exact readChars_sequence rfl
  rw [if_neg hBack, if_neg hTab, if_neg hLine, if_neg hFeed,
    if_neg hReturn]
  by_cases hControl : c.toNat < 32
  · rw [if_pos hControl]
    refine readChars_sequence ?_
    unfold readEscape readUnicode
    simp only [List.append_eq, List.cons_append,
      List.nil_append,
      readHex_hexDigit (by omega : c.toNat < 256)]
    rw [if_neg (by omega), if_neg (by omega),
      Char.ofNat_toNat]
  · rw [if_neg hControl]
    exact readChars_visible hQuote hSlash hControl

theorem escape_ne_nil (c : Char) : escape c ≠ [] := by
  unfold escape
  split_ifs <;> exact List.cons_ne_nil _ _

theorem length_le_escape
    (cs : List Char) :
    cs.length ≤ (cs.flatMap escape).length := by
  induction cs with
  | nil => exact Nat.zero_le _
  | cons c cs ih =>
      have hPos := List.length_pos_of_ne_nil (escape_ne_nil c)
      rw [List.flatMap_cons, List.length_append,
        List.length_cons]
      omega

theorem readChars_flatMap
    {cs : List Char}
    {fuel : Nat}
    (hFuel : cs.length < fuel) :
    readChars fuel (cs.flatMap escape ++ '"' :: rest) =
      .ok (cs, rest) := by
  induction cs generalizing fuel with
  | nil =>
      cases fuel with
      | zero => contradiction
      | succ fuel => rfl
  | cons c cs ih =>
      cases fuel with
      | zero => contradiction
      | succ fuel =>
          rw [List.flatMap_cons, List.append_assoc,
            readChars_escape,
            ih (Nat.lt_of_succ_lt_succ hFuel)]
          rfl

/- A string is read back after its opening quote. -/
theorem readString_escape
    (value : String) :
    readString
        (value.toList.flatMap escape ++ '"' :: rest) =
      .ok (value, rest) := by
  have hLength := length_le_escape value.toList
  unfold readString
  rw [readChars_flatMap]
  · simp
  · rw [List.length_append, List.length_cons]
    omega

end Json

------------------------------------------------------------
-- Numbers
------------------------------------------------------------

namespace Json

variable {rest : List Char}

/- The text that follows does not go on with the number. -/
def EndsNumber : List Char → Prop
  | [] => True
  | c :: _ =>
      c.isDigit = false ∧ c ≠ '.' ∧ c ≠ 'e' ∧ c ≠ 'E'

theorem endsNumber_punctuation
    {c : Char}
    (hPunctuation : c = ',' ∨ c = ']' ∨ c = '}') :
    EndsNumber (c :: rest) := by
  rcases hPunctuation with hComma | hBracket | hBrace
  · subst hComma
    exact ⟨by decide, by decide, by decide, by decide⟩
  · subst hBracket
    exact ⟨by decide, by decide, by decide, by decide⟩
  · subst hBrace
    exact ⟨by decide, by decide, by decide, by decide⟩

theorem isDigit_of_mem_toDigits
    {n : Nat}
    {c : Char}
    (hMem : c ∈ Nat.toDigits 10 n) :
    c.isDigit = true :=
  Nat.isDigit_of_mem_toDigits (by decide) (by decide) hMem

private theorem head?_digitChar :
    ∀ n < 10, 0 < n → [n.digitChar].head? ≠ some '0' := by
  decide

/- The digits of a number that is not zero start with none. -/
theorem head?_toDigits
    {n : Nat}
    (hPos : 0 < n) :
    (Nat.toDigits 10 n).head? ≠ some '0' := by
  induction n using Nat.strongRecOn with
  | ind n ih =>
      by_cases hSmall : n < 10
      · rw [Nat.toDigits_of_lt_base hSmall]
        exact head?_digitChar n hSmall hPos
      · rw [Nat.toDigits_of_base_le (by decide) (by omega)]
        have hQuotient := ih (n / 10) (by omega) (by omega)
        rw [List.head?_append_of_ne_nil _
          Nat.toDigits_ne_nil]
        exact hQuotient

theorem readDigits_append
    {digits : List Char}
    (hDigits : ∀ c ∈ digits, c.isDigit = true)
    (hNonempty : digits ≠ [])
    (hEnds : EndsNumber rest) :
    readDigits (digits ++ rest) = .ok (digits, rest) := by
  have hTake : rest.takeWhile Char.isDigit = [] := by
    cases rest with
    | nil => rfl
    | cons c rest => simp [hEnds.1]
  have hDrop : rest.dropWhile Char.isDigit = rest := by
    cases rest with
    | nil => rfl
    | cons c rest => simp [hEnds.1]
  unfold readDigits
  rw [List.takeWhile_append_of_pos hDigits,
    List.dropWhile_append_of_pos hDigits, hTake, hDrop,
    List.append_nil]
  simp only [hNonempty, if_false]

theorem readFraction_of_ends
    (hEnds : EndsNumber rest) :
    readFraction rest = .ok (none, rest) := by
  unfold readFraction
  split
  · exact absurd rfl hEnds.2.1
  · rfl

theorem readExponent_of_ends
    (hEnds : EndsNumber rest) :
    readExponent rest = .ok (none, rest) := by
  unfold readExponent
  cases rest with
  | nil => rfl
  | cons c rest =>
      rcases hEnds with ⟨_, _, hLower, hUpper⟩
      simp [hLower, hUpper]

theorem readUnsigned_toDigits
    (negative : Bool)
    (n : Nat)
    (hEnds : EndsNumber rest) :
    readUnsigned negative (Nat.toDigits 10 n ++ rest) =
      .ok
        ({ negative
           digits := Nat.toDigits 10 n
           fraction := none
           exponent := none }, rest) := by
  have hLead :
      ¬ ((Nat.toDigits 10 n).head? = some '0' ∧
        (Nat.toDigits 10 n).length ≠ 1) := by
    rintro ⟨hHead, hLength⟩
    rcases Nat.eq_zero_or_pos n with hZero | hPos
    · subst hZero
      exact hLength rfl
    · exact head?_toDigits hPos hHead
  unfold readUnsigned
  rw [readDigits_append
    (fun c hMem => isDigit_of_mem_toDigits hMem)
    Nat.toDigits_ne_nil hEnds]
  simp only [hLead, if_false, readFraction_of_ends hEnds,
    readExponent_of_ends hEnds]

/- An integer is read back as its sign and digits. -/
theorem readNumber_printInteger
    (value : Int)
    (hEnds : EndsNumber rest) :
    readNumber (printInteger value ++ rest) =
      .ok
        ({ negative := value < 0
           digits := Nat.toDigits 10 value.natAbs
           fraction := none
           exponent := none }, rest) := by
  unfold printInteger
  by_cases hNegative : value < 0
  · rw [if_pos hNegative]
    simp only [List.cons_append, readNumber,
      readUnsigned_toDigits true _ hEnds, hNegative,
      decide_true]
  · rw [if_neg hNegative]
    have hUnsigned :
        readNumber (Nat.toDigits 10 value.natAbs ++ rest) =
          readUnsigned false
            (Nat.toDigits 10 value.natAbs ++ rest) := by
      cases hDigits : Nat.toDigits 10 value.natAbs with
      | nil => exact absurd hDigits Nat.toDigits_ne_nil
      | cons c cs =>
          have hDigit : c.isDigit = true :=
            isDigit_of_mem_toDigits
              (by rw [hDigits]; exact List.mem_cons_self)
          rw [List.cons_append]
          unfold readNumber
          split
          · rename_i hSame
            cases hSame
            exact absurd hDigit (by decide)
          · rfl
    rw [hUnsigned, readUnsigned_toDigits false _ hEnds]
    simp only [hNegative, decide_false]

variable {F : Type}
variable [FloatText F]

theorem numberOf_integer
    {value : Int}
    (hLow : -2 ^ 63 ≤ value)
    (hHigh : value < 2 ^ 64) :
    numberOf (F := F)
        { negative := value < 0
          digits := Nat.toDigits 10 value.natAbs
          fraction := none
          exponent := none } =
      .ok (.integer value) := by
  unfold numberOf
  simp only [Nat.ofDigitChars_ten_toDigits, Option.isSome_none,
    Bool.false_eq_true, or_self, if_false]
  by_cases hNegative : value < 0
  · rw [if_neg (by simp [hNegative]),
      if_pos ⟨by simp [hNegative], by omega, by omega⟩]
    congr 2
    omega
  · rw [if_pos ⟨by simp [hNegative], by omega⟩]
    congr 2
    omega

theorem parseNumber_printInteger
    {value : Int}
    (hLow : -2 ^ 63 ≤ value)
    (hHigh : value < 2 ^ 64)
    (hEnds : EndsNumber rest) :
    parseNumber (F := F) (printInteger value ++ rest) =
      .ok (.integer value, rest) := by
  unfold parseNumber
  rw [readNumber_printInteger value hEnds]
  simp only [numberOf_integer hLow hHigh]

end Json

------------------------------------------------------------
-- Items and Entries
------------------------------------------------------------

namespace Json

variable {F : Type}
variable [FloatText F]
variable {rest : List Char}
variable {layers : Nat}

/- The outcome of parsing a tree of a certain depth. -/
def outcome
    {α : Type}
    (fits : Prop)
    [Decidable fits]
    (value : α)
    (rest : List Char) :
    Except ParseError (α × List Char) :=
  if fits then
    .ok (value, rest)
  else
    .error .recursionLimitExceeded

/- A parser that reads trees up to a depth from their texts. -/
def ReadsUpTo
    (layers : Nat)
    (value : Parser (Json F)) :
    Prop :=
  ∀ (item : Json F) (rest : List Char),
    item.Plain →
    EndsNumber rest →
    value (item.print ++ rest) =
      outcome (item.depth ≤ layers) item rest

theorem skipSpace_cons
    {c : Char}
    (hVisible : isSpace c = false) :
    skipSpace (c :: rest) = c :: rest := by
  unfold skipSpace
  rw [List.dropWhile_cons_of_neg (by simp [hVisible])]

variable {value : Parser (Json F)}

/- The items of a non-empty array are read back. -/
theorem parseItems_printItems
    (hReads : ReadsUpTo layers value)
    {item : Json F}
    {items : List (Json F)}
    (hPlain : ∀ next ∈ item :: items, next.Plain)
    {fuel : Nat}
    (hFuel : items.length < fuel) :
    parseItems value fuel
        (printItems (item :: items) ++ ']' :: rest) =
      outcome (depthItems (item :: items) ≤ layers)
        (item :: items) rest := by
  induction items generalizing item fuel with
  | nil =>
      cases fuel with
      | zero => contradiction
      | succ fuel =>
          have hItem :=
            hReads item (']' :: rest)
              (hPlain item List.mem_cons_self)
              (endsNumber_punctuation (by decide))
          unfold parseItems printItems
          rw [hItem]
          unfold outcome
          simp only [depthItems, Nat.max_zero]
          split_ifs with hFits
          · simp only [skipSpace_cons (rfl : isSpace ']' = _)]
          · rfl
  | cons next items ih =>
      cases fuel with
      | zero => contradiction
      | succ fuel =>
          have hItem :=
            hReads item
              (',' ::
                (printItems (next :: items) ++ ']' :: rest))
              (hPlain item List.mem_cons_self)
              (endsNumber_punctuation (by decide))
          have hRest :=
            ih
              (fun other hMem =>
                hPlain other (List.mem_cons_of_mem _ hMem))
              (Nat.lt_of_succ_lt_succ hFuel)
          unfold parseItems
          rw [printItems, List.append_assoc, List.cons_append,
            hItem]
          have hDepth :
              depthItems (item :: next :: items) ≤ layers ↔
                item.depth ≤ layers ∧
                  depthItems (next :: items) ≤ layers :=
            Nat.max_le
          unfold outcome at hRest ⊢
          simp only [hDepth]
          by_cases hFits : item.depth ≤ layers
          · rw [if_pos hFits]
            simp only [skipSpace_cons (rfl : isSpace ',' = _),
              hRest, hFits, true_and]
            split_ifs <;> rfl
          · rw [if_neg hFits, if_neg (fun h => hFits h.1)]

/- One entry is read back. -/
theorem parseEntry_print
    (hReads : ReadsUpTo layers value)
    {key : String}
    {item : Json F}
    (hPlain : item.Plain)
    (hEnds : EndsNumber rest) :
    parseEntry value
        (printString key ++ ':' :: (item.print ++ rest)) =
      outcome (item.depth ≤ layers) (key, item) rest := by
  unfold parseEntry printString
  simp only [List.cons_append, List.append_assoc,
    List.nil_append,
    skipSpace_cons (rfl : isSpace '"' = _),
    readString_escape,
    skipSpace_cons (rfl : isSpace ':' = _),
    hReads item rest hPlain hEnds]
  unfold outcome
  split_ifs <;> rfl

/- The entries of a non-empty object are read back. -/
theorem parseEntries_printEntries
    (hReads : ReadsUpTo layers value)
    {entry : String × Json F}
    {entries : List (String × Json F)}
    (hPlain : ∀ next ∈ entry :: entries, next.2.Plain)
    {fuel : Nat}
    (hFuel : entries.length < fuel) :
    parseEntries value fuel
        (printEntries (entry :: entries) ++ '}' :: rest) =
      outcome (depthEntries (entry :: entries) ≤ layers)
        (entry :: entries) rest := by
  induction entries generalizing entry fuel with
  | nil =>
      cases fuel with
      | zero => contradiction
      | succ fuel =>
          rcases entry with ⟨key, item⟩
          have hEntry :=
            @parseEntry_print _ _ ('}' :: rest) _ _ hReads key
              item (hPlain (key, item) List.mem_cons_self)
              (endsNumber_punctuation (by decide))
          unfold parseEntries printEntries
          rw [List.append_assoc, List.cons_append, hEntry]
          unfold outcome
          simp only [depthEntries, Nat.max_zero]
          split_ifs with hFits
          · simp only [skipSpace_cons (rfl : isSpace '}' = _)]
          · rfl
  | cons next entries ih =>
      cases fuel with
      | zero => contradiction
      | succ fuel =>
          rcases entry with ⟨key, item⟩
          have hEntry :=
            @parseEntry_print _ _
              (',' ::
                (printEntries (next :: entries) ++
                  '}' :: rest))
              _ _ hReads key item
              (hPlain (key, item) List.mem_cons_self)
              (endsNumber_punctuation (by decide))
          have hRest :=
            ih
              (fun other hMem =>
                hPlain other (List.mem_cons_of_mem _ hMem))
              (Nat.lt_of_succ_lt_succ hFuel)
          unfold parseEntries
          rw [printEntries, List.append_assoc,
            List.cons_append, List.append_assoc,
            List.cons_append, hEntry]
          have hDepth :
              depthEntries ((key, item) :: next :: entries) ≤
                  layers ↔
                item.depth ≤ layers ∧
                  depthEntries (next :: entries) ≤ layers :=
            Nat.max_le
          unfold outcome at hRest ⊢
          simp only [hDepth]
          by_cases hFits : item.depth ≤ layers
          · rw [if_pos hFits]
            simp only [skipSpace_cons (rfl : isSpace ',' = _),
              hRest, hFits, true_and]
            split_ifs <;> rfl
          · rw [if_neg hFits, if_neg (fun h => hFits h.1)]

end Json

------------------------------------------------------------
-- Values
------------------------------------------------------------

namespace Json

variable {F : Type}
variable [FloatText F]
variable {rest : List Char}
variable {layers : Nat}
variable {value : Parser (Json F)}
variable {inner : Option (Parser (Json F))}

private theorem ne_of_isDigit
    {c d : Char}
    (hDigit : c.isDigit = true)
    (hOther : d.isDigit = false) :
    c ≠ d := by
  intro hSame
  rw [hSame, hOther] at hDigit
  contradiction

private theorem isSpace_of_isDigit
    {c : Char}
    (hDigit : c.isDigit = true) :
    isSpace c = false := by
  have hSpace := ne_of_isDigit hDigit (rfl : ' '.isDigit = _)
  have hLine := ne_of_isDigit hDigit (rfl : '\n'.isDigit = _)
  have hTab := ne_of_isDigit hDigit (rfl : '\t'.isDigit = _)
  have hReturn :=
    ne_of_isDigit hDigit (rfl : '\r'.isDigit = _)
  simp [isSpace, hSpace, hLine, hTab, hReturn]

/- An integer starts with a sign or a digit. -/
theorem printInteger_head
    (value : Int) :
    ∃ c cs,
      printInteger value = c :: cs ∧
        (c = '-' ∨ c.isDigit = true) := by
  unfold printInteger
  by_cases hNegative : value < 0
  · rw [if_pos hNegative]
    exact ⟨'-', _, rfl, Or.inl rfl⟩
  · rw [if_neg hNegative]
    cases hDigits : Nat.toDigits 10 value.natAbs with
    | nil => exact absurd hDigits Nat.toDigits_ne_nil
    | cons c cs =>
        refine ⟨c, cs, rfl, Or.inr ?_⟩
        apply isDigit_of_mem_toDigits (n := value.natAbs)
        rw [hDigits]
        exact List.mem_cons_self

/- The text of a plain tree starts with none of its closers. -/
theorem print_head
    {item : Json F}
    (hPlain : item.Plain) :
    ∃ c cs,
      item.print = c :: cs ∧ isSpace c = false ∧ c ≠ ']' := by
  cases hPlain with
  | null => exact ⟨'n', _, rfl, rfl, by decide⟩
  | bool value =>
      cases value with
      | true => exact ⟨'t', _, rfl, rfl, by decide⟩
      | false => exact ⟨'f', _, rfl, rfl, by decide⟩
  | string value => exact ⟨'"', _, rfl, rfl, by decide⟩
  | array hItems => exact ⟨'[', _, rfl, rfl, by decide⟩
  | object hEntries => exact ⟨'\x7b', _, rfl, rfl, by decide⟩
  | @integer value _ _ =>
      rcases printInteger_head value with
        ⟨c, cs, hPrint, hSign | hDigit⟩
      · subst hSign
        exact ⟨'-', cs, hPrint, rfl, by decide⟩
      · exact ⟨c, cs, hPrint, isSpace_of_isDigit hDigit,
          ne_of_isDigit hDigit rfl⟩

private theorem printItems_head
    {item : Json F}
    {items : List (Json F)}
    (hPlain : item.Plain) :
    ∃ c cs,
      printItems (item :: items) = c :: cs ∧
        isSpace c = false ∧ c ≠ ']' := by
  rcases print_head hPlain with ⟨c, cs, hPrint, hVisible⟩
  cases items with
  | nil =>
      rw [printItems, hPrint]
      exact ⟨c, cs, rfl, hVisible⟩
  | cons next items =>
      rw [printItems, hPrint]
      exact ⟨c, _, rfl, hVisible⟩

private theorem printEntries_head
    {entry : String × Json F}
    {entries : List (String × Json F)} :
    ∃ cs, printEntries (entry :: entries) = '"' :: cs := by
  rcases entry with ⟨key, item⟩
  cases entries with
  | nil => exact ⟨_, rfl⟩
  | cons next entries => exact ⟨_, rfl⟩

/- Every item takes some of the text. -/
private theorem length_printItems
    {item : Json F}
    {items : List (Json F)} :
    items.length < (printItems (item :: items)).length + 1 := by
  induction items generalizing item with
  | nil => exact Nat.succ_pos _
  | cons next items ih =>
      have hRest := @ih next
      rw [printItems, List.length_append, List.length_cons,
        List.length_cons]
      omega

private theorem length_printEntries
    {entry : String × Json F}
    {entries : List (String × Json F)} :
    entries.length <
      (printEntries (entry :: entries)).length + 1 := by
  induction entries generalizing entry with
  | nil => exact Nat.succ_pos _
  | cons next entries ih =>
      have hRest := @ih next
      rcases entry with ⟨key, item⟩
      rw [printEntries]
      simp only [List.length_append, List.length_cons]
      omega

theorem parseArray_print
    (hReads : ReadsUpTo layers value)
    {items : List (Json F)}
    (hPlain : ∀ item ∈ items, item.Plain) :
    parseArray value (printItems items ++ ']' :: rest) =
      outcome (depthItems items ≤ layers) (.array items)
        rest := by
  cases items with
  | nil =>
      have hFits : depthItems ([] : List (Json F)) ≤ layers :=
        Nat.zero_le layers
      unfold outcome
      rw [if_pos hFits]
      rfl
  | cons item items =>
      rcases @printItems_head _ _ item items
          (hPlain item List.mem_cons_self) with
        ⟨c, cs, hPrint, hVisible, hOpen⟩
      have hItems :=
        @parseItems_printItems _ _ rest _ _ hReads item items
          hPlain
          (printItems (item :: items) ++ ']' :: rest).length
          (by
            have hLength := @length_printItems _ _ item items
            rw [List.length_append, List.length_cons]
            omega)
      unfold parseArray
      rw [hPrint] at hItems ⊢
      rw [List.cons_append] at hItems ⊢
      rw [skipSpace_cons hVisible]
      split
      · rename_i hSame
        cases hSame
        exact absurd rfl hOpen
      · rw [hItems]
        unfold outcome
        split_ifs <;> rfl

theorem parseObject_print
    (hReads : ReadsUpTo layers value)
    {entries : List (String × Json F)}
    (hPlain : ∀ entry ∈ entries, entry.2.Plain) :
    parseObject value
        (printEntries entries ++ '\x7d' :: rest) =
      outcome (depthEntries entries ≤ layers)
        (.object entries) rest := by
  cases entries with
  | nil =>
      have hFits :
          depthEntries ([] : List (String × Json F)) ≤
            layers :=
        Nat.zero_le layers
      unfold outcome
      rw [if_pos hFits]
      rfl
  | cons entry entries =>
      rcases @printEntries_head _ _ entry entries with
        ⟨cs, hPrint⟩
      have hEntries :=
        @parseEntries_printEntries _ _ rest _ _ hReads entry
          entries hPlain
          (printEntries (entry :: entries) ++
            '\x7d' :: rest).length
          (by
            have hLength :=
              @length_printEntries _ _ entry entries
            rw [List.length_append, List.length_cons]
            omega)
      unfold parseObject
      rw [hPrint] at hEntries ⊢
      rw [List.cons_append] at hEntries ⊢
      rw [skipSpace_cons (rfl : isSpace '"' = _)]
      split
      · rename_i hSame
        cases hSame
      · rw [hEntries]
        unfold outcome
        split_ifs <;> rfl

/- A text that starts like a number is read as one. -/
theorem valueOf_number
    {c : Char}
    (hHead : c = '-' ∨ c.isDigit = true) :
    valueOf inner (c :: rest) = parseNumber (c :: rest) := by
  have hOther :
      ∀ d, d.isDigit = false → d ≠ '-' → c ≠ d := by
    intro d hNot hSign hSame
    rcases hHead with hMinus | hDigit
    · exact hSign (hSame ▸ hMinus)
    · exact ne_of_isDigit hDigit hNot hSame
  have hVisible : isSpace c = false := by
    rcases hHead with hMinus | hDigit
    · subst hMinus
      rfl
    · exact isSpace_of_isDigit hDigit
  unfold valueOf
  rw [skipSpace_cons hVisible]
  split
  · rename_i hSame
    cases hSame
    exact absurd rfl (hOther 'n' rfl (by decide))
  · rename_i hSame
    cases hSame
    exact absurd rfl (hOther 't' rfl (by decide))
  · rename_i hSame
    cases hSame
    exact absurd rfl (hOther 'f' rfl (by decide))
  · rename_i hSame
    cases hSame
    exact absurd rfl (hOther '"' rfl (by decide))
  · rename_i hSame
    cases hSame
    exact absurd rfl (hOther '[' rfl (by decide))
  · rename_i hSame
    cases hSame
    exact absurd rfl (hOther '\x7b' rfl (by decide))
  · rfl

/- What is not nested is read with any number of layers. -/
theorem valueOf_atom
    {item : Json F}
    (hPlain : item.Plain)
    (hAtom : item.depth = 0)
    (hEnds : EndsNumber rest) :
    valueOf inner (item.print ++ rest) = .ok (item, rest) := by
  cases hPlain with
  | null => rfl
  | bool value => cases value <;> rfl
  | string value =>
      unfold valueOf print printString
      simp only [List.cons_append, List.append_assoc,
        List.nil_append,
        skipSpace_cons (rfl : isSpace '"' = _),
        readString_escape]
  | @integer value hLow hHigh =>
      have hNumber :=
        @parseNumber_printInteger rest F _ value hLow hHigh
          hEnds
      rcases printInteger_head value with
        ⟨c, cs, hPrint, hHead⟩
      rw [print]
      rw [hPrint, List.cons_append] at hNumber ⊢
      rw [valueOf_number hHead, hNumber]
  | array hItems => contradiction
  | object hEntries => contradiction

/-
  A plain tree is read back from its text exactly if it fits
  into the layers.
-/
theorem parseValue_print
    (layers : Nat) :
    ReadsUpTo layers (parseValue (F := F) layers) := by
  induction layers with
  | zero =>
      intro item rest hPlain hEnds
      unfold parseValue outcome
      by_cases hAtom : item.depth = 0
      · rw [if_pos (by omega),
          valueOf_atom hPlain hAtom hEnds]
      · rw [if_neg (by omega)]
        cases hPlain with
        | array hItems => rfl
        | object hEntries => rfl
        | bool value => cases value <;> contradiction
        | _ => contradiction
  | succ layers ih =>
      intro item rest hPlain hEnds
      unfold parseValue
      by_cases hAtom : item.depth = 0
      · unfold outcome
        rw [if_pos (by omega),
          valueOf_atom hPlain hAtom hEnds]
      · cases hPlain with
        | @array items hItems =>
            have hArray := @parseArray_print _ _ rest _ _ ih
              items hItems
            unfold valueOf print
            simp only [List.cons_append, List.append_assoc,
              List.nil_append,
              skipSpace_cons (rfl : isSpace '[' = _), hArray]
            unfold outcome
            simp only [depth, Nat.add_le_add_iff_right]
        | @object entries hEntries =>
            have hObject := @parseObject_print _ _ rest _ _ ih
              entries hEntries
            unfold valueOf print
            simp only [List.cons_append, List.append_assoc,
              List.nil_append,
              skipSpace_cons (rfl : isSpace '\x7b' = _),
              hObject]
            unfold outcome
            simp only [depth, Nat.add_le_add_iff_right]
        | bool value => cases value <;> contradiction
        | _ => contradiction

theorem parse_print
    {item : Json F}
    (hPlain : item.Plain)
    (layers : Nat) :
    parse layers item.print =
      if item.depth ≤ layers then
        .ok item
      else
        .error .recursionLimitExceeded := by
  have hValue := parseValue_print layers item [] hPlain trivial
  rw [List.append_nil] at hValue
  unfold parse
  rw [hValue]
  unfold outcome
  split_ifs <;> rfl

/- Compact texts. -/
def compact
    (F : Type)
    [FloatText F]
    (layers : Nat) :
    Format F layers where
  write := print
  read := parse layers
  read_write hPlain := parse_print hPlain layers

end Json
