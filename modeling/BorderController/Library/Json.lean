import Mathlib.Algebra.Group.Int.Defs
import Mathlib.Algebra.Group.Nat.Defs
import Mathlib.Data.List.Basic

/-
  JSON texts: compact printing, and parsing with a limit on
  the nesting.

  A tree keeps the entries of an object in the order of the
  text, repeated keys included.  How floats are written and
  read is left to a class.

  Key definitions include:
    * `Json`, `Json.depth`, `Json.Plain`
    * `FloatText`
    * `Json.print`
    * `Json.parseValue`, `Json.parse`
    * `Json.Format`
-/

------------------------------------------------------------
-- Trees
------------------------------------------------------------

/- A JSON tree over floats `F`. -/
inductive Json (F : Type) where
  | null
  | bool (value : Bool)
  | integer (value : Int)
  | float (value : F)
  | string (value : String)
  | array (items : List (Json F))
  | object (entries : List (String × Json F))

namespace Json

variable {F : Type}

mutual

/- How deep arrays and objects are nested. -/
def depth : Json F → Nat
  | .array items => depthItems items + 1
  | .object entries => depthEntries entries + 1
  | _ => 0

def depthItems : List (Json F) → Nat
  | [] => 0
  | item :: items => max item.depth (depthItems items)

def depthEntries : List (String × Json F) → Nat
  | [] => 0
  | (_, value) :: entries =>
      max value.depth (depthEntries entries)

end

/-
  No floats, and every integer in the range of those that are
  read as integers.
-/
inductive Plain : Json F → Prop
  | null : Plain .null
  | bool (value : Bool) : Plain (.bool value)
  | integer {value : Int} :
      -2 ^ 63 ≤ value →
      value < 2 ^ 64 →
      Plain (.integer value)
  | string (value : String) : Plain (.string value)
  | array {items : List (Json F)} :
      (∀ item ∈ items, Plain item) →
      Plain (.array items)
  | object {entries : List (String × Json F)} :
      (∀ entry ∈ entries, Plain entry.2) →
      Plain (.object entries)

/- The parts of a number in a text. -/
structure NumberText where
  negative : Bool
  digits : List Char
  fraction : Option (List Char)
  exponent : Option (Bool × List Char)

end Json

/- How floats are written, and read from the parts. -/
class FloatText (F : Type) where
  print : F → List Char
  read : Json.NumberText → Option F

------------------------------------------------------------
-- Printing
------------------------------------------------------------

namespace Json

variable {F : Type}

def hexDigit (n : Nat) : Char :=
  if n < 10 then
    Char.ofNat ('0'.toNat + n)
  else
    Char.ofNat ('a'.toNat + (n - 10))

/- A character inside quotes. -/
def escape (c : Char) : List Char :=
  if c = '"' then
    ['\\', '"']
  else if c = '\\' then
    ['\\', '\\']
  else if c = '\x08' then
    ['\\', 'b']
  else if c = '\t' then
    ['\\', 't']
  else if c = '\n' then
    ['\\', 'n']
  else if c = '\x0c' then
    ['\\', 'f']
  else if c = '\r' then
    ['\\', 'r']
  else if c.toNat < 32 then
    ['\\', 'u', '0', '0', hexDigit (c.toNat / 16),
      hexDigit (c.toNat % 16)]
  else
    [c]

def printString (value : String) : List Char :=
  '"' :: (value.toList.flatMap escape ++ ['"'])

def printInteger (value : Int) : List Char :=
  if value < 0 then
    '-' :: Nat.toDigits 10 value.natAbs
  else
    Nat.toDigits 10 value.natAbs

variable [FloatText F]

mutual

def print : Json F → List Char
  | .null => ['n', 'u', 'l', 'l']
  | .bool true => ['t', 'r', 'u', 'e']
  | .bool false => ['f', 'a', 'l', 's', 'e']
  | .integer value => printInteger value
  | .float value => FloatText.print value
  | .string value => printString value
  | .array items => '[' :: (printItems items ++ [']'])
  | .object entries => '{' :: (printEntries entries ++ ['}'])

def printItems : List (Json F) → List Char
  | [] => []
  | [item] => print item
  | item :: next :: items =>
      print item ++ ',' :: printItems (next :: items)

def printEntries : List (String × Json F) → List Char
  | [] => []
  | [(key, value)] => printString key ++ ':' :: print value
  | (key, value) :: next :: entries =>
      printString key ++
        ':' :: (print value ++
          ',' :: printEntries (next :: entries))

end

end Json

------------------------------------------------------------
-- Parsing
------------------------------------------------------------

namespace Json

inductive ParseError where
  | recursionLimitExceeded
  | syntaxError
deriving DecidableEq, Repr

/- A parser returns what it has read and the rest. -/
abbrev Parser (α : Type) :=
  List Char → Except ParseError (α × List Char)

def isSpace (c : Char) : Bool :=
  c = ' ' || c = '\n' || c = '\t' || c = '\r'

def skipSpace (input : List Char) : List Char :=
  input.dropWhile isSpace

def hexValue (c : Char) : Option Nat :=
  if '0' ≤ c ∧ c ≤ '9' then
    some (c.toNat - '0'.toNat)
  else if 'a' ≤ c ∧ c ≤ 'f' then
    some (c.toNat - 'a'.toNat + 10)
  else if 'A' ≤ c ∧ c ≤ 'F' then
    some (c.toNat - 'A'.toNat + 10)
  else
    none

def readHex : Parser Nat
  | a :: b :: c :: d :: rest =>
      match hexValue a, hexValue b, hexValue c, hexValue d with
      | some a, some b, some c, some d =>
          .ok (((a * 16 + b) * 16 + c) * 16 + d, rest)
      | _, _, _, _ => .error .syntaxError
  | _ => .error .syntaxError

/- A code point, as one unit or as two surrogates. -/
def readUnicode : Parser Char := fun input =>
  match readHex input with
  | .error e => .error e
  | .ok (unit, rest) =>
      if 0xDC00 ≤ unit ∧ unit ≤ 0xDFFF then
        .error .syntaxError
      else if 0xD800 ≤ unit ∧ unit ≤ 0xDBFF then
        match rest with
        | '\\' :: 'u' :: rest =>
            match readHex rest with
            | .error e => .error e
            | .ok (low, rest) =>
                if 0xDC00 ≤ low ∧ low ≤ 0xDFFF then
                  .ok
                    (Char.ofNat
                      (0x10000 + (unit - 0xD800) * 0x400 +
                        (low - 0xDC00)), rest)
                else
                  .error .syntaxError
        | _ => .error .syntaxError
      else
        .ok (Char.ofNat unit, rest)

/- What stands for a character after a backslash. -/
def readEscape : Parser Char
  | '"' :: rest => .ok ('"', rest)
  | '\\' :: rest => .ok ('\\', rest)
  | '/' :: rest => .ok ('/', rest)
  | 'b' :: rest => .ok ('\x08', rest)
  | 'f' :: rest => .ok ('\x0c', rest)
  | 'n' :: rest => .ok ('\n', rest)
  | 'r' :: rest => .ok ('\r', rest)
  | 't' :: rest => .ok ('\t', rest)
  | 'u' :: rest => readUnicode rest
  | _ => .error .syntaxError

/-
  The characters up to the closing quote; the fuel is the
  length of the input, of which every round reads some.
-/
def readChars : Nat → Parser (List Char)
  | 0, _ => .error .syntaxError
  | _ + 1, [] => .error .syntaxError
  | fuel + 1, c :: rest =>
      if c = '"' then
        .ok ([], rest)
      else if c = '\\' then
        match readEscape rest with
        | .error e => .error e
        | .ok (c, rest) =>
            match readChars fuel rest with
            | .error e => .error e
            | .ok (cs, rest) => .ok (c :: cs, rest)
      else if c.toNat < 32 then
        .error .syntaxError
      else
        match readChars fuel rest with
        | .error e => .error e
        | .ok (cs, rest) => .ok (c :: cs, rest)

/- A string, after its opening quote. -/
def readString : Parser String := fun input =>
  match readChars input.length input with
  | .error e => .error e
  | .ok (cs, rest) => .ok (String.ofList cs, rest)

/- Digits, at least one. -/
def readDigits : Parser (List Char) := fun input =>
  let digits := input.takeWhile Char.isDigit
  if digits = [] then
    .error .syntaxError
  else
    .ok (digits, input.dropWhile Char.isDigit)

def readFraction : Parser (Option (List Char))
  | '.' :: rest =>
      match readDigits rest with
      | .error e => .error e
      | .ok (digits, rest) => .ok (some digits, rest)
  | input => .ok (none, input)

def readSign : List Char → Bool × List Char
  | '-' :: rest => (true, rest)
  | '+' :: rest => (false, rest)
  | input => (false, input)

def readExponent : Parser (Option (Bool × List Char)) :=
  fun input =>
    match input with
    | c :: rest =>
        if c = 'e' ∨ c = 'E' then
          match readDigits (readSign rest).2 with
          | .error e => .error e
          | .ok (digits, remaining) =>
              .ok (some ((readSign rest).1, digits), remaining)
        else
          .ok (none, input)
    | [] => .ok (none, [])

/- No digit may follow a leading zero. -/
def readUnsigned (negative : Bool) : Parser NumberText :=
  fun input =>
    match readDigits input with
    | .error e => .error e
    | .ok (digits, rest) =>
        if digits.head? = some '0' ∧ digits.length ≠ 1 then
          .error .syntaxError
        else
          match readFraction rest with
          | .error e => .error e
          | .ok (fraction, rest) =>
              match readExponent rest with
              | .error e => .error e
              | .ok (exponent, rest) =>
                  .ok
                    ({ negative, digits, fraction, exponent },
                      rest)

def readNumber : Parser NumberText
  | '-' :: rest => readUnsigned true rest
  | input => readUnsigned false input

variable {F : Type}
variable [FloatText F]

def floatOf (text : NumberText) : Except ParseError (Json F) :=
  match FloatText.read text with
  | some value => .ok (.float value)
  | none => .error .syntaxError

/-
  Whole numbers in the range of 64 bits are integers, signed
  ones only if they are not zero.  The rest are floats.
-/
def numberOf
    (text : NumberText) :
    Except ParseError (Json F) :=
  let n := Nat.ofDigitChars 10 text.digits 0
  if text.fraction.isSome ∨ text.exponent.isSome then
    floatOf text
  else if text.negative = false ∧ n < 2 ^ 64 then
    .ok (.integer n)
  else if text.negative = true ∧ 0 < n ∧ n ≤ 2 ^ 63 then
    .ok (.integer (-n))
  else
    floatOf text

/- The items of an array up to its end; there is one at least. -/
def parseItems
    (value : Parser (Json F)) :
    Nat → Parser (List (Json F))
  | 0, _ => .error .syntaxError
  | fuel + 1, input =>
      match value input with
      | .error e => .error e
      | .ok (item, rest) =>
          match skipSpace rest with
          | ',' :: rest =>
              match parseItems value fuel rest with
              | .error e => .error e
              | .ok (items, rest) => .ok (item :: items, rest)
          | ']' :: rest => .ok ([item], rest)
          | _ => .error .syntaxError

/- One entry of an object. -/
def parseEntry
    (value : Parser (Json F)) :
    Parser (String × Json F) :=
  fun input =>
    match skipSpace input with
    | '"' :: rest =>
        match readString rest with
        | .error e => .error e
        | .ok (key, rest) =>
            match skipSpace rest with
            | ':' :: rest =>
                match value rest with
                | .error e => .error e
                | .ok (value, rest) => .ok ((key, value), rest)
            | _ => .error .syntaxError
    | _ => .error .syntaxError

def parseEntries
    (value : Parser (Json F)) :
    Nat → Parser (List (String × Json F))
  | 0, _ => .error .syntaxError
  | fuel + 1, input =>
      match parseEntry value input with
      | .error e => .error e
      | .ok (entry, rest) =>
          match skipSpace rest with
          | ',' :: rest =>
              match parseEntries value fuel rest with
              | .error e => .error e
              | .ok (entries, rest) =>
                  .ok (entry :: entries, rest)
          | '}' :: rest => .ok ([entry], rest)
          | _ => .error .syntaxError

def parseArray
    (value : Parser (Json F)) :
    Parser (Json F) :=
  fun input =>
    match skipSpace input with
    | ']' :: rest => .ok (.array [], rest)
    | input =>
        match parseItems value input.length input with
        | .error e => .error e
        | .ok (items, rest) => .ok (.array items, rest)

def parseObject
    (value : Parser (Json F)) :
    Parser (Json F) :=
  fun input =>
    match skipSpace input with
    | '}' :: rest => .ok (.object [], rest)
    | input =>
        match parseEntries value input.length input with
        | .error e => .error e
        | .ok (entries, rest) => .ok (.object entries, rest)

def parseNumber : Parser (Json F) := fun input =>
  match readNumber input with
  | .error e => .error e
  | .ok (text, rest) =>
      match numberOf text with
      | .error e => .error e
      | .ok number => .ok (number, rest)

/-
  A value; `inner` parses what is nested in it, unless there
  may be nothing nested.
-/
def valueOf
    (inner : Option (Parser (Json F))) :
    Parser (Json F) :=
  fun input =>
    match skipSpace input with
    | 'n' :: 'u' :: 'l' :: 'l' :: rest => .ok (.null, rest)
    | 't' :: 'r' :: 'u' :: 'e' :: rest =>
        .ok (.bool true, rest)
    | 'f' :: 'a' :: 'l' :: 's' :: 'e' :: rest =>
        .ok (.bool false, rest)
    | '"' :: rest =>
        match readString rest with
        | .error e => .error e
        | .ok (value, rest) => .ok (.string value, rest)
    | '[' :: rest =>
        match inner with
        | none => .error .recursionLimitExceeded
        | some value => parseArray value rest
    | '{' :: rest =>
        match inner with
        | none => .error .recursionLimitExceeded
        | some value => parseObject value rest
    | input => parseNumber input

/- A value with at most this many nested layers. -/
def parseValue : Nat → Parser (Json F)
  | 0 => valueOf none
  | layers + 1 => valueOf (some (parseValue layers))

/- A whole text with at most this many nested layers. -/
def parse
    (layers : Nat)
    (input : List Char) :
    Except ParseError (Json F) :=
  match parseValue layers input with
  | .error e => .error e
  | .ok (value, rest) =>
      if skipSpace rest = [] then
        .ok value
      else
        .error .syntaxError

end Json

------------------------------------------------------------
-- Text Formats
------------------------------------------------------------

namespace Json

/-
  A way to write trees as texts and to read them back, with a
  limit on the layers that are read.
-/
structure Format (F : Type) (layers : Nat) where
  write : Json F → List Char
  read : List Char → Except ParseError (Json F)
  read_write :
    ∀ {item : Json F},
      item.Plain →
        read (write item) =
          if item.depth ≤ layers then
            .ok item
          else
            .error .recursionLimitExceeded

end Json
