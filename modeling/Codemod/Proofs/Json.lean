import Codemod.Decimal

/-!
JSON texts and the values they stand for. All of the format is read: blanks between its parts, every
escape and pairs of surrogates, fractions and exponents, values inside values. A number keeps the
digits that it is written with.
-/
namespace Codemod

inductive Json where
  | null
  | flag (b : Bool)
  | number (d : Decimal)
  | text (s : String)
  | array (items : List Json)
  | object (fields : List (String × Json))

namespace Json

def natural (n : Nat) : Json := .number ⟨false, n, 0⟩

def isBlank (c : Char) : Bool := c = ' ' || c = '\t' || c = '\n' || c = '\r'

def skip (cs : List Char) : List Char := cs.dropWhile isBlank

def hexDigit? (c : Char) : Option Nat :=
  if '0' ≤ c && c ≤ '9' then some (c.toNat - 48)
  else if 'a' ≤ c && c ≤ 'f' then some (c.toNat - 87)
  else if 'A' ≤ c && c ≤ 'F' then some (c.toNat - 55)
  else none

def readUnit : List Char → Option (Nat × List Char)
  | a :: b :: c :: d :: rest => do
    let high := 16 * (← hexDigit? a) + (← hexDigit? b)
    let low := 16 * (← hexDigit? c) + (← hexDigit? d)
    some (256 * high + low, rest)
  | _ => none

/- A character by its number; those that take more than four digits are written as two surrogates,
of which neither stands alone. -/
def readUnicode (cs : List Char) : Option (Char × List Char) := do
  let (unit, rest) ← readUnit cs
  if unit < 0xD800 || 0xDFFF < unit then some (Char.ofNat unit, rest)
  else if 0xDBFF < unit then none
  else match rest with
    | '\\' :: 'u' :: more => do
      let (low, after) ← readUnit more
      if 0xDC00 ≤ low && low ≤ 0xDFFF then
        some (Char.ofNat (0x10000 + 0x400 * (unit - 0xD800) + (low - 0xDC00)), after)
      else none
    | _ => none

def readEscape : List Char → Option (Char × List Char)
  | '"' :: rest => some ('"', rest)
  | '\\' :: rest => some ('\\', rest)
  | '/' :: rest => some ('/', rest)
  | 'b' :: rest => some ('\x08', rest)
  | 'f' :: rest => some ('\x0c', rest)
  | 'n' :: rest => some ('\n', rest)
  | 'r' :: rest => some ('\r', rest)
  | 't' :: rest => some ('\t', rest)
  | 'u' :: rest => readUnicode rest
  | _ => none

def readChar : List Char → Option (Char × List Char)
  | [] => none
  | c :: rest => if c = '\\' then readEscape rest else if c.toNat < 32 then none else some (c, rest)

def readQuoted : Nat → List Char → Option (List Char × List Char)
  | 0, _ => none
  | n + 1, cs =>
    if cs.head? = some '"' then some ([], cs.tail)
    else do
      let (c, rest) ← readChar cs
      let (more, after) ← readQuoted n rest
      some (c :: more, after)

def readFraction : List Char → Option (List Char × List Char)
  | '.' :: rest =>
    if (rest.takeWhile Char.isDigit).isEmpty then none
    else some (rest.takeWhile Char.isDigit, rest.dropWhile Char.isDigit)
  | cs => some ([], cs)

def readPower (sign : Int) (cs : List Char) : Option (Int × List Char) :=
  if (cs.takeWhile Char.isDigit).isEmpty then none
  else some (sign * Nat.ofDigitChars 10 (cs.takeWhile Char.isDigit) 0, cs.dropWhile Char.isDigit)

def readExponent : List Char → Option (Int × List Char)
  | [] => some (0, [])
  | c :: rest =>
    if c = 'e' || c = 'E' then
      match rest with
      | '-' :: more => readPower (-1) more
      | '+' :: more => readPower 1 more
      | _ => readPower 1 rest
    else some (0, c :: rest)

def readMagnitude (negative : Bool) (cs : List Char) : Option (Decimal × List Char) :=
  let whole := cs.takeWhile Char.isDigit
  if whole.isEmpty || (whole.head? = some '0' && 1 < whole.length) then none
  else do
    let (fraction, rest) ← readFraction (cs.dropWhile Char.isDigit)
    let (power, after) ← readExponent rest
    some (⟨negative, Nat.ofDigitChars 10 (whole ++ fraction) 0, power - fraction.length⟩, after)

def readNumber : List Char → Option (Decimal × List Char)
  | '-' :: rest => readMagnitude true rest
  | cs => readMagnitude false cs

section Lists

variable {α : Type} (item : List Char → Option (α × List Char)) (close : Char)

def readSeparated : Nat → List Char → Option (List α × List Char)
  | 0, _ => none
  | n + 1, cs => do
    let (x, rest) ← item cs
    match skip rest with
    | [] => none
    | c :: rest =>
      if c = close then some ([x], rest)
      else if c = ',' then do
        let (xs, after) ← readSeparated n rest
        some (x :: xs, after)
      else none

def readAll (cs : List Char) : Option (List α × List Char) :=
  if (skip cs).head? = some close then some ([], (skip cs).tail)
  else readSeparated item close cs.length cs

end Lists

def readText (cs : List Char) : Option (String × List Char) := do
  let (s, after) ← readQuoted cs.length cs
  some (String.ofList s, after)

def readField (value : List Char → Option (Json × List Char)) (cs : List Char) :
    Option ((String × Json) × List Char) :=
  match skip cs with
  | '"' :: rest => do
    let (key, after) ← readText rest
    match skip after with
    | ':' :: rest => do
      let (j, after) ← value rest
      some ((key, j), after)
    | _ => none
  | _ => none

def readValue : Nat → List Char → Option (Json × List Char)
  | 0, _ => none
  | depth + 1, cs =>
    match skip cs with
    | '"' :: rest => (readText rest).map fun p => (.text p.1, p.2)
    | '\x7b' :: rest =>
      (readAll (readField (readValue depth)) '\x7d' rest).map fun p => (.object p.1, p.2)
    | '[' :: rest => (readAll (readValue depth) ']' rest).map fun p => (.array p.1, p.2)
    | 't' :: 'r' :: 'u' :: 'e' :: rest => some (.flag true, rest)
    | 'f' :: 'a' :: 'l' :: 's' :: 'e' :: rest => some (.flag false, rest)
    | 'n' :: 'u' :: 'l' :: 'l' :: rest => some (.null, rest)
    | other => (readNumber other).map fun p => (.number p.1, p.2)

def read? (cs : List Char) : Option Json := do
  let (j, after) ← readValue cs.length cs
  if (skip after).isEmpty then some j else none

def get? (key : String) : Json → Option Json
  | .object fields => List.lookup key fields
  | _ => none

end Json

def linesOf : List Char → List (List Char) × List Char
  | [] => ([], [])
  | c :: rest =>
    if c = '\n' then ([] :: (linesOf rest).1, (linesOf rest).2)
    else match linesOf rest with
      | ([], left) => ([], c :: left)
      | (line :: more, left) => ((c :: line) :: more, left)

end Codemod
