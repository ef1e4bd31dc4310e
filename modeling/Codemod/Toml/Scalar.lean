import Codemod.Toml.Item

/-!
Reading strings, numbers, dates and times. A reader takes the characters ahead and gives what it
read and what is left, or nothing.
-/
namespace Codemod.Toml

abbrev Reader (α : Type) := List Char → Option (α × List Char)

namespace Reader

def bind {α β : Type} (r : Reader α) (next : α → Reader β) : Reader β := fun cs =>
  (r cs).bind fun (a, cs) => next a cs

instance : Monad Reader where
  pure a := fun cs => some (a, cs)
  bind := Reader.bind

def fail {α : Type} : Reader α := fun _ => none

def orElse {α : Type} (a b : Reader α) : Reader α := fun cs =>
  match a cs with
  | some result => some result
  | none => b cs

def optional {α : Type} (r : Reader α) : Reader (Option α) := fun cs =>
  match r cs with
  | some (a, cs) => some (some a, cs)
  | none => some (none, cs)

def check {α : Type} (ok : α → Bool) (r : Reader α) : Reader α := fun cs =>
  (r cs).bind fun (a, cs) => if ok a then some (a, cs) else none

def one (ok : Char → Bool) : Reader Char
  | c :: cs => if ok c then some (c, cs) else none
  | [] => none

def char (c : Char) : Reader Char := one (· == c)

def many (ok : Char → Bool) : Reader (List Char) := fun cs => some (cs.takeWhile ok, cs.dropWhile ok)

def times (ok : Char → Bool) (n : Nat) : Reader (List Char) := fun cs =>
  let found := cs.take n
  if found.length = n && found.all ok then some (found, cs.drop n) else none

def word (text : String) : Reader Unit := fun cs =>
  if text.toList.isPrefixOf cs then some ((), cs.drop text.length) else none

end Reader

open Reader

def isBlank (c : Char) : Bool := c == ' ' || c == '\t'

def blanks : Reader Unit := fun cs => some ((), cs.dropWhile isBlank)

def lineBreak : Reader Unit
  | '\n' :: cs => some ((), cs)
  | '\r' :: '\n' :: cs => some ((), cs)
  | _ => none

def isPlain (c : Char) : Bool := c == '\t' || (' ' ≤ c && c ≤ '~') || '\x7f' < c

def isBasic (c : Char) : Bool := isPlain c && c != '"' && c != '\\'

def isLiteral (c : Char) : Bool := isPlain c && c != '\''

def hexValue? (c : Char) : Option Nat :=
  if '0' ≤ c && c ≤ '9' then some (c.toNat - '0'.toNat)
  else if 'a' ≤ c && c ≤ 'f' then some (c.toNat - 'a'.toNat + 10)
  else if 'A' ≤ c && c ≤ 'F' then some (c.toNat - 'A'.toNat + 10)
  else none

def digitsValue (base : Nat) (cs : List Char) : Nat :=
  cs.foldl (fun n c => n * base + (hexValue? c).getD 0) 0

def codePoint (n : Nat) : Reader Char := fun cs =>
  (times (fun c => (hexValue? c).isSome) n cs).bind fun (digits, cs) =>
    let value := digitsValue 16 digits
    if value.isValidChar then some (Char.ofNat value, cs) else none

def escape : Reader Char
  | 'b' :: cs => some ('\x08', cs)
  | 'f' :: cs => some ('\x0c', cs)
  | 'n' :: cs => some ('\n', cs)
  | 'r' :: cs => some ('\r', cs)
  | 't' :: cs => some ('\t', cs)
  | '"' :: cs => some ('"', cs)
  | '\\' :: cs => some ('\\', cs)
  | 'u' :: cs => codePoint 4 cs
  | 'U' :: cs => codePoint 8 cs
  | _ => none

def basicBody : Nat → List Char → Reader (List Char)
  | 0, _, _ => none
  | fuel + 1, done, cs =>
    match cs with
    | '"' :: cs => some (done.reverse, cs)
    | '\\' :: cs => (escape cs).bind fun (c, cs) => basicBody fuel (c :: done) cs
    | c :: cs => if isBasic c then basicBody fuel (c :: done) cs else none
    | [] => none

def basicString : Reader String
  | '"' :: cs => (basicBody (cs.length + 1) [] cs).map fun (text, cs) => (String.ofList text, cs)
  | _ => none

def literalString : Reader String
  | '\'' :: cs =>
    match cs.dropWhile isLiteral with
    | '\'' :: rest => some (String.ofList (cs.takeWhile isLiteral), rest)
    | _ => none
  | _ => none

def skipBlankLines : Nat → List Char → List Char
  | 0, cs => cs
  | fuel + 1, cs =>
    match cs.dropWhile isBlank with
    | '\n' :: cs => skipBlankLines fuel cs
    | '\r' :: '\n' :: cs => skipBlankLines fuel cs
    | cs => cs

def lineContinuation : Reader Unit := fun cs =>
  (lineBreak (cs.dropWhile isBlank)).map fun (_, cs) => ((), skipBlankLines (cs.length + 1) cs)

/--
A run of quotes inside a string over several lines. Fewer than three belong to the text. Of more,
the last three close it, and at most two stand before them. Gives the quotes of the text, and
whether the string ends.
-/
def quoteRun (quote : Char) (cs : List Char) : Nat × Bool × List Char :=
  let run := (cs.takeWhile (· == quote)).length
  if run < 3 then (run, false, cs.drop run)
  else
    let kept := min (run - 3) 2
    (kept, true, cs.drop (kept + 3))

def longBody (quote : Char) (escapes : Bool) : Nat → List Char → Reader (List Char)
  | 0, _, _ => none
  | fuel + 1, done, cs =>
    match cs with
    | [] => none
    | '\n' :: cs => longBody quote escapes fuel ('\n' :: done) cs
    | '\r' :: '\n' :: cs => longBody quote escapes fuel ('\n' :: done) cs
    | c :: rest =>
      if c == quote then
        let (kept, closed, after) := quoteRun quote cs
        let done := List.replicate kept quote ++ done
        if closed then some (done.reverse, after) else longBody quote escapes fuel done after
      else if escapes && c == '\\' then
        match lineContinuation rest with
        | some (_, after) => longBody quote escapes fuel done after
        | none => (escape rest).bind fun (c, after) => longBody quote escapes fuel (c :: done) after
      else if isPlain c then longBody quote escapes fuel (c :: done) rest
      else none

def longString (quote : Char) (escapes : Bool) : Reader String := fun cs =>
  if cs.take 3 = [quote, quote, quote] then
    let cs := cs.drop 3
    let cs := match lineBreak cs with
      | some (_, cs) => cs
      | none => cs
    (longBody quote escapes (cs.length + 1) [] cs).map fun (text, cs) => (String.ofList text, cs)
  else none

def string : Reader String := fun cs =>
  if cs.take 3 = ['"', '"', '"'] then longString '"' true cs
  else if cs.take 3 = ['\'', '\'', '\''] then longString '\'' false cs
  else orElse basicString literalString cs

def isDigit (c : Char) : Bool := '0' ≤ c && c ≤ '9'

def moreDigits (ok : Char → Bool) : List Char → List Char × List Char
  | '_' :: c :: cs =>
    if ok c then
      let (more, rest) := moreDigits ok cs
      (c :: more, rest)
    else ([], '_' :: c :: cs)
  | c :: cs =>
    if ok c then
      let (more, rest) := moreDigits ok cs
      (c :: more, rest)
    else ([], c :: cs)
  | [] => ([], [])

def digits (ok : Char → Bool) : Reader (List Char)
  | c :: cs =>
    if ok c then
      let (more, rest) := moreDigits ok cs
      some (c :: more, rest)
    else none
  | [] => none

def sign : Reader Bool
  | '-' :: cs => some (true, cs)
  | '+' :: cs => some (false, cs)
  | cs => some (false, cs)

def whole : Reader (Bool × List Char) := do
  let negative ← sign
  let found ← orElse (do let c ← char '0'; pure [c]) (digits isDigit)
  pure (negative, found)

def inRange (n : Int) : Bool := -9223372036854775808 ≤ n && n ≤ 9223372036854775807

def integer : Reader Int
  | '0' :: 'x' :: cs => radix 16 (fun c => (hexValue? c).isSome) cs
  | '0' :: 'o' :: cs => radix 8 (fun c => '0' ≤ c && c ≤ '7') cs
  | '0' :: 'b' :: cs => radix 2 (fun c => c == '0' || c == '1') cs
  | cs => check inRange (do
      let (negative, found) ← whole
      let value : Int := digitsValue 10 found
      pure (if negative then -value else value)) cs
where
  radix (base : Nat) (ok : Char → Bool) : Reader Int :=
    check inRange (do return digitsValue base (← digits ok))

def exponent : Reader Int := do
  let _ ← one fun c => c == 'e' || c == 'E'
  let negative ← sign
  let value : Int := digitsValue 10 (← digits isDigit)
  pure (if negative then -value else value)

def fraction : Reader (List Char) := do
  let _ ← char '.'
  digits isDigit

def finite : Reader Real := do
  let (negative, before) ← whole
  let (after, power) ← orElse (do return ([], ← exponent))
    (do
      let after ← fraction
      let power ← optional exponent
      return (after, power.getD 0))
  let value : Decimal := ⟨negative, digitsValue 10 (before ++ after), power - after.length⟩
  if !negative && value.isInfinite then fail else pure (.finite value)

def special : Reader Real := do
  let negative ← sign
  orElse (do word "inf"; pure (.infinite negative)) (do word "nan"; pure .nan)

def real : Reader Real := orElse finite special

def field (n low high : Nat) : Reader Nat :=
  check (fun value => low ≤ value && value ≤ high) do
    return digitsValue 10 (← times isDigit n)

def isLeap (year : Nat) : Bool := year % 4 == 0 && (year % 100 != 0 || year % 400 == 0)

def daysIn (year month : Nat) : Nat :=
  if month = 2 then (if isLeap year then 29 else 28)
  else if month = 4 || month = 6 || month = 9 || month = 11 then 30
  else 31

def date : Reader Unit := do
  let year ← field 4 0 9999
  let _ ← char '-'
  let month ← field 2 1 12
  let _ ← char '-'
  let _ ← field 2 1 (daysIn year month)

def time : Reader Unit := do
  let _ ← field 2 0 23
  let _ ← char ':'
  let _ ← field 2 0 59
  let _ ← char ':'
  let _ ← field 2 0 60
  let _ ← optional do
    let _ ← char '.'
    let _ ← one isDigit
    many isDigit

def offset : Reader Unit := do
  let c ← one fun c => c == 'Z' || c == 'z' || c == '+' || c == '-'
  if c == '+' || c == '-' then
    let _ ← field 2 0 23
    let _ ← char ':'
    let _ ← field 2 0 59

def moment : Reader Unit :=
  orElse (do
    date
    let _ ← optional do
      let _ ← one fun c => c == 'T' || c == 't' || c == ' '
      time
      let _ ← optional offset) time

def boolean : Reader Bool :=
  orElse (do word "true"; pure true) (do word "false"; pure false)

def scalar : Reader Scalar := fun cs =>
  match cs with
  | [] => none
  | c :: _ =>
    if c == '"' || c == '\'' then (do return Scalar.string (← string) : Reader Scalar) cs
    else if c == 't' || c == 'f' then (do return Scalar.boolean (← boolean) : Reader Scalar) cs
    else orElse (do moment; pure .moment)
      (orElse (do return .real (← real)) (do return .integer (← integer))) cs

end Codemod.Toml
