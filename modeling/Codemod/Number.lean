/-! Numbers of 64 bits as a user writes them. -/
namespace Codemod

inductive NumberError where
  | empty
  | invalid
  | overflow
  deriving DecidableEq, Repr

def NumberError.message : NumberError → String
  | .empty => "cannot parse integer from empty string"
  | .invalid => "invalid digit found in string"
  | .overflow => "number too large to fit in target type"

def readDigits (n : Nat) : List Char → Except NumberError Nat
  | [] => .ok n
  | c :: cs =>
    if c.isDigit then
      let m := 10 * n + (c.toNat - '0'.toNat)
      if m < 2 ^ 64 then readDigits m cs else .error .overflow
    else .error .invalid

def readNumber (cs : List Char) : Except NumberError Nat :=
  let digits := match cs with
    | '+' :: rest => rest
    | _ => cs
  if cs.isEmpty then .error .empty
  else if digits.isEmpty then .error .invalid
  else readDigits 0 digits

end Codemod
