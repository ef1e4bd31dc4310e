/-!
Numbers of double precision, written in decimal. A number is shown with the fewest digits that read
back as the same number, never with an exponent, and always with a point.
-/
namespace Codemod

/-- A number as it is written: `digits * 10 ^ exponent`. -/
structure Decimal where
  negative : Bool
  digits : Nat
  exponent : Int
  deriving DecidableEq, Repr

namespace Decimal

def magnitude (d : Decimal) : Int := (Nat.toDigits 10 d.digits).length + d.exponent

structure Ratio where
  num : Nat
  den : Nat

def ratio (d : Decimal) : Ratio :=
  if 0 ≤ d.exponent then ⟨d.digits * Nat.pow 10 d.exponent.toNat, 1⟩
  else ⟨d.digits, Nat.pow 10 (-d.exponent).toNat⟩

structure Double where
  mantissa : Nat
  exponent : Int
  deriving DecidableEq, Repr

def nearest (num den : Nat) : Nat :=
  let q := num / den
  let r := num % den
  if 2 * r < den then q
  else if den < 2 * r then q + 1
  else if q % 2 = 0 then q else q + 1

def binaryExponent (r : Ratio) : Int :=
  let e : Int := (r.num.log2 : Int) - (r.den.log2 : Int) - 53
  let scaled (e : Int) : Nat :=
    if 0 ≤ e then r.num / (r.den * Nat.pow 2 e.toNat) else r.num * Nat.pow 2 (-e).toNat / r.den
  let e := if Nat.pow 2 53 ≤ scaled e then e + 1 else e
  let e := if Nat.pow 2 53 ≤ scaled e then e + 1 else e
  max e (-1074)

def double? (d : Decimal) : Option Double :=
  if d.digits = 0 || d.magnitude < -400 then some ⟨0, -1074⟩
  else if 400 < d.magnitude then none
  else
    let r := d.ratio
    let e := binaryExponent r
    let m := if 0 ≤ e then nearest r.num (r.den * Nat.pow 2 e.toNat)
      else nearest (r.num * Nat.pow 2 (-e).toNat) r.den
    let (m, e) := if m = Nat.pow 2 53 then (Nat.pow 2 52, e + 1) else (m, e)
    if 971 < e then none else some ⟨m, e⟩

def isInfinite (d : Decimal) : Bool := d.double?.isNone

/-- A multiple of a quarter unit in the last place of a double: `quarters * 2 ^ (exponent - 2)`. -/
def Double.quarters (x : Double) (n : Nat) : Ratio :=
  let e := x.exponent - 2
  if 0 ≤ e then ⟨n * Nat.pow 2 e.toNat, 1⟩ else ⟨n, Nat.pow 2 (-e).toNat⟩

def Double.readsBack (x : Double) (digits : Nat) (e : Int) : Bool :=
  (Decimal.mk false digits e).double? = some x

def Double.below (x : Double) (e : Int) : Nat :=
  let r := x.quarters (4 * x.mantissa)
  if 0 ≤ e then r.num / (r.den * Nat.pow 10 e.toNat) else r.num * Nat.pow 10 (-e).toNat / r.den

def Double.choose (x : Double) (e : Int) : Option Nat :=
  let lo := x.below e
  let r := x.quarters (4 * x.mantissa)
  let twice : Nat := if 0 ≤ e then 2 * r.num / (r.den * Nat.pow 10 e.toNat)
    else 2 * r.num * Nat.pow 10 (-e).toNat / r.den
  let exact : Bool := if 0 ≤ e then 2 * r.num % (r.den * Nat.pow 10 e.toNat) == 0
    else 2 * r.num * Nat.pow 10 (-e).toNat % r.den == 0
  let preferUp : Bool :=
    if twice = 2 * lo then false else !exact || lo % 2 == 1
  match x.readsBack lo e, x.readsBack (lo + 1) e with
  | true, true => some (if preferUp then lo + 1 else lo)
  | true, false => some lo
  | false, true => some (lo + 1)
  | false, false => none

def Double.shortestFrom (x : Double) : Nat → Int → Nat × Int
  | 0, e => (x.below e, e)
  | n + 1, e =>
    match x.choose e with
    | some d => if d = 0 then x.shortestFrom n (e - 1) else (d, e)
    | none => x.shortestFrom n (e - 1)

def Double.shortest (x : Double) : Nat × Int :=
  let r := x.quarters (4 * x.mantissa)
  let top : Int := ((r.num.log2 : Int) - (r.den.log2 : Int)) * 30103 / 100000 + 2
  x.shortestFrom 24 top

def positional (digits : Nat) (e : Int) : String :=
  let shown := Nat.toDigits 10 digits
  if 0 ≤ e then String.ofList (shown ++ List.replicate e.toNat '0') ++ ".0"
  else
    let places := (-e).toNat
    let padded := List.replicate (places + 1 - shown.length) '0' ++ shown
    String.ofList (padded.take (padded.length - places)) ++ "." ++
      String.ofList (padded.drop (padded.length - places))

def text (d : Decimal) : String :=
  (if d.negative then "-" else "") ++
    match d.double? with
    | none => "inf"
    | some x =>
      if x.mantissa = 0 then "0.0"
      else
        let (digits, e) := x.shortest
        positional digits e

end Decimal

end Codemod
