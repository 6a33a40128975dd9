set_option autoImplicit false

/-!
Binary fractions in the logic: a natural mantissa times a power of two, the nearest one of a
format to a given ratio, and the bits of a double in both directions.
-/

namespace Gremlin.Decimal

/-- The number `mantissa * 2 ^ exponent`. -/
structure BinaryFraction where
  mantissa : Nat
  exponent : Int
deriving DecidableEq, Inhabited

def BinaryFraction.num (x : BinaryFraction) : Nat := x.mantissa * Nat.pow 2 x.exponent.toNat

def BinaryFraction.den (x : BinaryFraction) : Nat := Nat.pow 2 (-x.exponent).toNat

/-- How many bits a mantissa has, and the least exponent that is kept. -/
structure Format where
  bits : Nat
  least : Int

def Format.double : Format := ⟨53, -1074⟩

def Format.single : Format := ⟨24, -149⟩

/-- A quotient rounded to the nearest natural number; of two equally near ones the even. -/
def halfEven (num den : Nat) : Nat :=
  let quotient := num / den
  let twice := 2 * (num % den)
  if twice < den then quotient
  else if den < twice then quotient + 1
  else quotient + quotient % 2

/-- A quotient rounded to the nearest natural number; of two equally near ones the greater. -/
def halfUp (num den : Nat) : Nat := (2 * num + den) / (2 * den)

/-- The exponent at which the ratio's mantissa fills the format's bits, or the least one. -/
def Format.exponentFor (f : Format) (num den : Nat) : Int :=
  let guess : Int := (num.log2 : Int) - den.log2 - f.bits
  let fits : Bool := num * Nat.pow 2 (-guess).toNat < den * Nat.pow 2 guess.toNat * Nat.pow 2 f.bits
  max (if fits then guess else guess + 1) f.least

/-- The number of the format that is nearest to `num / den`; of two equally near ones the even
one. A mantissa that rounds up to one bit too many is halved. -/
def Format.nearest (f : Format) (num den : Nat) : BinaryFraction :=
  if num = 0 then ⟨0, f.least⟩
  else
    let exponent := f.exponentFor num den
    let mantissa := halfEven (num * Nat.pow 2 (-exponent).toNat) (den * Nat.pow 2 exponent.toNat)
    if mantissa = Nat.pow 2 f.bits then ⟨Nat.pow 2 (f.bits - 1), exponent + 1⟩
    else ⟨mantissa, exponent⟩

/-- Adds numbers one after another, each sum rounded to the format. -/
def Format.sum (f : Format) (numbers : List Nat) : BinaryFraction :=
  numbers.foldl
    (fun sum n =>
      let term := f.nearest n 1
      f.nearest (sum.num * term.den + term.num * sum.den) (sum.den * term.den))
    (f.nearest 0 1)

def Format.ofDecimal (f : Format) (digits : Nat) (exponent : Int) : BinaryFraction :=
  f.nearest (digits * Nat.pow 10 exponent.toNat) (Nat.pow 10 (-exponent).toNat)

inductive Reading where
  | notANumber
  | infinite (negative : Bool)
  | finite (negative : Bool) (size : BinaryFraction)

def reading (x : Float) : Reading :=
  let bits := x.toBits.toNat
  let negative := Nat.pow 2 63 ≤ bits
  let exponent : Nat := bits / Nat.pow 2 52 % Nat.pow 2 11
  let fraction := bits % Nat.pow 2 52
  if exponent = Nat.pow 2 11 - 1 then
    if fraction = 0 then .infinite negative else .notANumber
  else if exponent = 0 then .finite negative ⟨fraction, -1074⟩
  else .finite negative ⟨Nat.pow 2 52 + fraction, (exponent : Int) - 1075⟩

/-- The bits of a number of the double format; one that is too large is infinite. -/
def BinaryFraction.bits (x : BinaryFraction) : Nat :=
  if x.mantissa < Nat.pow 2 52 then x.mantissa
  else
    let exponent := (x.exponent + 1075).toNat
    if Nat.pow 2 11 - 1 ≤ exponent then (Nat.pow 2 11 - 1) * Nat.pow 2 52
    else exponent * Nat.pow 2 52 + (x.mantissa - Nat.pow 2 52)

def BinaryFraction.toFloat (x : BinaryFraction) : Float := Float.ofBits (UInt64.ofNat x.bits)

def ofDigits (digits places : Nat) : Float :=
  (Format.double.ofDecimal digits (-(places : Int))).toFloat

/-- Whether `digits * 10 ^ exponent` is too large for a double. Only numbers of 309 digits need a
closer look. -/
def isTooLarge (digits : Nat) (exponent : Int) : Bool :=
  let width : Int := (Nat.toDigits 10 digits).length + exponent
  if digits = 0 ∨ width < 309 then false
  else if 309 < width then true
  else (Nat.pow 2 11 - 1) * Nat.pow 2 52 ≤ (Format.double.ofDecimal digits exponent).bits

/-- The nearest natural number, half away from zero, held between zero and `limit`. What is not a
number counts as zero. -/
def roundWithin (limit : Nat) (x : Float) : Nat :=
  match reading x with
  | .notANumber => 0
  | .infinite negative => if negative then 0 else limit
  | .finite negative size => if negative then 0 else min limit (halfUp size.num size.den)

end Gremlin.Decimal
