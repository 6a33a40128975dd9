import Gremlin.Decimal.Shortest
import Gremlin.Text.Numeral

set_option autoImplicit false

/-!
How decimal digits are laid out: plainly, with a mark that shows a fraction, or with a set number
of places.
-/

namespace Gremlin.Decimal

open Gremlin.Text (decimal)

def positional (digits : List Char) (exponent : Int) : List Char :=
  let places := (-exponent).toNat
  if places = 0 then digits ++ List.replicate exponent.toNat '0'
  else if digits.length ≤ places then
    '0' :: '.' :: (List.replicate (places - digits.length) '0' ++ digits)
  else digits.take (digits.length - places) ++ '.' :: digits.drop (digits.length - places)

def integer (n : Int) : List Char :=
  if n < 0 then '-' :: decimal n.natAbs else decimal n.natAbs

def scientific (digits : List Char) (exponent : Int) : List Char :=
  let tens := exponent + digits.length - 1
  let fraction := digits.drop 1
  digits.take 1 ++ (if fraction.isEmpty then [] else '.' :: fraction) ++ 'e' :: integer tens

def Digits.plain (d : Digits) : List Char :=
  if d.digits = 0 then ['0'] else positional (decimal d.digits) d.exponent

/-- Positional from `10 ^ -4` up to below `10 ^ 16`, with `.0` after a whole number; scientific
outside. -/
def Digits.marked (d : Digits) : List Char :=
  let digits := decimal d.digits
  let lead := d.exponent + digits.length
  if d.digits = 0 then ['0', '.', '0']
  else if lead ≤ -4 ∨ 17 ≤ lead then scientific digits d.exponent
  else if 0 ≤ d.exponent then positional digits d.exponent ++ ['.', '0']
  else positional digits d.exponent

/-- The number with `places` digits after the point; a half goes to the even neighbour. -/
def BinaryFraction.fixed (places : Nat) (x : BinaryFraction) : List Char :=
  positional (decimal (halfEven (x.num * Nat.pow 10 places) x.den)) (-(places : Int))

/-- The texts of the doubles that are no numbers, and a sign before the others. -/
def layout (write : BinaryFraction → List Char) (x : Float) : List Char :=
  match reading x with
  | .notANumber => ['N', 'a', 'N']
  | .infinite negative => if negative then ['-', 'i', 'n', 'f'] else ['i', 'n', 'f']
  | .finite negative size => if negative then '-' :: write size else write size

/-- The shortest text that reads back to the double. -/
def plain (x : Float) : List Char := layout (fun size => (Format.double.shortest size).plain) x

def marked (x : Float) : List Char := layout (fun size => (Format.double.shortest size).marked) x

def fixed (places : Nat) (x : Float) : List Char := layout (·.fixed places) x

end Gremlin.Decimal
