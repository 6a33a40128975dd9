import Gremlin.Decimal.Binary
import Gremlin.Document
import Gremlin.Toml.Cursor

set_option autoImplicit false

namespace Gremlin.Toml

/-- Digits after the first, with single underscores between them. Stops before an underscore that
no digit follows and tells that it did. -/
def moreDigits (p : Char → Bool) : List Char → List Char × Bool
  | '_' :: d :: rest =>
    if p d then
      let (digits, stuck) := moreDigits p rest
      ('_' :: d :: digits, stuck)
    else ([], true)
  | d :: rest =>
    if p d then
      let (digits, stuck) := moreDigits p rest
      (d :: digits, stuck)
    else ([], d = '_')
  | [] => ([], false)

def readDigits (p : Char → Bool) (c : Cursor) : Except Fault (List Char × Cursor) :=
  match c.rest with
  | d :: rest =>
    if p d then
      let (digits, stuck) := moreDigits p rest
      let after := c.skip (digits.length + 1)
      if stuck then (after.skip 1).fail else .ok (d :: digits, after)
    else c.decline
  | [] => c.decline

def digitsValue (base : Nat) (digits : List Char) : Nat :=
  digits.foldl (fun n d =>
    if d = '_' then n
    else base * n + (if d.isDigit then d.toNat - '0'.toNat else d.toLower.toNat - 'a'.toNat + 10)) 0

/-- A whole number, which must fit 64 bits with a sign. -/
def wholeOf (start : Cursor) (negative : Bool) (n : Nat) (after : Cursor) :
    Except Fault (Document × Cursor) :=
  let value : Int := if negative then -(n : Int) else n
  if -0x8000000000000000 ≤ value ∧ value < 0x8000000000000000 then
    .ok (.whole start.place value, after)
  else start.fail

def readBased (start : Cursor) (base : Nat) (p : Char → Bool) :
    Except Fault (Document × Cursor) := do
  let (digits, after) ← settle (readDigits p (start.skip 2))
  wholeOf start false (digitsValue base digits) after

def readSign (c : Cursor) : Bool × Cursor :=
  match c.rest with
  | '-' :: _ => (true, c.skip 1)
  | '+' :: _ => (false, c.skip 1)
  | _ => (false, c)

def readPlaces (c : Cursor) : Except Fault (List Char × Cursor) :=
  if c.startsWith "." then settle (readDigits Char.isDigit (c.skip 1)) else .ok ([], c)

def readExponent (c : Cursor) : Except Fault (Int × Cursor) :=
  match c.rest with
  | 'e' :: _ | 'E' :: _ => settle do
    let (negative, c) := readSign (c.skip 1)
    let (digits, after) ← readDigits Char.isDigit c
    let size : Int := digitsValue 10 digits
    .ok (if negative then -size else size, after)
  | _ => .ok (0, c)

/-- A decimal number: whole, or with a fraction, an exponent or both. A whole part does not start
with a zero unless it is one. A fraction must not be too large upwards. -/
def readDecimal (start : Cursor) : Except Fault (Document × Cursor) := do
  let (negative, c) := readSign start
  let (digits, behind) ←
    if c.startsWith "0" then .ok (['0'], c.skip 1) else readDigits Char.isDigit c
  let (places, after) ← readPlaces behind
  let (exponent, after) ← readExponent after
  if after.place = behind.place then wholeOf start negative (digitsValue 10 digits) after
  else
    let shift : Int := exponent - (places.filter Char.isDigit).length
    if !negative && Decimal.isTooLarge (digitsValue 10 (digits ++ places)) shift then start.fail
    else .ok (.fraction start.place, after)

/-- So many digits, whose value lies between two bounds. -/
def readGroup (count least greatest : Nat) (c : Cursor) : Except Fault (Nat × Cursor) :=
  let digits := c.rest.take count
  let value := digitsValue 10 digits
  if digits.length = count ∧ digits.all Char.isDigit ∧ least ≤ value ∧ value ≤ greatest then
    .ok (value, c.skip count)
  else c.decline

def daysIn (year month : Nat) : Nat :=
  if month = 2 then
    if year % 4 = 0 ∧ (year % 100 ≠ 0 ∨ year % 400 = 0) then 29 else 28
  else if month = 4 ∨ month = 6 ∨ month = 9 ∨ month = 11 then 30
  else 31

/-- Moves past a date. Behind its year it is known for one. -/
def readDate (c : Cursor) : Except Fault Cursor := do
  let (year, c) ← readGroup 4 0 9999 c
  let c ← c.expect "-"
  settle do
    let (month, c) ← readGroup 2 1 12 c
    let c ← c.expect "-"
    let (_, after) ← readGroup 2 1 (daysIn year month) c
    .ok after

def skipParts (c : Cursor) : Cursor :=
  let (digits, after) := (c.skip 1).span Char.isDigit
  if c.startsWith "." && !digits.isEmpty then after else c

def readTime (c : Cursor) : Except Fault Cursor := do
  let (_, c) ← readGroup 2 0 23 c
  let c ← c.expect ":"
  settle do
    let (_, c) ← readGroup 2 0 59 c
    let c ← c.expect ":"
    let (_, c) ← readGroup 2 0 60 c
    .ok (skipParts c)

def readOffset (c : Cursor) : Except Fault Cursor :=
  match c.rest with
  | 'Z' :: _ | 'z' :: _ => .ok (c.skip 1)
  | '+' :: _ | '-' :: _ => settle do
    let (_, c) ← readGroup 2 0 23 (c.skip 1)
    let c ← c.expect ":"
    let (_, c) ← readGroup 2 0 59 c
    .ok c
  | _ => .ok c

def readTimeOfDate (c : Cursor) : Except Fault Cursor :=
  match c.rest with
  | 'T' :: _ | 't' :: _ | ' ' :: _ =>
    orElse (readTime (c.skip 1) >>= readOffset) fun _ => .ok c
  | _ => .ok c

def readMoment (c : Cursor) : Except Fault Cursor :=
  orElse (readDate c >>= readTimeOfDate) fun _ => readTime c

def readNumber (c : Cursor) : Except Fault (Document × Cursor) :=
  orElse ((readMoment c).map fun after => (.moment c.place, after)) fun _ =>
    let unsigned := (readSign c).2
    if unsigned.startsWith "inf" || unsigned.startsWith "nan" then
      .ok (.fraction c.place, unsigned.skip 3)
    else if c.startsWith "0x" then readBased c 16 fun d =>
      d.isDigit || ('a' ≤ d && d ≤ 'f') || ('A' ≤ d && d ≤ 'F')
    else if c.startsWith "0o" then readBased c 8 fun d => '0' ≤ d && d ≤ '7'
    else if c.startsWith "0b" then readBased c 2 fun d => d = '0' || d = '1'
    else readDecimal c

end Gremlin.Toml
