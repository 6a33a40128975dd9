import Gremlin.Toml.Cursor

set_option autoImplicit false

/-! Quoted texts: basic ones with escapes, literal ones without, each on one line or on several. -/

namespace Gremlin.Toml

def isPlain (c : Char) : Bool := c = '\t' || (0x20 ≤ c.toNat && c.toNat ≠ 0x7F)

def hexValue? (c : Char) : Option Nat :=
  if c.isDigit then some (c.toNat - '0'.toNat)
  else if 'a' ≤ c ∧ c ≤ 'f' then some (c.toNat - 'a'.toNat + 10)
  else if 'A' ≤ c ∧ c ≤ 'F' then some (c.toNat - 'A'.toNat + 10)
  else none

def codePoint? (digits : List Char) : Option Char := do
  let values ← digits.mapM hexValue?
  let n := values.foldl (fun n d => 16 * n + d) 0
  if n < 0xD800 ∨ (0xDFFF < n ∧ n < 0x110000) then some (Char.ofNat n) else none

def escaped? : Char → Option Char
  | 'b' => some '\x08'
  | 't' => some '\t'
  | 'n' => some '\n'
  | 'f' => some '\x0c'
  | 'r' => some '\r'
  | '"' => some '"'
  | '\\' => some '\\'
  | _ => none

/-- The character of an escape behind its backslash, and how many characters spell it. -/
def escape? : List Char → Option (Char × Nat)
  | 'u' :: rest => if rest.length < 4 then none else (codePoint? (rest.take 4)).map (·, 5)
  | 'U' :: rest => if rest.length < 8 then none else (codePoint? (rest.take 8)).map (·, 9)
  | letter :: _ => (escaped? letter).map (·, 1)
  | [] => none

/-- Where a faulty escape stops the reading: behind its letter, but in front of a letter of several
bytes. A backslash that nothing follows is no escape, and the quotes right before it are not passed
either. -/
def escapeFault (quotes place : Nat) : List Char → Nat
  | [] => place - quotes
  | letter :: _ => if letter.toNat < 128 then place + 2 else place + 1

abbrev Quoted := Except Fault (List Char × Cursor)

def Quoted.cons (c : Char) (text : Quoted) : Quoted :=
  text.map fun (cs, rest) => (c :: cs, rest)

/-- A basic text on one line, after its opening quote. So many characters were read before. -/
def basicText : (done place : Nat) → List Char → Quoted
  | _, place, [] => faultAt place
  | done + 1, place, _ :: rest => basicText done (place + 1) rest
  | 0, place, c :: rest =>
    if c = '"' then .ok ([], ⟨place + 1, rest⟩)
    else if c = '\\' then
      match escape? rest with
      | some (x, length) => .cons x (basicText length (place + 1) rest)
      | none => faultAt (escapeFault 0 place rest)
    else if isPlain c then .cons c (basicText 0 (place + 1) rest)
    else faultAt place

def literalText (place : Nat) : List Char → Quoted
  | [] => faultAt place
  | '\'' :: rest => .ok ([], ⟨place + 1, rest⟩)
  | c :: rest => if isPlain c then .cons c (literalText (place + 1) rest) else faultAt place

def endsLine (cs : List Char) : Bool :=
  match cs.dropWhile fun c => c = ' ' || c = '\t' with
  | '\n' :: _ => true
  | '\r' :: '\n' :: _ => true
  | _ => false

/-- The end of a text on several lines, if it comes next: three quotes, and up to two more before
them that belong to the text. -/
def closing? (quote : Char) (place : Nat) (cs : List Char) : Option (List Char × Cursor) :=
  let count := min 5 (cs.takeWhile (· = quote)).length
  if count < 3 then none
  else some (List.replicate (count - 3) quote, ⟨place + count, cs.drop count⟩)

/-- A basic text on several lines, after its opening quotes. A backslash that ends a line joins it
to what follows the blanks after it; `joining` tells that these are being passed. `quotes` counts
the quotes read last. Where no text follows them the fault is where they start. -/
def basicLines : (joining : Bool) → (quotes done place : Nat) → List Char → Quoted
  | _, quotes, _, place, [] => faultAt (place - quotes)
  | joining, quotes, done + 1, place, _ :: rest => basicLines joining quotes done (place + 1) rest
  | joining, quotes, 0, place, c :: rest =>
    if c = '"' then
      match closing? '"' place (c :: rest) with
      | some ending => .ok ending
      | none => .cons '"' (basicLines false (quotes + 1) 0 (place + 1) rest)
    else if c = '\\' then
      if endsLine rest then basicLines true 0 0 (place + 1) rest
      else match escape? rest with
      | some (x, length) => .cons x (basicLines false 0 length (place + 1) rest)
      | none => faultAt (escapeFault quotes place rest)
    else if c = '\r' then
      if !rest.head?.any (· = '\n') then faultAt (place - quotes)
      else if joining then basicLines true 0 1 (place + 1) rest
      else .cons '\n' (basicLines false 0 1 (place + 1) rest)
    else if joining && (c = ' ' || c = '\t' || c = '\n') then basicLines true 0 0 (place + 1) rest
    else if c = '\n' || isPlain c then .cons c (basicLines false 0 0 (place + 1) rest)
    else faultAt (place - quotes)

def literalLines : (quotes done place : Nat) → List Char → Quoted
  | quotes, _, place, [] => faultAt (place - quotes)
  | quotes, done + 1, place, _ :: rest => literalLines quotes done (place + 1) rest
  | quotes, 0, place, c :: rest =>
    if c = '\'' then
      match closing? '\'' place (c :: rest) with
      | some ending => .ok ending
      | none => .cons '\'' (literalLines (quotes + 1) 0 (place + 1) rest)
    else if c = '\r' then
      if rest.head?.any (· = '\n') then .cons '\n' (literalLines 0 1 (place + 1) rest)
      else faultAt (place - quotes)
    else if c = '\n' || isPlain c then .cons c (literalLines 0 0 (place + 1) rest)
    else faultAt (place - quotes)

def skipBreak (c : Cursor) : Cursor :=
  match c.rest with
  | '\n' :: _ => c.skip 1
  | '\r' :: '\n' :: _ => c.skip 2
  | _ => c

def readKeyText (c : Cursor) : Except Fault (String × Cursor) :=
  match c.rest with
  | '"' :: rest => (basicText 0 (c.place + 1) rest).map fun (cs, c) => (String.ofList cs, c)
  | '\'' :: rest => (literalText (c.place + 1) rest).map fun (cs, c) => (String.ofList cs, c)
  | _ => c.decline

def readText (c : Cursor) : Except Fault (String × Cursor) :=
  if c.startsWith "\"\"\"" then
    let c := skipBreak (c.skip 3)
    (basicLines false 0 0 c.place c.rest).map fun (cs, c) => (String.ofList cs, c)
  else if c.startsWith "'''" then
    let c := skipBreak (c.skip 3)
    (literalLines 0 0 c.place c.rest).map fun (cs, c) => (String.ofList cs, c)
  else readKeyText c

end Gremlin.Toml
