import Gremlin.Random.Stream

set_option autoImplicit false

/-! A seeded generator: a stream and how far it has been read. -/

namespace Gremlin.Random

/-- A stream and the position of its next word. -/
structure Generator where
  key : Key
  position : Nat := 0
deriving DecidableEq, Repr

namespace Generator

/-- One step of the recurrence that spreads a seed over a key. -/
def spread (s : UInt64) : UInt64 := s * 6364136223846793005 + 11634580027462260723

/-- The key word of a state of the recurrence. -/
def seedWord (s : UInt64) : UInt32 :=
  let x := (((s >>> 18) ^^^ s) >>> 27).toUInt32
  let turn := (s >>> 59).toUInt32
  (x >>> turn) ||| (x <<< ((32 - turn) % 32))

def ofSeed (seed : Nat) : Generator :=
  let s1 := spread (UInt64.ofNat seed)
  let s2 := spread s1
  let s3 := spread s2
  let s4 := spread s3
  let s5 := spread s4
  let s6 := spread s5
  let s7 := spread s6
  let s8 := spread s7
  ⟨⟨⟨seedWord s1, seedWord s2, seedWord s3, seedWord s4⟩,
    ⟨seedWord s5, seedWord s6, seedWord s7, seedWord s8⟩⟩, 0⟩

def word (g : Generator) : Nat × Generator :=
  (g.key.word g.position, { g with position := g.position + 1 })

/-- The next number of 64 bits: two words, the low one first. -/
def long (g : Generator) : Nat × Generator :=
  (g.key.word g.position + g.key.word (g.position + 1) * 0x100000000,
    { g with position := g.position + 2 })

/-- A generator whose key is the next eight words, and the rest of the stream. -/
def split (g : Generator) : Generator × Generator :=
  let w (i : Nat) : UInt32 := UInt32.ofNat (g.key.word (g.position + i))
  (⟨⟨⟨w 0, w 1, w 2, w 3⟩, ⟨w 4, w 5, w 6, w 7⟩⟩, 0⟩, { g with position := g.position + 8 })

/-- A number below `n`, scaled from a draw below `bound`. Where the lower half of the product might
carry, a second draw decides. -/
def scaled (bound : Nat) (draw : Generator → Nat × Generator) (n : Nat) (g : Generator) :
    Nat × Generator :=
  let first := draw g
  let high := first.1 * n / bound
  let low := first.1 * n % bound
  if bound - n < low then
    let second := draw first.2
    (if bound ≤ low + second.1 * n / bound then high + 1 else high, second.2)
  else (high, first.2)

def below (n : Nat) (g : Generator) : Nat × Generator := scaled 0x100000000 word n g

def belowLong (n : Nat) (g : Generator) : Nat × Generator := scaled 0x10000000000000000 long n g

/-- One of some values; nothing is drawn if there is none. -/
def choose {α : Type} (g : Generator) (values : List α) : Option α × Generator :=
  match values with
  | [] => (none, g)
  | _ =>
    let drawn := g.below values.length
    (values[drawn.1]?, drawn.2)

end Generator

end Gremlin.Random
