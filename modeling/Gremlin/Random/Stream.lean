set_option autoImplicit false

/-!
The word stream of a ChaCha cipher with twelve rounds: a pure function of a key and a position.
-/

namespace Gremlin.Random

structure Row where
  a : UInt32
  b : UInt32
  c : UInt32
  d : UInt32
deriving DecidableEq, Repr

namespace Row

def zip (combine : UInt32 → UInt32 → UInt32) (v w : Row) : Row :=
  ⟨combine v.a w.a, combine v.b w.b, combine v.c w.c, combine v.d w.d⟩

def rotate (v : Row) (n : UInt32) : Row :=
  let turn (w : UInt32) : UInt32 := (w <<< n) ||| (w >>> (32 - n))
  ⟨turn v.a, turn v.b, turn v.c, turn v.d⟩

def shift (v : Row) : Row := ⟨v.b, v.c, v.d, v.a⟩

def toList (v : Row) : List UInt32 := [v.a, v.b, v.c, v.d]

end Row

structure Block where
  r0 : Row
  r1 : Row
  r2 : Row
  r3 : Row
deriving DecidableEq, Repr

namespace Block

def mix (s : Block) : Block :=
  let r0 := s.r0.zip (· + ·) s.r1
  let r3 := (s.r3.zip (· ^^^ ·) r0).rotate 16
  let r2 := s.r2.zip (· + ·) r3
  let r1 := (s.r1.zip (· ^^^ ·) r2).rotate 12
  let r0 := r0.zip (· + ·) r1
  let r3 := (r3.zip (· ^^^ ·) r0).rotate 8
  let r2 := r2.zip (· + ·) r3
  let r1 := (r1.zip (· ^^^ ·) r2).rotate 7
  ⟨r0, r1, r2, r3⟩

/-- A round over the columns and a round over the diagonals. -/
def doubleRound (s : Block) : Block :=
  let s := s.mix
  let s := mix ⟨s.r0, s.r1.shift, s.r2.shift.shift, s.r3.shift.shift.shift⟩
  ⟨s.r0, s.r1.shift.shift.shift, s.r2.shift.shift, s.r3.shift⟩

def rounds : Nat → Block → Block
  | 0, s => s
  | n + 1, s => rounds n s.doubleRound

def add (s t : Block) : Block :=
  ⟨s.r0.zip (· + ·) t.r0, s.r1.zip (· + ·) t.r1, s.r2.zip (· + ·) t.r2, s.r3.zip (· + ·) t.r3⟩

def toList (s : Block) : List UInt32 :=
  s.r0.toList ++ s.r1.toList ++ s.r2.toList ++ s.r3.toList

end Block

structure Key where
  low : Row
  high : Row
deriving DecidableEq, Repr

/-- The block of a stream with a number; the nonce is zero. -/
def Key.block (key : Key) (number : Nat) : Block :=
  let start : Block :=
    ⟨⟨0x61707865, 0x3320646e, 0x79622d32, 0x6b206574⟩, key.low, key.high,
      ⟨UInt32.ofNat number, UInt32.ofNat (number / 0x100000000), 0, 0⟩⟩
  (start.rounds 6).add start

def Key.word (key : Key) (position : Nat) : Nat :=
  ((key.block (position / 16)).toList.getD (position % 16) 0).toNat

end Gremlin.Random
