set_option autoImplicit false

/-! White space of the written formats, and what is left of a text once it is cut from both ends. -/

namespace Gremlin.Text

/-- The code points with the White_Space property. -/
def isBlank (c : Char) : Bool :=
  let n := c.toNat
  (0x9 ≤ n && n ≤ 0xD) || n == 0x20 || n == 0x85 || n == 0xA0 || n == 0x1680 ||
    (0x2000 ≤ n && n ≤ 0x200A) || n == 0x2028 || n == 0x2029 || n == 0x202F || n == 0x205F ||
    n == 0x3000

def trimStart (cs : List Char) : List Char := cs.dropWhile isBlank

def trimEnd (cs : List Char) : List Char := (trimStart cs.reverse).reverse

def trim (cs : List Char) : List Char := trimEnd (trimStart cs)

@[simp] theorem trimStart_nil : trimStart [] = [] := rfl

theorem trimStart_cons_of_not_blank {c : Char} (rest : List Char) (solid : isBlank c = false) :
    trimStart (c :: rest) = c :: rest := by
  simp [trimStart, solid]

def trimmed (s : String) : String := String.ofList (trim s.toList)

end Gremlin.Text
