/-! Polynomials over two elements, whose coefficients are the bits of a number, and their remainders
modulo one of them. -/

namespace ClusterInventory.BinaryPolynomial

/-- The degree of a polynomial that is not zero. -/
def degree (f : Nat) : Nat := Nat.log2 f

def shifted (f a : Nat) : Nat :=
  let a := 2 * a
  if a.testBit (degree f) then Nat.xor a f else a

/-- The sum of an accumulated remainder, shifted so many times, and the product of a remainder with
as many of the lowest bits of another. -/
def mulFrom (f a b : Nat) : (count : Nat) → (sum : Nat) → Nat
  | 0, sum => sum
  | i + 1, sum =>
    let sum := shifted f sum
    mulFrom f a b i (if b.testBit i then Nat.xor sum a else sum)

def mulMod (f a b : Nat) : Nat := mulFrom f a b (degree f) 0

/-- The remainder of a polynomial of which so many coefficients count. -/
def reduce (f count a : Nat) : Nat := mulFrom f 1 a count 0

/-- The inverse of a remainder modulo an irreducible polynomial; zero has none and gives zero. It is
the product of squares: that of the remainder, the square of that, and so on, one fewer of them than
the degree. -/
def inverse (f a : Nat) : Nat :=
  let squares := (List.range (degree f - 1)).foldl
    (fun (acc : Nat × Nat) _ =>
      let square := mulMod f acc.1 acc.1
      (square, mulMod f acc.2 square))
    (a, 1)
  squares.2

/-- The trace of a remainder: the sum of it, its square, the square of that and so on. -/
def trace (f a : Nat) : Nat :=
  ((List.range (degree f - 1)).foldl
    (fun (acc : Nat × Nat) _ =>
      let square := mulMod f acc.1 acc.1
      (square, Nat.xor acc.2 square))
    (a, a)).2

end ClusterInventory.BinaryPolynomial
