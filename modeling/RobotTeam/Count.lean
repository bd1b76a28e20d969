/-!
Counts of instances. A count that is declared or read fits 32 bits; where totals are formed from
declared counts, sums and multiples beyond that limit stop at the limit. What is counted one by one
does not stop there: after the limit a counter starts over at zero.
-/

namespace RobotTeam.Count

/-- The largest count, which also stands for "no upper limit" in a bound. -/
def limit : Nat := 4294967295

def capped (n : Nat) : Nat := min n limit

def addCapped (a b : Nat) : Nat := capped (a + b)

def mulCapped (a b : Nat) : Nat := capped (a * b)

def sum (counts : List Nat) : Nat := counts.foldr (· + ·) 0

def product (counts : List Nat) : Nat := counts.foldr (· * ·) 1

@[simp] theorem sum_nil : sum [] = 0 := rfl

@[simp] theorem sum_cons (n : Nat) (rest : List Nat) : sum (n :: rest) = n + sum rest := rfl

@[simp] theorem product_nil : product [] = 1 := rfl

@[simp] theorem product_cons (n : Nat) (rest : List Nat) :
    product (n :: rest) = n * product rest := rfl

/-- What a counter shows that has counted so far. -/
def wrapped (n : Nat) : Nat := n % 4294967296

def next (n : Nat) : Nat := wrapped (n + 1)

@[simp] theorem wrapped_zero : wrapped 0 = 0 := rfl

theorem wrapped_add_wrapped (m n : Nat) : wrapped (wrapped m + n) = wrapped (m + n) :=
  Nat.mod_add_mod m _ n

theorem next_wrapped (n : Nat) : next (wrapped n) = wrapped (n + 1) := wrapped_add_wrapped n 1

theorem wrapped_le (n : Nat) : wrapped n ≤ limit := Nat.le_of_lt_succ (Nat.mod_lt n (by decide))

theorem wrapped_of_le {n : Nat} (h : n ≤ limit) : wrapped n = n := Nat.mod_eq_of_lt (Nat.lt_succ_of_le h)

theorem next_of_lt {n : Nat} (h : n < limit) : next n = n + 1 := wrapped_of_le h

/-- The signed 32-bit number with the same binary digits. Counts from 2^31 on become negative. -/
def signed (n : Nat) : Int := Int.bmod n 4294967296

end RobotTeam.Count
