/-!
# Digits

Natural numbers written in a base, and read back.

* `ofDigits_toDigits`: reading what was written gives the number.
-/

namespace LuaSession.Number

/-- The digits of `n` in base `base + 2`, the last first; `fuel` bounds their number. -/
def digitsRev (base : Nat) : Nat → Nat → List Nat
  | 0, _ => []
  | fuel + 1, n =>
    if n < base + 2 then [n] else n % (base + 2) :: digitsRev base fuel (n / (base + 2))

/-- The digits of `n` in base ten, the first digit first. -/
def toDigits (n : Nat) : List Nat :=
  (digitsRev 8 (n + 1) n).reverse

/-- The number with these digits in base ten. -/
def ofDigits (ds : List Nat) : Nat :=
  ds.foldl (fun a d => a * 10 + d) 0

/-- The character of a digit, lower case above nine. -/
def digitChar (d : Nat) : Char :=
  if d < 10 then Char.ofNat (48 + d) else Char.ofNat (87 + d)

/-- The value of a decimal digit. -/
def digitValue? (c : Char) : Option Nat :=
  if '0' ≤ c ∧ c ≤ '9' then some (c.toNat - 48) else none

/-- The value of a hexadecimal digit of either case. -/
def hexValue? (c : Char) : Option Nat :=
  if '0' ≤ c ∧ c ≤ '9' then some (c.toNat - 48)
  else if 'a' ≤ c ∧ c ≤ 'f' then some (c.toNat - 87)
  else if 'A' ≤ c ∧ c ≤ 'F' then some (c.toNat - 55)
  else none

/-- The decimal text of a natural number. -/
def natChars (n : Nat) : List Char :=
  (toDigits n).map digitChar

/-- The decimal text of an integer. -/
def intChars (n : Int) : List Char :=
  if n < 0 then '-' :: natChars n.natAbs else natChars n.natAbs

/-- The decimal text of an integer. -/
def intText (n : Int) : String :=
  String.ofList (intChars n)

/-- The hexadecimal text of a natural number, in at least `width` lower-case digits. -/
def hexChars (width : Nat) (n : Nat) : List Char :=
  let ds := ((digitsRev 14 (n + 1) n).reverse).map digitChar
  List.replicate (width - ds.length) '0' ++ ds

theorem digitsRev_value (base : Nat) : ∀ fuel n, n < fuel →
    (digitsRev base fuel n).foldr (fun d a => a * (base + 2) + d) 0 = n
  | 0, n, h => absurd h (Nat.not_lt_zero n)
  | fuel + 1, n, h => by
    rw [digitsRev]
    split
    · simp
    · rename_i hn
      have hlt : n / (base + 2) < fuel := by
        have : n / (base + 2) < n := Nat.div_lt_self (by omega) (by omega)
        omega
      rw [List.foldr_cons, digitsRev_value base fuel _ hlt]
      exact Nat.div_add_mod' n (base + 2)

/-- Reading what was written gives the number. -/
theorem ofDigits_toDigits (n : Nat) : ofDigits (toDigits n) = n := by
  rw [ofDigits, toDigits, List.foldl_reverse]
  exact digitsRev_value 8 (n + 1) n (Nat.lt_succ_self n)

end LuaSession.Number
