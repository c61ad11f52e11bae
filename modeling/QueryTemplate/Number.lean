/-!
# Numbers

How numbers are rounded and written. No number that is shown depends on the arithmetic of the
machine: a finite double is exactly a whole number times a power of two, so its decimal is found
in whole numbers.

* `Number.roundDiv` rounds a quotient to the nearest whole number; a tie goes to the even
  neighbour.
* `Number.inDouble` is the nearest number in double precision.
* `Number.FixedPoint.text` writes a rate with a fixed number of decimal places.
* `Text.Numeral` is the form in which the number after `BOOST` or `FUZZY` is read and printed:
  ASCII digits, no sign, no zero in front of another digit, and at most 32 bits.
-/

/-! ## Rounding to the nearest -/

namespace QueryTemplate.Number

/-- The whole number nearest to `num / den`; halfway between two, the even one. -/
def roundDiv (num den : Nat) : Nat :=
  let q := num / den
  let r := num % den
  if 2 * r < den ∨ (2 * r = den ∧ q % 2 = 0) then q else q + 1

/-- The nearest number to `n` in double precision, where a number has at most 53 significant
bits. -/
def inDouble (n : Nat) : Nat :=
  let unit := Nat.pow 2 (n.log2 - 52)
  roundDiv n unit * unit

end QueryTemplate.Number

/-! ## Fixed-point decimals -/

namespace QueryTemplate.Number.FixedPoint

/-- The exponent field of a double's bits. -/
def exponentBits (x : Float) : Nat := x.toBits.toNat / Nat.pow 2 52 % Nat.pow 2 11

/-- The significand: the fraction field, with the hidden bit of a normal number. -/
def significand (x : Float) : Nat :=
  let fraction := x.toBits.toNat % Nat.pow 2 52
  if exponentBits x = 0 then fraction else fraction + Nat.pow 2 52

/-- A finite non-negative `x`, rounded to a multiple of `10 ^ -places`, as that multiple. The value
of `x` is `significand x * 2 ^ (max 1 (exponentBits x) - 1075)`. -/
def scaled (places : Nat) (x : Float) : Nat :=
  let exponent := max 1 (exponentBits x)
  roundDiv (significand x * Nat.pow 10 places * Nat.pow 2 (exponent - 1075))
    (Nat.pow 2 (1075 - exponent))

/-- The digits of `n`, with zeros in front of them up to `width` characters. -/
def padded (width n : Nat) : List Char :=
  let digits := Nat.toDigits 10 n
  List.replicate (width - digits.length) '0' ++ digits

/-- A finite non-negative `x` with exactly `places` decimals. -/
def text (places : Nat) (x : Float) : String :=
  let n := scaled places x
  let unit := Nat.pow 10 places
  (n / unit).repr ++ "." ++ String.ofList (padded places (n % unit))

example : text 6 0.0078125 = "0.007812" := by decide +kernel

example : text 6 1 = "1.000000" := by decide +kernel

end QueryTemplate.Number.FixedPoint

/-! ## Canonical decimal numerals -/

namespace QueryTemplate.Text.Numeral

/-- Decimal digits, the first of which is zero only if it stands alone. -/
def isCanonical : List Char → Bool
  | [] => false
  | ['0'] => true
  | c :: cs => c != '0' && (c :: cs).all Char.isDigit

/-- The number that `cs` writes, if `cs` is a canonical numeral below `2 ^ 32`. -/
def ofChars? (cs : List Char) : Option UInt32 :=
  let n := Nat.ofDigitChars 10 cs 0
  if isCanonical cs && n < UInt32.size then some (UInt32.ofNat n) else none

/-- The canonical numeral of `n`. -/
def text (n : UInt32) : String := n.toNat.repr

end QueryTemplate.Text.Numeral
