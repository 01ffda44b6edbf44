/-!
# Binary floating point, read and written in decimal

A number of the format is `mantissa · 2 ^ exponent` or infinite; signs are left to the expression
around a literal. Reading rounds a decimal to the nearest number, ties to the even mantissa. Writing
gives the fewest digits that read back to the same number, and of those the nearest.
-/

namespace LivePreview.Code

inductive Binary64 where
  | finite (mantissa : Nat) (exponent : Int)
  | infinite
  deriving DecidableEq, Repr, Inhabited

/-- A nonnegative fraction; the denominator is never zero where one is built. -/
structure Fraction where
  num : Nat
  den : Nat

namespace Fraction

def power (base : Nat) (e : Int) : Fraction :=
  if 0 ≤ e then ⟨base.pow e.toNat, 1⟩ else ⟨1, base.pow (-e).toNat⟩

def mul (x y : Fraction) : Fraction := ⟨x.num * y.num, x.den * y.den⟩

def scale (n : Nat) (x : Fraction) : Fraction := ⟨n * x.num, x.den⟩

def le (x y : Fraction) : Bool := x.num * y.den ≤ y.num * x.den

def lt (x y : Fraction) : Bool := x.num * y.den < y.num * x.den

/-- The distance between two fractions. -/
def dist (x y : Fraction) : Fraction :=
  ⟨max (x.num * y.den) (y.num * x.den) - min (x.num * y.den) (y.num * x.den), x.den * y.den⟩

/-- The nearest whole number, a half going to the even neighbour. -/
def round (x : Fraction) : Nat :=
  let q := x.num / x.den
  let twice := 2 * (x.num % x.den)
  if twice < x.den then q
  else if x.den < twice then q + 1
  else if q % 2 = 0 then q else q + 1

end Fraction

namespace Binary64

/-- The exponent of the smallest step. -/
def leastExponent : Int := -1074

/-- The exponent of the largest step; numbers past it are infinite. -/
def greatestExponent : Int := 971

/-- Settle a mantissa that rounding brought up to the next power of two. -/
def settle (mantissa : Nat) (exponent : Int) : Binary64 :=
  let (m, e) :=
    if mantissa = Nat.pow 2 53 then (Nat.pow 2 52, exponent + 1) else (mantissa, exponent)
  if m = 0 then finite 0 0 else if greatestExponent < e then infinite else finite m e

/-- The nearest number to a positive fraction. -/
def nearest (x : Fraction) : Binary64 :=
  let guess : Int := (x.num.log2 : Int) - (x.den.log2 : Int) - 53
  let quotient (e : Int) : Fraction := x.mul (Fraction.power 2 (-e))
  let fits (e : Int) : Bool := (quotient e).lt ⟨Nat.pow 2 53, 1⟩
  let e := if fits guess then guess else guess + 1
  let e := if fits e then e else e + 1
  let e := max e leastExponent
  settle (quotient e).round e

/-- The number that `digits · 10 ^ exponent` stands for. -/
def ofDecimal (digits : Nat) (exponent : Int) : Binary64 :=
  if digits = 0 then finite 0 0
  else
    let places : Int := (Nat.toDigits 10 digits).length
    if 310 < places + exponent then infinite
    else if places + exponent < -330 then finite 0 0
    else nearest ((Fraction.power 10 exponent).scale digits)

/-- Decimal digits and the place of the point, counted from their start. -/
structure Decimal where
  digits : List Char
  point : Int

/-- The exponent of the leading decimal digit of a positive fraction near `2 ^ twos`. -/
def leading (x : Fraction) (twos : Int) : Int :=
  let guess := Int.fdiv (twos * 30103) 100000
  if (Fraction.power 10 (guess + 1)).le x then guess + 1
  else if x.lt (Fraction.power 10 guess) then guess - 1
  else guess

/-- The point of the grid `10 ^ place` in the interval that is nearest to `x`, if one of the two
neighbours of `x` lies there. -/
def onGrid (x low high : Fraction) (closed : Bool) (place : Int) : Option Nat :=
  let unit := Fraction.power 10 place
  let below := let q := x.mul (Fraction.power 10 (-place)); q.num / q.den
  let within (n : Nat) : Bool :=
    let v := unit.scale n
    if closed then low.le v && v.le high else low.lt v && v.lt high
  match within below, within (below + 1) with
  | true, false => some below
  | false, true => some (below + 1)
  | false, false => none
  | true, true =>
    let down := x.dist (unit.scale below)
    let up := x.dist (unit.scale (below + 1))
    if down.lt up then some below
    else if up.lt down then some (below + 1)
    else if below % 2 = 0 then some below else some (below + 1)

/-- Drop zeros at the end; the point stays. -/
def trimZeros (ds : List Char) : List Char := (ds.reverse.dropWhile (· = '0')).reverse

/-- The first grid of 1 to 17 digits that has a point in the interval. -/
def shortestFrom (x low high : Fraction) (closed : Bool) (top : Int) : Nat → Nat → Decimal
  | 0, _ => ⟨['0'], 1⟩
  | fuel + 1, digits =>
    let place := top - digits + 1
    match onGrid x low high closed place with
    | some n =>
      let ds := Nat.toDigits 10 n
      ⟨trimZeros ds, ds.length + place⟩
    | none => shortestFrom x low high closed top fuel (digits + 1)

/-- The shortest decimal that reads back to `mantissa · 2 ^ exponent`. -/
def shortest (mantissa : Nat) (exponent : Int) : Decimal :=
  if mantissa = 0 then ⟨['0'], 1⟩
  else
    let unit := Fraction.power 2 (exponent - 2)
    let x := unit.scale (4 * mantissa)
    let high := unit.scale (4 * mantissa + 2)
    let low := unit.scale
      (if mantissa = Nat.pow 2 52 ∧ leastExponent < exponent then 4 * mantissa - 1
        else 4 * mantissa - 2)
    let top := leading x (exponent + mantissa.log2)
    shortestFrom x low high (mantissa % 2 == 0) top 17 1

def zeros (n : Int) : List Char := List.replicate n.toNat '0'

/-- Positional below `10 ^ 16` and from `10 ^ -4` on, else with an exponent of at least two digits.
With `pointed` a whole number in positional form gets a decimal place. -/
def Decimal.text (pointed : Bool) (d : Decimal) : List Char :=
  let n : Int := d.digits.length
  if d.point ≤ -4 ∨ 16 < d.point then
    let e := d.point - 1
    let tail := match d.digits.drop 1 with
      | [] => []
      | ds => '.' :: ds
    let places := Nat.toDigits 10 e.natAbs
    d.digits.take 1 ++ tail ++ ['e', if e < 0 then '-' else '+'] ++
      (if places.length < 2 then '0' :: places else places)
  else if d.point ≤ 0 then ['0', '.'] ++ zeros (-d.point) ++ d.digits
  else if n ≤ d.point then
    d.digits ++ zeros (d.point - n) ++ if pointed then ['.', '0'] else []
  else d.digits.take d.point.toNat ++ '.' :: d.digits.drop d.point.toNat

/-- The text of a number; an infinite one is written as a decimal that is too large. -/
def text (pointed : Bool) : Binary64 → List Char
  | finite m e => (shortest m e).text pointed
  | infinite => ['1', 'e', '3', '0', '9']

end Binary64

end LivePreview.Code
