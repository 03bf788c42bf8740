import DocSections.Decimal.Basic

/-! Floating-point numbers of 64 bits as exact products of a mantissa and a power of two: rounding a
fraction to the nearest one, and the shortest decimal that reads back. -/

namespace DocSections

/-- The number `mantissa · 2 ^ exponent`, where the mantissa has 53 bits, or fewer at the lowest
exponent. -/
structure Binary64 where
  mantissa : Nat
  exponent : Int
deriving DecidableEq, Repr

namespace Binary64

def zero : Binary64 := ⟨0, -1074⟩

def leastFull : Nat := 0x10000000000000

def scaled (a b : Nat) (e : Int) : Nat × Nat :=
  if 0 ≤ e then (a * Nat.pow b e.toNat, 1) else (a, Nat.pow b (-e).toNat)

/-- The quotient rounded to the nearest whole number, and to the even one of two equally near. -/
def roundDiv (num den : Nat) : Nat :=
  let q := num / den
  let twice := 2 * (num % den)
  if twice < den then q else if den < twice then q + 1 else q + q % 2

/-- The exponent of the highest power of two that is not above `num / den`. -/
def floorLog (num den : Nat) : Int :=
  let e : Int := Nat.log2 num - Nat.log2 den
  let below := scaled 1 2 e
  if num * below.2 < den * below.1 then e - 1 else e

/-- The nearest number to `num / den`, or `none` when that is beyond the greatest. -/
def ofRatio? (num den : Nat) : Option Binary64 :=
  if num = 0 then some zero
  else
    let e := max (floorLog num den - 52) (-1074)
    let unit := scaled 1 2 e
    let m := roundDiv (num * unit.2) (den * unit.1)
    let r : Binary64 := if m = 2 * leastFull then ⟨leastFull, e + 1⟩ else ⟨m, e⟩
    if 971 < r.exponent then none else some r

def toRatio (x : Binary64) : Nat × Nat := scaled x.mantissa 2 x.exponent

def mul? (x y : Binary64) : Option Binary64 :=
  ofRatio? (x.toRatio.1 * y.toRatio.1) (x.toRatio.2 * y.toRatio.2)

def div? (x y : Binary64) : Option Binary64 :=
  ofRatio? (x.toRatio.1 * y.toRatio.2) (x.toRatio.2 * y.toRatio.1)

/-- The numbers that round to `x`, in quarters of its unit: the ends belong to them when the
mantissa is even. Below a power of two the neighbour is only half a unit away. -/
def quarters (x : Binary64) : Nat × Nat :=
  let m := x.mantissa
  (4 * m - (if m = leastFull ∧ -1074 < x.exponent then 1 else 2), 4 * m + 2)

def covers (x : Binary64) (d : Nat) (k : Int) : Bool :=
  let unit := scaled 1 2 (x.exponent - 2)
  let grid := scaled d 10 k
  let p := grid.1 * unit.2
  let q := grid.2 * unit.1
  let lo := x.quarters.1 * q
  let hi := x.quarters.2 * q
  if x.mantissa % 2 = 0 then lo ≤ p && p ≤ hi else lo < p && p < hi

/-- The multiple of `10 ^ k` that is nearest to `x` among those that round to it. -/
def onGrid? (x : Binary64) (k : Int) : Option Nat :=
  let v := x.toRatio
  let g := scaled 1 10 k
  let num := v.1 * g.2
  let den := v.2 * g.1
  let near := roundDiv num den
  let floor := num / den
  if covers x near k then some near
  else if covers x floor k then some floor
  else if covers x (floor + 1) k then some (floor + 1)
  else none

/-- The decimal with the fewest digits that rounds to `x`: it lies on the coarsest grid of multiples
of a power of ten that has such a point. -/
def shortest (negative : Bool) (x : Binary64) : Decimal :=
  if x.mantissa = 0 then ⟨negative, 0, 0⟩
  else
    ((List.range 660).findSome? fun (i : Nat) =>
      let k : Int := 310 - i
      (x.onGrid? k).map fun d => ⟨negative, d, k⟩).getD ⟨negative, x.mantissa, x.exponent⟩

def ofDecimal? (digits : Nat) (exponent : Int) : Option Binary64 :=
  let r := scaled digits 10 exponent
  ofRatio? r.1 r.2

example : (ofDecimal? 30000000000000004 (-17)).map (shortest false) =
    some ⟨false, 30000000000000004, -17⟩ := by decide +kernel
example : (ofDecimal? 5 (-324)).map (shortest false) = some ⟨false, 5, -324⟩ := by decide +kernel
example : (ofDecimal? 17976931348623157 292).map (shortest false) =
    some ⟨false, 17976931348623157, 292⟩ := by decide +kernel
example : ofDecimal? 1 309 = none := by decide +kernel
example : (ofDecimal? 9007199254740993 0).map (shortest false) =
    some ⟨false, 9007199254740992, 0⟩ := by decide +kernel

end Binary64

end DocSections
