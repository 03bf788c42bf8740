/-! Decimal numbers in scientific form, and their two written forms. -/

namespace DocSections

/-- The number `digits · 10 ^ exponent`, negated if `negative`. Zero keeps its sign. -/
structure Decimal where
  negative : Bool
  digits : Nat
  exponent : Int
deriving DecidableEq, Repr

namespace Decimal

def zeros (n : Nat) : String := String.ofList (List.replicate n '0')

def sign (d : Decimal) : String := if d.negative then "-" else ""

/-- Digits with a point, and no exponent however long that gets. `wholeMark` follows a number that
needs no point. -/
def positional (wholeMark : String) (d : Decimal) : String :=
  let ds := toString d.digits
  let point := ds.length + d.exponent
  d.sign ++
    if d.digits = 0 then "0" ++ wholeMark
    else if 0 ≤ d.exponent then ds ++ zeros d.exponent.toNat ++ wholeMark
    else if 0 < point then
      String.ofList (ds.toList.take point.toNat) ++ "." ++
        String.ofList (ds.toList.drop point.toNat)
    else "0." ++ zeros (-point).toNat ++ ds

/-- One digit before the point, and the power of ten with its sign after an `e`. -/
def scientific (d : Decimal) : String :=
  let ds := toString d.digits
  let e : Int := ds.length + d.exponent - 1
  d.sign ++ String.ofList (ds.toList.take 1) ++
    (if ds.length = 1 then "" else "." ++ String.ofList (ds.toList.drop 1)) ++
    (if e < 0 then "e" else "e+") ++ toString e

/-- The written form in JSON texts: positional from `0.00001` up to 16 whole digits, and a point in
every number, so that it reads back as no integer. -/
def written (d : Decimal) : String :=
  let point := (toString d.digits).length + d.exponent
  if d.digits = 0 ∨ (-5 < point ∧ point ≤ 16) then positional ".0" d else scientific d

example : written ⟨false, 1, 2⟩ = "100.0" := by decide +kernel
example : written ⟨true, 25, -2⟩ = "-0.25" := by decide +kernel
example : written ⟨true, 0, 0⟩ = "-0.0" := by decide +kernel
example : written ⟨false, 125, 20⟩ = "1.25e+22" := by decide +kernel
example : written ⟨false, 1, -7⟩ = "1e-7" := by decide +kernel

end Decimal

end DocSections
