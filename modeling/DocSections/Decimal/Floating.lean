import DocSections.Decimal.Binary64
import DocSections.Text.Digits
import DocSections.Text.Runs

/-! All floating-point numbers of 64 bits, the infinities and the undefined one among them. -/

namespace DocSections

/-- A float of 64 bits. A finite one is known by its shortest decimal. -/
inductive Floating where
  | finite (value : Decimal)
  | infinite (negative : Bool)
  | notANumber
deriving DecidableEq, Repr

namespace Floating

/-- The float nearest to `digits · 10 ^ exponent`. Magnitudes that no float comes near are told by
the place of the first digit. -/
def ofDecimal (negative : Bool) (digits : Nat) (exponent : Int) : Floating :=
  let point : Int := (toString digits).length + exponent
  if digits = 0 ∨ point < -400 then finite ⟨negative, 0, 0⟩
  else if 400 < point then infinite negative
  else
    match Binary64.ofDecimal? digits exponent with
    | some x => finite (x.shortest negative)
    | none => infinite negative

/-- Digits with a point anywhere or nowhere, as the number that they spell and how many digits
follow the point. -/
def significand? (cs : List Char) : Option (Nat × Nat) := do
  match Text.split '.' cs with
  | [whole] => some (← Text.natural? whole, 0)
  | [whole, fraction] => some (← Text.natural? (whole ++ fraction), fraction.length)
  | _ => none

/-- The float nearest to what digits spell, with a sign, a point and an exponent or without. -/
def ofNumeral? (cs : List Char) : Option Floating := do
  let (negative, rest) := Text.unsign cs
  let (n, places) ← significand? (rest.takeWhile (!Text.isExponentMark ·))
  let e ← Text.exponent? Text.natural? (rest.dropWhile (!Text.isExponentMark ·))
  some (ofDecimal negative n (e - places))

def isZero : Floating → Bool
  | finite d => d.digits == 0
  | _ => false

/-- The written form: positional, however long, and without a point where it needs none. -/
def text : Floating → String
  | finite d => d.positional ""
  | infinite negative => if negative then "-inf" else "inf"
  | notANumber => "NaN"

example : (ofDecimal false 50 (-1)).text = "5" := by decide +kernel
example : (ofNumeral? "+.5e1".toList).map text = some "5" := by decide +kernel
example : ofNumeral? ".".toList = none := by decide +kernel
example : (ofDecimal true 1 400).text = "-inf" := by decide +kernel

end Floating

end DocSections
