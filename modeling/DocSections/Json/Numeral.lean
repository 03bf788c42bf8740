import DocSections.Decimal.Binary64
import DocSections.Json.Basic
import DocSections.Text.Digits

/-! Reading JSON numerals. A numeral without point and exponent is a whole number if it lies between
-2⁶³ and 2⁶⁴; all others are floats. -/

namespace DocSections

namespace Number

/-- Appends digits to a number while it stays below 2⁶⁴, and counts the digits left over. -/
def absorb (n : Nat) : List Nat → Nat × Nat
  | [] => (n, 0)
  | d :: ds => if n * 10 + d < UInt64.size then absorb (n * 10 + d) ds else (n, ds.length + 1)

def powerOfTen (e : Nat) : Binary64 := (Binary64.ofRatio? (Nat.pow 10 e) 1).getD Binary64.zero

/-- The float that a numeral with these significant digits and this power of ten denotes: digits and
power are each rounded before they are put together, so the result can miss the nearest float. -/
def scale? (significand : Nat) (exponent : Int) : Option Binary64 := do
  let f ← Binary64.ofRatio? significand 1
  if significand = 0 then some f
  else if 308 < exponent then none
  else if 0 ≤ exponent then f.mul? (powerOfTen exponent.toNat)
  else if -308 ≤ exponent then f.div? (powerOfTen (-exponent).toNat)
  else if -616 ≤ exponent then
    (← f.div? (powerOfTen 308)).div? (powerOfTen (-exponent - 308).toNat)
  else some Binary64.zero

structure Numeral where
  negative : Bool
  whole : List Nat
  fraction : Option (List Nat)
  exponent : Option Int

def digits (cs : List Char) : List Nat × List Char :=
  ((cs.takeWhile Char.isDigit).map Text.digitValue, cs.dropWhile Char.isDigit)

def exponent? (cs : List Char) : Option (Option Int) :=
  match cs with
  | [] => some none
  | e :: rest =>
    if e = 'e' ∨ e = 'E' then
      let (negative, rest) := Text.unsign rest
      match digits rest with
      | (d :: ds, []) => some (some (Text.signed negative (Text.numberOf 10 (d :: ds))))
      | _ => none
    else none

def fraction? (cs : List Char) : Option (Option (List Nat) × List Char) :=
  match cs with
  | '.' :: rest =>
    match digits rest with
    | ([], _) => none
    | (ds, rest) => some (some ds, rest)
  | _ => some (none, cs)

/-- The numeral that the characters spell: no leading zero, and digits on both sides of a point. -/
def numeral? (cs : List Char) : Option Numeral := do
  let (negative, cs) := match cs with
    | '-' :: rest => (true, rest)
    | _ => (false, cs)
  let (whole, rest) := digits cs
  if whole = [] ∨ (whole.head? = some 0 ∧ whole.length ≠ 1) then none
  else do
    let (fraction, rest) ← fraction? rest
    some ⟨negative, whole, fraction, ← exponent? rest⟩

/-- The number that a numeral denotes; `none` if it is beyond the greatest float. -/
def ofNumeral? (n : Numeral) : Option Number :=
  let (significand, dropped) := absorb 0 n.whole
  let (significand', left) := absorb significand (n.fraction.getD [])
  let scale : Int := dropped - ((n.fraction.getD []).length - left) + n.exponent.getD 0
  let float := (scale? significand' scale).map fun f => Number.float (f.shortest n.negative)
  if n.fraction.isNone && n.exponent.isNone && dropped == 0 then
    if n.negative then
      if significand = 0 ∨ 0x8000000000000000 < significand then float
      else some (.int (-significand))
    else some (.int significand)
  else float

example : (numeral? "-9223372036854775808".toList).bind ofNumeral? =
    some (.int (-9223372036854775808)) := by decide +kernel
example : (numeral? "18446744073709551616".toList).bind ofNumeral? =
    some (.float ⟨false, 18446744073709552, 3⟩) := by decide +kernel
example : (numeral? "-0".toList).bind ofNumeral? = some (.float ⟨true, 0, 0⟩) := by decide +kernel
example : (numeral? "1.50E+2".toList).bind ofNumeral? = some (.float ⟨false, 15, 1⟩) := by
  decide +kernel
example : (numeral? "01".toList).isNone := by decide +kernel
example : (numeral? "1e309".toList).map ofNumeral? = some none := by decide +kernel

end Number

end DocSections
