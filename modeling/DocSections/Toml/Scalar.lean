import DocSections.Setting.Basic
import DocSections.Text.Digits
import DocSections.Text.Runs

/-! TOML values without quotes or brackets other than dates and times: booleans, whole numbers and
floats. -/

namespace DocSections.Toml

open Text

def digits? (base : Nat) (cs : List Char) : Option (List Nat) :=
  let groups := Text.split '_' cs
  if groups.all fun g => !g.isEmpty && g.all (isDigitOf base) then
    some (groups.flatten.map digitValue)
  else none

def natural? (cs : List Char) : Option Nat := (digits? 10 cs).map (numberOf 10)

def plainDigits? (cs : List Char) : Option (List Nat) :=
  (digits? 10 cs).filter fun ds => ds.length == 1 || ds.head? != some 0

def integerOf (n : Int) : Option Setting := if Setting.fits64 n then some (.int n) else none

def integer? (cs : List Char) : Option Setting :=
  match cs with
  | '0' :: 'x' :: rest => (digits? 16 rest).bind fun ds => integerOf (numberOf 16 ds)
  | '0' :: 'o' :: rest => (digits? 8 rest).bind fun ds => integerOf (numberOf 8 ds)
  | '0' :: 'b' :: rest => (digits? 2 rest).bind fun ds => integerOf (numberOf 2 ds)
  | _ =>
    let (negative, rest) := unsign cs
    (plainDigits? rest).bind fun ds => integerOf (signed negative (numberOf 10 ds))

/-- Digits before the exponent: the number that they spell and how many of them are a fraction. -/
def significand? (cs : List Char) : Option (Nat × Nat) :=
  match Text.split '.' cs with
  | [whole] => do some (numberOf 10 (← plainDigits? whole), 0)
  | [whole, fraction] => do
    let fraction ← digits? 10 fraction
    some (numberOf 10 ((← plainDigits? whole) ++ fraction), fraction.length)
  | _ => none

/-- A float has a fraction, an exponent or both. Beyond the greatest float there is only negative
infinity. -/
def float? (cs : List Char) : Option Setting := do
  let (negative, rest) := unsign cs
  if rest = "inf".toList then some (.float (.infinite negative))
  else if rest = "nan".toList then some (.float .notANumber)
  else
    let front := rest.takeWhile (!isExponentMark ·)
    let (n, places) ← significand? front
    let e ← exponent? Toml.natural? (rest.dropWhile (!isExponentMark ·))
    if front.length = rest.length ∧ places = 0 then none
    else
      match Floating.ofDecimal negative n (e - places) with
      | .infinite false => none
      | f => some (.float f)

def scalar? (cs : List Char) : Option Setting :=
  if cs = "true".toList then some (.bool true)
  else if cs = "false".toList then some (.bool false)
  else (integer? cs).or (float? cs)

end DocSections.Toml
