/-! Digits, and the numbers that they spell. -/

namespace DocSections.Text

def hexDigit (n : Nat) : Char := if n < 10 then Char.ofNat (48 + n) else Char.ofNat (87 + n)

def digitValue (c : Char) : Nat :=
  if c.isDigit then c.toNat - 48 else if c.isUpper then c.toNat - 55 else c.toNat - 87

def isDigitOf (base : Nat) (c : Char) : Bool :=
  (c.isDigit || ('A' ≤ c && c ≤ 'F') || ('a' ≤ c && c ≤ 'f')) && digitValue c < base

def hexValue? (c : Char) : Option Nat := if isDigitOf 16 c then some (digitValue c) else none

def numberOf (base : Nat) (ds : List Nat) : Nat := ds.foldl (fun n d => n * base + d) 0

def decimalOf (cs : List Char) : Nat := numberOf 10 (cs.map digitValue)

theorem decimalOf_eq_ofDigitChars {digits : List Char} (h : ∀ c ∈ digits, c.isDigit = true) :
    decimalOf digits = Nat.ofDigitChars 10 digits 0 := by
  suffices hs : ∀ n, (digits.map digitValue).foldl (fun n d => n * 10 + d) n =
      Nat.ofDigitChars 10 digits n from hs 0
  induction digits with
  | nil => exact fun _ => rfl
  | cons c rest ih =>
    intro n
    obtain ⟨hc, hrest⟩ := List.forall_mem_cons.mp h
    have hvalue : digitValue c = c.toNat - '0'.toNat := by
      rw [digitValue, if_pos hc]
      rfl
    rw [List.map_cons, List.foldl_cons, ih hrest, Nat.ofDigitChars_cons, hvalue, Nat.mul_comm n]

def natural? (cs : List Char) : Option Nat :=
  if cs ≠ [] ∧ cs.all Char.isDigit then some (decimalOf cs) else none

/-- Takes a sign off the front, and says whether it is negative. -/
def unsign (cs : List Char) : Bool × List Char :=
  match cs with
  | '-' :: rest => (true, rest)
  | '+' :: rest => (false, rest)
  | _ => (false, cs)

def signed (negative : Bool) (n : Nat) : Int := if negative then -n else n

def isExponentMark (c : Char) : Bool := c == 'e' || c == 'E'

/-- The power of ten after an exponent mark, in digits that `number?` reads; without a mark it is
zero. -/
def exponent? (number? : List Char → Option Nat) (cs : List Char) : Option Int :=
  match cs with
  | [] => some 0
  | _ :: rest =>
    let (negative, rest) := unsign rest
    (number? rest).map (signed negative)

end DocSections.Text
