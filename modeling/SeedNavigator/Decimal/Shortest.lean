/-! The shortest decimal text of a binary floating point number: the fewest digits that read back as the
number, and of those the ones closest to it. -/
namespace SeedNavigator.Decimal

/-- A number as `significand · 2 ^ exponent`. -/
structure Binary where
  significand : Nat
  exponent : Int
  /-- The next smaller number is only half as far away as the next larger one. -/
  isPower : Bool

def Binary.ofFloat (value : Float) : Binary :=
  let bits : Nat := value.toBits.toNat
  let fraction : Nat := bits % Nat.pow 2 52
  let exponent : Nat := bits / Nat.pow 2 52 % Nat.pow 2 11
  if exponent = 0 then ⟨fraction, -1074, false⟩
  else ⟨fraction + Nat.pow 2 52, (exponent : Int) - 1075, fraction = 0 && 1 < exponent⟩

/-- `x · 2 ^ exponent` as a fraction. -/
def fraction (x : Nat) (exponent : Int) : Nat × Nat :=
  if 0 ≤ exponent then (x * Nat.pow 2 exponent.toNat, 1) else (x, Nat.pow 2 exponent.natAbs)

/-- The fraction divided by `10 ^ exponent`. -/
def inUnits (number : Nat × Nat) (exponent : Int) : Nat × Nat :=
  if 0 ≤ exponent then (number.1, number.2 * Nat.pow 10 exponent.toNat)
  else (number.1 * Nat.pow 10 exponent.natAbs, number.2)

/-- `digits · 10 ^ exponent`. -/
structure Scientific where
  digits : Nat
  exponent : Int

namespace Binary

/-- A quarter of the last place of the significand is the unit of the borders between numbers. -/
def scaled (b : Binary) (x : Nat) : Nat × Nat :=
  fraction x (b.exponent - 2)

def middle (b : Binary) : Nat × Nat := b.scaled (4 * b.significand)

def lower (b : Binary) : Nat × Nat :=
  b.scaled (4 * b.significand - if b.isPower then 1 else 2)

def upper (b : Binary) : Nat × Nat := b.scaled (4 * b.significand + 2)

def less (ends : Bool) (a b : Nat × Nat) : Bool :=
  if ends then a.1 * b.2 ≤ b.1 * a.2 else a.1 * b.2 < b.1 * a.2

/-- The borders themselves read back as the number whose significand is even. -/
def readsBack (b : Binary) (digits : Nat) (exponent : Int) : Bool :=
  let ends := b.significand % 2 = 0
  less ends (inUnits b.lower exponent) (digits, 1) && less ends (digits, 1) (inUnits b.upper exponent)

/-- The exponent of the first digit. -/
def magnitude (number : Nat × Nat) : Int :=
  if number.2 ≤ number.1 then (Nat.toDigits 10 (number.1 / number.2)).length - 1
  else
    let places := (List.range 400).find? fun n => number.2 ≤ number.1 * Nat.pow 10 (n + 1)
    Int.negSucc (places.getD 400)

/-- Of the two neighbours on a decimal grid, the closest that reads back. -/
def onGrid? (b : Binary) (exponent : Int) : Option Scientific :=
  let (top, bottom) := inUnits b.middle exponent
  let digits := top / bottom
  let below := b.readsBack digits exponent
  let above := b.readsBack (digits + 1) exponent
  let nearer := 2 * (top % bottom) ≤ bottom
  if below && (nearer || !above) then some ⟨digits, exponent⟩
  else if above then some ⟨digits + 1, exponent⟩
  else none

def shortest (b : Binary) : Scientific :=
  let first := magnitude b.middle
  ((List.range 17).findSome? fun (more : Nat) => b.onGrid? (first - more)).getD ⟨0, 0⟩

end Binary

/-- Zeros at the end of the digits go into the exponent. -/
def Scientific.trimmed (d : Scientific) : List Char × Int :=
  let digits := Nat.toDigits 10 d.digits
  let kept := (digits.reverse.dropWhile (· = '0')).reverse
  (kept, d.exponent + (digits.length - kept.length : Nat))

/-- Digits of a number of moderate size stand around a point, all others before an exponent. -/
def Scientific.text (d : Scientific) : String :=
  let (digits, exponent) := d.trimmed
  let point : Int := digits.length + exponent
  String.ofList <|
    if 0 ≤ exponent ∧ point ≤ 16 then
      digits ++ List.replicate exponent.toNat '0' ++ ['.', '0']
    else if 0 < point ∧ point ≤ 16 then
      digits.take point.toNat ++ '.' :: digits.drop point.toNat
    else if -5 < point ∧ point ≤ 0 then
      ['0', '.'] ++ List.replicate point.natAbs '0' ++ digits
    else
      let mark := 'e' :: (toString (point - 1)).toList
      match digits with
      | [digit] => digit :: mark
      | first :: rest => first :: '.' :: rest ++ mark
      | [] => mark

/-- The text of a finite number. -/
def floatText (value : Float) : String :=
  let negative := value.toBits.toNat / Nat.pow 2 63 = 1
  let b := Binary.ofFloat value
  (if negative then "-" else "") ++ if b.significand = 0 then "0.0" else b.shortest.text

end SeedNavigator.Decimal
