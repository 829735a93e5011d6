import RankRent.Library.PyString

/-!
# Floats from text

`float(s)` on a `str`, and `int(x)` on a float. A finite double is its value; the
sign of a zero is left out.
-/

inductive PyFloat
  | finite (value : ℚ)
  | infinite (negative : Bool)
  | nan
  deriving DecidableEq

namespace PyFloat

/-- The double nearest to a rational, ties to even. -/
def ofRat (q : ℚ) : PyFloat :=
  if 2 ^ 1024 - 2 ^ 970 ≤ |q| then .infinite (decide (q < 0))
  else
    let exponent := max (Int.log 2 |q| - 52) (-1074)
    .finite (PyString.roundHalfEven (q / 2 ^ exponent) * 2 ^ exponent)

/-- The zeros of the decimal digits of Unicode 15. -/
def zeros : List Nat :=
  [0x30, 0x660, 0x6F0, 0x7C0, 0x966, 0x9E6, 0xA66, 0xAE6, 0xB66, 0xBE6, 0xC66, 0xCE6, 0xD66, 0xDE6,
   0xE50, 0xED0, 0xF20, 0x1040, 0x1090, 0x17E0, 0x1810, 0x1946, 0x19D0, 0x1A80, 0x1A90, 0x1B50,
   0x1BB0, 0x1C40, 0x1C50, 0xA620, 0xA8D0, 0xA900, 0xA9D0, 0xA9F0, 0xAA50, 0xABF0, 0xFF10, 0x104A0,
   0x10D30, 0x11066, 0x110F0, 0x11136, 0x111D0, 0x112F0, 0x11450, 0x114D0, 0x11650, 0x116C0,
   0x11730, 0x118E0, 0x11950, 0x11C50, 0x11D50, 0x11DA0, 0x11F50, 0x16A60, 0x16AC0, 0x16B50,
   0x1D7CE, 0x1D7D8, 0x1D7E2, 0x1D7EC, 0x1D7F6, 0x1E140, 0x1E2F0, 0x1E4F0, 0x1E950, 0x1FBF0]

/-- Digits and spaces outside ASCII count as theirs in ASCII. -/
def toAscii (c : Char) : Char :=
  if c.toNat < 127 then c
  else if PyString.isSpace c then ' '
  else
    match zeros.find? fun first => first ≤ c.toNat && c.toNat < first + 10 with
    | some first => Char.ofNat (48 + (c.toNat - first))
    | none => '?'

/-- `Py_ISSPACE`. -/
def asciiSpace (c : Char) : Bool := c = ' ' || (9 ≤ c.toNat && c.toNat ≤ 13)

def trim (text : List Char) : List Char :=
  ((text.dropWhile asciiSpace).reverse.dropWhile asciiSpace).reverse

/-- The digits without the underscores between them; `previous` is the character
before the text. -/
def withoutUnderscores (previous : Char) : List Char → Option (List Char)
  | [] => if previous = '_' then none else some []
  | c :: rest =>
    if c = '_' then
      if previous.isDigit then withoutUnderscores c rest else none
    else if previous = '_' ∧ !c.isDigit then none
    else (withoutUnderscores c rest).map (c :: ·)

/-- Whether a `-` stands in front, and what follows the sign. -/
def signed : List Char → Bool × List Char
  | '-' :: rest => (true, rest)
  | '+' :: rest => (false, rest)
  | text => (false, text)

/-- The exponent after the digits of a number. -/
def exponent? : List Char → Option ℤ
  | [] => some 0
  | c :: rest =>
    let (negative, digits) := signed rest
    if (c = 'e' ∨ c = 'E') ∧ digits ≠ [] ∧ digits.all Char.isDigit then
      some (if negative then -(Nat.ofDigitChars 10 digits 0 : ℤ) else Nat.ofDigitChars 10 digits 0)
    else none

/-- The digits after a point, and the rest. -/
def fraction : List Char → List Char × List Char
  | '.' :: rest => rest.span Char.isDigit
  | text => ([], text)

/-- The value of a decimal number without its sign. -/
def number? (text : List Char) : Option ℚ :=
  let (whole, rest) := text.span Char.isDigit
  let (decimals, rest) := fraction rest
  if whole = [] ∧ decimals = [] then none
  else (exponent? rest).map fun exponent =>
    (Nat.ofDigitChars 10 (whole ++ decimals) 0 : ℚ) * 10 ^ (exponent - decimals.length : ℤ)

/-- `float(s)`; `none` is its `ValueError`. -/
def ofText? (s : String) : Option PyFloat :=
  (withoutUnderscores ' ' (trim (s.toList.map toAscii))).bind fun text =>
    let (negative, body) := signed text
    let word := String.ofList (body.map Char.toLower)
    if word = "nan" then some .nan
    else if word = "inf" ∨ word = "infinity" then some (.infinite negative)
    else (number? body).map fun q => ofRat (if negative then -q else q)

/-- `int(x)` of a finite float. -/
def truncate (q : ℚ) : ℤ := if q < 0 then ⌈q⌉ else ⌊q⌋

/-! ## Arithmetic -/

/-- The sign of a zero divisor is left out, so division is by a nonzero number. -/
def scale (x : PyFloat) (q : ℚ) : PyFloat :=
  match x with
  | .finite value => ofRat (value * q)
  | .infinite negative => if q = 0 then .nan else .infinite (negative != decide (q < 0))
  | .nan => .nan

def add : PyFloat → PyFloat → PyFloat
  | .finite x, .finite y => ofRat (x + y)
  | .nan, _ | _, .nan => .nan
  | .infinite s, .infinite t => if s = t then .infinite s else .nan
  | .infinite s, .finite _ | .finite _, .infinite s => .infinite s

/-- `x < y`. -/
def lt : PyFloat → PyFloat → Bool
  | .nan, _ | _, .nan => false
  | .finite x, .finite y => decide (x < y)
  | .infinite s, .infinite t => s && !t
  | .infinite s, .finite _ => s
  | .finite _, .infinite t => !t

/-- `x >= y`, with NaN below every number. -/
def atLeast : PyFloat → PyFloat → Bool
  | _, .nan => true
  | .nan, _ => false
  | x, y => !x.lt y

theorem atLeast_total (x y : PyFloat) : atLeast x y ∨ atLeast y x := by
  cases x with
  | finite x => cases y <;> simp [atLeast, lt, le_total]
  | infinite s => cases s <;> cases y <;> simp [atLeast, lt]
  | nan => cases y <;> simp [atLeast]

theorem atLeast_trans {x y z : PyFloat} (first : atLeast x y) (second : atLeast y z) :
    atLeast x z := by
  cases x with
  | finite x =>
    cases y with
    | finite y =>
      cases z <;> simp_all [atLeast, lt]
      exact second.trans first
    | infinite s => cases z <;> simp_all [atLeast, lt]
    | nan => cases z <;> simp_all [atLeast]
  | infinite s => cases s <;> cases y <;> cases z <;> simp_all [atLeast, lt]
  | nan => cases y <;> cases z <;> simp_all [atLeast]

theorem lt_of_atLeast {x y : PyFloat} (number : x ≠ .nan) (above : atLeast x y) :
    x.lt y = false := by
  cases y with
  | nan => cases x <;> rfl
  | finite y => cases x <;> simp_all [atLeast]
  | infinite t => cases x <;> simp_all [atLeast]

/-- `round(x, digits)`. -/
def rounded (digits : Nat) : PyFloat → PyFloat
  | .finite x => ofRat (PyString.rounded digits x)
  | x => x

/-- `f"{x:.1f}"`. -/
def fixed1 : PyFloat → String
  | .finite x =>
    let n := (PyString.roundHalfEven (|x| * 10)).toNat
    (if x < 0 then "-" else "") ++ toString (n / 10) ++ "." ++ toString (n % 10)
  | .infinite negative => if negative then "-inf" else "inf"
  | .nan => "nan"

example : ofText? "12.5" = some (.finite (25 / 2)) := by decide +kernel

example : ofText? "1e999" = some (.infinite false) := by decide +kernel

end PyFloat
