import Mathlib.Data.Int.Log
import Mathlib.Data.List.Infix
import Mathlib.Data.Rat.Floor

/-!
# Python string and number text

The parts of `str` and of number formatting the program relies on.
-/

namespace PyString

/-- `str.isspace` on one character. -/
def isSpace (c : Char) : Bool :=
  let n := c.toNat
  (9 ≤ n && n ≤ 13) || (28 ≤ n && n ≤ 32) || n == 133 || n == 160 || n == 5760 ||
    (8192 ≤ n && n ≤ 8202) || n == 8232 || n == 8233 || n == 8239 || n == 8287 || n == 12288

/-- The code points of Unicode 15 on which `str.isdigit` holds, as ranges. -/
def digitRanges : List (Nat × Nat) :=
  [(0x30, 0x39), (0xB2, 0xB3), (0xB9, 0xB9), (0x660, 0x669), (0x6F0, 0x6F9), (0x7C0, 0x7C9),
   (0x966, 0x96F), (0x9E6, 0x9EF), (0xA66, 0xA6F), (0xAE6, 0xAEF), (0xB66, 0xB6F),
   (0xBE6, 0xBEF), (0xC66, 0xC6F), (0xCE6, 0xCEF), (0xD66, 0xD6F), (0xDE6, 0xDEF),
   (0xE50, 0xE59), (0xED0, 0xED9), (0xF20, 0xF29), (0x1040, 0x1049), (0x1090, 0x1099),
   (0x1369, 0x1371), (0x17E0, 0x17E9), (0x1810, 0x1819), (0x1946, 0x194F), (0x19D0, 0x19DA),
   (0x1A80, 0x1A89), (0x1A90, 0x1A99), (0x1B50, 0x1B59), (0x1BB0, 0x1BB9), (0x1C40, 0x1C49),
   (0x1C50, 0x1C59), (0x2070, 0x2070), (0x2074, 0x2079), (0x2080, 0x2089), (0x2460, 0x2468),
   (0x2474, 0x247C), (0x2488, 0x2490), (0x24EA, 0x24EA), (0x24F5, 0x24FD), (0x24FF, 0x24FF),
   (0x2776, 0x277E), (0x2780, 0x2788), (0x278A, 0x2792), (0xA620, 0xA629), (0xA8D0, 0xA8D9),
   (0xA900, 0xA909), (0xA9D0, 0xA9D9), (0xA9F0, 0xA9F9), (0xAA50, 0xAA59), (0xABF0, 0xABF9),
   (0xFF10, 0xFF19), (0x104A0, 0x104A9), (0x10A40, 0x10A43), (0x10D30, 0x10D39),
   (0x10E60, 0x10E68), (0x11052, 0x1105A), (0x11066, 0x1106F), (0x110F0, 0x110F9),
   (0x11136, 0x1113F), (0x111D0, 0x111D9), (0x112F0, 0x112F9), (0x11450, 0x11459),
   (0x114D0, 0x114D9), (0x11650, 0x11659), (0x116C0, 0x116C9), (0x11730, 0x11739),
   (0x118E0, 0x118E9), (0x11950, 0x11959), (0x11C50, 0x11C59), (0x11D50, 0x11D59),
   (0x11DA0, 0x11DA9), (0x11F50, 0x11F59), (0x16A60, 0x16A69), (0x16AC0, 0x16AC9),
   (0x16B50, 0x16B59), (0x1D7CE, 0x1D7FF), (0x1E140, 0x1E149), (0x1E2F0, 0x1E2F9),
   (0x1E4F0, 0x1E4F9), (0x1E950, 0x1E959), (0x1F100, 0x1F10A), (0x1FBF0, 0x1FBF9)]

/-- `str.isdigit` on one character. -/
def isDigit (c : Char) : Bool := digitRanges.any fun (first, last) => first ≤ c.toNat && c.toNat ≤ last

/-- `str.strip()`. -/
def strip (s : String) : String :=
  String.ofList (((s.toList.dropWhile isSpace).reverse.dropWhile isSpace).reverse)

/-- `str.split()`. -/
def words (s : String) : List String :=
  ((s.toList.splitOnP isSpace).filter fun word => !word.isEmpty).map String.ofList

/-- `str.removeprefix`. -/
def removePrefix (start s : String) : String :=
  if start.toList <+: s.toList then String.ofList (s.toList.drop start.length) else s

/-- `int(s)` for ASCII digits. -/
def toInt? (s : String) : Option ℤ :=
  let text := strip s
  if text.startsWith "+" then (text.drop 1).toNat?.map Int.ofNat else text.toInt?

/-- `token in text`. -/
def contains (text token : String) : Bool := decide (token.toList <:+: text.toList)

/-- A token neither occurs in the text around a message nor overlaps its ends. -/
def Apart (token before after : List Char) : Prop :=
  ¬ token <:+: before ∧ ¬ token <:+: after ∧
    ∀ n < token.length, 0 < n → ¬ token.take n <:+ before ∧ ¬ token.drop n <+: after

instance (token before after : List Char) : Decidable (Apart token before after) :=
  inferInstanceAs (Decidable (_ ∧ _ ∧ _))

theorem Apart.infix_iff {token before text after : List Char} (apart : Apart token before after) :
    token <:+: before ++ text ++ after ↔ token <:+: text := by
  obtain ⟨notBefore, notAfter, split_⟩ := apart
  constructor
  · intro inside
    rcases List.infix_append_iff_ne_nil.mp inside with left | right | ⟨first, last, some, rest, rfl, -, ends⟩
    · rcases List.infix_append_iff_ne_nil.mp left with
        whole | whole | ⟨first, last, some, rest, rfl, starts, -⟩
      · exact absurd whole notBefore
      · exact whole
      · have inner := split_ first.length (by simp [List.length_pos_iff.mpr rest])
          (List.length_pos_iff.mpr some)
        rw [List.take_left] at inner
        exact absurd starts inner.1
    · exact absurd right notAfter
    · have inner := split_ first.length (by simp [List.length_pos_iff.mpr rest])
        (List.length_pos_iff.mpr some)
      rw [List.drop_left] at inner
      exact absurd ends inner.2
  · rintro ⟨left, right, rfl⟩
    exact ⟨before ++ left, right ++ after, by simp⟩

/-- Round half to even, as `format` and `round` do. -/
def roundHalfEven (q : ℚ) : ℤ :=
  let low := ⌊q⌋
  if q - low < 1 / 2 then low
  else if 1 / 2 < q - low then low + 1
  else if low % 2 = 0 then low else low + 1

/-- `round(q, digits)`. -/
def rounded (digits : Nat) (q : ℚ) : ℚ := roundHalfEven (q * 10 ^ digits) / 10 ^ digits

/-- A number with that many digits is not changed. -/
theorem rounded_of_whole {digits : Nat} {q : ℚ} {n : ℤ} (whole : q * 10 ^ digits = n) :
    rounded digits q = q := by
  have exact_ : roundHalfEven (q * 10 ^ digits) = n := by
    rw [whole]
    simp [roundHalfEven]
  rw [rounded, exact_, ← whole]
  exact mul_div_cancel_right₀ q (by positivity)

/-- `f"{q:.4f}"`. -/
def fixed4 (q : ℚ) : String :=
  let n := roundHalfEven (q * 10000)
  let digits := toString (n.natAbs % 10000)
  (if n < 0 then "-" else "") ++ toString (n.natAbs / 10000) ++ "." ++
    String.ofList (List.replicate (4 - digits.length) '0') ++ digits

/-- `f"{q:.6f}"`. -/
def fixed6 (q : ℚ) : String :=
  let n := roundHalfEven (q * 1000000)
  (if n < 0 then "-" else "") ++ toString (n.natAbs / 1000000) ++ "." ++
    String.ofList (List.leftpad 6 '0' (Nat.toDigits 10 (n.natAbs % 1000000)))

/-- The six significant digits of a number and the exponent of the first. -/
def significant (q : ℚ) : List Char × ℤ :=
  let exponent := Int.log 10 q
  let digits := roundHalfEven (q / 10 ^ (exponent - 5))
  if digits = 1000000 then (Nat.toDigits 10 100000, exponent + 1)
  else (Nat.toDigits 10 digits.natAbs, exponent)

/-- `f"{q:g}"` of a positive number. -/
def general (q : ℚ) : String :=
  let (digits, exponent) := significant q
  let point (whole rest : List Char) : String :=
    let rest := (rest.reverse.dropWhile fun c => c == '0').reverse
    String.ofList (if rest.isEmpty then whole else whole ++ '.' :: rest)
  if exponent < -4 ∨ 6 ≤ exponent then
    point (digits.take 1) (digits.drop 1) ++ "e" ++ (if exponent < 0 then "-" else "+") ++
      String.ofList (List.leftpad 2 '0' (Nat.toDigits 10 exponent.natAbs))
  else if exponent < 0 then point ['0'] (List.replicate (-exponent - 1).toNat '0' ++ digits)
  else point (digits.take (exponent.toNat + 1)) (digits.drop (exponent.toNat + 1))

/-- `f"{n:03d}"` with the given width. -/
def zeroPadded (width n : Nat) : String :=
  String.ofList (List.leftpad width '0' (Nat.toDigits 10 n))

theorem zeroPadded_injective (width : Nat) : Function.Injective (zeroPadded width) := by
  have value (n : Nat) : Nat.ofDigitChars 10 (zeroPadded width n).toList 0 = n := by
    simp [zeroPadded, List.leftpad, Nat.ofDigitChars_append, Nat.ofDigitChars_replicate_zero]
  intro m n same
  rw [← value m, ← value n, same]

end PyString

/-!
## Python times as text

`datetime.isoformat()` of a UTC time, given in seconds since 1970.
-/

namespace PyTime

structure Civil where
  year : ℤ
  month : Nat
  day : Nat
  deriving DecidableEq

/-- The date that many days after 1970-01-01; years begin in March here. -/
def civil (days : ℤ) : Civil :=
  let shifted := days + 719468
  let era := shifted.fdiv 146097
  let dayOfEra := (shifted - era * 146097).toNat
  let yearOfEra := (dayOfEra - dayOfEra / 1460 + dayOfEra / 36524 - dayOfEra / 146096) / 365
  let dayOfYear := dayOfEra - (365 * yearOfEra + yearOfEra / 4 - yearOfEra / 100)
  let shiftedMonth := (5 * dayOfYear + 2) / 153
  let month := if shiftedMonth < 10 then shiftedMonth + 3 else shiftedMonth - 9
  { year := era * 400 + yearOfEra + (if month ≤ 2 then 1 else 0)
    month := month
    day := dayOfYear - (153 * shiftedMonth + 2) / 5 + 1 }

/-- `datetime.isoformat()`. A time has whole microseconds. -/
def isoformat (t : ℚ) : String :=
  let micros := ⌊t * 1000000⌋
  let date := civil (micros.fdiv 86400000000)
  let ofDay := (micros - micros.fdiv 86400000000 * 86400000000).toNat
  let seconds := ofDay / 1000000
  PyString.zeroPadded 4 date.year.toNat ++ "-" ++ PyString.zeroPadded 2 date.month ++ "-" ++
    PyString.zeroPadded 2 date.day ++ "T" ++ PyString.zeroPadded 2 (seconds / 3600) ++ ":" ++
    PyString.zeroPadded 2 (seconds / 60 % 60) ++ ":" ++ PyString.zeroPadded 2 (seconds % 60) ++
    (if ofDay % 1000000 = 0 then "" else "." ++ PyString.zeroPadded 6 (ofDay % 1000000)) ++ "+00:00"

example : isoformat (1709208000 + 1 / 2) = "2024-02-29T12:00:00.500000+00:00" := by decide +kernel

end PyTime
