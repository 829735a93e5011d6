import Mathlib.Data.List.Infix
import RankRent.Library.PyDict
import RankRent.Library.PyJson

/-!
# Reading JSON

`json.loads`, as far as its values are `PyJson`: a lone surrogate is no text.
-/

namespace PyJson

/-! ## Strings -/

def hexValue (c : Char) : Option Nat :=
  if c.isDigit then some (c.toNat - 48)
  else if 97 ≤ c.toNat ∧ c.toNat ≤ 102 then some (c.toNat - 87)
  else if 65 ≤ c.toNat ∧ c.toNat ≤ 70 then some (c.toNat - 55)
  else none

/-- The four digits after a `\u`, and the rest. -/
def hex4 : List Char → Option (Nat × List Char)
  | a :: b :: c :: d :: rest =>
    match hexValue a, hexValue b, hexValue c, hexValue d with
    | some a, some b, some c, some d => some (((a * 16 + b) * 16 + c) * 16 + d, rest)
    | _, _, _, _ => none
  | _ => none

/-- The escapes of one character. -/
def simpleEscape (c : Char) : Option Nat :=
  [('"', 34), ('\\', 92), ('/', 47), ('b', 8), ('f', 12), ('n', 10), ('r', 13), ('t', 9)].lookup c

/-- The code unit of an escape, after its backslash. -/
def escapeUnit : List Char → Option (Nat × List Char)
  | 'u' :: rest => hex4 rest
  | c :: rest => (simpleEscape c).map (·, rest)
  | [] => none

/-- A high surrogate is joined with the low one that follows. -/
def surrogatePair (unit : Nat) (rest : List Char) : Nat × List Char :=
  match rest with
  | '\\' :: 'u' :: low =>
    match hex4 low with
    | some (second, rest') =>
      if 55296 ≤ unit ∧ unit < 56320 ∧ 56320 ≤ second ∧ second < 57344 then
        (65536 + (unit - 55296) * 1024 + (second - 56320), rest')
      else (unit, rest)
    | none => (unit, rest)
  | _ => (unit, rest)

/-- The character of an escape, after its backslash. -/
def escaped (text : List Char) : Option (Char × List Char) :=
  (escapeUnit text).bind fun first =>
    let code := surrogatePair first.1 first.2
    if code.1.isValidChar then some (Char.ofNat code.1, code.2) else none

/-- The characters up to the closing quote, and the rest. -/
def stringBody : Nat → List Char → Option (List Char × List Char)
  | 0, _ => none
  | fuel + 1, text =>
    match text with
    | [] => none
    | '"' :: rest => some ([], rest)
    | '\\' :: rest => (escaped rest).bind fun one =>
        (stringBody fuel one.2).map fun body => (one.1 :: body.1, body.2)
    | c :: rest =>
      if c.toNat < 32 then none
      else (stringBody fuel rest).map fun body => (c :: body.1, body.2)

theorem hexValue_digitChar {n : Nat} (small : n < 16) : hexValue n.digitChar = some n := by
  have all : ∀ n < 16, hexValue n.digitChar = some n := by decide
  exact all n small

/-- Four digits, with zeros in front. -/
theorem leftpad_toDigits {n : Nat} (small : n < 65536) :
    List.leftpad 4 '0' (Nat.toDigits 16 n) =
      [(n / 4096).digitChar, (n / 256 % 16).digitChar, (n / 16 % 16).digitChar, (n % 16).digitChar] := by
  have zero : Nat.digitChar 0 = '0' := rfl
  by_cases one : n < 16
  · have high : n / 4096 = 0 ∧ n / 256 % 16 = 0 ∧ n / 16 % 16 = 0 ∧ n % 16 = n := by omega
    rw [Nat.toDigits_of_lt_base one, high.1, high.2.1, high.2.2.1, high.2.2.2, zero]
    rfl
  rw [Nat.toDigits_of_base_le (by omega) (by omega)]
  by_cases two : n / 16 < 16
  · have high : n / 4096 = 0 ∧ n / 256 % 16 = 0 ∧ n / 16 % 16 = n / 16 := by omega
    rw [Nat.toDigits_of_lt_base two, high.1, high.2.1, high.2.2, zero]
    rfl
  rw [Nat.toDigits_of_base_le (by omega) (by omega), Nat.div_div_eq_div_mul]
  by_cases three : n / (16 * 16) < 16
  · have high : n / 4096 = 0 ∧ n / 256 % 16 = n / (16 * 16) := by omega
    rw [Nat.toDigits_of_lt_base three, high.1, high.2, zero]
    rfl
  have high : n / (16 * 16) / 16 = n / 4096 ∧ n / (16 * 16) % 16 = n / 256 % 16 := by omega
  rw [Nat.toDigits_of_base_le (by omega) (by omega), Nat.toDigits_of_lt_base (by omega), high.1, high.2]
  rfl

theorem toList_unicodeEscape (n : Nat) :
    (unicodeEscape n).toList = '\\' :: 'u' :: List.leftpad 4 '0' (Nat.toDigits 16 n) := by
  have start : "\\u".toList = ['\\', 'u'] := rfl
  rw [unicodeEscape, String.toList_append, start, String.toList_ofList]
  rfl

theorem toList_pair (high low : Nat) (rest : List Char) :
    (unicodeEscape high ++ unicodeEscape low).toList ++ rest =
      '\\' :: 'u' :: (List.leftpad 4 '0' (Nat.toDigits 16 high) ++
        '\\' :: 'u' :: (List.leftpad 4 '0' (Nat.toDigits 16 low) ++ rest)) := by
  rw [String.toList_append, toList_unicodeEscape, toList_unicodeEscape]
  simp

theorem hex4_leftpad {n : Nat} (small : n < 65536) (rest : List Char) :
    hex4 (List.leftpad 4 '0' (Nat.toDigits 16 n) ++ rest) = some (n, rest) := by
  rw [leftpad_toDigits small]
  simp only [List.cons_append, List.nil_append, hex4]
  rw [hexValue_digitChar (by omega), hexValue_digitChar (by omega), hexValue_digitChar (by omega),
    hexValue_digitChar (by omega)]
  simp only [Option.some.injEq, Prod.mk.injEq, and_true]
  omega

theorem surrogatePair_of_lt {unit : Nat} (low : unit < 55296 ∨ 56320 ≤ unit) (rest : List Char) :
    surrogatePair unit rest = (unit, rest) := by
  unfold surrogatePair
  split
  · split
    · rw [if_neg (by omega)]
    · rfl
  · rfl

/-- The escape of a character that has one. -/
theorem escaped_unicode {c : Char} (small : c.toNat < 65536) (rest : List Char) :
    escaped ('u' :: (List.leftpad 4 '0' (Nat.toDigits 16 c.toNat) ++ rest)) = some (c, rest) := by
  have valid : c.toNat.isValidChar := c.valid
  have apart : c.toNat < 55296 ∨ 56320 ≤ c.toNat := by
    rcases valid with low | high <;> omega
  simp only [escaped, escapeUnit, hex4_leftpad small, Option.bind_some]
  rw [surrogatePair_of_lt apart, if_pos valid, Char.ofNat_toNat]

theorem escaped_pair {c : Char} (large : 65536 ≤ c.toNat) (rest : List Char) :
    escaped ('u' :: (List.leftpad 4 '0' (Nat.toDigits 16 (55296 + (c.toNat - 65536) / 1024)) ++
      '\\' :: 'u' :: (List.leftpad 4 '0' (Nat.toDigits 16 (56320 + (c.toNat - 65536) % 1024)) ++
        rest))) = some (c, rest) := by
  have valid : c.toNat.isValidChar := c.valid
  have below : c.toNat < 1114112 := by
    rcases valid with low | high <;> omega
  generalize high_ : 55296 + (c.toNat - 65536) / 1024 = high
  generalize low_ : 56320 + (c.toNat - 65536) % 1024 = low
  have joined : 65536 + (high - 55296) * 1024 + (low - 56320) = c.toNat := by omega
  have first : hex4 (List.leftpad 4 '0' (Nat.toDigits 16 high) ++ '\\' :: 'u' ::
      (List.leftpad 4 '0' (Nat.toDigits 16 low) ++ rest)) =
      some (high, '\\' :: 'u' :: (List.leftpad 4 '0' (Nat.toDigits 16 low) ++ rest)) :=
    hex4_leftpad (by omega) _
  have second : hex4 (List.leftpad 4 '0' (Nat.toDigits 16 low) ++ rest) = some (low, rest) :=
    hex4_leftpad (by omega) rest
  have pair : surrogatePair high ('\\' :: 'u' :: (List.leftpad 4 '0' (Nat.toDigits 16 low) ++ rest)) =
      (c.toNat, rest) := by
    rw [surrogatePair, second]
    dsimp only
    rw [if_pos (by omega), joined]
  rw [escaped, escapeUnit, first, Option.bind_some]
  dsimp only
  rw [pair, if_pos valid, Char.ofNat_toNat]

theorem stringBody_escaped {text rest : List Char} {c : Char} (reads : escaped text = some (c, rest))
    (fuel : Nat) :
    stringBody (fuel + 1) ('\\' :: text) =
      (stringBody fuel rest).map fun body => (c :: body.1, body.2) := by
  rw [stringBody, reads]
  rfl

theorem stringBody_simple {c d : Char} (named : simpleEscape d = some c.toNat) (small : c.toNat < 128)
    {text : List Char} (same : text = ['\\', d]) (fuel : Nat) (rest : List Char) :
    stringBody (fuel + 1) (text ++ rest) =
      (stringBody fuel rest).map fun body => (c :: body.1, body.2) := by
  have unit : escapeUnit (d :: rest) = some (c.toNat, rest) := by
    unfold escapeUnit
    split
    · rename_i hex
      rw [(List.cons.inj hex).1] at named
      cases named
    · rename_i first tail _ parts
      obtain ⟨rfl, rfl⟩ := List.cons.inj parts
      rw [named]
      rfl
    · rename_i empty
      cases empty
  have reads : escaped (d :: rest) = some (c, rest) := by
    have valid : c.toNat.isValidChar := c.valid
    rw [escaped, unit, Option.bind_some]
    dsimp only
    rw [surrogatePair_of_lt (by omega), if_pos valid, Char.ofNat_toNat]
  rw [same]
  exact stringBody_escaped reads fuel

/-- What a character is written as. -/
inductive Escaped (c : Char) : List Char → Prop
  | simple (d : Char) : simpleEscape d = some c.toNat → c.toNat < 128 → 32 ≤ d.toNat ∧ d.toNat ≤ 126 →
      Escaped c ['\\', d]
  | plain : c ≠ '"' → c ≠ '\\' → 32 ≤ c.toNat ∧ c.toNat ≤ 126 → Escaped c [c]
  | unicode : c.toNat < 65536 → Escaped c (unicodeEscape c.toNat).toList
  | pair : 65536 ≤ c.toNat → Escaped c (unicodeEscape (55296 + (c.toNat - 65536) / 1024) ++
      unicodeEscape (56320 + (c.toNat - 65536) % 1024)).toList

theorem escape_escaped (c : Char) : Escaped c (escape c).toList := by
  have code (n : Nat) (same : c.toNat = n) : c = Char.ofNat n := by rw [← same, Char.ofNat_toNat]
  unfold escape
  split
  · subst c
    exact .simple '"' rfl (by decide) (by decide)
  split
  · subst c
    exact .simple '\\' rfl (by decide) (by decide)
  split
  · subst c
    exact .simple 'n' rfl (by decide) (by decide)
  split
  · subst c
    exact .simple 'r' rfl (by decide) (by decide)
  split
  · subst c
    exact .simple 't' rfl (by decide) (by decide)
  split
  · rename_i eight
    obtain rfl := code 8 eight
    exact .simple 'b' rfl (by decide) (by decide)
  split
  · rename_i twelve
    obtain rfl := code 12 twelve
    exact .simple 'f' rfl (by decide) (by decide)
  split
  · rename_i quote slash _ _ _ _ _ printable
    have text : c.toString.toList = [c] := by simp [Char.toString]
    rw [text]
    exact .plain quote slash printable
  split
  · rename_i small
    exact .unicode small
  · rename_i large
    exact .pair (Nat.le_of_not_lt large)

/-- A character is read back from its escape. -/
theorem stringBody_escape (c : Char) (fuel : Nat) (rest : List Char) :
    stringBody (fuel + 1) ((escape c).toList ++ rest) =
      (stringBody fuel rest).map fun body => (c :: body.1, body.2) := by
  have form := escape_escaped c
  generalize (escape c).toList = text at form ⊢
  cases form with
  | simple d named small => exact stringBody_simple named small rfl fuel rest
  | plain quote slash printable =>
    rw [List.singleton_append, stringBody, if_neg (by omega)]
    · exact quote
    · exact slash
  | unicode small =>
    rw [toList_unicodeEscape]
    exact stringBody_escaped (escaped_unicode small rest) fuel
  | pair large =>
    rw [toList_pair]
    exact stringBody_escaped (escaped_pair large rest) fuel

theorem stringBody_quote (s : List Char) (rest : List Char) {fuel : Nat} (enough : s.length < fuel) :
    stringBody fuel (s.flatMap (fun c => (escape c).toList) ++ '"' :: rest) = some (s, rest) := by
  induction s generalizing fuel with
  | nil =>
    cases fuel with
    | zero => omega
    | succ fuel => rfl
  | cons c s ih =>
    cases fuel with
    | zero => omega
    | succ fuel =>
      rw [List.length_cons] at enough
      rw [List.flatMap_cons, List.append_assoc, stringBody_escape, ih (by omega)]
      rfl

/-! ## Numbers -/

/-- What the reading takes from Python: the text of bytes, and the `repr` of the float
that a text has. -/
structure Reader where
  decode : List UInt8 → Option (List Char)
  float : List Char → String

def minus : List Char → List Char × List Char
  | '-' :: rest => (['-'], rest)
  | text => ([], text)

/-- `0|[1-9][0-9]*`. -/
def wholePart : List Char → Option (List Char × List Char)
  | '0' :: rest => some (['0'], rest)
  | c :: rest => if c.isDigit then some ((c :: rest).span Char.isDigit) else none
  | [] => none

/-- `(\.[0-9]+)?`. -/
def decimalPart : List Char → List Char × List Char
  | '.' :: rest =>
    let digits := rest.span Char.isDigit
    if digits.1 = [] then ([], '.' :: rest) else ('.' :: digits.1, digits.2)
  | text => ([], text)

/-- `[-+]?`. -/
def signPart : List Char → List Char × List Char
  | '-' :: rest => (['-'], rest)
  | '+' :: rest => (['+'], rest)
  | text => ([], text)

/-- `([eE][-+]?[0-9]+)?`. -/
def exponentPart : List Char → List Char × List Char
  | [] => ([], [])
  | mark :: rest =>
    let sign := signPart rest
    let digits := sign.2.span Char.isDigit
    if (mark = 'e' ∨ mark = 'E') ∧ digits.1 ≠ [] then (mark :: (sign.1 ++ digits.1), digits.2)
    else ([], mark :: rest)

def number (reader : Reader) (text : List Char) : Option (PyJson × List Char) :=
  let sign := minus text
  (wholePart sign.2).map fun whole =>
    let decimals := decimalPart whole.2
    let exponent := exponentPart decimals.2
    if decimals.1 = [] ∧ exponent.1 = [] then
      let size : ℤ := Nat.ofDigitChars 10 whole.1 0
      (.num (if sign.1 = [] then size else -size), exponent.2)
    else (.float (reader.float (sign.1 ++ whole.1 ++ decimals.1 ++ exponent.1)), exponent.2)

def Digits (text : List Char) : Prop := text ≠ [] ∧ ∀ c ∈ text, c.isDigit = true

def Decimals (text : List Char) : Prop := text = [] ∨ ∃ digits, Digits digits ∧ text = '.' :: digits

def Exponent (text : List Char) : Prop :=
  text = [] ∨ ∃ mark sign digits, (mark = 'e' ∨ mark = 'E') ∧
    (sign = [] ∨ sign = ['-'] ∨ sign = ['+']) ∧ Digits digits ∧ text = mark :: (sign ++ digits)

/-- The parts of the text of a number. -/
structure NumberText (sign whole decimals exponent : List Char) : Prop where
  signed : sign = [] ∨ sign = ['-']
  digits : Digits whole
  leading : whole.head? = some '0' → whole = ['0']
  fraction : Decimals decimals
  scientific : Exponent exponent

/-- No number goes on in what follows. -/
def Ends (rest : List Char) : Prop :=
  ∀ c ∈ rest.head?, c.isDigit = false ∧ c ≠ '.' ∧ c ≠ 'e' ∧ c ≠ 'E'

theorem span_digits {digits rest : List Char} (all : ∀ c ∈ digits, c.isDigit = true)
    (stops : ∀ c ∈ rest.head?, c.isDigit = false) :
    (digits ++ rest).span Char.isDigit = (digits, rest) := by
  rw [List.span_eq_takeWhile_dropWhile, List.takeWhile_append_of_pos all,
    List.dropWhile_append_of_pos all]
  cases rest with
  | nil => simp
  | cons c rest =>
    have stop := stops c rfl
    simp [stop]

theorem exponentPart_append {exponent rest : List Char} (ends : Ends rest)
    (form : Exponent exponent) :
    exponentPart (exponent ++ rest) = (exponent, rest) := by
  have stops : ∀ c ∈ rest.head?, c.isDigit = false := fun c first => (ends c first).1
  rcases form with rfl | ⟨mark, sign, digits, named, signed, number, rfl⟩
  · cases rest with
    | nil => rfl
    | cons c rest =>
      have other := ends c rfl
      simp [exponentPart, other]
  · have unsigned : signPart (sign ++ (digits ++ rest)) = (sign, digits ++ rest) := by
      obtain ⟨d, digits, rfl⟩ := List.exists_cons_of_ne_nil number.1
      have digit := number.2 d List.mem_cons_self
      rcases signed with rfl | rfl | rfl
      · unfold signPart
        split
        · rename_i minus
          rw [(List.cons.inj minus).1] at digit
          cases digit
        · rename_i plus
          rw [(List.cons.inj plus).1] at digit
          cases digit
        · rfl
      · rfl
      · rfl
    rw [List.cons_append, List.append_assoc, exponentPart]
    simp only [unsigned, span_digits number.2 stops]
    rw [if_pos ⟨named, number.1⟩]

theorem decimalPart_append {decimals rest : List Char}
    (stops : ∀ c ∈ rest.head?, c.isDigit = false ∧ c ≠ '.')
    (form : Decimals decimals) :
    decimalPart (decimals ++ rest) = (decimals, rest) := by
  rcases form with rfl | ⟨digits, number, rfl⟩
  · rw [List.nil_append]
    unfold decimalPart
    split
    · exact absurd rfl (stops '.' rfl).2
    · rfl
  · rw [List.cons_append, decimalPart, span_digits number.2 fun c first => (stops c first).1]
    exact if_neg number.1

theorem wholePart_append {whole rest : List Char} (digits : Digits whole)
    (leading : whole.head? = some '0' → whole = ['0'])
    (stops : ∀ c ∈ rest.head?, c.isDigit = false) :
    wholePart (whole ++ rest) = some (whole, rest) := by
  obtain ⟨c, tail, rfl⟩ := List.exists_cons_of_ne_nil digits.1
  by_cases zero : c = '0'
  · subst zero
    obtain rfl := (List.cons.inj (leading rfl)).2
    rfl
  · have spanned := span_digits digits.2 stops
    rw [List.cons_append] at spanned ⊢
    unfold wholePart
    split
    · rename_i same
      exact absurd (List.cons.inj same).1 zero
    · rename_i same
      obtain ⟨rfl, rfl⟩ := List.cons.inj same
      rw [if_pos (digits.2 _ List.mem_cons_self), spanned]
    · rename_i empty
      cases empty

theorem exponent_stops {exponent rest : List Char} (ends : Ends rest) (form : Exponent exponent) :
    ∀ c ∈ (exponent ++ rest).head?, c.isDigit = false ∧ c ≠ '.' := by
  intro c first
  rcases form with rfl | ⟨mark, sign, digits, named, -, -, rfl⟩
  · exact ⟨(ends c first).1, (ends c first).2.1⟩
  · cases first
    rcases named with rfl | rfl <;> decide

theorem decimals_stops {decimals rest : List Char}
    (stops : ∀ c ∈ rest.head?, c.isDigit = false ∧ c ≠ '.') (form : Decimals decimals) :
    ∀ c ∈ (decimals ++ rest).head?, c.isDigit = false := by
  intro c first
  rcases form with rfl | ⟨digits, -, rfl⟩
  · exact (stops c first).1
  · cases first
    rfl

theorem minus_append {sign whole rest : List Char} (digits : Digits whole)
    (signed : sign = [] ∨ sign = ['-']) : minus (sign ++ (whole ++ rest)) = (sign, whole ++ rest) := by
  rcases signed with rfl | rfl
  · obtain ⟨c, tail, rfl⟩ := List.exists_cons_of_ne_nil digits.1
    have digit := digits.2 c List.mem_cons_self
    rw [List.nil_append]
    unfold minus
    split
    · rename_i same
      rw [(List.cons.inj same).1] at digit
      cases digit
    · rfl
  · rfl

/-- The whole text of a number is read. -/
theorem number_append {reader : Reader} {sign whole decimals exponent rest : List Char}
    (text : NumberText sign whole decimals exponent) (ends : Ends rest) :
    number reader (sign ++ whole ++ decimals ++ exponent ++ rest) =
      some (if decimals = [] ∧ exponent = [] then
          .num (if sign = [] then (Nat.ofDigitChars 10 whole 0 : ℤ) else -(Nat.ofDigitChars 10 whole 0 : ℤ))
        else .float (reader.float (sign ++ whole ++ decimals ++ exponent)), rest) := by
  have after := exponent_stops ends text.scientific
  have shape : sign ++ whole ++ decimals ++ exponent ++ rest =
      sign ++ (whole ++ (decimals ++ (exponent ++ rest))) := by simp
  rw [number, shape, minus_append text.digits text.signed]
  simp only [wholePart_append text.digits text.leading (decimals_stops after text.fraction),
    Option.map_some, decimalPart_append after text.fraction, exponentPart_append ends text.scientific]
  split <;> rfl

/-- The text of an integer. -/
theorem toDigits_leading (n : Nat) :
    (Nat.toDigits 10 n).head? = some '0' → Nat.toDigits 10 n = ['0'] := by
  induction n using Nat.strongRecOn with
  | ind n ih =>
    intro first
    by_cases small : n < 10
    · rw [Nat.toDigits_of_lt_base small] at first ⊢
      simpa using first
    · rw [Nat.toDigits_of_base_le (by omega) (by omega)] at first
      have some : Nat.toDigits 10 (n / 10) ≠ [] := Nat.toDigits_ne_nil
      rw [List.head?_append_of_ne_nil _ some] at first
      have zero := congrArg (Nat.ofDigitChars 10 · 0) (ih (n / 10) (by omega) first)
      simp only [Nat.ofDigitChars_ten_toDigits] at zero
      have value : Nat.ofDigitChars 10 ['0'] 0 = 0 := rfl
      omega

theorem digits_toDigits (n : Nat) : Digits (Nat.toDigits 10 n) :=
  ⟨Nat.toDigits_ne_nil, fun _ member => Nat.isDigit_of_mem_toDigits (by omega) (by omega) member⟩

theorem toList_toString (n : ℤ) : (toString n).toList =
    (if n < 0 then ['-'] else []) ++ Nat.toDigits 10 n.natAbs := by
  cases n with
  | ofNat n =>
    have positive : ¬ (Int.ofNat n < 0) := by simp
    rw [if_neg positive]
    exact Nat.toList_repr
  | negSucc n =>
    have text : toString (Int.negSucc n) = "-" ++ (n + 1).repr := rfl
    rw [if_pos (Int.negSucc_lt_zero n), text, String.toList_append, Nat.toList_repr]
    rfl

/-- The text of a float. -/
def IsFloat (reader : Reader) (text : String) : Prop :=
  text ∈ ["NaN", "Infinity", "-Infinity"] ∨
    ∃ sign whole decimals exponent, NumberText sign whole decimals exponent ∧
      ¬ (decimals = [] ∧ exponent = []) ∧ text.toList = sign ++ whole ++ decimals ++ exponent ∧
      reader.float text.toList = text

/-! ## Values -/

def space (c : Char) : Bool := c = ' ' || c = '\t' || c = '\n' || c = '\r'

def skip (text : List Char) : List Char := text.dropWhile space

def constants : List (List Char × PyJson) :=
  [("null".toList, .null), ("true".toList, .bool true), ("false".toList, .bool false),
    ("NaN".toList, .float "NaN"), ("Infinity".toList, .float "Infinity"),
    ("-Infinity".toList, .float "-Infinity")]

def constant (text : List Char) : Option (PyJson × List Char) :=
  (constants.find? fun name => name.1.isPrefixOf text).map fun name =>
    (name.2, text.drop name.1.length)

/-- A string after its opening quote. -/
def string (text : List Char) : Option (String × List Char) :=
  (stringBody (text.length + 1) text).map fun body => (String.ofList body.1, body.2)

/-- The `dict` of pairs: the last value of a key. -/
def dictOf (pairs : List (String × PyJson)) : List (String × PyJson) :=
  pairs.foldl (fun dict pair => PyDict.setItem dict pair.1 pair.2) []

section
variable (reader : Reader)

mutual
/-- `scan_once`. -/
def value : Nat → List Char → Option (PyJson × List Char)
  | 0, _ => none
  | _ + 1, [] => none
  | fuel + 1, c :: rest =>
    if c = '"' then (string rest).map fun s => (.str s.1, s.2)
    else if c = '[' then
      if (skip rest).head? = some ']' then some (.arr [], (skip rest).tail)
      else (values fuel (skip rest)).map fun items => (.arr items.1, items.2)
    else if c = '\x7b' then
      if (skip rest).head? = some '\x7d' then some (.obj [], (skip rest).tail)
      else (pairs fuel (skip rest)).map fun fields => (.obj (dictOf fields.1), fields.2)
    else (constant (c :: rest)).or (number reader (c :: rest))

/-- The items of an array up to its bracket. -/
def values : Nat → List Char → Option (List PyJson × List Char)
  | 0, _ => none
  | fuel + 1, text => (value fuel text).bind fun first =>
    match skip first.2 with
    | ',' :: rest => (values fuel (skip rest)).map fun more => (first.1 :: more.1, more.2)
    | ']' :: rest => some ([first.1], rest)
    | _ => none

/-- The pairs of an object up to its brace. -/
def pairs : Nat → List Char → Option (List (String × PyJson) × List Char)
  | 0, _ => none
  | fuel + 1, text =>
    match text with
    | '"' :: text => (string text).bind fun key =>
      match skip key.2 with
      | ':' :: text => (value fuel (skip text)).bind fun first =>
        match skip first.2 with
        | ',' :: rest => (pairs fuel (skip rest)).map fun more => ((key.1, first.1) :: more.1, more.2)
        | '\x7d' :: rest => some ([(key.1, first.1)], rest)
        | _ => none
      | _ => none
    | _ => none
end

/-- `json.loads` of a text. -/
def loads (text : List Char) : Option PyJson :=
  (value reader (text.length + 1) (skip text)).bind fun read =>
    if skip read.2 = [] then some read.1 else none

/-- `json.loads` of bytes. -/
def loadsBytes (bytes : List UInt8) : Option PyJson := (reader.decode bytes).bind (loads reader)

mutual
/-- A value as Python has it: the keys of a `dict` are distinct, and a float has the text
it is read from. -/
def WellFormed : PyJson → Prop
  | .float repr => IsFloat reader repr
  | .arr items => WellFormedItems items
  | .obj fields => (fields.map Prod.fst).Nodup ∧ WellFormedFields fields
  | _ => True

def WellFormedItems : List PyJson → Prop
  | [] => True
  | item :: rest => WellFormed item ∧ WellFormedItems rest

def WellFormedFields : List (String × PyJson) → Prop
  | [] => True
  | (_, value) :: rest => WellFormed value ∧ WellFormedFields rest
end

end

/-- `text.encode()`. -/
def encode (text : List Char) : List UInt8 := text.flatMap String.utf8EncodeChar

/-- White space and escapes are read, and nothing may follow. -/
example : (loads ⟨fun _ => none, String.ofList⟩ " [1 ,\t\"\\u00e9\"]\n".toList).isSome = true ∧
    (loads ⟨fun _ => none, String.ofList⟩ "[1],".toList).isSome = false := by decide +kernel

end PyJson
