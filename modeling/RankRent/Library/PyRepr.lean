import RankRent.Library.PyFloat
import RankRent.Library.PyJson
import RankRent.Library.PyString

/-!
# Python text of JSON values

`bool(value)`, `repr(value)` and `str(value)` of what `json.loads` returns.
-/

namespace PyJson

/-- `bool(value)`. -/
def truthy : PyJson → Bool
  | .null => false
  | .bool b => b
  | .num n => n ≠ 0
  | .float repr => repr ≠ "0.0" && repr ≠ "-0.0"
  | .str s => s ≠ ""
  | .arr items => !items.isEmpty
  | .obj fields => !fields.isEmpty

/-- `repr` of a float. -/
def floatRepr (text : String) : String :=
  if text = "NaN" then "nan"
  else if text = "Infinity" then "inf"
  else if text = "-Infinity" then "-inf"
  else text

/-- The last hexadecimal digits of a number. -/
def hex (width n : Nat) : String := String.ofList (List.leftpad width '0' (Nat.toDigits 16 n))

section
variable (isPrintable : Char → Bool)

/-- One character of the `repr` of a `str` between the given quotes. -/
def reprChar (quotes c : Char) : String :=
  if c = quotes ∨ c = '\\' then "\\" ++ c.toString
  else if c = '\t' then "\\t"
  else if c = '\n' then "\\n"
  else if c = '\r' then "\\r"
  else if c.toNat < 32 ∨ c.toNat = 127 then "\\x" ++ hex 2 c.toNat
  else if c.toNat < 127 ∨ isPrintable c then c.toString
  else if c.toNat < 256 then "\\x" ++ hex 2 c.toNat
  else if c.toNat < 65536 then "\\u" ++ hex 4 c.toNat
  else "\\U" ++ hex 8 c.toNat

/-- `repr` of a `str`, in double quotes when only single ones occur in it. -/
def reprText (s : String) : String :=
  let quotes := if '\'' ∈ s.toList ∧ '"' ∉ s.toList then '"' else '\''
  quotes.toString ++ String.join (s.toList.map (reprChar isPrintable quotes)) ++ quotes.toString

mutual
/-- `repr(value)`. -/
def repr : PyJson → String
  | .null => "None"
  | .str s => reprText isPrintable s
  | .num n => toString n
  | .float text => floatRepr text
  | .bool b => if b then "True" else "False"
  | .arr items => "[" ++ String.intercalate ", " (reprItems items) ++ "]"
  | .obj fields => "\x7b" ++ String.intercalate ", " (reprFields fields) ++ "\x7d"

def reprItems : List PyJson → List String
  | [] => []
  | item :: rest => item.repr :: reprItems rest

def reprFields : List (String × PyJson) → List String
  | [] => []
  | (key, value) :: rest => (reprText isPrintable key ++ ": " ++ value.repr) :: reprFields rest
end

/-- `str(value)`. -/
def text : PyJson → String
  | .str s => s
  | value => value.repr isPrintable

def reprTextChars (s : String) : List Char :=
  let quotes := if '\'' ∈ s.toList ∧ '"' ∉ s.toList then '"' else '\''
  quotes :: s.toList.flatMap (fun c => (reprChar isPrintable quotes c).toList) ++ [quotes]

mutual
def reprChars : PyJson → List Char
  | .str s => reprTextChars isPrintable s
  | .arr items => '[' :: List.intercalate [',', ' '] (reprItemsChars items) ++ [']']
  | .obj fields => '\x7b' :: List.intercalate [',', ' '] (reprFieldsChars fields) ++ ['\x7d']
  | value => (value.repr isPrintable).toList

def reprItemsChars : List PyJson → List (List Char)
  | [] => []
  | item :: rest => item.reprChars :: reprItemsChars rest

def reprFieldsChars : List (String × PyJson) → List (List Char)
  | [] => []
  | (key, value) :: rest => (reprTextChars isPrintable key ++ ':' :: ' ' :: value.reprChars) :: reprFieldsChars rest
end

theorem toList_reprText (s : String) : (reprText isPrintable s).toList = reprTextChars isPrintable s := by
  simp [reprText, reprTextChars, List.flatMap_map]

mutual
theorem toList_repr : ∀ value : PyJson, (value.repr isPrintable).toList = value.reprChars isPrintable
  | .null => rfl
  | .str s => toList_reprText isPrintable s
  | .num _ => rfl
  | .float _ => rfl
  | .bool _ => rfl
  | .arr items => by
    simp [repr, reprChars, ← toList_reprItems items]
  | .obj fields => by
    simp [repr, reprChars, ← toList_reprFields fields]

theorem toList_reprItems : ∀ items : List PyJson,
    (reprItems isPrintable items).map String.toList = reprItemsChars isPrintable items
  | [] => rfl
  | item :: rest => by
    rw [reprItems, reprItemsChars, List.map_cons, toList_repr item, toList_reprItems rest]

theorem toList_reprFields : ∀ fields : List (String × PyJson),
    (reprFields isPrintable fields).map String.toList = reprFieldsChars isPrintable fields
  | [] => rfl
  | (key, value) :: rest => by
    rw [reprFields, reprFieldsChars, List.map_cons, toList_reprFields rest, String.toList_append,
      String.toList_append, toList_reprText, toList_repr value, List.append_assoc]
    rfl
end

end

example : (PyJson.arr [.str "it's", .num 2, .null]).text (fun _ => true) = "[\"it's\", 2, None]" := by
  decide +kernel

end PyJson

/-!
## Equal JSON values

`==` of Python on what `json.loads` returns: numbers of any type by their value,
dicts whatever their order.
-/

namespace PyJson

/-- The value of a number; a `bool` is one. -/
def number? : PyJson → Option PyFloat
  | .num n => some (.finite n)
  | .bool b => some (.finite (if b then 1 else 0))
  | .float repr => some ((PyFloat.ofText? repr).getD .nan)
  | _ => none

def equalNumbers (x y : PyJson) : Bool :=
  match x.number?, y.number? with
  | some .nan, _ => false
  | some a, some b => a = b
  | _, _ => false

mutual
/-- `x == y`. -/
def equal : PyJson → PyJson → Bool
  | .null, y => match y with
    | .null => true
    | _ => false
  | .str s, y => match y with
    | .str t => s = t
    | _ => false
  | .arr items, y => match y with
    | .arr others => equalItems items others
    | _ => false
  | .obj fields, y => match y with
    | .obj others => fields.length = others.length && equalFields fields others
    | _ => false
  | .num n, y => equalNumbers (.num n) y
  | .float repr, y => equalNumbers (.float repr) y
  | .bool b, y => equalNumbers (.bool b) y

def equalItems : List PyJson → List PyJson → Bool
  | [], others => others.isEmpty
  | item :: items, others => match others with
    | other :: others => equal item other && equalItems items others
    | [] => false

/-- Every field of the first is one of the second. -/
def equalFields : List (String × PyJson) → List (String × PyJson) → Bool
  | [], _ => true
  | (key, value) :: fields, others =>
    (match others.lookup key with
      | some other => equal value other
      | none => false) && equalFields fields others
end

end PyJson
