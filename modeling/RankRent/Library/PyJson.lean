import Mathlib.Data.List.Sort
import Mathlib.Data.String.Basic

/-!
# JSON values

Their normal form and their text. A Python `dict` is its items in insertion
order; its keys are distinct.
-/

inductive PyJson
  | null
  | str (s : String)
  | num (n : Int)
  /-- A `float`, by its text in JSON: its `repr`, or `NaN`, `Infinity`, `-Infinity`. -/
  | float (repr : String)
  | bool (b : Bool)
  | arr (items : List PyJson)
  | obj (fields : List (String × PyJson))

namespace PyJson

section Keys
variable {α : Type}

/-- `sort_keys`. -/
def sortKeys (fields : List (String × α)) : List (String × α) :=
  fields.mergeSort fun a b => decide (a.1 ≤ b.1)

theorem sortKeys_sorted (fields : List (String × α)) :
    (sortKeys fields).Pairwise fun a b => a.1 ≤ b.1 := by
  have sorted : (sortKeys fields).Pairwise fun a b => decide (a.1 ≤ b.1) = true := by
    refine List.pairwise_mergeSort (fun a b c first second => ?_) (fun a b => ?_) fields
    · rw [decide_eq_true_eq] at first second ⊢
      exact le_trans first second
    · rw [Bool.or_eq_true, decide_eq_true_eq, decide_eq_true_eq]
      exact le_total a.1 b.1
  exact sorted.imp of_decide_eq_true

/-- The order of insertion is lost. -/
theorem sortKeys_perm {fields other : List (String × α)} (perm : fields.Perm other)
    (distinct : (other.map Prod.fst).Nodup) : sortKeys fields = sortKeys other := by
  have left : (sortKeys fields).Perm other := (List.mergeSort_perm ..).trans perm
  have right : (sortKeys other).Perm other := List.mergeSort_perm ..
  refine List.Perm.eq_of_pairwise ?_ (sortKeys_sorted fields) (sortKeys_sorted other)
    (left.trans right.symm)
  intro a b inLeft inRight below above
  exact List.inj_on_of_nodup_map distinct (left.mem_iff.mp inLeft) (right.mem_iff.mp inRight)
    (le_antisymm below above)

theorem sortKeys_sortKeys (fields : List (String × α)) :
    sortKeys (sortKeys fields) = sortKeys fields := by
  refine List.mergeSort_of_pairwise ((sortKeys_sorted fields).imp fun below => ?_)
  exact decide_eq_true below

/-- With distinct keys it is any other sort by them. -/
theorem sortKeys_eq_insertionSort {fields : List (String × α)}
    (distinct : (fields.map Prod.fst).Nodup) :
    sortKeys fields = fields.insertionSort fun a b => a.1 ≤ b.1 := by
  have : Std.Total fun a b : String × α => a.1 ≤ b.1 := ⟨fun a b => le_total a.1 b.1⟩
  have : IsTrans (String × α) fun a b => a.1 ≤ b.1 := ⟨fun _ _ _ first second => first.trans second⟩
  have perm := List.perm_insertionSort (fun a b : String × α => a.1 ≤ b.1) fields
  have sorted := List.pairwise_insertionSort (fun a b : String × α => a.1 ≤ b.1) fields
  rw [sortKeys_perm perm.symm ((perm.map _).nodup_iff.mpr distinct)]
  exact List.mergeSort_of_pairwise (sorted.imp fun below => decide_eq_true below)

theorem mem_sortKeys {fields : List (String × α)} {field : String × α} :
    field ∈ sortKeys fields ↔ field ∈ fields :=
  (List.mergeSort_perm ..).mem_iff

end Keys

mutual
/-- `json.loads(json.dumps(value, sort_keys=True))`. -/
def normalize : PyJson → PyJson
  | .null => .null
  | .str s => .str s
  | .num n => .num n
  | .float repr => .float repr
  | .bool b => .bool b
  | .arr items => .arr (normalizeItems items)
  | .obj fields => .obj (sortKeys (normalizeFields fields))

def normalizeItems : List PyJson → List PyJson
  | [] => []
  | item :: rest => item.normalize :: normalizeItems rest

def normalizeFields : List (String × PyJson) → List (String × PyJson)
  | [] => []
  | (key, value) :: rest => (key, value.normalize) :: normalizeFields rest
end

theorem normalizeFields_eq_map (fields : List (String × PyJson)) :
    normalizeFields fields = fields.map fun field => (field.1, field.2.normalize) := by
  induction fields with
  | nil => rfl
  | cons field rest ih => rw [normalizeFields, List.map_cons, ih]

/-- Two dicts with the same items are the same request. -/
theorem normalize_obj_perm {fields other : List (String × PyJson)} (perm : fields.Perm other)
    (distinct : (other.map Prod.fst).Nodup) :
    (PyJson.obj fields).normalize = (PyJson.obj other).normalize := by
  rw [normalize, normalize, normalizeFields_eq_map, normalizeFields_eq_map]
  refine congrArg PyJson.obj (sortKeys_perm (perm.map _) ?_)
  rw [List.map_map]
  exact distinct

mutual
/-- A normal form is its own. -/
theorem normalize_normalize : ∀ value : PyJson, value.normalize.normalize = value.normalize
  | .null => rfl
  | .str _ => rfl
  | .num _ => rfl
  | .float _ => rfl
  | .bool _ => rfl
  | .arr items => by rw [normalize, normalize, normalizeItems_normalizeItems items]
  | .obj fields => by
    have kept : normalizeFields (sortKeys (normalizeFields fields)) =
        sortKeys (normalizeFields fields) := by
      rw [normalizeFields_eq_map (sortKeys _)]
      refine List.map_congr_left (g := id) (fun field member => ?_) |>.trans (List.map_id _)
      rw [mem_normalizeFields fields field (mem_sortKeys.mp member)]
      rfl
    rw [normalize, normalize, kept, sortKeys_sortKeys]

theorem normalizeItems_normalizeItems :
    ∀ items : List PyJson, normalizeItems (normalizeItems items) = normalizeItems items
  | [] => rfl
  | item :: rest => by
    rw [normalizeItems, normalizeItems, normalize_normalize item,
      normalizeItems_normalizeItems rest]

theorem mem_normalizeFields : ∀ (fields : List (String × PyJson)) (field : String × PyJson),
    field ∈ normalizeFields fields → field.2.normalize = field.2
  | [], _, member => by cases member
  | (key, value) :: rest, field, member => by
    rw [normalizeFields, List.mem_cons] at member
    rcases member with rfl | later
    · exact normalize_normalize value
    · exact mem_normalizeFields rest field later
end

/-! ## Text -/

/-- `\uXXXX`. -/
def unicodeEscape (n : Nat) : String :=
  "\\u" ++ String.ofList (List.leftpad 4 '0' (Nat.toDigits 16 n))

/-- One character of a string under `ensure_ascii`. -/
def escape (c : Char) : String :=
  if c = '"' then "\\\""
  else if c = '\\' then "\\\\"
  else if c = '\n' then "\\n"
  else if c = '\r' then "\\r"
  else if c = '\t' then "\\t"
  else if c.toNat = 8 then "\\b"
  else if c.toNat = 12 then "\\f"
  else if 32 ≤ c.toNat ∧ c.toNat ≤ 126 then c.toString
  else if c.toNat < 65536 then unicodeEscape c.toNat
  else unicodeEscape (55296 + (c.toNat - 65536) / 1024) ++
    unicodeEscape (56320 + (c.toNat - 65536) % 1024)

def quote (s : String) : String := "\"" ++ String.join (s.toList.map escape) ++ "\""

mutual
/-- `json.dumps(value, sort_keys=True, separators=(",", ":"))`. -/
def dumps : PyJson → String
  | .null => "null"
  | .str s => quote s
  | .num n => toString n
  | .float repr => repr
  | .bool b => if b then "true" else "false"
  | .arr items => "[" ++ String.intercalate "," (dumpsItems items) ++ "]"
  | .obj fields => "\x7b" ++ String.intercalate ","
      ((sortKeys (dumpsFields fields)).map fun field => quote field.1 ++ ":" ++ field.2) ++ "\x7d"

def dumpsItems : List PyJson → List String
  | [] => []
  | item :: rest => item.dumps :: dumpsItems rest

def dumpsFields : List (String × PyJson) → List (String × String)
  | [] => []
  | (key, value) :: rest => (key, value.dumps) :: dumpsFields rest
end

/-! ## Characters of the text -/

def quoteChars (s : String) : List Char := '"' :: s.toList.flatMap (fun c => (escape c).toList) ++ ['"']

theorem toList_quote (s : String) : (quote s).toList = quoteChars s := by
  simp [quote, quoteChars, List.flatMap_map]

mutual
def dumpsChars : PyJson → List Char
  | .null => "null".toList
  | .str s => quoteChars s
  | .num n => (toString n).toList
  | .float repr => repr.toList
  | .bool b => if b then "true".toList else "false".toList
  | .arr items => '[' :: List.intercalate [','] (itemsChars items) ++ [']']
  | .obj fields => '\x7b' :: List.intercalate [',']
      ((sortKeys (fieldsChars fields)).map fun field => quoteChars field.1 ++ ':' :: field.2) ++ ['\x7d']

def itemsChars : List PyJson → List (List Char)
  | [] => []
  | item :: rest => item.dumpsChars :: itemsChars rest

def fieldsChars : List (String × PyJson) → List (String × List Char)
  | [] => []
  | (key, value) :: rest => (key, value.dumpsChars) :: fieldsChars rest
end

theorem map_sortKeys {α β : Type} (f : α → β) (fields : List (String × α)) :
    (sortKeys fields).map (fun field => (field.1, f field.2)) =
      sortKeys (fields.map fun field => (field.1, f field.2)) :=
  List.map_mergeSort fun _ _ _ _ => rfl

mutual
theorem toList_dumps : ∀ value : PyJson, value.dumps.toList = value.dumpsChars
  | .null => rfl
  | .str s => toList_quote s
  | .num _ => rfl
  | .float _ => rfl
  | .bool b => by cases b <;> rfl
  | .arr items => by
    simp [dumps, dumpsChars, ← toList_dumpsItems items]
  | .obj fields => by
    simp only [dumps, dumpsChars, ← toList_dumpsFields fields, ← map_sortKeys]
    simp [toList_quote, Function.comp_def]

theorem toList_dumpsItems : ∀ items : List PyJson,
    (dumpsItems items).map String.toList = itemsChars items
  | [] => rfl
  | item :: rest => by
    rw [dumpsItems, itemsChars, List.map_cons, toList_dumps item, toList_dumpsItems rest]

theorem toList_dumpsFields : ∀ fields : List (String × PyJson),
    (dumpsFields fields).map (fun field => (field.1, field.2.toList)) = fieldsChars fields
  | [] => rfl
  | (key, value) :: rest => by
    rw [dumpsFields, fieldsChars, List.map_cons, toList_dumps value, toList_dumpsFields rest]
end

theorem intercalate_ne_nil {sep first : List Char} {rest : List (List Char)} (some : first ≠ []) :
    List.intercalate sep (first :: rest) ≠ [] := by
  cases rest <;> simp [some]

theorem dumps_obj_ne_empty (fields : List (String × PyJson)) : (PyJson.obj fields).dumps ≠ "" := by
  intro same
  have chars := congrArg String.toList same
  rw [toList_dumps, dumpsChars] at chars
  cases chars

/-- Only the empty object has its text. -/
theorem dumps_obj_ne {fields : List (String × PyJson)} (some : fields ≠ []) :
    (PyJson.obj fields).dumps ≠ (PyJson.obj []).dumps := by
  intro same
  have chars := congrArg String.toList same
  obtain ⟨field, fields, rfl⟩ := List.exists_cons_of_ne_nil some
  rw [toList_dumps, toList_dumps, dumpsChars, dumpsChars] at chars
  simp only [fieldsChars] at chars
  cases sorted : sortKeys ((field.1, field.2.dumpsChars) :: fieldsChars fields) with
  | nil =>
    have size := congrArg List.length sorted
    simp [sortKeys] at size
  | cons first rest =>
    rw [sorted, List.map_cons] at chars
    have empty : sortKeys ([] : List (String × List Char)) = [] := List.mergeSort_nil
    rw [empty] at chars
    have inner := List.append_cancel_right (List.cons.inj chars).2
    exact intercalate_ne_nil (by simp [quoteChars]) inner

/-- An object with distinct keys, by a sort that evaluates. -/
def objChars (fields : List (String × List Char)) : List Char :=
  '\x7b' :: List.intercalate [','] ((fields.insertionSort fun a b => a.1 ≤ b.1).map fun field =>
    quoteChars field.1 ++ ':' :: field.2) ++ ['\x7d']

theorem dumpsChars_obj {fields : List (String × PyJson)} (distinct : (fields.map Prod.fst).Nodup) :
    (PyJson.obj fields).dumpsChars = objChars (fieldsChars fields) := by
  have keys : (fieldsChars fields).map Prod.fst = fields.map Prod.fst := by
    induction fields with
    | nil => rfl
    | cons field fields ih =>
      rw [fieldsChars, List.map_cons, List.map_cons, ih (List.nodup_cons.mp distinct).2]
  rw [dumpsChars, sortKeys_eq_insertionSort (keys ▸ distinct), objChars]

end PyJson
