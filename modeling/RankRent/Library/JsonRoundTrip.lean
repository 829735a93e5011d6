import RankRent.Library.JsonText

/-!
# Written and read JSON

What `dumps` writes of a value is read back as its normal form, and a normal form keeps
everything of a value but the order of its keys.
-/

namespace PyJson

/-! ## The text of a normal form -/

mutual
/-- The text of a value, its keys as they come. -/
def render : PyJson → List Char
  | .null => "null".toList
  | .str s => quoteChars s
  | .num n => (toString n).toList
  | .float repr => repr.toList
  | .bool b => if b then "true".toList else "false".toList
  | .arr items => '[' :: List.intercalate [','] (renderItems items) ++ [']']
  | .obj fields => '\x7b' :: List.intercalate [','] (renderFields fields) ++ ['\x7d']

def renderItems : List PyJson → List (List Char)
  | [] => []
  | item :: rest => item.render :: renderItems rest

def renderFields : List (String × PyJson) → List (List Char)
  | [] => []
  | (key, value) :: rest => (quoteChars key ++ ':' :: value.render) :: renderFields rest
end

theorem renderFields_eq_map (fields : List (String × PyJson)) :
    renderFields fields = fields.map fun field => quoteChars field.1 ++ ':' :: field.2.render := by
  induction fields with
  | nil => rfl
  | cons field rest ih => rw [renderFields, List.map_cons, ih]

mutual
/-- `dumps` writes the normal form. -/
theorem dumpsChars_eq : ∀ value : PyJson, value.dumpsChars = value.normalize.render
  | .null => rfl
  | .str _ => rfl
  | .num _ => rfl
  | .float _ => rfl
  | .bool _ => rfl
  | .arr items => by rw [dumpsChars, normalize, render, itemsChars_eq items]
  | .obj fields => by
    rw [dumpsChars, normalize, render, fieldsChars_eq fields, ← map_sortKeys, renderFields_eq_map,
      List.map_map]
    rfl

theorem itemsChars_eq : ∀ items : List PyJson, itemsChars items = renderItems (normalizeItems items)
  | [] => rfl
  | item :: rest => by
    rw [itemsChars, normalizeItems, renderItems, dumpsChars_eq item, itemsChars_eq rest]

theorem fieldsChars_eq : ∀ fields : List (String × PyJson),
    fieldsChars fields = (normalizeFields fields).map fun field => (field.1, field.2.render)
  | [] => rfl
  | (key, value) :: rest => by
    rw [fieldsChars, normalizeFields, List.map_cons, dumpsChars_eq value, fieldsChars_eq rest]
end

/-- A normal form has the text of its value. -/
theorem dumps_normalize (value : PyJson) : value.normalize.dumps = value.dumps := by
  rw [← String.toList_inj, toList_dumps, toList_dumps, dumpsChars_eq, dumpsChars_eq,
    normalize_normalize]

/-! ## What is written is read -/

section
variable {reader : Reader}

/-- The start of a number. -/
def Numeric (text : List Char) : Prop :=
  ∃ c tail, text = c :: tail ∧
    (c.isDigit = true ∨ c = '-' ∧ ∃ d more, tail = d :: more ∧ d.isDigit = true)

theorem NumberText.numeric {sign whole decimals exponent : List Char}
    (text : NumberText sign whole decimals exponent) (rest : List Char) :
    Numeric (sign ++ whole ++ decimals ++ exponent ++ rest) := by
  obtain ⟨d, more, split_⟩ := List.exists_cons_of_ne_nil text.digits.1
  have digit := text.digits.2 d (by rw [split_]; exact List.mem_cons_self)
  rw [split_]
  rcases text.signed with rfl | rfl
  · exact ⟨d, _, rfl, .inl digit⟩
  · exact ⟨'-', _, rfl, .inr ⟨rfl, d, _, rfl, digit⟩⟩

theorem Numeric.constant {text : List Char} (numeric : Numeric text) :
    PyJson.constant text = none := by
  have none_ : constants.find? (fun name => name.1.isPrefixOf text) = none := by
    have other {d : Char} (digit : d.isDigit = true) (e : Char) (letter : e.isDigit = false) :
        (e == d) = false := by
      rw [beq_eq_false_iff_ne]
      rintro rfl
      rw [letter] at digit
      cases digit
    obtain ⟨c, tail, rfl, digit | ⟨rfl, d, more, rfl, digit⟩⟩ := numeric
    · simp [constants, List.find?, List.isPrefixOf, other digit 'n' rfl, other digit 't' rfl,
        other digit 'f' rfl, other digit 'N' rfl, other digit 'I' rfl, other digit '-' rfl]
    · simp [constants, List.find?, List.isPrefixOf, other digit 'I' rfl]
  rw [PyJson.constant, none_]
  rfl

theorem ne_of_numeric {c : Char} {tail : List Char} (numeric : Numeric (c :: tail)) {e : Char}
    (letter : e.isDigit = false) (minus : e ≠ '-') : c ≠ e := by
  rintro rfl
  obtain ⟨d, more, same, start⟩ := numeric
  obtain ⟨rfl, rfl⟩ := List.cons.inj same
  rcases start with digit | ⟨same, -⟩
  · rw [letter] at digit
    cases digit
  · exact minus same

theorem Numeric.value {text : List Char} (numeric : Numeric text) (fuel : Nat) :
    PyJson.value reader (fuel + 1) text = number reader text := by
  have none_ := numeric.constant
  obtain ⟨c, tail, rfl, -⟩ := id numeric
  rw [PyJson.value, if_neg (ne_of_numeric numeric rfl (by decide)),
    if_neg (ne_of_numeric numeric rfl (by decide)), if_neg (ne_of_numeric numeric rfl (by decide)), none_]
  rfl

/-- The first character of a value. -/
def Opens (text : List Char) : Prop :=
  ∃ c tail, text = c :: tail ∧ space c = false ∧ c ≠ ']' ∧ c ≠ '\x7d'

theorem Numeric.opens {text : List Char} (numeric : Numeric text) : Opens text := by
  obtain ⟨c, tail, rfl, -⟩ := id numeric
  have other (e : Char) (letter : e.isDigit = false) (minus : e ≠ '-') : c ≠ e :=
    ne_of_numeric numeric letter minus
  refine ⟨c, tail, rfl, ?_, other _ rfl (by decide), other _ rfl (by decide)⟩
  simp [space, other ' ' rfl (by decide), other '\t' rfl (by decide), other '\n' rfl (by decide),
    other '\r' rfl (by decide)]

theorem Opens.append {text : List Char} (opens : Opens text) (rest : List Char) :
    Opens (text ++ rest) := by
  obtain ⟨c, tail, rfl, apart⟩ := opens
  exact ⟨c, tail ++ rest, rfl, apart⟩

theorem Opens.skip {text : List Char} (opens : Opens text) : PyJson.skip text = text := by
  obtain ⟨c, tail, rfl, apart, -⟩ := opens
  simp [PyJson.skip, apart]

theorem Opens.not_closing {text : List Char} (opens : Opens text) :
    text.head? ≠ some ']' ∧ text.head? ≠ some '\x7d' := by
  obtain ⟨c, tail, rfl, -, bracket, brace⟩ := opens
  simp [bracket, brace]

theorem number_toString (n : ℤ) : ∃ sign, NumberText sign (Nat.toDigits 10 n.natAbs) [] [] ∧
    (toString n).toList = sign ++ Nat.toDigits 10 n.natAbs ++ [] ++ [] ∧ (sign = [] ↔ 0 ≤ n) := by
  refine ⟨if n < 0 then ['-'] else [], ?_,
    by rw [toList_toString, List.append_nil, List.append_nil], ?_⟩
  · constructor
    · by_cases negative : n < 0 <;> simp [negative]
    · exact digits_toDigits n.natAbs
    · exact toDigits_leading n.natAbs
    · exact .inl rfl
    · exact .inl rfl
  · by_cases negative : n < 0
    · simp [negative]
    · simp [negative]
      omega

theorem opens_render {v : PyJson} (formed : WellFormed reader v) : Opens v.render := by
  cases v with
  | null => exact ⟨'n', _, rfl, rfl, by decide, by decide⟩
  | str s => exact ⟨'"', _, rfl, rfl, by decide, by decide⟩
  | num n =>
    obtain ⟨sign, text, same, -⟩ := number_toString n
    rw [render, same]
    simpa using (text.numeric []).opens
  | float repr =>
    rw [render]
    rcases formed with constant | ⟨sign, whole, decimals, exponent, text, -, same, -⟩
    · simp only [List.mem_cons, List.not_mem_nil, or_false] at constant
      rcases constant with rfl | rfl | rfl
      · exact ⟨'N', _, rfl, rfl, by decide, by decide⟩
      · exact ⟨'I', _, rfl, rfl, by decide, by decide⟩
      · exact ⟨'-', _, rfl, rfl, by decide, by decide⟩
    · rw [same]
      simpa using (text.numeric []).opens
  | bool b =>
    cases b with
    | false => exact ⟨'f', _, rfl, rfl, by decide, by decide⟩
    | true => exact ⟨'t', _, rfl, rfl, by decide, by decide⟩
  | arr items => exact ⟨'[', _, rfl, rfl, by decide, by decide⟩
  | obj fields => exact ⟨'\x7b', _, rfl, rfl, by decide, by decide⟩

theorem dictOf_of_nodup {fields : List (String × PyJson)} (distinct : (fields.map Prod.fst).Nodup) :
    dictOf fields = fields := by
  have general (dict : List (String × PyJson)) (apart : ((dict ++ fields).map Prod.fst).Nodup) :
      fields.foldl (fun dict pair => PyDict.setItem dict pair.1 pair.2) dict = dict ++ fields := by
    induction fields generalizing dict with
    | nil => simp
    | cons field fields ih =>
      have fresh : field.1 ∉ dict.map Prod.fst := by
        intro old
        rw [List.map_append] at apart
        exact List.disjoint_of_nodup_append apart old List.mem_cons_self
      rw [List.map_cons, List.nodup_cons] at distinct
      rw [List.foldl_cons, PyDict.setItem_fresh fresh, ih distinct.2 _ (by simpa using apart)]
      simp
  exact general [] distinct

theorem escape_ne_nil (c : Char) : (escape c).toList ≠ [] := by
  intro empty
  have read := stringBody_escape c 1 ['"']
  rw [empty] at read
  cases read

theorem string_quoteChars (s : String) (rest : List Char) :
    ∃ tail, quoteChars s ++ rest = '"' :: tail ∧ string tail = some (s, rest) := by
  refine ⟨s.toList.flatMap (fun c => (escape c).toList) ++ '"' :: rest, by simp [quoteChars], ?_⟩
  have long : ∀ chars : List Char, chars.length ≤ (chars.flatMap fun c => (escape c).toList).length := by
    intro chars
    induction chars with
    | nil => simp
    | cons c chars ih =>
      have some := List.length_pos_of_ne_nil (escape_ne_nil c)
      rw [List.flatMap_cons, List.length_cons, List.length_append]
      omega
  have enough := long s.toList
  rw [string, stringBody_quote s.toList rest (by rw [List.length_append, List.length_cons]; omega)]
  simp

theorem ends_of_mem {c : Char} (closing : c ∈ [',', ']', '\x7d']) (rest : List Char) :
    Ends (c :: rest) := by
  intro d first
  cases first
  simp only [List.mem_cons, List.not_mem_nil, or_false] at closing
  rcases closing with rfl | rfl | rfl <;> decide

theorem opens_intercalate {first : List Char} (opens : Opens first) (more : List (List Char)) :
    Opens (List.intercalate [','] (first :: more)) := by
  cases more with
  | nil => simpa using opens
  | cons second more =>
    rw [List.intercalate_cons_cons]
    exact (opens.append [',']).append _

theorem opens_field (key : String) (v : PyJson) : Opens (quoteChars key ++ ':' :: v.render) :=
  ⟨'"', _, rfl, rfl, by decide, by decide⟩

/-- There is a step for a text that is not empty. -/
theorem Opens.fuel {text : List Char} (opens : Opens text) {fuel : Nat} (enough : text.length ≤ fuel) :
    ∃ less, fuel = less + 1 := by
  obtain ⟨c, tail, rfl, -⟩ := opens
  rw [List.length_cons] at enough
  exact ⟨fuel - 1, by omega⟩

theorem value_num (n : ℤ) (fuel : Nat) {rest : List Char} (ends : Ends rest) :
    value reader (fuel + 1) ((PyJson.num n).render ++ rest) = some (.num n, rest) := by
  obtain ⟨sign, text, same, positive⟩ := number_toString n
  rw [render, same, (text.numeric rest).value, number_append text ends, if_pos ⟨rfl, rfl⟩,
    Nat.ofDigitChars_ten_toDigits]
  by_cases plus : sign = []
  · have size : (n.natAbs : ℤ) = n := Int.natAbs_of_nonneg (positive.mp plus)
    rw [if_pos plus, size]
  · have size : -(n.natAbs : ℤ) = n := by
      have negative := mt positive.mpr plus
      omega
    rw [if_neg plus, size]

theorem value_float {repr : String} (formed : IsFloat reader repr) (fuel : Nat) {rest : List Char}
    (ends : Ends rest) :
    value reader (fuel + 1) ((PyJson.float repr).render ++ rest) = some (.float repr, rest) := by
  rw [render]
  rcases formed with constant | ⟨sign, whole, decimals, exponent, text, pointed, same, read⟩
  · simp only [List.mem_cons, List.not_mem_nil, or_false] at constant
    rcases constant with rfl | rfl | rfl <;> rfl
  · rw [same] at read
    rw [same, (text.numeric rest).value, number_append text ends, if_neg pointed, read]

mutual
/-- A value is read from its text, whatever stands behind it. -/
theorem value_render : ∀ (v : PyJson), WellFormed reader v → ∀ (fuel : Nat) (rest : List Char),
    v.render.length ≤ fuel → Ends rest → value reader fuel (v.render ++ rest) = some (v, rest)
  | .null, formed, _, rest, enough, _ => by
    obtain ⟨fuel, rfl⟩ := (opens_render formed).fuel enough
    rfl
  | .bool b, formed, _, rest, enough, _ => by
    obtain ⟨fuel, rfl⟩ := (opens_render formed).fuel enough
    cases b <;> rfl
  | .str s, formed, _, rest, enough, _ => by
    obtain ⟨fuel, rfl⟩ := (opens_render formed).fuel enough
    obtain ⟨tail, text, read⟩ := string_quoteChars s rest
    rw [render, text, value, if_pos rfl, read]
    rfl
  | .num n, formed, _, rest, enough, ends => by
    obtain ⟨fuel, rfl⟩ := (opens_render formed).fuel enough
    exact value_num n fuel ends
  | .float repr, formed, _, rest, enough, ends => by
    obtain ⟨fuel, rfl⟩ := (opens_render formed).fuel enough
    exact value_float formed fuel ends
  | .arr [], formed, _, rest, enough, _ => by
    obtain ⟨fuel, rfl⟩ := (opens_render formed).fuel enough
    rfl
  | .arr (item :: items), formed, _, rest, enough, _ => by
    obtain ⟨fuel, rfl⟩ := (opens_render formed).fuel enough
    have opens := (opens_intercalate (opens_render formed.1) (renderItems items)).append (']' :: rest)
    rw [render, List.length_append, List.length_cons, List.length_singleton] at enough
    have read := values_render (item :: items) formed (by simp) fuel rest (by omega)
    rw [render, List.cons_append, List.cons_append, List.append_assoc, List.singleton_append, value,
      if_neg (by decide), if_pos rfl]
    rw [renderItems] at read ⊢
    rw [opens.skip, if_neg opens.not_closing.1, read]
    rfl
  | .obj [], formed, _, rest, enough, _ => by
    obtain ⟨fuel, rfl⟩ := (opens_render formed).fuel enough
    rfl
  | .obj ((key, v) :: fields), formed, _, rest, enough, _ => by
    obtain ⟨fuel, rfl⟩ := (opens_render formed).fuel enough
    have opens := (opens_intercalate (opens_field key v) (renderFields fields)).append ('\x7d' :: rest)
    rw [render, List.length_append, List.length_cons, List.length_singleton] at enough
    have read := pairs_render ((key, v) :: fields) formed.2 (by simp) fuel rest (by omega)
    rw [render, List.cons_append, List.cons_append, List.append_assoc, List.singleton_append, value,
      if_neg (by decide), if_neg (by decide), if_pos rfl]
    rw [renderFields] at read ⊢
    rw [opens.skip, if_neg opens.not_closing.2, read, Option.map_some, dictOf_of_nodup formed.1]

theorem values_render : ∀ (items : List PyJson), WellFormedItems reader items → items ≠ [] →
    ∀ (fuel : Nat) (rest : List Char), (List.intercalate [','] (renderItems items)).length < fuel →
    values reader fuel (List.intercalate [','] (renderItems items) ++ ']' :: rest) = some (items, rest)
  | [], _, filled, _, _, _ => absurd rfl filled
  | _ :: _, _, _, 0, _, enough => by cases enough
  | [item], formed, _, fuel + 1, rest, enough => by
    have one : List.intercalate [','] (renderItems [item]) = item.render := by simp [renderItems]
    rw [one] at enough ⊢
    rw [values, value_render item formed.1 fuel _ (by omega) (ends_of_mem (by decide) rest)]
    rfl
  | item :: next :: items, formed, _, fuel + 1, rest, enough => by
    have opens := (opens_intercalate (opens_render formed.2.1) (renderItems items)).append (']' :: rest)
    rw [renderItems, renderItems, List.intercalate_cons_cons] at enough ⊢
    rw [List.length_append, List.length_append, List.length_singleton] at enough
    have more := values_render (next :: items) formed.2 (by simp) fuel rest (by
      rw [renderItems]
      omega)
    rw [renderItems] at more
    rw [List.append_assoc, List.append_assoc, List.singleton_append, values,
      value_render item formed.1 fuel _ (by omega) (ends_of_mem (by decide) _), Option.bind_some]
    change (values reader fuel (skip _)).map _ = _
    rw [opens.skip, more]
    rfl

theorem pairs_render : ∀ (fields : List (String × PyJson)), WellFormedFields reader fields →
    fields ≠ [] → ∀ (fuel : Nat) (rest : List Char),
    (List.intercalate [','] (renderFields fields)).length < fuel →
    pairs reader fuel (List.intercalate [','] (renderFields fields) ++ '\x7d' :: rest) =
      some (fields, rest)
  | [], _, filled, _, _, _ => absurd rfl filled
  | _ :: _, _, _, 0, _, enough => by cases enough
  | [(key, v)], formed, _, fuel + 1, rest, enough => by
    have one : List.intercalate [','] (renderFields [(key, v)]) = quoteChars key ++ ':' :: v.render := by
      simp [renderFields]
    have opens := (opens_render formed.1).append ('\x7d' :: rest)
    rw [one] at enough ⊢
    rw [List.length_append, List.length_cons] at enough
    obtain ⟨tail, text, read⟩ := string_quoteChars key (':' :: (v.render ++ '\x7d' :: rest))
    rw [List.append_assoc, List.cons_append, text, pairs, read, Option.bind_some]
    change (value reader fuel (skip (v.render ++ '\x7d' :: rest))).bind _ = _
    rw [opens.skip, value_render v formed.1 fuel _ (by omega) (ends_of_mem (by decide) rest)]
    rfl
  | (key, v) :: (next, w) :: fields, formed, _, fuel + 1, rest, enough => by
    have later := (opens_intercalate (opens_field next w) (renderFields fields)).append ('\x7d' :: rest)
    rw [renderFields, renderFields, List.intercalate_cons_cons] at enough ⊢
    rw [List.length_append, List.length_append, List.length_append, List.length_cons,
      List.length_singleton] at enough
    have more := pairs_render ((next, w) :: fields) formed.2 (by simp) fuel rest (by
      rw [renderFields]
      omega)
    rw [renderFields] at more
    have behind := (opens_render formed.1).append (',' ::
      (List.intercalate [','] ((quoteChars next ++ ':' :: w.render) :: renderFields fields) ++
        '\x7d' :: rest))
    obtain ⟨tail, text, read⟩ := string_quoteChars key (':' :: (v.render ++ ',' ::
      (List.intercalate [','] ((quoteChars next ++ ':' :: w.render) :: renderFields fields) ++
        '\x7d' :: rest)))
    rw [List.append_assoc, List.append_assoc, List.append_assoc, List.cons_append,
      List.singleton_append, text, pairs, read, Option.bind_some]
    change (value reader fuel (skip (v.render ++ _))).bind _ = _
    rw [behind.skip, value_render v formed.1 fuel _ (by omega) (ends_of_mem (by decide) _),
      Option.bind_some]
    change (pairs reader fuel (skip _)).map _ = _
    rw [later.skip, more]
    rfl
end

theorem wellFormedFields_iff {fields : List (String × PyJson)} :
    WellFormedFields reader fields ↔ ∀ field ∈ fields, WellFormed reader field.2 := by
  induction fields with
  | nil => simp [WellFormedFields]
  | cons field rest ih => rw [WellFormedFields, List.forall_mem_cons, ih]

mutual
theorem WellFormed.normalize : ∀ {v : PyJson}, WellFormed reader v → WellFormed reader v.normalize
  | .null, _ => trivial
  | .str _, _ => trivial
  | .num _, _ => trivial
  | .float _, formed => formed
  | .bool _, _ => trivial
  | .arr _, formed => WellFormedItems.normalize formed
  | .obj fields, formed => by
    have keys : (sortKeys (normalizeFields fields)).map Prod.fst |>.Perm (fields.map Prod.fst) := by
      have same : (normalizeFields fields).map Prod.fst = fields.map Prod.fst := by
        rw [normalizeFields_eq_map, List.map_map]
        rfl
      rw [← same]
      exact (List.mergeSort_perm ..).map Prod.fst
    refine ⟨keys.nodup_iff.mpr formed.1, wellFormedFields_iff.mpr fun field member => ?_⟩
    have each := wellFormedFields_iff.mp (WellFormedFields.normalize formed.2)
    exact each field (mem_sortKeys.mp member)

theorem WellFormedItems.normalize : ∀ {items : List PyJson}, WellFormedItems reader items →
    WellFormedItems reader (normalizeItems items)
  | [], _ => trivial
  | _ :: _, formed => ⟨WellFormed.normalize formed.1, WellFormedItems.normalize formed.2⟩

theorem WellFormedFields.normalize : ∀ {fields : List (String × PyJson)}, WellFormedFields reader fields →
    WellFormedFields reader (normalizeFields fields)
  | [], _ => trivial
  | _ :: _, formed => ⟨WellFormed.normalize formed.1, WellFormedFields.normalize formed.2⟩
end

/-- `json.loads(json.dumps(value, sort_keys=True))`. -/
theorem loads_dumps {v : PyJson} (formed : WellFormed reader v) :
    loads reader v.dumps.toList = some v.normalize := by
  have normal : WellFormed reader v.normalize := formed.normalize
  have read := value_render v.normalize normal (v.normalize.render.length + 1) [] (by omega) (by
    intro c first
    cases first)
  rw [List.append_nil] at read
  rw [toList_dumps, dumpsChars_eq, loads, (opens_render normal).skip, read]
  rfl

/-! ## Bytes -/

/-- Printable ASCII. -/
def Plain (text : List Char) : Prop := ∀ c ∈ text, 32 ≤ c.toNat ∧ c.toNat ≤ 126

theorem plain_of_all {text : List Char}
    (printable : text.all (fun c => decide (32 ≤ c.toNat ∧ c.toNat ≤ 126)) = true) : Plain text := by
  intro c member
  exact of_decide_eq_true (List.all_eq_true.mp printable c member)

theorem Plain.append {text more : List Char} (plain : Plain text) (rest : Plain more) :
    Plain (text ++ more) := by
  intro c member
  rcases List.mem_append.mp member with first | later
  · exact plain c first
  · exact rest c later

theorem plain_unicodeEscape {n : Nat} (small : n < 65536) : Plain (unicodeEscape n).toList := by
  have digit : ∀ n < 16, 32 ≤ n.digitChar.toNat ∧ n.digitChar.toNat ≤ 126 := by decide
  rw [toList_unicodeEscape, leftpad_toDigits small]
  intro c member
  simp only [List.mem_cons, List.not_mem_nil, or_false] at member
  rcases member with rfl | rfl | rfl | rfl | rfl | rfl
  · decide
  · decide
  · exact digit _ (by omega)
  · exact digit _ (by omega)
  · exact digit _ (by omega)
  · exact digit _ (by omega)

theorem plain_singleton {c : Char} (printable : 32 ≤ c.toNat ∧ c.toNat ≤ 126) : Plain [c] := by
  intro d member
  rw [List.mem_singleton.mp member]
  exact printable

theorem plain_escape (c : Char) : Plain (escape c).toList := by
  have valid : c.toNat.isValidChar := c.valid
  have below : c.toNat < 1114112 := by
    rcases valid with low | high <;> omega
  have form := escape_escaped c
  generalize (escape c).toList = text at form ⊢
  cases form with
  | simple d _ _ printable =>
    have slash : Plain ['\\'] := plain_singleton (by decide)
    exact slash.append (plain_singleton printable)
  | plain _ _ printable => exact plain_singleton printable
  | unicode small => exact plain_unicodeEscape small
  | pair large =>
    rw [String.toList_append]
    exact (plain_unicodeEscape (by omega)).append (plain_unicodeEscape (by omega))

theorem plain_quoteChars (s : String) : Plain (quoteChars s) := by
  have quote : Plain ['"'] := plain_singleton (by decide)
  have body : Plain (s.toList.flatMap fun c => (escape c).toList) := by
    intro c member
    obtain ⟨d, -, inside⟩ := List.mem_flatMap.mp member
    exact plain_escape d c inside
  exact quote.append (body.append quote)

theorem Digits.plain {text : List Char} (digits : Digits text) : Plain text := by
  intro c member
  have digit := digits.2 c member
  simp only [Char.isDigit, Bool.and_eq_true, decide_eq_true_eq] at digit
  have low : 48 ≤ c.toNat := UInt32.le_iff_toNat_le.mp digit.1
  have high : c.toNat ≤ 57 := UInt32.le_iff_toNat_le.mp digit.2
  omega

theorem NumberText.plain {sign whole decimals exponent : List Char}
    (text : NumberText sign whole decimals exponent) :
    Plain (sign ++ whole ++ decimals ++ exponent) := by
  have none_ : Plain [] := fun c member => absurd member List.not_mem_nil
  have first : Plain sign := by
    rcases text.signed with rfl | rfl
    · exact none_
    · exact plain_singleton (by decide)
  have point : Plain decimals := by
    rcases text.fraction with rfl | ⟨digits, number, rfl⟩
    · exact none_
    · exact (plain_singleton (by decide)).append number.plain
  have last : Plain exponent := by
    rcases text.scientific with rfl | ⟨mark, sign, digits, named, signed, number, rfl⟩
    · exact none_
    · have head : Plain [mark] := by
        rcases named with rfl | rfl
        · exact plain_singleton (by decide)
        · exact plain_singleton (by decide)
      have middle : Plain sign := by
        rcases signed with rfl | rfl | rfl
        · exact none_
        · exact plain_singleton (by decide)
        · exact plain_singleton (by decide)
      exact head.append (middle.append number.plain)
  exact ((first.append text.digits.plain).append point).append last

theorem plain_intercalate {texts : List (List Char)} (each : ∀ text ∈ texts, Plain text) :
    Plain (List.intercalate [','] texts) := by
  have comma : Plain [','] := plain_singleton (by decide)
  induction texts with
  | nil =>
    intro c member
    cases member
  | cons first more ih =>
    cases more with
    | nil => simpa using each
    | cons second more =>
      rw [List.intercalate_cons_cons]
      have head := each first List.mem_cons_self
      exact (head.append comma).append (ih fun text member => each text (List.mem_cons_of_mem first member))

theorem plain_between {first last : Char} {text : List Char} (plain : Plain text)
    (low : 32 ≤ first.toNat ∧ first.toNat ≤ 126) (high : 32 ≤ last.toNat ∧ last.toNat ≤ 126) :
    Plain (first :: text ++ [last]) := by
  intro c member
  simp only [List.cons_append, List.mem_cons, List.mem_append, List.not_mem_nil, or_false] at member
  rcases member with rfl | inside | rfl
  · exact low
  · exact plain c inside
  · exact high

mutual
theorem plain_render : ∀ {v : PyJson}, WellFormed reader v → Plain v.render
  | .null, _ => plain_of_all (by decide)
  | .str s, _ => plain_quoteChars s
  | .num n, _ => by
    obtain ⟨sign, text, same, -⟩ := number_toString n
    rw [render, same]
    exact text.plain
  | .float repr, formed => by
    rw [render]
    rcases formed with constant | ⟨sign, whole, decimals, exponent, text, -, same, -⟩
    · simp only [List.mem_cons, List.not_mem_nil, or_false] at constant
      apply plain_of_all
      rcases constant with rfl | rfl | rfl <;> decide
    · rw [same]
      exact text.plain
  | .bool b, _ => by
    apply plain_of_all
    cases b <;> decide
  | .arr items, formed => by
    rw [render]
    exact plain_between (plain_intercalate (plain_renderItems formed)) (by decide) (by decide)
  | .obj fields, formed => by
    rw [render]
    exact plain_between (plain_intercalate (plain_renderFields formed.2)) (by decide) (by decide)

theorem plain_renderItems : ∀ {items : List PyJson}, WellFormedItems reader items →
    ∀ text ∈ renderItems items, Plain text
  | [], _, _, member => by cases member
  | _ :: _, formed, text, member => by
    rw [renderItems, List.mem_cons] at member
    rcases member with rfl | later
    · exact plain_render formed.1
    · exact plain_renderItems formed.2 text later

theorem plain_renderFields : ∀ {fields : List (String × PyJson)}, WellFormedFields reader fields →
    ∀ text ∈ renderFields fields, Plain text
  | [], _, _, member => by cases member
  | (key, _) :: _, formed, text, member => by
    rw [renderFields, List.mem_cons] at member
    rcases member with rfl | later
    · have colon : Plain [':'] := plain_singleton (by decide)
      exact (plain_quoteChars key).append (colon.append (plain_render formed.1))
    · exact plain_renderFields formed.2 text later
end

/-- Printable ASCII is its own decoding. -/
def Reader.DecodesAscii (reader : Reader) : Prop :=
  ∀ text, Plain text → reader.decode (encode text) = some text

/-- The bytes of a value are read back as its normal form. -/
theorem loadsBytes_dumps (decodes : reader.DecodesAscii) {v : PyJson} (formed : WellFormed reader v) :
    loadsBytes reader (encode v.dumps.toList) = some v.normalize := by
  have plain : Plain v.dumps.toList := by
    rw [toList_dumps, dumpsChars_eq]
    exact plain_render formed.normalize
  rw [loadsBytes, decodes _ plain, Option.bind_some]
  exact loads_dumps formed

end

/-! ## The order of keys -/

mutual
/-- Equal up to the order of keys. -/
inductive Reordered : PyJson → PyJson → Prop
  | refl (v : PyJson) : Reordered v v
  | arr {items others : List PyJson} : ReorderedItems items others → Reordered (.arr items) (.arr others)
  | obj {fields middle others : List (String × PyJson)} : ReorderedFields fields middle →
      middle.Perm others → Reordered (.obj fields) (.obj others)

inductive ReorderedItems : List PyJson → List PyJson → Prop
  | nil : ReorderedItems [] []
  | cons {item other : PyJson} {items others : List PyJson} : Reordered item other →
      ReorderedItems items others → ReorderedItems (item :: items) (other :: others)

inductive ReorderedFields : List (String × PyJson) → List (String × PyJson) → Prop
  | nil : ReorderedFields [] []
  | cons {key : String} {v w : PyJson} {fields others : List (String × PyJson)} : Reordered v w →
      ReorderedFields fields others → ReorderedFields ((key, v) :: fields) ((key, w) :: others)
end

theorem ReorderedFields.keys {fields others : List (String × PyJson)}
    (same : ReorderedFields fields others) : fields.map Prod.fst = others.map Prod.fst := by
  cases same with
  | nil => rfl
  | cons _ rest => rw [List.map_cons, List.map_cons, rest.keys]

section
variable {reader : Reader}

mutual
/-- The order of keys is lost in the normal form. -/
theorem Reordered.normalize_eq : ∀ {v w : PyJson}, Reordered v w → WellFormed reader v →
    v.normalize = w.normalize
  | _, _, .refl _, _ => rfl
  | _, _, .arr items, formed => by rw [normalize, normalize, items.normalize_eq formed]
  | _, _, .obj same perm, formed => by
    have distinct := formed.1
    rw [same.keys, (perm.map Prod.fst).nodup_iff] at distinct
    rw [normalize, normalize, same.normalize_eq formed.2, normalizeFields_eq_map, normalizeFields_eq_map]
    refine congrArg PyJson.obj (sortKeys_perm (perm.map _) ?_)
    rw [List.map_map]
    exact distinct

theorem ReorderedItems.normalize_eq : ∀ {items others : List PyJson}, ReorderedItems items others →
    WellFormedItems reader items → normalizeItems items = normalizeItems others
  | _, _, .nil, _ => rfl
  | _, _, .cons first rest, formed => by
    rw [normalizeItems, normalizeItems, first.normalize_eq formed.1, rest.normalize_eq formed.2]

theorem ReorderedFields.normalize_eq : ∀ {fields others : List (String × PyJson)},
    ReorderedFields fields others → WellFormedFields reader fields →
    normalizeFields fields = normalizeFields others
  | _, _, .nil, _ => rfl
  | _, _, .cons first rest, formed => by
    rw [normalizeFields, normalizeFields, first.normalize_eq formed.1, rest.normalize_eq formed.2]
end

mutual
theorem reordered_normalize : ∀ v : PyJson, Reordered v v.normalize
  | .null => .refl _
  | .str _ => .refl _
  | .num _ => .refl _
  | .float _ => .refl _
  | .bool _ => .refl _
  | .arr items => .arr (reordered_normalizeItems items)
  | .obj fields => .obj (reordered_normalizeFields fields) (List.mergeSort_perm ..).symm

theorem reordered_normalizeItems : ∀ items : List PyJson, ReorderedItems items (normalizeItems items)
  | [] => .nil
  | item :: rest => .cons (reordered_normalize item) (reordered_normalizeItems rest)

theorem reordered_normalizeFields : ∀ fields : List (String × PyJson),
    ReorderedFields fields (normalizeFields fields)
  | [] => .nil
  | (_, v) :: rest => .cons (reordered_normalize v) (reordered_normalizeFields rest)
end

end

end PyJson
