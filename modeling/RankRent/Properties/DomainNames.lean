import Mathlib.Tactic.IntervalCases
import RankRent.Catalog.Services
import RankRent.Library.Blocks
import RankRent.Library.PyRuns

/-!
# Names for domains

The names that `generate_domain_candidates` of `property_workflow/services.py`
makes of a brand, a service and a city, and when they are names of hosts.
-/

namespace RankRent.Properties
open Catalog (isLowerAlnum)
open PyString (runs)

/-- `_slug`. -/
def slug (lower : String → String) (value : String) : String :=
  String.ofList (List.intercalate ['-'] (runs (fun c => !isLowerAlnum c) (lower value).toList))

/-- The `stems`, of the slugs of the brand, the service and the city. -/
def stems (brand service city : String) : List String :=
  [brand,
    city ++ "-" ++ service,
    service ++ "-" ++ city,
    city ++ "-" ++ service ++ "-guide",
    service ++ "-help-" ++ city,
    city ++ "-service-connect"]

/-- `stem` under each of the TLDs. -/
def underTlds (tlds : List String) (stem : String) : List String := tlds.map fun tld => stem ++ "." ++ tld

/-- `domains`. -/
def candidateDomains (brand service city : String) (tlds : List String) (limit : Nat) : List String :=
  ((stems brand service city).flatMap (underTlds tlds)).take limit

/-! ## Names of hosts -/

/-- A letter, a digit or a hyphen. -/
def isLabelChar (c : Char) : Bool := c.isAlphanum || c = '-'

/-- A label of a host name. -/
def isLabel (label : List Char) : Bool :=
  label ≠ [] && label.length ≤ 63 && label.all isLabelChar && label.head? ≠ some '-' &&
    label.getLast? ≠ some '-'

def isHostName (domain : String) : Bool :=
  domain.length ≤ 253 && (domain.toList.splitOnP (· = '.')).all isLabel

/-- A text of letters, digits and hyphens without a hyphen at either end. -/
structure Edged (text : List Char) : Prop where
  chars : ∀ c ∈ text, isLabelChar c
  head : text.head? ≠ some '-'
  last : text.getLast? ≠ some '-'

theorem isLabelChar_of_lower {c : Char} (lower : isLowerAlnum c) : isLabelChar c := by
  simp only [isLowerAlnum, Bool.or_eq_true, Bool.and_eq_true, decide_eq_true_eq] at lower
  have alphanum : c.isAlphanum = (c.isUpper || decide (c.val ≥ 'a'.val) && decide (c.val ≤ 'z'.val) ||
      decide (c.val ≥ '0'.val) && decide (c.val ≤ '9'.val)) := rfl
  simp only [isLabelChar, alphanum, Bool.or_eq_true, Bool.and_eq_true, decide_eq_true_eq]
  obtain letter | digit := lower
  · exact Or.inl (Or.inl (Or.inr letter))
  · exact Or.inl (Or.inr digit)

theorem isLabel_iff {label : List Char} :
    isLabel label = true ↔ Edged label ∧ label ≠ [] ∧ label.length ≤ 63 := by
  simp only [isLabel, Bool.and_eq_true, decide_eq_true_eq, List.all_eq_true]
  constructor
  · rintro ⟨⟨⟨⟨some, short⟩, chars⟩, head⟩, last⟩
    exact ⟨⟨chars, head, last⟩, some, short⟩
  · rintro ⟨edged, some, short⟩
    exact ⟨⟨⟨⟨some, short⟩, edged.chars⟩, edged.head⟩, edged.last⟩

/-- Two texts that are not empty, with letters, digits and hyphens between them. -/
theorem Edged.join {left middle right : List Char} (first : Edged left) (second : Edged right)
    (chars : ∀ c ∈ middle, isLabelChar c) (left_some : left ≠ []) (right_some : right ≠ []) :
    Edged (left ++ middle ++ right) := by
  constructor
  · intro c member
    rw [List.mem_append, List.mem_append] at member
    obtain (inside | inside) | inside := member
    · exact first.chars c inside
    · exact chars c inside
    · exact second.chars c inside
  · rw [List.append_assoc, List.head?_append_of_ne_nil _ left_some]
    exact first.head
  · rw [List.getLast?_append_of_ne_nil _ right_some]
    exact second.last

/-- Between hyphens at their ends the texts cannot be empty. -/
theorem isLabel_join {left middle right : List Char} (first : Edged left) (second : Edged right)
    (chars : ∀ c ∈ middle, isLabelChar c) (head : middle.head? = some '-')
    (last : middle.getLast? = some '-') :
    isLabel (left ++ middle ++ right) = true ↔
      left ≠ [] ∧ right ≠ [] ∧ left.length + middle.length + right.length ≤ 63 := by
  rw [isLabel_iff, List.length_append, List.length_append]
  constructor
  · rintro ⟨edged, -, short⟩
    refine ⟨?_, ?_, short⟩
    · rintro rfl
      apply edged.head
      rw [List.nil_append, List.head?_append, head]
      rfl
    · rintro rfl
      apply edged.last
      rw [List.append_nil, List.getLast?_append, last]
      rfl
  · rintro ⟨left_some, right_some, short⟩
    exact ⟨first.join second chars left_some right_some, by simp [left_some], short⟩

theorem edged_intercalate {words : List (List Char)}
    (each : ∀ word ∈ words, word ≠ [] ∧ ∀ c ∈ word, isLowerAlnum c) :
    Edged (List.intercalate ['-'] words) := by
  have word_edged {word : List Char} (plain : ∀ c ∈ word, isLowerAlnum c) : Edged word := by
    have no_hyphen : '-' ∉ word := fun member => absurd (plain _ member) (by decide)
    constructor
    · exact fun c member => isLabelChar_of_lower (plain c member)
    · exact fun head => no_hyphen (List.mem_of_head? head)
    · exact fun last => no_hyphen (List.mem_of_getLast? last)
  induction words with
  | nil => exact word_edged (by simp)
  | cons word words ih =>
    obtain ⟨⟨some, plain⟩, rest⟩ := List.forall_mem_cons.mp each
    cases words with
    | nil => simpa using word_edged plain
    | cons next words =>
      have joined : List.intercalate ['-'] (word :: next :: words) =
          word ++ ['-'] ++ List.intercalate ['-'] (next :: words) := by simp
      rw [joined]
      apply (word_edged plain).join (ih rest) (List.all_eq_true.mp (by decide)) some
      have := (rest next List.mem_cons_self).1
      cases words <;> simp_all

theorem slug_edged (lower : String → String) (value : String) : Edged (slug lower value).toList := by
  rw [slug, String.toList_ofList]
  apply edged_intercalate
  intro word member
  obtain ⟨some, plain⟩ := PyString.mem_runs member
  exact ⟨some, fun c inside => by simpa using plain c inside⟩

/-! ## Stems that make names -/

/-- What the `i`-th stem asks of the three slugs when the stems before it are
labels and differ: no slug of it empty, no more than 63 characters, and none of
the coincidences with an earlier stem. -/
def stemRule (brand service city : String) : Nat → Prop
  | 0 => brand ≠ "" ∧ brand.length ≤ 63
  | 1 => city ≠ "" ∧ service ≠ "" ∧ city.length + service.length ≤ 62 ∧
      brand ≠ city ++ "-" ++ service
  | 2 => city ++ "-" ++ service ≠ service ++ "-" ++ city ∧ brand ≠ service ++ "-" ++ city
  | 3 => city.length + service.length ≤ 56 ∧ brand ≠ city ++ "-" ++ service ++ "-guide"
  | 4 => brand ≠ service ++ "-help-" ++ city
  | 5 => city.length ≤ 47 ∧ brand ≠ city ++ "-service-connect" ∧ service ≠ "service-connect" ∧
      service ++ "-" ++ city ≠ city ++ "-service-connect"
  | _ => True

instance decidableStemRule (brand service city : String) :
    ∀ i, Decidable (stemRule brand service city i)
  | 0 => inferInstanceAs (Decidable (_ ∧ _))
  | 1 => inferInstanceAs (Decidable (_ ∧ _))
  | 2 => inferInstanceAs (Decidable (_ ∧ _))
  | 3 => inferInstanceAs (Decidable (_ ∧ _))
  | 4 => inferInstanceAs (Decidable (_ ≠ _))
  | 5 => inferInstanceAs (Decidable (_ ∧ _))
  | _ + 6 => inferInstanceAs (Decidable True)

section Stems
variable {brand service city : String}

theorem ne_empty {s : String} : s.toList ≠ [] ↔ s ≠ "" := by
  rw [ne_eq, ne_eq, String.toList_eq_nil_iff]

theorem length_ne {s t : String} (differs : s.length ≠ t.length) : s ≠ t := fun same => differs (by rw [same])

/-- One stem holds a letter more than the other. -/
theorem help_ne_connect (service city : String) :
    service ++ "-help-" ++ city ≠ city ++ "-service-connect" := by
  intro same
  have counts := congrArg (fun s : String => s.toList.count 'h') same
  simp only [String.toList_append, List.count_append] at counts
  rw [show "-help-".toList.count 'h' = 1 by decide,
    show "-service-connect".toList.count 'h' = 0 by decide] at counts
  omega

theorem guide_ne_connect (service city : String) :
    city ++ "-" ++ service ++ "-guide" ≠ city ++ "-service-connect" := by
  intro same
  have ends := congrArg (fun s : String => s.toList.getLast?) same
  simp only [String.toList_append] at ends
  rw [List.getLast?_append_of_ne_nil _ (by decide), List.getLast?_append_of_ne_nil _ (by decide)] at ends
  exact absurd ends (by decide)

theorem place_eq_connect (service city : String) :
    city ++ "-" ++ service = city ++ "-service-connect" ↔ service = "service-connect" := by
  constructor
  · intro same
    have chars := congrArg String.toList same
    rw [String.toList_append, String.toList_append, String.toList_append, List.append_assoc] at chars
    have rest := List.append_cancel_left chars
    apply String.toList_inj.mp
    exact (List.append_right_inj ['-']).mp rest
  · rintro rfl
    rw [String.append_assoc]
    rfl

theorem edged_of_label {text : List Char} (label : isLabel text = true) : Edged text :=
  (isLabel_iff.mp label).1

/-- Two slugs with a text between them that begins and ends in hyphens. -/
theorem isLabel_place (edged_city : Edged city.toList) (edged_service : Edged service.toList)
    (middle : String) (size : Nat) (chars : ∀ c ∈ middle.toList, isLabelChar c)
    (head : middle.toList.head? = some '-') (last : middle.toList.getLast? = some '-')
    (length : middle.length = size) :
    isLabel (city ++ middle ++ service).toList = true ↔
      city ≠ "" ∧ service ≠ "" ∧ city.length + service.length + size ≤ 63 := by
  rw [String.toList_append, String.toList_append, isLabel_join edged_city edged_service chars head last,
    ne_empty, ne_empty, ← length, String.length_toList, String.length_toList, String.length_toList,
    Nat.add_right_comm]

/-- A text with an ending that begins with a hyphen. -/
theorem isLabel_ending {stem : String} (edged : Edged stem.toList) (ending : String) (size : Nat)
    {rest : List Char} (ending_eq : ending.toList = '-' :: rest) (label : isLabel rest = true)
    (length : ending.length = size) :
    isLabel (stem ++ ending).toList = true ↔ stem ≠ "" ∧ stem.length + size ≤ 63 := by
  obtain ⟨edged_rest, some, -⟩ := isLabel_iff.mp label
  have split : (stem ++ ending).toList = stem.toList ++ ['-'] ++ rest := by
    rw [String.toList_append, ending_eq, List.append_assoc]
    rfl
  have total : size = rest.length + 1 := by
    rw [← length, ← String.length_toList, ending_eq, List.length_cons]
  rw [split, isLabel_join edged edged_rest (List.all_eq_true.mp (by decide)) rfl rfl, ne_empty, total]
  simp only [some, ne_eq, not_false_eq_true, true_and, String.length_toList, List.length_singleton,
    and_congr_right_iff]
  intro _
  omega

/-- What the stem of a position has to satisfy. -/
def StemFits (brand service city : String) (i : Nat) (stem : String) : Prop :=
  isLabel stem.toList = true ∧ stem ∉ (stems brand service city).take i

section Place
variable (edged_service : Edged service.toList) (edged_city : Edged city.toList)
  (city_some : city ≠ "") (service_some : service ≠ "")
include edged_service edged_city city_some service_some

theorem turned_fits (short : city.length + service.length ≤ 62) :
    StemFits brand service city 2 (service ++ "-" ++ city) ↔
      city ++ "-" ++ service ≠ service ++ "-" ++ city ∧ brand ≠ service ++ "-" ++ city := by
  have label := (isLabel_place edged_service edged_city "-" 1 (List.all_eq_true.mp (by decide)) rfl rfl rfl).mpr
    ⟨service_some, city_some, by omega⟩
  simp only [StemFits, stems, List.take_succ_cons, List.take_zero, List.mem_cons, List.not_mem_nil, or_false,
    not_or, label, true_and]
  constructor
  · rintro ⟨first, second⟩
    exact ⟨Ne.symm second, Ne.symm first⟩
  · rintro ⟨second, first⟩
    exact ⟨Ne.symm first, Ne.symm second⟩

theorem guide_fits (short : city.length + service.length ≤ 62) :
    StemFits brand service city 3 (city ++ "-" ++ service ++ "-guide") ↔
      city.length + service.length ≤ 56 ∧ brand ≠ city ++ "-" ++ service ++ "-guide" := by
  have hyphen : "-".length = 1 := rfl
  have guide : "-guide".length = 6 := rfl
  have place := (isLabel_place edged_city edged_service "-" 1 (List.all_eq_true.mp (by decide)) rfl rfl hyphen).mpr
    ⟨city_some, service_some, by omega⟩
  have label := isLabel_ending (edged_of_label place) "-guide" 6 rfl (by decide) guide
  have some : city ++ "-" ++ service ≠ "" := length_ne (by simp [hyphen])
  have straight : city ++ "-" ++ service ++ "-guide" ≠ city ++ "-" ++ service := length_ne (by simp [guide])
  have turned : city ++ "-" ++ service ++ "-guide" ≠ service ++ "-" ++ city := by
    apply length_ne
    simp only [String.length_append, guide, hyphen]
    omega
  simp only [StemFits, stems, List.take_succ_cons, List.take_zero, List.mem_cons, List.not_mem_nil, or_false,
    label, some, straight, turned, ne_eq, not_false_eq_true, true_and, String.length_append, hyphen]
  constructor
  · rintro ⟨long, fresh⟩
    exact ⟨by omega, Ne.symm fresh⟩
  · rintro ⟨long, fresh⟩
    exact ⟨by omega, Ne.symm fresh⟩

theorem help_fits (short : city.length + service.length ≤ 56) :
    StemFits brand service city 4 (service ++ "-help-" ++ city) ↔ brand ≠ service ++ "-help-" ++ city := by
  have hyphen : "-".length = 1 := rfl
  have guide : "-guide".length = 6 := rfl
  have help : "-help-".length = 6 := rfl
  have label := (isLabel_place edged_service edged_city "-help-" 6 (List.all_eq_true.mp (by decide)) rfl rfl help).mpr
    ⟨service_some, city_some, by omega⟩
  have straight : service ++ "-help-" ++ city ≠ city ++ "-" ++ service := by
    apply length_ne
    simp only [String.length_append, help, hyphen]
    omega
  have turned : service ++ "-help-" ++ city ≠ service ++ "-" ++ city := by
    apply length_ne
    simp only [String.length_append, help, hyphen]
    omega
  have guided : service ++ "-help-" ++ city ≠ city ++ "-" ++ service ++ "-guide" := by
    apply length_ne
    simp only [String.length_append, help, hyphen, guide]
    omega
  simp only [StemFits, stems, List.take_succ_cons, List.take_zero, List.mem_cons, List.not_mem_nil, or_false,
    label, straight, turned, guided, true_and]
  exact ne_comm

omit edged_service service_some in
theorem connect_fits :
    StemFits brand service city 5 (city ++ "-service-connect") ↔
      city.length ≤ 47 ∧ brand ≠ city ++ "-service-connect" ∧ service ≠ "service-connect" ∧
        service ++ "-" ++ city ≠ city ++ "-service-connect" := by
  have label := isLabel_ending edged_city "-service-connect" 16 rfl (by decide) rfl
  have straight : city ++ "-service-connect" ≠ city ++ "-" ++ service ↔ service ≠ "service-connect" := by
    rw [ne_comm, ne_eq, place_eq_connect]
  have guided := (guide_ne_connect service city).symm
  have helped := (help_ne_connect service city).symm
  simp only [StemFits, stems, List.take_succ_cons, List.take_zero, List.mem_cons, List.not_mem_nil, or_false,
    not_or, label, guided, helped, city_some, ne_eq, not_false_eq_true, true_and]
  rw [← ne_eq, ← ne_eq, ← ne_eq, straight]
  constructor
  · rintro ⟨short, own, apart, turned⟩
    exact ⟨by omega, Ne.symm own, apart, Ne.symm turned⟩
  · rintro ⟨short, own, apart, turned⟩
    exact ⟨by omega, Ne.symm own, apart, Ne.symm turned⟩

end Place

/-- A stem is a label and none of the stems before it exactly by its rule. -/
theorem stem_fits (edged : Edged brand.toList) (edged_service : Edged service.toList)
    (edged_city : Edged city.toList) {i : Nat} (inside : i < (stems brand service city).length)
    (before : ∀ j < i, stemRule brand service city j) :
    StemFits brand service city i (stems brand service city)[i] ↔ stemRule brand service city i := by
  have six : i < 6 := inside
  interval_cases i
  · simp only [StemFits, stems, List.getElem_cons_zero, List.take_zero, List.not_mem_nil,
      not_false_eq_true, and_true, isLabel_iff, edged, true_and, ne_empty, String.length_toList, stemRule]
  · have place := isLabel_place edged_city edged_service "-" 1 (List.all_eq_true.mp (by decide)) rfl rfl rfl
    simp only [StemFits, stems, List.getElem_cons_succ, List.getElem_cons_zero, List.take_succ_cons,
      List.take_zero, List.mem_singleton, place, stemRule, and_assoc]
    constructor
    · rintro ⟨city_some, service_some, short, fresh⟩
      exact ⟨city_some, service_some, by omega, Ne.symm fresh⟩
    · rintro ⟨city_some, service_some, short, fresh⟩
      exact ⟨city_some, service_some, by omega, Ne.symm fresh⟩
  all_goals obtain ⟨city_some, service_some, short, -⟩ := before 1 (by omega)
  · exact turned_fits edged_service edged_city city_some service_some short
  · exact guide_fits edged_service edged_city city_some service_some short
  · exact help_fits edged_service edged_city city_some service_some (before 3 (by omega)).1
  · exact connect_fits edged_city city_some

/-- The first stems are labels that differ exactly by their rules. -/
theorem stems_fit (edged : Edged brand.toList) (edged_service : Edged service.toList)
    (edged_city : Edged city.toList) {reached : Nat} (some : reached ≤ 6) :
    (((stems brand service city).take reached).Nodup ∧
        ∀ stem ∈ (stems brand service city).take reached, isLabel stem.toList = true) ↔
      ∀ i < reached, stemRule brand service city i := by
  induction reached with
  | zero => simp
  | succ i ih =>
    have inside : i < (stems brand service city).length := some
    have last : (stems brand service city).take (i + 1) =
        (stems brand service city).take i ++ [(stems brand service city)[i]] := by
      rw [List.take_add_one, List.getElem?_eq_getElem inside]
      rfl
    have fits := @stem_fits brand service city edged edged_service edged_city i inside
    rw [last, List.nodup_append]
    constructor
    · rintro ⟨⟨distinct, -, fresh⟩, labels⟩ j below
      have earlier := (ih (by omega)).mp ⟨distinct, fun stem member => labels stem (List.mem_append_left _ member)⟩
      obtain below | rfl := Nat.lt_succ_iff_lt_or_eq.mp below
      · exact earlier j below
      · apply (fits earlier).mp
        exact ⟨labels _ (List.mem_append_right _ (List.mem_singleton_self _)),
          fun again => fresh _ again _ (List.mem_singleton_self _) rfl⟩
    · intro rules
      have earlier : ∀ j < i, stemRule brand service city j := fun j below => rules j (by omega)
      obtain ⟨distinct, labels⟩ := (ih (by omega)).mpr earlier
      obtain ⟨label, fresh⟩ := (fits earlier).mpr (rules i (by omega))
      refine ⟨⟨distinct, List.nodup_singleton _, ?_⟩, ?_⟩
      · rintro stem member other single rfl
        rw [List.mem_singleton] at single
        exact fresh (single ▸ member)
      · intro stem member
        rw [List.mem_append, List.mem_singleton] at member
        obtain member | rfl := member
        · exact labels stem member
        · exact label

end Stems

end RankRent.Properties
