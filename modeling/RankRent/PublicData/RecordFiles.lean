import Mathlib.Data.List.TakeWhile
import RankRent.Library.JsonRoundTrip
import RankRent.Library.PyWords
import RankRent.PublicData.Snapshot

/-!
# Record files

`records.jsonl`: each record is written as a line by `json.dumps`, and read by
pydantic's JSON reader and the validators of `DatasetRecord`.
-/

namespace RankRent.PublicData
open Checks PyJson

/-! ## The validators -/

/-- `require_nonempty_identifier`. -/
def requireNonemptyIdentifier : PyJson → Option String
  | .str value =>
    let cleaned := PyString.strip value
    if cleaned = "" then none else some cleaned
  | _ => none

/-- A value of `float | int | None`; `lax` is what pydantic makes of other JSON. -/
def measurementOf (lax : PyJson → Option PyJson) : PyJson → Option PyJson
  | .null => some .null
  | .num n => some (.num n)
  | .float text => some (.float text)
  | other => lax other

/-- The text is of no number. -/
def Infinite : PyJson → Prop
  | .float text => text ∈ ["NaN", "Infinity", "-Infinity"]
  | _ => False

instance : DecidablePred Infinite
  | .float text => inferInstanceAs (Decidable (text ∈ ["NaN", "Infinity", "-Infinity"]))
  | .null | .str _ | .num _ | .bool _ | .arr _ | .obj _ => inferInstanceAs (Decidable False)

/-- `require_measurements`. -/
def requireMeasurements (values : List (String × PyJson)) : Option (List (String × PyJson)) :=
  if values = [] ∨ ∃ item ∈ values, PyString.strip item.1 = "" ∨ Infinite item.2 then none else some values

/-- The `values` of a record. -/
def valuesOf (lax : PyJson → Option PyJson) : PyJson → Option (List (String × PyJson))
  | .obj items => (items.mapM fun item => (measurementOf lax item.2).map (item.1, ·)).bind requireMeasurements
  | _ => none

/-- The `dimensions` of a record. -/
def dimensionsOf : PyJson → Option (List (String × String))
  | .obj items => items.mapM fun item =>
    match item.2 with
    | .str text => some (item.1, text)
    | _ => none
  | _ => none

/-- `DatasetRecord.model_validate` of what the JSON reader gives. -/
def DatasetRecord.ofJson (lax : PyJson → Option PyJson) : PyJson → Option DatasetRecord
  | .obj fields => do
    let geographyId ← (fields.lookup "geography_id").bind requireNonemptyIdentifier
    let sourceGeoid ← (fields.lookup "source_geoid").bind requireNonemptyIdentifier
    let geographyLevel ← (fields.lookup "geography_level").bind requireNonemptyIdentifier
    let values ← (fields.lookup "values").bind (valuesOf lax)
    let dimensions ← (fields.lookup "dimensions").elim (some []) dimensionsOf
    return { geographyId, sourceGeoid, geographyLevel, values, dimensions }
  | _ => none

/-! ## The file -/

/-- `model_dump` of a record. -/
def DatasetRecord.dumped (record : DatasetRecord) : PyJson :=
  .obj
    [("geography_id", .str record.geographyId),
     ("source_geoid", .str record.sourceGeoid),
     ("geography_level", .str record.geographyLevel),
     ("values", .obj record.values),
     ("dimensions", .obj (record.dimensions.map fun item => (item.1, .str item.2)))]

/-- The text of `records.jsonl`. -/
def recordsText (records : List DatasetRecord) : String := String.join (records.map DatasetRecord.encoded)

section Reading
variable (reader : Reader) (lax : PyJson → Option PyJson) (path : String)

/-- The loop of `_read_records` from a line on. -/
def readLines : Nat → List (List Char) → Except PublicDataError (List DatasetRecord)
  | _, [] => .ok []
  | lineNumber, line :: rest =>
    if PyString.strip (String.ofList line) = "" then readLines (lineNumber + 1) rest
    else do
      let record ← found ((loads reader line).bind (DatasetRecord.ofJson lax))
        (.validation ("Invalid normalized record at " ++ path ++ ":" ++ toString lineNumber ++ "."))
      let records ← readLines (lineNumber + 1) rest
      return record :: records

/-- `_read_records` of a text. -/
def readRecordsText (text : String) : Except PublicDataError (List DatasetRecord) :=
  readLines reader lax path 1 (PyString.splitlines text.toList)

end Reading

/-! ## Records -/

/-- A value as `float | int | None` has it; JSON reads the text of a float back. -/
def Measurement (reader : Reader) : PyJson → Prop
  | .null | .num _ => True
  | .float text => IsFloat reader text ∧ ¬ Infinite (.float text)
  | _ => False

/-- What the validators leave of an identifier. -/
def Identifier (text : String) : Prop := PyString.strip text = text ∧ text ≠ ""

/-- A record that the validators have accepted. -/
structure DatasetRecord.Valid (reader : Reader) (record : DatasetRecord) : Prop where
  geographyId : Identifier record.geographyId
  sourceGeoid : Identifier record.sourceGeoid
  geographyLevel : Identifier record.geographyLevel
  measured : record.values ≠ []
  measures : (record.values.map Prod.fst).Nodup
  values : ∀ item ∈ record.values, PyString.strip item.1 ≠ "" ∧ Measurement reader item.2
  labels : (record.dimensions.map Prod.fst).Nodup

/-- The record with its dicts in the order of their keys, which is no other record. -/
def DatasetRecord.sorted (record : DatasetRecord) : DatasetRecord :=
  { record with values := sortKeys record.values, dimensions := sortKeys record.dimensions }

section RoundTrip
variable {reader : Reader} {lax : PyJson → Option PyJson} {record : DatasetRecord}

variable (lax) in
theorem Measurement.wellFormed {value : PyJson} (measurement : Measurement reader value) :
    WellFormed reader value ∧ value.normalize = value ∧ ¬ Infinite value ∧ measurementOf lax value = some value := by
  cases value with
  | null => exact ⟨trivial, rfl, id, rfl⟩
  | num n => exact ⟨trivial, rfl, id, rfl⟩
  | float text => exact ⟨measurement.1, rfl, measurement.2, rfl⟩
  | str s => cases measurement
  | bool b => cases measurement
  | arr items => cases measurement
  | obj fields => cases measurement

theorem Identifier.required {text : String} (identifier : Identifier text) :
    requireNonemptyIdentifier (.str text) = some text := by
  rw [requireNonemptyIdentifier, identifier.1, if_neg identifier.2]

theorem DatasetRecord.encoded_eq (record : DatasetRecord) : record.encoded = record.dumped.dumps ++ "\n" := rfl

theorem DatasetRecord.Valid.wellFormed (valid : record.Valid reader) : WellFormed reader record.dumped := by
  have values : WellFormed reader (.obj record.values) := by
    refine ⟨valid.measures, wellFormedFields_iff.mpr fun item member => ?_⟩
    exact ((valid.values item member).2.wellFormed fun _ => none).1
  have dimensions : WellFormed reader (.obj (record.dimensions.map fun item => (item.1, .str item.2))) := by
    constructor
    · rw [List.map_map]
      exact valid.labels
    · refine wellFormedFields_iff.mpr fun item member => ?_
      obtain ⟨label, -, rfl⟩ := List.mem_map.mp member
      trivial
  refine ⟨?_, trivial, trivial, trivial, values, dimensions, trivial⟩
  simp only [List.map_cons, List.map_nil]
  decide

theorem mapM_of_each {α β : Type} {f : α → Option β} {g : α → β} {items : List α}
    (each : ∀ item ∈ items, f item = some (g item)) : items.mapM f = some (items.map g) := by
  induction items with
  | nil => rfl
  | cons item items ih =>
    have rest := ih fun later member => each later (List.mem_cons_of_mem item member)
    rw [List.mapM_cons, each item List.mem_cons_self, rest]
    rfl

theorem DatasetRecord.Valid.normalize_values (valid : record.Valid reader) :
    (PyJson.obj record.values).normalize = .obj (sortKeys record.values) := by
  have same : normalizeFields record.values = record.values := by
    rw [normalizeFields_eq_map]
    refine (List.map_congr_left (g := id) fun item member => ?_).trans (List.map_id _)
    rw [((valid.values item member).2.wellFormed fun _ => none).2.1]
    rfl
  rw [PyJson.normalize, same]

theorem normalize_dimensions (dimensions : List (String × String)) :
    (PyJson.obj (dimensions.map fun item => (item.1, .str item.2))).normalize =
      .obj ((sortKeys dimensions).map fun item => (item.1, .str item.2)) := by
  rw [PyJson.normalize, normalizeFields_eq_map, List.map_map, map_sortKeys]
  rfl

/-- The values of a record pass the validators again. -/
theorem DatasetRecord.Valid.valuesOf (valid : record.Valid reader) :
    valuesOf lax (.obj (sortKeys record.values)) = some (sortKeys record.values) := by
  have each : ∀ item ∈ sortKeys record.values,
      (measurementOf lax item.2).map (item.1, ·) = some (id item) := by
    intro item member
    rw [((valid.values item (mem_sortKeys.mp member)).2.wellFormed lax).2.2.2]
    rfl
  rw [PublicData.valuesOf, mapM_of_each each, List.map_id, Option.bind_some, requireMeasurements, if_neg]
  rintro (none | ⟨item, member, blank | infinite⟩)
  · refine valid.measured (List.eq_nil_iff_forall_not_mem.mpr fun item member => ?_)
    rw [← mem_sortKeys, none] at member
    cases member
  · exact (valid.values item (mem_sortKeys.mp member)).1 blank
  · exact ((valid.values item (mem_sortKeys.mp member)).2.wellFormed lax).2.2.1 infinite

/-- What the JSON reader gives of a record is the record. -/
theorem DatasetRecord.Valid.ofJson (valid : record.Valid reader) :
    DatasetRecord.ofJson lax record.dumped.normalize = some record.sorted := by
  have dimensions : dimensionsOf (.obj ((sortKeys record.dimensions).map fun item => (item.1, .str item.2))) =
      some (sortKeys record.dimensions) := by
    rw [dimensionsOf, List.mapM_map]
    refine (mapM_of_each (g := id) fun item _ => ?_).trans (by rw [List.map_id])
    rfl
  let fields : List (String × PyJson) :=
    [("geography_id", .str record.geographyId),
     ("source_geoid", .str record.sourceGeoid),
     ("geography_level", .str record.geographyLevel),
     ("values", .obj (sortKeys record.values)),
     ("dimensions", .obj ((sortKeys record.dimensions).map fun item => (item.1, .str item.2)))]
  have normal : record.dumped.normalize = .obj (sortKeys fields) := by
    rw [DatasetRecord.dumped, PyJson.normalize, normalizeFields_eq_map]
    simp only [List.map_cons, List.map_nil, valid.normalize_values, normalize_dimensions]
    rfl
  have distinct : (fields.map Prod.fst).Nodup := by
    simp only [fields, List.map_cons, List.map_nil]
    decide
  have lookup (key : String) : (sortKeys fields).lookup key = fields.lookup key :=
    (PyDict.lookup_perm (List.mergeSort_perm ..).symm distinct key).symm
  rw [normal, DatasetRecord.ofJson]
  simp only [lookup]
  simp [fields, List.lookup_cons, valid.geographyId.required, valid.sourceGeoid.required,
    valid.geographyLevel.required, valid.valuesOf, dimensions, DatasetRecord.sorted]

/-! ## The round trip -/

/-- The line of a record has no end inside, and is not blank. -/
theorem DatasetRecord.Valid.line (valid : record.Valid reader) :
    (∀ c ∈ record.dumped.dumps.toList, PyString.lineBreak c = false) ∧
      PyString.strip (String.ofList record.dumped.dumps.toList) ≠ "" := by
  have plain : Plain record.dumped.dumps.toList := by
    rw [toList_dumps, dumpsChars_eq]
    exact plain_render valid.wellFormed.normalize
  constructor
  · intro c member
    obtain ⟨low, high⟩ := plain c member
    rw [PyString.lineBreak, decide_eq_false_iff_not]
    simp only [List.mem_cons, List.not_mem_nil, or_false]
    omega
  · obtain ⟨tail, braces⟩ : ∃ tail, record.dumped.dumps.toList = '\x7b' :: tail := by
      rw [toList_dumps]
      exact ⟨_, rfl⟩
    rw [braces, PyString.strip, String.toList_ofList, List.dropWhile_cons_of_neg (by decide)]
    intro empty
    have none := congrArg String.toList empty
    rw [String.toList_ofList, String.toList_empty, List.reverse_eq_nil_iff, List.dropWhile_eq_nil_iff] at none
    have space := none '\x7b' (by simp)
    revert space
    decide

theorem toList_recordsText (records : List DatasetRecord) : (recordsText records).toList =
    (records.map fun record => record.dumped.dumps.toList).flatMap fun line => line ++ ['\n'] := by
  induction records with
  | nil => rfl
  | cons record records ih =>
    rw [recordsText] at ih ⊢
    rw [List.map_cons, String.join_cons, String.toList_append, ih, record.encoded_eq, String.toList_append]
    rfl

/-- Records are read back from the lines they were written in, in order. -/
theorem readLines_dumped {records : List DatasetRecord} (valid : ∀ record ∈ records, record.Valid reader)
    (path : String) (lineNumber : Nat) :
    readLines reader lax path lineNumber (records.map fun record => record.dumped.dumps.toList) =
      .ok (records.map DatasetRecord.sorted) := by
  induction records generalizing lineNumber with
  | nil => rfl
  | cons record records ih =>
    have first := valid record List.mem_cons_self
    have rest := ih (fun other member => valid other (List.mem_cons_of_mem record member)) (lineNumber + 1)
    have parsed : (loads reader record.dumped.dumps.toList).bind (DatasetRecord.ofJson lax) = some record.sorted := by
      rw [loads_dumps first.wellFormed, Option.bind_some, first.ofJson]
    rw [List.map_cons, readLines, if_neg first.line.2, parsed, rest]
    rfl

variable (lax) in
/-- A record file is read back as the records it was written with. -/
theorem readRecordsText_recordsText {records : List DatasetRecord} (valid : ∀ record ∈ records, record.Valid reader)
    (path : String) :
    readRecordsText reader lax path (recordsText records) = .ok (records.map DatasetRecord.sorted) := by
  rw [readRecordsText, toList_recordsText, PyString.splitlines_lines, readLines_dumped valid]
  intro line member
  obtain ⟨record, there, rfl⟩ := List.mem_map.mp member
  exact (valid record there).line.1

end RoundTrip

end RankRent.PublicData
