import Mathlib.Logic.Relation
import RankRent.Cache.Responses

/-!
# What the cache returns

A lookup after a `set` returns its sanitized payload until it expires, whatever is set
under other keys, and a valid lookup is one of a row that has its checksum and its key.
-/

namespace RankRent.Cache
open PyJson (Reordered WellFormed)
open Research (Runtime cacheKey)
open Replay (checksumPayload rawResponsePayload)

section
variable (python : Runtime) {σ : Type} (store : BlobStore σ)

/-- The blob store of a call, if it has one, returns what the call puts. -/
def SetCall.Returns (call : SetCall) (blobs : σ) : Prop :=
  call.cache.blobStore = true → ReturnsPut store blobs (call.objectKey python)
    (serializePayload (call.sanitized python)) "application/json"

/-- A `set` under a key, or the put of one whose rows are rolled back. -/
inductive Step : Responses σ → Option String → Responses σ → Prop
  | set (s s' : Responses σ) (call : SetCall) (key : String) : call.Returns python store s.blobs →
      call.set python store s = .ok (s', key) → Step s (some key) s'
  | rolledBack (s : Responses σ) (call : SetCall) (blobs : σ) (info : BlobInfo) :
      call.cache.blobStore = true → call.Returns python store s.blobs →
      call.put python store s.blobs = .ok (blobs, info) → Step s none { s with blobs := blobs }

/-- Any steps from empty tables. -/
def Reached (s : Responses σ) : Prop :=
  ∃ blobs, Relation.ReflTransGen (fun s s' => ∃ key, Step python store s key s') ⟨[], [], blobs⟩ s

/-- Steps that set other keys. -/
def Elsewhere (key : String) : Responses σ → Responses σ → Prop :=
  Relation.ReflTransGen fun s s' => ∃ other, Step python store s other s' ∧ other ≠ some key

/-- Entries have their rows, and rows have their blobs. -/
structure Sound (s : Responses σ) : Prop where
  pointed : ∀ key id, s.entries.lookup key = some id → id < s.rows.length
  stored : ∀ row ∈ s.rows, ∀ key, row.objectKey = some key → (store.get s.blobs key).isSome = true

/-- What a `set` wrote: the info of its blob, if any, and the blobs after it. -/
structure Wrote (call : SetCall) (before : σ) (blob : Option BlobInfo) (after : σ) : Prop where
  mode : blob.isSome = call.cache.blobStore
  stored : ∀ info, blob = some info → Stored store before (call.objectKey python)
    (serializePayload (call.sanitized python)) "application/json" after info
  kept : ∀ key old, store.get before key = some old → store.get after key = some old

end

section
variable {python : Runtime} {reader : PyJson.Reader} {σ : Type} {store : BlobStore σ}

/-! ## One step -/

theorem set_wrote {call : SetCall} {s s' : Responses σ} {key : String}
    (returns : call.Returns python store s.blobs) (ran : call.set python store s = .ok (s', key)) :
    key = call.key python ∧ ∃ blob blobs,
      s' = Responses.add { s with blobs := blobs } (call.row python blob) ∧
        Wrote python store call s.blobs blob blobs := by
  unfold SetCall.set at ran
  by_cases mode : call.cache.blobStore = true
  · rw [if_pos mode] at ran
    cases put : call.put python store s.blobs with
    | error e =>
      rw [put] at ran
      cases ran
    | ok result =>
      obtain ⟨blobs, info⟩ := result
      rw [put] at ran
      dsimp only at ran
      split at ran
      · cases ran
      · cases ran
        have stored := returns mode blobs info put
        refine ⟨rfl, some info, blobs, rfl, mode.symm, ?_, stored.kept⟩
        intro other same
        cases same
        exact stored
  · rw [if_neg mode] at ran
    cases ran
    refine ⟨rfl, none, s.blobs, rfl, ?_, ?_, fun _ _ => id⟩
    · simpa using mode
    · intro info same
      cases same

theorem set_ok {call : SetCall} {s : Responses σ} {blobs : σ} {info : BlobInfo}
    (mode : call.cache.blobStore = true) (put : call.put python store s.blobs = .ok (blobs, info))
    (same : info.checksum = call.checksum python) :
    call.set python store s = .ok (Responses.add { s with blobs := blobs } (call.row python (some info)),
      call.key python) := by
  rw [SetCall.set, if_pos mode, put]
  exact if_neg fun ne => ne same

theorem Sound.keep {s : Responses σ} (sound : Sound store s) {blobs : σ}
    (kept : ∀ key old, store.get s.blobs key = some old → store.get blobs key = some old) :
    Sound store { s with blobs := blobs } := by
  constructor
  · exact sound.pointed
  · intro row member key named
    obtain ⟨old, there⟩ := Option.isSome_iff_exists.mp (sound.stored row member key named)
    exact Option.isSome_iff_exists.mpr ⟨old, kept key old there⟩

theorem Sound.add {s : Responses σ} (sound : Sound store s) {row : RawApiResponse}
    (has : ∀ key, row.objectKey = some key → (store.get s.blobs key).isSome = true) :
    Sound store (s.add row) := by
  constructor
  · intro key id pointed
    simp only [Responses.add, List.length_append, List.length_singleton] at pointed ⊢
    by_cases same : key = row.cacheKey
    · rw [same, PyDict.lookup_setItem] at pointed
      cases pointed
      omega
    · rw [PyDict.lookup_setItem_of_ne s.entries _ same] at pointed
      have old := sound.pointed key id pointed
      omega
  · intro other member key named
    rcases List.mem_append.mp member with old | new
    · exact sound.stored other old key named
    · rw [List.mem_singleton.mp new] at named
      exact has key named

theorem Step.sound {s s' : Responses σ} {key : Option String} (step : Step python store s key s')
    (sound : Sound store s) : Sound store s' := by
  cases step with
  | set _ call key returns ran =>
    obtain ⟨-, blob, blobs, rfl, wrote⟩ := set_wrote returns ran
    refine (sound.keep wrote.kept).add fun key named => ?_
    cases blob with
    | none => cases named
    | some info =>
      cases named
      rw [(wrote.stored info rfl).got]
      rfl
  | rolledBack call blobs info mode returns put =>
    exact sound.keep (returns mode blobs info put).kept

theorem sound_of_reached {s : Responses σ} (reached : Reached python store s) : Sound store s := by
  obtain ⟨blobs, run⟩ := reached
  induction run with
  | refl => exact ⟨by simp, by simp⟩
  | tail _ last ih =>
    obtain ⟨key, step⟩ := last
    exact step.sound ih

/-! ## Other keys -/

theorem rawResponsePayload_congr {f g : String → Option Replay.Blob} {row : Replay.RawApiResponse}
    (same : ∀ key, row.objectKey = some key → f key = g key) :
    rawResponsePayload python f row = rawResponsePayload python g row := by
  have found : row.found f = row.found g := by
    unfold Replay.RawApiResponse.found
    cases named : row.objectKey with
    | none => rfl
    | some key =>
      dsimp only
      rw [same key named]
  rw [rawResponsePayload, rawResponsePayload, found]

/-- Blobs that are added change no lookup. -/
theorem lookup_keep {s : Responses σ} (sound : Sound store s) {blobs : σ}
    (kept : ∀ key old, store.get s.blobs key = some old → store.get blobs key = some old)
    (key : String) (now : DateTime) :
    lookupCachedResponse python reader store { s with blobs := blobs } key now =
      lookupCachedResponse python reader store s key now := by
  unfold lookupCachedResponse
  dsimp only
  cases s.entries.lookup key with
  | none => rfl
  | some id =>
    dsimp only
    cases found : s.rows[id]? with
    | none => rfl
    | some row =>
      have payload : rawResponsePayload python (readBlob reader store blobs) row.toRawApiResponse =
          rawResponsePayload python (readBlob reader store s.blobs) row.toRawApiResponse := by
        refine rawResponsePayload_congr fun key named => ?_
        have member := List.mem_of_getElem? found
        obtain ⟨old, there⟩ := Option.isSome_iff_exists.mp (sound.stored row member key named)
        rw [readBlob, readBlob, there, kept key old there]
      dsimp only
      rw [payload]

/-- A row that is added changes no other lookup. -/
theorem lookup_add {s : Responses σ} (sound : Sound store s) (row : RawApiResponse) {key : String}
    (other : key ≠ row.cacheKey) (now : DateTime) :
    lookupCachedResponse python reader store (s.add row) key now =
      lookupCachedResponse python reader store s key now := by
  unfold lookupCachedResponse
  simp only [Responses.add, PyDict.lookup_setItem_of_ne s.entries _ other]
  cases pointed : s.entries.lookup key with
  | none => rfl
  | some id =>
    have there := sound.pointed key id pointed
    dsimp only
    rw [List.getElem?_append_left there]

theorem Step.lookup {s s' : Responses σ} {set : Option String} (step : Step python store s set s')
    (sound : Sound store s) {key : String} (other : set ≠ some key) (now : DateTime) :
    lookupCachedResponse python reader store s' key now =
      lookupCachedResponse python reader store s key now := by
  cases step with
  | set _ call written returns ran =>
    obtain ⟨rfl, blob, blobs, rfl, wrote⟩ := set_wrote returns ran
    have apart : key ≠ (call.row python blob).cacheKey := fun same => other (congrArg some same.symm)
    rw [lookup_add (sound.keep wrote.kept) _ apart, lookup_keep sound wrote.kept]
  | rolledBack call blobs info mode returns put =>
    exact lookup_keep sound (returns mode blobs info put).kept key now

theorem Elsewhere.lookup {s s' : Responses σ} {key : String} (run : Elsewhere python store key s s')
    (sound : Sound store s) (now : DateTime) :
    Sound store s' ∧ lookupCachedResponse python reader store s' key now =
      lookupCachedResponse python reader store s key now := by
  induction run with
  | refl => exact ⟨sound, rfl⟩
  | tail _ last ih =>
    obtain ⟨other, step, apart⟩ := last
    exact ⟨step.sound ih.1, (step.lookup ih.1 apart now).trans ih.2⟩

/-! ## The same key -/

/-- A call as its callers make it: JSON parameters, a JSON object for a response, and a
name for the backend of the blob store. -/
structure SetCall.Valid (reader : PyJson.Reader) (call : SetCall) : Prop where
  params : WellFormed reader call.params
  response : WellFormed reader call.response
  object : isDict call.response = true
  named : call.cache.blobStore = true → call.cache.storageBackend.getD "" ≠ ""

/-- A time before the row of a call expires. -/
def SetCall.Before (call : SetCall) (time : DateTime) : Prop :=
  ∀ ttl, ttlForEndpoint call.endpoint = some ttl → time < call.now + ttl

theorem sanitizeFields_keys (python : Runtime) (fields : List (String × PyJson)) :
    (sanitizeFields python fields).map Prod.fst = fields.map Prod.fst := by
  induction fields with
  | nil => rfl
  | cons field rest ih => rw [sanitizeFields, List.map_cons, List.map_cons, ih]

mutual
theorem wellFormed_sanitize (python : Runtime) : ∀ {v : PyJson}, WellFormed reader v →
    WellFormed reader (sanitizePayload python v)
  | .null, _ => trivial
  | .str _, _ => trivial
  | .num _, _ => trivial
  | .float _, formed => formed
  | .bool _, _ => trivial
  | .arr _, formed => wellFormed_sanitizeItems python formed
  | .obj fields, formed =>
    ⟨(sanitizeFields_keys python fields).symm ▸ formed.1, wellFormed_sanitizeFields python formed.2⟩

theorem wellFormed_sanitizeItems (python : Runtime) : ∀ {items : List PyJson},
    PyJson.WellFormedItems reader items → PyJson.WellFormedItems reader (sanitizeItems python items)
  | [], _ => trivial
  | _ :: _, formed => ⟨wellFormed_sanitize python formed.1, wellFormed_sanitizeItems python formed.2⟩

theorem wellFormed_sanitizeFields (python : Runtime) : ∀ {fields : List (String × PyJson)},
    PyJson.WellFormedFields reader fields →
    PyJson.WellFormedFields reader (sanitizeFields python fields)
  | [], _ => trivial
  | (key, v) :: _, formed => by
    refine ⟨?_, wellFormed_sanitizeFields python formed.2⟩
    by_cases sensitive : python.lower key ∈ sensitiveKeys
    · rw [if_pos sensitive]
      trivial
    · rw [if_neg sensitive]
      exact wellFormed_sanitize python formed.1
end

/-- The row of a call passes every check on its key before it expires. -/
theorem rejection_none {call : SetCall} (valid : call.Valid reader) {blob : Option BlobInfo}
    (mode : blob.isSome = call.cache.blobStore)
    (typed : ∀ info, blob = some info → info.contentType = "application/json")
    (digests : call.checksum python ≠ "") {time : DateTime} (before : call.Before time) :
    (call.row python blob).rejection python (call.key python) time = none := by
  have fresh : ((call.row python blob).expiresAt.any (· ≤ time)) = false := by
    simp only [SetCall.row, Option.any_map]
    cases ttl : ttlForEndpoint call.endpoint with
    | none => rfl
    | some seconds => simpa using before seconds ttl
  have inline : ¬ ((call.row python blob).objectKey = none ∧
      (!isDict (call.row python blob).responseJson) = true) := by
    rintro ⟨absent, notDict⟩
    cases blob with
    | some info => cases absent
    | none =>
      have object := valid.object
      cases response : call.response with
      | obj fields => simp [SetCall.row, SetCall.sanitized, response, sanitizePayload, isDict] at notDict
      | _ =>
        rw [response] at object
        cases object
  have complete : ¬ ((call.row python blob).objectKey.isSome = true ∧
      ((call.row python blob).storageBackend.getD "" = "" ∨
        (call.row python blob).contentType ≠ some "application/json" ∨
        (call.row python blob).sizeBytes = none ∨ (call.row python blob).blobCreatedAt = none)) := by
    rintro ⟨there, missing⟩
    cases blob with
    | none => cases there
    | some info =>
      have named := valid.named mode.symm
      simp [SetCall.row, named, typed info rfl] at missing
  have own : ¬ (call.row python blob).cacheKey ≠ call.key python := fun ne => ne rfl
  have metadata : ¬ (call.row python blob).metadataKey python ≠ call.key python := fun ne => ne rfl
  have sanitized : ¬ (!(call.row python blob).sanitized) = true := by simp [SetCall.row]
  have digested : ¬ (call.row python blob).checksum = "" := digests
  rw [RawApiResponse.rejection, if_neg own, if_neg metadata, if_neg sanitized, if_neg digested,
    if_neg inline, fresh]
  exact if_neg complete

/-- The payload of a call, as a dict: in a blob its keys are sorted. -/
def SetCall.payload (python : Runtime) (call : SetCall) : PyJson :=
  if call.cache.blobStore then (call.sanitized python).normalize else call.sanitized python

theorem payload_of_wrote (decodes : reader.DecodesAscii) {call : SetCall} (valid : call.Valid reader)
    {before after : σ} {blob : Option BlobInfo} (wrote : Wrote python store call before blob after) :
    rawResponsePayload python (readBlob reader store after) (call.row python blob).toRawApiResponse =
      .ok (call.payload python) := by
  have formed : WellFormed reader (call.sanitized python) := wellFormed_sanitize python valid.response
  have found : (call.row python blob).found (readBlob reader store after) = .ok (call.payload python) := by
    cases blob with
    | none =>
      have mode : call.cache.blobStore = false := wrote.mode.symm
      simp [Replay.RawApiResponse.found, SetCall.row, SetCall.payload, mode]
    | some info =>
      have mode : call.cache.blobStore = true := wrote.mode.symm
      have stored := wrote.stored info rfl
      have read : readBlob reader store after (call.objectKey python) =
          some ⟨info.sizeBytes, some (call.sanitized python).normalize⟩ := by
        rw [readBlob, stored.got, stored.size, serializePayload, Option.map_some,
          PyJson.loadsBytes_dumps decodes formed]
      have object : ∃ fields, (call.sanitized python).normalize = .obj fields := by
        have dict := valid.object
        rw [SetCall.sanitized]
        cases response : call.response with
        | obj fields => exact ⟨_, by rw [sanitizePayload, PyJson.normalize]⟩
        | _ =>
          rw [response] at dict
          cases dict
      obtain ⟨fields, same⟩ := object
      simp [Replay.RawApiResponse.found, SetCall.row, SetCall.payload, mode, read, same]
  have checksum : checksumPayload python (call.payload python) = call.checksum python := by
    rw [SetCall.payload, SetCall.checksum]
    split
    · rw [checksumPayload, PyJson.dumps_normalize]
      rfl
    · rfl
  rw [rawResponsePayload, found]
  dsimp only
  rw [checksum, if_neg fun both => both.2 rfl]

theorem lookup_set (decodes : reader.DecodesAscii) (digests : ∀ text, python.sha256 text ≠ "")
    {call : SetCall} (valid : call.Valid reader) {s s' : Responses σ} {key : String}
    (returns : call.Returns python store s.blobs) (ran : call.set python store s = .ok (s', key))
    {time : DateTime} (before : call.Before time) :
    ∃ blob, lookupCachedResponse python reader store s' key time =
      ⟨key, some (call.row python blob), some (call.payload python), none⟩ := by
  obtain ⟨rfl, blob, blobs, rfl, wrote⟩ := set_wrote returns ran
  have passes := rejection_none valid wrote.mode (fun info same => (wrote.stored info same).typed)
    (digests _) before
  have payload := payload_of_wrote decodes valid wrote
  have own : (call.row python blob).cacheKey = call.key python := rfl
  refine ⟨blob, ?_⟩
  unfold lookupCachedResponse
  simp only [Responses.add, own, PyDict.lookup_setItem]
  rw [List.getElem?_concat_length]
  dsimp only
  rw [passes]
  dsimp only
  rw [payload]

/-! ## Valid lookups -/

/-- What a valid lookup has found. -/
def Found (python : Runtime) (lookup : CacheLookup) (key : String) : Prop :=
  ∃ row payload, lookup.row = some row ∧ lookup.payload = some payload ∧
    checksumPayload python payload = row.checksum ∧
    cacheKey python row.provider row.endpoint row.parameters row.apiVersion row.responseShapeVersion =
      key

theorem rejection_passed {row : RawApiResponse} {key : String} {now : DateTime}
    (passed : row.rejection python key now = none) :
    row.metadataKey python = key ∧ row.checksum ≠ "" := by
  unfold RawApiResponse.rejection at passed
  by_cases own : row.cacheKey ≠ key
  · simp [own] at passed
  by_cases metadata : row.metadataKey python ≠ key
  · simp [own, metadata] at passed
  by_cases sanitized : (!row.sanitized) = true
  · simp [own, metadata, sanitized] at passed
  by_cases checksum : row.checksum = ""
  · simp [own, metadata, sanitized, checksum] at passed
  · exact ⟨not_not.mp metadata, checksum⟩

theorem rawResponsePayload_checksum {blobs : String → Option Replay.Blob} {row : Replay.RawApiResponse}
    {payload : PyJson} (given : row.checksum ≠ "")
    (read : rawResponsePayload python blobs row = .ok payload) :
    checksumPayload python payload = row.checksum := by
  unfold rawResponsePayload at read
  split at read
  · cases read
  · split at read
    · cases read
    · rename_i same
      cases read
      by_contra ne
      exact same ⟨given, Ne.symm ne⟩

/-- A lookup is of a row that passes every check, or returns no payload. -/
theorem lookup_cases (python : Runtime) (reader : PyJson.Reader) (store : BlobStore σ)
    (s : Responses σ) (key : String) (now : DateTime) :
    (∃ row payload, row.rejection python key now = none ∧
      rawResponsePayload python (readBlob reader store s.blobs) row.toRawApiResponse = .ok payload ∧
      lookupCachedResponse python reader store s key now = ⟨key, some row, some payload, none⟩) ∨
    (lookupCachedResponse python reader store s key now).payload = none := by
  unfold lookupCachedResponse
  cases s.entries.lookup key with
  | none => exact .inr rfl
  | some id =>
    dsimp only
    cases s.rows[id]? with
    | none => exact .inr rfl
    | some row =>
      dsimp only
      cases passed : row.rejection python key now with
      | some reason => exact .inr rfl
      | none =>
        dsimp only
        cases read : rawResponsePayload python (readBlob reader store s.blobs) row.toRawApiResponse with
        | error e => exact .inr rfl
        | ok payload => exact .inl ⟨row, payload, passed, read, rfl⟩

theorem found_of_isValid {s : Responses σ} {key : String} {now : DateTime}
    (valid : (lookupCachedResponse python reader store s key now).isValid = true) :
    Found python (lookupCachedResponse python reader store s key now) key := by
  rcases lookup_cases python reader store s key now with ⟨row, payload, passed, read, same⟩ | absent
  · obtain ⟨metadata, checksum⟩ := rejection_passed passed
    rw [same]
    refine ⟨row, payload, rfl, rfl, rawResponsePayload_checksum checksum read, ?_⟩
    rw [← metadata, RawApiResponse.metadataKey, cacheKey, cacheKey, PyJson.normalize_normalize]
  · rw [CacheLookup.isValid, absent] at valid
    simp at valid

theorem payload_reordered (call : SetCall) :
    Reordered (sanitizePayload python call.response) (call.payload python) := by
  rw [SetCall.payload]
  split
  · exact PyJson.reordered_normalize _
  · exact .refl _

end

/-- The round trip of the response cache: for every store that runs of `set` reach, every
later run that sets other keys, and every store at all for what a valid lookup returns. -/
theorem cache_round_trip (python : Runtime) (reader : PyJson.Reader) {σ : Type} (store : BlobStore σ)
    (digests : ∀ text, python.sha256 text ≠ "") (decodes : reader.DecodesAscii) :
    (∀ s, Reached python store s → ∀ (call : SetCall) s' key, call.Valid reader →
      call.Returns python store s.blobs → call.set python store s = .ok (s', key) →
      (∀ later, Elsewhere python store key s' later → ∀ params, Reordered call.params params →
        ∀ time, call.Before time → ∃ row payload,
          lookupCachedResponse python reader store later (call.cache.key python call.endpoint params)
            time = ⟨key, some row, some payload, none⟩ ∧
          Reordered (sanitizePayload python call.response) payload ∧
          (call.cache.blobStore = false → payload = sanitizePayload python call.response)) ∧
      ∀ other, other ≠ key → ∀ time, lookupCachedResponse python reader store s' other time =
        lookupCachedResponse python reader store s other time) ∧
    ∀ s key time, (lookupCachedResponse python reader store s key time).isValid = true →
      Found python (lookupCachedResponse python reader store s key time) key := by
  refine ⟨fun s reached call s' key valid returns ran => ⟨?_, ?_⟩, fun s key time => found_of_isValid⟩
  · intro later run params same time before
    have step := Step.set s s' call key returns ran
    have sound := step.sound (sound_of_reached reached)
    have named : call.cache.key python call.endpoint params = key := by
      rw [(set_wrote returns ran).1, SetCall.key, RawResponseCache.key, RawResponseCache.key,
        same.normalize_eq valid.params, PyJson.normalize_normalize]
    obtain ⟨blob, found⟩ := lookup_set decodes digests valid returns ran before
    refine ⟨call.row python blob, call.payload python, ?_, payload_reordered call, ?_⟩
    · rw [named, (run.lookup sound time).2, found]
    · intro inline
      rw [SetCall.payload, inline]
      rfl
  · intro other ne time
    have step := Step.set s s' call key returns ran
    exact step.lookup (sound_of_reached reached) (fun same => ne (Option.some.inj same).symm) time

/-! ## Files -/

namespace FileCache
open Replay.CachedScan (python)

/-- UTF-8, and the text of a float for its `repr`. -/
def reader : PyJson.Reader where
  decode bytes := bytes.toByteArray.utf8Decode?.map Array.toList
  float := String.ofList

theorem reader_decodesAscii : reader.DecodesAscii := by
  intro text _
  change (text.utf8Encode.utf8Decode?).map Array.toList = some text
  rw [List.utf8Decode?_utf8Encode]
  rfl

def call : SetCall where
  cache := ⟨"dataforseo-live", "v3", "v1", true, some "filesystem", "not_encrypted"⟩
  endpoint := "/v3/backlinks/summary/live"
  params := .obj [("target", .str "example.com"), ("limit", .num 10)]
  response := .obj [("tasks", .arr [])]
  statusCode := 200
  cost := 0
  providerTaskId := none
  providerRequestId := none
  sourceScanRunId := none
  now := 0

def checksum : String := "b8cce95f94bb3842447a35cad31d68789df636e11353ab4a75179d86761d804c"

theorem call_sanitized : call.sanitized python = .obj [("tasks", .arr [])] := by
  have plain : ¬ python.lower "tasks" ∈ sensitiveKeys := by decide +kernel
  simp [SetCall.sanitized, call, sanitizePayload, sanitizeFields, sanitizeItems, plain]

theorem call_checksum : call.checksum python = checksum := by
  have text : (call.sanitized python).dumps = "\x7b\"tasks\":[]\x7d" := by
    rw [← String.toList_inj, PyJson.toList_dumps, call_sanitized, PyJson.dumpsChars_obj (by simp)]
    decide +kernel
  rw [SetCall.checksum, checksumPayload, text]
  decide +kernel

theorem call_set : ∃ s', call.set python filesystemBlobStore ⟨[], [], []⟩ = .ok (s', call.key python) := by
  have safe : safeRelativeKey ("raw-responses/" ++ "dataforseo-live" ++ "/" ++
      String.ofList (checksum.toList.take 2) ++ "/" ++ checksum ++ ".json") =
      some ["raw-responses", "dataforseo-live", "b8", checksum ++ ".json"] := by
    decide +kernel
  rw [← call_checksum] at safe
  change safeRelativeKey (call.objectKey python) = _ at safe
  have put := filesystemPut_nil (serializePayload (call.sanitized python)) "application/json" safe (by simp)
  have digest : Sha256.hexdigestBytes (serializePayload (call.sanitized python)) = call.checksum python := by
    rw [SetCall.checksum, checksumPayload]
    exact (Sha256.hexdigest_eq _).symm
  rw [digest] at put
  exact ⟨_, set_ok (s := ⟨[], [], []⟩) rfl put rfl⟩

/-- A lookup of the same parameters in another order, four weeks later. -/
theorem cache_round_trip_backlinks : ∃ s' row payload,
    call.set python filesystemBlobStore ⟨[], [], []⟩ = .ok (s', call.key python) ∧
    lookupCachedResponse python reader filesystemBlobStore s'
      (call.cache.key python call.endpoint (.obj [("limit", .num 10), ("target", .str "example.com")]))
      (28 * 86400) = ⟨call.key python, some row, some payload, none⟩ ∧
    Reordered (sanitizePayload python call.response) payload := by
  have digests : ∀ text, python.sha256 text ≠ "" := fun text => Sha256.hexdigestBytes_ne_empty _
  have start : Reached python filesystemBlobStore ⟨[], [], []⟩ := ⟨[], .refl⟩
  obtain ⟨s', ran⟩ := call_set
  have valid : call.Valid reader := by
    constructor
    · exact ⟨by simp, trivial, trivial, trivial⟩
    · exact ⟨by simp, trivial, trivial⟩
    · rfl
    · intro _
      decide
  have returns : call.Returns python filesystemBlobStore [] := by
    intro _
    refine filesystem_returnsPut _ fun old there => ?_
    obtain ⟨path, -, found⟩ := Option.bind_eq_some_iff.mp there
    cases found
  have same : Reordered call.params (.obj [("limit", .num 10), ("target", .str "example.com")]) :=
    .obj (.cons (.refl _) (.cons (.refl _) .nil)) (.swap ..)
  have before : call.Before (28 * 86400) := by
    intro ttl given
    have days : ttlForEndpoint call.endpoint = some (45 * 86400) := by decide +kernel
    rw [days] at given
    cases given
    decide +kernel
  obtain ⟨row, payload, found, reordered, -⟩ :=
    ((cache_round_trip python reader filesystemBlobStore digests reader_decodesAscii).1 _ start call s' _
      valid returns ran).1 s' .refl _ same _ before
  exact ⟨s', row, payload, ran, found, reordered⟩

end FileCache

end RankRent.Cache
