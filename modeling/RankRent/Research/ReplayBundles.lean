import RankRent.Library.Sha256
import RankRent.Research.Tasks
import RankRent.Worker.Queue

/-!
# Response bundles of a scan

`export_responses_for_scan` and `BundleReplayTransport` of `replay.py`. An export
takes the responses stored between the start and the end of the scan, not the
ones its call rows name.
-/

namespace RankRent.Replay
open Research (Runtime cacheKey)

/-- A row of `raw_api_responses`. Its primary key is its position in the table. -/
structure RawApiResponse where
  cacheKey : String
  provider : String
  endpoint : String
  parameters : PyJson
  apiVersion : String
  responseShapeVersion : String
  responseJson : PyJson
  sanitized : Bool
  requestTime : DateTime
  responseTime : DateTime
  cost : Option Usd
  providerTaskId : Option String
  providerRequestId : Option String
  sourceScanRunId : Option Nat
  checksum : String
  objectKey : Option String
  sizeBytes : Option Nat

/-- A blob: its length, and its value where it is JSON. -/
structure Blob where
  size : Nat
  json : Option PyJson

/-- `RawResponseIntegrityError` and `ReplayIntegrityError`, by their causes. -/
inductive IntegrityError
  | blobUnavailable | blobSizeMismatch | blobNotJson | blobNotObject | checksumMismatch
  deriving DecidableEq, Repr

inductive ExportError
  | scanNotFound
  | integrity (e : IntegrityError)
  deriving DecidableEq, Repr

structure StoredApiResponse where
  provider : String
  endpoint : String
  apiVersion : String
  responseShapeVersion : String
  normalizedRequest : PyJson
  rawResponse : PyJson
  sanitized : Bool
  providerTaskId : Option String
  providerRequestId : Option String
  providerCost : Option Usd
  requestedAt : DateTime
  receivedAt : DateTime
  sourceScanRunId : Option Nat
  checksum : String

/-- An exported file. -/
structure Bundle where
  sourceScanRunId : Option Nat
  responses : List StoredApiResponse

section
variable (python : Runtime) (store : String → Option Blob)

/-- `checksum_payload`. -/
def checksumPayload (payload : PyJson) : String := python.sha256 payload.dumps

/-- The payload `raw_response_payload` finds, inline or in the blob store. -/
def RawApiResponse.found (row : RawApiResponse) : Except IntegrityError PyJson :=
  match row.objectKey with
  | none => .ok row.responseJson
  | some key =>
    match store key with
    | none => .error .blobUnavailable
    | some blob =>
      if row.sizeBytes.any fun size => blob.size ≠ size then .error .blobSizeMismatch
      else
        match blob.json with
        | none => .error .blobNotJson
        | some (.obj fields) => .ok (.obj fields)
        | some _ => .error .blobNotObject

/-- `raw_response_payload`. -/
def rawResponsePayload (row : RawApiResponse) : Except IntegrityError PyJson :=
  match row.found store with
  | .error e => .error e
  | .ok payload =>
    if row.checksum ≠ "" ∧ row.checksum ≠ checksumPayload python payload then
      .error .checksumMismatch
    else .ok payload

/-- The response `stored_response_from_orm` makes of a row and its payload. -/
def RawApiResponse.stored (row : RawApiResponse) (sourceScanRunId : Option Nat) (payload : PyJson) :
    StoredApiResponse where
  provider := row.provider
  endpoint := row.endpoint
  apiVersion := row.apiVersion
  responseShapeVersion := row.responseShapeVersion
  normalizedRequest := row.parameters.normalize
  rawResponse := payload
  sanitized := row.sanitized
  providerTaskId := row.providerTaskId
  providerRequestId := row.providerRequestId
  providerCost := row.cost
  requestedAt := row.requestTime
  receivedAt := row.responseTime
  sourceScanRunId := sourceScanRunId <|> row.sourceScanRunId
  checksum := if row.checksum = "" then checksumPayload python payload else row.checksum

/-- `stored_response_from_orm`. -/
def storedResponseFromOrm (sourceScanRunId : Option Nat) (row : RawApiResponse) :
    Except ExportError StoredApiResponse :=
  match rawResponsePayload python store row with
  | .error e => .error (.integrity e)
  | .ok payload => .ok (row.stored python sourceScanRunId payload)

/-- The query of `export_responses_for_scan` for a scan. -/
def selected (scan : ScanRun) (row : RawApiResponse) : Bool :=
  match scan.startedAt with
  | none => false
  | some startedAt => startedAt ≤ row.requestTime &&
      scan.completedAt.all fun completedAt => row.responseTime ≤ completedAt

/-- `export_responses_for_scan`. -/
def exportResponsesForScan (scans : List ScanRun) (responses : List RawApiResponse)
    (scanRunId : Option Nat) : Except ExportError Bundle :=
  match scanRunId with
  | none => (responses.mapM (storedResponseFromOrm python store none)).map (Bundle.mk none)
  | some i =>
    match scans[i]? with
    | none => .error .scanNotFound
    | some scan =>
      ((responses.filter (selected scan)).mapM (storedResponseFromOrm python store (some i))).map
        (Bundle.mk (some i))

/-- `BundleReplayTransport`. -/
structure BundleReplayTransport where
  responses : List (String × StoredApiResponse)

/-- A `dict` comprehension: the last item of a key replaces the earlier ones. -/
def comprehension {α : Type} (items : List (String × α)) : List (String × α) :=
  items.foldl (fun dict item => dict.filter (fun entry => entry.1 ≠ item.1) ++ [item]) []

/-- The key of a response in the transport. -/
def StoredApiResponse.key (item : StoredApiResponse) : String :=
  cacheKey python item.provider item.endpoint item.normalizedRequest item.apiVersion
    item.responseShapeVersion

/-- `load_response_bundle`, which checks every checksum. -/
def loadResponseBundle (bundle : Bundle) : Except IntegrityError BundleReplayTransport :=
  if bundle.responses.all fun item => item.checksum = checksumPayload python item.rawResponse then
    .ok ⟨comprehension (bundle.responses.map fun item => (item.key python, item))⟩
  else .error .checksumMismatch

/-- `get_response`; `none` is a `ReplayMissError`. -/
def BundleReplayTransport.getResponse (transport : BundleReplayTransport) (provider endpoint : String)
    (normalizedRequest : PyJson) (apiVersion : Option String) : Option StoredApiResponse :=
  (transport.responses.find? fun entry =>
    entry.1 = cacheKey python provider endpoint normalizedRequest (apiVersion.getD "v3") "v1").map
      Prod.snd

end

/-! ## What a bundle holds -/

/-- The stored payload can be read and has its checksum. -/
def RawApiResponse.Intact (python : Runtime) (store : String → Option Blob) (row : RawApiResponse) :
    Prop :=
  ∃ payload, rawResponsePayload python store row = .ok payload

/-- The payload of an intact response. -/
def RawApiResponse.payload (python : Runtime) (store : String → Option Blob) (row : RawApiResponse) :
    PyJson :=
  (rawResponsePayload python store row).toOption.getD .null

/-- The item a bundle has for a response. -/
def RawApiResponse.item (python : Runtime) (store : String → Option Blob) (scan : Nat)
    (row : RawApiResponse) : StoredApiResponse :=
  row.stored python (some scan) (row.payload python store)

section
variable {python : Runtime} {store : String → Option Blob}

theorem find?_comprehension {α : Type} (items : List (String × α)) (key : String) :
    (comprehension items).find? (fun entry => entry.1 = key) =
      items.reverse.find? fun entry => entry.1 = key := by
  have general (dict : List (String × α)) :
      (items.foldl (fun dict item => dict.filter (fun entry => entry.1 ≠ item.1) ++ [item])
        dict).find? (fun entry => entry.1 = key) =
      (items.reverse.find? fun entry => entry.1 = key).or (dict.find? fun entry => entry.1 = key) := by
    induction items generalizing dict with
    | nil => simp
    | cons item items ih =>
      rw [List.foldl_cons, ih, List.reverse_cons, List.find?_append, List.find?_append]
      by_cases same : item.1 = key
      · have gone : ((dict.filter fun entry => entry.1 ≠ item.1).find? fun entry => entry.1 = key) =
            none := by
          refine List.find?_eq_none.mpr fun entry member here => ?_
          have other := (List.mem_filter.mp member).2
          simp only [decide_eq_true_eq] at here other
          exact other (here.trans same.symm)
        rw [gone]
        cases items.reverse.find? fun entry => entry.1 = key <;> simp [same]
      · have kept : ((dict.filter fun entry => entry.1 ≠ item.1).find? fun entry => entry.1 = key) =
            dict.find? fun entry => entry.1 = key := by
          rw [List.find?_filter]
          congr 1
          funext entry
          by_cases here : entry.1 = key
          · simp [here, Ne.symm same]
          · simp [here]
        rw [kept]
        cases items.reverse.find? fun entry => entry.1 = key <;> simp [same]
  rw [comprehension, general]
  simp

theorem item_times {row other : RawApiResponse} {i : Nat}
    (same : row.item python store i = other.item python store i) :
    row.requestTime = other.requestTime ∧ row.responseTime = other.responseTime :=
  ⟨congrArg StoredApiResponse.requestedAt same, congrArg StoredApiResponse.receivedAt same⟩

/-- What is exported passes the check of a load. -/
theorem item_checksum {row : RawApiResponse} (i : Nat) (intact : row.Intact python store) :
    (row.item python store i).checksum =
      checksumPayload python (row.item python store i).rawResponse := by
  obtain ⟨payload, fine⟩ := intact
  have read : row.payload python store = payload := by
    rw [RawApiResponse.payload, fine]
    rfl
  rw [rawResponsePayload] at fine
  split at fine
  · cases fine
  · split at fine
    · cases fine
    · rename_i checked
      cases fine
      simp only [RawApiResponse.item, RawApiResponse.stored, read]
      split
      · rfl
      · rename_i named
        by_contra differs
        exact checked ⟨named, differs⟩

theorem mapM_stored {rows : List RawApiResponse} {items : List StoredApiResponse} {i : Nat} :
    rows.mapM (storedResponseFromOrm python store (some i)) = .ok items ↔
      (∀ row ∈ rows, row.Intact python store) ∧
        items = rows.map (RawApiResponse.item python store i) := by
  induction rows generalizing items with
  | nil =>
    rw [List.mapM_nil]
    constructor
    · intro same
      cases same
      exact ⟨by simp, rfl⟩
    · rintro ⟨-, rfl⟩
      rfl
  | cons row rows ih =>
    rw [List.mapM_cons, storedResponseFromOrm]
    cases read : rawResponsePayload python store row with
    | error e =>
      constructor
      · intro raised
        cases raised
      · intro ⟨intact, _⟩
        obtain ⟨payload, fine⟩ := intact row (List.mem_cons_self ..)
        rw [read] at fine
        cases fine
    | ok payload =>
      have item : row.item python store i = row.stored python (some i) payload := by
        rw [RawApiResponse.item, RawApiResponse.payload, read]
        rfl
      cases rest : rows.mapM (storedResponseFromOrm python store (some i)) with
      | error e =>
        constructor
        · intro raised
          cases raised
        · intro ⟨intact, _⟩
          rw [ih.mpr ⟨fun other member => intact other (List.mem_cons_of_mem _ member), rfl⟩] at rest
          cases rest
      | ok others =>
        obtain ⟨intact, rfl⟩ := ih.mp rest
        have all : ∀ other ∈ row :: rows, other.Intact python store := by
          intro other member
          obtain rfl | later := List.mem_cons.mp member
          · exact ⟨payload, read⟩
          · exact intact other later
        rw [List.map_cons, item]
        constructor
        · intro same
          cases same
          exact ⟨all, rfl⟩
        · rintro ⟨-, rfl⟩
          rfl

variable {scans : List ScanRun} {responses : List RawApiResponse} {i : Nat} {scan : ScanRun}

/-- An export writes the selected responses in id order, or raises when one of
them is not intact. -/
theorem export_ok (found : scans[i]? = some scan) {bundle : Bundle} :
    exportResponsesForScan python store scans responses (some i) = .ok bundle ↔
      (∀ row ∈ responses.filter (selected scan), row.Intact python store) ∧
        bundle = ⟨some i, (responses.filter (selected scan)).map
          (RawApiResponse.item python store i)⟩ := by
  rw [exportResponsesForScan]
  simp only [found]
  cases taken : (responses.filter (selected scan)).mapM
      (storedResponseFromOrm python store (some i)) with
  | error e =>
    constructor
    · intro raised
      cases raised
    · intro ⟨intact, _⟩
      rw [mapM_stored.mpr ⟨intact, rfl⟩] at taken
      cases taken
  | ok items =>
    obtain ⟨intact, rfl⟩ := mapM_stored.mp taken
    constructor
    · intro same
      cases same
      exact ⟨intact, rfl⟩
    · rintro ⟨-, rfl⟩
      rfl

/-- The key a row has in a transport. -/
def RawApiResponse.key (python : Runtime) (row : RawApiResponse) : String :=
  Research.cacheKey python row.provider row.endpoint row.parameters.normalize row.apiVersion
    row.responseShapeVersion

/-- The newest selected response under a key. -/
def newest (python : Runtime) (responses : List RawApiResponse) (scan : ScanRun) (key : String) :
    Option RawApiResponse :=
  (responses.filter (selected scan)).reverse.find? fun row => row.key python = key

/-- An exported bundle loads, and a request gets the newest response of its key. -/
theorem load_exported (intact : ∀ row ∈ responses.filter (selected scan), row.Intact python store)
    (i : Nat) :
    ∃ transport, loadResponseBundle python ⟨some i, (responses.filter (selected scan)).map
        (RawApiResponse.item python store i)⟩ = .ok transport ∧
      ∀ provider endpoint normalizedRequest apiVersion,
        transport.getResponse python provider endpoint normalizedRequest apiVersion =
          (newest python responses scan (cacheKey python provider endpoint normalizedRequest
            (apiVersion.getD "v3") "v1")).map (RawApiResponse.item python store i) := by
  have checked : ((responses.filter (selected scan)).map (RawApiResponse.item python store i)).all
      (fun item => item.checksum = checksumPayload python item.rawResponse) = true := by
    rw [List.all_eq_true]
    intro item member
    obtain ⟨row, inside, rfl⟩ := List.mem_map.mp member
    exact decide_eq_true (item_checksum i (intact row inside))
  refine ⟨_, if_pos checked, ?_⟩
  intro provider endpoint normalizedRequest apiVersion
  rw [BundleReplayTransport.getResponse, find?_comprehension, newest, List.map_map, ← List.map_reverse,
    List.find?_map, Option.map_map]
  rfl

theorem selected_iff {startedAt completedAt : DateTime} (started : scan.startedAt = some startedAt)
    (completed : scan.completedAt = some completedAt) (row : RawApiResponse) :
    selected scan row = true ↔ startedAt ≤ row.requestTime ∧ row.responseTime ≤ completedAt := by
  simp [selected, started, completed]

end

/-- What the bundle of scan `i` is taken to be: it holds the response of every
completed or cached call of the scan, a transport loaded from it answers their
requests with the same payloads, and what it holds was not used by other scans
alone. -/
structure ReplaysScan (python : Runtime) (store : String → Option Blob) (calls : List ApiCall)
    (responses : List RawApiResponse) (i : Nat) (bundle : Bundle) : Prop where
  holds : ∀ call ∈ calls, call.scanRunId = some i →
    call.status = .completed ∨ call.status = .cacheHit →
    ∀ n row, call.rawApiResponseId = some n → responses[n]? = some row →
      row.item python store i ∈ bundle.responses
  answers : ∀ call ∈ calls, call.scanRunId = some i →
    call.status = .completed ∨ call.status = .cacheHit →
    ∀ n row, call.rawApiResponseId = some n → responses[n]? = some row →
      ∃ transport item, loadResponseBundle python bundle = .ok transport ∧
        transport.getResponse python row.provider row.endpoint row.parameters
          (some row.apiVersion) = some item ∧
        item.rawResponse = row.payload python store
  own : ∀ n row, responses[n]? = some row → row.item python store i ∈ bundle.responses →
    (∃ call ∈ calls, call.rawApiResponseId = some n ∧ call.scanRunId ≠ some i) →
    ∃ call ∈ calls, call.rawApiResponseId = some n ∧ call.scanRunId = some i

/-- A bundle holds the responses stored between the start and the end of the
scan, whoever asked for them; an export raises where one of these is damaged,
and a loaded bundle answers with the newest of its responses under a key. -/
theorem bundle_is_scan_window (python : Runtime) (store : String → Option Blob)
    (scans : List ScanRun) (responses : List RawApiResponse) (i : Nat) (scan : ScanRun)
    (startedAt completedAt : DateTime) (found : scans[i]? = some scan)
    (started : scan.startedAt = some startedAt) (completed : scan.completedAt = some completedAt) :
    ((∃ bundle, exportResponsesForScan python store scans responses (some i) = .ok bundle) ↔
      ∀ row ∈ responses, startedAt ≤ row.requestTime ∧ row.responseTime ≤ completedAt →
        row.Intact python store) ∧
    ∀ bundle, exportResponsesForScan python store scans responses (some i) = .ok bundle →
      bundle.sourceScanRunId = some i ∧
      (∀ row ∈ responses, row.item python store i ∈ bundle.responses ↔
        startedAt ≤ row.requestTime ∧ row.responseTime ≤ completedAt) ∧
      (∀ item ∈ bundle.responses, ∃ row ∈ responses, item = row.item python store i) ∧
      ∃ transport, loadResponseBundle python bundle = .ok transport ∧
        ∀ provider endpoint normalizedRequest apiVersion,
          transport.getResponse python provider endpoint normalizedRequest apiVersion =
            (newest python responses scan (cacheKey python provider endpoint normalizedRequest
              (apiVersion.getD "v3") "v1")).map (RawApiResponse.item python store i) := by
  have window := selected_iff started completed
  constructor
  · constructor
    · intro ⟨bundle, exported⟩ row member inside
      have chosen := List.mem_filter.mpr ⟨member, (window row).mpr inside⟩
      exact ((export_ok found).mp exported).1 row chosen
    · intro intact
      refine ⟨_, (export_ok found).mpr ⟨?_, rfl⟩⟩
      intro row chosen
      obtain ⟨member, inside⟩ := List.mem_filter.mp chosen
      exact intact row member ((window row).mp inside)
  · intro bundle exported
    obtain ⟨intact, rfl⟩ := (export_ok found).mp exported
    refine ⟨rfl, ?_, ?_, load_exported intact i⟩
    · intro row member
      constructor
      · intro there
        obtain ⟨other, chosen, same⟩ := List.mem_map.mp there
        obtain ⟨requested, received⟩ := item_times same
        have inside := (window other).mp (List.mem_filter.mp chosen).2
        rw [← requested, ← received]
        exact inside
      · intro inside
        exact List.mem_map_of_mem (List.mem_filter.mpr ⟨member, (window row).mpr inside⟩)
    · intro item there
      obtain ⟨row, chosen, rfl⟩ := List.mem_map.mp there
      exact ⟨row, (List.mem_filter.mp chosen).1, rfl⟩

/-! ## A cached response and a foreign one -/

namespace CachedScan

/-- ASCII case mappings; the requests here have no URL to split. -/
def python : Runtime := ⟨String.toLower, String.toUpper, id, Sha256.hexdigest⟩

def store : String → Option Blob := fun _ => none

def request (keyword : String) : PyJson :=
  .obj [("tasks", .arr [.obj [("keyword", .str keyword)]])]

/-- A live response to a request for the keyword. -/
def response (keyword : String) (time : DateTime) : RawApiResponse where
  cacheKey := cacheKey python "dataforseo-live" "/v3/serp" (request keyword) "v3" "v1"
  provider := "dataforseo-live"
  endpoint := "/v3/serp"
  parameters := request keyword
  apiVersion := "v3"
  responseShapeVersion := "v1"
  responseJson := .obj [("keyword", .str keyword)]
  sanitized := true
  requestTime := time
  responseTime := time
  cost := some (1 / 4)
  providerTaskId := none
  providerRequestId := none
  sourceScanRunId := some 0
  checksum := checksumPayload python (.obj [("keyword", .str keyword)])
  objectKey := none
  sizeBytes := none

def scan (startedAt completedAt : DateTime) : ScanRun :=
  { ScanRun.enqueue 0 .manualAsync 0 4 with
    status := .completed
    startedAt := some startedAt
    completedAt := some completedAt }

/-- Scan 0 runs from 10 to 300, scan 1 from 100 to 200. -/
def scans : List ScanRun := [scan 10 300, scan 100 200]

def cached : RawApiResponse := response "drywall" 50

def foreign : RawApiResponse := response "plaster" 150

def call (i : Nat) (hit : Bool) (n : Nat) : ApiCall :=
  { ApiCall.new (some i) none "dataforseo-live" "/v3/serp" "" 0
      ⟨hit, false, "token", none, none, 150⟩ with
    status := if hit then .cacheHit else .completed
    rawApiResponseId := some n }

/-- Both responses are scan 0's; scan 1 takes the first from the cache. -/
def calls : List ApiCall := [call 0 false 0, call 0 false 1, call 1 true 0]

def bundle : Bundle := ⟨some 1, [foreign.item python store 1]⟩

theorem intact (keyword : String) (time : DateTime) : (response keyword time).Intact python store :=
  ⟨.obj [("keyword", .str keyword)], by simp [rawResponsePayload, RawApiResponse.found, response]⟩

theorem exported :
    exportResponsesForScan python store scans [cached, foreign] (some 1) = .ok bundle := by
  have chosen : [cached, foreign].filter (selected (scan 100 200)) = [foreign] := by
    have outside : selected (scan 100 200) cached = false := by decide +kernel
    have inside : selected (scan 100 200) foreign = true := by decide +kernel
    simp [outside, inside]
  refine (export_ok (rfl : scans[1]? = some (scan 100 200))).mpr ⟨?_, ?_⟩
  · intro row member
    rw [chosen, List.mem_singleton] at member
    rw [member]
    exact intact _ _
  · rw [chosen]
    rfl

end CachedScan

/-- The response the scan took from the cache is missing, and the one another
scan fetched meanwhile is there. -/
theorem cached_response_missing :
    exportResponsesForScan CachedScan.python CachedScan.store CachedScan.scans
        [CachedScan.cached, CachedScan.foreign] (some 1) = .ok CachedScan.bundle ∧
      CachedScan.cached.item CachedScan.python CachedScan.store 1 ∉ CachedScan.bundle.responses ∧
      CachedScan.foreign.item CachedScan.python CachedScan.store 1 ∈ CachedScan.bundle.responses ∧
      ¬ ReplaysScan CachedScan.python CachedScan.store CachedScan.calls
        [CachedScan.cached, CachedScan.foreign] 1 CachedScan.bundle := by
  have missing : CachedScan.cached.item CachedScan.python CachedScan.store 1 ∉
      CachedScan.bundle.responses := by
    intro there
    have times := item_times (List.mem_singleton.mp there)
    exact absurd times.1 (by decide +kernel)
  refine ⟨CachedScan.exported, missing, List.mem_singleton.mpr rfl, ?_⟩
  intro replays
  exact missing (replays.holds (CachedScan.call 1 true 0) (by simp [CachedScan.calls]) rfl
    (Or.inr rfl) 0 CachedScan.cached rfl rfl)

/-- Scan 1's bundle is its window. -/
theorem cached_scan_window :
    (CachedScan.cached.item CachedScan.python CachedScan.store 1 ∈ CachedScan.bundle.responses ↔
      100 ≤ CachedScan.cached.requestTime ∧ CachedScan.cached.responseTime ≤ 200) ∧
    (CachedScan.foreign.item CachedScan.python CachedScan.store 1 ∈ CachedScan.bundle.responses ↔
      100 ≤ CachedScan.foreign.requestTime ∧ CachedScan.foreign.responseTime ≤ 200) := by
  have window := ((bundle_is_scan_window CachedScan.python CachedScan.store CachedScan.scans
    [CachedScan.cached, CachedScan.foreign] 1 (CachedScan.scan 100 200) 100 200 rfl rfl rfl).2
      CachedScan.bundle CachedScan.exported).2.1
  constructor
  · exact window CachedScan.cached List.mem_cons_self
  · exact window CachedScan.foreign (List.mem_cons_of_mem _ List.mem_cons_self)

end RankRent.Replay
