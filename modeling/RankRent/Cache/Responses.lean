import RankRent.Cache.Blobs
import RankRent.Library.JsonRoundTrip
import RankRent.Research.ReplayBundles

/-!
# The response cache

`services/cache.py`: rows that are only added to, a pointer for each cache key, and the
payload inline or in a blob.
-/

namespace RankRent.Cache
open Research (Runtime cacheKey)
open Replay (checksumPayload rawResponsePayload)

/-- A row of `raw_api_responses` with the columns of the cache. -/
structure RawApiResponse extends Replay.RawApiResponse where
  statusCode : Option ℤ
  expiresAt : Option DateTime
  storageBackend : Option String
  contentType : Option String
  retentionClassification : String
  encryptionStatus : String
  blobCreatedAt : Option DateTime

/-- The tables `raw_api_responses` and `raw_response_cache_entries`, and the blobs. The
primary key of a response is its position. -/
structure Responses (σ : Type) where
  rows : List RawApiResponse
  entries : List (String × Nat)
  blobs : σ

structure CacheLookup where
  cacheKey : String
  row : Option RawApiResponse
  payload : Option PyJson
  invalidReason : Option String

def CacheLookup.isValid (lookup : CacheLookup) : Bool :=
  lookup.row.isSome && lookup.payload.isSome && lookup.invalidReason.isNone

structure RawResponseCache where
  provider : String
  apiVersion : String
  responseShapeVersion : String
  /-- Whether a blob store is given. -/
  blobStore : Bool
  storageBackend : Option String
  encryptionStatus : String

/-- The arguments of a `set`, and its time. -/
structure SetCall where
  cache : RawResponseCache
  endpoint : String
  params : PyJson
  response : PyJson
  statusCode : ℤ
  cost : Usd
  providerTaskId : Option String
  providerRequestId : Option String
  sourceScanRunId : Option Nat
  now : DateTime

inductive CacheError
  | blob (e : BlobStoreError)
  | integrity
  deriving DecidableEq, Repr

section
variable (python : Runtime)

/-! ## Payloads -/

/-- `SENSITIVE_KEYS`. -/
def sensitiveKeys : List String :=
  ["authorization", "auth", "api_key", "api_token", "password", "login", "dataforseo_login",
    "dataforseo_password"]

mutual
/-- `sanitize_payload`. -/
def sanitizePayload : PyJson → PyJson
  | .obj fields => .obj (sanitizeFields fields)
  | .arr items => .arr (sanitizeItems items)
  | value => value

def sanitizeItems : List PyJson → List PyJson
  | [] => []
  | item :: rest => sanitizePayload item :: sanitizeItems rest

def sanitizeFields : List (String × PyJson) → List (String × PyJson)
  | [] => []
  | (key, item) :: rest =>
    (key, if python.lower key ∈ sensitiveKeys then .str "<redacted>" else sanitizePayload item) ::
      sanitizeFields rest
end

/-- `serialize_payload`. -/
def serializePayload (payload : PyJson) : List UInt8 := PyJson.encode payload.dumps.toList

/-- `ttl_for_endpoint`, in seconds. -/
def ttlForEndpoint (endpoint : String) : Option ℚ :=
  let days (n : ℚ) := some (n * 86400)
  if PyString.contains endpoint "/locations/" then days 90
  else if PyString.contains endpoint "keyword_suggestions" then days 30
  else if PyString.contains endpoint "historical_search_volume" then days 30
  else if PyString.contains endpoint "business_listings" then days 10
  else if PyString.contains endpoint "backlinks" then days 45
  else if PyString.contains endpoint "/serp/" then none
  else days 30

/-! ## Lookups -/

def isDict : PyJson → Bool
  | .obj _ => true
  | _ => false

/-- `cache_key` of the columns of a row. -/
def RawApiResponse.metadataKey (row : RawApiResponse) : String :=
  cacheKey python row.provider row.endpoint row.parameters.normalize row.apiVersion
    row.responseShapeVersion

/-- The checks of `lookup_cached_response` on a row. -/
def RawApiResponse.rejection (row : RawApiResponse) (key : String) (now : DateTime) : Option String :=
  if row.cacheKey ≠ key then some "cache_key_mismatch"
  else if row.metadataKey python ≠ key then some "response_metadata_mismatch"
  else if !row.sanitized then some "unsanitized_response"
  else if row.checksum = "" then some "missing_checksum"
  else if row.objectKey = none ∧ !isDict row.responseJson then some "invalid_inline_response_metadata"
  else if row.expiresAt.any (· ≤ now) then some "expired"
  else if row.objectKey.isSome ∧ (row.storageBackend.getD "" = "" ∨
      row.contentType ≠ some "application/json" ∨ row.sizeBytes = none ∨ row.blobCreatedAt = none) then
    some "incomplete_blob_metadata"
  else none

variable (reader : PyJson.Reader) {σ : Type} (store : BlobStore σ)

/-- The blobs as `raw_response_payload` reads them. -/
def readBlob (blobs : σ) (key : String) : Option Replay.Blob :=
  (store.get blobs key).map fun bytes => ⟨bytes.length, PyJson.loadsBytes reader bytes⟩

/-- `lookup_cached_response`. -/
def lookupCachedResponse (s : Responses σ) (key : String) (now : DateTime) : CacheLookup :=
  match s.entries.lookup key with
  | none => ⟨key, none, none, some "missing_cache_pointer"⟩
  | some id =>
    match s.rows[id]? with
    | none => ⟨key, none, none, some "missing_response_metadata"⟩
    | some row =>
      match row.rejection python key now with
      | some reason => ⟨key, some row, none, some reason⟩
      | none =>
        match rawResponsePayload python (readBlob reader store s.blobs) row.toRawApiResponse with
        | .error _ => ⟨key, some row, none, some "response_integrity_failure"⟩
        | .ok payload => ⟨key, some row, some payload, none⟩

/-! ## `RawResponseCache` -/

/-- `_cache_key`. -/
def RawResponseCache.key (cache : RawResponseCache) (endpoint : String) (params : PyJson) : String :=
  cacheKey python cache.provider endpoint params.normalize cache.apiVersion cache.responseShapeVersion

def SetCall.sanitized (call : SetCall) : PyJson := sanitizePayload python call.response

def SetCall.checksum (call : SetCall) : String := checksumPayload python (call.sanitized python)

/-- The key of the blob of a payload. -/
def SetCall.objectKey (call : SetCall) : String :=
  "raw-responses/" ++ call.cache.provider ++ "/" ++
    String.ofList ((call.checksum python).toList.take 2) ++ "/" ++ call.checksum python ++ ".json"

/-- What `set` returns and adds under. -/
def SetCall.key (call : SetCall) : String := call.cache.key python call.endpoint call.params.normalize

/-- The row of a `set` with its payload inline, or in the blob of the given info. -/
def SetCall.row (call : SetCall) (blob : Option BlobInfo) : RawApiResponse where
  cacheKey := call.key python
  provider := call.cache.provider
  endpoint := call.endpoint
  parameters := call.params.normalize
  apiVersion := call.cache.apiVersion
  responseShapeVersion := call.cache.responseShapeVersion
  responseJson := if blob.isSome then .obj [] else call.sanitized python
  sanitized := true
  requestTime := call.now
  responseTime := call.now
  cost := some call.cost
  providerTaskId := call.providerTaskId
  providerRequestId := call.providerRequestId
  sourceScanRunId := call.sourceScanRunId
  checksum := call.checksum python
  objectKey := if blob.isSome then some (call.objectKey python) else none
  sizeBytes := blob.map BlobInfo.sizeBytes
  statusCode := some call.statusCode
  expiresAt := (ttlForEndpoint call.endpoint).map (call.now + ·)
  storageBackend := if blob.isSome then call.cache.storageBackend else none
  contentType := blob.map BlobInfo.contentType
  retentionClassification := "raw_provider_response"
  encryptionStatus := if blob.isSome then call.cache.encryptionStatus else "not_applicable"
  blobCreatedAt := if blob.isSome then some call.now else none

/-- Add a row, and point its cache key at it. -/
def Responses.add (s : Responses σ) (row : RawApiResponse) : Responses σ :=
  { s with
    rows := s.rows ++ [row]
    entries := PyDict.setItem s.entries row.cacheKey s.rows.length }

/-- The put of a `set`. -/
def SetCall.put (call : SetCall) (blobs : σ) : Except BlobStoreError (σ × BlobInfo) :=
  store.put blobs (call.objectKey python) (serializePayload (call.sanitized python)) "application/json"

/-- `RawResponseCache.set`. -/
def SetCall.set (call : SetCall) (s : Responses σ) : Except CacheError (Responses σ × String) :=
  if call.cache.blobStore then
    match call.put python store s.blobs with
    | .error e => .error (.blob e)
    | .ok (blobs, info) =>
      if info.checksum ≠ call.checksum python then .error .integrity
      else .ok ({ s with blobs := blobs }.add (call.row python (some info)), call.key python)
  else .ok (s.add (call.row python none), call.key python)

end

end RankRent.Cache
