import RankRent.Library.PyFloat
import RankRent.Library.PyRepr
import RankRent.Provider.Requests
import RankRent.Worker.Queue

/-!
# Reading a provider response

`_parse_response` of `integrations/dataforseo/live.py` and what becomes of its
exceptions: `is_retryable_error` in the worker, and the failure accounting of
`_request`.
-/

namespace RankRent.Provider

/-- Why `response.json()` fails: a `ValueError`, or a `RecursionError` on a text
nested too deep. -/
inductive JsonFailure
  | valueError
  | recursionError (message : String)

structure HttpResponse where
  statusCode : Nat
  /-- The value of the `Content-Type` header. -/
  contentType : Option String
  content : List UInt8

/-- What `httpx` makes of a body: `response.json()` and `response.text`. -/
structure Http where
  json : List UInt8 → Except JsonFailure PyJson
  text : HttpResponse → String

section
variable (isPrintable : Char → Bool)

/-- `int(float(text))`; `None` stands for the errors `_to_int` catches. An
`OverflowError` is none of them. -/
def wholeNumber (text : String) : Except WorkerError (Option ℤ) :=
  match PyFloat.ofText? text with
  | none | some .nan => .ok none
  | some (.finite value) => .ok (some (PyFloat.truncate value))
  | some (.infinite _) => .error ⟨.other, "cannot convert float infinity to integer"⟩

/-- `_to_int`. -/
def toInt (value : PyJson) : Except WorkerError (Option ℤ) :=
  match value with
  | .null | .str "" => .ok none
  | value => wholeNumber (value.text isPrintable)

/-- `_to_float`. -/
def toFloat (value : PyJson) : Option PyFloat :=
  match value with
  | .null | .str "" => none
  | value => PyFloat.ofText? (value.text isPrintable)

/-- `fields.get(key)`. -/
def get (fields : List (String × PyJson)) (key : String) : PyJson := (fields.lookup key).getD .null

/-- `first or second`. -/
def either (first second : PyJson) : PyJson := if first.truthy then first else second

/-- `str(payload.get("status_message") or default)`. -/
def statusMessage (fields : List (String × PyJson)) (default_ : String) : String :=
  (either (get fields "status_message") (.str default_)).text isPrintable

/-- The check of a `status_code`. -/
def checkStatus (fields : List (String × PyJson)) (label : String) : Except WorkerError Unit :=
  match toInt isPrintable (get fields "status_code") with
  | .error e => .error e
  | .ok none => .ok ()
  | .ok (some code) =>
    if 40000 ≤ code then
      .error ⟨.dataForSEO, statusMessage isPrintable fields (label ++ " " ++ toString code)⟩
    else .ok ()

/-- The `tasks` of a payload, when they are a list of dicts. -/
def taskList : PyJson → Option (List (List (String × PyJson)))
  | .arr tasks => tasks.mapM fun task => match task with
    | .obj fields => some fields
    | _ => none
  | _ => none

/-- The checks of `_parse_response` on the payload of a response below 400. -/
def checkPayload (payload : List (String × PyJson)) : Except WorkerError Unit :=
  match checkStatus isPrintable payload "DataForSEO error" with
  | .error e => .error e
  | .ok () =>
    match taskList (get payload "tasks") with
    | none =>
      .error ⟨.dataForSEOSchema, "DataForSEO response did not include a valid task list."⟩
    | some tasks => tasks.forM fun task => checkStatus isPrintable task "DataForSEO task error"

variable (http : Http)

/-- The message of a response from 400 on that is no authentication or transient error. -/
def httpMessage (r : HttpResponse) (payload : List (String × PyJson)) : String :=
  let message := statusMessage isPrintable payload (http.text r)
  "DataForSEO HTTP " ++ toString r.statusCode ++ ": " ++
    if r.statusCode = 402 then message ++
      " DataForSEO returned HTTP 402; check the account balance or billing limits."
    else message

/-- `_parse_response`. -/
def parseResponse (r : HttpResponse) : Except WorkerError (List (String × PyJson)) :=
  match http.json r.content with
  | .error .valueError =>
    .error ⟨.dataForSEOSchema,
      "DataForSEO returned non-JSON response: HTTP " ++ toString r.statusCode⟩
  | .error (.recursionError message) => .error ⟨.runtime, message⟩
  | .ok (.obj payload) =>
    if r.statusCode = 401 ∨ r.statusCode = 403 then
      .error ⟨.dataForSEOAuthentication,
        "DataForSEO authentication failed: HTTP " ++ toString r.statusCode ++ "."⟩
    else if r.statusCode = 429 then
      .error ⟨.dataForSEORateLimit, "DataForSEO rate limit reached: HTTP 429."⟩
    else if 500 ≤ r.statusCode then
      .error ⟨.dataForSEO, "DataForSEO transient HTTP " ++ toString r.statusCode ++ "."⟩
    else if 400 ≤ r.statusCode then .error ⟨.dataForSEO, httpMessage isPrintable http r payload⟩
    else (checkPayload isPrintable payload).map fun _ => payload
  | .ok _ => .error ⟨.dataForSEOSchema, "DataForSEO returned a non-object JSON response."⟩

/-- The body is a JSON object. -/
def Http.readsObject (r : HttpResponse) : Bool :=
  match http.json r.content with
  | .ok (.obj _) => true
  | _ => false

/-- The text a 402 response is reported with: its `status_message`, or its body. -/
def Http.providerText (r : HttpResponse) : Option String :=
  match http.json r.content with
  | .ok (.obj payload) => some (statusMessage isPrintable payload (http.text r))
  | _ => none

end

/-- What `_request` records of an exception of `_parse_response`. -/
def parseFailure (errorType : String) (error : WorkerError) (now : DateTime) : CallFailure where
  errorType := errorType
  message := error.message
  circuitOpen := error.cls = .circuitOpen
  leaseLost := error.cls = .scanLeaseLost
  schemaDrift := error.cls = .dataForSEOSchema
  responded := true
  payloadCost := none
  now := now

/-! ## Which failures are retried -/

/-- An exception of `_parse_response` moves no counter of schema drift. -/
def DriftFree (error : WorkerError) : Prop :=
  ∀ (errorType : String) (now : DateTime) (seen : ApiCall) (reserved : Bool) (estimate : Usd)
    (bucket : ProviderDailyUsage),
    (CostControls.finishUsage estimate ((parseFailure errorType error now).request seen reserved)
      bucket).schemaDriftCount = bucket.schemaDriftCount

theorem driftFree_of_cls {error : WorkerError} (other : error.cls ≠ .dataForSEOSchema) :
    DriftFree error := by
  intro errorType now seen reserved estimate bucket
  simp [CostControls.finishUsage, CallFailure.request, parseFailure, other]

/-- A transient response is retried and is no schema drift; a refusal is final. -/
structure Classified (isPrintable : Char → Bool) (http : Http) (r : HttpResponse) : Prop where
  transient : r.statusCode = 429 ∨ 500 ≤ r.statusCode →
    ∃ error, parseResponse isPrintable http r = .error error ∧ isRetryableError error = true ∧
      DriftFree error
  final : r.statusCode = 401 ∨ r.statusCode = 403 ∨ r.statusCode = 402 →
    ∃ error, parseResponse isPrintable http r = .error error ∧ isRetryableError error = false

section
variable {isPrintable : Char → Bool} {http : Http} {r : HttpResponse}

/-- A body that is no JSON object is an error that is not retried, whatever the status. -/
theorem parseResponse_unread (isPrintable : Char → Bool) (unread : http.readsObject r = false) :
    ∃ error, parseResponse isPrintable http r = .error error ∧ isRetryableError error = false := by
  unfold Http.readsObject at unread
  unfold parseResponse
  cases body : http.json r.content with
  | error failure => cases failure <;> exact ⟨_, rfl, rfl⟩
  | ok value =>
    cases value with
    | obj payload => simp [body] at unread
    | _ => exact ⟨_, rfl, rfl⟩

theorem toLower_eq (s : String) : s.toLower = s.map Char.toLower := rfl

/-- The text around the message of a 402 response neither holds nor completes a token. -/
theorem retryable_billing (message : String) :
    isRetryableError ⟨.dataForSEO, "DataForSEO HTTP 402: " ++ (message ++
      " DataForSEO returned HTTP 402; check the account balance or billing limits.")⟩ =
    isRetryableError ⟨.dataForSEO, message⟩ := by
  have before : ("DataForSEO HTTP 402: ".toList.map Char.toLower) = "dataforseo http 402: ".toList := by
    decide +kernel
  have after : (" DataForSEO returned HTTP 402; check the account balance or billing limits.".toList.map
      Char.toLower) =
      " dataforseo returned http 402; check the account balance or billing limits.".toList := by
    decide +kernel
  have tokens : ∀ token ∈ ["transient", "timeout", "rate limit", "temporar", "http 5"],
      PyString.Apart token.toList "dataforseo http 402: ".toList
        " dataforseo returned http 402; check the account balance or billing limits.".toList := by
    decide +kernel
  simp only [isRetryableError, toLower_eq]
  rw [Bool.eq_iff_iff, List.any_eq_true, List.any_eq_true]
  refine exists_congr fun token => and_congr_right fun member => ?_
  simp only [PyString.contains, String.toList_map, String.toList_append, List.map_append, before,
    after, decide_eq_true_eq]
  rw [← List.append_assoc]
  exact (tokens token member).infix_iff

theorem readsObject_iff :
    http.readsObject r = true ↔ ∃ payload, http.json r.content = .ok (.obj payload) := by
  unfold Http.readsObject
  constructor
  · intro reads
    split at reads
    · exact ⟨_, ‹_›⟩
    · cases reads
  · rintro ⟨payload, body⟩
    rw [body]

theorem httpMessage_billing (payload : List (String × PyJson)) (billing : r.statusCode = 402) :
    httpMessage isPrintable http r payload = "DataForSEO HTTP 402: " ++
      (statusMessage isPrintable payload (http.text r) ++
        " DataForSEO returned HTTP 402; check the account balance or billing limits.") := by
  have label : "DataForSEO HTTP " ++ toString (402 : Nat) ++ ": " = "DataForSEO HTTP 402: " := by
    decide +kernel
  unfold httpMessage
  dsimp only
  rw [if_pos billing, billing, label]

/-- The error of a 402 response. -/
theorem parseResponse_billing {payload : List (String × PyJson)}
    (body : http.json r.content = .ok (.obj payload)) (billing : r.statusCode = 402) :
    parseResponse isPrintable http r = .error ⟨.dataForSEO, "DataForSEO HTTP 402: " ++
      (statusMessage isPrintable payload (http.text r) ++
        " DataForSEO returned HTTP 402; check the account balance or billing limits.")⟩ := by
  rw [← httpMessage_billing payload billing]
  simp only [parseResponse, body]
  rw [if_neg (by omega), if_neg (by omega), if_neg (by omega), if_pos (by omega)]

/-- The error of a server failure says that it is transient. -/
theorem retryable_server (status : String) :
    isRetryableError ⟨.dataForSEO, "DataForSEO transient HTTP " ++ status ++ "."⟩ = true := by
  have here : "transient".toList <:+: "dataforseo transient http ".toList := by decide +kernel
  have before : ("DataForSEO transient HTTP ".toList.map Char.toLower) =
      "dataforseo transient http ".toList := by decide +kernel
  simp only [isRetryableError, toLower_eq]
  refine List.any_eq_true.mpr ⟨"transient", by simp, decide_eq_true ?_⟩
  simp only [String.toList_map, String.toList_append, List.map_append, before]
  exact (here.trans List.infix_append_left).trans List.infix_append_left

/-- A transient status with a JSON object for its body. -/
theorem parseResponse_transient {payload : List (String × PyJson)}
    (body : http.json r.content = .ok (.obj payload))
    (transient : r.statusCode = 429 ∨ 500 ≤ r.statusCode) :
    ∃ error, parseResponse isPrintable http r = .error error ∧ isRetryableError error = true ∧
      DriftFree error := by
  have known : ¬ (r.statusCode = 401 ∨ r.statusCode = 403) := by omega
  simp only [parseResponse, body, if_neg known]
  by_cases limited : r.statusCode = 429
  · rw [if_pos limited]
    exact ⟨_, rfl, rfl, driftFree_of_cls (by simp)⟩
  · have server : 500 ≤ r.statusCode := by omega
    rw [if_neg limited, if_pos server]
    exact ⟨_, rfl, retryable_server _, driftFree_of_cls (by simp)⟩

/-- A response is classified as its status says exactly when a transient one has a
JSON object for its body, and when the text of a 402 response, if it has one, is not
itself the message of a transient error. -/
theorem classified_iff (isPrintable : Char → Bool) (http : Http) (r : HttpResponse) :
    Classified isPrintable http r ↔
      (r.statusCode = 429 ∨ 500 ≤ r.statusCode → http.readsObject r = true) ∧
      (r.statusCode = 402 → ∀ message, http.providerText isPrintable r = some message →
        isRetryableError ⟨.dataForSEO, message⟩ = false) := by
  constructor
  · intro classified
    constructor
    · intro transient
      by_contra unread
      obtain ⟨error, raised, retried, -⟩ := classified.transient transient
      obtain ⟨other, same, final⟩ := parseResponse_unread isPrintable
        (Bool.eq_false_of_not_eq_true unread)
      rw [raised] at same
      cases same
      simp [retried] at final
    · intro billing message text
      obtain ⟨error, raised, final⟩ := classified.final (.inr (.inr billing))
      unfold Http.providerText at text
      split at text
      · rename_i payload body
        cases text
        rw [parseResponse_billing body billing] at raised
        cases raised
        rw [← retryable_billing]
        exact final
      · cases text
  · rintro ⟨object, quiet⟩
    constructor
    · intro transient
      obtain ⟨payload, body⟩ := readsObject_iff.mp (object transient)
      exact parseResponse_transient body transient
    · intro refused
      by_cases reads : http.readsObject r = true
      · obtain ⟨payload, body⟩ := readsObject_iff.mp reads
        by_cases billing : r.statusCode = 402
        · refine ⟨_, parseResponse_billing body billing, ?_⟩
          rw [retryable_billing]
          exact quiet billing _ (by simp [Http.providerText, body])
        · have access : r.statusCode = 401 ∨ r.statusCode = 403 := by omega
          simp only [parseResponse, body, if_pos access]
          exact ⟨_, rfl, rfl⟩
      · exact parseResponse_unread _ (Bool.eq_false_of_not_eq_true reads)

end

/-- The body of a 402 response. -/
def paymentBody : List UInt8 :=
  "\x7b\"status_message\": \"Payment authorization timeout.\"\x7d".toUTF8.toList

/-- A gateway in front of the provider, which answers a 503 itself. -/
def gateway : Http where
  json content :=
    if content = paymentBody then
      .ok (.obj [("status_message", .str "Payment authorization timeout.")])
    else .error .valueError
  text _ := ""

/-- The 503 of the gateway is not retried, and a 402 is, for a word of its message. -/
theorem gateway_misclassified :
    ¬ Classified (fun _ => true) gateway
      ⟨503, some "text/plain", "upstream connect error".toUTF8.toList⟩ ∧
    ¬ Classified (fun _ => true) gateway ⟨402, some "application/json", paymentBody⟩ := by
  constructor
  · intro classified
    have reads := ((classified_iff ..).mp classified).1 (by simp)
    have unread : gateway.readsObject
        ⟨503, some "text/plain", "upstream connect error".toUTF8.toList⟩ = false := by decide +kernel
    rw [unread] at reads
    cases reads
  · intro classified
    have quiet := ((classified_iff ..).mp classified).2 rfl "Payment authorization timeout."
      (by decide +kernel)
    have retried : isRetryableError ⟨.dataForSEO, "Payment authorization timeout."⟩ = true := by
      decide +kernel
    rw [retried] at quiet
    cases quiet

end RankRent.Provider
