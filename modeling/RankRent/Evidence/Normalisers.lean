import RankRent.Evidence.Text
import RankRent.Provider.ParseResponse

/-!
# What the adapter makes of a payload

`discover_keywords`, `get_keyword_metrics`, `get_serp_snapshot`,
`get_competitor_metrics` and `find_providers` of `integrations/dataforseo/live.py`,
from the payload of `_post` on. An exception is a `WorkerError`: an
`AttributeError`, a `TypeError` or an `OverflowError` is of class `other`.
-/

namespace RankRent.Evidence
open Provider (get either toInt toFloat)

abbrev Fields := List (String × PyJson)

/-! ## Records -/

structure KeywordCandidate where
  keyword : String
  source : String
  included : Bool
  excludedReason : Option String

structure KeywordMetric where
  keyword : String
  canonicalKeyword : String
  intent : String
  searchVolume : Option ℤ
  cpc : Option PyFloat
  paidCompetition : Option PyFloat
  monthlyHistory : List ℤ
  source : String
  sourceTimestamp : DateTime
  marketGranularity : String
  included : Bool
  excludedReason : Option String

structure SerpResult where
  order : ℤ
  resultType : String
  url : String
  domain : String
  title : String
  description : String

structure SerpSnapshot where
  query : String
  marketId : String
  device : String
  capturedAt : DateTime
  featuresPresent : List String
  results : List SerpResult

structure CompetitorMetric where
  url : String
  domain : String
  referringDomains : Option ℤ
  backlinks : Option ℤ
  authority : Option PyFloat
  capturedAt : DateTime

structure ProviderCandidate where
  name : String
  website : Option String
  phone : Option String
  email : Option String
  address : Option String
  serviceArea : Option String
  category : Option String
  categories : List String
  latitude : Option PyFloat
  longitude : Option PyFloat
  rating : Option PyFloat
  reviewCount : Option ℤ
  businessStatus : String
  contactConfidence : Option ℚ
  source : String
  sourceTimestamp : DateTime

/-! ## Access -/

/-- The name of the type of a JSON value. -/
def typeName : PyJson → String
  | .null => "NoneType"
  | .str _ => "str"
  | .num _ => "int"
  | .float _ => "float"
  | .bool _ => "bool"
  | .arr _ => "list"
  | .obj _ => "dict"

/-- The fields `value.get` reads. -/
def attributes (value : PyJson) : Except WorkerError Fields :=
  match value with
  | .obj fields => .ok fields
  | value => .error ⟨.other, "'" ++ typeName value ++ "' object has no attribute 'get'"⟩

/-- `_as_dict`. -/
def asDict : PyJson → Fields
  | .obj fields => fields
  | _ => []

/-- `_first_task`. -/
def firstTask (payload : Fields) : Except WorkerError Fields :=
  let missing : WorkerError := ⟨.dataForSEO, "DataForSEO response did not include a task."⟩
  let tasks := get payload "tasks"
  if !tasks.truthy then .error missing
  else
    match tasks with
    | .arr (.obj task :: _) => .ok task
    | .arr _ | .str _ => .error missing
    | .obj _ => .error ⟨.other, "0"⟩
    | value => .error ⟨.other, "'" ++ typeName value ++ "' object is not subscriptable"⟩

/-- `_first_result`. -/
def firstResult (payload : Fields) : Except WorkerError (List PyJson) :=
  match firstTask payload with
  | .error e => .error e
  | .ok task =>
    match get task "result" with
    | .arr results => .ok results
    | _ => .ok []

/-- The `items` of one result of `_extract_items`. -/
def resultItems (result : PyJson) : List PyJson :=
  match get (asDict result) "items" with
  | .arr items => items
  | _ => []

/-- `_extract_items`. -/
def extractItems (payload : Fields) : Except WorkerError (List PyJson) :=
  (firstResult payload).map (List.flatMap resultItems)

section
variable (python : Python)

/-- `str(value)`. -/
def str (value : PyJson) : String := value.text python.isPrintable

/-- `str(fields.get(key) or "")`. -/
def textOf (fields : Fields) (key : String) : String := str python (either (get fields key) (.str ""))

/-- `_clean_optional_str`. -/
def cleanOptionalStr (value : PyJson) : Option String :=
  match value with
  | .null => none
  | value =>
    let text := PyString.strip (str python value)
    if text = "" then none else some text

/-! ## Keywords -/

/-- One round of the loop of `discover_keywords` over items. -/
def candidate (item : PyJson) : Except WorkerError (Option KeywordCandidate) :=
  match attributes item with
  | .error e => .error e
  | .ok fields =>
    let keyword := PyString.strip (str python
      (either (get fields "keyword") (either (get fields "se_results_keyword") (.str ""))))
    .ok (if keyword = "" then none
      else some ⟨keyword, "dataforseo:keyword_suggestions", true, none⟩)

/-- The candidates of one payload. -/
def suggested (payload : Fields) : Except WorkerError (List KeywordCandidate) :=
  match extractItems payload with
  | .error e => .error e
  | .ok items => (items.mapM (candidate python)).map List.reduceOption

def buyerTerms : List String :=
  ["contractor", "company", "companies", "repair", "installation", "installer", "service", "services",
   "near", "me"]

/-- `relevance` of `_rank_keyword_candidates`. -/
def relevance (service : Research.ServiceFamily) (keyword : String) : ℤ :=
  let tokens := (slugTokens python keyword).dedup
  ((tokens.filter (· ∈ slugTokens python service.displayName)).length * 10 +
    (tokens.filter (· ∈ buyerTerms)).length * 4 : ℤ) -
    if tokens.any (· ∈ service.negativeProductTerms) then 6 else 0

/-- `_rank_keyword_candidates`. -/
def rankKeywordCandidates (candidates : List KeywordCandidate) (service : Research.ServiceFamily) :
    List KeywordCandidate :=
  candidates.mergeSort fun a b =>
    decide (relevance python service b.keyword < relevance python service a.keyword ∨
      relevance python service a.keyword = relevance python service b.keyword ∧ a.keyword ≤ b.keyword)

/-- `discover_keywords` with its seeds; `post` gives the payload for each. -/
def discoverKeywords (seeds : List String) (service : Research.ServiceFamily)
    (post : String → Fields) : Except WorkerError (List KeywordCandidate) :=
  (seeds.mapM fun seed => suggested python (post seed)).map fun found =>
    let candidates := if found.flatten.isEmpty then
        seeds.map fun seed => ⟨seed, "seed", true, none⟩
      else found.flatten
    rankKeywordCandidates python candidates service

/-- `_infer_intent`. -/
def inferIntent (keyword : String) : String :=
  if ["repair", "replacement", "installation", "emergency", "near me", "service"].any
      (PyString.contains (python.lower keyword)) then "transactional" else "commercial"

/-- One round of the loop of `_monthly_history`. -/
def monthlyVolume (row : PyJson) : Except WorkerError (Option ℤ) :=
  match row with
  | .obj fields => toInt python.isPrintable (get fields "search_volume")
  | _ => .ok none

/-- `_monthly_history`. -/
def monthlyHistory (monthly : PyJson) : Except WorkerError (List ℤ) :=
  match monthly with
  | .arr rows => (rows.mapM (monthlyVolume python)).map List.reduceOption
  | _ => .ok []

/-- `item.get("search_intent_info", {}).get("main_intent")`. -/
def mainIntent (item : Fields) : Except WorkerError PyJson :=
  match item.lookup "search_intent_info" with
  | none => .ok .null
  | some value => (attributes value).map fun fields => get fields "main_intent"

/-- The metric of an item with a keyword. -/
def metric (granularity : String) (now : DateTime) (item : Fields) (keyword : String) :
    Except WorkerError KeywordMetric :=
  let info := asDict (get item "keyword_info")
  let monthly := either (get item "monthly_searches") (get info "monthly_searches")
  match mainIntent item with
  | .error e => .error e
  | .ok intent =>
    match toInt python.isPrintable (either (get info "search_volume") (get item "search_volume")) with
    | .error e => .error e
    | .ok volume =>
      match monthlyHistory python monthly with
      | .error e => .error e
      | .ok history => .ok {
          keyword := keyword
          canonicalKeyword := spaced python keyword
          intent := str python (either intent (.str (inferIntent python keyword)))
          searchVolume := volume
          cpc := toFloat python.isPrintable (either (get info "cpc") (get item "cpc"))
          paidCompetition :=
            toFloat python.isPrintable (either (get info "competition") (get item "competition"))
          monthlyHistory := history
          source := "dataforseo:historical_search_volume"
          sourceTimestamp := now
          marketGranularity := granularity
          included := true
          excludedReason := none }

/-- One round of the loop of `get_keyword_metrics`. -/
def metricOf (granularity : String) (now : DateTime) (item : PyJson) :
    Except WorkerError (Option KeywordMetric) :=
  match attributes item with
  | .error e => .error e
  | .ok fields =>
    let keyword := PyString.strip (textOf python fields "keyword")
    if keyword = "" then .ok none
    else (metric python granularity now fields keyword).map some

/-- `_labs_granularity`. -/
def labsGranularity (market : Market) : String :=
  if python.upper market.countryCode = "US" then "country" else market.type

/-- `get_keyword_metrics` with the payload it is sent. -/
def getKeywordMetrics (keywords : List String) (market : Market) (now : DateTime) (payload : Fields) :
    Except WorkerError (List KeywordMetric) :=
  if keywords = [] then .ok []
  else
    match extractItems payload with
    | .error e => .error e
    | .ok items =>
      (items.mapM (metricOf python (labsGranularity python market) now)).map List.reduceOption

/-! ## Results pages -/

/-- The `ValueError` of `urlparse`. -/
def parsedNetloc (url : String) : Except WorkerError String :=
  match python.netloc? url with
  | some netloc => .ok netloc
  | none => .error ⟨.valueError, "Invalid URL"⟩

/-- One round of the loop of `get_serp_snapshot`: the type of an item, and its result
when it has a URL. -/
def serpItem (index : Nat) (item : PyJson) : Except WorkerError (String × Option SerpResult) :=
  match attributes item with
  | .error e => .error e
  | .ok fields =>
    let resultType := str python (either (get fields "type") (.str "organic"))
    let url := textOf python fields "url"
    if url = "" then .ok (resultType, none)
    else
      let named := get fields "domain"
      match if named.truthy then .ok (str python named) else parsedNetloc python url with
      | .error e => .error e
      | .ok domain =>
        match toInt python.isPrintable (get fields "rank_absolute") with
        | .error e => .error e
        | .ok rank =>
          let order := (rank.filter (· ≠ 0)).getD index
          .ok (resultType, some ⟨order, resultType, url, domain,
            str python (either (get fields "title") (.str domain)),
            textOf python fields "description"⟩)

/-- The elements of `enumerate(items)` for the `items` of a result, or `[]`. -/
def elements (items : PyJson) : Except WorkerError (List PyJson) :=
  if !items.truthy then .ok []
  else
    match items with
    | .arr elements => .ok elements
    | .str s => .ok (s.toList.map fun c => .str c.toString)
    | .obj fields => .ok (fields.map fun field => .str field.1)
    | value => .error ⟨.other, "'" ++ typeName value ++ "' object is not iterable"⟩

/-- `get_serp_snapshot` with the payload it is sent. -/
def getSerpSnapshot (keyword : String) (market : Market) (now : DateTime) (payload : Fields) :
    Except WorkerError SerpSnapshot :=
  match firstResult payload with
  | .error e => .error e
  | .ok results =>
    match elements (get (asDict (results.headD .null)) "items") with
    | .error e => .error e
    | .ok items =>
      (items.zipIdx.mapM fun entry => serpItem python (entry.2 + 1) entry.1).map fun rows => {
        query := keyword
        marketId := market.id
        device := "desktop"
        capturedAt := now
        featuresPresent := (((rows.map Prod.fst).filter (· ≠ "organic")).dedup).mergeSort
          fun a b => decide (a ≤ b)
        results := rows.filterMap Prod.snd }

/-! ## Competitors -/

/-- `_target_domain`. -/
def targetDomain (url : String) : Except WorkerError String :=
  (parsedNetloc python (if PyString.contains url "://" then url else "https://" ++ url)).map
    (PyString.removePrefix "www.")

/-- `first` unless it is `None`. -/
def unlessNull (first second : PyJson) : PyJson :=
  match first with
  | .null => second
  | value => value

/-- The value of `domain_authority` in a backlinks summary. -/
def authority (row : Fields) : PyJson :=
  unlessNull (get row "rank") (unlessNull (get row "domain_rank") (get row "page_rank"))

/-- The metric of one competitor, from its backlinks summary. -/
def competitor (url target : String) (now : DateTime) (payload : Fields) :
    Except WorkerError CompetitorMetric :=
  match firstResult payload with
  | .error e => .error e
  | .ok results =>
    let row := asDict (results.headD .null)
    match toInt python.isPrintable (get row "referring_domains") with
    | .error e => .error e
    | .ok referringDomains =>
      match toInt python.isPrintable (get row "backlinks") with
      | .error e => .error e
      | .ok backlinks =>
        .ok ⟨url, target, referringDomains, backlinks,
          toFloat python.isPrintable (authority row), now⟩

/-- The loop of `get_competitor_metrics` after the targets in `seen`; `post` gives the
payload for a target. -/
def competitorsAfter (now : DateTime) (post : String → Fields) (seen : List String) :
    List String → Except WorkerError (List CompetitorMetric)
  | [] => .ok []
  | url :: rest => (targetDomain python url).bind fun target =>
    if target = "" ∨ target ∈ seen then competitorsAfter now post seen rest
    else (competitor python url target now (post target)).bind fun metric =>
      (competitorsAfter now post (target :: seen) rest).map (metric :: ·)

/-- `get_competitor_metrics`. -/
def getCompetitorMetrics (now : DateTime) (post : String → Fields) (urls : List String) :
    Except WorkerError (List CompetitorMetric) :=
  competitorsAfter python now post [] (urls.take 5)

/-! ## Listings -/

/-- `_format_address`. -/
def formatAddress (value : PyJson) : Option String :=
  match value with
  | .str s => some s
  | .obj fields =>
    let parts := ["address", "city", "region", "zip", "country_code"].map (get fields)
    let text := String.intercalate ", " ((parts.filter PyJson.truthy).map (str python))
    if text = "" then none else some text
  | _ => none

/-- `values` of `_provider_categories`. -/
def categoryTexts (item : Fields) : List String :=
  let named := ["category", "category_ids", "additional_categories"].flatMap fun key =>
    match get item key with
    | .arr values => values
    | value => [value]
  let services := match get item "services" with
    | .arr services => services.flatMap fun service => match service with
      | .obj fields => [get fields "category", get fields "title"]
      | _ => []
    | _ => []
  ((named ++ services).filter PyJson.truthy).map (str python)

/-- The distinct values of `_provider_categories`, after the keys in `seen`. -/
def distinctValues (seen : List String) : List String → List String
  | [] => []
  | value :: rest =>
    let normalized := PyString.strip value
    let key := python.lower normalized
    if normalized ≠ "" ∧ key ∉ seen then normalized :: distinctValues (key :: seen) rest
    else distinctValues seen rest

/-- `_provider_categories`. -/
def providerCategories (item : Fields) : List String :=
  distinctValues python [] (categoryTexts python item)

/-- `_provider_business_status`. -/
def providerBusinessStatus (value : PyJson) : String :=
  let normalized := python.lower (PyString.strip (str python (either value (.str "unknown"))))
  if normalized = "" then "unknown" else if normalized = "close" then "closed_now" else normalized

/-- `_contact_value`. -/
def contactValue (value : PyJson) (contactTypes : List String) : Option String :=
  match value with
  | .arr contacts => contacts.findSome? fun contact => match contact with
    | .obj fields =>
      if python.lower (PyString.strip (textOf python fields "type")) ∈ contactTypes then
        cleanOptionalStr python (get fields "value")
      else none
    | _ => none
  | _ => none

/-- `_parse_timestamp`. -/
def parseTimestamp (value : PyJson) : Option DateTime :=
  if value.truthy then
    python.fromIsoFormat ((PyString.strip (str python value)).replace "Z" "+00:00")
  else none

/-- The listing of an item with a name. -/
def listing (now : DateTime) (item : Fields) (name : String) : Except WorkerError ProviderCandidate :=
  let rating := asDict (get item "rating")
  let workTime := asDict (get item "work_time")
  let workHours := asDict (get workTime "work_hours")
  let contactInfo := get item "contact_info"
  let phone := (cleanOptionalStr python (get item "phone")).or
    (contactValue python contactInfo ["phone", "telephone"])
  let email := contactValue python contactInfo ["email"]
  let website := cleanOptionalStr python (either (get item "url") (get item "domain"))
  match toInt python.isPrintable (either (get rating "votes_count") (get item "review_count")) with
  | .error e => .error e
  | .ok reviewCount => .ok {
      name := name
      website := website
      phone := phone
      email := email
      address := formatAddress python (either (get item "address_info") (get item "address"))
      serviceArea := cleanOptionalStr python (get item "service_area")
      category := cleanOptionalStr python (get item "category")
      categories := providerCategories python item
      latitude := toFloat python.isPrintable (get item "latitude")
      longitude := toFloat python.isPrintable (get item "longitude")
      rating := toFloat python.isPrintable (either (get rating "value") (get item "rating"))
      reviewCount := reviewCount
      businessStatus := providerBusinessStatus python (either (get workHours "current_status")
        (either (get workTime "current_status") (either (get item "current_status")
          (.str "unknown"))))
      contactConfidence :=
        if phone.isSome ∨ email.isSome then
          if contactInfo matches .arr _ then some (9 / 10) else some (4 / 5)
        else if website.isSome then some (11 / 20) else none
      source := "dataforseo:business_listings"
      sourceTimestamp := (parseTimestamp python (get item "last_updated_time")).getD now }

/-- One round of the loop of `find_providers`. -/
def listingOf (now : DateTime) (item : PyJson) : Except WorkerError (Option ProviderCandidate) :=
  match attributes item with
  | .error e => .error e
  | .ok fields =>
    let name := PyString.strip (str python
      (either (get fields "title") (either (get fields "name") (.str ""))))
    if name = "" then .ok none else (listing python now fields name).map some

/-- `find_providers` with the payload it is sent. -/
def findProviders (now : DateTime) (payload : Fields) : Except WorkerError (List ProviderCandidate) :=
  match extractItems payload with
  | .error e => .error e
  | .ok items => (items.mapM (listingOf python now)).map List.reduceOption

end

end RankRent.Evidence
