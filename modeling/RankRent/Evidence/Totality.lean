import RankRent.Evidence.Normalisers
import RankRent.Library.Checks

/-!
# Which exceptions leave the adapter

A reading is handled when it ends in a value or in a `DataForSEOError`. The items of
a payload are read as they come, and each reading fails on shapes of its own.
-/

namespace RankRent.Evidence
open Provider (get either toInt)

/-- The subclasses of `DataForSEOError`. -/
def provider : ErrorClass → Bool
  | .dataForSEOAuthentication | .dataForSEOPlan | .dataForSEOSchema | .dataForSEORateLimit
  | .dataForSEO => true
  | _ => false

/-- No other exception than a `DataForSEOError`. -/
def Handled {α : Type} (result : Except WorkerError α) : Prop :=
  ∀ e, result = .error e → provider e.cls = true

/-- No `DataForSEOError`. -/
def Foreign {α : Type} (result : Except WorkerError α) : Prop :=
  ∀ e, result = .error e → provider e.cls = false

section
variable {α β : Type}

theorem Foreign.handled_iff {result : Except WorkerError α} (foreign : Foreign result) :
    Handled result ↔ result.isOk = true := by
  cases result with
  | ok a => simp [Handled, Except.isOk, Except.toBool]
  | error e =>
    have other := foreign e rfl
    simp [Handled, other, Except.isOk, Except.toBool]

theorem foreign_ok (a : α) : Foreign (.ok a) := by
  intro e failed
  cases failed

theorem Foreign.map {result : Except WorkerError α} (foreign : Foreign result) (f : α → β) :
    Foreign (result.map f) := by
  intro e failed
  cases result with
  | ok a => cases failed
  | error other =>
    cases failed
    exact foreign _ rfl

theorem Foreign.mapM {f : α → Except WorkerError β} {items : List α}
    (rounds : ∀ item, Foreign (f item)) : Foreign (items.mapM f) := by
  intro e failed
  obtain ⟨item, -, raised⟩ := Checks.mapM_error failed
  exact rounds item e raised

theorem handled_map {result : Except WorkerError α} (f : α → β) :
    Handled (result.map f) ↔ Handled result := by
  cases result <;> simp [Handled, Except.map]

end

/-! ## Parts of an item -/

def isDict : PyJson → Bool
  | .obj _ => true
  | _ => false

section
variable (python : Python)

/-- `float(str(value))` is no infinity. -/
def finite (value : PyJson) : Bool :=
  match PyFloat.ofText? (str python value) with
  | some (.infinite _) => false
  | _ => true

theorem attributes_foreign (value : PyJson) : Foreign (attributes value) := by
  intro e failed
  cases value <;> cases failed <;> rfl

theorem attributes_isOk (value : PyJson) : (attributes value).isOk = isDict value := by
  cases value <;> rfl

theorem toInt_foreign (value : PyJson) : Foreign (toInt python.isPrintable value) := by
  intro e failed
  unfold toInt Provider.wholeNumber at failed
  split at failed
  · cases failed
  · cases failed
  · split at failed <;> cases failed
    rfl

theorem toInt_isOk (value : PyJson) :
    (toInt python.isPrintable value).isOk = finite python value := by
  unfold toInt Provider.wholeNumber finite str
  split
  · have none_ : PyFloat.ofText? "None" = none := by decide +kernel
    simp only [PyJson.text, PyJson.repr, none_]
    rfl
  · have empty : PyFloat.ofText? "" = none := by decide +kernel
    simp only [PyJson.text, empty]
    rfl
  · cases PyFloat.ofText? (value.text python.isPrintable) with
    | none => rfl
    | some number => cases number <;> rfl

theorem parsedNetloc_foreign (url : String) : Foreign (parsedNetloc python url) := by
  intro e failed
  unfold parsedNetloc at failed
  split at failed <;> cases failed
  rfl

theorem parsedNetloc_isOk (url : String) :
    (parsedNetloc python url).isOk = (python.netloc? url).isSome := by
  unfold parsedNetloc
  cases python.netloc? url <;> rfl

/-! ## Keywords -/

theorem candidate_foreign (item : PyJson) : Foreign (candidate python item) := by
  intro e failed
  unfold candidate at failed
  cases item <;> cases failed <;> rfl

theorem candidate_isOk (item : PyJson) : (candidate python item).isOk = isDict item := by
  unfold candidate
  cases item <;> rfl

/-- The rows of `_monthly_history` that are dicts have no infinite volume. -/
def monthlyFits (monthly : PyJson) : Bool :=
  match monthly with
  | .arr rows => rows.all fun row => match row with
    | .obj fields => finite python (get fields "search_volume")
    | _ => true
  | _ => true

/-- An item `get_keyword_metrics` can read: a dict that either has no keyword, or whose
`search_intent_info`, if it is there, is a dict and whose volumes are not infinite. -/
def metricFits (item : PyJson) : Bool :=
  match item with
  | .obj fields =>
    let info := asDict (get fields "keyword_info")
    PyString.strip (textOf python fields "keyword") = "" ||
      ((fields.lookup "search_intent_info").all isDict &&
        finite python (either (get info "search_volume") (get fields "search_volume")) &&
        monthlyFits python (either (get fields "monthly_searches") (get info "monthly_searches")))
  | _ => false

theorem monthlyVolume_foreign (row : PyJson) : Foreign (monthlyVolume python row) := by
  unfold monthlyVolume
  split
  · exact toInt_foreign python _
  · exact foreign_ok _

theorem monthlyHistory_foreign (monthly : PyJson) : Foreign (monthlyHistory python monthly) := by
  unfold monthlyHistory
  split
  · exact (Foreign.mapM (monthlyVolume_foreign python)).map _
  · exact foreign_ok _

theorem monthlyHistory_isOk (monthly : PyJson) :
    (monthlyHistory python monthly).isOk = monthlyFits python monthly := by
  unfold monthlyHistory monthlyFits
  cases monthly with
  | arr rows =>
    dsimp only
    rw [Checks.isOk_map, Bool.eq_iff_iff, Checks.mapM_isOk, List.all_eq_true]
    refine forall₂_congr fun row _ => ?_
    unfold monthlyVolume
    cases row with
    | obj fields => rw [toInt_isOk]
    | _ => simp [Except.isOk, Except.toBool]
  | _ => rfl

theorem mainIntent_foreign (item : Fields) : Foreign (mainIntent item) := by
  unfold mainIntent
  split
  · exact foreign_ok _
  · exact (attributes_foreign _).map _

theorem mainIntent_isOk (item : Fields) :
    (mainIntent item).isOk = (item.lookup "search_intent_info").all isDict := by
  unfold mainIntent
  cases item.lookup "search_intent_info" with
  | none => rfl
  | some value => rw [Checks.isOk_map, attributes_isOk]; rfl

theorem metric_foreign (granularity : String) (now : DateTime) (item : Fields) (keyword : String) :
    Foreign (metric python granularity now item keyword) := by
  intro e failed
  unfold metric at failed
  dsimp only at failed
  split at failed
  · rename_i raised
    cases failed
    exact mainIntent_foreign _ _ raised
  · split at failed
    · rename_i raised
      cases failed
      exact toInt_foreign python _ _ raised
    · split at failed
      · rename_i raised
        cases failed
        exact monthlyHistory_foreign python _ _ raised
      · cases failed

theorem metric_isOk (granularity : String) (now : DateTime) (item : Fields) (keyword : String) :
    (metric python granularity now item keyword).isOk =
      ((item.lookup "search_intent_info").all isDict &&
        finite python (either (get (asDict (get item "keyword_info")) "search_volume")
          (get item "search_volume")) &&
        monthlyFits python (either (get item "monthly_searches")
          (get (asDict (get item "keyword_info")) "monthly_searches"))) := by
  rw [← mainIntent_isOk, ← toInt_isOk, ← monthlyHistory_isOk]
  unfold metric
  dsimp only
  cases mainIntent item with
  | error e => rfl
  | ok intent =>
    cases toInt python.isPrintable _ with
    | error e => rfl
    | ok volume => cases monthlyHistory python _ <;> rfl

theorem metricOf_foreign (granularity : String) (now : DateTime) (item : PyJson) :
    Foreign (metricOf python granularity now item) := by
  unfold metricOf
  cases item with
  | obj fields =>
    dsimp only [attributes]
    split
    · exact foreign_ok _
    · exact (metric_foreign python _ _ _ _).map _
  | _ =>
    intro e failed
    cases failed
    rfl

theorem metricOf_isOk (granularity : String) (now : DateTime) (item : PyJson) :
    (metricOf python granularity now item).isOk = metricFits python item := by
  unfold metricOf metricFits
  cases item with
  | obj fields =>
    dsimp only [attributes]
    by_cases unnamed : PyString.strip (textOf python fields "keyword") = ""
    · rw [if_pos unnamed]
      simp [unnamed, Except.isOk, Except.toBool]
    · rw [if_neg unnamed, Checks.isOk_map, metric_isOk]
      simp [unnamed]
  | _ => rfl

/-! ## Results pages -/

/-- An item `get_serp_snapshot` can read: a dict that either has no URL, or has a domain or
a URL that `urlparse` accepts, and a rank that is not infinite. -/
def serpFits (item : PyJson) : Bool :=
  match item with
  | .obj fields =>
    textOf python fields "url" = "" ||
      (((get fields "domain").truthy || (python.netloc? (textOf python fields "url")).isSome) &&
        finite python (get fields "rank_absolute"))
  | _ => false

/-- `items` that are a list of such items, or nothing. -/
def pageFits (items : PyJson) : Bool :=
  !items.truthy ||
    match items with
    | .arr elements => elements.all (serpFits python)
    | _ => false

theorem serpItem_foreign (index : Nat) (item : PyJson) : Foreign (serpItem python index item) := by
  unfold serpItem
  cases item with
  | obj fields =>
    dsimp only [attributes]
    by_cases noUrl : textOf python fields "url" = ""
    · rw [if_pos noUrl]
      exact foreign_ok _
    · rw [if_neg noUrl]
      intro e failed
      split at failed
      · rename_i raised
        cases failed
        split at raised
        · cases raised
        · exact parsedNetloc_foreign python _ _ raised
      · split at failed
        · rename_i raised
          cases failed
          exact toInt_foreign python _ _ raised
        · cases failed
  | _ =>
    intro e failed
    cases failed
    rfl

theorem serpItem_isOk (index : Nat) (item : PyJson) :
    (serpItem python index item).isOk = serpFits python item := by
  unfold serpItem serpFits
  cases item with
  | obj fields =>
    dsimp only [attributes]
    by_cases noUrl : textOf python fields "url" = ""
    · rw [if_pos noUrl]
      simp [noUrl, Except.isOk, Except.toBool]
    · rw [if_neg noUrl, ← toInt_isOk, ← parsedNetloc_isOk]
      by_cases named : (get fields "domain").truthy = true
      · rw [if_pos named]
        cases toInt python.isPrintable (get fields "rank_absolute") <;>
          simp [noUrl, named, Except.isOk, Except.toBool]
      · rw [if_neg named]
        cases parsedNetloc python (textOf python fields "url") <;>
          cases toInt python.isPrintable (get fields "rank_absolute") <;>
          simp [noUrl, named, Except.isOk, Except.toBool]
  | _ => rfl

theorem elements_foreign (items : PyJson) : Foreign (elements items) := by
  unfold elements
  split
  · exact foreign_ok _
  · intro e failed
    cases items <;> cases failed <;> rfl

/-- The loop of `get_serp_snapshot`. -/
def serpRows (items : PyJson) : Except WorkerError (List (String × Option SerpResult)) :=
  match elements items with
  | .error e => .error e
  | .ok items => items.zipIdx.mapM fun entry => serpItem python (entry.2 + 1) entry.1

theorem serpRows_foreign (items : PyJson) : Foreign (serpRows python items) := by
  intro e failed
  unfold serpRows at failed
  split at failed
  · rename_i raised
    cases failed
    exact elements_foreign items _ raised
  · exact Foreign.mapM (fun entry : PyJson × Nat => serpItem_foreign python (entry.2 + 1) entry.1) e
      failed

theorem serpItems_isOk (items : List PyJson) :
    (items.zipIdx.mapM fun entry => serpItem python (entry.2 + 1) entry.1).isOk =
      items.all (serpFits python) := by
  rw [Bool.eq_iff_iff, Checks.mapM_isOk, List.all_eq_true]
  simp only [serpItem_isOk]
  conv_rhs => rw [← List.zipIdx_map_fst 0 items]
  rw [List.forall_mem_map]

theorem serpRows_isOk (items : PyJson) : (serpRows python items).isOk = pageFits python items := by
  unfold serpRows pageFits elements
  by_cases some : items.truthy = true
  · simp only [some, Bool.not_true, Bool.false_eq_true, if_false, Bool.false_or]
    cases items with
    | arr elements => exact serpItems_isOk python elements
    | str s =>
      -- The characters of a text are no dicts.
      rw [serpItems_isOk]
      cases chars : s.toList with
      | nil => simp [PyJson.truthy, String.toList_eq_nil_iff.mp chars] at some
      | cons c rest => rfl
    | obj fields =>
      rw [serpItems_isOk]
      cases fields with
      | nil => cases some
      | cons field rest => rfl
    | _ => rfl
  · simp only [some, Bool.not_false, Bool.true_or, if_true]
    rfl

/-! ## Listings -/

/-- An item `find_providers` can read: a dict that either has no name, or a review count
that is not infinite. -/
def listingFits (item : PyJson) : Bool :=
  match item with
  | .obj fields =>
    PyString.strip (str python
      (either (get fields "title") (either (get fields "name") (.str "")))) = "" ||
    finite python (either (get (asDict (get fields "rating")) "votes_count")
      (get fields "review_count"))
  | _ => false

theorem listingOf_foreign (now : DateTime) (item : PyJson) :
    Foreign (listingOf python now item) := by
  unfold listingOf listing
  cases item with
  | obj fields =>
    dsimp only [attributes]
    split
    · exact foreign_ok _
    · refine Foreign.map (fun e failed => ?_) _
      split at failed
      · rename_i raised
        cases failed
        exact toInt_foreign python _ _ raised
      · cases failed
  | _ =>
    intro e failed
    cases failed
    rfl

theorem listingOf_isOk (now : DateTime) (item : PyJson) :
    (listingOf python now item).isOk = listingFits python item := by
  unfold listingOf listingFits listing
  cases item with
  | obj fields =>
    dsimp only [attributes]
    split
    · rename_i unnamed
      simp [unnamed, Except.isOk, Except.toBool]
    · rename_i named
      rw [Checks.isOk_map, ← toInt_isOk]
      cases toInt python.isPrintable _ <;> simp [named, Except.isOk, Except.toBool]
  | _ => rfl

/-! ## Competitors -/

/-- The target of a URL, when `urlparse` accepts it. -/
def targetOf? (url : String) : Option String := (targetDomain python url).toOption

/-- The counts of a backlinks summary are not infinite. -/
def countsFit (results : List PyJson) : Bool :=
  let row := asDict (results.headD .null)
  finite python (get row "referring_domains") && finite python (get row "backlinks")

/-- URLs `get_competitor_metrics` can read: without a task in the payload, `urlparse`
accepts the first URL that has a target to ask for; with one, it accepts them all, and the
counts are not infinite if there is a target. -/
def competitorsFit (payload : Fields) (urls : List String) : Bool :=
  match firstResult payload with
  | .error _ =>
    match urls.find? fun url => targetOf? python url ≠ some "" with
    | none => true
    | some url => (targetOf? python url).isSome
  | .ok results =>
    urls.all (fun url => (targetOf? python url).isSome) &&
      (countsFit python results || urls.all fun url => targetOf? python url = some "")

theorem targetDomain_foreign (url : String) : Foreign (targetDomain python url) :=
  (parsedNetloc_foreign python _).map _

section
variable {python} {url target : String} {now : DateTime} {payload : Fields}

theorem competitor_error {e : WorkerError} (missing : firstResult payload = .error e) :
    competitor python url target now payload = .error e := by
  rw [competitor, missing]

theorem competitor_foreign {results : List PyJson} (found : firstResult payload = .ok results) :
    Foreign (competitor python url target now payload) := by
  intro e failed
  rw [competitor, found] at failed
  dsimp only at failed
  split at failed
  · rename_i raised
    cases failed
    exact toInt_foreign python _ _ raised
  · split at failed
    · rename_i raised
      cases failed
      exact toInt_foreign python _ _ raised
    · cases failed

theorem competitor_isOk {results : List PyJson} (found : firstResult payload = .ok results) :
    (competitor python url target now payload).isOk = countsFit python results := by
  rw [competitor, found, countsFit, ← toInt_isOk, ← toInt_isOk]
  dsimp only
  cases toInt python.isPrintable _ with
  | error e => rfl
  | ok referringDomains => cases toInt python.isPrintable _ <;> rfl

/-- Without a task the loop ends at the first URL that has a target or none to parse. -/
theorem handled_competitors_missing {e : WorkerError} (missing : firstResult payload = .error e)
    (reported : provider e.cls = true) (urls : List String) :
    Handled (competitorsAfter python now (fun _ => payload) [] urls) ↔
      ∀ url, (urls.find? fun url => targetOf? python url ≠ some "") = some url →
        (targetOf? python url).isSome = true := by
  induction urls with
  | nil => simp [competitorsAfter, Handled]
  | cons url rest ih =>
    rw [competitorsAfter, List.find?_cons]
    cases parsed : targetDomain python url with
    | error refused =>
      have other := targetDomain_foreign python url refused parsed
      simp [targetOf?, parsed, Handled, other, Except.toOption, Except.bind]
    | ok target =>
      by_cases empty : target = ""
      · have known : targetOf? python url = some "" := by
          rw [targetOf?, parsed, empty]
          rfl
        simp only [Except.bind, empty, List.not_mem_nil, or_false, if_true, known, ne_eq,
          not_true_eq_false, decide_false]
        exact ih
      · have asked : competitor python url target now payload = .error e := competitor_error missing
        simp [empty, asked, targetOf?, parsed, Except.toOption, Except.bind, Handled, reported]

/-- With a task the loop reads every URL, and the counts for the targets not yet asked for. -/
theorem competitors_isOk {results : List PyJson} (found : firstResult payload = .ok results)
    (seen urls : List String) :
    (competitorsAfter python now (fun _ => payload) seen urls).isOk = true ↔
      (∀ url ∈ urls, ∃ target, targetOf? python url = some target) ∧
      (countsFit python results = true ∨
        ∀ url ∈ urls, ∀ target, targetOf? python url = some target → target = "" ∨ target ∈ seen) := by
  induction urls generalizing seen with
  | nil => simp [competitorsAfter, Except.isOk, Except.toBool]
  | cons url rest ih =>
    rw [competitorsAfter]
    cases parsed : targetDomain python url with
    | error refused =>
      simp [targetOf?, parsed, Except.toOption, Except.bind, Except.isOk, Except.toBool]
    | ok target =>
      have known : targetOf? python url = some target := by simp [targetOf?, parsed, Except.toOption]
      by_cases skipped : target = "" ∨ target ∈ seen
      · simp only [Except.bind, skipped, if_true, ih seen]
        simp [known, skipped]
      · simp only [Except.bind, skipped, if_false]
        have counts : (competitor python url target now payload).isOk = countsFit python results :=
          competitor_isOk found
        cases read : competitor python url target now payload with
        | error e =>
          rw [read] at counts
          simp [← counts, known, skipped, Except.isOk, Except.toBool]
        | ok metric =>
          rw [read] at counts
          simp only [Checks.isOk_map, ih]
          simp [← counts, known, Except.isOk, Except.toBool]

theorem competitors_foreign {results : List PyJson} (found : firstResult payload = .ok results)
    (seen urls : List String) :
    Foreign (competitorsAfter python now (fun _ => payload) seen urls) := by
  induction urls generalizing seen with
  | nil => exact foreign_ok _
  | cons url rest ih =>
    rw [competitorsAfter]
    cases parsed : targetDomain python url with
    | error refused =>
      intro e failed
      cases failed
      exact targetDomain_foreign python url _ parsed
    | ok target =>
      by_cases skipped : target = "" ∨ target ∈ seen
      · simp only [Except.bind, skipped, if_true]
        exact ih seen
      · simp only [Except.bind, skipped, if_false]
        cases read : competitor python url target now payload with
        | error refused =>
          intro e failed
          cases failed
          exact competitor_foreign found _ read
        | ok metric => exact (ih _).map _

end

end

/-! ## Payloads -/

/-- The results of the first task. -/
def payloadResults (payload : Fields) : List PyJson := (firstResult payload).toOption.getD []

/-- The items of the first task. -/
def payloadItems (payload : Fields) : List PyJson := (payloadResults payload).flatMap resultItems

section
variable {python : Python} {payload : Fields}

/-- A payload `_parse_response` accepts has a task, or the reading of it is a
`DataForSEOError`. -/
theorem firstResult_accepted
    (accepted : Provider.checkPayload python.isPrintable payload = .ok ()) {e : WorkerError}
    (missing : firstResult payload = .error e) : provider e.cls = true := by
  have listed : ∃ tasks, get payload "tasks" = .arr tasks ∧ (Provider.taskList (.arr tasks)).isSome := by
    unfold Provider.checkPayload at accepted
    split at accepted
    · cases accepted
    · split at accepted
      · cases accepted
      · rename_i tasks found
        cases entry : get payload "tasks" with
        | arr tasks => exact ⟨tasks, rfl, by simp [← entry, found]⟩
        | _ => simp [entry, Provider.taskList] at found
  obtain ⟨tasks, entry, dicts⟩ := listed
  unfold firstResult firstTask at missing
  rw [entry] at missing
  cases tasks with
  | nil =>
    cases missing
    rfl
  | cons task rest =>
    cases task with
    | obj fields =>
      have present : (PyJson.arr (.obj fields :: rest)).truthy = true := rfl
      simp only [present, Bool.not_true, Bool.false_eq_true, if_false] at missing
      split at missing <;> cases missing
    | _ => simp [Provider.taskList] at dicts

/-- A loop over the items of an accepted payload is handled when every round is read. -/
theorem handled_items {α β : Type}
    (accepted : Provider.checkPayload python.isPrintable payload = .ok ())
    {round : PyJson → Except WorkerError α} (foreign : ∀ item, Foreign (round item))
    (f : List α → β) :
    Handled (match extractItems payload with
      | .error e => .error e
      | .ok items => (items.mapM round).map f) ↔
    ∀ item ∈ payloadItems payload, (round item).isOk = true := by
  unfold extractItems payloadItems payloadResults
  cases found : firstResult payload with
  | error e => simp [Except.map, Except.toOption, Handled, firstResult_accepted accepted found]
  | ok results =>
    simp only [Except.map, Except.toOption, Option.getD_some]
    rw [← Checks.mapM_isOk, ← (Foreign.mapM foreign).handled_iff]
    exact handled_map f

theorem handled_suggested (accepted : Provider.checkPayload python.isPrintable payload = .ok ()) :
    Handled (suggested python payload) ↔ ∀ item ∈ payloadItems payload, isDict item = true := by
  have read := handled_items accepted (candidate_foreign python) List.reduceOption
  simp only [candidate_isOk] at read
  exact read

/-- With one payload for every seed, the first seed decides. -/
theorem handled_discoverKeywords
    (accepted : Provider.checkPayload python.isPrintable payload = .ok ())
    (seeds : List String) (service : Research.ServiceFamily) :
    Handled (discoverKeywords python seeds service fun _ => payload) ↔
      seeds = [] ∨ ∀ item ∈ payloadItems payload, isDict item = true := by
  rw [discoverKeywords, handled_map, ← handled_suggested accepted]
  constructor
  · intro handled
    cases seeds with
    | nil => exact .inl rfl
    | cons seed rest =>
      refine .inr fun e failed => handled e ?_
      rw [List.mapM_cons, failed]
      rfl
  · rintro (rfl | handled) e failed
    · cases failed
    · obtain ⟨seed, -, raised⟩ := Checks.mapM_error failed
      exact handled e raised

theorem handled_getKeywordMetrics
    (accepted : Provider.checkPayload python.isPrintable payload = .ok ())
    (keywords : List String) (market : Market) (now : DateTime) :
    Handled (getKeywordMetrics python keywords market now payload) ↔
      keywords = [] ∨ ∀ item ∈ payloadItems payload, metricFits python item = true := by
  unfold getKeywordMetrics
  by_cases nothing : keywords = []
  · simp [nothing, Handled]
  · have read := handled_items accepted
      (metricOf_foreign python (labsGranularity python market) now) List.reduceOption
    simp only [metricOf_isOk] at read
    simp only [nothing, if_false, false_or]
    exact read

theorem handled_getSerpSnapshot
    (accepted : Provider.checkPayload python.isPrintable payload = .ok ())
    (keyword : String) (market : Market) (now : DateTime) :
    Handled (getSerpSnapshot python keyword market now payload) ↔
      pageFits python (get (asDict ((payloadResults payload).headD .null)) "items") = true := by
  unfold payloadResults
  cases found : firstResult payload with
  | error e =>
    have reported := firstResult_accepted accepted found
    simp [getSerpSnapshot, found, Except.toOption, Handled, reported, pageFits, Provider.get, asDict,
      PyJson.truthy]
  | ok results =>
    have rows : getSerpSnapshot python keyword market now payload =
        (serpRows python (get (asDict (results.headD .null)) "items")).map fun rows => {
          query := keyword
          marketId := market.id
          device := "desktop"
          capturedAt := now
          featuresPresent := (((rows.map Prod.fst).filter (· ≠ "organic")).dedup).mergeSort
            fun a b => decide (a ≤ b)
          results := rows.filterMap Prod.snd } := by
      rw [getSerpSnapshot, found, serpRows]
      dsimp only
      cases elements _ <;> rfl
    rw [rows, handled_map, (serpRows_foreign python _).handled_iff, serpRows_isOk]
    rfl

theorem handled_getCompetitorMetrics
    (accepted : Provider.checkPayload python.isPrintable payload = .ok ()) (now : DateTime)
    (urls : List String) :
    Handled (getCompetitorMetrics python now (fun _ => payload) urls) ↔
      competitorsFit python payload (urls.take 5) = true := by
  unfold getCompetitorMetrics competitorsFit
  cases found : firstResult payload with
  | error e =>
    rw [handled_competitors_missing found (firstResult_accepted accepted found)]
    dsimp only
    cases (urls.take 5).find? _ <;> simp
  | ok results =>
    rw [(competitors_foreign found [] _).handled_iff, competitors_isOk found]
    simp only [Bool.and_eq_true, Bool.or_eq_true, List.all_eq_true, Option.isSome_iff_exists,
      decide_eq_true_eq, List.not_mem_nil, or_false]
    refine and_congr_right fun parsed => or_congr_right (forall₂_congr fun url member => ?_)
    obtain ⟨target, known⟩ := parsed url member
    simp [known]

theorem handled_findProviders
    (accepted : Provider.checkPayload python.isPrintable payload = .ok ()) (now : DateTime) :
    Handled (findProviders python now payload) ↔
      ∀ item ∈ payloadItems payload, listingFits python item = true := by
  have read := handled_items accepted (listingOf_foreign python now) List.reduceOption
  simp only [listingOf_isOk] at read
  exact read

end

/-- When each reading of a payload is handled: `discover_keywords` with the payload for
every seed, and `get_competitor_metrics` with it for every target. -/
structure HandledExactly (python : Python) (payload : Fields) : Prop where
  discoverKeywords (seeds : List String) (service : Research.ServiceFamily) :
    Handled (discoverKeywords python seeds service fun _ => payload) ↔
      seeds = [] ∨ ∀ item ∈ payloadItems payload, isDict item = true
  getKeywordMetrics (keywords : List String) (market : Market) (now : DateTime) :
    Handled (getKeywordMetrics python keywords market now payload) ↔
      keywords = [] ∨ ∀ item ∈ payloadItems payload, metricFits python item = true
  getSerpSnapshot (keyword : String) (market : Market) (now : DateTime) :
    Handled (getSerpSnapshot python keyword market now payload) ↔
      pageFits python (get (asDict ((payloadResults payload).headD .null)) "items") = true
  getCompetitorMetrics (now : DateTime) (urls : List String) :
    Handled (getCompetitorMetrics python now (fun _ => payload) urls) ↔
      competitorsFit python payload (urls.take 5) = true
  findProviders (now : DateTime) :
    Handled (findProviders python now payload) ↔
      ∀ item ∈ payloadItems payload, listingFits python item = true

theorem checkPayload_of_parsed {isPrintable : Char → Bool} {http : Provider.Http}
    {r : Provider.HttpResponse} {payload : Fields}
    (parsed : Provider.parseResponse isPrintable http r = .ok payload) :
    Provider.checkPayload isPrintable payload = .ok () := by
  unfold Provider.parseResponse at parsed
  split at parsed
  · cases parsed
  · cases parsed
  · rename_i body found
    split_ifs at parsed
    cases checked : Provider.checkPayload isPrintable body with
    | error e =>
      rw [checked] at parsed
      cases parsed
    | ok u =>
      rw [checked] at parsed
      cases parsed
      exact checked
  · cases parsed

/-- Each reading of a payload that `_parse_response` accepted is handled exactly on the
shapes above. -/
theorem handled_exactly (python : Python) (http : Provider.Http) (r : Provider.HttpResponse)
    (payload : Fields) (parsed : Provider.parseResponse python.isPrintable http r = .ok payload) :
    HandledExactly python payload := by
  have accepted := checkPayload_of_parsed parsed
  constructor
  · exact handled_discoverKeywords accepted
  · exact handled_getKeywordMetrics accepted
  · exact handled_getSerpSnapshot accepted
  · exact handled_getCompetitorMetrics accepted
  · exact handled_findProviders accepted

/-- A payload whose only item has a keyword, and `null` for its intent. -/
def nullIntent : Fields :=
  [("status_code", .num 20000), ("tasks", .arr [.obj [("status_code", .num 20000),
    ("result", .arr [.obj [("items", .arr [.obj [("keyword", .str "roof repair"),
      ("search_intent_info", .null)]])]])]])]

/-- The provider sends it. -/
def nullIntentHttp : Provider.Http where
  json _ := .ok (.obj nullIntent)
  text _ := ""

theorem nullIntent_accepted : Provider.parseResponse asciiPython.isPrintable nullIntentHttp
    ⟨200, some "application/json", []⟩ = .ok nullIntent := by
  have code : toInt asciiPython.isPrintable (.num 20000) = .ok (some 20000) := by decide +kernel
  have checked : Provider.checkPayload asciiPython.isPrintable nullIntent = .ok () := by
    simp [Provider.checkPayload, Provider.checkStatus, Provider.taskList, nullIntent, Provider.get,
      List.lookup_cons, code]
  simp [Provider.parseResponse, nullIntentHttp, checked, Except.map]

theorem handled_exactly_nullIntent : HandledExactly asciiPython nullIntent :=
  handled_exactly asciiPython nullIntentHttp ⟨200, some "application/json", []⟩ nullIntent
    nullIntent_accepted

def miami : Market where
  displayName := "Miami, FL"
  countryCode := "US"
  latitude := none
  longitude := none
  boundaryRadiusKm := none
  providerLocationCode := none
  providerLocationName := none
  id := "miami-fl"
  type := "city"
  state := some "FL"
  cities := ["Miami"]

/-- The `AttributeError` of `get_keyword_metrics` on an accepted payload is no
`DataForSEOError`. -/
theorem nullIntent_escapes :
    Provider.parseResponse asciiPython.isPrintable nullIntentHttp
      ⟨200, some "application/json", []⟩ = .ok nullIntent ∧
    ¬ Handled (getKeywordMetrics asciiPython ["roof repair"] miami 0 nullIntent) := by
  refine ⟨nullIntent_accepted, fun handled => ?_⟩
  have fits := ((handled_getKeywordMetrics (checkPayload_of_parsed nullIntent_accepted) _ _ _).mp
    handled).resolve_left (by simp)
  have read : metricFits asciiPython (.obj [("keyword", .str "roof repair"),
      ("search_intent_info", .null)]) = false := by decide +kernel
  have item := fits (.obj [("keyword", .str "roof repair"), ("search_intent_info", .null)])
    (List.mem_singleton.mpr rfl)
  rw [read] at item
  cases item

end RankRent.Evidence
