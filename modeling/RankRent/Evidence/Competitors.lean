import Mathlib.Data.List.MinMax
import Mathlib.Data.Prod.Lex
import RankRent.Evidence.Normalisers
import RankRent.Library.PyDict

/-!
# Competitors of the results pages

`services/competitors.py`: the observations of each domain, the URLs that get a
backlinks summary, and what the metrics of these take back from the observations.
The relevance of a competitor and its page type are left out.
-/

namespace RankRent.Evidence

/-- `CompetitorSerpObservation`. -/
structure Observation where
  query : String
  position : ℤ
  url : String
  observedAt : DateTime
  deriving DecidableEq

/-- The order of the sort keys. -/
instance keyPreorder : Preorder (ℤ ×ₗ String ×ₗ String) :=
  (Prod.Lex.instLinearOrder ℤ (String ×ₗ String)).toPreorder

/-- `_observation_sort_key`. -/
def Observation.key (o : Observation) : ℤ ×ₗ String ×ₗ String :=
  toLex (o.position, toLex (o.query, o.url))

/-- The domains with their observations, in insertion order. -/
abbrev Grouped := List (String × List Observation)

/-- A competitor with the evidence `enrich_competitors` joins to it. -/
structure EnrichedCompetitor extends CompetitorMetric where
  representativeQuery : Option String
  serpPosition : Option ℤ
  serpObservations : List Observation

/-- `sort(key=_observation_sort_key)`. -/
def sortObservations (observations : List Observation) : List Observation :=
  observations.mergeSort fun a b => decide (a.key ≤ b.key)

/-- `values[:limit]`. -/
def upTo {α : Type} (limit : ℤ) (values : List α) : List α :=
  if 0 ≤ limit then values.take limit.toNat else values.take (values.length - limit.natAbs)

section
variable (python : Python)

/-- `_normalize_domain`. -/
def normalizeDomain (domain : String) : String :=
  PyString.strip (PyString.removePrefix "www." (python.lower domain))

/-- `_normalize_domain(domain or urlparse(url).netloc)`. -/
def joinDomain (domain url : String) : Except WorkerError String :=
  (if domain = "" then parsedNetloc python url else .ok domain).map (normalizeDomain python)

/-- The keys `seen` and the groups of `_serp_observations_by_domain`. -/
structure Collected where
  seen : List (String × String × ℤ × String)
  byDomain : Grouped

/-- One round of its loop, over a result of a snapshot. -/
def collect (state : Collected) (row : SerpSnapshot × SerpResult) : Except WorkerError Collected :=
  let (snapshot, result) := row
  if result.resultType ≠ "organic" then .ok state
  else (joinDomain python result.domain result.url).bind fun domain =>
    let key := (domain, snapshot.query, result.order, result.url)
    if domain = "" ∨ key ∈ state.seen then .ok state
    else if result.order < 1 then
      .error ⟨.valueError, "Input should be greater than or equal to 1"⟩
    else .ok ⟨key :: state.seen, PyDict.appendTo state.byDomain domain
      ⟨snapshot.query, result.order, result.url, snapshot.capturedAt⟩⟩

/-- `_serp_observations_by_domain`. -/
def serpObservationsByDomain (snapshots : List SerpSnapshot) : Except WorkerError Grouped :=
  let rows := snapshots.flatMap fun snapshot => snapshot.results.map fun result => (snapshot, result)
  (rows.foldlM (collect python) ⟨[], []⟩).map fun state =>
    state.byDomain.map fun group => (group.1, sortObservations group.2)

/-- `select_competitor_urls`. -/
def selectCompetitorUrls (snapshots : List SerpSnapshot) (limit : ℤ) :
    Except WorkerError (List String) :=
  (serpObservationsByDomain python snapshots).map fun byDomain =>
    let representatives := byDomain.filterMap fun group => group.2.argmin Observation.key
    (upTo limit (sortObservations representatives)).map Observation.url

/-- `enrich_competitors` of one competitor. -/
def enrich (byDomain : Grouped) (domain : String) (competitor : CompetitorMetric) : EnrichedCompetitor :=
  let observations := (byDomain.lookup domain).getD []
  let representative := observations.argmin Observation.key
  { competitor with
    representativeQuery := representative.map Observation.query
    serpPosition := representative.map Observation.position
    serpObservations := observations }

/-- The loop of `enrich_competitors` after the domains in `seen`. -/
def enrichAfter (byDomain : Grouped) (seen : List String) :
    List CompetitorMetric → Except WorkerError (List EnrichedCompetitor)
  | [] => .ok []
  | competitor :: rest => (joinDomain python competitor.domain competitor.url).bind fun domain =>
    if domain = "" ∨ domain ∈ seen then enrichAfter byDomain seen rest
    else (enrichAfter byDomain (domain :: seen) rest).map (enrich byDomain domain competitor :: ·)

/-- `enrich_competitors`. -/
def enrichCompetitors (competitors : List CompetitorMetric) (snapshots : List SerpSnapshot) :
    Except WorkerError (List EnrichedCompetitor) :=
  (serpObservationsByDomain python snapshots).bind fun byDomain =>
    enrichAfter python byDomain [] competitors

end

end RankRent.Evidence
