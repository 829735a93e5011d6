import RankRent.Library.PyFloat
import RankRent.Library.PyUrl
import RankRent.Library.Sha256
import RankRent.Research.Markets

/-!
# Text and values of the evidence

What the reading of provider responses takes from Python, and `slugify`. A `str`
is Unicode text: lone surrogates are left out.
-/

namespace RankRent.Evidence

/-- The Unicode tables of `str`, the address check of `urlparse` and
`datetime.fromisoformat`, where a naive time is in UTC. -/
structure Python where
  lower : String → String
  upper : String → String
  sha256 : String → String
  isPrintable : Char → Bool
  isAlnum : Char → Bool
  nfkc : String → String
  bracketed : String → Bool
  fromIsoFormat : String → Option DateTime

/-- A market with the fields that name its places. -/
structure Market extends Research.Market where
  id : String
  type : String
  state : Option String
  cities : List String

section
variable (python : Python)

/-- `urlparse(url).netloc`; `none` is its `ValueError`. -/
def Python.netloc? (url : String) : Option String :=
  PyUrl.netloc? python.nfkc python.bracketed url

/-- Python as the requests of a scan take it: no URL is refused. -/
def Python.runtime : Research.Runtime where
  lower := python.lower
  upper := python.upper
  netloc url := (python.netloc? url).getD ""
  sha256 := python.sha256

/-- `slugify`: the runs of letters and digits, in lower case. -/
def slugify (value : String) : String :=
  let chars := (PyString.strip value).toList.flatMap fun c =>
    if python.isAlnum c then (python.lower c.toString).toList else ['-']
  String.intercalate "-"
    (((chars.splitOnP (· = '-')).filter fun run => !run.isEmpty).map String.ofList)

/-- `slugify(value).split("-")`. -/
def slugTokens (value : String) : List String :=
  ((slugify python value).toList.splitOnP (· = '-')).map String.ofList

/-- `slugify(value).replace("-", " ")`. -/
def spaced (value : String) : String :=
  String.ofList ((slugify python value).toList.map fun c => if c = '-' then ' ' else c)

/-- `_normalize_keyword`. -/
def normalizeKeyword (value : String) : String :=
  String.intercalate " " (PyString.words (spaced python value))

end

/-- Python on ASCII text, without its dates. -/
def asciiPython : Python where
  lower := String.toLower
  upper := String.toUpper
  sha256 := Sha256.hexdigest
  isPrintable c := 32 ≤ c.toNat && c.toNat ≤ 126
  isAlnum := Char.isAlphanum
  nfkc := id
  bracketed _ := true
  fromIsoFormat _ := none

example : normalizeKeyword asciiPython "  Roof--Repair (near me)" = "roof repair near me" := by
  decide +kernel

end RankRent.Evidence
