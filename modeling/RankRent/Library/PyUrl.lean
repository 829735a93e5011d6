import RankRent.Library.PyString

/-!
# The network location of a URL

`urlsplit(url).netloc`. What it takes from the tables of Unicode and of IP
addresses is given: `nfkc` is `unicodedata.normalize("NFKC", _)`, and `bracketed`
holds of the locations with brackets that it accepts.
-/

namespace PyUrl

/-- The characters of a URL after its scheme. -/
def withoutScheme (url : List Char) : List Char :=
  let schemeChar (c : Char) : Bool := c.isAlphanum || c = '+' || c = '-' || c = '.'
  match url.span (· ≠ ':') with
  | (first :: scheme, ':' :: rest) =>
    if first.isAlpha ∧ scheme.all schemeChar then rest else url
  | _ => url

/-- The part `urlsplit` takes for the network location. -/
def authority (url : String) : List Char :=
  let kept := (url.toList.dropWhile fun c => c.toNat ≤ 32).filter fun c => c ∉ ['\t', '\r', '\n']
  match withoutScheme kept with
  | '/' :: '/' :: rest => rest.takeWhile fun c => c ∉ ['/', '?', '#']
  | _ => []

section
variable (nfkc : String → String) (bracketed : String → Bool)

/-- The checks of `urlsplit` on the location. -/
def allowed (netloc : List Char) : Bool :=
  (('[' ∈ netloc) == (']' ∈ netloc)) &&
    (('[' ∉ netloc) || bracketed (String.ofList netloc)) &&
    (netloc.all (fun c => c.toNat < 128) ||
      let bare := String.ofList (netloc.filter fun c => c ∉ ['@', ':', '#', '?'])
      nfkc bare == bare || (nfkc bare).toList.all fun c => c ∉ ['/', '?', '#', '@', ':'])

/-- `urlparse(url).netloc`; `none` is its `ValueError`. -/
def netloc? (url : String) : Option String :=
  if allowed nfkc bracketed (authority url) then some (String.ofList (authority url)) else none

end

example : netloc? id (fun _ => true) "https://Acme.example:8443/roofing?x=1" =
    some "Acme.example:8443" := by decide +kernel

end PyUrl
