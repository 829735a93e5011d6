import RankRent.Catalog.Services
import RankRent.Library.Casefold
import RankRent.Library.Html
import RankRent.Library.PyRepr
import RankRent.Properties.Rows

/-!
# Building a site

`SiteConfigInput` of `property_workflow/models.py` with its validators, and
`build_static_site` of `property_workflow/builder.py`. A page is the pieces of its
f-string. The name of the output directory, the manifest and the checksum are left out.
-/

namespace RankRent.Properties.Builder
open Catalog (FieldError)
open Checks

/-- A `dict[str, Any]`. -/
abbrev AnyDict : Type := List (String × PyJson)

/-- `SiteConfigInput`. -/
structure SiteConfigInput where
  brand : AnyDict
  service : AnyDict
  market : AnyDict
  pricingGuidance : AnyDict
  serviceProcess : List AnyDict
  faqs : List (List (String × String))
  localConsiderations : List AnyDict
  providerDetails : AnyDict := []
  referralDisclosure : String
  callsToAction : List AnyDict
  assetIds : List ℤ := []
  metadata : AnyDict
  analytics : AnyDict := []
  formRouting : AnyDict := []
  changeReason : String

/-- `model_dump`. -/
def SiteConfigInput.dumped (c : SiteConfigInput) : PyJson :=
  .obj
    [("brand", .obj c.brand),
     ("service", .obj c.service),
     ("market", .obj c.market),
     ("pricing_guidance", .obj c.pricingGuidance),
     ("service_process", .arr (c.serviceProcess.map .obj)),
     ("faqs", .arr (c.faqs.map fun faq => .obj (faq.map fun item => (item.1, .str item.2)))),
     ("local_considerations", .arr (c.localConsiderations.map .obj)),
     ("provider_details", .obj c.providerDetails),
     ("referral_disclosure", .str c.referralDisclosure),
     ("calls_to_action", .arr (c.callsToAction.map .obj)),
     ("asset_ids", .arr (c.assetIds.map .num)),
     ("metadata", .obj c.metadata),
     ("analytics", .obj c.analytics),
     ("form_routing", .obj c.formRouting),
     ("change_reason", .str c.changeReason)]

/-- What is taken from Python: which characters `repr` leaves, and `str.lower`. -/
structure TextRules where
  isPrintable : Char → Bool
  lower : String → String

section
variable (rules : TextRules)

/-- `str(fields.get(key, default))`. -/
def getText (fields : AnyDict) (key default : String) : String :=
  (fields.lookup key).elim default (PyJson.text rules.isPrintable)

/-! ## The validators -/

/-- `validate_disclosure`. -/
def validateDisclosure (value : String) : Except FieldError String := do
  let normalized := PyString.spaced value
  let lowered := rules.lower normalized
  require (PyString.contains lowered "referral" ∧ PyString.contains lowered "independent")
    ⟨"referral_disclosure", "The disclosure must clearly describe the independent referral relationship."⟩
  return normalized

/-- The texts that no configuration may contain. -/
def prohibited : List String :=
  ["\"@type\": \"localbusiness\"", "'@type': 'localbusiness'", "guaranteed ranking", "best contractor in"]

/-- `validate_content`; an error of the model has no field. -/
def SiteConfigInput.validateContent (c : SiteConfigInput) : Except FieldError Unit := do
  require (c.serviceProcess ≠ []) ⟨"", "At least one service-process step is required."⟩
  require (c.faqs ≠ []) ⟨"", "At least one FAQ is required."⟩
  require (c.callsToAction ≠ []) ⟨"", "At least one call to action is required."⟩
  require (PyString.strip (getText rules c.metadata "title" "") ≠ "" ∧
      PyString.strip (getText rules c.metadata "description" "") ≠ "")
    ⟨"", "Metadata title and description are required."⟩
  let serialized := rules.lower (c.dumped.text rules.isPrintable)
  require (∀ item ∈ prohibited, PyString.contains serialized item = false)
    ⟨"", "Site configuration contains an unsupported claim or identity."⟩

def lengthBetween (field text : String) (least most : Nat) : Except FieldError Unit := do
  require (least ≤ text.length) ⟨field, "String should have at least " ++ toString least ++ " characters"⟩
  require (text.length ≤ most) ⟨field, "String should have at most " ++ toString most ++ " characters"⟩

/-- `SiteConfigInput.model_validate` of fields of the declared types. -/
def SiteConfigInput.modelValidate (c : SiteConfigInput) : Except FieldError SiteConfigInput := do
  lengthBetween "referral_disclosure" c.referralDisclosure 40 2000
  let referralDisclosure ← validateDisclosure rules c.referralDisclosure
  lengthBetween "change_reason" c.changeReason 3 1000
  let validated := { c with referralDisclosure }
  validated.validateContent rules
  return validated

/-- The validators have accepted the configuration. -/
def SiteConfigInput.Accepted (c : SiteConfigInput) : Prop := ∃ raw : SiteConfigInput, raw.modelValidate rules = .ok c

end

/-! ## The pages -/

section
open Html

/-- The structured data of a page. -/
def structured (brand description serviceName marketName : String) : String :=
  PyJson.dumps (.obj
    [("@context", .str "https://schema.org"),
     ("@type", .str "WebSite"),
     ("name", .str brand),
     ("description", .str description),
     ("about", .obj
       [("@type", .str "Service"),
        ("name", .str serviceName),
        ("areaServed", .str marketName)])])

/-- `_page`. -/
def page (title description canonical : String) (body : List Piece)
    (brand disclosure robots serviceName marketName : String) : List Piece :=
  [.text ("<!doctype html>\n<html lang=\"en\">\n<head>\n  <meta charset=\"utf-8\">\n" ++
      "  <meta name=\"viewport\" content=\"width=device-width, initial-scale=1\">\n" ++
      "  <meta name=\"robots\" content=\""), .text robots,
    .text "\">\n  <title>", .value title,
    .text "</title>\n  <meta name=\"description\" content=\"", .value description,
    .text "\">\n  <link rel=\"canonical\" href=\"", .value canonical,
    .text ("\">\n  <meta property=\"og:type\" content=\"website\">\n" ++
      "  <meta property=\"og:title\" content=\""), .value title,
    .text "\">\n  <meta property=\"og:description\" content=\"", .value description,
    .text "\">\n  <meta property=\"og:url\" content=\"", .value canonical,
    .text ("\">\n  <link rel=\"stylesheet\" href=\"/assets/site.css\">\n" ++
      "  <script type=\"application/ld+json\">"),
    .script (structured brand description serviceName marketName),
    .text ("\n</head>\n<body>\n  <header><nav aria-label=\"Primary\"><a class=\"brand\" href=\"/\">"),
    .value brand,
    .text ("</a>\n    <a href=\"/services.html\">Services</a><a href=\"/faq.html\">FAQ</a>\n" ++
      "    <a href=\"/contact.html\">Contact</a></nav></header>\n  <main>")] ++ body ++
  [.text "</main>\n  <footer><strong>Referral disclosure</strong><p>", .value disclosure,
    .text ("</p>\n    <nav aria-label=\"Legal\"><a href=\"/privacy.html\">Privacy</a>\n" ++
      "    <a href=\"/terms.html\">Terms</a></nav></footer>\n</body>\n</html>\n")]

/-- A panel of a grid. -/
def panel (title text : String) : List Piece :=
  [.text "<article class=\"panel\"><h2>", .value title, .text "</h2><p>", .value text, .text "</p></article>"]

end

inductive BuildError
  | keyError (key : String)
  | indexError

/-- `STYLE`. -/
def style : String :=
  ":root\x7b--ink:#17211d;--muted:#55635d;--line:#d8dfdc;--brand:#11645a;--accent:#d3543c;" ++
  "--wash:#f2f7f5\x7d\n" ++
  "*\x7bbox-sizing:border-box\x7dbody\x7bmargin:0;color:var(--ink);font-family:system-ui,sans-serif;" ++
  "line-height:1.6\x7d\n" ++
  "a\x7bcolor:var(--brand)\x7dheader\x7bborder-bottom:1px solid var(--line)\x7dnav\x7bdisplay:flex;" ++
  "gap:1.25rem;align-items:center;max-width:70rem;margin:auto;" ++
  "padding:1rem\x7d.brand\x7bmargin-right:auto;font-weight:750\x7d\n" ++
  "main\x7bmax-width:70rem;margin:auto;" ++
  "padding:clamp(2rem,7vw,5rem) 1rem\x7dh1\x7bfont-size:clamp(2rem,5vw,4.5rem);line-height:1.05;" ++
  "max-width:15ch\x7dh2\x7bmargin-top:2rem\x7d.lead\x7bfont-size:1.2rem;color:var(--muted);" ++
  "max-width:48rem\x7d\n" ++
  ".grid\x7bdisplay:grid;grid-template-columns:repeat(auto-fit,minmax(14rem,1fr));" ++
  "gap:1rem\x7d.panel\x7bborder:1px solid var(--line);border-radius:8px;padding:1.25rem;" ++
  "background:#fff\x7d.cta\x7bdisplay:inline-block;background:var(--brand);color:#fff;" ++
  "padding:.7rem 1rem;border-radius:6px\x7d\n" ++
  "footer\x7bbackground:var(--wash);border-top:3px solid var(--accent);" ++
  "padding:1.5rem max(1rem,calc((100% - 68rem)/2))\x7dfooter nav\x7bpadding:0;margin:0\x7d\n" ++
  "label\x7bdisplay:block;margin:.7rem 0\x7d.field\x7bdisplay:block;width:100%;max-width:35rem;" ++
  "padding:.7rem;border:1px solid var(--line)\x7d\n" ++
  "@media(max-width:34rem)\x7bheader nav\x7balign-items:flex-start;" ++
  "flex-direction:column\x7d.brand\x7bmargin-right:0\x7d\x7d\n"

/-- `assets/provider.js`. -/
def providerScript : String :=
  "fetch(\"/provider-config.json\").then((response)=>response.ok?response.json():null).then((pr" ++
  "ovider)=>\x7b\n" ++
  "  if(!provider||!provider.public_business_name)return;" ++
  "const root=document.querySelector(\"[data-active-provider]\");\n" ++
  "  if(!root)return;root.hidden=false;" ++
  "root.querySelector(\"strong\").textContent=provider.public_business_name;\n" ++
  "\x7d).catch(()=>\x7b\x7d);\n"

section
open Html
variable (rules : TextRules)

/-- `base_url`. -/
def baseUrl : Option String → String
  | none => "https://preview.invalid"
  | some domain => if domain = "" then "https://preview.invalid" else "https://" ++ domain

/-- `route`. -/
def route (filename : String) : String := if filename = "index.html" then "/" else "/" ++ filename

/-- What `build_static_site` reads of a configuration. -/
structure SiteTexts where
  brand : String
  serviceName : String
  marketName : String
  disclosure : String
  title : String
  description : String
  summary : String
  action : String
  process : List Piece
  considerations : List Piece
  faq : List Piece

/-- `faq`; its keys have no defaults. -/
def faqPanel (item : List (String × String)) : Except BuildError (List Piece) := do
  let question ← found (item.lookup "question") (.keyError "question")
  let answer ← found (item.lookup "answer") (.keyError "answer")
  return panel question answer

/-- The texts of a configuration. -/
def SiteConfigInput.texts (c : SiteConfigInput) : Except BuildError SiteTexts := do
  let description ← found (c.metadata.lookup "description") (.keyError "description")
  let action ← found c.callsToAction.head? .indexError
  let faq ← c.faqs.mapM faqPanel
  let title ← found (c.metadata.lookup "title") (.keyError "title")
  return {
    brand := PyString.strip (getText rules c.brand "name" "")
    serviceName := PyString.strip (getText rules c.service "name" "")
    marketName := PyString.strip (getText rules c.market "name" "")
    disclosure := c.referralDisclosure
    title := title.text rules.isPrintable
    description := description.text rules.isPrintable
    summary := getText rules c.service "summary" "Service information and request intake."
    action := getText rules action "label" "Request help"
    process := c.serviceProcess.flatMap fun item =>
      panel (getText rules item "title" "Step") (getText rules item "description" "")
    considerations := c.localConsiderations.flatMap fun item =>
      panel (getText rules item "title" "Local note") (getText rules item "description" "")
    faq := faq.flatten }

/-- `pages`: each with its title and its body. -/
def SiteTexts.pages (t : SiteTexts) : List (String × String × List Piece) :=
  [("index.html", t.title,
      [.text "<h1>", .value t.brand,
        .text "</h1><p class=\"lead\">Independent information and referral support for ", .value t.serviceName,
        .text " in ", .value t.marketName, .text ".</p><a class=\"cta\" href=\"/contact.html\">", .value t.action,
        .text ("</a><section class=\"panel\" data-active-provider hidden><h2>Current independent " ++
          "provider</h2><strong></strong></section><section class=\"grid\">")] ++ t.considerations ++
      [.text "</section><script src=\"/assets/provider.js\" defer></script>"]),
   ("services.html", t.serviceName ++ " | " ++ t.brand,
      [.text "<h1>", .value t.serviceName, .text "</h1><p class=\"lead\">", .value t.summary,
        .text "</p><section class=\"grid\">"] ++ t.process ++ [.text "</section>"]),
   ("faq.html", "Questions | " ++ t.brand,
      [.text "<h1>Common questions</h1><section class=\"grid\">"] ++ t.faq ++ [.text "</section>"]),
   ("contact.html", "Request help | " ++ t.brand,
      [.text ("<h1>Request help</h1><p class=\"lead\">Requests are reviewed before they may be " ++
        "shared with an independent provider.</p><form><label>Name<input class=\"field\" " ++
        "name=\"name\" autocomplete=\"name\"></label><label>Contact information<input " ++
        "class=\"field\" name=\"contact\"></label><label>Request<textarea class=\"field\" " ++
        "name=\"message\" rows=\"5\"></textarea></label></form>")]),
   ("privacy.html", "Privacy | " ++ t.brand,
      [.text ("<h1>Privacy</h1><p>Only information needed to review and route a request should be " ++
        "submitted.</p>")]),
   ("terms.html", "Terms | " ++ t.brand,
      [.text ("<h1>Terms</h1><p>This property provides information and referral intake. " ++
        "Providers remain responsible for their own estimates, work, credentials, and agreements.</p>")])]

/-- `robots_meta`. -/
def robotsMeta (environment : BuildEnvironment) : String :=
  if environment = .production then "index,follow" else "noindex,nofollow"

/-- The pages with what `_page` puts around their bodies. -/
def SiteTexts.documents (t : SiteTexts) (domain : Option String) (environment : BuildEnvironment) :
    List (String × List Piece) :=
  t.pages.map fun (filename, title, body) =>
    (filename, page title t.description (baseUrl domain ++ route filename) body t.brand t.disclosure
      (robotsMeta environment) t.serviceName t.marketName)

/-- `sorted(pages)`. -/
def sortedPages : List String :=
  ["contact.html", "faq.html", "index.html", "privacy.html", "services.html", "terms.html"]

/-- `sitemap.xml`. -/
def sitemap (domain : Option String) : String :=
  "<?xml version=\"1.0\" encoding=\"UTF-8\"?><urlset xmlns=\"http://www.sitemaps.org/schemas/sitemap/0.9\">" ++
    String.join (sortedPages.map fun name => "<url><loc>" ++ baseUrl domain ++ route name ++ "</loc></url>") ++
    "</urlset>"

/-- `robots.txt`. -/
def robotsText (domain : Option String) (environment : BuildEnvironment) : String :=
  if environment = .production then "User-agent: *\nAllow: /\nSitemap: " ++ baseUrl domain ++ "/sitemap.xml\n"
  else "User-agent: *\nDisallow: /\n"

/-- The files of `build_static_site`, by their names in the output directory. -/
def buildStaticSite (c : SiteConfigInput) (assetProvenance : PyJson) (domain : Option String)
    (environment : BuildEnvironment) : Except BuildError (List (String × String)) := do
  let texts ← c.texts rules
  return [("assets/site.css", style), ("assets/provider.js", providerScript)] ++
    (texts.documents domain environment).map (fun (filename, pieces) => (filename, render pieces)) ++
    [("sitemap.xml", sitemap domain), ("robots.txt", robotsText domain environment),
     ("asset-provenance.json", assetProvenance.dumps)]

end

end RankRent.Properties.Builder
