import RankRent.Properties.SiteBuilder

/-!
# The markup of a site

The tags of the pages that `build_static_site` makes, whatever the texts of the
configuration are: values are escaped, but the structured data of a page is a script
that only `json.dumps` has encoded.
-/

namespace RankRent.Properties.Builder
open Checks Html

/-! ## The structured data -/

/-- The structured data, cut at its texts. -/
theorem toList_structured (brand description serviceName marketName : String) :
    (structured brand description serviceName marketName).toList =
      ("\x7b\"@context\":\"https://schema.org\",\"@type\":\"WebSite\",\"about\":" ++
        "\x7b\"@type\":\"Service\",\"areaServed\":").toList ++ PyJson.quoteChars marketName ++
      ",\"name\":".toList ++ PyJson.quoteChars serviceName ++
      "\x7d,\"description\":".toList ++ PyJson.quoteChars description ++
      ",\"name\":".toList ++ PyJson.quoteChars brand ++ "\x7d".toList := by
  rw [structured, PyJson.toList_dumps, PyJson.dumpsChars_obj (by simp)]
  simp only [PyJson.fieldsChars]
  rw [PyJson.dumpsChars_obj (by simp)]
  simp only [PyJson.fieldsChars, PyJson.dumpsChars, PyJson.objChars, List.insertionSort_cons, List.insertionSort_nil]
  simp +decide only [List.orderedInsert, if_false, if_true]
  simp only [List.map_cons, List.map_nil, List.intercalate, List.intersperse, List.flatten_cons, List.flatten_nil,
    List.append_assoc, List.cons_append, List.nil_append, List.append_nil]
  rfl

/-! ## The tags of a page -/

/-- An element in which there are no tags. -/
def element (name : String) (attributes : List String := []) : List Tag := [.start name attributes, .close name]

def headTags : List Tag :=
  List.flatten
    [[.start "html" ["lang"], .start "head" [], .start "meta" ["charset"], .start "meta" ["name", "content"],
        .start "meta" ["name", "content"]],
      element "title",
      [.start "meta" ["name", "content"], .start "link" ["rel", "href"], .start "meta" ["property", "content"],
        .start "meta" ["property", "content"], .start "meta" ["property", "content"],
        .start "meta" ["property", "content"], .start "link" ["rel", "href"]],
      element "script" ["type"],
      [.close "head", .start "body" [], .start "header" [], .start "nav" ["aria-label"]],
      element "a" ["class", "href"], element "a" ["href"], element "a" ["href"], element "a" ["href"],
      [.close "nav", .close "header", .start "main" []]]

def footTags : List Tag :=
  List.flatten
    [[.close "main", .start "footer" []], element "strong", element "p", [.start "nav" ["aria-label"]],
      element "a" ["href"], element "a" ["href"],
      [.close "nav", .close "footer", .close "body", .close "html"]]

def panelTags : List Tag :=
  List.flatten [[.start "article" ["class"]], element "h2", element "p", [.close "article"]]

/-- The tags of so many panels. -/
def panelsTags (count : Nat) : List Tag := (List.replicate count panelTags).flatten

/-- The tags before the structured data, its start tag the last of them. -/
def startTags : List Tag := headTags.takeWhile fun tag => tag ≠ .close "script"

/-- The tags between the structured data and the body of a page. -/
def neckTags : List Tag := (headTags.dropWhile fun tag => tag ≠ .close "script").tail

theorem headTags_cut : headTags = startTags ++ .close "script" :: neckTags := by decide

theorem robotsMeta_known (environment : BuildEnvironment) :
    robotsMeta environment ∈ ["index,follow", "noindex,nofollow"] := by
  rw [robotsMeta]
  split <;> simp

section Page
variable (title description canonical brand disclosure serviceName marketName : String) (body : List Piece)

/-- What of a page stands before its structured data. -/
def pageStart (robots : String) : List Piece :=
  (page title description canonical body brand disclosure robots serviceName marketName).take 15

/-- What of a page stands after its structured data. -/
def pageRest (robots : String) : List Piece :=
  (page title description canonical body brand disclosure robots serviceName marketName).drop 16

theorem page_cut (robots : String) :
    page title description canonical body brand disclosure robots serviceName marketName =
      pageStart title description canonical brand disclosure serviceName marketName body robots ++
        .script (structured brand description serviceName marketName) ::
          pageRest title description canonical brand disclosure serviceName marketName body robots := rfl

theorem skeleton_pageStart {robots : String} (known : robots ∈ ["index,follow", "noindex,nofollow"]) :
    skeleton .data (pageStart title description canonical brand disclosure serviceName marketName body robots) =
      some (.script .plain, startTags) := by
  simp only [List.mem_cons, List.not_mem_nil, or_false] at known
  obtain rfl | rfl := known
  · simp only [pageStart, page, List.cons_append, List.take_succ_cons, List.take_zero, skeleton,
      String.toList_append]
    repeat rw [String.toList_ofList]
    decide +kernel
  · simp only [pageStart, page, List.cons_append, List.take_succ_cons, List.take_zero, skeleton,
      String.toList_append]
    repeat rw [String.toList_ofList]
    decide +kernel

theorem skeleton_pageRest (robots : String) {found : List Tag} (inner : skeleton .data body = some (.data, found)) :
    skeleton .data (pageRest title description canonical brand disclosure serviceName marketName body robots) =
      some (.data, neckTags ++ found ++ footTags) := by
  simp only [pageRest, page, List.cons_append, List.nil_append, List.drop_succ_cons, List.drop_zero]
  refine skeleton_data (@skeleton_data [_, _, _] body _ _ ?_ inner) ?_
  · simp only [skeleton, String.toList_append]
    repeat rw [String.toList_ofList]
    decide +kernel
  · simp only [skeleton, String.toList_append]
    repeat rw [String.toList_ofList]
    decide +kernel

/-- The structured data of a page, read from its start tag to the end tag after it. -/
def structuredRun (brand description serviceName marketName : String) : State × List Tag :=
  run (.script .plain) ((structured brand description serviceName marketName).toList ++ "</script>".toList)

/-- The tags of a page, cut at its structured data. -/
theorem tags_page {robots : String} (known : robots ∈ ["index,follow", "noindex,nofollow"]) :
    tags (render (page title description canonical body brand disclosure robots serviceName marketName)) =
      startTags ++ ((structuredRun brand description serviceName marketName).2 ++
        (run (structuredRun brand description serviceName marketName).1
          (render (pageRest title description canonical brand disclosure serviceName marketName body robots)).toList).2) := by
  have start := run_render (skeleton_pageStart title description canonical brand disclosure serviceName marketName body
    known)
  rw [tags, page_cut, toList_render_append, run_append, start, toList_render_cons, Piece.render, String.toList_append,
    run_append, structuredRun]

end Page

theorem skeleton_panel (title text : String) : skeleton .data (panel title text) = some (.data, panelTags) := by
  simp only [panel, skeleton]
  repeat rw [String.toList_ofList]
  decide +kernel

theorem skeleton_panels {α : Type} (items : List α) (title text : α → String) :
    skeleton .data (items.flatMap fun item => panel (title item) (text item)) =
      some (.data, panelsTags items.length) := by
  induction items with
  | nil => rfl
  | cons item items ih =>
    rw [List.flatMap_cons]
    exact skeleton_data (skeleton_panel _ _) ih

/-- The FAQ is a panel for each of its items. -/
theorem skeleton_faq {faqs : List (List (String × String))} {panels : List (List Piece)}
    (done : faqs.mapM faqPanel = .ok panels) :
    skeleton .data panels.flatten = some (.data, panelsTags faqs.length) := by
  induction faqs generalizing panels with
  | nil =>
    cases done
    rfl
  | cons item faqs ih =>
    rw [List.mapM_cons, bind_ok] at done
    obtain ⟨first, made, done⟩ := done
    simp only [bind_ok, pure_ok] at done
    obtain ⟨rest, others, rfl⟩ := done
    simp only [faqPanel, bind_ok, pure_ok] at made
    obtain ⟨question, -, answer, -, rfl⟩ := made
    rw [List.flatten_cons]
    exact skeleton_data (skeleton_panel _ _) (ih others)

/-- The tags of the bodies, for the numbers of steps, of questions and of local notes. -/
def bodyTags (steps questions notes : Nat) : List (String × List Tag) :=
  [("index.html",
      List.flatten [element "h1", element "p" ["class"], element "a" ["class", "href"],
        [.start "section" ["class", "data-active-provider", "hidden"]], element "h2", element "strong",
        [.close "section", .start "section" ["class"]]] ++
      panelsTags notes ++ List.flatten [[.close "section"], element "script" ["src", "defer"]]),
   ("services.html",
      List.flatten [element "h1", element "p" ["class"], [.start "section" ["class"]]] ++
      panelsTags steps ++ [.close "section"]),
   ("faq.html",
      List.flatten [element "h1", [.start "section" ["class"]]] ++ panelsTags questions ++ [.close "section"]),
   ("contact.html",
      List.flatten [element "h1", element "p" ["class"],
        [.start "form" [], .start "label" [], .start "input" ["class", "name", "autocomplete"], .close "label",
          .start "label" [], .start "input" ["class", "name"], .close "label", .start "label" []],
        element "textarea" ["class", "name", "rows"], [.close "label", .close "form"]]),
   ("privacy.html", element "h1" ++ element "p"),
   ("terms.html", element "h1" ++ element "p")]

/-- The tags of the pages. -/
def siteTags (steps questions notes : Nat) : List (String × List Tag) :=
  (bodyTags steps questions notes).map fun (name, tags) => (name, headTags ++ tags ++ footTags)

/-- The bodies of the pages have their tags. -/
theorem skeleton_pages {t : SiteTexts} {steps questions notes : Nat}
    (process : skeleton .data t.process = some (.data, panelsTags steps))
    (faq : skeleton .data t.faq = some (.data, panelsTags questions))
    (considerations : skeleton .data t.considerations = some (.data, panelsTags notes)) :
    (t.pages.map fun (name, _, body) => (name, skeleton .data body)) =
      (bodyTags steps questions notes).map fun (name, tags) => (name, some (.data, tags)) := by
  simp only [SiteTexts.pages, bodyTags, List.map_cons, List.map_nil, List.cons.injEq, Prod.mk.injEq, true_and, and_true]
  constructorm* _ ∧ _
  · refine skeleton_data (skeleton_data ?_ considerations) ?_
    · simp only [skeleton, String.toList_append]
      repeat rw [String.toList_ofList]
      decide +kernel
    · simp only [skeleton]
      rw [String.toList_ofList]
      decide +kernel
  · refine skeleton_data (skeleton_data ?_ process) ?_
    · simp only [skeleton]
      repeat rw [String.toList_ofList]
      decide +kernel
    · decide +kernel
  · refine skeleton_data (skeleton_data ?_ faq) ?_ <;> decide +kernel
  · simp only [skeleton, String.toList_append]
    repeat rw [String.toList_ofList]
    decide +kernel
  · simp only [skeleton, String.toList_append]
    repeat rw [String.toList_ofList]
    decide +kernel
  · simp only [skeleton, String.toList_append]
    repeat rw [String.toList_ofList]
    decide +kernel

/-! ## What the tags say of the structured data -/

/-- The terms page. -/
def SiteTexts.terms (t : SiteTexts) (domain : Option String) (environment : BuildEnvironment) : List Piece :=
  page ("Terms | " ++ t.brand) t.description (baseUrl domain ++ route "terms.html")
    [.text ("<h1>Terms</h1><p>This property provides information and referral intake. " ++
      "Providers remain responsible for their own estimates, work, credentials, and agreements.</p>")]
    t.brand t.disclosure (robotsMeta environment) t.serviceName t.marketName

theorem SiteTexts.terms_listed (t : SiteTexts) (domain : Option String) (environment : BuildEnvironment) :
    ("terms.html", t.terms domain environment) ∈ t.documents domain environment := by
  simp only [SiteTexts.documents, SiteTexts.pages, SiteTexts.terms, List.map_cons, List.map_nil, List.mem_cons,
    true_or, or_true]

/-- The terms page after its structured data. -/
def SiteTexts.termsRest (t : SiteTexts) (domain : Option String) (environment : BuildEnvironment) : List Piece :=
  pageRest ("Terms | " ++ t.brand) t.description (baseUrl domain ++ route "terms.html") t.brand t.disclosure
    t.serviceName t.marketName
    [.text ("<h1>Terms</h1><p>This property provides information and referral intake. " ++
      "Providers remain responsible for their own estimates, work, credentials, and agreements.</p>")]
    (robotsMeta environment)

/-- The tags of the terms page after its structured data. -/
def termsTags : List Tag := neckTags ++ (element "h1" ++ element "p") ++ footTags

section
variable (t : SiteTexts) (domain : Option String) (environment : BuildEnvironment)

/-- Inside of what stays open the rest of the terms page has no tags. -/
theorem run_opened {s : State} (opened : s.opens = true) (raw : s.Raw) :
    (run s (render (t.termsRest domain environment)).toList).2 = [] := by
  have quiet : ∀ s ∈ (rawTexts.map fun name => .text name.toList) ++
      [.plaintext, .script .plain, .script .escaped, .script .double, .comment],
      silent s (t.termsRest domain environment) = true := by
    simp only [SiteTexts.termsRest, pageRest, page, List.cons_append, List.nil_append, List.drop_succ_cons,
      List.drop_zero, silent, beginsTag, String.toList_append]
    repeat rw [String.toList_ofList]
    decide +kernel
  cases s with
  | text element =>
    have named : element = (String.ofList element).toList := String.toList_ofList.symm
    rw [named]
    exact run_silent (quiet _ (List.mem_append_left _ (List.mem_map.mpr ⟨_, raw, rfl⟩)))
  | plaintext => exact run_silent (quiet _ (List.mem_append_right _ (by simp)))
  | comment => exact run_silent (quiet _ (List.mem_append_right _ (by simp)))
  | singleQuoted d =>
    have free : '\'' ∉ (render (t.termsRest domain environment)).toList := by
      apply not_mem_render
      simp only [SiteTexts.termsRest, pageRest, page, List.cons_append, List.nil_append, List.drop_succ_cons,
        List.drop_zero, List.forall_mem_cons, List.not_mem_nil, false_implies, implies_true, and_true, Piece.render,
        String.toList_append]
      repeat rw [String.toList_ofList]
      refine ⟨by decide +kernel, fun inside => (escape_clean inside).2.2.2 rfl, by decide +kernel, by decide +kernel,
        by decide +kernel, fun inside => (escape_clean inside).2.2.2 rfl, by decide +kernel⟩
    rw [run_stays fun c member => by
      have other : c ≠ '\'' := fun same => free (same ▸ member)
      simp only [step, other, if_false]]
  | script s =>
    cases s with
    | plain => exact run_silent (quiet _ (List.mem_append_right _ (by simp)))
    | escaped => exact run_silent (quiet _ (List.mem_append_right _ (by simp)))
    | double => exact run_silent (quiet _ (List.mem_append_right _ (by simp)))
    | _ => cases opened
  | _ => cases opened

/-- In a quoted value the rest of the terms page goes on with the attributes of its tag. -/
theorem run_quoted (d : Draft) :
    let named : Draft := { d with attributes := d.attributes ++ ["primary\"".toList] }
    ∃ more, (run (.doubleQuoted d) (render (t.termsRest domain environment)).toList).2 = named.tag :: more ∧
      (d.closes = true → more = termsTags.drop 4) := by
  intro named
  let value : String := "\n</head>\n<body>\n  <header><nav aria-label="
  let rest : List Piece := .text "<a class=\"brand\" href=\"/\">" :: (t.termsRest domain environment).tail
  have cut : (render (t.termsRest domain environment)).toList =
      value.toList ++ '"' :: ("Primary\">".toList ++ (render rest).toList) := by
    have first : t.termsRest domain environment =
        .text "\n</head>\n<body>\n  <header><nav aria-label=\"Primary\"><a class=\"brand\" href=\"/\">" ::
          (t.termsRest domain environment).tail := rfl
    rw [first, toList_render_cons, toList_render_cons]
    simp only [Piece.render, value]
    repeat rw [String.toList_ofList]
    rfl
  have inside : ∀ c ∈ value.toList, step (.doubleQuoted d) c = (.doubleQuoted d, none) := by
    have free : '"' ∉ value.toList := by decide +kernel
    intro c member
    have other : c ≠ '"' := fun same => free (same ▸ member)
    simp only [step, other, if_false]
  have read : run (.afterQuoted d) "Primary\">".toList = (named.emit.1, [named.tag]) := rfl
  refine ⟨(run named.emit.1 (render rest).toList).2, ?_, ?_⟩
  · rw [cut, run_append, run_stays inside, run_cons]
    simp only [step, if_true]
    rw [run_append, read]
    rfl
  · intro closes
    have data : named.emit.1 = .data := if_pos closes
    have tags : skeleton .data rest = some (.data, termsTags.drop 4) := by
      simp only [rest, SiteTexts.termsRest, pageRest, page, List.cons_append, List.nil_append, List.drop_succ_cons,
        List.drop_zero, List.tail_cons, skeleton, String.toList_append]
      repeat rw [String.toList_ofList]
      decide +kernel
    rw [data, run_render tags]

/-- The tags of the terms page tell that its structured data is closed, when another page
with the same data does not begin with all of them. -/
theorem structuredRun_closed {other more : List Tag}
    (terms : tags (render (t.terms domain environment)) = startTags ++ .close "script" :: termsTags)
    (others : (structuredRun t.brand t.description t.serviceName t.marketName).2 ++ more = .close "script" :: other)
    (differ : ¬ termsTags <+: other) :
    structuredRun t.brand t.description t.serviceName t.marketName = (.data, [.close "script"]) := by
  let ran := structuredRun t.brand t.description t.serviceName t.marketName
  have known := robotsMeta_known environment
  have whole : ran.2 ++ (run ran.1 (render (t.termsRest domain environment)).toList).2 = .close "script" :: termsTags := by
    rw [SiteTexts.terms, tags_page _ _ _ _ _ _ _ _ known] at terms
    exact List.append_cancel_left terms
  have raw : ran.1.Raw := raw_run (s := .script .plain) trivial _
  have after : ran.1.AfterGreater := by
    have last : "</script>".toList = "</script".toList ++ ['>'] := by decide
    show (structuredRun _ _ _ _).1.AfterGreater
    rw [structuredRun, last, ← List.append_assoc, run_append]
    exact after_step _
  obtain data | opened | ⟨d, quoted⟩ := after
  · have shape : skeleton .data (t.termsRest domain environment) = some (.data, termsTags) := by
      apply skeleton_pageRest
      simp only [skeleton, String.toList_append]
      repeat rw [String.toList_ofList]
      decide +kernel
    rw [data, run_render shape] at whole
    have found : ran.2 = [.close "script"] := List.append_cancel_right whole
    exact Prod.ext data found
  · rw [run_opened t domain environment opened raw, List.append_nil] at whole
    have longer : ran.2 ++ more = .close "script" :: other := others
    rw [whole, List.cons_append] at longer
    exact absurd ⟨more, List.tail_eq_of_cons_eq longer⟩ differ
  · obtain ⟨rest, reads, ends⟩ := run_quoted t domain environment d
    rw [quoted, reads] at whole
    by_cases closes : d.closes = true
    · have split : Tag.close "script" :: termsTags =
          [.close "script", .close "head", .start "body" [], .start "header" []] ++
            .start "nav" ["aria-label"] :: termsTags.drop 4 := by decide
      rw [ends closes, split] at whole
      have last := List.append_inj_right' whole rfl
      have tag := List.head_eq_of_cons_eq last
      rw [Draft.tag, if_pos closes] at tag
      cases tag
    · have member : ∀ tag ∈ Tag.close "script" :: termsTags, ∀ name attributes, tag = .start name attributes →
          "primary\"" ∉ attributes := by
        have checked : (Tag.close "script" :: termsTags).all (fun tag =>
            tag.casesOn (fun _ attributes => decide ("primary\"" ∉ attributes)) fun _ => true) = true := by decide
        intro tag member name attributes same
        have holds := List.all_eq_true.mp checked tag member
        subst same
        exact of_decide_eq_true holds
      rw [← whole] at member
      apply absurd _ (member _ (List.mem_append_right _ List.mem_cons_self) _ _ (if_neg closes))
      simp

end

/-! ## Every build -/

/-- The structured data of the pages. -/
def SiteConfigInput.structuredText (rules : TextRules) (c : SiteConfigInput) : String :=
  structured (PyString.strip (getText rules c.brand "name" "")) (getText rules c.metadata "description" "")
    (PyString.strip (getText rules c.service "name" "")) (PyString.strip (getText rules c.market "name" ""))

/-- The brand, the description and the names of service and market, as `json.dumps` writes
them, leave the script around them to its own end tag. -/
def SiteConfigInput.StaysInScript (rules : TextRules) (c : SiteConfigInput) : Prop :=
  ClosesScript (c.structuredText rules).toList

instance (rules : TextRules) (c : SiteConfigInput) : Decidable (c.StaysInScript rules) :=
  inferInstanceAs (Decidable (ClosesScript _))

/-- A start tag of a script. -/
def isScript : Tag → Bool
  | .start name _ => name = "script"
  | .close _ => false

/-- The scripts of a page. -/
def pageScripts (filename : String) : List Tag :=
  if filename = "index.html" then [.start "script" ["type"], .start "script" ["src", "defer"]]
  else [.start "script" ["type"]]

theorem scripts_siteTags {steps questions notes : Nat} {filename : String} {found : List Tag}
    (member : (filename, found) ∈ siteTags steps questions notes) : found.filter isScript = pageScripts filename := by
  have panels (count : Nat) : (panelsTags count).filter isScript = [] := by
    rw [panelsTags, List.filter_flatten, List.map_replicate, show panelTags.filter isScript = [] by decide]
    simp
  obtain ⟨⟨name, tags⟩, inside, same⟩ := List.mem_map.mp member
  cases same
  have head : headTags.filter isScript = [.start "script" ["type"]] := by decide
  have foot : footTags.filter isScript = [] := by decide
  rw [List.filter_append, List.filter_append, head, foot, List.append_nil]
  simp only [bodyTags, List.mem_cons, List.not_mem_nil, or_false, Prod.mk.injEq] at inside
  obtain ⟨rfl, rfl⟩ | ⟨rfl, rfl⟩ | ⟨rfl, rfl⟩ | ⟨rfl, rfl⟩ | ⟨rfl, rfl⟩ | ⟨rfl, rfl⟩ := inside
  · simp only [List.filter_append, panels]
    decide
  · simp only [List.filter_append, panels]
    decide
  · simp only [List.filter_append, panels]
    decide
  · decide
  · decide
  · decide

theorem siteTags_unique {steps questions notes : Nat} {filename : String} {found other : List Tag}
    (member : (filename, found) ∈ siteTags steps questions notes)
    (member' : (filename, other) ∈ siteTags steps questions notes) : found = other := by
  have distinct : ((siteTags steps questions notes).map Prod.fst).Nodup := by
    have names : (siteTags steps questions notes).map Prod.fst =
        ["index.html", "services.html", "faq.html", "contact.html", "privacy.html", "terms.html"] := rfl
    rw [names]
    decide
  exact (PyDict.lookup_of_mem distinct member).symm.trans (PyDict.lookup_of_mem distinct member') |> Option.some.inj

section
variable {rules : TextRules} {c : SiteConfigInput} {provenance : PyJson} {domain : Option String}
  {environment : BuildEnvironment} {files : List (String × String)}

/-- The pieces of the texts of a configuration. -/
theorem SiteConfigInput.texts_ok {t : SiteTexts} (done : c.texts rules = .ok t) :
    structured t.brand t.description t.serviceName t.marketName = c.structuredText rules ∧
      skeleton .data t.process = some (.data, panelsTags c.serviceProcess.length) ∧
      skeleton .data t.faq = some (.data, panelsTags c.faqs.length) ∧
      skeleton .data t.considerations = some (.data, panelsTags c.localConsiderations.length) := by
  simp only [SiteConfigInput.texts, bind_ok, found_ok, pure_ok] at done
  obtain ⟨description, described, action, -, faq, panels, title, -, rfl⟩ := done
  refine ⟨?_, skeleton_panels _ _ _, skeleton_faq panels, skeleton_panels _ _ _⟩
  have described : getText rules c.metadata "description" "" = description.text rules.isPrintable := by
    rw [getText, described]
    rfl
  rw [SiteConfigInput.structuredText, described]

theorem SiteTexts.listed {t : SiteTexts} {filename title : String} {body : List Piece}
    (inside : (filename, title, body) ∈ t.pages) :
    (filename, page title t.description (baseUrl domain ++ route filename) body t.brand t.disclosure
      (robotsMeta environment) t.serviceName t.marketName) ∈ t.documents domain environment :=
  List.mem_map.mpr ⟨_, inside, rfl⟩

theorem SiteTexts.listed_of_sorted (t : SiteTexts) {filename : String} (html : filename ∈ sortedPages) :
    ∃ title body, (filename, title, body) ∈ t.pages := by
  have names : t.pages.map Prod.fst =
      ["index.html", "services.html", "faq.html", "contact.html", "privacy.html", "terms.html"] := rfl
  have known : ∀ name ∈ sortedPages,
      name ∈ ["index.html", "services.html", "faq.html", "contact.html", "privacy.html", "terms.html"] := by decide
  have named := known filename html
  rw [← names] at named
  obtain ⟨⟨name, title, body⟩, inside, rfl⟩ := List.mem_map.mp named
  exact ⟨title, body, inside⟩

/-- The files of the texts. -/
theorem buildStaticSite_texts {t : SiteTexts} (texts : c.texts rules = .ok t) (provenance : PyJson) {filename : String}
    {pieces : List Piece} (listed : (filename, pieces) ∈ t.documents domain environment) :
    ∃ files, buildStaticSite rules c provenance domain environment = .ok files ∧
      (filename, render pieces) ∈ files := by
  rw [buildStaticSite, texts]
  refine ⟨_, rfl, ?_⟩
  exact List.mem_append_left _ (List.mem_append_right _ (List.mem_map_of_mem listed))

/-- The pages of a build have the tags of the site. -/
theorem generated_tags (closed : c.StaysInScript rules)
    (built : buildStaticSite rules c provenance domain environment = .ok files) {filename text : String}
    (member : (filename, text) ∈ files) (html : filename ∈ sortedPages) :
    (filename, tags text) ∈ siteTags c.serviceProcess.length c.faqs.length c.localConsiderations.length := by
  simp only [buildStaticSite, bind_ok, pure_ok] at built
  obtain ⟨t, texts, rfl⟩ := built
  obtain ⟨named, process, faq, considerations⟩ := SiteConfigInput.texts_ok texts
  have apart : ∀ other ∈ ["assets/site.css", "assets/provider.js", "sitemap.xml", "robots.txt",
      "asset-provenance.json"], other ∉ sortedPages := by decide
  simp only [List.mem_append, List.mem_cons, List.not_mem_nil, or_false, Prod.mk.injEq] at member
  obtain ((⟨rfl, -⟩ | ⟨rfl, -⟩) | member) | ⟨rfl, -⟩ | ⟨rfl, -⟩ | ⟨rfl, -⟩ := member
  · exact absurd html (apart _ (by simp))
  · exact absurd html (apart _ (by simp))
  · obtain ⟨⟨name, pieces⟩, inside, same⟩ := List.mem_map.mp member
    obtain ⟨rfl, rfl⟩ := Prod.mk.inj same
    obtain ⟨⟨name, title, body⟩, inPages, same⟩ := List.mem_map.mp inside
    obtain ⟨rfl, rfl⟩ := Prod.mk.inj same
    have shapes := skeleton_pages process faq considerations
    have shape : (name, skeleton .data body) ∈ t.pages.map fun (name, _, body) => (name, skeleton .data body) :=
      List.mem_map_of_mem inPages
    rw [shapes] at shape
    obtain ⟨⟨other, found⟩, listed, same⟩ := List.mem_map.mp shape
    obtain ⟨rfl, inner⟩ := Prod.mk.inj same
    have robots := robotsMeta_known environment
    rw [SiteConfigInput.StaysInScript, ← named] at closed
    rw [tags_page _ _ _ _ _ _ _ _ robots, structuredRun, closed,
      run_render (skeleton_pageRest _ _ _ _ _ _ _ _ _ inner.symm)]
    have whole : startTags ++ ([.close "script"] ++ (neckTags ++ found ++ footTags)) = headTags ++ found ++ footTags := by
      rw [headTags_cut]
      simp only [List.append_assoc, List.cons_append, List.nil_append]
    rw [whole]
    exact List.mem_map_of_mem listed
  · exact absurd html (apart _ (by simp))
  · exact absurd html (apart _ (by simp))
  · exact absurd html (apart _ (by simp))

/-- A build has each of the pages. -/
theorem exists_page (built : buildStaticSite rules c provenance domain environment = .ok files) {filename : String}
    (html : filename ∈ sortedPages) : ∃ text, (filename, text) ∈ files := by
  have texts := built
  simp only [buildStaticSite, bind_ok, pure_ok] at texts
  obtain ⟨t, texts, -⟩ := texts
  obtain ⟨title, body, inside⟩ := t.listed_of_sorted html
  obtain ⟨others, made, member⟩ := buildStaticSite_texts texts provenance (SiteTexts.listed inside)
  cases built.symm.trans made
  exact ⟨_, member⟩

/-- Only closed structured data leaves the pages the tags of the site. -/
theorem closed_of_generated (built : buildStaticSite rules c provenance domain environment = .ok files)
    (each : ∀ filename ∈ sortedPages, ∀ text, (filename, text) ∈ files →
      (filename, tags text) ∈ siteTags c.serviceProcess.length c.faqs.length c.localConsiderations.length) :
    c.StaysInScript rules := by
  have texts := built
  simp only [buildStaticSite, bind_ok, pure_ok] at texts
  obtain ⟨t, texts, -⟩ := texts
  have named := (SiteConfigInput.texts_ok texts).1
  have shown {filename : String} {pieces : List Piece} {found : List Tag} (html : filename ∈ sortedPages)
      (listed : (filename, pieces) ∈ t.documents domain environment)
      (inBody : (filename, found) ∈ bodyTags c.serviceProcess.length c.faqs.length c.localConsiderations.length) :
      tags (render pieces) = startTags ++ .close "script" :: (neckTags ++ found ++ footTags) := by
    obtain ⟨others, made, member⟩ := buildStaticSite_texts texts provenance listed
    cases built.symm.trans made
    rw [siteTags_unique (each filename html _ member) (List.mem_map_of_mem inBody), headTags_cut]
    simp only [List.append_assoc, List.cons_append]
  have terms := shown (by decide) (t.terms_listed domain environment) (List.mem_of_getElem? (i := 5) rfl)
  obtain ⟨title, body, inside⟩ := @SiteTexts.listed_of_sorted t "contact.html" (by decide)
  have contact := shown (by decide) (SiteTexts.listed inside) (List.mem_of_getElem? (i := 3) rfl)
  rw [tags_page _ _ _ _ _ _ _ _ (robotsMeta_known environment)] at contact
  rw [SiteConfigInput.StaysInScript, ← named]
  exact structuredRun_closed t domain environment terms (List.append_cancel_left contact) (by decide)

end

/-! ## Samples -/

/-- The rules of texts in ASCII. -/
def asciiTexts : TextRules := ⟨fun _ => false, PyString.lower fun _ _ => false⟩

/-- A configuration with one step, one question and no local notes. -/
def sampleConfig (brand disclosure : String) : SiteConfigInput where
  brand := [("name", .str brand)]
  service := []
  market := []
  pricingGuidance := []
  serviceProcess := [[]]
  faqs := [[("question", "Who?"), ("answer", "We.")]]
  localConsiderations := []
  referralDisclosure := disclosure
  callsToAction := [[]]
  metadata := [("title", .str "Roofs"), ("description", .str "Roofs")]
  changeReason := "New"

def sampleDisclosure : String := "We are an independent referral site for roofs."

theorem sampleConfig_accepted {brand disclosure : String} (long : 40 ≤ disclosure.length ∧ disclosure.length ≤ 2000)
    (disclosed : validateDisclosure asciiTexts disclosure = .ok disclosure)
    (clean : ∀ item ∈ prohibited, ¬ item.toList <:+: PyString.lowerFrom (fun _ _ => false) []
      ((sampleConfig brand disclosure).dumped.reprChars asciiTexts.isPrintable)) :
    (sampleConfig brand disclosure).Accepted asciiTexts := by
  have serialized : ((sampleConfig brand disclosure).dumped.text asciiTexts.isPrintable).toList =
      (sampleConfig brand disclosure).dumped.reprChars asciiTexts.isPrintable :=
    PyJson.toList_repr asciiTexts.isPrintable _
  have lowered (s : String) : (asciiTexts.lower s).toList = PyString.lowerFrom (fun _ _ => false) [] s.toList :=
    String.toList_ofList
  have allowed : ∀ item ∈ prohibited, PyString.contains
      (asciiTexts.lower ((sampleConfig brand disclosure).dumped.text asciiTexts.isPrintable)) item = false := by
    intro item member
    apply decide_eq_false
    rw [lowered, serialized]
    exact clean item member
  have titled : ∀ key ∈ ["title", "description"], PyString.strip
      (getText asciiTexts [("title", .str "Roofs"), ("description", .str "Roofs")] key "") ≠ "" := by decide +kernel
  have reason : 3 ≤ "New".length ∧ "New".length ≤ 1000 := by decide
  refine ⟨sampleConfig brand disclosure, ?_⟩
  simp only [SiteConfigInput.modelValidate, lengthBetween, bind_ok, require_ok, pure_ok]
  refine ⟨(), ⟨(), long⟩, disclosure, disclosed, (), ⟨(), reason⟩, (), ?_, rfl⟩
  simp only [SiteConfigInput.validateContent, bind_ok, require_ok]
  exact ⟨(), by simp [sampleConfig], (), by simp [sampleConfig], (), by simp [sampleConfig], (),
    ⟨titled _ (by simp), titled _ (by simp)⟩, allowed⟩

/-- The texts of such a site. -/
def sampleTexts (brand disclosure : String) : SiteTexts where
  brand := PyString.strip brand
  serviceName := PyString.strip ""
  marketName := PyString.strip ""
  disclosure := disclosure
  title := "Roofs"
  description := "Roofs"
  summary := "Service information and request intake."
  action := "Request help"
  process := panel "Step" ""
  considerations := []
  faq := panel "Who?" "We."

theorem sampleConfig_texts (brand disclosure : String) :
    (sampleConfig brand disclosure).texts asciiTexts = .ok (sampleTexts brand disclosure) := by
  have fields : ([("title", .str "Roofs"), ("description", .str "Roofs")] : AnyDict).lookup "description" =
      some (.str "Roofs") := rfl
  have faq : ([[("question", "Who?"), ("answer", "We.")]] : List (List (String × String))).mapM faqPanel =
      .ok [panel "Who?" "We."] := rfl
  simp only [SiteConfigInput.texts, bind_ok, found_ok, pure_ok]
  exact ⟨.str "Roofs", fields, [], rfl, _, faq, .str "Roofs", rfl, rfl⟩

/-- The terms page of a sample. -/
def samplePage (brand : String) : List Piece := (sampleTexts brand sampleDisclosure).terms none .staging

theorem samplePage_built (brand : String) :
    ∃ files, buildStaticSite asciiTexts (sampleConfig brand sampleDisclosure) .null none .staging = .ok files ∧
      ("terms.html", render (samplePage brand)) ∈ files := by
  have listed := SiteTexts.terms_listed (sampleTexts brand sampleDisclosure) none .staging
  rw [← samplePage] at listed
  exact buildStaticSite_texts (sampleConfig_texts brand sampleDisclosure) .null listed

/-! ## Two sites -/

section
variable {rules : TextRules} {c c' : SiteConfigInput} {provenance provenance' : PyJson} {domain : Option String}
  {environment : BuildEnvironment} {files files' : List (String × String)}

/-- The pages of two configurations with as many steps, questions and local notes have the
same tags, those of the site and no other script, exactly when the structured data of both
leaves its script to its end tag. -/
theorem same_markup_iff (steps : c.serviceProcess.length = c'.serviceProcess.length)
    (questions : c.faqs.length = c'.faqs.length)
    (notes : c.localConsiderations.length = c'.localConsiderations.length)
    (built : buildStaticSite rules c provenance domain environment = .ok files)
    (built' : buildStaticSite rules c' provenance' domain environment = .ok files') :
    (∀ filename ∈ sortedPages, ∀ text text', (filename, text) ∈ files → (filename, text') ∈ files' →
      tags text = tags text' ∧
        (filename, tags text) ∈ siteTags c.serviceProcess.length c.faqs.length c.localConsiderations.length ∧
        (tags text).filter isScript = pageScripts filename) ↔
      c.StaysInScript rules ∧ c'.StaysInScript rules := by
  constructor
  · intro same
    constructor
    · apply closed_of_generated built
      intro filename html text member
      obtain ⟨text', member'⟩ := exists_page built' html
      exact (same filename html text text' member member').2.1
    · apply closed_of_generated built'
      intro filename html text' member'
      obtain ⟨text, member⟩ := exists_page built html
      obtain ⟨equal, shown, -⟩ := same filename html text text' member member'
      rw [← steps, ← questions, ← notes, ← equal]
      exact shown
  · rintro ⟨closed, closed'⟩ filename html text text' member member'
    have first := generated_tags closed built member html
    have second := generated_tags closed' built' member' html
    rw [← steps, ← questions, ← notes] at second
    exact ⟨siteTags_unique first second, first, scripts_siteTags first⟩

end

/-- Two brands whose markup is escaped. -/
theorem same_markup_guides :
    tags (render (samplePage "Roof Guide")) = tags (render (samplePage "R&D <b>")) := by
  obtain ⟨files, built, member⟩ := samplePage_built "Roof Guide"
  obtain ⟨files', built', member'⟩ := samplePage_built "R&D <b>"
  have closed : ∀ brand ∈ ["Roof Guide", "R&D <b>"],
      (sampleConfig brand sampleDisclosure).StaysInScript asciiTexts := by
    simp only [SiteConfigInput.StaysInScript, SiteConfigInput.structuredText, toList_structured]
    decide +kernel
  have same := @same_markup_iff asciiTexts (sampleConfig "Roof Guide" sampleDisclosure)
    (sampleConfig "R&D <b>" sampleDisclosure) .null .null none .staging files files' rfl rfl rfl built built'
  exact (same.mpr ⟨closed _ (by simp), closed _ (by simp)⟩ "terms.html" (by decide) _ _ member member').1

/-- A brand that ends the script of its page and starts another. -/
theorem brand_starts_script :
    (sampleConfig "Roof Guide" sampleDisclosure).Accepted asciiTexts ∧
      (sampleConfig "</script><script>" sampleDisclosure).Accepted asciiTexts ∧
      ∃ files files',
        buildStaticSite asciiTexts (sampleConfig "Roof Guide" sampleDisclosure) .null none .staging = .ok files ∧
        buildStaticSite asciiTexts (sampleConfig "</script><script>" sampleDisclosure) .null none .staging =
          .ok files' ∧
        ∃ text text', ("terms.html", text) ∈ files ∧ ("terms.html", text') ∈ files' ∧
          .start "script" [] ∉ tags text ∧ .start "script" [] ∈ tags text' := by
  refine ⟨sampleConfig_accepted (by decide +kernel) (by decide +kernel) (by decide +kernel),
    sampleConfig_accepted (by decide +kernel) (by decide +kernel) (by decide +kernel), ?_⟩
  obtain ⟨files, built, member⟩ := samplePage_built "Roof Guide"
  obtain ⟨files', built', member'⟩ := samplePage_built "</script><script>"
  refine ⟨files, files', built, built', _, _, member, member', ?_, ?_⟩
  · intro inside
    have closed : (sampleConfig "Roof Guide" sampleDisclosure).StaysInScript asciiTexts := by
      simp only [SiteConfigInput.StaysInScript, SiteConfigInput.structuredText, toList_structured]
      decide +kernel
    have scripts := scripts_siteTags (generated_tags closed built member (by decide))
    have kept : Tag.start "script" [] ∈ pageScripts "terms.html" := by
      rw [← scripts]
      exact List.mem_filter.mpr ⟨inside, by decide⟩
    exact absurd kept (by decide)
  · rw [samplePage, SiteTexts.terms, tags_page _ _ _ _ _ _ _ _ (robotsMeta_known .staging)]
    apply List.mem_append_right
    apply List.mem_append_left
    rw [structuredRun, toList_structured]
    decide +kernel

end RankRent.Properties.Builder
