import Mathlib.Data.List.Basic

/-!
# The tags of a page

The tokenizer of the HTML standard with the content its tree builder asks for after a
start tag: text up to the end tag after `title` or `style`, script data after `script`.
Of the tokens only the tags are kept, with the names of their attributes.
-/

namespace Html

inductive Tag
  | start (name : String) (attributes : List String)
  | close (name : String)
  deriving DecidableEq, Repr

/-- A tag as far as it is read. -/
structure Draft where
  closes : Bool
  name : List Char
  attributes : List (List Char) := []
  deriving DecidableEq

def Draft.tag (d : Draft) : Tag :=
  if d.closes then .close (String.ofList d.name) else .start (String.ofList d.name) (d.attributes.map String.ofList)

/-- The states of script data. -/
inductive Script
  | plain
  | less
  | closing (name : List Char)
  | escapeStart
  | escapeStartDash
  | escaped
  | escapedDash
  | escapedDashDash
  | escapedLess
  | escapedClosing (name : List Char)
  | doubleStart (name : List Char)
  | double
  | doubleDash
  | doubleDashDash
  | doubleLess
  | doubleClosing (name : List Char)
  deriving DecidableEq

inductive State
  | data
  /-- The text of an element that only its end tag ends. -/
  | text (element : List Char)
  | textLess (element : List Char)
  | textClosing (element name : List Char)
  | plaintext
  | script (s : Script)
  | tagOpen
  | endTagOpen
  | tagName (d : Draft)
  | beforeAttribute (d : Draft)
  | attributeName (d : Draft) (name : List Char)
  | afterAttribute (d : Draft)
  | beforeValue (d : Draft)
  | doubleQuoted (d : Draft)
  | singleQuoted (d : Draft)
  | unquoted (d : Draft)
  | afterQuoted (d : Draft)
  | selfClosing (d : Draft)
  | bogusComment
  | markup (read : List Char)
  | commentStart
  | commentStartDash
  | comment
  | commentDash
  | commentEnd
  | commentEndBang
  | doctype
  deriving DecidableEq

def isSpace (c : Char) : Bool := c = '\t' || c = '\n' || c = '\x0c' || c = '\r' || c = ' '

/-- White space, `/` or `>`. -/
def endsName (c : Char) : Bool := isSpace c || c = '/' || c = '>'

abbrev Step := State × Option Tag

/-- What follows a start tag. -/
def contentOf (name : List Char) : State :=
  if name = ['s', 'c', 'r', 'i', 'p', 't'] then .script .plain
  else if String.ofList name = "plaintext" then .plaintext
  else if String.ofList name ∈ ["title", "textarea", "style", "xmp", "iframe", "noembed", "noframes", "noscript"] then
    .text name
  else .data

def Draft.emit (d : Draft) : Step := (if d.closes then .data else contentOf d.name, some d.tag)

def onData (c : Char) : Step := (if c = '<' then .tagOpen else .data, none)

def onText (element : List Char) (c : Char) : Step := (if c = '<' then .textLess element else .text element, none)

def onAttributeName (d : Draft) (name : List Char) (c : Char) : Step :=
  let named : Draft := { d with attributes := d.attributes ++ [name] }
  if isSpace c then (.afterAttribute named, none)
  else if c = '/' then (.selfClosing named, none)
  else if c = '>' then named.emit
  else if c = '=' then (.beforeValue named, none)
  else (.attributeName d (name ++ [c.toLower]), none)

def onBeforeAttribute (d : Draft) (c : Char) : Step :=
  if isSpace c then (.beforeAttribute d, none)
  else if c = '/' then (.selfClosing d, none)
  else if c = '>' then d.emit
  else if c = '=' then (.attributeName d [c], none)
  else onAttributeName d [] c

def onUnquoted (d : Draft) (c : Char) : Step :=
  if isSpace c then (.beforeAttribute d, none)
  else if c = '>' then d.emit
  else (.unquoted d, none)

def onBogusComment (c : Char) : Step := (if c = '>' then .data else .bogusComment, none)

def onComment (c : Char) : Step := (if c = '-' then .commentDash else .comment, none)

/-- The end tag of `element`, whose name is read. -/
def closeElement (element name : List Char) (c : Char) (otherwise : Step) : Step :=
  let d : Draft := ⟨true, name, []⟩
  if c.isAlpha then otherwise
  else if name = element && isSpace c then (.beforeAttribute d, none)
  else if name = element && c = '/' then (.selfClosing d, none)
  else if name = element && c = '>' then d.emit
  else otherwise

def onPlain (c : Char) : Script := if c = '<' then .less else .plain

def onEscaped (c : Char) : Script :=
  if c = '-' then .escapedDash else if c = '<' then .escapedLess else .escaped

def onDouble (c : Char) : Script :=
  if c = '-' then .doubleDash else if c = '<' then .doubleLess else .double

def scriptName : List Char := ['s', 'c', 'r', 'i', 'p', 't']

def onScript (s : Script) (c : Char) : Step :=
  match s with
  | .plain => (.script (onPlain c), none)
  | .less =>
    (.script (if c = '/' then .closing [] else if c = '!' then .escapeStart else onPlain c), none)
  | .closing name =>
    closeElement scriptName name c (.script (if c.isAlpha then .closing (name ++ [c.toLower]) else onPlain c), none)
  | .escapeStart => (.script (if c = '-' then .escapeStartDash else onPlain c), none)
  | .escapeStartDash => (.script (if c = '-' then .escapedDashDash else onPlain c), none)
  | .escaped => (.script (onEscaped c), none)
  | .escapedDash => (.script (if c = '-' then .escapedDashDash else onEscaped c), none)
  | .escapedDashDash =>
    (.script (if c = '-' then .escapedDashDash else if c = '>' then .plain else onEscaped c), none)
  | .escapedLess =>
    (.script (if c = '/' then .escapedClosing [] else if c.isAlpha then .doubleStart [c.toLower] else onEscaped c),
      none)
  | .escapedClosing name =>
    closeElement scriptName name c
      (.script (if c.isAlpha then .escapedClosing (name ++ [c.toLower]) else onEscaped c), none)
  | .doubleStart name =>
    (.script (if endsName c then (if name = scriptName then .double else .escaped)
      else if c.isAlpha then .doubleStart (name ++ [c.toLower]) else onEscaped c), none)
  | .double => (.script (onDouble c), none)
  | .doubleDash => (.script (if c = '-' then .doubleDashDash else onDouble c), none)
  | .doubleDashDash => (.script (if c = '-' then .doubleDashDash else if c = '>' then .plain else onDouble c), none)
  | .doubleLess => (.script (if c = '/' then .doubleClosing [] else onDouble c), none)
  | .doubleClosing name =>
    (.script (if endsName c then (if name = scriptName then .escaped else .double)
      else if c.isAlpha then .doubleClosing (name ++ [c.toLower]) else onDouble c), none)

/-- `--` or `doctype` after `<!`; anything else is a comment up to `>`. -/
def onMarkup (read : List Char) (c : Char) : Step :=
  let read := read ++ [c.toLower]
  if read = ['-', '-'] then (.commentStart, none)
  else if read = "doctype".toList then (.doctype, none)
  else if read = ['-'] || read.isPrefixOf "doctype".toList then (.markup read, none)
  else onBogusComment c

def step (s : State) (c : Char) : Step :=
  match s with
  | .data => onData c
  | .text element => onText element c
  | .textLess element => if c = '/' then (.textClosing element [], none) else onText element c
  | .textClosing element name =>
    closeElement element name c
      (if c.isAlpha then (.textClosing element (name ++ [c.toLower]), none) else onText element c)
  | .plaintext => (.plaintext, none)
  | .script s => onScript s c
  | .tagOpen =>
    if c = '!' then (.markup [], none)
    else if c = '/' then (.endTagOpen, none)
    else if c.isAlpha then (.tagName ⟨false, [c.toLower], []⟩, none)
    else if c = '?' then (.bogusComment, none)
    else onData c
  | .endTagOpen =>
    if c.isAlpha then (.tagName ⟨true, [c.toLower], []⟩, none)
    else if c = '>' then (.data, none)
    else onBogusComment c
  | .tagName d =>
    if isSpace c then (.beforeAttribute d, none)
    else if c = '/' then (.selfClosing d, none)
    else if c = '>' then d.emit
    else (.tagName { d with name := d.name ++ [c.toLower] }, none)
  | .beforeAttribute d => onBeforeAttribute d c
  | .attributeName d name => onAttributeName d name c
  | .afterAttribute d =>
    if isSpace c then (.afterAttribute d, none)
    else if c = '=' then (.beforeValue d, none)
    else onBeforeAttribute d c
  | .beforeValue d =>
    if isSpace c then (.beforeValue d, none)
    else if c = '"' then (.doubleQuoted d, none)
    else if c = '\'' then (.singleQuoted d, none)
    else if c = '>' then d.emit
    else onUnquoted d c
  | .doubleQuoted d => (if c = '"' then .afterQuoted d else .doubleQuoted d, none)
  | .singleQuoted d => (if c = '\'' then .afterQuoted d else .singleQuoted d, none)
  | .unquoted d => onUnquoted d c
  | .afterQuoted d => onBeforeAttribute d c
  | .selfClosing d => if c = '>' then d.emit else onBeforeAttribute d c
  | .bogusComment => onBogusComment c
  | .markup read => onMarkup read c
  | .commentStart =>
    if c = '-' then (.commentStartDash, none) else if c = '>' then (.data, none) else onComment c
  | .commentStartDash =>
    if c = '-' then (.commentEnd, none) else if c = '>' then (.data, none) else onComment c
  | .comment => onComment c
  | .commentDash => if c = '-' then (.commentEnd, none) else onComment c
  | .commentEnd =>
    if c = '>' then (.data, none)
    else if c = '!' then (.commentEndBang, none)
    else if c = '-' then (.commentEnd, none)
    else onComment c
  | .commentEndBang =>
    if c = '-' then (.commentDash, none) else if c = '>' then (.data, none) else onComment c
  | .doctype => (if c = '>' then .data else .doctype, none)

/-- The tokenizer over a text. -/
def run : State → List Char → State × List Tag
  | s, [] => (s, [])
  | s, c :: rest =>
    let (next, tag) := step s c
    let (last, tags) := run next rest
    (last, tag.toList ++ tags)

/-- The tags of a page. -/
def tags (text : String) : List Tag := (run .data text.toList).2

theorem run_cons (s : State) (c : Char) (rest : List Char) : run s (c :: rest) =
    ((run (step s c).1 rest).1, (step s c).2.toList ++ (run (step s c).1 rest).2) := rfl

theorem run_append (s : State) (text more : List Char) :
    run s (text ++ more) = ((run (run s text).1 more).1, (run s text).2 ++ (run (run s text).1 more).2) := by
  induction text generalizing s with
  | nil => rfl
  | cons c text ih => rw [List.cons_append, run_cons, ih, run_cons, List.append_assoc]

/-- A text that is read in one state gives no tag. -/
theorem run_stays {s : State} {text : List Char} (stays : ∀ c ∈ text, step s c = (s, none)) :
    run s text = (s, []) := by
  induction text with
  | nil => rfl
  | cons c text ih =>
    rw [run_cons, stays c List.mem_cons_self]
    dsimp only
    rw [ih fun d member => stays d (List.mem_cons_of_mem c member)]
    rfl

/-- The element of a script is closed by the end tag after its text, and by no other. -/
def ClosesScript (text : List Char) : Prop :=
  run (.script .plain) (text ++ "</script>".toList) = (.data, [.close "script"])

instance (text : List Char) : Decidable (ClosesScript text) := inferInstanceAs (Decidable (_ = _))

/-! ## Pages with values -/

/-- `html.escape`. -/
def escape (s : String) : String := String.join (s.toList.map fun c =>
  if c = '&' then "&amp;"
  else if c = '<' then "&lt;"
  else if c = '>' then "&gt;"
  else if c = '"' then "&quot;"
  else if c = '\'' then "&#x27;"
  else c.toString)

/-- A text of the page, a value that it escapes, or a script with its end tag. -/
inductive Piece
  | text (s : String)
  | value (s : String)
  | script (s : String)

def Piece.render : Piece → String
  | .text s => s
  | .value s => escape s
  | .script s => s ++ "</script>"

def render (pieces : List Piece) : String := String.join (pieces.map Piece.render)

/-- Where a value is read as text, or as part of a quoted attribute. -/
def State.holds : State → Bool
  | .data | .text _ | .doubleQuoted _ => true
  | _ => false

/-- The tags of a page whose values are not read and whose scripts are closed. -/
def skeleton : State → List Piece → Option (State × List Tag)
  | s, [] => some (s, [])
  | s, .text t :: rest => (skeleton (run s t.toList).1 rest).map fun (last, tags) => (last, (run s t.toList).2 ++ tags)
  | s, .value _ :: rest => if s.holds then skeleton s rest else none
  | s, .script t :: rest =>
    if s = .script .plain ∧ ClosesScript t.toList then
      (skeleton .data rest).map fun (last, tags) => (last, .close "script" :: tags)
    else none

theorem toList_escape (s : String) : (escape s).toList = s.toList.flatMap fun c =>
    if c = '&' then "&amp;".toList
    else if c = '<' then "&lt;".toList
    else if c = '>' then "&gt;".toList
    else if c = '"' then "&quot;".toList
    else if c = '\'' then "&#x27;".toList
    else [c] := by
  rw [escape, String.toList_join, List.flatMap_map]
  congr 1
  funext c
  split_ifs <;> simp

/-- What is escaped has no brackets and no quotes. -/
theorem escape_clean {s : String} {c : Char} (member : c ∈ (escape s).toList) :
    c ≠ '<' ∧ c ≠ '>' ∧ c ≠ '"' ∧ c ≠ '\'' := by
  rw [toList_escape, List.mem_flatMap] at member
  obtain ⟨d, -, inside⟩ := member
  have literal : ∀ text ∈ ["&amp;", "&lt;", "&gt;", "&quot;", "&#x27;"], ∀ c ∈ text.toList,
      c ≠ '<' ∧ c ≠ '>' ∧ c ≠ '"' ∧ c ≠ '\'' := by
    have checked : ∀ text ∈ ["&amp;", "&lt;", "&gt;", "&quot;", "&#x27;"],
        text.toList.all (fun c => c ≠ '<' ∧ c ≠ '>' ∧ c ≠ '"' ∧ c ≠ '\'') = true := by decide
    exact fun text member c inside => of_decide_eq_true (List.all_eq_true.mp (checked text member) c inside)
  split_ifs at inside with amp less greater quotes single
  · exact literal _ (by simp) c inside
  · exact literal _ (by simp) c inside
  · exact literal _ (by simp) c inside
  · exact literal _ (by simp) c inside
  · exact literal _ (by simp) c inside
  · rw [List.mem_singleton] at inside
    subst inside
    exact ⟨less, greater, quotes, single⟩

/-- A value leaves the tokenizer where it is. -/
theorem run_escape {s : State} (holds : s.holds = true) (value : String) :
    run s (escape value).toList = (s, []) := by
  refine run_stays fun c member => ?_
  obtain ⟨less, -, quotes, -⟩ := escape_clean member
  cases s with
  | data => simp [step, onData, less]
  | text element => simp [step, onText, less]
  | doubleQuoted d => simp [step, quotes]
  | _ => cases holds

theorem toList_render_cons (piece : Piece) (pieces : List Piece) :
    (render (piece :: pieces)).toList = piece.render.toList ++ (render pieces).toList := by
  rw [render, List.map_cons, String.join_cons, String.toList_append]
  rfl

theorem toList_render_append (pieces more : List Piece) :
    (render (pieces ++ more)).toList = (render pieces).toList ++ (render more).toList := by
  rw [render, List.map_append, String.join_append, String.toList_append]
  rfl

theorem not_mem_render {pieces : List Piece} {c : Char} (free : ∀ piece ∈ pieces, c ∉ piece.render.toList) :
    c ∉ (render pieces).toList := by
  induction pieces with
  | nil => exact List.not_mem_nil
  | cons piece pieces ih =>
    rw [toList_render_cons, List.mem_append, not_or]
    exact ⟨free piece List.mem_cons_self, ih fun other member => free other (List.mem_cons_of_mem piece member)⟩

/-- A page has the tags of its skeleton. -/
theorem run_render {pieces : List Piece} {s last : State} {found : List Tag}
    (shape : skeleton s pieces = some (last, found)) : run s (render pieces).toList = (last, found) := by
  induction pieces generalizing s found with
  | nil =>
    cases shape
    rfl
  | cons piece pieces ih =>
    rw [toList_render_cons, run_append]
    cases piece with
    | text t =>
      rw [skeleton, Option.map_eq_some_iff] at shape
      obtain ⟨⟨final, after⟩, shape, ends⟩ := shape
      cases ends
      rw [Piece.render, ih shape]
    | value t =>
      rw [skeleton] at shape
      split at shape
      · rename_i holds
        rw [Piece.render, run_escape holds, ih shape]
        rfl
      · cases shape
    | script t =>
      rw [skeleton] at shape
      split at shape
      · rename_i opened
        obtain ⟨opened, closed⟩ := opened
        rw [Option.map_eq_some_iff] at shape
        obtain ⟨⟨final, after⟩, shape, ends⟩ := shape
        cases ends
        subst opened
        rw [Piece.render, String.toList_append, closed, ih shape]
        rfl
      · cases shape

theorem skeleton_append (s : State) (pieces more : List Piece) :
    skeleton s (pieces ++ more) = (skeleton s pieces).bind fun (last, found) =>
      (skeleton last more).map fun (final, after) => (final, found ++ after) := by
  induction pieces generalizing s with
  | nil => simp [skeleton]
  | cons piece pieces ih =>
    rw [List.cons_append]
    cases piece with
    | text t =>
      rw [skeleton, skeleton, ih]
      cases skeleton (run s t.toList).1 pieces with
      | none => rfl
      | some found => simp [Function.comp_def]
    | value t =>
      rw [skeleton, skeleton, ih]
      split <;> rfl
    | script t =>
      rw [skeleton, skeleton, ih]
      split
      · cases skeleton .data pieces with
        | none => rfl
        | some found => simp [Function.comp_def]
      · rfl

/-- Pages in which one follows the other in text. -/
theorem skeleton_data {pieces more : List Piece} {found after : List Tag} (first : skeleton .data pieces = some (.data, found))
    (rest : skeleton .data more = some (.data, after)) :
    skeleton .data (pieces ++ more) = some (.data, found ++ after) := by
  rw [skeleton_append, first]
  simp [rest]

/-! ## What an element that stays open takes in -/

/-- The elements whose text only their end tags end. -/
def rawTexts : List String := ["title", "textarea", "style", "xmp", "iframe", "noembed", "noframes", "noscript"]

/-- The element of the text that is read is one of these. -/
def State.Raw : State → Prop
  | .text element | .textLess element | .textClosing element _ => String.ofList element ∈ rawTexts
  | _ => True

theorem raw_emit (d : Draft) : d.emit.1.Raw := by
  rw [Draft.emit]
  split
  · trivial
  · rw [contentOf]
    split_ifs with script plain raw
    · trivial
    · trivial
    · exact raw
    · trivial

theorem raw_attributeName (d : Draft) (name : List Char) (c : Char) : (onAttributeName d name c).1.Raw := by
  rw [onAttributeName]
  split_ifs
  · trivial
  · trivial
  · exact raw_emit _
  · trivial
  · trivial

theorem raw_beforeAttribute (d : Draft) (c : Char) : (onBeforeAttribute d c).1.Raw := by
  rw [onBeforeAttribute]
  split_ifs
  · trivial
  · trivial
  · exact raw_emit _
  · trivial
  · exact raw_attributeName _ _ _

theorem raw_unquoted (d : Draft) (c : Char) : (onUnquoted d c).1.Raw := by
  rw [onUnquoted]
  split_ifs
  · trivial
  · exact raw_emit _
  · trivial

theorem raw_closeElement {element name : List Char} {c : Char} {otherwise : Step} (raw : otherwise.1.Raw) :
    (closeElement element name c otherwise).1.Raw := by
  rw [closeElement]
  split_ifs
  · exact raw
  · trivial
  · trivial
  · exact raw_emit _
  · exact raw

theorem raw_step {s : State} (raw : s.Raw) (c : Char) : (step s c).1.Raw := by
  cases s with
  | text element =>
    simp only [step, onText]
    split_ifs <;> exact raw
  | textLess element =>
    simp only [step, onText]
    split_ifs <;> exact raw
  | textClosing element name =>
    apply raw_closeElement
    simp only [onText]
    split_ifs <;> exact raw
  | script s =>
    cases s with
    | closing name => exact raw_closeElement trivial
    | escapedClosing name => exact raw_closeElement trivial
    | _ => trivial
  | tagName d =>
    simp only [step]
    split_ifs
    · trivial
    · trivial
    · exact raw_emit _
    · trivial
  | beforeAttribute d => exact raw_beforeAttribute _ _
  | attributeName d name => exact raw_attributeName _ _ _
  | afterAttribute d =>
    simp only [step]
    split_ifs
    · trivial
    · trivial
    · exact raw_beforeAttribute _ _
  | beforeValue d =>
    simp only [step]
    split_ifs
    · trivial
    · trivial
    · trivial
    · exact raw_emit _
    · exact raw_unquoted _ _
  | unquoted d => exact raw_unquoted _ _
  | afterQuoted d => exact raw_beforeAttribute _ _
  | selfClosing d =>
    simp only [step]
    split_ifs
    · exact raw_emit _
    · exact raw_beforeAttribute _ _
  | plaintext => trivial
  | _ =>
    simp only [step, onData, onBogusComment, onMarkup, onComment]
    split_ifs <;> trivial

theorem raw_run {s : State} (raw : s.Raw) (text : List Char) : (run s text).1.Raw := by
  induction text generalizing s with
  | nil => exact raw
  | cons c text ih => exact ih (raw_step raw c)

/-- A state that a `>` leaves open and that only its own end closes. -/
def State.opens : State → Bool
  | .text _ | .plaintext | .script .plain | .script .escaped | .script .double | .comment | .singleQuoted _ => true
  | _ => false

/-- After a `>` the text is read as data, inside of what stays open, or in a value. -/
def State.AfterGreater (s : State) : Prop := s = .data ∨ s.opens = true ∨ ∃ d, s = .doubleQuoted d

theorem after_emit (d : Draft) : d.emit.1.AfterGreater := by
  rw [Draft.emit]
  split
  · exact Or.inl rfl
  · rw [contentOf]
    split_ifs
    · exact Or.inr (Or.inl rfl)
    · exact Or.inr (Or.inl rfl)
    · exact Or.inr (Or.inl rfl)
    · exact Or.inl rfl

theorem after_closeElement {element name : List Char} {otherwise : Step} (other : otherwise.1.AfterGreater) :
    (closeElement element name '>' otherwise).1.AfterGreater := by
  rw [closeElement]
  split_ifs with alpha space slash greater
  · exact other
  · exact absurd space (by simp [isSpace])
  · exact absurd slash (by simp)
  · exact after_emit _
  · exact other

theorem after_script (s : Script) : (onScript s '>').1.AfterGreater := by
  cases s with
  | closing name => exact after_closeElement (Or.inr (Or.inl rfl))
  | escapedClosing name => exact after_closeElement (Or.inr (Or.inl rfl))
  | doubleStart name =>
    have ends : endsName '>' = true := rfl
    simp only [onScript, ends, if_true]
    split
    · exact Or.inr (Or.inl rfl)
    · exact Or.inr (Or.inl rfl)
  | doubleClosing name =>
    have ends : endsName '>' = true := rfl
    simp only [onScript, ends, if_true]
    split
    · exact Or.inr (Or.inl rfl)
    · exact Or.inr (Or.inl rfl)
  | plain => exact Or.inr (Or.inl rfl)
  | less => exact Or.inr (Or.inl rfl)
  | escapeStart => exact Or.inr (Or.inl rfl)
  | escapeStartDash => exact Or.inr (Or.inl rfl)
  | escaped => exact Or.inr (Or.inl rfl)
  | escapedDash => exact Or.inr (Or.inl rfl)
  | escapedDashDash => exact Or.inr (Or.inl rfl)
  | escapedLess => exact Or.inr (Or.inl rfl)
  | double => exact Or.inr (Or.inl rfl)
  | doubleDash => exact Or.inr (Or.inl rfl)
  | doubleDashDash => exact Or.inr (Or.inl rfl)
  | doubleLess => exact Or.inr (Or.inl rfl)

theorem after_step (s : State) : (step s '>').1.AfterGreater := by
  cases s with
  | text element => exact Or.inr (Or.inl rfl)
  | textLess element => exact Or.inr (Or.inl rfl)
  | textClosing element name => exact after_closeElement (Or.inr (Or.inl rfl))
  | plaintext => exact Or.inr (Or.inl rfl)
  | script s => exact after_script s
  | doubleQuoted d => exact Or.inr (Or.inr ⟨d, rfl⟩)
  | singleQuoted d => exact Or.inr (Or.inl rfl)
  | comment => exact Or.inr (Or.inl rfl)
  | commentDash => exact Or.inr (Or.inl rfl)
  | tagName d => exact after_emit _
  | beforeAttribute d => exact after_emit _
  | attributeName d name => exact after_emit _
  | afterAttribute d => exact after_emit _
  | beforeValue d => exact after_emit _
  | unquoted d => exact after_emit _
  | afterQuoted d => exact after_emit _
  | selfClosing d => exact after_emit _
  | markup read =>
    have inside : '>' ∈ read ++ ['>'.toLower] := List.mem_append_right _ (List.mem_singleton_self _)
    have other (text : List Char) (free : '>' ∉ text) : read ++ ['>'.toLower] ≠ text := fun same => free (same ▸ inside)
    have start : (read ++ ['>'.toLower]).isPrefixOf "doctype".toList = false := by
      rw [Bool.eq_false_iff, ne_eq, List.isPrefixOf_iff_prefix]
      exact fun before => absurd (before.subset inside) (by decide)
    left
    simp only [step, onMarkup, onBogusComment, if_neg (other ['-', '-'] (by decide)),
      if_neg (other "doctype".toList (by decide)), decide_eq_false (other ['-'] (by decide)), start,
      Bool.or_self, Bool.false_eq_true, if_false, if_true]
  | _ => exact Or.inl rfl

/-- A state to which a value may bring what stays open. -/
inductive State.Near : State → State → Prop
  | same {s : State} (opened : s.opens = true) : Near s s
  | escapedDash : Near (.script .escaped) (.script .escapedDash)
  | escapedDashDash : Near (.script .escaped) (.script .escapedDashDash)
  | doubleDash : Near (.script .double) (.script .doubleDash)
  | doubleDashDash : Near (.script .double) (.script .doubleDashDash)
  | commentDash : Near .comment .commentDash
  | commentEnd : Near .comment .commentEnd
  | commentEndBang : Near .comment .commentEndBang

theorem near_escaped {c : Char} (less : c ≠ '<') : State.Near (.script .escaped) (.script (onEscaped c)) := by
  by_cases dash : c = '-'
  · simpa only [onEscaped, dash, if_true] using State.Near.escapedDash
  · simpa only [onEscaped, dash, less, if_false] using State.Near.same rfl

theorem near_double {c : Char} (less : c ≠ '<') : State.Near (.script .double) (.script (onDouble c)) := by
  by_cases dash : c = '-'
  · simpa only [onDouble, dash, if_true] using State.Near.doubleDash
  · simpa only [onDouble, dash, less, if_false] using State.Near.same rfl

theorem near_comment (c : Char) : State.Near .comment (onComment c).1 ∧ (onComment c).2 = none := by
  by_cases dash : c = '-'
  · simpa only [onComment, dash, if_true, and_true] using State.Near.commentDash
  · simpa only [onComment, dash, if_false, and_true] using State.Near.same rfl

theorem near_step {s near : State} (close : s.Near near) {c : Char} (clean : c ≠ '<' ∧ c ≠ '>' ∧ c ≠ '"' ∧ c ≠ '\'') :
    s.Near (step near c).1 ∧ (step near c).2 = none := by
  obtain ⟨less, greater, -, quote⟩ := clean
  cases close with
  | same opened =>
    cases s with
    | text element => simpa only [step, onText, less, if_false, and_true] using State.Near.same opened
    | plaintext => exact ⟨.same rfl, rfl⟩
    | comment => exact near_comment c
    | singleQuoted d => simpa only [step, quote, if_false, and_true] using State.Near.same opened
    | script s =>
      cases s with
      | plain => simpa only [step, onScript, onPlain, less, if_false, and_true] using State.Near.same opened
      | escaped => exact ⟨near_escaped less, rfl⟩
      | double => exact ⟨near_double less, rfl⟩
      | _ => cases opened
    | _ => cases opened
  | escapedDash =>
    by_cases dash : c = '-'
    · simpa only [step, onScript, dash, if_true, and_true] using State.Near.escapedDashDash
    · simpa only [step, onScript, dash, if_false, and_true] using near_escaped less
  | escapedDashDash =>
    by_cases dash : c = '-'
    · simpa only [step, onScript, dash, if_true, and_true] using State.Near.escapedDashDash
    · simpa only [step, onScript, dash, greater, if_false, and_true] using near_escaped less
  | doubleDash =>
    by_cases dash : c = '-'
    · simpa only [step, onScript, dash, if_true, and_true] using State.Near.doubleDashDash
    · simpa only [step, onScript, dash, if_false, and_true] using near_double less
  | doubleDashDash =>
    by_cases dash : c = '-'
    · simpa only [step, onScript, dash, if_true, and_true] using State.Near.doubleDashDash
    · simpa only [step, onScript, dash, greater, if_false, and_true] using near_double less
  | commentDash =>
    by_cases dash : c = '-'
    · simpa only [step, dash, if_true, and_true] using State.Near.commentEnd
    · simpa only [step, dash, if_false] using near_comment c
  | commentEnd =>
    by_cases bang : c = '!'
    · subst bang
      exact ⟨.commentEndBang, rfl⟩
    · by_cases dash : c = '-'
      · subst dash
        exact ⟨.commentEnd, rfl⟩
      · simpa only [step, greater, bang, dash, if_false] using near_comment c
  | commentEndBang =>
    by_cases dash : c = '-'
    · simpa only [step, dash, if_true, and_true] using State.Near.commentDash
    · simpa only [step, dash, greater, if_false] using near_comment c

theorem near_less {s near : State} (close : s.Near near) : step near '<' = step s '<' := by
  cases close <;> rfl

/-- A value inside of what stays open is as if it were not there. -/
theorem run_swallowed {s : State} (opened : s.opens = true) (value : String) (rest : List Char) :
    run s ((escape value).toList ++ '<' :: rest) = run s ('<' :: rest) := by
  have reads (near : State) (close : s.Near near) (text : List Char)
      (clean : ∀ c ∈ text, c ≠ '<' ∧ c ≠ '>' ∧ c ≠ '"' ∧ c ≠ '\'') :
      run near (text ++ '<' :: rest) = run s ('<' :: rest) := by
    induction text generalizing near with
    | nil => rw [List.nil_append, run_cons, run_cons, near_less close]
    | cons c text ih =>
      obtain ⟨next, quiet⟩ := near_step close (clean c List.mem_cons_self)
      rw [List.cons_append, run_cons, ih _ next fun d member => clean d (List.mem_cons_of_mem c member), quiet]
      rfl
  exact reads s (.same opened) _ fun c member => escape_clean member

/-- The page begins with a tag. -/
def beginsTag : List Piece → Bool
  | .text t :: _ => t.toList.head? = some '<'
  | _ => false

/-- The page gives no tags where it is read in the state, and its values are inside of
what stays open. -/
def silent : State → List Piece → Bool
  | _, [] => true
  | s, .text t :: rest => (run s t.toList).2.isEmpty && silent (run s t.toList).1 rest
  | s, .value _ :: rest => s.opens && beginsTag rest && silent s rest
  | _, .script _ :: _ => false

theorem run_silent {s : State} {pieces : List Piece} (quiet : silent s pieces = true) :
    (run s (render pieces).toList).2 = [] := by
  induction pieces generalizing s with
  | nil => rfl
  | cons piece pieces ih =>
    rw [toList_render_cons]
    cases piece with
    | text t =>
      rw [silent, Bool.and_eq_true, List.isEmpty_iff] at quiet
      rw [Piece.render, run_append, quiet.1, ih quiet.2]
      rfl
    | value t =>
      rw [silent, Bool.and_eq_true, Bool.and_eq_true] at quiet
      obtain ⟨⟨opened, begins⟩, quiet⟩ := quiet
      have rest := ih quiet
      cases pieces with
      | nil => cases begins
      | cons next pieces =>
        cases next with
        | text u =>
          rw [beginsTag, decide_eq_true_eq, List.head?_eq_some_iff] at begins
          obtain ⟨tail, begins⟩ := begins
          rw [toList_render_cons, Piece.render, begins, List.cons_append] at rest
          rw [Piece.render, toList_render_cons, Piece.render, begins, List.cons_append, run_swallowed opened, rest]
        | value u => cases begins
        | script u => cases begins
    | script t => cases quiet

end Html
