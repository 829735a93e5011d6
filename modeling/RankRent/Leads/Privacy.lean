import RankRent.Leads.Rows
import Mathlib.Data.List.Sort

/-!
# Erasure of a lead

`lead_routing/privacy.py`: deletion on request and by retention. The flush of a
session updates row by row in the order of the primary keys, and a broken unique
constraint rolls all of it back.
-/

namespace RankRent.Leads

inductive LeadAccessRole
  | operator | privacyAdmin | provider | analytics
  deriving DecidableEq, Repr

/-- The roles `delete_lead` serves. -/
def LeadAccessRole.deletes : LeadAccessRole → Bool
  | .operator | .privacyAdmin => true
  | .provider | .analytics => false

inductive PrivacyError
  /-- `LeadAccessDenied("lead_deletion_requires_privileged_role")`. -/
  | accessDenied
  /-- A unique constraint the flush breaks. -/
  | integrity
  deriving DecidableEq

/-! ## What `_anonymize` writes -/

def tombstone (id : String) : String := "deleted:" ++ id

def Lead.erased (now : DateTime) (lead : Lead) : Lead :=
  { lead with
    name := "[deleted]"
    email := none
    phone := none
    postalCode := none
    message := none
    idempotencyKey := tombstone lead.id
    dedupeHash := tombstone lead.id
    subjectHash := tombstone lead.id
    status := .deleted
    piiDeletedAt := some now }

def ConsentRecord.erased (consent : ConsentRecord) : ConsentRecord :=
  { consent with requestFingerprint := "deleted", proofMetadata := .obj [] }

def ProviderDelivery.erased (now : DateTime) (delivery : ProviderDelivery) : ProviderDelivery :=
  let delivery := { delivery with destinationReference := "<deleted>", providerMessageId := none }
  if delivery.status.nonterminal then
    { delivery with status := .cancelled, nextAttemptAt := none, completedAt := some now }.clearLease
  else delivery

def LeadOutcome.erased (outcome : LeadOutcome) : LeadOutcome :=
  { outcome with notes := none, sourceEventId := tombstone (toString outcome.id) }

def LeadEvent.erased (event : LeadEvent) : LeadEvent :=
  { event with eventKey := tombstone (toString event.id), payload := .obj [] }

def AnalyticsEvent.erased (event : AnalyticsEvent) : AnalyticsEvent :=
  { event with leadId := none, sourceEventId := tombstone (toString event.id), payload := .obj [] }

/-! ## The unique constraints of the rows it writes -/

/-- `uq_lead_property_idempotency`. -/
def Lead.uniqueKey (lead : Lead) : String × String := (lead.propertyId, lead.idempotencyKey)

/-- `uq_lead_outcome_source`. -/
def LeadOutcome.uniqueKey (outcome : LeadOutcome) : String × String × String :=
  (outcome.leadId, outcome.sourceName, outcome.sourceEventId)

/-- `uq_lead_event_key`. -/
def LeadEvent.uniqueKey (event : LeadEvent) : String × String := (event.leadId, event.eventKey)

/-- `uq_analytics_event_source`. -/
def AnalyticsEvent.uniqueKey (event : AnalyticsEvent) : String × String :=
  (event.sourceName, event.sourceEventId)

/-- The flush of one table: the selected rows in the order of their keys. -/
def flushTable {α ι κ : Type} [LinearOrder ι] [DecidableEq κ] (id : α → ι) (unique : α → κ)
    (change : α → α) (selected : α → Bool) (rows : List α) : Option (List α) :=
  Table.updateEach id unique change (((rows.filter selected).map id).insertionSort (· ≤ ·)) rows

/-- The key each selected row gets is free, or given up before. -/
def FreeKeys {α ι κ : Type} [LinearOrder ι] (id : α → ι) (unique gets : α → κ) (selected : α → Bool)
    (rows : List α) : Prop :=
  ∀ row ∈ rows, selected row = true → ∀ other ∈ rows, id other ≠ id row → unique other = gets row →
    selected other = true ∧ id other < id row

instance {α ι κ : Type} [LinearOrder ι] [DecidableEq κ] (id : α → ι) (unique gets : α → κ)
    (selected : α → Bool) (rows : List α) : Decidable (FreeKeys id unique gets selected rows) :=
  inferInstanceAs (Decidable (∀ row ∈ rows, _ → ∀ other ∈ rows, _ → _ → _ ∧ _))

section Flush
variable {α ι κ : Type} [LinearOrder ι] [DecidableEq κ] {id : α → ι} {unique gets : α → κ}
  {change : α → α} {selected : α → Bool} {rows left : List α}

theorem mem_flushed (distinct : (rows.map id).Nodup) {row : α} (member : row ∈ rows) :
    id row ∈ ((rows.filter selected).map id).insertionSort (· ≤ ·) ↔ selected row = true := by
  rw [(List.perm_insertionSort (· ≤ ·) ((rows.filter selected).map id)).mem_iff, List.mem_map]
  constructor
  · rintro ⟨other, there, same⟩
    obtain ⟨there, holds⟩ := List.mem_filter.mp there
    rwa [Table.get_inj distinct there member same] at holds
  · exact fun holds => ⟨row, List.mem_filter.mpr ⟨member, holds⟩, rfl⟩

theorem flushed_nodup (distinct : (rows.map id).Nodup) :
    (((rows.filter selected).map id).insertionSort (· ≤ ·)).Nodup := by
  rw [(List.perm_insertionSort (· ≤ ·) ((rows.filter selected).map id)).nodup_iff]
  exact distinct.sublist (List.filter_sublist.map id)

theorem flushTable_eq (distinct : (rows.map id).Nodup) (keeps : ∀ row, id (change row) = id row)
    (flushed : flushTable id unique change selected rows = some left) :
    left = rows.map fun row => if selected row then change row else row := by
  rw [Table.updateEach_eq keeps (flushed_nodup distinct) flushed]
  refine List.map_congr_left fun row member => ?_
  simp only [mem_flushed distinct member]

/-- The flush succeeds just if the keys it writes are free. -/
theorem flushTable_isSome (distinct : (rows.map id).Nodup) (keeps : ∀ row, id (change row) = id row)
    (written : ∀ row, unique (change row) = gets row)
    (apart : ∀ row other, id row ≠ id other → gets row ≠ gets other) :
    (flushTable id unique change selected rows).isSome = true ↔ FreeKeys id unique gets selected rows := by
  have sorted : (((rows.filter selected).map id).insertionSort (· ≤ ·)).Pairwise (· < ·) := by
    have ordered := List.pairwise_insertionSort (· ≤ ·) ((rows.filter selected).map id)
    exact (ordered.and (flushed_nodup distinct)).imp fun ⟨below, differs⟩ => lt_of_le_of_ne below differs
  rw [flushTable, Table.updateEach_isSome keeps (by simpa only [written] using apart) sorted]
  constructor
  · intro clear row member holds other there differs same
    obtain ⟨listed, before⟩ := clear row (Table.get_of_mem distinct member)
      ((mem_flushed distinct member).mpr holds) other there differs (same.trans (written row).symm)
    exact ⟨(mem_flushed distinct there).mp listed, before⟩
  · intro free row found listed other there differs same
    have member := Table.get_mem found
    obtain ⟨holds, before⟩ := free row member ((mem_flushed distinct member).mp listed) other there differs
      (same.trans (written row))
    exact ⟨(mem_flushed distinct there).mpr holds, before⟩

variable (unique gets change selected) in
/-- A flush writes the selected rows, or their keys are not free. -/
theorem flushTable_cases (distinct : (rows.map id).Nodup) (keeps : ∀ row, id (change row) = id row)
    (written : ∀ row, unique (change row) = gets row)
    (apart : ∀ row other, id row ≠ id other → gets row ≠ gets other) :
    FreeKeys id unique gets selected rows ∧ flushTable id unique change selected rows =
        some (rows.map fun row => if selected row then change row else row) ∨
      ¬ FreeKeys id unique gets selected rows ∧ flushTable id unique change selected rows = none := by
  have possible : (flushTable id unique change selected rows).isSome = true ↔
      FreeKeys id unique gets selected rows := flushTable_isSome distinct keeps written apart
  cases flushed : flushTable id unique change selected rows with
  | none =>
    rw [flushed] at possible
    exact Or.inr ⟨fun free => (by cases possible.mpr free), rfl⟩
  | some left =>
    rw [flushed] at possible
    rw [flushTable_eq distinct keeps flushed]
    exact Or.inl ⟨possible.mp rfl, rfl⟩

/-- A flush keeps a unique constraint. -/
theorem flushTable_keys (distinct : (rows.map id).Nodup) (keeps : ∀ row, id (change row) = id row)
    (written : ∀ row, unique (change row) = gets row)
    (apart : ∀ row other, id row ≠ id other → gets row ≠ gets other) (keys : (rows.map unique).Nodup)
    (flushed : flushTable id unique change selected rows = some left) : (left.map unique).Nodup := by
  have free : FreeKeys id unique gets selected rows := by
    rw [← flushTable_isSome distinct keeps written apart, flushed]
    rfl
  have yields : ∀ row ∈ rows, ∀ other ∈ rows, selected row = true → selected other = false →
      gets row = unique other → row = other := by
    intro row member other there holds left same
    by_contra differs
    have ids : id other ≠ id row := fun equal => differs (Table.get_inj distinct member there equal.symm)
    rw [(free row member holds other there ids same.symm).1] at left
    cases left
  rw [flushTable_eq distinct keeps flushed, List.map_map]
  apply List.Nodup.map_on _ (List.Nodup.of_map id distinct)
  intro row member other there same
  simp only [Function.comp] at same
  by_cases holds : selected row = true
  · by_cases holds' : selected other = true
    · rw [if_pos holds, if_pos holds', written, written] at same
      by_contra differs
      exact apart row other (fun equal => differs (Table.get_inj distinct member there equal)) same
    · rw [if_pos holds, if_neg holds', written] at same
      exact yields row member other there holds (by simpa using holds') same
  · by_cases holds' : selected other = true
    · rw [if_neg holds, if_pos holds', written] at same
      exact (yields other there row member holds' (by simpa using holds) same.symm).symm
    · rw [if_neg holds, if_neg holds'] at same
      exact Table.get_inj keys member there same

end Flush

/-- `_anonymize` of these leads, and the flush after it. -/
def Store.anonymize (s : Store) (ids : List String) (now : DateTime) : Option Store := do
  let leads ← flushTable Lead.id Lead.uniqueKey (Lead.erased now) (fun lead => lead.id ∈ ids) s.leads
  let events ← flushTable LeadEvent.id LeadEvent.uniqueKey LeadEvent.erased
    (fun event => event.leadId ∈ ids) s.events
  let outcomes ← flushTable LeadOutcome.id LeadOutcome.uniqueKey LeadOutcome.erased
    (fun outcome => outcome.leadId ∈ ids) s.outcomes
  let analytics ← flushTable AnalyticsEvent.id AnalyticsEvent.uniqueKey AnalyticsEvent.erased
    (fun event => event.leadId.any fun lead => lead ∈ ids) s.analytics
  some { s with
    leads := leads
    consents := s.consents.map fun consent =>
      if consent.leadId ∈ ids then consent.erased else consent
    deliveries := s.deliveries.map fun delivery =>
      if delivery.leadId ∈ ids then delivery.erased now else delivery
    events := events
    outcomes := outcomes
    analytics := analytics }

/-- `delete_lead` in a transaction of its own; it answers `False` for a missing
lead. -/
def deleteLead (s : Store) (leadId : String) (role : LeadAccessRole) (now : DateTime) :
    Except PrivacyError (Store × Bool) :=
  if role.deletes = false then .error .accessDenied
  else
    match s.lead? leadId with
    | none => .ok (s, false)
    | some lead =>
      match s.anonymize [lead.id] now with
      | none => .error .integrity
      | some erased => .ok (erased, true)

/-- The rows `enforce_retention` selects. -/
def Lead.expired (now : DateTime) (lead : Lead) : Bool :=
  lead.retentionExpiresAt ≤ now && lead.piiDeletedAt.isNone

/-- `enforce_retention` in a transaction of its own, with the ids it returns. -/
def enforceRetention (s : Store) (now : DateTime) : Except PrivacyError (Store × List String) :=
  let ids := (s.leads.filter (Lead.expired now)).map Lead.id
  match s.anonymize ids now with
  | none => .error .integrity
  | some erased => .ok (erased, ids)

/-- A transaction that raises leaves the store as it was. -/
def Store.orElse {ε α : Type} (s : Store) : Except ε (Store × α) → Store
  | .ok (after, _) => after
  | .error _ => s

end RankRent.Leads
