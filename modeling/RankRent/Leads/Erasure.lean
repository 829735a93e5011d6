import RankRent.Leads.Intake

/-!
# What an erasure forgets

Two states that differ in the personal content of one lead only become equal
when it is erased, unless the tombstone keys are not free.
-/

namespace RankRent.Leads

/-! ## Personal content -/

def Lead.impersonal (lead : Lead) : Lead :=
  { lead with
    name := ""
    email := none
    phone := none
    postalCode := none
    message := none
    idempotencyKey := ""
    dedupeHash := ""
    subjectHash := "" }

def ConsentRecord.impersonal (consent : ConsentRecord) : ConsentRecord :=
  { consent with requestFingerprint := "", proofMetadata := .null }

def ProviderDelivery.impersonal (delivery : ProviderDelivery) : ProviderDelivery :=
  { delivery with destinationReference := "", providerMessageId := none }

def LeadOutcome.impersonal (outcome : LeadOutcome) : LeadOutcome :=
  { outcome with notes := none, sourceEventId := "" }

def LeadEvent.impersonal (event : LeadEvent) : LeadEvent := { event with eventKey := "", payload := .null }

def AnalyticsEvent.impersonal (event : AnalyticsEvent) : AnalyticsEvent :=
  { event with sourceEventId := "", payload := .null }

/-- The rows without the personal content of a lead. -/
def Store.impersonal (leadId : String) (s : Store) : Store :=
  { s with
    leads := s.leads.map fun lead => if lead.id = leadId then lead.impersonal else lead
    consents := s.consents.map fun consent =>
      if consent.leadId = leadId then consent.impersonal else consent
    deliveries := s.deliveries.map fun delivery =>
      if delivery.leadId = leadId then delivery.impersonal else delivery
    outcomes := s.outcomes.map fun outcome =>
      if outcome.leadId = leadId then outcome.impersonal else outcome
    events := s.events.map fun event => if event.leadId = leadId then event.impersonal else event
    analytics := s.analytics.map fun event =>
      if event.leadId = some leadId then event.impersonal else event }

/-- The states differ in the personal content of the lead only. -/
def Store.Alike (s : Store) (leadId : String) (s' : Store) : Prop := s.impersonal leadId = s'.impersonal leadId

/-! ## Tombstones -/

/-- The keys an erasure of these leads writes are free. -/
structure Store.TombstonesFree (s : Store) (ids : List String) : Prop where
  leads : FreeKeys Lead.id Lead.uniqueKey (fun lead => (lead.propertyId, tombstone lead.id))
    (fun lead => lead.id ∈ ids) s.leads
  events : FreeKeys LeadEvent.id LeadEvent.uniqueKey (fun event => (event.leadId, tombstone (toString event.id)))
    (fun event => event.leadId ∈ ids) s.events
  outcomes : FreeKeys LeadOutcome.id LeadOutcome.uniqueKey
    (fun outcome => (outcome.leadId, outcome.sourceName, tombstone (toString outcome.id)))
    (fun outcome => outcome.leadId ∈ ids) s.outcomes
  analytics : FreeKeys AnalyticsEvent.id AnalyticsEvent.uniqueKey
    (fun event => (event.sourceName, tombstone (toString event.id)))
    (fun event => event.leadId.any fun lead => lead ∈ ids) s.analytics

instance (s : Store) (ids : List String) : Decidable (s.TombstonesFree ids) :=
  decidable_of_iff (_ ∧ _ ∧ _ ∧ _)
    ⟨fun ⟨leads, events, outcomes, analytics⟩ => Store.TombstonesFree.mk leads events outcomes analytics,
      fun free => ⟨free.leads, free.events, free.outcomes, free.analytics⟩⟩

/-- The rows an erasure leaves. -/
def Store.erased (s : Store) (ids : List String) (now : DateTime) : Store :=
  { s with
    leads := s.leads.map fun lead => if lead.id ∈ ids then lead.erased now else lead
    consents := s.consents.map fun consent => if consent.leadId ∈ ids then consent.erased else consent
    deliveries := s.deliveries.map fun delivery =>
      if delivery.leadId ∈ ids then delivery.erased now else delivery
    events := s.events.map fun event => if event.leadId ∈ ids then event.erased else event
    outcomes := s.outcomes.map fun outcome => if outcome.leadId ∈ ids then outcome.erased else outcome
    analytics := s.analytics.map fun event =>
      if event.leadId.any fun lead => lead ∈ ids then event.erased else event }

theorem tombstone_injective {a b : String} (same : tombstone a = tombstone b) : a = b :=
  (String.append_right_inj _).mp same

theorem digits_injective {m n : Nat} (same : toString m = toString n) : m = n := by
  have value : ∀ k : Nat, Nat.ofDigitChars 10 (toString k).toList 0 = k := by
    intro k
    simp [Nat.repr]
  rw [← value m, ← value n, same]

section Erasure
variable {s s' : Store} {ids : List String} {now : DateTime} {leadId : String}

/-- An erasure writes its rows if its tombstone keys are free, and fails
otherwise. -/
theorem Store.Constrained.anonymize (constrained : s.Constrained) (ids : List String) (now : DateTime) :
    s.TombstonesFree ids ∧ s.anonymize ids now = some (s.erased ids now) ∨
      ¬ s.TombstonesFree ids ∧ s.anonymize ids now = none := by
  have leads := flushTable_cases Lead.uniqueKey (fun lead => (lead.propertyId, tombstone lead.id))
    (Lead.erased now) (fun lead => lead.id ∈ ids) constrained.leads (fun _ => rfl) (fun _ => rfl)
    (fun _ _ differs same => differs (tombstone_injective (Prod.mk.inj same).2))
  have events := flushTable_cases LeadEvent.uniqueKey
    (fun event => (event.leadId, tombstone (toString event.id))) LeadEvent.erased
    (fun event => event.leadId ∈ ids) constrained.events (fun _ => rfl) (fun _ => rfl)
    (fun _ _ differs same => differs (digits_injective (tombstone_injective (Prod.mk.inj same).2)))
  have outcomes := flushTable_cases LeadOutcome.uniqueKey
    (fun outcome => (outcome.leadId, outcome.sourceName, tombstone (toString outcome.id)))
    LeadOutcome.erased (fun outcome => outcome.leadId ∈ ids) constrained.outcomes (fun _ => rfl)
    (fun _ => rfl) (fun _ _ differs same =>
      differs (digits_injective (tombstone_injective (Prod.mk.inj (Prod.mk.inj same).2).2)))
  have analytics := flushTable_cases AnalyticsEvent.uniqueKey
    (fun event => (event.sourceName, tombstone (toString event.id))) AnalyticsEvent.erased
    (fun event => event.leadId.any fun lead => lead ∈ ids) constrained.analytics (fun _ => rfl)
    (fun _ => rfl)
    (fun _ _ differs same => differs (digits_injective (tombstone_injective (Prod.mk.inj same).2)))
  unfold Store.anonymize
  obtain ⟨leads, flushed⟩ | ⟨leads, failed⟩ := leads
  · rw [flushed]
    obtain ⟨events, flushed⟩ | ⟨events, failed⟩ := events
    · rw [flushed]
      obtain ⟨outcomes, flushed⟩ | ⟨outcomes, failed⟩ := outcomes
      · rw [flushed]
        obtain ⟨analytics, flushed⟩ | ⟨analytics, failed⟩ := analytics
        · rw [flushed]
          exact Or.inl ⟨⟨leads, events, outcomes, analytics⟩, by simp [Store.erased]⟩
        · rw [failed]
          exact Or.inr ⟨fun free => analytics free.analytics, rfl⟩
      · rw [failed]
        exact Or.inr ⟨fun free => outcomes free.outcomes, rfl⟩
    · rw [failed]
      exact Or.inr ⟨fun free => events free.events, rfl⟩
  · rw [failed]
    exact Or.inr ⟨fun free => leads free.leads, rfl⟩

/-! ## Two states -/

/-- An erasure overwrites what the selected rows lose. -/
theorem erased_forgets {α : Type} (of : α → Prop) [DecidablePred of] (chosen : α → Bool)
    (impersonal erased : α → α) (rows : List α) (kept : ∀ row, chosen (impersonal row) = chosen row)
    (within : ∀ row, of row → chosen row = true) (forgets : ∀ row, erased (impersonal row) = erased row) :
    (rows.map fun row => if of row then impersonal row else row).map
      (fun row => if chosen row then erased row else row) =
        rows.map fun row => if chosen row then erased row else row := by
  rw [List.map_map]
  apply List.map_congr_left
  intro row _
  by_cases holds : of row
  · simp [holds, kept, within row holds, forgets]
  · simp [holds]

theorem Store.erased_impersonal (selected : leadId ∈ ids) :
    (s.impersonal leadId).erased ids now = s.erased ids now := by
  have leads := erased_forgets (fun lead => lead.id = leadId) (fun lead => decide (lead.id ∈ ids)) Lead.impersonal
    (Lead.erased now) s.leads (fun _ => rfl) (by rintro lead rfl; simpa using selected) (fun _ => rfl)
  have consents := erased_forgets (fun consent => consent.leadId = leadId) (fun consent => decide (consent.leadId ∈ ids))
    ConsentRecord.impersonal ConsentRecord.erased s.consents (fun _ => rfl)
    (by rintro consent rfl; simpa using selected) (fun _ => rfl)
  have deliveries := erased_forgets (fun d => d.leadId = leadId) (fun d => decide (d.leadId ∈ ids))
    ProviderDelivery.impersonal (ProviderDelivery.erased now) s.deliveries (fun _ => rfl)
    (by rintro d rfl; simpa using selected) (fun _ => rfl)
  have outcomes := erased_forgets (fun outcome => outcome.leadId = leadId) (fun outcome => decide (outcome.leadId ∈ ids))
    LeadOutcome.impersonal LeadOutcome.erased s.outcomes (fun _ => rfl)
    (by rintro outcome rfl; simpa using selected) (fun _ => rfl)
  have events := erased_forgets (fun event => event.leadId = leadId) (fun event => decide (event.leadId ∈ ids))
    LeadEvent.impersonal LeadEvent.erased s.events (fun _ => rfl)
    (by rintro event rfl; simpa using selected) (fun _ => rfl)
  have analytics := erased_forgets (fun event => event.leadId = some leadId)
    (fun event => event.leadId.any fun lead => lead ∈ ids) AnalyticsEvent.impersonal AnalyticsEvent.erased
    s.analytics (fun _ => rfl) (by intro event of; simpa [of] using selected) (fun _ => rfl)
  simp only [decide_eq_true_eq] at leads consents deliveries outcomes events
  simp only [Store.erased, Store.impersonal, leads, consents, deliveries, outcomes, events, analytics]

theorem Store.Alike.erased (alike : s.Alike leadId s') (selected : leadId ∈ ids) :
    s.erased ids now = s'.erased ids now := by
  rw [← Store.erased_impersonal selected, alike, Store.erased_impersonal selected]

/-- The keys of rows that are erased already are free. -/
theorem freeKeys_of_erased {α ι κ : Type} [LinearOrder ι] [DecidableEq κ] {id : α → ι} {unique gets : α → κ}
    {change : α → α} {selected : α → Bool} {rows : List α} (keys : (rows.map unique).Nodup)
    (written : ∀ row, unique (change row) = gets row)
    (fixed : (rows.map fun row => if selected row then change row else row) = rows) :
    FreeKeys id unique gets selected rows := by
  intro row member holds other there differs same
  have same_rows : (rows.map fun row => if selected row then change row else row) = rows.map fun row => row := by
    rw [fixed, List.map_id']
  have kept := List.map_inj_left.mp same_rows row member
  rw [if_pos holds] at kept
  rw [← written row, kept] at same
  exact absurd (congrArg id (Table.get_inj keys there member same)) differs

theorem Store.Constrained.free_of_erased (constrained : s.Constrained) (fixed : s.erased ids now = s) :
    s.TombstonesFree ids := by
  have leads := congrArg Store.leads fixed
  have events := congrArg Store.events fixed
  have outcomes := congrArg Store.outcomes fixed
  have analytics := congrArg Store.analytics fixed
  constructor
  · apply freeKeys_of_erased constrained.leadKeys (fun lead => show (lead.erased now).uniqueKey = _ from rfl)
    simpa [Store.erased] using leads
  · apply freeKeys_of_erased constrained.eventKeys (fun event => show event.erased.uniqueKey = _ from rfl)
    simpa [Store.erased] using events
  · apply freeKeys_of_erased constrained.outcomeKeys (fun outcome => show outcome.erased.uniqueKey = _ from rfl)
    simpa [Store.erased] using outcomes
  · exact freeKeys_of_erased constrained.analyticsKeys (fun event => show event.erased.uniqueKey = _ from rfl)
      analytics

/-- Two states that differ in the personal content of a lead become equal when
it is erased just if they were, or the tombstone keys are free in both. -/
theorem anonymize_alike (constrained : s.Constrained) (constrained' : s'.Constrained)
    (alike : s.Alike leadId s') (selected : leadId ∈ ids) (now : DateTime) :
    (s.anonymize ids now).getD s = (s'.anonymize ids now).getD s' ↔
      s = s' ∨ s.TombstonesFree ids ∧ s'.TombstonesFree ids := by
  have same : s.erased ids now = s'.erased ids now := alike.erased selected
  obtain ⟨free, erased⟩ | ⟨taken, failed⟩ := constrained.anonymize ids now
  · obtain ⟨free', erased'⟩ | ⟨taken', failed'⟩ := constrained'.anonymize ids now
    · rw [erased, erased', Option.getD_some, Option.getD_some]
      exact ⟨fun _ => Or.inr ⟨free, free'⟩, fun _ => same⟩
    · rw [erased, failed', Option.getD_some, Option.getD_none]
      constructor
      · intro equal
        exact absurd (constrained'.free_of_erased (same.symm.trans equal)) taken'
      · rintro (rfl | ⟨-, free'⟩)
        · exact absurd free taken'
        · exact absurd free' taken'
  · obtain ⟨free', erased'⟩ | ⟨taken', failed'⟩ := constrained'.anonymize ids now
    · rw [failed, erased', Option.getD_some, Option.getD_none]
      constructor
      · intro equal
        exact absurd (constrained.free_of_erased (same.trans equal.symm)) taken
      · rintro (rfl | ⟨free, -⟩)
        · exact absurd free' taken
        · exact absurd free taken
    · rw [failed, failed', Option.getD_none, Option.getD_none]
      constructor
      · exact Or.inl
      · rintro (equal | ⟨free, -⟩)
        · exact equal
        · exact absurd free taken

/-! ## The two operations -/

/-- The leads `enforce_retention` selects. -/
def Store.expired (s : Store) (now : DateTime) : List String := (s.leads.filter (Lead.expired now)).map Lead.id

theorem Store.Alike.expired (alike : s.Alike leadId s') (now : DateTime) : s.expired now = s'.expired now := by
  have blank : ∀ s : Store, (s.impersonal leadId).expired now = s.expired now := by
    intro s
    let blank := fun lead : Lead => if lead.id = leadId then lead.impersonal else lead
    have expired : Lead.expired now ∘ blank = Lead.expired now := by
      funext lead
      simp only [Function.comp, blank]
      split <;> rfl
    have id : Lead.id ∘ blank = Lead.id := by
      funext lead
      simp only [Function.comp, blank]
      split <;> rfl
    change ((s.leads.map blank).filter (Lead.expired now)).map Lead.id = s.expired now
    rw [List.filter_map, List.map_map, expired, id]
    rfl
  rw [← blank s, alike, blank s']

/-- The lead is in both. -/
theorem Store.Alike.lead? (alike : s.Alike leadId s') (there : (s.lead? leadId).isSome) :
    (s'.lead? leadId).isSome := by
  have blank : ∀ s : Store, ((s.impersonal leadId).lead? leadId).isSome = (s.lead? leadId).isSome := by
    intro s
    rw [Store.lead?, Store.impersonal, Table.get_map]
    · exact Option.isSome_map
    · intro lead
      split <;> rfl
  rw [← blank s', ← alike, blank s]
  exact there

theorem orElse_enforceRetention (s : Store) (now : DateTime) :
    s.orElse (enforceRetention s now) = (s.anonymize (s.expired now) now).getD s := by
  unfold enforceRetention Store.expired
  dsimp only
  cases s.anonymize ((s.leads.filter (Lead.expired now)).map Lead.id) now <;> rfl

theorem orElse_deleteLead {lead : Lead} (there : s.lead? leadId = some lead) {role : LeadAccessRole}
    (deletes : role.deletes = true) (now : DateTime) :
    s.orElse (deleteLead s leadId role now) = (s.anonymize [leadId] now).getD s := by
  have same : lead.id = leadId := Table.get_key there
  unfold deleteLead
  rw [deletes, there, if_neg (by decide)]
  dsimp only
  rw [same]
  cases s.anonymize [leadId] now <;> rfl

end Erasure

end RankRent.Leads
