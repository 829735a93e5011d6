import RankRent.Leads.Erased
import RankRent.Library.Runs

/-!
# Submissions at the same time

Each select of `submit` is a step of its own, and so is its insert with its commit:
no other session sees the rows before the commit, and an insert of a key that another
transaction holds waits for it. The unique key is checked by the database; the select
of duplicates is not checked again.
-/

namespace RankRent.Leads

/-- The statement of `submit` that comes next. -/
inductive SubmitPhase
  | replay
  | checks
  | duplicates (profile : RoutingProfile)
  | assign (profile : RoutingProfile)
  | insert (profile : RoutingProfile) (assignment : Option ProviderAssignment)
  | winner
  | committed (result : LeadSubmissionResult)
  | returned (result : LeadSubmissionResult)
  /-- `none` is an exception that is not the service's own. -/
  | raised (error : Option SubmitError)

/-- A call of `submit`. -/
structure SubmitCall where
  form : LeadForm
  context : RequestContext
  phase : SubmitPhase

/-- What `uq_lead_property_idempotency` is of. -/
def LeadForm.uniqueKey (form : LeadForm) : String × String := (form.propertyId, form.idempotencyKey.value)

/-- The lead a call has returned. -/
def SubmitCall.answer (call : SubmitCall) : Option String :=
  match call.phase with
  | .returned result => some result.leadId
  | _ => none

section
variable (service : LeadRoutingService)

/-- The select of duplicates. -/
def LeadRoutingService.duplicateOf (store : Store) (form : LeadForm) (context : RequestContext) : Option Lead :=
  store.duplicate? form.propertyId (service.dedupeHash form)
    (context.receivedAt - service.policy.dedupeWindowMinutes * 60)

/-- The next statement of a call. -/
def LeadRoutingService.next (store : Store) (call : SubmitCall) (draws : SubmitDraws) : Store × SubmitPhase :=
  match call.phase with
  | .replay =>
    match store.leadUnder call.form with
    | some replay => (store, .returned (store.replayOf replay))
    | none => (store, .checks)
  | .checks =>
    match store.profiles.find? fun profile => profile.propertyId = call.form.propertyId && profile.active with
    | none => (store, .raised (some .routingProfileNotFound))
    | some profile =>
      if call.form.consentTextVersion ≠ service.policy.consentTextVersion then
        (store, .raised (some .staleConsentTextVersion))
      else if call.form.referralDisclosureVersion ≠ service.policy.referralDisclosureVersion then
        (store, .raised (some .staleReferralDisclosureVersion))
      else if draws.allow (service.fingerprint call.form call.context) service.policy.rateLimitCount
          service.policy.rateLimitWindowSeconds = false then
        (store, .raised (some .leadRateLimitExceeded))
      else (store, .duplicates profile)
  | .duplicates profile =>
    match service.duplicateOf store call.form call.context with
    | some duplicate =>
      (store, .returned {
        leadId := duplicate.id
        status := duplicate.status
        duplicate := true
        deliveryIds := store.deliveryIds duplicate.id })
    | none => (store, .assign profile)
  | .assign profile => (store, .insert profile (store.activeAssignment call.form.propertyId))
  | .insert profile assignment =>
    let assessment := service.spamAssessor call.form call.context
    match service.insert store call.form call.context draws profile assessment assignment with
    | none => (store, .winner)
    | some inserted =>
      (inserted, .committed {
        leadId := draws.leadId
        status := service.newStatus assessment.disposition assignment
        deliveryIds := if service.newStatus assessment.disposition assignment = .routing then
          inserted.deliveryIds draws.leadId else [] })
  | .winner =>
    match store.idempotencyWinner call.form with
    | .error error => (store, .raised (some error))
    | .ok (_, result) => (store, .returned result)
  | .committed result => (store, .returned result)
  | .returned result => (store, .returned result)
  | .raised error => (store, .raised error)

/-- An exception at the next statement. -/
def SubmitPhase.raise : SubmitPhase → SubmitPhase
  | .returned result => .returned result
  | .raised error => .raised error
  | _ => .raised none

structure IntakeState where
  store : Store
  calls : List SubmitCall

inductive IntakeLabel
  | submit (form : LeadForm) (context : RequestContext)
  | next (call : Nat) (draws : SubmitDraws)
  | raise (call : Nat)

def LeadRoutingService.step (s : IntakeState) : IntakeLabel → IntakeState
  | .submit form context => { s with calls := s.calls ++ [⟨form, context, .replay⟩] }
  | .next i draws =>
    match s.calls[i]? with
    | none => s
    | some call =>
      let (store, phase) := service.next s.store call draws
      ⟨store, s.calls.set i { call with phase }⟩
  | .raise i =>
    match s.calls[i]? with
    | none => s
    | some call => { s with calls := s.calls.set i { call with phase := call.phase.raise } }

/-- The store and the phase of a call that runs alone. -/
def LeadRoutingService.alone (form : LeadForm) (context : RequestContext) (draws : SubmitDraws) (store : Store)
    (phase : SubmitPhase) : Nat → Store × SubmitPhase
  | 0 => (store, phase)
  | n + 1 =>
    let (store, phase) := service.next store ⟨form, context, phase⟩ draws
    alone form context draws store phase n

end

/-- What a call that ended leaves, as `submit` says it. -/
def SubmitPhase.outcome (store : Store) : SubmitPhase → Option (Except SubmitError (Store × LeadSubmissionResult))
  | .returned result => some (.ok (store, result))
  | .raised (some error) => some (.error error)
  | _ => none

section Alone
variable (service : LeadRoutingService) (store : Store) (form : LeadForm) (context : RequestContext)
  (draws : SubmitDraws)

theorem alone_succ (phase : SubmitPhase) (n : Nat) : service.alone form context draws store phase (n + 1) =
    service.alone form context draws (service.next store ⟨form, context, phase⟩ draws).1
      (service.next store ⟨form, context, phase⟩ draws).2 n := rfl

/-- A call that has ended stays as it is. -/
theorem alone_ended {phase : SubmitPhase}
    (ended : service.next store ⟨form, context, phase⟩ draws = (store, phase)) (n : Nat) :
    service.alone form context draws store phase n = (store, phase) := by
  induction n with
  | zero => rfl
  | succ n ih => rw [alone_succ, ended, ih]

theorem alone_accept (profile : RoutingProfile) :
    let ended := service.alone form context draws store (.duplicates profile) 4
    ended.2.outcome ended.1 = some (service.accept store form context draws profile) := by
  unfold LeadRoutingService.accept
  rw [alone_succ]
  cases twice : service.duplicateOf store form context with
  | some duplicate =>
    simp only [LeadRoutingService.next, twice]
    rw [alone_ended _ _ _ _ _ rfl]
    unfold LeadRoutingService.duplicateOf at twice
    rw [twice]
    rfl
  | none =>
    simp only [LeadRoutingService.next, twice, alone_succ]
    unfold LeadRoutingService.duplicateOf at twice
    rw [twice]
    dsimp only
    cases inserted : service.insert store form context draws profile (service.spamAssessor form context)
        (store.activeAssignment form.propertyId) with
    | some after => rfl
    | none =>
      dsimp only
      cases won : store.idempotencyWinner form with
      | error error => rfl
      | ok answer =>
        obtain ⟨same, result⟩ := answer
        unfold Store.idempotencyWinner at won
        split at won
        · cases won
        · cases won
          rfl

/-- A call that runs alone is `submit`. -/
theorem alone_submit :
    let ended := service.alone form context draws store .replay 6
    ended.2.outcome ended.1 = some (service.submit store form context draws) := by
  unfold LeadRoutingService.submit
  rw [alone_succ]
  cases under : store.leadUnder form with
  | some replay =>
    simp only [LeadRoutingService.next, under]
    rw [alone_ended _ _ _ _ _ rfl]
    rfl
  | none =>
    simp only [LeadRoutingService.next, under]
    rw [alone_succ]
    simp only [LeadRoutingService.next]
    cases found : store.profiles.find? fun profile => profile.propertyId = form.propertyId && profile.active with
    | none =>
      dsimp only
      rw [alone_ended _ _ _ _ _ rfl]
      rfl
    | some profile =>
      dsimp only
      by_cases consent : form.consentTextVersion ≠ service.policy.consentTextVersion
      · rw [if_pos consent, if_pos consent, alone_ended _ _ _ _ _ rfl]
        rfl
      · rw [if_neg consent, if_neg consent]
        by_cases referral : form.referralDisclosureVersion ≠ service.policy.referralDisclosureVersion
        · rw [if_pos referral, if_pos referral, alone_ended _ _ _ _ _ rfl]
          rfl
        · rw [if_neg referral, if_neg referral]
          by_cases limited : draws.allow (service.fingerprint form context) service.policy.rateLimitCount
              service.policy.rateLimitWindowSeconds = false
          · rw [if_pos limited, if_pos limited, alone_ended _ _ _ _ _ rfl]
            rfl
          · rw [if_neg limited, if_neg limited]
            exact alone_accept service store form context draws profile

end Alone

/-! ## What a run of calls keeps -/

section Condition
variable (service : LeadRoutingService) (s : IntakeState)

/-- A duplicate has the key itself, or the key has no lead and no other answer. -/
def IntakeState.SameAnswer (form : LeadForm) (duplicate : Lead) : Prop :=
  duplicate.uniqueKey = form.uniqueKey ∨ s.store.leadUnder form = none ∧
    ∀ other ∈ s.calls, other.form.uniqueKey = form.uniqueKey → other.answer = none ∨ other.answer = some duplicate.id

/-- Where the key has no lead there is no duplicate, and no answer under the key. -/
def IntakeState.StillNew (form : LeadForm) (context : RequestContext) : Prop :=
  s.store.leadUnder form = none → service.duplicateOf s.store form context = none ∧
    ∀ other ∈ s.calls, other.form.uniqueKey = form.uniqueKey → other.answer = none

instance (form : LeadForm) (duplicate : Lead) : Decidable (s.SameAnswer form duplicate) :=
  inferInstanceAs (Decidable (_ ∨ _ ∧ _))

instance (form : LeadForm) (context : RequestContext) : Decidable (s.StillNew service form context) :=
  inferInstanceAs (Decidable (_ → _))

/-- What the select of duplicates and the insert find. -/
def IntakeState.Settles (form : LeadForm) (context : RequestContext) : SubmitPhase → Prop
  | .duplicates _ => ∀ duplicate ∈ service.duplicateOf s.store form context, s.SameAnswer form duplicate
  | .insert _ _ => s.StillNew service form context
  | _ => True

instance (form : LeadForm) (context : RequestContext) : ∀ phase, Decidable (s.Settles service form context phase)
  | .duplicates _ => inferInstanceAs (Decidable (∀ duplicate ∈ service.duplicateOf _ _ _, s.SameAnswer form duplicate))
  | .insert _ _ => inferInstanceAs (Decidable (s.StillNew service form context))
  | .replay | .checks | .assign _ | .winner | .committed _ | .returned _ | .raised _ =>
    inferInstanceAs (Decidable True)

/-- No call is answered, and no lead inserted, on a select that is out of date. -/
def LeadRoutingService.intakeOk : IntakeLabel → Prop
  | .next i _ => ∀ call ∈ s.calls[i]?, s.Settles service call.form call.context call.phase
  | _ => True

instance : ∀ a, Decidable (service.intakeOk s a)
  | .next i _ => inferInstanceAs (Decidable (∀ call ∈ s.calls[i]?, s.Settles service _ _ _))
  | .submit _ _ | .raise _ => inferInstanceAs (Decidable True)

/-- All answers under a key are one lead, and no two leads that were created for one
contact were received within the window of each other. -/
structure IntakeState.Intact (start : Store) : Prop where
  oneLead : ∀ call ∈ s.calls, ∀ other ∈ s.calls, call.form.uniqueKey = other.form.uniqueKey →
    ∀ id id', call.answer = some id → other.answer = some id' → id = id'
  apart : ∀ lead ∈ s.store.leads, ∀ other ∈ s.store.leads, lead ∉ start.leads → other ∉ start.leads →
    lead.id ≠ other.id → lead.piiDeletedAt = none → other.piiDeletedAt = none →
    lead.propertyId = other.propertyId → lead.dedupeHash = other.dedupeHash →
    (service.policy.dedupeWindowMinutes * 60 : ℚ) < |lead.receivedAt - other.receivedAt|

end Condition

/-- What the next statement of a call does. -/
inductive SubmitEffect (service : LeadRoutingService) (store : Store) (call : SubmitCall) : Store → SubmitPhase → Prop
  | same : SubmitEffect service store call store call.phase
  | going {phase : SubmitPhase} (silent : ∀ result, phase ≠ .committed result ∧ phase ≠ .returned result) :
      SubmitEffect service store call store phase
  | replayed {lead : Lead} {result : LeadSubmissionResult} (under : store.leadUnder call.form = some lead)
      (id : result.leadId = lead.id) : SubmitEffect service store call store (.returned result)
  | duplicate {profile : RoutingProfile} {lead : Lead} {result : LeadSubmissionResult}
      (before : call.phase = .duplicates profile)
      (found : service.duplicateOf store call.form call.context = some lead) (id : result.leadId = lead.id) :
      SubmitEffect service store call store (.returned result)
  | inserted {profile : RoutingProfile} {assignment : Option ProviderAssignment} {after : Store} {lead : Lead}
      {result : LeadSubmissionResult} (before : call.phase = .insert profile assignment)
      (leads : after.leads = store.leads ++ [lead]) (unique : (after.leads.map Lead.uniqueKey).Nodup)
      (key : lead.uniqueKey = call.form.uniqueKey) (hash : lead.dedupeHash = service.dedupeHash call.form)
      (received : lead.receivedAt = call.context.receivedAt) (id : result.leadId = lead.id) :
      SubmitEffect service store call after (.committed result)
  | finished {result : LeadSubmissionResult} (before : call.phase = .committed result) :
      SubmitEffect service store call store (.returned result)

/-- The lead that an insert adds. -/
theorem insert_lead {service : LeadRoutingService} {s after : Store} {form : LeadForm} {context : RequestContext}
    {draws : SubmitDraws} {profile : RoutingProfile} {assessment : SpamAssessmentResult}
    {assignment : Option ProviderAssignment}
    (inserted : service.insert s form context draws profile assessment assignment = some after) :
    ∃ lead : Lead, after.leads = s.leads ++ [lead] ∧ (after.leads.map Lead.uniqueKey).Nodup ∧
      lead.id = draws.leadId ∧ lead.uniqueKey = form.uniqueKey ∧ lead.dedupeHash = service.dedupeHash form ∧
      lead.receivedAt = context.receivedAt := by
  obtain ⟨eq, constrained⟩ := Store.checked_eq inserted
  rw [← eq] at constrained
  exact ⟨_, congrArg Store.leads eq, constrained.leadKeys, rfl, rfl, rfl, rfl⟩

theorem next_effect (service : LeadRoutingService) (store : Store) (call : SubmitCall) (draws : SubmitDraws) :
    SubmitEffect service store call (service.next store call draws).1 (service.next store call draws).2 := by
  obtain ⟨form, context, phase⟩ := call
  cases phase with
  | replay =>
    simp only [LeadRoutingService.next]
    split
    · rename_i replay under
      exact .replayed under rfl
    · exact .going (by simp)
  | checks =>
    simp only [LeadRoutingService.next]
    repeat' split
    all_goals exact .going (by simp)
  | duplicates profile =>
    simp only [LeadRoutingService.next]
    split
    · rename_i duplicate found
      exact .duplicate rfl found rfl
    · exact .going (by simp)
  | assign profile => exact .going (by simp [LeadRoutingService.next])
  | insert profile assignment =>
    simp only [LeadRoutingService.next]
    split
    · exact .going (by simp)
    · rename_i after inserted
      obtain ⟨lead, leads, unique, id, key, hash, received⟩ := insert_lead inserted
      exact .inserted rfl leads unique key hash received id.symm
  | winner =>
    simp only [LeadRoutingService.next, Store.idempotencyWinner]
    cases under : store.leadUnder form with
    | none => exact .going (by simp)
    | some winner => exact .replayed under rfl
  | committed result => exact .finished rfl
  | returned result => exact .same
  | raised error => exact .same

/-! ## The invariant -/

/-- An answer is the lead of its key, if the key has one, and so is what a call has
committed. -/
structure IntakeInv (service : LeadRoutingService) (start : Store) (s : IntakeState) : Prop where
  unique : (s.store.leads.map Lead.uniqueKey).Nodup
  answered : ∀ call ∈ s.calls, ∀ id, call.answer = some id → ∀ lead, s.store.leadUnder call.form = some lead →
    lead.id = id
  committed : ∀ call ∈ s.calls, ∀ result, call.phase = .committed result →
    ∃ lead, s.store.leadUnder call.form = some lead ∧ lead.id = result.leadId
  intact : s.Intact service start

/-- Forms of one key have one lead. -/
theorem leadUnder_congr (store : Store) {form other : LeadForm} (same : form.uniqueKey = other.uniqueKey) :
    store.leadUnder form = store.leadUnder other := congrArg (Table.get Lead.uniqueKey store.leads) same

theorem leadUnder_of_mem {store : Store} (unique : (store.leads.map Lead.uniqueKey).Nodup) {lead : Lead}
    (member : lead ∈ store.leads) {form : LeadForm} (key : lead.uniqueKey = form.uniqueKey) :
    store.leadUnder form = some lead := by
  have found : Table.get Lead.uniqueKey store.leads lead.uniqueKey = some lead := Table.get_of_mem unique member
  rw [key] at found
  exact found

section Append
variable {store after : Store} {lead : Lead} (leads : after.leads = store.leads ++ [lead])
include leads

theorem leadUnder_append {form : LeadForm} {old : Lead} (found : store.leadUnder form = some old) :
    after.leadUnder form = some old := by
  unfold Store.leadUnder Table.get at found ⊢
  rw [leads, List.find?_append, found]
  rfl

theorem leadUnder_before {form : LeadForm} {found : Lead} (there : after.leadUnder form = some found)
    (other : lead.uniqueKey ≠ form.uniqueKey) : store.leadUnder form = some found := by
  unfold Store.leadUnder Table.get at there ⊢
  rw [leads, List.find?_append] at there
  have none_ : [lead].find? (fun row => row.uniqueKey = (form.propertyId, form.idempotencyKey.value)) = none := by
    change lead.uniqueKey ≠ (form.propertyId, form.idempotencyKey.value) at other
    simpa using other
  rw [none_, Option.or_none] at there
  exact there

/-- The key of a new lead had none. -/
theorem leadUnder_fresh (unique : (after.leads.map Lead.uniqueKey).Nodup) {form : LeadForm}
    (key : lead.uniqueKey = form.uniqueKey) : store.leadUnder form = none := by
  unfold Store.leadUnder Table.get
  rw [List.find?_eq_none]
  intro old member same
  rw [leads, List.map_append, List.nodup_append] at unique
  exact unique.2.2 old.uniqueKey (List.mem_map_of_mem member) lead.uniqueKey (by simp)
    ((of_decide_eq_true same).trans key.symm)

end Append

section Steps
variable {service : LeadRoutingService} {start : Store} {s : IntakeState} (kept : IntakeInv service start s) {i : Nat}
  {call : SubmitCall} (there : s.calls[i]? = some call)

/-- The state when a call goes on without a change of the store. -/
def IntakeState.to (s : IntakeState) (i : Nat) (call : SubmitCall) (phase : SubmitPhase) : IntakeState :=
  { s with calls := s.calls.set i { call with phase } }

include kept

theorem inv_silent {phase : SubmitPhase} (silent : ∀ result, phase ≠ .committed result ∧ phase ≠ .returned result) :
    IntakeInv service start (s.to i call phase) := by
  have answerless : ({ call with phase } : SubmitCall).answer = none := by
    cases phase with
    | returned result => exact absurd rfl (silent result).2
    | _ => rfl
  have old {other : SubmitCall} (member : other ∈ s.calls.set i { call with phase }) :
      other ∈ s.calls ∨ other = { call with phase } := List.mem_or_eq_of_mem_set member
  constructor
  · exact kept.unique
  · intro other member id answer
    obtain before | rfl := old member
    · exact kept.answered other before id answer
    · rw [answerless] at answer
      cases answer
  · intro other member result ended
    obtain before | rfl := old member
    · exact kept.committed other before result ended
    · exact absurd ended (silent result).1
  · constructor
    · intro one member two member' same id id' answer answer'
      obtain before | rfl := old member
      · obtain before' | rfl := old member'
        · exact kept.intact.oneLead one before two before' same id id' answer answer'
        · rw [answerless] at answer'
          cases answer'
      · rw [answerless] at answer
        cases answer
    · exact kept.intact.apart

/-- A call may return a lead that agrees with the other answers under its key, and
with the lead of the key. -/
theorem inv_returned {result : LeadSubmissionResult}
    (under : ∀ lead, s.store.leadUnder call.form = some lead → lead.id = result.leadId)
    (agrees : ∀ other ∈ s.calls, other.form.uniqueKey = call.form.uniqueKey → ∀ id, other.answer = some id →
      id = result.leadId) : IntakeInv service start (s.to i call (.returned result)) := by
  have old {other : SubmitCall} (member : other ∈ s.calls.set i { call with phase := .returned result }) :
      other ∈ s.calls ∨ other = { call with phase := .returned result } := List.mem_or_eq_of_mem_set member
  constructor
  · exact kept.unique
  · intro other member id answer
    obtain before | rfl := old member
    · exact kept.answered other before id answer
    · cases answer
      exact under
  · intro other member result' ended
    obtain before | rfl := old member
    · exact kept.committed other before result' ended
    · cases ended
  · constructor
    · intro one member two member' same id id' answer answer'
      obtain before | rfl := old member
      · obtain before' | rfl := old member'
        · exact kept.intact.oneLead one before two before' same id id' answer answer'
        · cases answer'
          exact agrees one before same id answer
      · cases answer
        obtain before' | rfl := old member'
        · exact (agrees two before' same.symm id' answer').symm
        · cases answer'
          rfl
    · exact kept.intact.apart

/-- So it may return the lead of its key. -/
theorem inv_under {lead : Lead} {result : LeadSubmissionResult} (under : s.store.leadUnder call.form = some lead)
    (id : result.leadId = lead.id) : IntakeInv service start (s.to i call (.returned result)) := by
  apply inv_returned kept
  · intro other found
    rw [under] at found
    rw [id, Option.some.inj found]
  · intro other member same answer found
    rw [← leadUnder_congr _ same] at under
    rw [id, kept.answered other member answer found lead under]

/-- A lead that is inserted while there is no duplicate is apart from the others. -/
theorem inv_inserted {after : Store} {lead : Lead} {result : LeadSubmissionResult}
    (leads : after.leads = s.store.leads ++ [lead]) (unique : (after.leads.map Lead.uniqueKey).Nodup)
    (key : lead.uniqueKey = call.form.uniqueKey) (hash : lead.dedupeHash = service.dedupeHash call.form)
    (received : lead.receivedAt = call.context.receivedAt) (id : result.leadId = lead.id)
    (still : s.StillNew service call.form call.context) :
    IntakeInv service start ⟨after, s.calls.set i { call with phase := .committed result }⟩ := by
  obtain ⟨alone, unanswered⟩ := still (leadUnder_fresh leads unique key)
  have old {other : SubmitCall} (member : other ∈ s.calls.set i { call with phase := .committed result }) :
      other ∈ s.calls ∨ other = { call with phase := .committed result } := List.mem_or_eq_of_mem_set member
  have far {other : Lead} (member : other ∈ s.store.leads) (alive : other.piiDeletedAt = none)
      (property : lead.propertyId = other.propertyId) (contact : lead.dedupeHash = other.dedupeHash) :
      (service.policy.dedupeWindowMinutes * 60 : ℚ) < lead.receivedAt - other.receivedAt := by
    have place : lead.propertyId = call.form.propertyId := congrArg Prod.fst key
    have missed := List.find?_eq_none.mp alone other member
    simp only [← property, place, ← contact, hash, alive, Option.isNone_none, decide_true, Bool.true_and,
      Bool.and_true, decide_eq_true_eq, not_le, ← received] at missed
    linarith
  constructor
  · exact unique
  · intro other member answer found under there
    obtain before | rfl := old member
    · by_cases same : other.form.uniqueKey = call.form.uniqueKey
      · rw [unanswered other before same] at found
        cases found
      · exact kept.answered other before answer found under
          (leadUnder_before leads there fun equal => same (equal.symm.trans key))
    · cases found
  · intro other member result' ended
    obtain before | rfl := old member
    · obtain ⟨under, found, same⟩ := kept.committed other before result' ended
      exact ⟨under, leadUnder_append leads found, same⟩
    · cases ended
      exact ⟨lead, leadUnder_of_mem unique (by simp [leads]) key, id.symm⟩
  · constructor
    · intro one member two member' same answer answer' found found'
      obtain before | rfl := old member
      · obtain before' | rfl := old member'
        · exact kept.intact.oneLead one before two before' same answer answer' found found'
        · cases found'
      · cases found
    · intro one member two member' new new' differs alive alive' property contact
      dsimp only at member member'
      rw [leads, List.mem_append, List.mem_singleton] at member member'
      obtain before | rfl := member
      · obtain before' | rfl := member'
        · exact kept.intact.apart one before two before' new new' differs alive alive' property contact
        · rw [abs_sub_comm]
          exact lt_of_lt_of_le (far before alive property.symm contact.symm) (le_abs_self _)
      · obtain before' | rfl := member'
        · exact lt_of_lt_of_le (far before' alive' property contact) (le_abs_self _)
        · exact absurd rfl differs

include there in
theorem inv_effect {after : Store} {phase : SubmitPhase} (effect : SubmitEffect service s.store call after phase)
    (settles : s.Settles service call.form call.context call.phase) :
    IntakeInv service start ⟨after, s.calls.set i { call with phase }⟩ := by
  cases effect with
  | same =>
    rw [Table.set_same there]
    exact kept
  | going silent => exact inv_silent kept silent
  | replayed under id => exact inv_under kept under id
  | @duplicate _ lead _ before found id =>
    rw [before] at settles
    obtain own | ⟨bare, alone⟩ := settles lead found
    · exact inv_under kept (leadUnder_of_mem kept.unique (List.mem_of_find?_eq_some found) own) id
    · apply inv_returned kept
      · intro other under
        rw [bare] at under
        cases under
      · intro other member same answer answered
        obtain none_ | equal := alone other member same
        · rw [none_] at answered
          cases answered
        · rw [equal] at answered
          rw [id, Option.some.inj answered]
  | inserted before leads unique key hash received id =>
    rw [before] at settles
    exact inv_inserted kept leads unique key hash received id settles
  | finished before =>
    obtain ⟨lead, under, same⟩ := kept.committed call (List.mem_of_getElem? there) _ before
    exact inv_under kept under same.symm

theorem inv_step {a : IntakeLabel} (ok : service.intakeOk s a) : IntakeInv service start (service.step s a) := by
  cases a with
  | submit form context =>
    have old {other : SubmitCall} (member : other ∈ s.calls ++ [⟨form, context, .replay⟩]) :
        other ∈ s.calls ∨ other = ⟨form, context, .replay⟩ := by
      simpa using member
    constructor
    · exact kept.unique
    · intro other member id answer
      obtain before | rfl := old member
      · exact kept.answered other before id answer
      · cases answer
    · intro other member result ended
      obtain before | rfl := old member
      · exact kept.committed other before result ended
      · cases ended
    · constructor
      · intro one member two member' same id id' answer answer'
        obtain before | rfl := old member
        · obtain before' | rfl := old member'
          · exact kept.intact.oneLead one before two before' same id id' answer answer'
          · cases answer'
        · cases answer
      · exact kept.intact.apart
  | next i draws =>
    simp only [LeadRoutingService.step]
    split
    · exact kept
    · rename_i call there
      exact inv_effect kept there (next_effect service s.store call draws) (ok call there)
  | raise i =>
    simp only [LeadRoutingService.step]
    split
    · exact kept
    · rename_i call there
      cases phase : call.phase with
      | returned result =>
        rw [SubmitPhase.raise, ← phase, Table.set_same there]
        exact kept
      | _ => exact inv_silent kept (by simp [SubmitPhase.raise])

end Steps

/-! ## Every run -/

/-- Calls whose selects are up to date when they end are answered with one lead for a
key, and create no two leads of one contact within the window. -/
theorem submissions_intact (service : LeadRoutingService) (start : Store)
    (unique : (start.leads.map Lead.uniqueKey).Nodup) (labels : List IntakeLabel)
    (allowed : Runs.Allowed service.intakeOk service.step ⟨start, []⟩ labels) :
    (labels.foldl service.step ⟨start, []⟩).Intact service start := by
  have begin_ : IntakeInv service start ⟨start, []⟩ := by
    constructor
    · exact unique
    · simp
    · simp
    · constructor
      · simp
      · intro lead member other _ new
        exact absurd member new
  have run : ∀ s, IntakeInv service start s → Runs.Allowed service.intakeOk service.step s labels →
      IntakeInv service start (labels.foldl service.step s) := by
    clear allowed
    induction labels with
    | nil => exact fun s kept _ => kept
    | cons a labels ih => exact fun s kept allowed => ih _ (inv_step kept allowed.1) allowed.2
  exact (run _ begin_ allowed).intact

/-! ### Retries and double clicks -/

namespace Sample

def clickForm (key : String) (short : 12 ≤ key.length) (long : key.length ≤ 128)
    (pattern : key.toList.all keyCharacter = true) : LeadForm :=
  { tombstoneForm with idempotencyKey := ⟨key, short, long, pattern⟩ }

def firstClick : LeadForm := clickForm "click-000001" (by decide +kernel) (by decide +kernel) (by decide +kernel)
def secondClick : LeadForm := clickForm "click-000002" (by decide +kernel) (by decide +kernel) (by decide +kernel)

def contextAt (receivedAt : DateTime) : RequestContext := { context with receivedAt }

def drawing (leadId : String) : SubmitDraws :=
  { draws with
    leadId
    deliveryId := fun channel => leadId ++ "-" ++ channel.value }

/-- So many statements of a call. -/
def statements (call n : Nat) (leadId : String) : List IntakeLabel := List.replicate n (.next call (drawing leadId))

/-- A request and its retry, with one key, at the same time. -/
def retried : List IntakeLabel :=
  [.submit firstClick (contextAt 100), .submit firstClick (contextAt 101)] ++ statements 0 2 "lead-a" ++
    statements 1 2 "lead-b" ++ statements 0 4 "lead-a" ++ statements 1 1 "lead-b"

/-- A double click whose two requests have keys of their own. -/
def doubleClick : List IntakeLabel :=
  [.submit firstClick (contextAt 100), .submit secondClick (contextAt 101)] ++ statements 0 4 "lead-a" ++
    statements 1 4 "lead-b" ++ statements 0 2 "lead-a" ++ statements 1 2 "lead-b"

/-- The second click is a duplicate; its retry comes after the window. -/
def lateRetry : List IntakeLabel :=
  [.submit firstClick (contextAt 100)] ++ statements 0 6 "lead-a" ++ [.submit secondClick (contextAt 101)] ++
    statements 1 3 "lead-b" ++ [.submit secondClick (contextAt 4000)] ++ statements 2 6 "lead-c"

def intakeAfter (labels : List IntakeLabel) : IntakeState := labels.foldl service.step ⟨leads [], []⟩

end Sample

theorem retried_intact : (Sample.retried.foldl Sample.service.step ⟨Sample.leads [], []⟩).Intact Sample.service
    (Sample.leads []) :=
  submissions_intact Sample.service (Sample.leads []) (by decide +kernel) Sample.retried (by decide +kernel)

/-- A double click makes two leads of one contact a second apart, each with its own
deliveries, and a key that was answered with a duplicate is answered with another lead
later. -/
theorem double_click_routed_twice :
    (((Sample.intakeAfter Sample.doubleClick).store.leads.map fun lead => (lead.id, lead.receivedAt, lead.piiDeletedAt)) =
        [("lead-a", 100, none), ("lead-b", 101, none)] ∧
      (Sample.intakeAfter Sample.doubleClick).store.leads.map Lead.dedupeHash =
        List.replicate 2 (Sample.service.dedupeHash Sample.firstClick) ∧
      ((Sample.intakeAfter Sample.doubleClick).store.deliveries.map ProviderDelivery.leadId) =
        ["lead-a", "lead-a", "lead-b", "lead-b"]) ∧
    ((Sample.intakeAfter Sample.lateRetry).calls.map fun call => (call.form.idempotencyKey.value, call.answer)) =
      [("click-000001", some "lead-a"), ("click-000002", some "lead-a"), ("click-000002", some "lead-c")] := by
  decide +kernel

end RankRent.Leads
