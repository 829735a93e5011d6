import RankRent.Leads.Rows

/-!
# What becomes of a delivery

Every commit of a worker, a recovery or a deletion turns a delivery and its
attempts in one of six ways. What is known of a delivery and its attempts is
kept by each.
-/

namespace RankRent.Leads

def Store.attemptsOf (s : Store) (deliveryKey : String) : List RoutingAttempt :=
  s.attempts.filter fun a => a.deliveryKey = deliveryKey

/-- The delivery waits for an attempt. -/
def DeliveryStatus.waiting : DeliveryStatus → Bool
  | .pending | .retrying | .leased => true
  | _ => false

/-- Columns no transaction of the router changes. -/
structure SameDelivery (d d' : ProviderDelivery) : Prop where
  id : d'.id = d.id
  leadId : d'.leadId = d.leadId
  deliveryKey : d'.deliveryKey = d.deliveryKey
  maxAttempts : d'.maxAttempts = d.maxAttempts

/-- The columns the queue is about. -/
structure SameQueue (d d' : ProviderDelivery) : Prop extends SameDelivery d d' where
  status : d'.status = d.status
  attemptCount : d'.attemptCount = d.attemptCount
  workerId : d'.workerId = d.workerId
  leaseToken : d'.leaseToken = d.leaseToken

theorem SameQueue.refl (d : ProviderDelivery) : SameQueue d d := ⟨⟨rfl, rfl, rfl, rfl⟩, rfl, rfl, rfl, rfl⟩

theorem SameQueue.owns {d d' : ProviderDelivery} (same : SameQueue d d') (lease : DeliveryLease) :
    d'.owns lease = d.owns lease := by
  simp only [ProviderDelivery.owns, same.status, same.workerId, same.leaseToken]

theorem SameQueue.trans {d d' d'' : ProviderDelivery} (first : SameQueue d d') (second : SameQueue d' d'') :
    SameQueue d d'' where
  id := second.id.trans first.id
  leadId := second.leadId.trans first.leadId
  deliveryKey := second.deliveryKey.trans first.deliveryKey
  maxAttempts := second.maxAttempts.trans first.maxAttempts
  status := second.status.trans first.status
  attemptCount := second.attemptCount.trans first.attemptCount
  workerId := second.workerId.trans first.workerId
  leaseToken := second.leaseToken.trans first.leaseToken

/-- A delivery and its attempts: as many as were counted, numbered up to the
count, all but the newest ended by a retryable failure. -/
structure Kept (d : ProviderDelivery) (attempts : List RoutingAttempt) : Prop where
  counted : d.attemptCount = attempts.length
  within : d.attemptCount ≤ d.maxAttempts
  numbered : ∀ a ∈ attempts, a.attemptNumber ≤ d.attemptCount
  ordered : (attempts.map RoutingAttempt.attemptNumber).Pairwise (· < ·)
  older : ∀ a ∈ attempts, a.attemptNumber < d.attemptCount → a.status = .retryableFailure
  waiting : d.status.waiting = true →
    d.attemptCount < d.maxAttempts ∧ ∀ a ∈ attempts, a.status = .retryableFailure
  running : ∀ a ∈ attempts, a.status = .running → d.status = .delivering ∨ d.status = .cancelled
  unleased : d.status.active = false → d.leaseToken = none

/-- How one commit leaves a delivery and its attempts. -/
inductive Turn (d d' : ProviderDelivery) (before after : List RoutingAttempt) : Prop
  | stays (same : SameQueue d d') (attempts : after = before)
  | claimed (keeps : SameDelivery d d') (was : d.status.claimable = true) (status : d'.status = .leased)
      (count : d'.attemptCount = d.attemptCount) (attempts : after = before)
  | started (keeps : SameDelivery d d') (was : d.status = .leased) (status : d'.status = .delivering)
      (count : d'.attemptCount = d.attemptCount + 1) (worker : d'.workerId = d.workerId)
      (token : d'.leaseToken = d.leaseToken) (attempt : RoutingAttempt)
      (number : attempt.attemptNumber = d.attemptCount + 1) (attempts : after = before ++ [attempt])
  | released (keeps : SameDelivery d d') (was : d.status = .leased)
      (status : d'.status = .retrying ∨ d'.status = .failed)
      (count : d'.attemptCount = d.attemptCount) (token : d'.leaseToken = none)
      (attempts : after = before)
  | settled (keeps : SameDelivery d d') (was : d.status = .delivering) (waits : d'.status.active = false)
      (unclaimed : d'.status ≠ .pending) (count : d'.attemptCount = d.attemptCount)
      (token : d'.leaseToken = none) (write : RoutingAttempt → RoutingAttempt)
      (attempts : after = before.map write)
      (numbers : ∀ a, (write a).attemptNumber = a.attemptNumber)
      (older : ∀ a ∈ before, a.attemptNumber < d.attemptCount → write a = a)
      (newest : ∀ a ∈ before, a.attemptNumber = d.attemptCount → (write a).status ≠ .running ∧
        (d'.status = .retrying → (write a).status = .retryableFailure))
      (room : d'.status = .retrying → d.attemptCount < d.maxAttempts)
  | cancelled (keeps : SameDelivery d d') (was : d.status.nonterminal = true)
      (status : d'.status = .cancelled) (count : d'.attemptCount = d.attemptCount)
      (token : d'.leaseToken = none) (attempts : after = before)

section Turns
variable {d d' : ProviderDelivery} {before after : List RoutingAttempt}

theorem Turn.keeps (turn : Turn d d' before after) : SameDelivery d d' := by
  cases turn with
  | stays same => exact same.toSameDelivery
  | claimed keeps => exact keeps
  | started keeps => exact keeps
  | released keeps => exact keeps
  | settled keeps => exact keeps
  | cancelled keeps => exact keeps

theorem Kept.distinct (kept : Kept d before) : (before.map RoutingAttempt.attemptNumber).Nodup :=
  kept.ordered.imp fun less => Nat.ne_of_lt less

theorem Kept.of_same (kept : Kept d before) (same : SameQueue d d') : Kept d' before where
  counted := by rw [same.attemptCount, kept.counted]
  within := by rw [same.attemptCount, same.maxAttempts]; exact kept.within
  numbered := by rw [same.attemptCount]; exact kept.numbered
  ordered := kept.ordered
  older := by rw [same.attemptCount]; exact kept.older
  waiting := by rw [same.status, same.attemptCount, same.maxAttempts]; exact kept.waiting
  running := by rw [same.status]; exact kept.running
  unleased := by rw [same.status, same.leaseToken]; exact kept.unleased

/-- What is known of a delivery is kept. -/
theorem Turn.kept (turn : Turn d d' before after) (kept : Kept d before) : Kept d' after := by
  have max := turn.keeps.maxAttempts
  cases turn with
  | stays same attempts =>
    subst attempts
    exact kept.of_same same
  | claimed keeps was status count attempts =>
    subst attempts
    have waits : d.status.waiting = true := by
      revert was
      cases d.status <;> decide
    constructor
    · rw [count, kept.counted]
    · rw [count, max]
      exact kept.within
    · rw [count]
      exact kept.numbered
    · exact kept.ordered
    · rw [count]
      exact kept.older
    · intro _
      rw [count, max]
      exact kept.waiting waits
    · intro a member running
      rw [(kept.waiting waits).2 a member] at running
      cases running
    · intro idle
      rw [status] at idle
      cases idle
  | started keeps was status count worker token attempt number attempts =>
    subst attempts
    have waits : d.status.waiting = true := by rw [was]; rfl
    have all := (kept.waiting waits).2
    constructor
    · rw [count, kept.counted, List.length_append, List.length_singleton]
    · have := (kept.waiting waits).1
      omega
    · intro a member
      obtain member | member := List.mem_append.mp member
      · have := kept.numbered a member
        omega
      · rw [List.mem_singleton] at member
        subst member
        omega
    · rw [List.map_append, List.map_singleton, List.pairwise_append]
      refine ⟨kept.ordered, List.pairwise_singleton _ _, ?_⟩
      intro n member m new
      rw [List.mem_singleton] at new
      obtain ⟨a, there, rfl⟩ := List.mem_map.mp member
      have := kept.numbered a there
      omega
    · intro a member older
      obtain member | member := List.mem_append.mp member
      · exact all a member
      · rw [List.mem_singleton] at member
        subst member
        omega
    · rw [status]
      intro idle
      cases idle
    · intro _ _ _
      exact Or.inl status
    · rw [status]
      intro idle
      cases idle
  | released keeps was status count token attempts =>
    subst attempts
    have waits : d.status.waiting = true := by rw [was]; rfl
    constructor
    · rw [count, kept.counted]
    · rw [count, max]
      exact kept.within
    · rw [count]
      exact kept.numbered
    · exact kept.ordered
    · rw [count]
      exact kept.older
    · intro _
      rw [count, max]
      exact kept.waiting waits
    · intro a member running
      rw [(kept.waiting waits).2 a member] at running
      cases running
    · intro _
      exact token
  | settled keeps was waits unclaimed count token write attempts numbers older newest room =>
    subst attempts
    have split : ∀ a ∈ before, a.attemptNumber < d.attemptCount ∨ a.attemptNumber = d.attemptCount := by
      intro a member
      have := kept.numbered a member
      omega
    constructor
    · rw [count, kept.counted, List.length_map]
    · rw [count, max]
      exact kept.within
    · intro a member
      obtain ⟨b, there, rfl⟩ := List.mem_map.mp member
      rw [numbers, count]
      exact kept.numbered b there
    · have same : (before.map write).map RoutingAttempt.attemptNumber =
          before.map RoutingAttempt.attemptNumber := by
        rw [List.map_map]
        exact List.map_congr_left fun a _ => numbers a
      rw [same]
      exact kept.ordered
    · intro a member small
      obtain ⟨b, there, rfl⟩ := List.mem_map.mp member
      rw [numbers, count] at small
      rw [older b there small]
      exact kept.older b there small
    · intro waiting
      have retries : d'.status = .retrying := by
        revert waiting waits unclaimed
        cases d'.status <;> decide
      refine ⟨by rw [count, max]; exact room retries, ?_⟩
      intro a member
      obtain ⟨b, there, rfl⟩ := List.mem_map.mp member
      obtain small | last := split b there
      · rw [older b there small]
        exact kept.older b there small
      · exact (newest b there last).2 retries
    · intro a member running
      obtain ⟨b, there, rfl⟩ := List.mem_map.mp member
      obtain small | last := split b there
      · rw [older b there small, kept.older b there small] at running
        cases running
      · exact absurd running (newest b there last).1
    · intro _
      exact token
  | cancelled keeps was status count token attempts =>
    subst attempts
    constructor
    · rw [count, kept.counted]
    · rw [count, max]
      exact kept.within
    · rw [count]
      exact kept.numbered
    · exact kept.ordered
    · rw [count]
      exact kept.older
    · rw [status]
      intro idle
      cases idle
    · intro _ _ _
      exact Or.inr status
    · intro _
      exact token

/-- A delivery that is over stays as it is. -/
theorem Turn.terminal (turn : Turn d d' before after) (ended : d.status.nonterminal = false) :
    d'.status = d.status ∧ after = before := by
  cases turn with
  | stays same attempts => exact ⟨same.status, attempts⟩
  | claimed keeps was => simp [DeliveryStatus.nonterminal, was] at ended
  | started keeps was => rw [was] at ended; cases ended
  | released keeps was => rw [was] at ended; cases ended
  | settled keeps was => rw [was] at ended; cases ended
  | cancelled keeps was => rw [was] at ended; cases ended

/-- At most one attempt of a delivery runs. -/
theorem Kept.one_running (kept : Kept d before) :
    (before.filter fun a => a.status = .running).length ≤ 1 := by
  by_contra more
  obtain ⟨a, b, rest, eq⟩ : ∃ a b rest, (before.filter fun a => a.status = .running) = a :: b :: rest := by
    cases eq : before.filter fun a => a.status = .running with
    | nil => simp [eq] at more
    | cons a tail =>
      cases tail with
      | nil => simp [eq] at more
      | cons b rest => exact ⟨a, b, rest, rfl⟩
  have runs : ∀ c ∈ a :: b :: rest, c.attemptNumber = d.attemptCount := by
    intro c member
    rw [← eq, List.mem_filter] at member
    obtain ⟨member, running⟩ := member
    have bound := kept.numbered c member
    by_contra differs
    have older := kept.older c member (by omega)
    simp [older] at running
  have distinct := kept.distinct.sublist ((List.filter_sublist (p := fun a => a.status = .running)).map
    RoutingAttempt.attemptNumber)
  rw [eq, List.map_cons, List.map_cons, List.nodup_cons] at distinct
  refine distinct.1 (List.mem_cons.mpr (Or.inl ?_))
  rw [runs a List.mem_cons_self, runs b (List.mem_cons_of_mem _ List.mem_cons_self)]

end Turns

end RankRent.Leads
