import Mathlib.Data.List.Basic
import Mathlib.Data.List.Induction
import Mathlib.Logic.Function.Basic
import Mathlib.Order.Basic
import Mathlib.Order.Lattice

/-!
# Sliding windows

For each key a queue of the times at which it was admitted. A call drops what has
expired off the front and looks only at the rest, so what the queues answer is to be
read from the log of all calls.
-/

namespace SlidingWindow
universe u v w
variable {κ : Type u} {τ : Type v} {ρ : Type w}

/-! ## Calls and their log -/

/-- A call of a key at a time, with its answer. -/
structure Entry (κ : Type u) (τ : Type v) (ρ : Type w) where
  key : κ
  time : τ
  answer : ρ
  deriving DecidableEq

def Entry.map {ρ' : Type*} (f : ρ → ρ') (e : Entry κ τ ρ) : Entry κ τ ρ' := ⟨e.key, e.time, f e.answer⟩

section Calls
variable [DecidableEq κ]

/-- A call works on the queue of its own key. -/
def onKey (serve : List τ → τ → ρ × List τ) (queues : κ → List τ) (key : κ) (now : τ) : ρ × (κ → List τ) :=
  ((serve (queues key) now).1, Function.update queues key (serve (queues key) now).2)

/-- One more call: the queues after it and the log with its answer. -/
def call (serve : List τ → τ → ρ × List τ) (s : (κ → List τ) × List (Entry κ τ ρ)) (c : κ × τ) :
    (κ → List τ) × List (Entry κ τ ρ) :=
  let answered := onKey serve s.1 c.1 c.2
  (answered.2, s.2 ++ [⟨c.1, c.2, answered.1⟩])

/-- All calls, from empty queues. -/
def run (serve : List τ → τ → ρ × List τ) (calls : List (κ × τ)) : (κ → List τ) × List (Entry κ τ ρ) :=
  calls.foldl (call serve) (fun _ => [], [])

variable {serve : List τ → τ → ρ × List τ} {calls : List (κ × τ)}

theorem run_snoc (c : κ × τ) : run serve (calls ++ [c]) = call serve (run serve calls) c := by
  simp only [run, List.foldl_append, List.foldl_cons, List.foldl_nil]

theorem log_snoc (c : κ × τ) :
    (run serve (calls ++ [c])).2 =
      (run serve calls).2 ++ [⟨c.1, c.2, (serve ((run serve calls).1 c.1) c.2).1⟩] := by
  rw [run_snoc]
  rfl

theorem queue_snoc_same (key : κ) (now : τ) :
    (run serve (calls ++ [(key, now)])).1 key = (serve ((run serve calls).1 key) now).2 := by
  rw [run_snoc]
  exact Function.update_self ..

theorem queue_snoc_other {key : κ} {c : κ × τ} (other : c.1 ≠ key) :
    (run serve (calls ++ [c])).1 key = (run serve calls).1 key := by
  rw [run_snoc]
  exact Function.update_of_ne (Ne.symm other) ..

/-- The log has the calls in their order. -/
theorem log_calls (serve : List τ → τ → ρ × List τ) (calls : List (κ × τ)) :
    (run serve calls).2.map (fun e => (e.key, e.time)) = calls := by
  induction calls using List.reverseRecOn with
  | nil => rfl
  | append_singleton calls c ih => rw [log_snoc, List.map_append, ih, List.map_singleton]

/-- What is done to a queue does not depend on how the answer is read. -/
theorem run_map {ρ' : Type*} {f : ρ → ρ'} {serve' : List τ → τ → ρ' × List τ}
    (same : ∀ queue now, serve' queue now = (f (serve queue now).1, (serve queue now).2)) :
    run serve' calls = ((run serve calls).1, (run serve calls).2.map (Entry.map f)) := by
  induction calls using List.reverseRecOn with
  | nil => rfl
  | append_singleton calls c ih =>
    rw [run_snoc, run_snoc, ih]
    simp only [call, onKey, same, List.map_append, List.map_singleton, Entry.map]

/-- A key's queue and its part of the log are those of its own calls alone. -/
theorem run_own (key : κ) :
    (run serve calls).1 key = (run serve (calls.filter fun c => c.1 = key)).1 key ∧
      (run serve calls).2.filter (fun e => e.key = key) = (run serve (calls.filter fun c => c.1 = key)).2 := by
  induction calls using List.reverseRecOn with
  | nil => exact ⟨rfl, rfl⟩
  | append_singleton calls c ih =>
    obtain ⟨queue, log⟩ := ih
    rw [List.filter_append, log_snoc, List.filter_append, log]
    by_cases own : c.1 = key
    · obtain ⟨caller, now⟩ := c
      simp only at own
      subst own
      rw [List.filter_cons_of_pos (by simp), List.filter_cons_of_pos (by simp), List.filter_nil, List.filter_nil,
        queue_snoc_same, queue_snoc_same, log_snoc, queue]
      exact ⟨rfl, rfl⟩
    · rw [List.filter_cons_of_neg (by simpa using own), List.filter_cons_of_neg (by simpa using own),
        List.filter_nil, List.filter_nil, List.append_nil, List.append_nil, queue_snoc_other own]
      exact ⟨queue, rfl⟩

/-- The times at which a key was admitted. -/
def admitted (key : κ) (log : List (Entry κ τ Bool)) : List τ :=
  (log.filter fun e => e.key = key ∧ e.answer = true).map Entry.time

theorem admitted_snoc (key : κ) (log : List (Entry κ τ Bool)) (e : Entry κ τ Bool) :
    admitted key (log ++ [e]) = admitted key log ++ if e.key = key ∧ e.answer = true then [e.time] else [] := by
  rw [admitted, List.filter_append, List.map_append, ← admitted]
  by_cases counted : e.key = key ∧ e.answer = true
  · rw [List.filter_cons_of_pos (by simpa using counted), if_pos counted]
    rfl
  · rw [List.filter_cons_of_neg (by simpa using counted), if_neg counted]
    rfl

end Calls

/-! ## Expiry -/

/-- Which times have expired by now: what has, has later on, and so has all that is older. -/
structure Expiry (τ : Type v) [LinearOrder τ] where
  expired : τ → τ → Bool
  later : ∀ {now time} (after : τ), now ≤ after → expired now time = true → expired after time = true
  older : ∀ {now time} (before : τ), before ≤ time → expired now time = true → expired now before = true

namespace Expiry
variable [LinearOrder τ] (w : Expiry τ)

/-- Expired times are dropped off the front. -/
def prune (now : τ) (queue : List τ) : List τ := queue.dropWhile (w.expired now)

/-- The times that still count. -/
def live (now : τ) (times : List τ) : List τ := times.filter fun time => !w.expired now time

/-- One call: what has expired goes, and the call is admitted where fewer than `limit` are left. -/
def grant (limit : ℕ) (queue : List τ) (now : τ) : Bool × List τ :=
  let kept := w.prune now queue
  if limit ≤ kept.length then (false, kept) else (true, kept ++ [now])

theorem prune_eq_live {queue : List τ} (sorted : queue.Pairwise (· ≤ ·)) (now : τ) :
    w.prune now queue = w.live now queue := by
  induction queue with
  | nil => rfl
  | cons first queue ih =>
    rw [List.pairwise_cons] at sorted
    by_cases gone : w.expired now first = true
    · rw [prune, List.dropWhile_cons_of_pos gone, live, List.filter_cons_of_neg (by simp [gone])]
      exact ih sorted.2
    · rw [prune, List.dropWhile_cons_of_neg gone, live, List.filter_eq_self.mpr]
      intro time member
      rcases List.mem_cons.mp member with rfl | member
      · simpa using gone
      · have stays : w.expired now time ≠ true := fun expired => gone (w.older first (sorted.1 time member) expired)
        simpa using stays

/-- What counts later on is found among what counts now. -/
theorem live_live {now after : τ} (le : now ≤ after) (times : List τ) :
    w.live after (w.live now times) = w.live after times := by
  rw [live, live, List.filter_filter, live]
  apply List.filter_congr
  intro time _
  cases gone : w.expired now time with
  | false => simp
  | true => simp [w.later after le gone]

theorem live_append (now : τ) (times more : List τ) : w.live now (times ++ more) = w.live now times ++ w.live now more :=
  List.filter_append ..

variable [DecidableEq κ] (limit : ℕ) {calls : List (κ × τ)}

/-- The times of the calls, in their order. -/
abbrev Ordered (calls : List (κ × τ)) : Prop := calls.Pairwise fun c d => c.2 ≤ d.2

theorem admitted_sorted (ordered : Ordered calls) (key : κ) :
    (admitted key (run (w.grant limit) calls).2).Pairwise (· ≤ ·) := by
  have times : (run (w.grant limit) calls).2.Pairwise fun e f => e.time ≤ f.time := by
    rw [Ordered, ← log_calls (w.grant limit) calls, List.pairwise_map] at ordered
    exact ordered
  rw [admitted, List.pairwise_map]
  exact times.sublist List.filter_sublist

theorem admitted_le {now : τ} (late : ∀ c ∈ calls, c.2 ≤ now) {key : κ} {time : τ}
    (member : time ∈ admitted key (run (w.grant limit) calls).2) : time ≤ now := by
  obtain ⟨e, logged, rfl⟩ := List.mem_map.mp member
  have called := List.mem_map_of_mem (f := fun e : Entry κ τ Bool => (e.key, e.time)) (List.mem_filter.mp logged).1
  rw [log_calls] at called
  exact late _ called

/-- The queue of a key, pruned, is what still counts of all its admissions. -/
theorem prune_queue (ordered : Ordered calls) (key : κ) {now : τ} (late : ∀ c ∈ calls, c.2 ≤ now) :
    w.prune now ((run (w.grant limit) calls).1 key) =
      w.live now (admitted key (run (w.grant limit) calls).2) := by
  induction calls using List.reverseRecOn generalizing now with
  | nil => rfl
  | append_singleton calls c ih =>
    obtain ⟨before, -, upTo⟩ := List.pairwise_append.mp ordered
    have past : ∀ d ∈ calls, d.2 ≤ c.2 := fun d member => upTo d member c List.mem_cons_self
    have present : c.2 ≤ now := late c List.mem_concat_self
    rw [log_snoc, admitted_snoc]
    by_cases own : c.1 = key
    · obtain ⟨caller, time⟩ := c
      simp only at own past present
      subst own
      have sorted := w.admitted_sorted limit before caller
      have still := sorted.sublist (List.filter_sublist (p := fun t => !w.expired time t))
      rw [queue_snoc_same, grant, ih before past]
      by_cases full : limit ≤ (w.live time (admitted caller (run (w.grant limit) calls).2)).length
      · rw [if_pos full, if_neg (by simp), List.append_nil]
        calc w.prune now (w.live time _) = w.live now (w.live time _) := w.prune_eq_live still now
          _ = _ := w.live_live present _
      · have ends : (w.live time (admitted caller (run (w.grant limit) calls).2) ++ [time]).Pairwise (· ≤ ·) := by
          rw [List.pairwise_append]
          refine ⟨still, List.pairwise_singleton .., ?_⟩
          intro a member b single
          rw [List.mem_singleton.mp single]
          exact w.admitted_le limit past (List.mem_filter.mp member).1
        rw [if_neg full, if_pos (by simp)]
        calc w.prune now (w.live time _ ++ [time]) = w.live now (w.live time _ ++ [time]) := w.prune_eq_live ends now
          _ = w.live now _ ++ w.live now [time] := by rw [live_append, w.live_live present]
          _ = _ := (w.live_append ..).symm
    · rw [queue_snoc_other own, if_neg (fun same => own same.1), List.append_nil]
      exact ih before fun d member => (past d member).trans present

/-- Whether the next call is admitted, from the log. -/
theorem grant_iff (ordered : Ordered calls) (key : κ) {now : τ} (late : ∀ c ∈ calls, c.2 ≤ now) :
    (w.grant limit ((run (w.grant limit) calls).1 key) now).1 = true ↔
      (w.live now (admitted key (run (w.grant limit) calls).2)).length < limit := by
  rw [grant, w.prune_queue limit ordered key late]
  split
  · rename_i full
    simpa using full
  · rename_i free
    simpa using free

/-- Between two times of which the first still counts at the second, no more than `limit`
calls of a key are admitted. -/
theorem admitted_between (ordered : Ordered calls) (key : κ) {first last : τ}
    (counts : w.expired last first = false) :
    ((admitted key (run (w.grant limit) calls).2).filter fun time => first ≤ time ∧ time ≤ last).length ≤ limit := by
  induction calls using List.reverseRecOn with
  | nil => exact Nat.zero_le _
  | append_singleton calls c ih =>
    obtain ⟨before, -, upTo⟩ := List.pairwise_append.mp ordered
    have past : ∀ d ∈ calls, d.2 ≤ c.2 := fun d member => upTo d member c List.mem_cons_self
    have earlier := ih before
    rw [log_snoc, admitted_snoc]
    by_cases granted : c.1 = key ∧ (w.grant limit ((run (w.grant limit) calls).1 c.1) c.2).1 = true
    · rw [if_pos granted, List.filter_append]
      by_cases inside : first ≤ c.2 ∧ c.2 ≤ last
      · have free := (w.grant_iff limit before c.1 past).mp granted.2
        rw [granted.1] at free
        -- Whatever lies in the interval still counts at the new call.
        have counted : ((admitted key (run (w.grant limit) calls).2).filter fun time =>
            first ≤ time ∧ time ≤ last).length ≤ (w.live c.2 (admitted key (run (w.grant limit) calls).2)).length := by
          refine (List.monotone_filter_right _ fun time within => ?_).length_le
          cases gone : w.expired c.2 time with
          | false => rfl
          | true =>
            have expired := w.older first (of_decide_eq_true within).1 (w.later last inside.2 gone)
            rw [counts] at expired
            cases expired
        rw [List.filter_cons_of_pos (by simpa using inside), List.length_append]
        exact Nat.le_trans (Nat.add_le_add_right counted 1) free
      · rw [List.filter_cons_of_neg (by simpa using inside), List.filter_nil, List.append_nil]
        exact earlier
    · rw [if_neg granted, List.append_nil]
      exact earlier

/-- A call is denied only where `limit` admissions of its key still count. -/
theorem denied_full (ordered : Ordered calls) {before after : List (Entry κ τ Bool)} {e : Entry κ τ Bool}
    (log : (run (w.grant limit) calls).2 = before ++ e :: after) (denied : e.answer = false) :
    limit ≤ (w.live e.time (admitted e.key before)).length := by
  induction calls using List.reverseRecOn generalizing after with
  | nil => simp [run] at log
  | append_singleton calls c ih =>
    obtain ⟨sorted, -, upTo⟩ := List.pairwise_append.mp ordered
    rw [log_snoc] at log
    rcases List.eq_nil_or_concat after with rfl | ⟨rest, last, rfl⟩
    · obtain ⟨rfl, single⟩ := List.append_inj' log rfl
      obtain ⟨rfl, -⟩ := List.cons.inj single
      have free := w.grant_iff limit sorted c.1 fun d member => upTo d member c List.mem_cons_self
      simp only at denied ⊢
      rw [denied] at free
      simpa using free
    · rw [List.concat_eq_append, ← List.cons_append, ← List.append_assoc] at log
      exact ih sorted (List.append_inj_left' log rfl)

end Expiry

end SlidingWindow
