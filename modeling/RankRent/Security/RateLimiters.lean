import Mathlib.Algebra.Order.Field.Basic
import Mathlib.Algebra.Order.Floor.Ring
import Mathlib.Data.Rat.Floor
import Mathlib.Tactic.Linarith
import RankRent.Library.Rounding
import RankRent.Library.SlidingWindow

/-!
# Rate limiters

`FixedWindowRateLimiter` of `security/middleware.py` and `InMemoryRateLimiter` of
`lead_routing/adapters.py`, with exact times. The first drops a time that is a whole
window old, the second only what is older. What a denied call is told to wait is what is
left of the window of its oldest timestamp, cut down to whole seconds, and at least one.
-/

namespace RankRent.Security
open SlidingWindow PyNumber

section
variable {α : Type*} [Field α] [LinearOrder α]

/-! ## The limiters -/

/-- `FixedWindowRateLimiter`, as the settings let it be made. -/
structure FixedWindowRateLimiter where
  requests : ℕ
  windowSeconds : ℕ
  someRequests : 1 ≤ requests
  someSeconds : 1 ≤ windowSeconds

/-- What `FixedWindowRateLimiter.allow` does with the timestamps of its key. -/
def FixedWindowRateLimiter.answer [FloorRing α] (l : FixedWindowRateLimiter) (timestamps : List α) (now : α) :
    (Bool × ℤ) × List α :=
  let threshold := now - l.windowSeconds
  let timestamps := timestamps.dropWhile fun first => first ≤ threshold
  if full : l.requests ≤ timestamps.length then
    let oldest := timestamps.head (List.ne_nil_of_length_pos (Nat.lt_of_lt_of_le l.someRequests full))
    let retryAfter := max 1 (truncate (l.windowSeconds - (now - oldest)))
    ((false, retryAfter), timestamps)
  else ((true, 0), timestamps ++ [now])

/-- `FixedWindowRateLimiter.allow`. -/
def FixedWindowRateLimiter.allow [FloorRing α] (l : FixedWindowRateLimiter) :
    (String → List α) → String → α → (Bool × ℤ) × (String → List α) :=
  onKey l.answer

/-- What `InMemoryRateLimiter.allow` does with the events of its key. -/
def InMemoryRateLimiter.answer (limit windowSeconds : ℕ) (events : List α) (now : α) : Bool × List α :=
  let cutoff := now - windowSeconds
  let events := events.dropWhile fun first => first < cutoff
  if limit ≤ events.length then (false, events) else (true, events ++ [now])

/-- `InMemoryRateLimiter.allow`. -/
def InMemoryRateLimiter.allow (limit windowSeconds : ℕ) :
    (String → List α) → String → α → Bool × (String → List α) :=
  onKey (InMemoryRateLimiter.answer limit windowSeconds)

/-- The calls of a `FixedWindowRateLimiter` with what they returned. -/
def FixedWindowRateLimiter.log [FloorRing α] (l : FixedWindowRateLimiter) (calls : List (String × α)) :
    List (Entry String α (Bool × ℤ)) :=
  (run l.answer calls).2

/-- The calls of an `InMemoryRateLimiter` with what they returned. -/
def InMemoryRateLimiter.log (limit windowSeconds : ℕ) (calls : List (String × α)) : List (Entry String α Bool) :=
  (run (InMemoryRateLimiter.answer limit windowSeconds) calls).2

/-- What the calls were told, without the seconds to wait. -/
def FixedWindowRateLimiter.verdicts [FloorRing α] (l : FixedWindowRateLimiter) (calls : List (String × α)) :
    List (Entry String α Bool) :=
  (l.log calls).map (Entry.map Prod.fst)

/-! ## Their windows -/

section
variable [IsStrictOrderedRing α] (windowSeconds : ℕ)

/-- A time is dropped when it is a whole window old. -/
def wholeWindow : Expiry α where
  expired now time := time ≤ now - windowSeconds
  later after le gone := by
    have := of_decide_eq_true gone
    exact decide_eq_true (by linarith)
  older before le gone := by
    have := of_decide_eq_true gone
    exact decide_eq_true (by linarith)

/-- A time is dropped when it is more than a window old. -/
def pastWindow : Expiry α where
  expired now time := time < now - windowSeconds
  later after le gone := by
    have := of_decide_eq_true gone
    exact decide_eq_true (by linarith)
  older before le gone := by
    have := of_decide_eq_true gone
    exact decide_eq_true (by linarith)

theorem FixedWindowRateLimiter.answer_eq [FloorRing α] (l : FixedWindowRateLimiter) (timestamps : List α) (now : α) :
    (wholeWindow l.windowSeconds).grant l.requests timestamps now =
      ((l.answer timestamps now).1.1, (l.answer timestamps now).2) := by
  rw [Expiry.grant, Expiry.prune, wholeWindow, FixedWindowRateLimiter.answer]
  dsimp only
  split <;> rfl

theorem InMemoryRateLimiter.answer_eq (limit : ℕ) :
    InMemoryRateLimiter.answer (α := α) limit windowSeconds = (pastWindow windowSeconds).grant limit := rfl

theorem FixedWindowRateLimiter.run_eq [FloorRing α] (l : FixedWindowRateLimiter) (calls : List (String × α)) :
    run ((wholeWindow l.windowSeconds).grant l.requests) calls = ((run l.answer calls).1, l.verdicts calls) :=
  run_map l.answer_eq

end

/-! ## What they promise -/

/-- The limiter keeps to `limit` calls in a window of the log. -/
structure Limits (limit : ℕ) (window : α) (log : List (Entry String α Bool)) : Prop where
  /-- No key is admitted more often in an interval that is shorter than the window. -/
  admits : ∀ key first last, last - first < window →
    ((admitted key log).filter fun time => first ≤ time ∧ time ≤ last).length ≤ limit
  /-- A call is denied only after so many of its key within the window before it. -/
  denies : ∀ before (e : Entry String α Bool) after, log = before ++ e :: after → e.answer = false →
    limit ≤ ((admitted e.key before).filter fun time => e.time - window ≤ time ∧ time ≤ e.time).length

/-- The limits of a limiter whose times count while they are younger than the window, and
not when they are older. -/
theorem limits_of_window (w : Expiry α) (limit : ℕ) (window : α)
    (young : ∀ now time, now - time < window → w.expired now time = false)
    (old : ∀ now time, time < now - window → w.expired now time = true) {calls : List (String × α)}
    (ordered : Expiry.Ordered calls) : Limits limit window (run (w.grant limit) calls).2 where
  admits key first last short := w.admitted_between limit ordered key (young last first short)
  denies before e after log denied := by
    refine (w.denied_full limit ordered log denied).trans ?_
    have earlier : ∀ f ∈ before, f.time ≤ e.time := by
      have sorted := ordered
      rw [Expiry.Ordered, ← log_calls (w.grant limit) calls, List.pairwise_map, log,
        List.pairwise_append] at sorted
      exact fun f member => sorted.2.2 f member e List.mem_cons_self
    have kept : ∀ time ∈ admitted e.key before, (!w.expired e.time time) = true →
        decide (e.time - window ≤ time ∧ time ≤ e.time) = true := by
      intro time member counts
      obtain ⟨f, inside, rfl⟩ := List.mem_map.mp member
      refine decide_eq_true ⟨?_, earlier f (List.mem_filter.mp inside).1⟩
      by_contra outside
      rw [old e.time f.time (not_le.mp outside)] at counts
      cases counts
    rw [← List.countP_eq_length_filter, Expiry.live, ← List.countP_eq_length_filter]
    exact List.countP_mono_left kept

/-- For calls in the order of their times both limiters admit no key more than their limit
in any interval shorter than the window, deny a call only where the key has been admitted
so often within the window, and answer each key as if it were alone. -/
theorem limiters_bound_windows [IsStrictOrderedRing α] [FloorRing α] (l : FixedWindowRateLimiter) (limit windowSeconds : ℕ)
    {calls : List (String × α)} (ordered : Expiry.Ordered calls) :
    (Limits l.requests (l.windowSeconds : α) (l.verdicts calls) ∧
        ∀ key, (l.log calls).filter (fun e => e.key = key) = l.log (calls.filter fun c => c.1 = key)) ∧
      Limits limit (windowSeconds : α) (InMemoryRateLimiter.log limit windowSeconds calls) ∧
        ∀ key, (InMemoryRateLimiter.log limit windowSeconds calls).filter (fun e => e.key = key) =
          InMemoryRateLimiter.log limit windowSeconds (calls.filter fun c => c.1 = key) := by
  refine ⟨⟨?_, fun key => (run_own key).2⟩, ?_, fun key => (run_own key).2⟩
  · have limits := limits_of_window (wholeWindow l.windowSeconds) l.requests (l.windowSeconds : α)
      (fun now time short => decide_eq_false (by linarith)) (fun now time old => decide_eq_true old.le) ordered
    rw [l.run_eq] at limits
    exact limits
  · rw [InMemoryRateLimiter.log, InMemoryRateLimiter.answer_eq]
    exact limits_of_window (pastWindow windowSeconds) limit (windowSeconds : α)
      (fun now time short => decide_eq_false (by linarith)) (fun now time old => decide_eq_true old) ordered

end

/-- Two calls of a client within a window of one call, another client between them. -/
def twoClients : List (String × ℚ) := [("a", 0), ("b", 1 / 2), ("a", 3 / 2), ("a", 2)]

def onePerTwoSeconds : FixedWindowRateLimiter := ⟨1, 2, by decide, by decide⟩

example : (onePerTwoSeconds.answer [(0 : ℚ)] 1).1.1 = false := by decide +kernel

theorem twoClients_limited :
    Limits 1 (2 : ℚ) (onePerTwoSeconds.verdicts twoClients) ∧
      (onePerTwoSeconds.verdicts twoClients).map Entry.answer = [true, true, false, true] := by
  have ordered : Expiry.Ordered twoClients := by decide +kernel
  exact ⟨(limiters_bound_windows onePerTwoSeconds 1 2 ordered).1.1, by decide +kernel⟩

/-! ## The seconds to wait -/

/-- Rounded down, but at least one second, a wait is long enough only when it is one second
at the most, or whole. -/
theorem le_max_floor_iff {α : Type*} [Field α] [LinearOrder α] [IsStrictOrderedRing α] [FloorRing α] {left : α} :
    left ≤ (max 1 ⌊left⌋ : ℤ) ↔ left ≤ 1 ∨ ∃ seconds : ℤ, left = seconds := by
  have low := Int.floor_le left
  rw [Int.cast_max, le_max_iff, Int.cast_one]
  constructor
  · rintro (short | whole)
    · exact Or.inl short
    · exact Or.inr ⟨⌊left⌋, le_antisymm whole low⟩
  · rintro (short | ⟨seconds, rfl⟩)
    · exact Or.inl short
    · exact Or.inr (by rw [Int.floor_intCast])

namespace FixedWindowRateLimiter
variable {α : Type*} [Field α] [LinearOrder α] [FloorRing α]
variable (l : FixedWindowRateLimiter) {calls : List (String × α)} {key : String} {t : α}

/-- The timestamps of every key after the calls. -/
def windows (calls : List (String × α)) : String → List α := (run l.answer calls).1

/-- The calls of the key that were admitted in the window before `t`. -/
def recent (calls : List (String × α)) (key : String) (t : α) : List α :=
  (admitted key (l.verdicts calls)).filter fun time => t - l.windowSeconds < time

/-- What the call of the key at `t` is told holds: if it is denied, the wait is between one
second and the window, and after it the key's next call is admitted, whatever other keys do
in between. -/
def HonestAt (calls : List (String × α)) (key : String) (t : α) : Prop :=
  ∀ retryAfter, (l.allow (l.windows calls) key t).1 = (false, retryAfter) →
    1 ≤ retryAfter ∧ retryAfter ≤ l.windowSeconds ∧
      ∀ between : List (String × α), Expiry.Ordered between →
        (∀ c ∈ between, c.1 ≠ key ∧ t ≤ c.2 ∧ c.2 ≤ t + retryAfter) →
        (l.allow (l.windows (calls ++ (key, t) :: between)) key (t + retryAfter)).1 = (true, 0)

/-- The key has not used up its requests at `t`, or the oldest of them leaves the window
within a second or in a whole number of seconds. -/
def LeavesOnTheSecond (calls : List (String × α)) (key : String) (t : α) : Prop :=
  (l.recent calls key t).length < l.requests ∨
    ∃ oldest ∈ (l.recent calls key t).head?,
      l.windowSeconds - (t - oldest) ≤ 1 ∨ ∃ seconds : ℤ, l.windowSeconds - (t - oldest) = seconds

/-- Calls of other keys leave the timestamps of a key alone. -/
theorem windows_others {between : List (String × α)} (others : ∀ c ∈ between, c.1 ≠ key) :
    l.windows (calls ++ between) key = l.windows calls key := by
  induction between using List.reverseRecOn with
  | nil => rw [List.append_nil]
  | append_singleton between c ih =>
    rw [← List.append_assoc, windows, queue_snoc_other (others c List.mem_concat_self)]
    exact ih fun d member => others d (List.mem_append_left _ member)

variable [IsStrictOrderedRing α]

theorem recent_eq (t : α) :
    l.recent calls key t = (wholeWindow l.windowSeconds).live t (admitted key (l.verdicts calls)) := by
  apply List.filter_congr
  intro time _
  rw [wholeWindow, Bool.eq_iff_iff]
  simp

/-- The key's timestamps that are left at `t` are its recent ones. -/
theorem dropWhile_windows (ordered : Expiry.Ordered (calls ++ [(key, t)])) :
    (l.windows calls key).dropWhile (fun first => first ≤ t - l.windowSeconds) = l.recent calls key t := by
  obtain ⟨before, -, upTo⟩ := List.pairwise_append.mp ordered
  have kept := (wholeWindow l.windowSeconds).prune_queue l.requests before key
    fun c member => upTo c member _ List.mem_cons_self
  rw [l.run_eq, ← l.recent_eq] at kept
  exact kept

theorem recent_past (ordered : Expiry.Ordered (calls ++ [(key, t)])) {time : α}
    (member : time ∈ admitted key (l.verdicts calls)) : time ≤ t := by
  obtain ⟨-, -, upTo⟩ := List.pairwise_append.mp ordered
  rw [← show (run ((wholeWindow l.windowSeconds).grant l.requests) calls).2 = l.verdicts calls by rw [l.run_eq]] at member
  exact (wholeWindow l.windowSeconds).admitted_le l.requests (fun c inside => upTo c inside _ List.mem_cons_self) member

/-- Never more than the limit. -/
theorem recent_le (ordered : Expiry.Ordered (calls ++ [(key, t)])) :
    (l.recent calls key t).length ≤ l.requests := by
  have before := (List.pairwise_append.mp ordered).1
  have sorted := (wholeWindow (α := α) l.windowSeconds).admitted_sorted l.requests before key
  have bound (oldest : α) (counts : (wholeWindow l.windowSeconds).expired t oldest = false) :=
    (wholeWindow l.windowSeconds).admitted_between l.requests before key counts
  rw [l.run_eq] at sorted bound
  cases found : l.recent calls key t with
  | nil => exact Nat.zero_le _
  | cons oldest rest =>
    have member : oldest ∈ l.recent calls key t := found ▸ List.mem_cons_self
    have young : t - l.windowSeconds < oldest := of_decide_eq_true (List.mem_filter.mp member).2
    have first : ∀ time ∈ l.recent calls key t, oldest ≤ time := by
      have inOrder := sorted.sublist (List.filter_sublist (p := fun time => t - l.windowSeconds < time))
      change (l.recent calls key t).Pairwise (· ≤ ·) at inOrder
      rw [found] at inOrder ⊢
      intro time inside
      rcases List.mem_cons.mp inside with rfl | later
      · exact le_rfl
      · exact (List.pairwise_cons.mp inOrder).1 time later
    rw [← found]
    refine le_trans ?_ (bound oldest (decide_eq_false (not_le.mpr young)))
    rw [recent, ← List.countP_eq_length_filter, ← List.countP_eq_length_filter]
    apply List.countP_mono_left
    intro time inside within
    exact decide_eq_true ⟨first time (List.mem_filter.mpr ⟨inside, within⟩), l.recent_past ordered inside⟩

/-- A call is admitted while the key has requests left. -/
theorem allow_free (ordered : Expiry.Ordered (calls ++ [(key, t)]))
    (free : (l.recent calls key t).length < l.requests) : (l.allow (l.windows calls) key t).1 = (true, 0) := by
  rw [← l.dropWhile_windows ordered] at free
  rw [allow, onKey, answer]
  dsimp only
  rw [dif_neg (not_le.mpr free)]

/-- A denied call is told to wait for the oldest recent one, which stays first of the timestamps. -/
theorem allow_full (ordered : Expiry.Ordered (calls ++ [(key, t)])) {oldest : α} {rest : List α}
    (found : l.recent calls key t = oldest :: rest) (full : l.requests ≤ (l.recent calls key t).length) :
    (l.allow (l.windows calls) key t).1 = (false, max 1 ⌊l.windowSeconds - (t - oldest)⌋) ∧
      l.windows (calls ++ [(key, t)]) key = oldest :: rest := by
  have kept := l.dropWhile_windows ordered
  have member : oldest ∈ l.recent calls key t := found ▸ List.mem_cons_self
  have young : t - l.windowSeconds < oldest := of_decide_eq_true (List.mem_filter.mp member).2
  have left : ¬ (l.windowSeconds - (t - oldest) < 0) := by linarith
  rw [← kept] at full
  have told : l.answer (l.windows calls key) t = ((false, max 1 ⌊l.windowSeconds - (t - oldest)⌋), oldest :: rest) := by
    rw [answer]
    dsimp only
    rw [dif_pos full]
    simp only [kept, found, List.head_cons, truncate, if_neg left]
  refine ⟨congrArg Prod.fst told, ?_⟩
  rw [windows, queue_snoc_same]
  exact congrArg Prod.snd told

/-- What a call is told holds exactly when the key has requests left, or the oldest of its
recent calls leaves the window within a second or in a whole number of seconds. -/
theorem honest_iff (ordered : Expiry.Ordered (calls ++ [(key, t)])) :
    l.HonestAt calls key t ↔ l.LeavesOnTheSecond calls key t := by
  by_cases free : (l.recent calls key t).length < l.requests
  · refine ⟨fun _ => Or.inl free, fun _ retryAfter denied => ?_⟩
    rw [l.allow_free ordered free] at denied
    cases denied
  have full := not_lt.mp free
  obtain ⟨oldest, rest, found⟩ : ∃ oldest rest, l.recent calls key t = oldest :: rest :=
    List.exists_cons_of_length_pos (Nat.lt_of_lt_of_le l.someRequests full)
  obtain ⟨told, left⟩ := l.allow_full ordered found full
  have upTo := l.recent_le ordered
  have member : oldest ∈ l.recent calls key t := found ▸ List.mem_cons_self
  have past := l.recent_past ordered (List.mem_filter.mp member).1
  -- The oldest recent call is gone after the wait exactly when the wait is long enough.
  have again (between : List (String × α)) (others : ∀ c ∈ between, c.1 ≠ key) (wait : ℤ) :
      (l.allow (l.windows (calls ++ (key, t) :: between)) key (t + wait)).1 = (true, 0) ↔
        l.windowSeconds - (t - oldest) ≤ wait := by
    have window : l.windows (calls ++ (key, t) :: between) key = oldest :: rest := by
      rw [← List.singleton_append, ← List.append_assoc, l.windows_others others, left]
    rw [allow, onKey, window, answer]
    dsimp only
    by_cases gone : oldest ≤ t + wait - l.windowSeconds
    · have fewer : ¬ l.requests ≤ ((oldest :: rest).dropWhile fun first => first ≤ t + wait - l.windowSeconds).length := by
        rw [List.dropWhile_cons_of_pos (by simpa using gone)]
        have shorter := (rest.dropWhile_sublist fun first => decide (first ≤ t + wait - l.windowSeconds)).length_le
        rw [found, List.length_cons] at upTo
        omega
      rw [dif_neg fewer]
      exact ⟨fun _ => by linarith, fun _ => rfl⟩
    · have same : l.requests ≤ ((oldest :: rest).dropWhile fun first => first ≤ t + wait - l.windowSeconds).length := by
        rw [List.dropWhile_cons_of_neg (by simpa using gone), ← found]
        exact full
      rw [dif_pos same]
      refine ⟨fun admitted => ?_, fun enough => absurd (by linarith) gone⟩
      cases admitted
  constructor
  · intro honest
    obtain ⟨-, -, after⟩ := honest _ told
    have enough := (again [] (by simp) _).mp (after [] List.Pairwise.nil (by simp))
    exact Or.inr ⟨oldest, by rw [found]; rfl, le_max_floor_iff.mp enough⟩
  · rintro (more | ⟨first, head, onTheSecond⟩) retryAfter denied
    · exact absurd more free
    · rw [found] at head
      cases head
      rw [told] at denied
      cases denied
      refine ⟨le_max_left _ _, ?_, fun between _ others => ?_⟩
      · have seconds : (1 : ℤ) ≤ l.windowSeconds := by exact_mod_cast l.someSeconds
        have floor_ : ⌊l.windowSeconds - (t - oldest)⌋ ≤ l.windowSeconds := by
          rw [← Int.floor_natCast (R := α) l.windowSeconds]
          exact Int.floor_le_floor (by linarith)
        exact max_le seconds floor_
      · exact (again between (fun c inside => (others c inside).1) _).mpr (le_max_floor_iff.mpr onTheSecond)

end FixedWindowRateLimiter

/-- A denied call that is told to wait for the one second that is left. -/
theorem second_call_honest :
    (onePerTwoSeconds.allow (onePerTwoSeconds.windows [("a", (0 : ℚ))]) "a" 1).1 = (false, 1) ∧
      onePerTwoSeconds.HonestAt [("a", (0 : ℚ))] "a" 1 := by
  refine ⟨by decide +kernel, (onePerTwoSeconds.honest_iff (by decide +kernel)).mpr (Or.inr ⟨0, by decide +kernel, ?_⟩)⟩
  exact Or.inl (by decide +kernel)

/-- A call that is told to wait one second of the one and a half that are left. -/
theorem half_second_short : ¬ onePerTwoSeconds.HonestAt [("a", (0 : ℚ))] "a" (1 / 2) := by
  intro honest
  have denied : (onePerTwoSeconds.allow (onePerTwoSeconds.windows [("a", (0 : ℚ))]) "a" (1 / 2)).1 = (false, 1) := by
    decide +kernel
  have admitted := (honest 1 denied).2.2 [] List.Pairwise.nil (by simp)
  have again : (onePerTwoSeconds.allow (onePerTwoSeconds.windows [("a", (0 : ℚ)), ("a", 1 / 2)]) "a"
      (1 / 2 + ((1 : ℤ) : ℚ))).1 = (false, 1) := by decide +kernel
  exact absurd (again.symm.trans admitted) (by decide)

end RankRent.Security
