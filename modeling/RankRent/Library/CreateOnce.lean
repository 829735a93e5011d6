import RankRent.Library.Runs

/-!
# Objects created once

A system whose calls create objects under addresses, seen from outside: what is
stored, and which calls are bound to succeed, or have failed. Under the step laws
of `CreatesOnce` an object stays as it was created until it is removed.
-/

namespace CreateOnce
variable {σ α κ β : Type*}

/-- How far a call has come. It has `matched` once it found its data stored, and may
still fail; a `bound` call can only succeed. -/
inductive Outcome
  | undecided | matched | bound | succeeded | failed
  deriving DecidableEq

/-- Success is decided. -/
def Outcome.sure : Outcome → Bool
  | .bound | .succeeded => true
  | _ => false

/-- The data of the call have been seen stored. -/
def Outcome.claims : Outcome → Bool
  | .matched => true
  | outcome => outcome.sure

structure Call (κ β : Type*) where
  address : κ
  data : β
  outcome : Outcome

/-- A system by what is seen of it; `mover` is the call that a label is a step of. -/
structure View (σ α κ β : Type*) where
  step : σ → α → σ
  stored : σ → κ → Option β
  calls : σ → List (Call κ β)
  removes : α → Option κ
  mover : α → Option Nat

/-- `c` may become `c'`. -/
structure Call.Becomes (c c' : Call κ β) : Prop where
  address : c'.address = c.address
  data : c'.data = c.data
  sure : c.outcome.sure → c'.outcome.sure
  failed : c.outcome = .failed → c'.outcome = .failed

variable {v : View σ α κ β} {ok : σ → α → Prop} {inv : σ → Prop}

/-- The laws of one step. -/
structure CreatesOnce (v : View σ α κ β) (ok : σ → α → Prop) (inv : σ → Prop) : Prop where
  keeps : ∀ {s : σ} {a : α}, inv s → ok s a → inv (v.step s a)
  calls : ∀ {s : σ} {a : α} {i : Nat} {c : Call κ β}, inv s → ok s a → (v.calls s)[i]? = some c →
    ∃ c', (v.calls (v.step s a))[i]? = some c' ∧ c.Becomes c'
  /-- A call claims its data from a moment when they are stored. -/
  binds : ∀ {s : σ} {a : α} {i : Nat} {c' : Call κ β}, inv s → ok s a →
    (v.calls (v.step s a))[i]? = some c' → c'.outcome.claims →
    (∃ c, (v.calls s)[i]? = some c ∧ c.outcome.claims ∧ c.Becomes c') ∨
      v.stored (v.step s a) c'.address = some c'.data
  stays : ∀ {s : σ} {a : α} {q : κ} {d : β}, inv s → ok s a → v.stored s q = some d →
    v.removes a ≠ some q → v.stored (v.step s a) q = some d
  /-- Only a removal or a call that is bound to succeed changes what is stored. -/
  changes : ∀ {s : σ} {a : α} {q : κ}, inv s → ok s a → v.stored (v.step s a) q ≠ v.stored s q →
    v.removes a = some q ∨
      ∃ i c, v.mover a = some i ∧ (v.calls (v.step s a))[i]? = some c ∧ c.outcome.sure
  mover_removes : ∀ {a : α} {i : Nat}, v.mover a = some i → v.removes a = none

/-! ## One step -/

/-- What a step may be: nothing, the begin of a call, a removal, or the next move of
one call, which stores its data at most. -/
inductive Move (v : View σ α κ β) (s : σ) (a : α) : Prop
  | idle (calls : v.calls (v.step s a) = v.calls s) (stored : v.stored (v.step s a) = v.stored s)
  | begun (c : Call κ β) (open_ : c.outcome.claims = false) (calls : v.calls (v.step s a) = v.calls s ++ [c])
      (stored : v.stored (v.step s a) = v.stored s)
  | removed (q : κ) (removes : v.removes a = some q) (calls : v.calls (v.step s a) = v.calls s)
      (stored : ∀ other, other ≠ q → v.stored (v.step s a) other = v.stored s other)
  | moved (i : Nat) (c c' : Call κ β) (mover : v.mover a = some i) (there : (v.calls s)[i]? = some c)
      (calls : v.calls (v.step s a) = (v.calls s).set i c') (becomes : c.Becomes c')
      (claims : c'.outcome.claims → c.outcome.claims ∨ v.stored (v.step s a) c'.address = some c'.data)
      (stored : ∀ q, v.stored (v.step s a) q = v.stored s q ∨ v.stored s q = none ∧ c'.outcome.sure)

theorem Call.Becomes.refl (c : Call κ β) : c.Becomes c := ⟨rfl, rfl, id, id⟩

/-- Steps of this kind meet the laws. -/
theorem createsOnce_of_moves (keeps : ∀ {s : σ} {a : α}, inv s → ok s a → inv (v.step s a))
    (moves : ∀ {s : σ} {a : α}, inv s → ok s a → Move v s a)
    (mover_removes : ∀ {a : α} {i : Nat}, v.mover a = some i → v.removes a = none) : CreatesOnce v ok inv := by
  constructor
  case keeps => exact keeps
  case mover_removes => exact mover_removes
  case calls =>
    intro s a i c here allowed found
    cases moves here allowed with
    | idle calls => exact ⟨c, by rw [calls, found], .refl c⟩
    | begun new open_ calls =>
      obtain ⟨inside, -⟩ := List.getElem?_eq_some_iff.mp found
      exact ⟨c, by rw [calls, List.getElem?_append_left inside, found], .refl c⟩
    | removed q removes calls => exact ⟨c, by rw [calls, found], .refl c⟩
    | moved j old new mover there calls becomes =>
      by_cases same : j = i
      · subst same
        obtain rfl := Option.some.inj (found.symm.trans there)
        obtain ⟨inside, -⟩ := List.getElem?_eq_some_iff.mp there
        exact ⟨new, by rw [calls, List.getElem?_set_self inside], becomes⟩
      · exact ⟨c, by rw [calls, List.getElem?_set_ne same, found], .refl c⟩
  case binds =>
    intro s a i c' here allowed found claims
    have unmoved (still : (v.calls s)[i]? = some c') :
        ∃ c, (v.calls s)[i]? = some c ∧ c.outcome.claims ∧ c.Becomes c' := ⟨c', still, claims, .refl c'⟩
    cases moves here allowed with
    | idle calls => exact .inl (unmoved (calls ▸ found))
    | begun new open_ calls =>
      rw [calls, List.getElem?_append] at found
      split at found
      · exact .inl (unmoved found)
      · rw [List.mem_singleton.mp (List.mem_of_getElem? found), open_] at claims
        cases claims
    | removed q removes calls => exact .inl (unmoved (calls ▸ found))
    | moved j old new mover there calls becomes reaches =>
      rw [calls] at found
      by_cases same : j = i
      · subst same
        obtain ⟨inside, -⟩ := List.getElem?_eq_some_iff.mp there
        rw [List.getElem?_set_self inside] at found
        obtain rfl := Option.some.inj found
        obtain before | now := reaches claims
        · exact .inl ⟨old, there, before, becomes⟩
        · exact .inr now
      · rw [List.getElem?_set_ne same] at found
        exact .inl (unmoved found)
  case stays =>
    intro s a q d here allowed found loud
    cases moves here allowed with
    | idle _ stored => rw [stored, found]
    | begun _ _ _ stored => rw [stored, found]
    | removed q' removes _ stored =>
      have apart : q ≠ q' := by
        rintro rfl
        exact loud removes
      rw [stored q apart, found]
    | moved i old new _ _ _ _ _ stored =>
      obtain same | ⟨absent, -⟩ := stored q
      · rw [same, found]
      · rw [absent] at found
        cases found
  case changes =>
    intro s a q here allowed differs
    cases moves here allowed with
    | idle _ stored => exact absurd (congrFun stored q) differs
    | begun _ _ _ stored => exact absurd (congrFun stored q) differs
    | removed q' removes _ stored =>
      left
      rw [removes]
      apply Classical.byContradiction
      intro apart
      exact differs (stored q fun same => apart (same ▸ rfl))
    | moved i old new mover there calls _ _ stored =>
      obtain same | ⟨-, sure⟩ := stored q
      · exact absurd same differs
      · obtain ⟨inside, -⟩ := List.getElem?_eq_some_iff.mp there
        exact .inr ⟨i, new, mover, by rw [calls, List.getElem?_set_self inside], sure⟩

/-! ## A run -/

/-- What a run promises of calls that began in it, while none of the labels
removes their object: the data of a call that has succeeded are stored, so two
calls of one address succeed with the same data only, and no step of a call that
fails changes what is stored. -/
structure Immutable (v : View σ α κ β) (start : σ) (labels : List α) : Prop where
  kept : ∀ before after, labels = before ++ after → ∀ i c,
    (v.calls (before.foldl v.step start)).length ≤ i →
    (v.calls (labels.foldl v.step start))[i]? = some c → c.outcome = .succeeded →
    (∀ a ∈ after, v.removes a ≠ some c.address) →
    v.stored (labels.foldl v.step start) c.address = some c.data
  one_wins : ∀ before after, labels = before ++ after → ∀ i j c c',
    (v.calls (before.foldl v.step start)).length ≤ i →
    (v.calls (before.foldl v.step start)).length ≤ j →
    (v.calls (labels.foldl v.step start))[i]? = some c → c.outcome = .succeeded →
    (v.calls (labels.foldl v.step start))[j]? = some c' → c'.outcome = .succeeded →
    c.address = c'.address → (∀ a ∈ after, v.removes a ≠ some c.address) → c.data = c'.data
  failure : ∀ before a after, labels = before ++ a :: after → ∀ i c, v.mover a = some i →
    (v.calls (labels.foldl v.step start))[i]? = some c → c.outcome = .failed →
    ∀ q, v.stored (v.step (before.foldl v.step start) a) q = v.stored (before.foldl v.step start) q

theorem allowed_append {s : σ} {before after : List α} :
    Runs.Allowed ok v.step s (before ++ after) →
      Runs.Allowed ok v.step s before ∧ Runs.Allowed ok v.step (before.foldl v.step s) after := by
  induction before generalizing s with
  | nil => exact fun allowed => ⟨trivial, allowed⟩
  | cons a before ih =>
    rintro ⟨first, rest⟩
    obtain ⟨front, back⟩ := ih rest
    exact ⟨⟨first, front⟩, back⟩

section Laws
variable (law : CreatesOnce v ok inv)
include law

theorem inv_run {s : σ} {labels : List α} (allowed : Runs.Allowed ok v.step s labels) (start : inv s) :
    inv (labels.foldl v.step s) := by
  induction labels generalizing s with
  | nil => exact start
  | cons a labels ih => exact ih allowed.2 (law.keeps start allowed.1)

/-- A call that is bound to succeed does not fail later. -/
theorem sure_run {s : σ} {labels : List α} (allowed : Runs.Allowed ok v.step s labels) (start : inv s)
    {i : Nat} {c : Call κ β} (there : (v.calls s)[i]? = some c) (sure : c.outcome.sure) :
    ∃ c', (v.calls (labels.foldl v.step s))[i]? = some c' ∧ c'.outcome.sure := by
  induction labels generalizing s c with
  | nil => exact ⟨c, there, sure⟩
  | cons a labels ih =>
    obtain ⟨next, found, becomes⟩ := law.calls start allowed.1 there
    exact ih allowed.2 (law.keeps start allowed.1) found (becomes.sure sure)

/-- While nothing removes the object at an address, the calls of that address
that began since `n` and claim their data have them there. -/
theorem stored_run {s : σ} {labels : List α} (allowed : Runs.Allowed ok v.step s labels) (start : inv s)
    {n : Nat} {q : κ} (quiet : ∀ a ∈ labels, v.removes a ≠ some q)
    (held : ∀ i c, n ≤ i → (v.calls s)[i]? = some c → c.outcome.claims → c.address = q →
      v.stored s q = some c.data) :
    ∀ i c, n ≤ i → (v.calls (labels.foldl v.step s))[i]? = some c → c.outcome.claims → c.address = q →
      v.stored (labels.foldl v.step s) q = some c.data := by
  induction labels generalizing s with
  | nil => exact held
  | cons a labels ih =>
    obtain ⟨loud, rest⟩ := List.forall_mem_cons.mp quiet
    apply ih allowed.2 (law.keeps start allowed.1) rest
    rintro i c later there claims rfl
    obtain ⟨old, found, old_claims, becomes⟩ | now := law.binds start allowed.1 there claims
    · have before := held i old later found old_claims becomes.address.symm
      rw [becomes.data]
      exact law.stays start allowed.1 before loud
    · exact now

theorem kept_run {s : σ} {before after : List α} (allowed : Runs.Allowed ok v.step s (before ++ after))
    (start : inv s) {i : Nat} {c : Call κ β} (later : (v.calls (before.foldl v.step s)).length ≤ i)
    (there : (v.calls ((before ++ after).foldl v.step s))[i]? = some c) (claims : c.outcome.claims)
    (quiet : ∀ a ∈ after, v.removes a ≠ some c.address) :
    v.stored ((before ++ after).foldl v.step s) c.address = some c.data := by
  obtain ⟨front, back⟩ := allowed_append allowed
  rw [List.foldl_append] at there ⊢
  apply stored_run law back (inv_run law front start) quiet _ i c later there claims rfl
  intro j other from_ found
  rw [List.getElem?_eq_none from_] at found
  cases found

/-- The laws of a step make every run immutable. -/
theorem immutable {s : σ} {labels : List α} (allowed : Runs.Allowed ok v.step s labels) (start : inv s) :
    Immutable v s labels := by
  constructor
  · rintro before after rfl i c later there succeeded quiet
    exact kept_run law allowed start later there (by rw [succeeded]; rfl) quiet
  · rintro before after rfl i j c c' later later' there succeeded there' succeeded' same quiet
    have first := kept_run law allowed start later there (by rw [succeeded]; rfl) quiet
    have second := kept_run law allowed start later' there' (by rw [succeeded']; rfl) (same ▸ quiet)
    rw [← same, first] at second
    exact Option.some.inj second
  · rintro before a after rfl i c moves there failed q
    obtain ⟨front, taken, back⟩ := allowed_append allowed
    have here := inv_run law front start
    apply Classical.byContradiction
    intro differs
    obtain removes | ⟨j, other, same, found, sure⟩ := law.changes here taken differs
    · rw [law.mover_removes moves] at removes
      cases removes
    · rw [moves] at same
      cases same
      obtain ⟨last, end_, still⟩ := sure_run law back (law.keeps here taken) found sure
      rw [List.foldl_append, List.foldl_cons, end_] at there
      cases there
      rw [failed] at still
      cases still

end Laws

end CreateOnce
