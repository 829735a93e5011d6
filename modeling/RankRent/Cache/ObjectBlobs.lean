import RankRent.Cache.FileBlobs
import RankRent.Library.PyRuns

/-!
# Blobs in S3, put at the same time

`S3BlobStore` of `storage/blobs.py` with each request as a step of its own. A
`put_object` with `IfNoneMatch` either stores the object and returns, or raises and
stores nothing.
-/

namespace RankRent.Cache
open CreateOnce (Outcome Call View Move CreatesOnce)

structure S3Object where
  body : List UInt8
  sha256 : Option String

abbrev S3Objects := List (String × S3Object)

/-- `prefix.strip("/")`. -/
def stripSlashes (given : String) : String :=
  String.ofList ((given.toList.dropWhile (· = '/')).reverse.dropWhile (· = '/')).reverse

/-- `PurePosixPath.as_posix` of a relative path. -/
def asPosix (parts : List String) : String :=
  if parts = [] then "." else String.intercalate "/" parts

/-- `S3BlobStore._key`. -/
def objectKey (given key : String) : Option String :=
  (safeRelativeKey key).map fun parts =>
    if stripSlashes given = "" then asPosix parts else stripSlashes given ++ "/" ++ asPosix parts

/-- The request of `put` that comes next; `read` is that of `checksum`. -/
inductive ObjectPhase
  | head
  | read
  | putObject
  | headAgain
  | returned
  | raised
  deriving DecidableEq

def ObjectPhase.outcome : ObjectPhase → Outcome
  | .returned => .succeeded
  | .raised => .failed
  | _ => .undecided

/-- A call of `put`. -/
structure ObjectPut where
  address : String
  data : List UInt8
  phase : ObjectPhase

structure ObjectState where
  objects : S3Objects
  puts : List ObjectPut

/-- The checksum of the metadata is compared, and without one that of the body. -/
def afterHead (data : List UInt8) (object : S3Object) : ObjectPhase :=
  match object.sha256 with
  | none => .read
  | some checksum =>
    if checksum = "" then .read else if checksum = Sha256.hexdigestBytes data then .returned else .raised

/-- The next request of a put. -/
def ObjectPut.advance (put : ObjectPut) (objects : S3Objects) : S3Objects × ObjectPhase :=
  match put.phase with
  | .head =>
    match objects.lookup put.address with
    | none => (objects, .putObject)
    | some object => (objects, afterHead put.data object)
  | .read =>
    (objects, if sameChecksum put.data ((objects.lookup put.address).map S3Object.body) then .returned else .raised)
  | .putObject =>
    match objects.lookup put.address with
    | none => (objects ++ [(put.address, ⟨put.data, some (Sha256.hexdigestBytes put.data)⟩)], .returned)
    | some _ => (objects, .headAgain)
  | .headAgain =>
    match objects.lookup put.address with
    | none => (objects, .raised)
    | some object => (objects, afterHead put.data object)
  | .returned => (objects, .returned)
  | .raised => (objects, .raised)

/-- A request that raises with another error. -/
def ObjectPhase.fail : ObjectPhase → ObjectPhase
  | .returned => .returned
  | _ => .raised

/-- A `put_object` that is refused for a request at the same time. -/
def ObjectPhase.conflict : ObjectPhase → ObjectPhase
  | .putObject => .headAgain
  | phase => phase

inductive ObjectLabel
  | put (key : String) (data : List UInt8)
  | get (key : String)
  | delete (key : String)
  | advance (put : Nat)
  | conflict (put : Nat)
  | fail (put : Nat)

section
variable (given : String)

def ObjectState.step (s : ObjectState) : ObjectLabel → ObjectState
  | .put key data =>
    match objectKey given key with
    | none => { s with puts := s.puts ++ [⟨"", data, .raised⟩] }
    | some address => { s with puts := s.puts ++ [⟨address, data, .head⟩] }
  | .get _ => s
  | .delete key =>
    match objectKey given key with
    | none => s
    | some address => { s with objects := s.objects.filter fun object => object.1 ≠ address }
  | .advance i =>
    match s.puts[i]? with
    | none => s
    | some put =>
      let (objects, phase) := put.advance s.objects
      ⟨objects, s.puts.set i { put with phase }⟩
  | .conflict i =>
    match s.puts[i]? with
    | none => s
    | some put => { s with puts := s.puts.set i { put with phase := put.phase.conflict } }
  | .fail i =>
    match s.puts[i]? with
    | none => s
    | some put => { s with puts := s.puts.set i { put with phase := put.phase.fail } }

def ObjectState.stored (s : ObjectState) (address : String) : Option (List UInt8) :=
  (s.objects.lookup address).map S3Object.body

/-- `S3BlobStore.get`. -/
def ObjectState.get (s : ObjectState) (key : String) : Option (List UInt8) :=
  (objectKey given key).bind fun address => (s.objects.lookup address).map S3Object.body

def objectView : View ObjectState ObjectLabel String (List UInt8) where
  step := ObjectState.step given
  stored := ObjectState.stored
  calls s := s.puts.map fun put => ⟨put.address, put.data, put.phase.outcome⟩
  removes
    | .delete key => objectKey given key
    | _ => none
  mover
    | .advance i | .conflict i | .fail i => some i
    | _ => none

end

/-- The data of every put are among `contents`. -/
def objectOk (contents : Set (List UInt8)) (_ : ObjectState) : ObjectLabel → Prop
  | .put _ data => data ∈ contents
  | _ => True

/-- Every object has data that a put was called with, and their checksum if any. -/
structure ObjectInv (contents : Set (List UInt8)) (s : ObjectState) : Prop where
  body : ∀ {address object}, s.objects.lookup address = some object → object.body ∈ contents
  checksum : ∀ {address object text}, s.objects.lookup address = some object → object.sha256 = some text →
    text ≠ "" → text = Sha256.hexdigestBytes object.body
  data : ∀ {i : Nat} {put : ObjectPut}, s.puts[i]? = some put → put.data ∈ contents

/-! ## What a put does -/

/-- A put that goes on to `next`. -/
inductive ObjectEffect (put : ObjectPut) (objects : S3Objects) : S3Objects → ObjectPhase → Prop
  | quiet {next : ObjectPhase}
      (decided : put.phase.outcome = .succeeded ∨ put.phase.outcome = .failed → next = put.phase)
      (claims : next = .returned → put.phase = .returned ∨ ∃ object, objects.lookup put.address = some object ∧
        (object.sha256 = some (Sha256.hexdigestBytes put.data) ∧ Sha256.hexdigestBytes put.data ≠ "" ∨
          Sha256.hexdigestBytes object.body = Sha256.hexdigestBytes put.data)) :
      ObjectEffect put objects objects next
  | created (before : put.phase = .putObject) (absent : objects.lookup put.address = none) :
      ObjectEffect put objects
        (objects ++ [(put.address, ⟨put.data, some (Sha256.hexdigestBytes put.data)⟩)]) .returned

/-- A step that neither decided anything before nor succeeds. -/
theorem ObjectEffect.waits {put : ObjectPut} {objects : S3Objects} {next : ObjectPhase}
    (open_ : put.phase.outcome = .undecided) (going : next ≠ .returned) : ObjectEffect put objects objects next := by
  apply ObjectEffect.quiet
  · simp [open_]
  · exact fun done => absurd done going

theorem afterHead_effect {put : ObjectPut} {objects : S3Objects} {object : S3Object}
    (open_ : put.phase.outcome = .undecided) (there : objects.lookup put.address = some object) :
    ObjectEffect put objects objects (afterHead put.data object) := by
  apply ObjectEffect.quiet
  · simp [open_]
  · intro done
    right
    refine ⟨object, there, .inl ?_⟩
    unfold afterHead at done
    split at done
    · cases done
    · rename_i text given
      split at done
      · cases done
      · rename_i some_
        split at done
        · rename_i same
          exact ⟨by rw [given, same], same ▸ some_⟩
        · cases done

theorem ObjectPut.advance_effect (put : ObjectPut) (objects : S3Objects) :
    ObjectEffect put objects (put.advance objects).1 (put.advance objects).2 := by
  obtain ⟨address, data, phase⟩ := put
  cases phase with
  | head =>
    simp only [ObjectPut.advance]
    split
    · exact .waits rfl (by rintro ⟨⟩)
    · rename_i object there
      exact afterHead_effect rfl there
  | read =>
    simp only [ObjectPut.advance]
    split
    · rename_i same
      cases there : objects.lookup address with
      | none =>
        rw [there] at same
        cases same
      | some object =>
        rw [there] at same
        exact .quiet (by rintro (done | done) <;> cases done) fun _ => .inr ⟨object, there, .inr (by simpa [sameChecksum] using same)⟩
    · exact .waits rfl (by rintro ⟨⟩)
  | putObject =>
    simp only [ObjectPut.advance]
    split
    · rename_i absent
      exact .created rfl absent
    · exact .waits rfl (by rintro ⟨⟩)
  | headAgain =>
    simp only [ObjectPut.advance]
    split
    · exact .waits rfl (by rintro ⟨⟩)
    · rename_i object there
      exact afterHead_effect rfl there
  | returned => exact .quiet (fun _ => rfl) fun done => .inl done
  | raised => exact .quiet (fun _ => rfl) fun done => .inl done

theorem ObjectPhase.conflict_effect (put : ObjectPut) (objects : S3Objects) :
    ObjectEffect put objects objects put.phase.conflict := by
  obtain ⟨address, data, phase⟩ := put
  cases phase with
  | putObject => exact .waits rfl nofun
  | _ => exact .quiet (fun _ => rfl) fun done => .inl done

theorem ObjectPhase.fail_effect (put : ObjectPut) (objects : S3Objects) :
    ObjectEffect put objects objects put.phase.fail := by
  obtain ⟨address, data, phase⟩ := put
  cases phase with
  | returned => exact .quiet (fun _ => rfl) fun done => .inl done
  | raised => exact .quiet (fun _ => rfl) fun done => .inl done
  | _ => exact .waits rfl nofun

/-! ## The runs -/

section Moved
variable {contents : Set (List UInt8)} {s : ObjectState} {i : Nat} {put : ObjectPut} {after : S3Objects}
  {next : ObjectPhase}

/-- The state when put `i` goes on to `next`. -/
def ObjectState.moved (s : ObjectState) (i : Nat) (put : ObjectPut) (after : S3Objects) (next : ObjectPhase) :
    ObjectState :=
  ⟨after, s.puts.set i { put with phase := next }⟩

theorem object_moved_put (there : s.puts[i]? = some put) :
    (s.moved i put after next).puts[i]? = some { put with phase := next } := by
  obtain ⟨inside, -⟩ := List.getElem?_eq_some_iff.mp there
  simp [ObjectState.moved, inside]

theorem object_moved_other {j : Nat} (apart : j ≠ i) : (s.moved i put after next).puts[j]? = s.puts[j]? := by
  simp [ObjectState.moved, List.getElem?_set_ne (Ne.symm apart)]

variable (kept : ObjectInv contents s) (there : s.puts[i]? = some put)
  (effect : ObjectEffect put s.objects after next)
include effect

/-- Only a `put_object` changes what is stored: it stores the data of its put. -/
theorem objects_moved (q : String) : after.lookup q = s.objects.lookup q ∨
    q = put.address ∧ s.objects.lookup q = none ∧
      after.lookup q = some ⟨put.data, some (Sha256.hexdigestBytes put.data)⟩ ∧ next = .returned := by
  cases effect with
  | quiet => exact .inl rfl
  | created before absent =>
    by_cases here : q = put.address
    · right
      subst here
      exact ⟨rfl, absent, by rw [lookup_link absent, if_pos rfl], rfl⟩
    · left
      rw [lookup_link absent, if_neg here]

include kept there

theorem object_inv_moved : ObjectInv contents (s.moved i put after next) := by
  constructor
  · intro address object found
    obtain same | ⟨-, -, now, -⟩ := objects_moved effect address
    · exact kept.body (same ▸ found)
    · obtain rfl := Option.some.inj (now.symm.trans found)
      exact kept.data there
  · intro address object text found given some_
    obtain same | ⟨-, -, now, -⟩ := objects_moved effect address
    · exact kept.checksum (same ▸ found) given some_
    · obtain rfl := Option.some.inj (now.symm.trans found)
      exact (Option.some.inj given).symm
  · intro j other found
    by_cases here : j = i
    · subst here
      rw [object_moved_put there] at found
      cases found
      exact show put.data ∈ contents from kept.data there
    · exact kept.data (object_moved_other here ▸ found)

/-- A put that comes to succeed has its data stored. -/
theorem succeeds_moved (free : Set.InjOn Sha256.hexdigestBytes contents) (done : next = .returned) :
    put.phase = .returned ∨ (s.moved i put after next).stored put.address = some put.data := by
  cases effect with
  | quiet decided claims =>
    obtain before | ⟨object, found, same⟩ := claims done
    · exact .inl before
    · right
      have equal : Sha256.hexdigestBytes object.body = Sha256.hexdigestBytes put.data := by
        obtain ⟨given, some_⟩ | equal := same
        · exact (kept.checksum found given some_).symm
        · exact equal
      have body : object.body = put.data := free (kept.body found) (kept.data there) equal
      change (s.objects.lookup put.address).map S3Object.body = _
      rw [found, Option.map_some, body]
  | created before absent =>
    right
    change (List.lookup put.address (s.objects ++ _)).map S3Object.body = _
    rw [lookup_link absent, if_pos rfl]
    rfl

end Moved

theorem ObjectEffect.decided {put : ObjectPut} {objects after : S3Objects} {next : ObjectPhase}
    (effect : ObjectEffect put objects after next) :
    put.phase.outcome = .succeeded ∨ put.phase.outcome = .failed → next = put.phase := by
  cases effect with
  | quiet decided => exact decided
  | created before => simp [before, ObjectPhase.outcome]

/-- What a label does to a state. -/
inductive ObjectMove (given : String) (s : ObjectState) : ObjectLabel → ObjectState → Prop
  | idle {a : ObjectLabel} : ObjectMove given s a s
  | begun {key : String} {data : List UInt8} {put : ObjectPut} (known : put.data = data)
      (open_ : put.phase.outcome.claims = false) :
      ObjectMove given s (.put key data) { s with puts := s.puts ++ [put] }
  | deleted {key address : String} (named : objectKey given key = some address) :
      ObjectMove given s (.delete key) { s with objects := s.objects.filter fun object => object.1 ≠ address }
  | moved {a : ObjectLabel} {i : Nat} {put : ObjectPut} {after : S3Objects} {next : ObjectPhase}
      (mover : (objectView given).mover a = some i) (there : s.puts[i]? = some put)
      (effect : ObjectEffect put s.objects after next) : ObjectMove given s a (s.moved i put after next)

theorem object_step_move (given : String) (s : ObjectState) (a : ObjectLabel) :
    ObjectMove given s a (s.step given a) := by
  cases a with
  | put key data =>
    simp only [ObjectState.step]
    split
    · exact .begun rfl rfl
    · exact .begun rfl rfl
  | get => exact .idle
  | delete key =>
    simp only [ObjectState.step]
    split
    · exact .idle
    · rename_i address named
      exact .deleted named
  | advance i =>
    simp only [ObjectState.step]
    split
    · exact .idle
    · rename_i put there
      exact .moved rfl there (put.advance_effect s.objects)
  | conflict i =>
    simp only [ObjectState.step]
    split
    · exact .idle
    · rename_i put there
      exact .moved rfl there (ObjectPhase.conflict_effect put s.objects)
  | fail i =>
    simp only [ObjectState.step]
    split
    · exact .idle
    · rename_i put there
      exact .moved rfl there (ObjectPhase.fail_effect put s.objects)

def ObjectPut.seen (put : ObjectPut) : Call String (List UInt8) := ⟨put.address, put.data, put.phase.outcome⟩

theorem object_calls_getElem? {given : String} {s : ObjectState} {i : Nat} {c : Call String (List UInt8)} :
    ((objectView given).calls s)[i]? = some c ↔ ∃ put, s.puts[i]? = some put ∧ put.seen = c := by
  change (s.puts.map ObjectPut.seen)[i]? = some c ↔ _
  rw [List.getElem?_map, Option.map_eq_some_iff]

theorem ObjectEffect.becomes {put : ObjectPut} {objects after : S3Objects} {next : ObjectPhase}
    (effect : ObjectEffect put objects after next) : put.seen.Becomes { put with phase := next }.seen := by
  constructor
  · rfl
  · rfl
  · intro sure
    have done : put.phase.outcome = .succeeded := by
      change put.phase.outcome.sure at sure
      cases phase : put.phase <;> rw [phase] at sure <;> first | rfl | cases sure
    change next.outcome.sure
    rw [effect.decided (.inl done), done]
    rfl
  · intro failed
    change next.outcome = _
    rw [effect.decided (.inr failed)]
    exact failed

theorem object_stored_deleted (s : ObjectState) (address q : String) :
    ObjectState.stored { s with objects := s.objects.filter fun object => object.1 ≠ address } q =
      if q = address then none else s.stored q := by
  have objects := lookup_unlink s.objects address q
  unfold ObjectState.stored
  rw [objects]
  split <;> rfl

theorem object_calls_moved (given : String) (s : ObjectState) (i : Nat) (put : ObjectPut) (after : S3Objects)
    (next : ObjectPhase) : (objectView given).calls (s.moved i put after next) =
      ((objectView given).calls s).set i { put with phase := next }.seen := by
  change (s.puts.set i _).map ObjectPut.seen = (s.puts.map ObjectPut.seen).set i _
  rw [List.map_set]

theorem object_inv_begun {contents : Set (List UInt8)} {s : ObjectState} (kept : ObjectInv contents s)
    {put : ObjectPut} (known : put.data ∈ contents) : ObjectInv contents { s with puts := s.puts ++ [put] } := by
  constructor
  · exact kept.body
  · exact kept.checksum
  · intro i other found
    rw [List.getElem?_append] at found
    split at found
    · exact kept.data found
    · rw [List.mem_singleton.mp (List.mem_of_getElem? found)]
      exact known

theorem object_inv_deleted {contents : Set (List UInt8)} {s : ObjectState} (kept : ObjectInv contents s)
    (address : String) :
    ObjectInv contents { s with objects := s.objects.filter fun object => object.1 ≠ address } := by
  have old {q : String} {object : S3Object}
      (found : (s.objects.filter fun object => object.1 ≠ address).lookup q = some object) :
      s.objects.lookup q = some object := by
    rw [lookup_unlink] at found
    split at found
    · cases found
    · exact found
  constructor
  · intro q object found
    exact kept.body (old found)
  · intro q object text found
    exact kept.checksum (old found)
  · exact kept.data

/-- Where no two contents have one checksum, objects are created once. -/
theorem objects_createOnce {contents : Set (List UInt8)} (free : Set.InjOn Sha256.hexdigestBytes contents)
    (given : String) : CreatesOnce (objectView given) (objectOk contents) (ObjectInv contents) := by
  apply CreateOnce.createsOnce_of_moves
  · intro s a kept ok
    change ObjectInv contents (s.step given a)
    have move := object_step_move given s a
    generalize s.step given a = t at move
    cases move with
    | idle => exact kept
    | begun known => exact object_inv_begun kept (known ▸ ok)
    | deleted => exact object_inv_deleted kept _
    | moved _ there effect => exact object_inv_moved kept there effect
  · intro s a kept ok
    have move := object_step_move given s a
    generalize after : s.step given a = t at move
    cases move with
    | idle =>
      apply Move.idle
      · exact congrArg (objectView given).calls after
      · exact congrArg (objectView given).stored after
    | @begun _ _ put _ open_ =>
      apply Move.begun put.seen open_
      · exact (congrArg (objectView given).calls after).trans List.map_append
      · exact (congrArg (objectView given).stored after).trans rfl
    | @deleted _ address named =>
      apply Move.removed address named
      · exact (congrArg (objectView given).calls after).trans rfl
      · intro q apart
        exact (congrFun (congrArg (objectView given).stored after) q).trans
          ((object_stored_deleted s address q).trans (if_neg apart))
    | @moved _ i put objects next mover there effect =>
      apply Move.moved i put.seen _ mover (object_calls_getElem?.mpr ⟨put, there, rfl⟩)
        ((congrArg (objectView given).calls after).trans (object_calls_moved given s i put objects next))
        effect.becomes
      · intro claims
        have done : next = .returned := by
          cases next <;> first | rfl | cases claims
        obtain old | now := succeeds_moved kept there effect free done
        · left
          rw [ObjectPut.seen, old]
          rfl
        · exact .inr ((congrFun (congrArg (objectView given).stored after) put.address).trans now)
      · intro q
        have now : (objectView given).stored ((objectView given).step s a) q = (s.moved i put objects next).stored q :=
          congrFun (congrArg (objectView given).stored after) q
        rw [now]
        obtain same | ⟨-, absent, -, done⟩ := objects_moved effect q
        · exact .inl (congrArg (Option.map S3Object.body) same)
        · right
          constructor
          · exact congrArg (Option.map S3Object.body) absent
          · rw [ObjectPut.seen, done]
            rfl
  · intro a i moves
    cases a <;> first | rfl | cases moves

end RankRent.Cache
