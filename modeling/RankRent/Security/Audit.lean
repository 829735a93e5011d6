import RankRent.Library.PyJson
import RankRent.Library.PyString
import RankRent.Library.Sha256
import RankRent.Store.Schema

/-!
# Audit events

`append_audit_event` of `security/audit.py` in sessions with `autoflush=False`.
An appended row waits in its session until a flush, which inserts the waiting
rows in order; the select for the head sees committed rows and the session's own
inserted ones, not the waiting ones. On PostgreSQL an append holds an advisory
lock until its transaction ends. A transaction that fails for any other reason
than its inserts is a rollback.
-/

namespace RankRent.Audit

inductive Dialect
  | postgresql | sqlite
  deriving DecidableEq, Repr

inductive Role
  | admin | operator | reviewer | readOnly
  deriving DecidableEq, Repr

/-- `role.value`. -/
def Role.value : Role → String
  | .admin => "admin"
  | .operator => "operator"
  | .reviewer => "reviewer"
  | .readOnly => "read_only"

structure Principal where
  userId : String
  role : Role
  deriving DecidableEq

/-- The arguments of `append_audit_event` and the time it reads. -/
structure AuditCall where
  eventType : String
  actor : Principal
  targetType : String
  targetId : Option String
  requestId : Option String
  metadata : Option PyJson
  now : DateTime

/-- `content` of `append_audit_event`. -/
structure AuditContent where
  eventType : String
  actorUserId : String
  actorRole : String
  targetType : String
  targetId : Option String
  requestId : Option String
  metadataPayload : PyJson
  occurredAt : DateTime
  previousHash : String

/-- A row of `audit_events`. -/
structure AuditEvent extends AuditContent where
  eventHash : String

def nullable : Option String → PyJson
  | none => .null
  | some text => .str text

/-- `hash_content`. -/
def AuditContent.hashContent (content : AuditContent) : PyJson :=
  .obj [("event_type", .str content.eventType), ("actor_user_id", .str content.actorUserId),
    ("actor_role", .str content.actorRole), ("target_type", .str content.targetType),
    ("target_id", nullable content.targetId), ("request_id", nullable content.requestId),
    ("metadata_payload", content.metadataPayload),
    ("occurred_at", .str (PyTime.isoformat content.occurredAt)),
    ("previous_hash", .str content.previousHash)]

/-- `_canonical_payload`. -/
def canonicalPayload (payload : PyJson) : String := payload.dumps

def AuditContent.hash (content : AuditContent) : String :=
  Sha256.hexdigest (canonicalPayload content.hashContent)

def genesis : String := "GENESIS"

/-- The row `append_audit_event` adds after `previous`. -/
def AuditCall.row (call : AuditCall) (previous : Option AuditEvent) : AuditEvent :=
  let content : AuditContent :=
    { eventType := call.eventType
      actorUserId := call.actor.userId
      actorRole := call.actor.role.value
      targetType := call.targetType
      targetId := call.targetId
      requestId := call.requestId
      metadataPayload := call.metadata.getD (.obj [])
      occurredAt := call.now
      previousHash := (previous.map AuditEvent.eventHash).getD genesis }
  { content with eventHash := content.hash }

/-! ## Sessions -/

/-- An inserted row, and the session whose open transaction inserted it. -/
structure Inserted where
  row : AuditEvent
  owner : Option Nat

/-- The table in id order, and what the sessions hold. -/
structure State where
  dialect : Dialect
  log : List Inserted
  /-- Rows added to a session and not flushed, oldest first. -/
  waiting : List (Nat × AuditEvent)
  /-- The holder of `pg_advisory_xact_lock(74291731)`. -/
  lock : Option Nat

def State.start (dialect : Dialect) : State := ⟨dialect, [], [], none⟩

/-- The committed rows, ordered by id. -/
def State.committed (s : State) : List AuditEvent :=
  (s.log.filter fun entry => entry.owner = none).map Inserted.row

/-- The newest row the select of a session sees. -/
def State.previous (s : State) (session : Nat) : Option AuditEvent :=
  ((s.log.filter fun entry => entry.owner = none || entry.owner = some session).map
    Inserted.row).getLast?

/-- The rows a session has added and not flushed. -/
def State.added (s : State) (session : Nat) : List AuditEvent :=
  (s.waiting.filter fun entry => entry.1 = session).map Prod.snd

inductive Event
  | append (session : Nat) (call : AuditCall)
  | flush (session : Nat)
  | commit (session : Nat)
  | rollback (session : Nat)

/-- `append_audit_event`. -/
def State.append (s : State) (session : Nat) (call : AuditCall) : State :=
  { s with
    waiting := s.waiting ++ [(session, call.row (s.previous session))]
    lock := match s.dialect with
      | .postgresql => some session
      | .sqlite => s.lock }

/-- `session.rollback()`. -/
def State.rollback (s : State) (session : Nat) : State :=
  { s with
    log := s.log.filter fun entry => entry.owner ≠ some session
    waiting := s.waiting.filter fun entry => entry.1 ≠ session
    lock := if s.lock = some session then none else s.lock }

/-- Whether the inserts go through: `event_hash` is unique, and SQLite has one
writer at a time. -/
def State.insertable (s : State) (session : Nat) : Bool :=
  ((s.log.map fun entry => entry.row.eventHash) ++ (s.added session).map AuditEvent.eventHash).Nodup &&
    ((s.added session).isEmpty || s.dialect = .postgresql || s.log.all fun entry =>
      entry.owner = none || entry.owner = some session)

/-- `session.flush()`; a failed insert rolls the transaction back. -/
def State.flush (s : State) (session : Nat) : State :=
  if s.insertable session then
    { s with
      log := s.log ++ (s.added session).map fun row => ⟨row, some session⟩
      waiting := s.waiting.filter fun entry => entry.1 ≠ session }
  else s.rollback session

/-- `session.commit()`. -/
def State.commit (s : State) (session : Nat) : State :=
  let flushed := s.flush session
  { flushed with
    log := flushed.log.map fun entry =>
      if entry.owner = some session then { entry with owner := none } else entry
    lock := if flushed.lock = some session then none else flushed.lock }

/-- An append on PostgreSQL waits for the lock. -/
def State.waits (s : State) : Event → Bool
  | .append session _ => s.dialect = .postgresql && s.lock ≠ none && s.lock ≠ some session
  | _ => false

def State.apply (s : State) : Event → State
  | .append session call => s.append session call
  | .flush session => s.flush session
  | .commit session => s.commit session
  | .rollback session => s.rollback session

/-- One step of any session. -/
def Step (s : State) (event : Event) (t : State) : Prop :=
  s.waits event = false ∧ t = s.apply event

/-! ## The chain -/

/-- Rows that name the hash of the row just before them, the first `GENESIS`,
and carry the hash of their own fields. -/
structure Chain (rows : List AuditEvent) : Prop where
  linked : HashChain.Linked (fun row : AuditEvent => row.previousHash) AuditEvent.eventHash genesis
    rows
  hashed : ∀ row ∈ rows, row.eventHash = row.hash

end RankRent.Audit
