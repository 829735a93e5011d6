import Mathlib.Data.List.Basic
import Mathlib.Data.String.Basic

/-!
# SHA-256

`hashlib.sha256(text.encode()).hexdigest()`, block by block, and the HMAC over it.
-/

namespace Sha256

abbrev Word := BitVec 32

/-- The round constants. -/
def constants : List Word :=
  [0x428a2f98, 0x71374491, 0xb5c0fbcf, 0xe9b5dba5, 0x3956c25b, 0x59f111f1, 0x923f82a4, 0xab1c5ed5,
    0xd807aa98, 0x12835b01, 0x243185be, 0x550c7dc3, 0x72be5d74, 0x80deb1fe, 0x9bdc06a7, 0xc19bf174,
    0xe49b69c1, 0xefbe4786, 0x0fc19dc6, 0x240ca1cc, 0x2de92c6f, 0x4a7484aa, 0x5cb0a9dc, 0x76f988da,
    0x983e5152, 0xa831c66d, 0xb00327c8, 0xbf597fc7, 0xc6e00bf3, 0xd5a79147, 0x06ca6351, 0x14292967,
    0x27b70a85, 0x2e1b2138, 0x4d2c6dfc, 0x53380d13, 0x650a7354, 0x766a0abb, 0x81c2c92e, 0x92722c85,
    0xa2bfe8a1, 0xa81a664b, 0xc24b8b70, 0xc76c51a3, 0xd192e819, 0xd6990624, 0xf40e3585, 0x106aa070,
    0x19a4c116, 0x1e376c08, 0x2748774c, 0x34b0bcb5, 0x391c0cb3, 0x4ed8aa4a, 0x5b9cca4f, 0x682e6ff3,
    0x748f82ee, 0x78a5636f, 0x84c87814, 0x8cc70208, 0x90befffa, 0xa4506ceb, 0xbef9a3f7, 0xc67178f2]

structure State where
  a : Word
  b : Word
  c : Word
  d : Word
  e : Word
  f : Word
  g : Word
  h : Word

def State.start : State where
  a := 0x6a09e667
  b := 0xbb67ae85
  c := 0x3c6ef372
  d := 0xa54ff53a
  e := 0x510e527f
  f := 0x9b05688c
  g := 0x1f83d9ab
  h := 0x5be0cd19

def State.add (s t : State) : State :=
  ⟨s.a + t.a, s.b + t.b, s.c + t.c, s.d + t.d, s.e + t.e, s.f + t.f, s.g + t.g, s.h + t.h⟩

/-- One round, with its constant and its word of the schedule. -/
def State.round (s : State) (constant word : Word) : State :=
  let choice := (s.e &&& s.f) ^^^ (~~~s.e &&& s.g)
  let majority := (s.a &&& s.b) ^^^ (s.a &&& s.c) ^^^ (s.b &&& s.c)
  let first := s.h + (s.e.rotateRight 6 ^^^ s.e.rotateRight 11 ^^^ s.e.rotateRight 25) + choice +
    constant + word
  let second := (s.a.rotateRight 2 ^^^ s.a.rotateRight 13 ^^^ s.a.rotateRight 22) + majority
  ⟨first + second, s.a, s.b, s.c, s.d + first, s.e, s.f, s.g⟩

/-- The schedule so far, latest word first, and one word more. -/
def extend (latest : List Word) : List Word :=
  match latest with
  | _ :: w2 :: _ :: _ :: _ :: _ :: w7 :: _ :: _ :: _ :: _ :: _ :: _ :: _ :: w15 :: w16 :: _ =>
    ((w2.rotateRight 17 ^^^ w2.rotateRight 19 ^^^ w2 >>> 10) + w7 +
      (w15.rotateRight 7 ^^^ w15.rotateRight 18 ^^^ w15 >>> 3) + w16) :: latest
  | _ => latest

def schedule (block : List Word) : List Word := (extend^[48] block.reverse).reverse

def State.compress (s : State) (block : List Word) : State :=
  s.add ((constants.zip (schedule block)).foldl (fun t (constant, word) => t.round constant word) s)

/-- The bytes of a number, most significant first. -/
def bigEndian (count n : Nat) : List Nat :=
  (List.range count).reverse.map fun i => n / 256 ^ i % 256

def padded (bytes : List Nat) : List Nat :=
  bytes ++ 128 :: List.replicate ((119 - bytes.length % 64) % 64) 0 ++ bigEndian 8 (8 * bytes.length)

def words : List Nat → List Word
  | a :: b :: c :: d :: rest =>
    BitVec.ofNat 32 (((256 * a + b) * 256 + c) * 256 + d) :: words rest
  | _ => []

/-- Compress the blocks one after the other. -/
def blocks : Nat → State → List Word → State
  | 0, s, _ => s
  | n + 1, s, message => blocks n (s.compress (message.take 16)) (message.drop 16)

def digest (bytes : List Nat) : State :=
  let message := words (padded bytes)
  blocks (message.length / 16) State.start message

def hex (w : Word) : String := String.ofList (List.leftpad 8 '0' (Nat.toDigits 16 w.toNat))

/-- `sha256(data).hexdigest()`. -/
def hexdigestBytes (data : List UInt8) : String :=
  let s := digest (data.map UInt8.toNat)
  String.join ([s.a, s.b, s.c, s.d, s.e, s.f, s.g, s.h].map hex)

/-- The digest of the characters' UTF-8 bytes. -/
def hexdigestChars (chars : List Char) : String :=
  let s := digest ((chars.flatMap String.utf8EncodeChar).map UInt8.toNat)
  String.join ([s.a, s.b, s.c, s.d, s.e, s.f, s.g, s.h].map hex)

/-- `sha256(text.encode()).hexdigest()`. -/
def hexdigest (text : String) : String := hexdigestChars text.toList

example : hexdigest "abc" =
    "ba7816bf8f01cfea414140de5dae2223b00361a396177a9cb410ff61f20015ad" := by decide +kernel

theorem hexdigest_eq (text : String) :
    hexdigest text = hexdigestBytes (text.toList.flatMap String.utf8EncodeChar) := rfl

theorem hexdigestBytes_ne_empty (data : List UInt8) : hexdigestBytes data ≠ "" := by
  have word (w : Word) : 0 < (hex w).toList.length := by
    rw [hex, String.toList_ofList, List.leftpad, List.length_append]
    have some := List.length_pos_of_ne_nil (Nat.toDigits_ne_nil : Nat.toDigits 16 w.toNat ≠ [])
    omega
  intro empty
  have chars := congrArg (fun text => text.toList.length) empty
  have first := word (digest (data.map UInt8.toNat)).a
  simp [hexdigestBytes] at chars
  simp [chars] at first

/-! ## HMAC -/

def utf8 (text : String) : List Nat := (text.toList.flatMap String.utf8EncodeChar).map UInt8.toNat

def digestBytes (bytes : List Nat) : List Nat :=
  let s := digest bytes
  [s.a, s.b, s.c, s.d, s.e, s.f, s.g, s.h].flatMap fun w => bigEndian 4 w.toNat

/-- The key as one block. -/
def keyBlock (key : List Nat) : List Nat :=
  let key := if 64 < key.length then digestBytes key else key
  key ++ List.replicate (64 - key.length) 0

/-- `hmac.new(key.encode(), message.encode(), hashlib.sha256).hexdigest()`. -/
def hmacHexdigest (key message : String) : String :=
  let block := keyBlock (utf8 key)
  let inner := digestBytes (block.map (· ^^^ 0x36) ++ utf8 message)
  let s := digest (block.map (· ^^^ 0x5c) ++ inner)
  String.join ([s.a, s.b, s.c, s.d, s.e, s.f, s.g, s.h].map hex)

example : hmacHexdigest "key" "The quick brown fox jumps over the lazy dog" =
    "f7bc83f430538424b13298e6aa6fb143ef4d59a14946175997479dbc2d1a3cd8" := by decide +kernel

end Sha256

/-!
## Hash-linked logs

Every entry names the hash of the entry before it, the first a fixed start.
-/

namespace HashChain
variable {α H : Type*} (prev hash : α → H)

def Linked (start : H) : List α → Prop
  | [] => True
  | row :: rows => prev row = start ∧ Linked (hash row) rows

/-- The hash the next entry has to name. -/
def head (start : H) (rows : List α) : H := (rows.getLast?.map hash).getD start

instance decidableLinked [DecidableEq H] : ∀ start rows, Decidable (Linked prev hash start rows)
  | _, [] => decidable_of_iff True Iff.rfl
  | start, row :: rows =>
    have := decidableLinked (hash row) rows
    decidable_of_iff (prev row = start ∧ Linked prev hash (hash row) rows) Iff.rfl

variable {prev hash}

theorem linked_append {start : H} {rows later : List α} :
    Linked prev hash start (rows ++ later) ↔
      Linked prev hash start rows ∧ Linked prev hash (head hash start rows) later := by
  induction rows generalizing start with
  | nil => simp [Linked, head]
  | cons row rows ih =>
    have same : head hash start (row :: rows) = head hash (hash row) rows := by
      cases rows with
      | nil => rfl
      | cons next rows => simp [head, List.getLast?_cons]
    simp only [List.cons_append, Linked, ih, same, and_assoc]

theorem Linked.of_prefix {start : H} {rows later : List α} (linked : Linked prev hash start later)
    (first : rows <+: later) : Linked prev hash start rows := by
  obtain ⟨rest, rfl⟩ := first
  exact (linked_append.mp linked).1

/-- Naming the head continues the log. -/
theorem Linked.snoc {start : H} {rows : List α} {row : α} (linked : Linked prev hash start rows)
    (named : prev row = head hash start rows) : Linked prev hash start (rows ++ [row]) :=
  linked_append.mpr ⟨linked, named, trivial⟩

end HashChain
