import AccessGateway.Fault
import AccessGateway.Text.Glob
import Std.Data.ExtTreeMap

/-!
# `AccessGateway.Credential.Store`: records that expire

The in-process store of issued tokens and login failure counters: values by key, each with an
optional deadline. Every operation is given the instant at which it happens; an entry whose
deadline has come is absent to all of them, whether or not it was evicted already.

Expired entries go when they are met. A look-up evicts the one that it finds expired, a check of
several keys the first that it finds missing, and `reap` all of them. Setting, removing and counting
write over what was there.

A lifetime of zero means no deadline when a value is set, but a deadline that has come at once when
it is given to an entry that is there. Counting keeps the deadline of the entry, and an entry that
counting begins has none, so that a counter gets its lifetime from a second call.
-/

set_option autoImplicit false

namespace AccessGateway

open Time (Duration)

/-- A moment on the clock of a store, in milliseconds. The clock of a run never goes back. -/
abbrev Instant := Nat

/-- A value with an optional deadline. Without one the entry stays until it is removed or written
over. -/
structure Entry where
  value : String
  deadline : Option Instant
  deriving DecidableEq, Repr

/-- Whether the deadline of an entry has come. At the very instant of its deadline an entry has
expired. -/
def Entry.isExpired (entry : Entry) (now : Instant) : Bool := entry.deadline.any (· ≤ now)

/-- Entries by key, in the order of the keys. Some of them may have expired. -/
structure CredentialStore where
  entries : Std.ExtTreeMap String Entry
  deriving DecidableEq

namespace CredentialStore

/-- No entries. -/
def empty : CredentialStore := ⟨∅⟩

instance : Inhabited CredentialStore := ⟨empty⟩

/-- The entry under a key, unless it has expired. This is all that any operation sees of an
entry. -/
def live? (s : CredentialStore) (now : Instant) (key : String) : Option Entry :=
  s.entries[key]?.filter fun entry => !entry.isExpired now

/-- Removes the entry under a key if it has expired, and no other. -/
def evict (s : CredentialStore) (now : Instant) (key : String) : CredentialStore :=
  match s.entries[key]? with
  | some entry => if entry.isExpired now then ⟨s.entries.erase key⟩ else s
  | none => s

/-- The wording of a bad pattern. -/
def badPattern (pattern : String) (fault : Text.Glob.Fault) : Fault :=
  .internal ("invalid key pattern '" ++ pattern ++ "': Pattern syntax error near position " ++
    Text.natText fault.position ++ ": " ++ fault.problem.message)

/-- The keys of live entries that match a pattern, in their order. Expired entries are passed over
and stay. -/
def keys (s : CredentialStore) (now : Instant) (pattern : String) : Outcome (List String) :=
  match Text.Glob.compile pattern.toList with
  | .error fault => .error (badPattern pattern fault)
  | .ok tokens =>
    .ok ((s.entries.toList.filter fun (key, entry) =>
      !entry.isExpired now && Text.Glob.accepts tokens key.toList).map Prod.fst)

/-- The value under a key. An expired entry is evicted on the way. -/
def get (s : CredentialStore) (now : Instant) (key : String) : Option String × CredentialStore :=
  ((s.live? now key).map Entry.value, s.evict now key)

/-- The deadline of a lifetime that is given together with a value; an absent or zero lifetime has
none. -/
def deadlineOf (now : Instant) (lifetime : Option Duration) : Option Instant :=
  (lifetime.filter fun d => !d.isZero).map fun d => now + d.millis

/-- Sets value and deadline of a key. -/
def set (s : CredentialStore) (now : Instant) (key value : String) (lifetime : Option Duration) :
    CredentialStore :=
  ⟨s.entries.insert key ⟨value, deadlineOf now lifetime⟩⟩

/-- Removes keys and counts the live entries among them. Expired entries are removed as well, and
not counted. -/
def del (s : CredentialStore) (now : Instant) : List String → Nat × CredentialStore
  | [] => (0, s)
  | key :: rest =>
    -- a key that is given twice is gone the second time, and counts once
    let (count, final) := del ⟨s.entries.erase key⟩ now rest
    (count + (if (s.live? now key).isSome then 1 else 0), final)

/-- Whether all keys have live entries. Keys are looked at in order up to the first that has
none, and expired entries among them are evicted. -/
def «exists» (s : CredentialStore) (now : Instant) : List String → Bool × CredentialStore
  | [] => (true, s)
  | key :: rest =>
    if (s.live? now key).isSome then «exists» s now rest else (false, s.evict now key)

/-- Sets the deadline of a live entry, and says whether there was one. A lifetime of zero is a
deadline that has come. -/
def expire (s : CredentialStore) (now : Instant) (key : String) (lifetime : Duration) :
    Bool × CredentialStore :=
  match s.live? now key with
  | some entry =>
    let deadline := some (now + lifetime.millis)
    (true, ⟨s.entries.insert key { entry with deadline }⟩)
  | none => (false, s)

/-- The value that counting starts from. -/
def zeroEntry : Entry := ⟨"0", none⟩

/-- Counts the number under a key up by one and keeps its deadline. An absent or expired entry
counts as zero without a deadline. The count is a signed word, and wraps around as one. A value that
is no such number is left as it is. -/
def incr (s : CredentialStore) (now : Instant) (key : String) : Outcome Int × CredentialStore :=
  let entry := (s.live? now key).getD zeroEntry
  match Text.Numeral.readInt entry.value.toList with
  | .ok n =>
    let next := Text.Numeral.addSigned n 1
    (.ok next, ⟨s.entries.insert key { entry with value := Text.intText next }⟩)
  | .error _ => (.error (.internal ("value at '" ++ key ++ "' is not an integer")), s)

/-- Removes all expired entries and counts them. Nothing that an operation would have seen goes. -/
def reap (s : CredentialStore) (now : Instant) : Nat × CredentialStore :=
  let kept := s.entries.filter fun _ entry => !entry.isExpired now
  (s.entries.size - kept.size, ⟨kept⟩)

end CredentialStore

end AccessGateway
