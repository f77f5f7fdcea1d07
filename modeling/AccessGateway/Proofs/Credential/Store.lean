import AccessGateway.Credential.Program

/-!
# `AccessGateway.Proofs.Credential.Store`: what later look-ups see of an operation

The look-ups that matter are those of `live?`, at the instant of an operation or later. Each
operation has one equation that gives them in terms of the look-ups before it, so that nothing
else has to know how the entries are kept, or whether an expired one was evicted. Two stores that
differ in expired entries only cannot be told apart by these equations.

* `CredentialStore.live?_later`: what is live later is what is live now and lasts. An entry is not
  changed by time, only lost.
* `CredentialStore.live?_set`, `live?_del`, `live?_expire`, `incr_of_readInt`: operations that
  change a record. Each changes what is seen of its own keys and of no other.
* `CredentialStore.live?_get`, `live?_exists`, `live?_reap`: operations that evict only.
* `CredentialStore.getElem?_del`, `del_fst_of_live`: which records a removal takes away, and how
  many.

The equations are for every later instant at once, since what an operation leaves is looked at by
whatever comes next, at a time that is not known here.
-/

set_option autoImplicit false

namespace AccessGateway

open Text.Numeral (addSigned)
open Time (Duration)

namespace Entry

/-- An entry that has expired stays expired: its deadline does not move. -/
theorem isExpired_of_le {entry : Entry} {now later : Instant} (hle : now ≤ later)
    (hexpired : entry.isExpired now = true) : entry.isExpired later = true := by
  rw [isExpired, Option.any_eq_true_iff_get] at hexpired ⊢
  obtain ⟨hsome, hdeadline⟩ := hexpired
  exact ⟨hsome, decide_eq_true (Nat.le_trans (of_decide_eq_true hdeadline) hle)⟩

/-- The entry, unless its deadline has come. It is what is seen at an instant of an entry that was
put under a key. -/
def lasting? (entry : Entry) (now : Instant) : Option Entry :=
  (some entry).filter fun e => !e.isExpired now

/-- An entry lasts until its deadline, and without one for ever. -/
theorem lasting?_eq (value : String) (deadline : Option Instant) (now : Instant) :
    lasting? ⟨value, deadline⟩ now
      = if ∀ d ∈ deadline, now < d then some ⟨value, deadline⟩ else none := by
  cases deadline with
  | none => simp [lasting?, isExpired]
  | some d =>
    by_cases h : now < d
    · simp [lasting?, isExpired, h]
    · simp [lasting?, isExpired, h, Nat.le_of_not_lt h]

end Entry

namespace CredentialStore

variable {s : CredentialStore} {now later : Instant} {key : String}

/-- A look-up after an entry was put under a key: it sees that entry while it lasts, and other keys
as before. -/
theorem live?_insert (s : CredentialStore) (now : Instant) (key other : String) (entry : Entry) :
    live? ⟨s.entries.insert key entry⟩ now other
      = if other = key then entry.lasting? now else s.live? now other := by
  rw [live?, live?]
  by_cases hkey : other = key
  · subst hkey
    rw [Std.ExtTreeMap.getElem?_insert_self, if_pos rfl, Entry.lasting?]
  · rw [Std.ExtTreeMap.getElem?_insert, if_neg, if_neg hkey]
    exact fun heq => hkey (Std.LawfulEqOrd.eq_of_compare heq).symm

/-- A look-up after a key was erased: it sees nothing there, and other keys as before. -/
theorem live?_erase (s : CredentialStore) (now : Instant) (key other : String) :
    live? ⟨s.entries.erase key⟩ now other = if other = key then none else s.live? now other := by
  rw [live?, live?]
  by_cases hkey : other = key
  · subst hkey
    rw [Std.ExtTreeMap.getElem?_erase_self, if_pos rfl, Option.filter_none]
  · rw [Std.ExtTreeMap.getElem?_erase, if_neg, if_neg hkey]
    exact fun heq => hkey (Std.LawfulEqOrd.eq_of_compare heq).symm

/-- What is live later is what is live now and lasts. So a key that is dead now is dead later,
unless something is written to it. -/
theorem live?_later (s : CredentialStore) (hle : now ≤ later) (key : String) :
    s.live? later key = (s.live? now key).bind fun entry => entry.lasting? later := by
  rw [live?, live?]
  cases s.entries[key]? with
  | none => rfl
  | some entry =>
    -- an entry that has expired by `now` has expired by `later` as well
    cases hnow : entry.isExpired now with
    | true => simp [Option.filter_some, hnow, Entry.isExpired_of_le hle hnow]
    | false => simp [Option.filter_some, hnow, Entry.lasting?]

/-- A key that is not live does not come back by itself: only a call can write it again. -/
theorem live?_eq_none_of_le (hle : now ≤ later) (hnone : s.live? now key = none) :
    s.live? later key = none := by
  rw [live?_later s hle, hnone, Option.bind_none]

/-- Eviction takes nothing away that would be seen, at its own instant or later. -/
theorem live?_evict (s : CredentialStore) (hle : now ≤ later) (key other : String) :
    (s.evict now key).live? later other = s.live? later other := by
  rw [evict]
  split
  · rename_i entry hentry
    split
    · rename_i hexpired
      -- only an entry that has expired is erased, and it is not live later
      rw [live?_erase]
      split
      · rename_i hkey
        rw [hkey, live?, hentry, Option.filter_some,
          if_neg (by simp [Entry.isExpired_of_le hle hexpired])]
      · rfl
    · rfl
  · rfl

/-- A live entry is not evicted, so a call on a live key begins with the store as it is. -/
theorem evict_of_live {entry : Entry} (hlive : s.live? now key = some entry) :
    s.evict now key = s := by
  obtain ⟨hentry, hlasts⟩ := Option.filter_eq_some_iff.mp hlive
  rw [evict, hentry]
  have hunexpired : ¬ entry.isExpired now = true := by simpa using hlasts
  exact if_neg hunexpired

/-- Look-ups after a look-up: it may remove what has expired, which no later look-up would find. -/
theorem live?_get (s : CredentialStore) (hle : now ≤ later) (key other : String) :
    (s.get now key).2.live? later other = s.live? later other :=
  live?_evict s hle key other

/-- Look-ups after a record was set. Under its key there is the new value with its own deadline, and
the old one's is gone. -/
theorem live?_set (s : CredentialStore) (now later : Instant) (key value : String)
    (lifetime : Option Duration) (other : String) :
    (s.set now key value lifetime).live? later other
      = if other = key then Entry.lasting? ⟨value, deadlineOf now lifetime⟩ later
        else s.live? later other :=
  live?_insert s later key other _

/-- What is kept under a key after records were removed, whether or not it had expired: nothing
under the keys that were given, and all else. -/
theorem getElem?_del (s : CredentialStore) (now : Instant) (keys : List String) (key : String) :
    (s.del now keys).2.entries[key]? = if key ∈ keys then none else s.entries[key]? := by
  induction keys generalizing s with
  | nil => rw [if_neg List.not_mem_nil]; rfl
  | cons first rest ih =>
    show (del ⟨s.entries.erase first⟩ now rest).2.entries[key]? = _
    rw [ih, Std.ExtTreeMap.getElem?_erase]
    by_cases hrest : key ∈ rest
    · simp [hrest]
    · simp [hrest, eq_comm (a := key)]

/-- Look-ups after records were removed: these are gone, and all others are found as before. -/
theorem live?_del (s : CredentialStore) (now later : Instant) (keys : List String)
    (other : String) :
    (s.del now keys).2.live? later other
      = if other ∈ keys then none else s.live? later other := by
  rw [live?, getElem?_del]
  split
  · rfl
  · rfl

/-- Each of several different live records is counted when they are removed. A key that is given
twice would be counted once. -/
theorem del_fst_of_live {keys : List String} (hnodup : keys.Nodup)
    (hlive : ∀ key ∈ keys, (s.live? now key).isSome = true) : (s.del now keys).1 = keys.length := by
  induction keys generalizing s with
  | nil => rfl
  | cons first rest ih =>
    obtain ⟨hfresh, hrest⟩ := List.nodup_cons.mp hnodup
    -- No other key is touched, so the rest is still live when the first record is gone.
    have hleft : ∀ key ∈ rest, (live? ⟨s.entries.erase first⟩ now key).isSome = true := by
      intro key hkey
      have hne : key ≠ first := fun h => hfresh (h ▸ hkey)
      rw [live?_erase, if_neg hne]
      exact hlive key (List.mem_cons_of_mem _ hkey)
    show (del ⟨s.entries.erase first⟩ now rest).1 + _ = _
    rw [ih hrest hleft, if_pos (hlive first List.mem_cons_self), List.length_cons]

/-- Look-ups after a check. It evicts at most the expired entry at which it stops. -/
theorem live?_exists (s : CredentialStore) (hle : now ≤ later) (keys : List String)
    (other : String) :
    (CredentialStore.exists s now keys).2.live? later other = s.live? later other := by
  induction keys with
  | nil => rfl
  | cons key rest ih =>
    rw [CredentialStore.exists]
    split
    · exact ih
    · exact live?_evict s hle key other

/-- A check finds all keys live, or not: one that is missing makes the answer negative. -/
theorem exists_fst (s : CredentialStore) (now : Instant) (keys : List String) :
    (CredentialStore.exists s now keys).1 = keys.all fun key => (s.live? now key).isSome := by
  induction keys with
  | nil => rfl
  | cons key rest ih =>
    rw [CredentialStore.exists, List.all_cons]
    cases hlive : (s.live? now key).isSome with
    | true => rw [if_pos rfl, ih, Bool.true_and]
    | false => rw [if_neg Bool.false_ne_true, Bool.false_and]

/-- Look-ups after a deadline was set. A live entry keeps its value and lasts as long as the new
deadline lets it; a dead one is not brought back. -/
theorem live?_expire (s : CredentialStore) (hle : now ≤ later) (key : String)
    (lifetime : Duration) (other : String) :
    (s.expire now key lifetime).2.live? later other
      = if other = key then (s.live? now key).bind fun entry =>
          Entry.lasting? ⟨entry.value, some (now + lifetime.millis)⟩ later
        else s.live? later other := by
  rw [expire]
  cases hlive : s.live? now key with
  | none =>
    -- the key is not live at any later instant either, so nothing changes there
    by_cases hkey : other = key
    · rw [if_pos hkey, Option.bind_none, hkey]
      exact live?_eq_none_of_le hle hlive
    · rw [if_neg hkey]
  | some entry => exact live?_insert s later key other _

/-- Counting a record that holds a number answers with the next word, and look-ups see it under the
deadline that the record had. A missing record holds zero, without a deadline. -/
theorem incr_of_readInt {n : Int} (s : CredentialStore) (now : Instant) (key : String)
    (hread : Text.Numeral.readInt ((s.live? now key).getD zeroEntry).value.toList = .ok n) :
    (s.incr now key).1 = .ok (addSigned n 1) ∧ ∀ later other,
      (s.incr now key).2.live? later other
        = if other = key then
            Entry.lasting? ⟨Text.intText (addSigned n 1),
              ((s.live? now key).getD zeroEntry).deadline⟩ later
          else s.live? later other := by
  have hincr : s.incr now key = (.ok (addSigned n 1), ⟨s.entries.insert key
      ⟨Text.intText (addSigned n 1), ((s.live? now key).getD zeroEntry).deadline⟩⟩) := by
    simp only [incr, hread]
  rw [hincr]
  exact ⟨rfl, fun later other => live?_insert s later key other _⟩

/-- A record that holds no number is not counted: the answer is a fault, and the store is as it
was. -/
theorem incr_of_readInt_error {fault : Text.Numeral.Fault} (s : CredentialStore) (now : Instant)
    (key : String)
    (hread : Text.Numeral.readInt ((s.live? now key).getD zeroEntry).value.toList
      = .error fault) :
    s.incr now key
      = (.error (.internal ("value at '" ++ key ++ "' is not an integer")), s) := by
  simp only [incr, hread]

/-- Look-ups after all expired entries were removed, none of which they would have found. -/
theorem live?_reap (s : CredentialStore) (hle : now ≤ later) (key : String) :
    (s.reap now).2.live? later key = s.live? later key := by
  show ((s.entries.filter fun _ entry => !entry.isExpired now)[key]?).filter _ = _
  rw [Std.ExtTreeMap.getElem?_filter', live?]
  cases s.entries[key]? with
  | none => rfl
  | some entry =>
    cases hnow : entry.isExpired now with
    | true => simp [Option.filter_some, hnow, Entry.isExpired_of_le hle hnow]
    | false => simp [Option.filter_some, hnow]

end CredentialStore

end AccessGateway
