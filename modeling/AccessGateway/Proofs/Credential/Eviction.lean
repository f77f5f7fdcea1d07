import AccessGateway.Proofs.Credential.Run
import AccessGateway.Proofs.Text.Numeral

/-!
# `AccessGateway.Proofs.Credential.Eviction`: when expired entries are removed cannot be told

`CredentialStore` keeps an expired entry until an operation happens to evict it or `reap` removes
it. `LiveEntries` is the map it stands for: entries leave it at the very instant of their deadline,
and no operation on it looks at deadlines. A run is a list of events, and its answers are those of
the calls among them; that the two give the same answers to every run is what makes eviction
invisible.

A clock does not go on forever. A call whose deadline the clock cannot hold aborts the program, so a
run ends there, on the store as on the map. The results hold for a clock of any reach. Counting adds
signed words on both sides, so a counter at the largest one goes on with the smallest.

* `CredentialStore.unexpired_entries_pass`, `CredentialStore.answer_eq`: passing time and one
  call keep the store in agreement with the map, and the call gets the same answer.
* `CredentialStore.deadline?_eq`: a call sets the same deadline on both, so that it ends a run on
  both or on neither.
* `CredentialStore.answers_eq`: so does a whole run from any agreeing pair.
* `CredentialStore.answers_empty_eq`: a run from the empty store answers as the map does, with
  or without the removals.

The relation between the two sides is `LiveEntries.unexpired`: the map is what is left of the
entries of the store at the instant that the run has reached.
-/

set_option autoImplicit false

namespace AccessGateway

open Time (Duration)

/-- An entry has expired unless its deadline, if any, is ahead: the reference keeps what has a
deadline ahead, and the store what has not expired. -/
theorem Entry.all_deadline (now : Instant) (entry : Entry) :
    entry.deadline.all (now < ·) = !entry.isExpired now := by
  rcases entry with ⟨value, _ | deadline⟩
  · rfl
  · show decide (now < deadline) = !decide (deadline ≤ now)
    rw [← decide_not, decide_eq_decide, Nat.not_le]

/-! ### Runs of a store -/

/-- A call with its answer. -/
abbrev StoreAnswer := (call : StoreCall) × Outcome call.Reply

/-- The deadline that a call gives to an entry of a store, if it gives any. Only setting a value and
setting a lifetime do, and the latter only where the entry is live. -/
def StoreCall.deadline? (s : CredentialStore) (now : Instant) : StoreCall → Option Instant
  | .set _ _ lifetime => CredentialStore.deadlineOf now lifetime
  | .expire key lifetime => (s.live? now key).map fun _ => now + lifetime.millis
  | _ => none

/-- The answers to the calls of a run, by a clock that reaches as far as `horizon`. A deadline
beyond it ends the run. The count that a removal gives is not one of the answers, as it tells how
many expired entries were still there. -/
def CredentialStore.answers (horizon : Instant) (s : CredentialStore) (now : Instant) :
    List StoreEvent → List StoreAnswer
  | [] => []
  | .pass elapsed :: rest => s.answers horizon (now + elapsed) rest
  | .call c :: rest =>
    if (c.deadline? s now).any (horizon < ·) then []
    else
      let (reply, s) := c.answer s now
      ⟨c, reply⟩ :: s.answers horizon now rest
  | .reap :: rest => (s.reap now).2.answers horizon now rest

/-! ### The map that a store stands for -/

/-- Entries by key, each there until its deadline. It is what a reader of the interface would take a
store to be. -/
abbrev LiveEntries := Std.ExtTreeMap String Entry

namespace LiveEntries

/-- The entries whose deadline has not been reached. Time passes on the map by taking the others
away. -/
def unexpired (m : LiveEntries) (now : Instant) : LiveEntries :=
  m.filter fun _ entry => entry.deadline.all (now < ·)

/-- The answer to a call, and the map afterwards. All entries count as live, so deadlines are set
here and never looked at. -/
def answer (m : LiveEntries) (now : Instant) :
    (call : StoreCall) → Outcome call.Reply × LiveEntries
  | .keys pattern =>
    match Text.Glob.compile pattern.toList with
    | .error fault => (.error (CredentialStore.badPattern pattern fault), m)
    | .ok tokens => (.ok (m.keys.filter fun key => Text.Glob.accepts tokens key.toList), m)
  | .get key => (.ok (m[key]?.map Entry.value), m)
  | .set key value none => (.ok (), m.insert key ⟨value, none⟩)
  | .set key value (some lifetime) =>
    let deadline := if lifetime = .zero then none else some (now + lifetime.millis)
    (.ok (), m.insert key ⟨value, deadline⟩)
  | .del names =>
    (.ok (m.filter fun key _ => names.contains key).size,
      m.filter fun key _ => !names.contains key)
  | .exists names => (.ok (names.all fun key => m.contains key), m)
  | .expire key lifetime =>
    match m[key]? with
    | some entry => (.ok true, m.insert key ⟨entry.value, some (now + lifetime.millis)⟩)
    | none => (.ok false, m)
  | .incr key =>
    match m[key]? with
    | none => (.ok (1 : Int), m.insert key ⟨"1", none⟩)
    | some entry =>
      match Text.Numeral.readInt entry.value.toList with
      | .ok n =>
        let next := Text.Numeral.addSigned n 1
        (.ok next, m.insert key ⟨Text.intText next, entry.deadline⟩)
      | .error _ => (.error (.internal ("value at '" ++ key ++ "' is not an integer")), m)

/-- The deadline that a call gives to an entry, if it gives any: a lifetime that is not zero does,
and it is given to an entry that is set or already there. -/
def deadline? (m : LiveEntries) (now : Instant) : StoreCall → Option Instant
  | .set _ _ (some lifetime) => if lifetime = .zero then none else some (now + lifetime.millis)
  | .expire key lifetime => if m.contains key then some (now + lifetime.millis) else none
  | _ => none

/-- The answers to the calls of a run, by a clock that reaches as far as `horizon`. Entries leave
the map as soon as their deadline is reached, also when a call sets one that has come already. -/
def answers (horizon : Instant) (m : LiveEntries) (now : Instant) :
    List StoreEvent → List StoreAnswer
  | [] => []
  | .pass elapsed :: rest => answers horizon (unexpired m (now + elapsed)) (now + elapsed) rest
  | .call c :: rest =>
    if (deadline? m now c).any (horizon < ·) then []
    else
      let (reply, m) := answer m now c
      ⟨c, reply⟩ :: answers horizon (unexpired m now) now rest
  | .reap :: rest => answers horizon m now rest

/-- A run takes no notice of removals: leaving them out of the events changes no answer. -/
theorem answers_filter_ne_reap (horizon : Instant) (m : LiveEntries) (now : Instant)
    (events : List StoreEvent) :
    answers horizon m now (events.filter (· ≠ .reap)) = answers horizon m now events := by
  induction events generalizing m now with
  | nil => rfl
  | cons event rest ih =>
    cases event with
    | pass elapsed =>
      rw [List.filter_cons_of_pos (by simp)]
      exact ih _ _
    | call c =>
      rw [List.filter_cons_of_pos (by simp)]
      exact ite_congr rfl (fun _ => rfl) fun _ => congrArg (List.cons _) (ih _ _)
    | reap =>
      rw [List.filter_cons_of_neg (by decide)]
      exact ih _ _

/-- What is left at an instant is what a look-up finds live, under every key. -/
theorem getElem?_unexpired (m : LiveEntries) (now : Instant) (key : String) :
    (unexpired m now)[key]? = CredentialStore.live? ⟨m⟩ now key := by
  rw [unexpired, Std.ExtTreeMap.getElem?_filter', CredentialStore.live?]
  simp only [Entry.all_deadline]

/-- Maps of which the same is found live are the same once expired entries are gone, so equations
for look-ups are enough to compare them. -/
theorem unexpired_congr {m m' : LiveEntries} {now : Instant}
    (hlive : ∀ key, CredentialStore.live? ⟨m⟩ now key = CredentialStore.live? ⟨m'⟩ now key) :
    unexpired m now = unexpired m' now := by
  refine Std.ExtTreeMap.ext_getElem? fun key => ?_
  rw [getElem?_unexpired, getElem?_unexpired, hlive]

/-- A look-up among the entries of some keys finds what it did under these, and nothing under
others. -/
theorem live?_filter_key (m : LiveEntries) (now : Instant) (p : String → Bool) (key : String) :
    CredentialStore.live? ⟨m.filter fun key _ => p key⟩ now key
      = if p key then CredentialStore.live? ⟨m⟩ now key else none := by
  rw [CredentialStore.live?, Std.ExtTreeMap.getElem?_filter', CredentialStore.live?]
  cases hp : p key with
  | true => simp
  | false => simp

/-- Nothing that is found live now is lost among what is left now, and the same of it is live at
every later instant. -/
theorem live?_unexpired (m : LiveEntries) {now later : Instant} (hle : now ≤ later)
    (key : String) :
    CredentialStore.live? ⟨unexpired m now⟩ later key = CredentialStore.live? ⟨m⟩ later key := by
  rw [CredentialStore.live?_later ⟨m⟩ hle, ← getElem?_unexpired m now key]
  show ((unexpired m now)[key]?).filter _ = _
  cases (unexpired m now)[key]? with
  | none => rfl
  | some entry => rfl

/-- A key is among what is left when it is found live. -/
theorem contains_unexpired (m : LiveEntries) (now : Instant) (key : String) :
    (unexpired m now).contains key = (CredentialStore.live? ⟨m⟩ now key).isSome := by
  rw [Std.ExtTreeMap.contains_eq_isSome_getElem?, getElem?_unexpired]

end LiveEntries

namespace CredentialStore

open LiveEntries

/-! ### One event -/

/-- What is left later is what is left later of what is left now. -/
theorem unexpired_entries_pass (s : CredentialStore) (now elapsed : Nat) :
    unexpired s.entries (now + elapsed)
      = unexpired (unexpired s.entries now) (now + elapsed) :=
  unexpired_congr fun key => (live?_unexpired s.entries (Nat.le_add_right _ _) key).symm

/-- Putting an entry under a key has the same effect on a store and on what is left of it, also if
the entry has expired when it is put there. -/
theorem unexpired_insert (s : CredentialStore) (now : Instant) (key : String) (entry : Entry) :
    unexpired (s.entries.insert key entry) now
      = unexpired ((unexpired s.entries now).insert key entry) now := by
  refine unexpired_congr fun other => ?_
  rw [live?_insert s, live?_insert ⟨unexpired s.entries now⟩,
    live?_unexpired _ (Nat.le_refl now)]

/-- The keys that a pattern finds in a store are those that it finds in what is left, in the same
order. -/
theorem keys_eq {tokens : List Text.Glob.Token} (s : CredentialStore) (now : Instant)
    (pattern : String) (hcompile : Text.Glob.compile pattern.toList = .ok tokens) :
    s.keys now pattern
      = .ok ((unexpired s.entries now).keys.filter fun key =>
          Text.Glob.accepts tokens key.toList) := by
  rw [CredentialStore.keys, hcompile, ← Std.ExtTreeMap.map_fst_toList_eq_keys, unexpired,
    Std.ExtTreeMap.toList_filter, List.filter_map, List.filter_filter]
  simp only [Entry.all_deadline, Function.comp_def, Bool.and_comm]

/-- The count of removed keys is the number of different live ones among them. -/
theorem del_fst (s : CredentialStore) (now : Instant) (names : List String) :
    (s.del now names).1
      = ((unexpired s.entries now).filter fun key _ => names.contains key).size := by
  induction names generalizing s with
  | nil =>
    have hempty : (unexpired s.entries now).filter (fun key _ => List.contains [] key) = ∅ :=
      Std.ExtTreeMap.ext_getElem? fun key => by simp
    rw [hempty]
    rfl
  | cons name rest ih =>
    -- what the first name and the rest remove, less the first name, is what the rest remove
    -- once the first name is gone
    have herase : ((unexpired s.entries now).filter fun key _ => (name :: rest).contains key).erase
          name
        = (unexpired (s.entries.erase name) now).filter fun key _ => rest.contains key := by
      refine Std.ExtTreeMap.ext_getElem? fun key => ?_
      rw [Std.ExtTreeMap.getElem?_filter', getElem?_unexpired, live?_erase s]
      by_cases hkey : key = name
      · rw [if_pos hkey, hkey, Std.ExtTreeMap.getElem?_erase_self, Option.filter_none]
      · rw [if_neg hkey, Std.ExtTreeMap.getElem?_erase, if_neg, Std.ExtTreeMap.getElem?_filter',
          getElem?_unexpired]
        · simp [hkey]
        · exact fun heq => hkey (Std.LawfulEqOrd.eq_of_compare heq).symm
    have hname :
        ((unexpired s.entries now).filter fun key _ => (name :: rest).contains key).contains name
          = (s.live? now name).isSome := by
      rw [Std.ExtTreeMap.contains_eq_isSome_getElem?, Std.ExtTreeMap.getElem?_filter',
        getElem?_unexpired]
      simp
    show (del ⟨s.entries.erase name⟩ now rest).1 + _ = _
    rw [ih, ← herase, Std.ExtTreeMap.size_erase, hname]
    cases hlive : (s.live? now name).isSome with
    | true =>
      rw [hlive] at hname
      have hpos := mt Std.ExtTreeMap.eq_empty_iff_size_eq_zero.mpr
        (Std.ExtTreeMap.ne_empty_of_mem (Std.ExtTreeMap.mem_iff_contains.mpr hname))
      rw [if_pos rfl, if_pos rfl]
      omega
    | false => rw [if_neg Bool.false_ne_true, if_neg Bool.false_ne_true, Nat.add_zero]

/-- A lifetime sets a deadline unless it is zero, which means that the entry stays. -/
theorem deadlineOf_some (now : Instant) (lifetime : Duration) :
    deadlineOf now (some lifetime)
      = if lifetime = .zero then none else some (now + lifetime.millis) := by
  rcases lifetime with ⟨_ | millis⟩
  · rfl
  · rfl

/-- One call gets the same answer from a store and from what is left of it, and leaves them in
agreement. This is the step on which the induction over runs rests. -/
theorem answer_eq (s : CredentialStore) (now : Instant) (c : StoreCall) :
    (c.answer s now).1 = (LiveEntries.answer (unexpired s.entries now) now c).1 ∧
    unexpired (c.answer s now).2.entries now
      = unexpired (LiveEntries.answer (unexpired s.entries now) now c).2 now := by
  -- most calls at most evict, which leaves all live entries as they are
  have hself : ∀ m : LiveEntries, (∀ key, CredentialStore.live? ⟨m⟩ now key = s.live? now key) →
      unexpired m now = unexpired (unexpired s.entries now) now := fun m hlive =>
    unexpired_congr fun key => by rw [hlive, live?_unexpired _ (Nat.le_refl now)]
  cases c with
  | keys pattern =>
    cases hcompile : Text.Glob.compile pattern.toList with
    | error fault =>
      simp only [StoreCall.answer, LiveEntries.answer, CredentialStore.keys, hcompile]
      exact ⟨rfl, hself _ fun _ => rfl⟩
    | ok tokens =>
      simp only [StoreCall.answer, LiveEntries.answer, keys_eq s now pattern hcompile, hcompile]
      exact ⟨rfl, hself _ fun _ => rfl⟩
  | get key =>
    refine ⟨?_, hself _ (live?_get s (Nat.le_refl now) key)⟩
    show Except.ok ((s.live? now key).map Entry.value) = _
    rw [← getElem?_unexpired s.entries]
    rfl
  | set key value lifetime =>
    refine ⟨by cases lifetime <;> rfl, ?_⟩
    show unexpired (s.entries.insert key ⟨value, deadlineOf now lifetime⟩) now = _
    rw [unexpired_insert]
    cases lifetime with
    | none => rfl
    | some lifetime =>
      rw [deadlineOf_some]
      rfl
  | del names =>
    refine ⟨congrArg Except.ok (del_fst s now names), unexpired_congr fun key => ?_⟩
    show (s.del now names).2.live? now key
      = live? ⟨(unexpired s.entries now).filter fun key _ => !names.contains key⟩ now key
    rw [live?_del, live?_filter_key, live?_unexpired _ (Nat.le_refl now)]
    by_cases hkey : key ∈ names
    · simp [hkey]
    · simp [hkey]
  | «exists» names =>
    refine ⟨?_, hself _ (live?_exists s (Nat.le_refl now) names)⟩
    show Except.ok (CredentialStore.exists s now names).1 = _
    rw [exists_fst, LiveEntries.answer]
    simp only [contains_unexpired]
    rfl
  | expire key lifetime =>
    rw [LiveEntries.answer, getElem?_unexpired]
    show Except.ok (s.expire now key lifetime).1 = _ ∧
      unexpired (s.expire now key lifetime).2.entries now = _
    rw [expire]
    cases hlive : s.live? now key with
    | none => exact ⟨rfl, hself _ fun _ => rfl⟩
    | some entry => exact ⟨rfl, unexpired_insert s now key _⟩
  | incr key =>
    rw [LiveEntries.answer, getElem?_unexpired]
    show (s.incr now key).1 = _ ∧ unexpired (s.incr now key).2.entries now = _
    rw [incr]
    cases hlive : s.live? now key with
    | none =>
      -- an absent counter is read as zero
      have hread : Text.Numeral.readInt (Option.getD none zeroEntry).value.toList = .ok 0 :=
        Text.Numeral.readInt_zero
      have hone : Text.Numeral.addSigned 0 1 = 1 := by decide
      simp only [hread, hone, Text.intText_one]
      exact ⟨rfl, unexpired_insert s now key _⟩
    | some entry =>
      simp only [Option.getD_some]
      cases hread : Text.Numeral.readInt entry.value.toList with
      | ok n => exact ⟨rfl, unexpired_insert s now key _⟩
      | error fault => exact ⟨rfl, hself _ fun _ => rfl⟩

/-- A call sets the same deadline on a store and on what is left of it. -/
theorem deadline?_eq (s : CredentialStore) (now : Instant) (c : StoreCall) :
    c.deadline? s now = LiveEntries.deadline? (unexpired s.entries now) now c := by
  cases c with
  | keys pattern => rfl
  | get key => rfl
  | set key value lifetime =>
    cases lifetime with
    | none => rfl
    | some lifetime => exact deadlineOf_some now lifetime
  | del names => rfl
  | «exists» names => rfl
  | expire key lifetime =>
    rw [LiveEntries.deadline?, contains_unexpired, StoreCall.deadline?]
    cases s.live? now key with
    | none => rfl
    | some entry => rfl
  | incr key => rfl

/-- Removing all expired entries leaves what is left as it is, so a removal cannot be noticed. -/
theorem unexpired_reap (s : CredentialStore) (now : Instant) :
    unexpired (s.reap now).2.entries now = unexpired s.entries now :=
  unexpired_congr (live?_reap s (Nat.le_refl now))

/-! ### Runs -/

/-- A run answers as a run on what is left of the store does. The induction is on the events, and
what the steps carry is that the map is what is left of the store at the instant that is reached. -/
theorem answers_eq (horizon : Instant) (s : CredentialStore) (now : Instant)
    (events : List StoreEvent) :
    s.answers horizon now events
      = LiveEntries.answers horizon (unexpired s.entries now) now events := by
  induction events generalizing s now with
  | nil => rfl
  | cons event rest ih =>
    cases event with
    | pass elapsed =>
      show s.answers horizon (now + elapsed) rest
        = LiveEntries.answers horizon _ (now + elapsed) rest
      rw [ih, unexpired_entries_pass]
    | call c =>
      obtain ⟨hreply, hleft⟩ := answer_eq s now c
      rw [CredentialStore.answers, LiveEntries.answers, deadline?_eq]
      refine ite_congr rfl (fun _ => rfl) fun _ => ?_
      show ⟨c, (c.answer s now).1⟩ :: (c.answer s now).2.answers horizon now rest = _
      rw [ih, hreply, hleft]
    | reap =>
      show (s.reap now).2.answers horizon now rest = LiveEntries.answers horizon _ now rest
      rw [ih, unexpired_reap]

/-- A run from the empty store gets the answers of the map from which entries disappear at their
deadline, by a clock of any reach. Removals of expired entries can be put in or left out anywhere,
since the map takes no notice of them. -/
theorem answers_empty_eq (horizon start : Instant) (events : List StoreEvent) :
    empty.answers horizon start events = LiveEntries.answers horizon ∅ start events ∧
    empty.answers horizon start events
      = empty.answers horizon start (events.filter (· ≠ .reap)) := by
  have hempty : unexpired empty.entries start = ∅ :=
    Std.ExtTreeMap.ext_getElem? fun key => getElem?_unexpired _ start key
  constructor
  · rw [answers_eq, hempty]
  · rw [answers_eq, answers_eq, LiveEntries.answers_filter_ne_reap]

end CredentialStore

end AccessGateway
