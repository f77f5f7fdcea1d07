import AccessGateway.Http.Encoding
import AccessGateway.Proofs.Text.Utf8

/-!
# `AccessGateway.Proofs.Http.Encoding`: no name is decoded to nothing

A segment of a path that is not empty stands for a text that is not empty, since every octet leaves
something behind: percent decoding an octet, and UTF-8 a character or a malformed part. So a name
in a path is never the empty text, which stands for all namespaces where it is used as one. Routing
refuses empty segments as they are written (`Endpoint.ofSegments?`), and by what is shown here it
need not look at them again once they are decoded.

The scan of octets for UTF-8 carries a character that is still open. Its parts are those it has
finished, together with the open one at the end, and the step that takes an octet never leaves both
of them out. That is the invariant behind the induction of `Utf8.scanFrom_eq_nil`.

* `Utf8.scanFrom_eq_nil`: only nothing is scanned to nothing.
* `Http.segmentText?_eq_some_empty_iff`: only the empty segment is decoded to the empty text.
-/

set_option autoImplicit false

namespace AccessGateway

namespace Text.Utf8

/-- What begins with an octet is left open, or has a finished part. -/
theorem start_ne (octet : Nat) : start octet ≠ (none, []) := by
  rw [start]
  split
  · simp
  · split
    · simp
    · simp

/-- An octet leaves a character open, or finishes a part. This is so after every octet, whether a
character was open before or not. -/
theorem step_ne (state : Option Pending) (octet : Nat) : step state octet ≠ (none, []) := by
  cases state with
  | none => exact start_ne octet
  | some p =>
    rw [step]
    split
    · dsimp only
      split
      · simp
      · simp
    · simp

/-- Only nothing is scanned to nothing: neither is a character open nor are there octets left. -/
theorem scanFrom_eq_nil {state : Option Pending} {bytes : Bytes} (h : scanFrom state bytes = []) :
    state = none ∧ bytes = [] := by
  induction bytes generalizing state with
  | nil =>
    cases state with
    | none => exact ⟨rfl, rfl⟩
    | some p => cases h
  | cons octet rest ih =>
    have hparts : (step state octet.toNat).2 ++ scanFrom (step state octet.toNat).1 rest = [] := by
      cases state <;> exact h
    obtain ⟨hnone, hrest⟩ := List.append_eq_nil_iff.mp hparts
    exact absurd (Prod.ext (ih hrest).1 hnone) (step_ne state octet.toNat)

end Text.Utf8

namespace Http

/-- Percent decoding leaves at least one octet of some, since an escape is three octets for one. -/
theorem percentDecode_eq_nil {bytes : Bytes} (h : percentDecode bytes = []) : bytes = [] := by
  unfold percentDecode at h
  split at h
  · split at h
    · cases h
    · cases h
  · cases h
  · rfl

/-- Only nothing is read as the empty text, since what is read is a character for each part of the
scan. -/
theorem eq_nil_of_ofUtf8? {bytes : Bytes} (h : Text.ofUtf8? bytes = some "") : bytes = [] := by
  obtain ⟨chars, hchars, hempty⟩ := Option.map_eq_some_iff.mp h
  obtain rfl : chars = [] := String.ofList_inj.mp hempty
  have hscan : Text.Utf8.scan bytes = [] := by
    cases hparts : Text.Utf8.scan bytes with
    | nil => rfl
    | cons part rest =>
      rw [hparts] at hchars
      rw [List.mapM'_cons] at hchars
      obtain ⟨first, -, hchars⟩ := Option.bind_eq_some_iff.mp hchars
      obtain ⟨others, -, hcons⟩ := Option.bind_eq_some_iff.mp hchars
      cases hcons
  exact (Text.Utf8.scanFrom_eq_nil hscan).2

/-- Only the empty segment is decoded to the empty text. -/
theorem segmentText?_eq_some_empty_iff {segment : String} :
    segmentText? segment = some "" ↔ segment = "" := by
  constructor
  · intro h
    have hoctets := percentDecode_eq_nil (eq_nil_of_ofUtf8? h)
    rw [Text.utf8_eq, List.flatMap_eq_nil_iff] at hoctets
    exact String.toList_eq_nil_iff.mp (List.eq_nil_iff_forall_not_mem.mpr fun c hmem =>
      String.utf8EncodeChar_ne_nil (hoctets c hmem))
  · rintro rfl
    have hnothing : percentDecode (Text.utf8 "") = [] := by
      rw [Text.utf8_eq]
      simp [percentDecode]
    rw [segmentText?, hnothing]
    rfl

end Http

end AccessGateway
