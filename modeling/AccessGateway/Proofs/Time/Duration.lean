import AccessGateway.Proofs.Text.Split
import AccessGateway.Proofs.Time.Timestamp
import AccessGateway.Time.Duration

/-!
# `AccessGateway.Proofs.Time.Duration`: lengths of time that are written and read again

A length of time is read with one of four units, and written in whole seconds. Every unit but the
smallest is a number of seconds, so only a text in milliseconds can lose anything on the way.

Whether something is lost is a question about the text, and it is answered on the text: it gives a
number of milliseconds (`GivesMillis`), or what is read is a multiple of a thousand. The second case
includes products that wrapped around, since the seconds are multiplied and then made milliseconds.
What is lost is the rest of a second. For less than a second all is lost, and what comes back is
zero, which means something else than a short time wherever these lengths are used.

* `cutUnit_millis`, `cutUnit_eq_seconds`: milliseconds are told from the other units, which are
  seconds.
* `read_text`: what was written is read as the whole seconds.
* `read_text_of_read`: which texts name a length of time that comes back, and for which one it
  comes back as none, which is a lifetime or a lockout without end.
-/

set_option autoImplicit false

namespace AccessGateway.Time.Duration

open Text.Numeral (readNat maxWord)

/-! ### Units -/

/-- The milliseconds are tried first, so they are not taken for seconds or minutes. -/
theorem cutUnit_millis (number : List Char) :
    cutUnit (number ++ ['m', 's']) = (number, .millis) := by
  rw [cutUnit, Text.dropEnd?_eq_some_iff.mpr rfl]

/-- Every other unit is a number of seconds, and so is none. Each unit is tried in turn. -/
theorem cutUnit_eq_seconds {text : List Char} (hmillis : ∀ number, text ≠ number ++ ['m', 's']) :
    ∃ count, (cutUnit text).2 = .seconds count := by
  have hnone : Text.dropEnd? ['m', 's'] text = none := by
    refine Option.eq_none_iff_forall_ne_some.mpr fun number hnumber => ?_
    exact hmillis number (Text.dropEnd?_eq_some_iff.mp hnumber)
  rw [cutUnit, hnone]
  dsimp only
  -- the units are tried one after another: `s`, `m`, `h` and none
  split
  · exact ⟨1, rfl⟩
  · split
    · exact ⟨60, rfl⟩
    · split
      · exact ⟨3600, rfl⟩
      · exact ⟨1, rfl⟩

/-- The seconds are not taken for milliseconds when no `m` stands before the unit. -/
theorem cutUnit_seconds {number : List Char} (hnumber : 'm' ∉ number) :
    cutUnit (number ++ ['s']) = (number, .seconds 1) := by
  have hmillis : Text.dropEnd? ['m', 's'] (number ++ ['s']) = none := by
    refine Option.eq_none_iff_forall_ne_some.mpr fun before hbefore => hnumber ?_
    have htext := Text.dropEnd?_eq_some_iff.mp hbefore
    have hbehind : number ++ ['s'] = before ++ ['m'] ++ ['s'] := by simpa using htext
    rw [List.append_cancel_right hbehind]
    exact List.mem_append_right before (List.mem_singleton_self 'm')
  rw [cutUnit, hmillis, Text.dropEnd?_eq_some_iff.mpr rfl]

/-- A number of seconds that a word holds is that many seconds. -/
theorem times_seconds_one {n : Nat} (hword : n ≤ maxWord) :
    TimeUnit.times n (.seconds 1) = ofSeconds n := by
  rw [TimeUnit.times, Text.Numeral.mulWord_eq_mul (by rwa [Nat.mul_one]), Nat.mul_one]

/-! ### What is read -/

/-- The number of a text is counted in its unit, and the number has to be a word. -/
theorem read_eq_ok_iff {text : String} {d : Duration} :
    read text = .ok d ↔ ∃ n, readNat maxWord (cutUnit (Text.trim text.toList)).1 = .ok n ∧
      d = (cutUnit (Text.trim text.toList)).2.times n := by
  rw [read]
  obtain ⟨number, unit⟩ := cutUnit (Text.trim text.toList)
  show (readNat maxWord number).map _ = _ ↔ _
  cases readNat maxWord number with
  | error fault =>
    constructor
    · nofun
    · rintro ⟨_, hnumber, -⟩
      cases hnumber
  | ok n =>
    constructor
    · rintro ⟨⟩
      exact ⟨n, rfl, rfl⟩
    · rintro ⟨_, ⟨⟩, rfl⟩
      rfl

/-- The text is a number of milliseconds, with or without blanks around it. -/
def GivesMillis (text : String) (n : Nat) : Prop :=
  ∃ number, Text.trim text.toList = number ++ ['m', 's'] ∧ readNat maxWord number = .ok n

/-- A number of milliseconds is read as that many. -/
theorem GivesMillis.read {text : String} {n : Nat} (h : GivesMillis text n) :
    read text = .ok ⟨n⟩ := by
  obtain ⟨number, htext, hnumber⟩ := h
  rw [read_eq_ok_iff, htext, cutUnit_millis]
  exact ⟨n, hnumber, rfl⟩

/-- What is read is a number of milliseconds or of whole seconds. -/
theorem givesMillis_or_dvd {text : String} {d : Duration} (hread : Duration.read text = .ok d) :
    GivesMillis text d.millis ∨ 1000 ∣ d.millis := by
  obtain ⟨n, hnumber, rfl⟩ := read_eq_ok_iff.mp hread
  by_cases hmillis : ∃ number, Text.trim text.toList = number ++ ['m', 's']
  · obtain ⟨number, htext⟩ := hmillis
    rw [htext, cutUnit_millis] at hnumber ⊢
    exact Or.inl ⟨number, htext, hnumber⟩
  · -- whether or not the product wraps around, it is a number of seconds
    obtain ⟨count, hunit⟩ := cutUnit_eq_seconds (not_exists.mp hmillis)
    rw [hunit]
    exact Or.inr (Nat.dvd_mul_left 1000 _)

/-! ### What is written -/

/-- A length of time is written as a number and the unit `s`, and is read as the whole seconds, if
they are a word. -/
theorem read_text {d : Duration} (hword : d.seconds ≤ maxWord) :
    read d.text = .ok (ofSeconds d.seconds) := by
  have hdigit : ∀ c ∈ Text.Numeral.ofNat d.seconds, c.isDigit = true :=
    fun c hc => Text.Numeral.isDigit_of_mem_ofNat hc
  have htext : d.text.toList = Text.Numeral.ofNat d.seconds ++ ['s'] := by
    rw [text, String.toList_append, Text.natText, String.toList_ofList]
    rfl
  have htrim : Text.trim d.text.toList = Text.Numeral.ofNat d.seconds ++ ['s'] := by
    rw [htext, Text.trim, Text.trimBy_eq_self]
    intro c hc
    rcases List.mem_append.mp hc with hc | hc
    · exact Text.isBlank_of_isDigit (hdigit c hc)
    · rw [List.mem_singleton.mp hc]
      rfl
  have hunit : 'm' ∉ Text.Numeral.ofNat d.seconds :=
    fun hm => absurd (hdigit 'm' hm) (by decide)
  rw [read_eq_ok_iff, htrim, cutUnit_seconds hunit]
  exact ⟨d.seconds, Text.Numeral.readNat_ofNat hword, (times_seconds_one hword).symm⟩

/-- The whole seconds are everything when nothing is left of a second. -/
theorem ofSeconds_seconds_eq_iff {d : Duration} : ofSeconds d.seconds = d ↔ 1000 ∣ d.millis := by
  obtain ⟨millis⟩ := d
  rw [ofSeconds, seconds, Duration.mk.injEq]
  show millis / 1000 * 1000 = millis ↔ 1000 ∣ millis
  omega

/-- A length of time that was read, and that a word holds in seconds, is read again once it was
written, as its whole seconds. It comes back unless it was given in milliseconds that are no
seconds, and it comes back as none exactly when it was given as less than a second. -/
theorem read_text_of_read {text : String} {d : Duration} (hread : Duration.read text = .ok d)
    (hword : d.seconds ≤ maxWord) :
    Duration.read d.text = .ok (ofSeconds d.seconds) ∧
    (Duration.read d.text = .ok d ↔ ∀ n, GivesMillis text n → 1000 ∣ n) ∧
    (d ≠ zero ∧ Duration.read d.text = .ok zero ↔ ∃ n, GivesMillis text n ∧ 0 < n ∧ n < 1000) := by
  have hmillis : ∀ n, GivesMillis text n → n = d.millis := by
    intro n hn
    have hsame := hread.symm.trans hn.read
    rw [Except.ok.inj hsame]
  rw [read_text hword, Except.ok.injEq, Except.ok.injEq, ofSeconds_seconds_eq_iff]
  refine ⟨rfl, ⟨fun hdvd n hn => ?_, fun hall => ?_⟩, ⟨?_, ?_⟩⟩
  · rwa [hmillis n hn]
  · exact (givesMillis_or_dvd hread).elim (fun hgives => hall _ hgives) id
  · rintro ⟨hnonzero, hzero⟩
    obtain ⟨millis⟩ := d
    have hpositive : 0 < millis := Nat.pos_of_ne_zero fun h => hnonzero (by rw [h, zero])
    have hseconds : millis / 1000 * 1000 = 0 := congrArg Duration.millis (Except.ok.inj hzero)
    refine ⟨millis, (givesMillis_or_dvd hread).resolve_right ?_, hpositive, by omega⟩
    show ¬ 1000 ∣ millis
    omega
  · rintro ⟨n, hgives, hpositive, hsmall⟩
    obtain rfl := hmillis n hgives
    refine ⟨?_, ?_⟩
    · rintro rfl
      exact absurd hpositive (by decide)
    · rw [seconds, Nat.div_eq_of_lt hsmall]
      rfl

/-- A second and a half, with a blank around it, comes back as one second. It is no whole number of
them, so it does not come back as itself. -/
theorem read_text_of_read_oneAndHalf :
    Duration.read " 1500ms" = .ok ⟨1500⟩ ∧ Duration.seconds ⟨1500⟩ ≤ maxWord ∧
    Duration.read (Duration.text ⟨1500⟩) = .ok (ofSeconds 1) ∧
    Duration.read (Duration.text ⟨1500⟩) ≠ .ok ⟨1500⟩ := by
  have hread : Duration.read " 1500ms" = .ok ⟨1500⟩ := rfl
  have hword : Duration.seconds ⟨1500⟩ ≤ maxWord := by decide
  have hmillis : GivesMillis " 1500ms" 1500 := ⟨"1500".toList, rfl, rfl⟩
  obtain ⟨hagain, hsame, -⟩ := read_text_of_read hread hword
  exact ⟨hread, hword, hagain, fun h => absurd (hsame.mp h 1500 hmillis) (by decide)⟩

/-- Half a second comes back as none: as the lifetime of tokens or as the time after which a
lockout ends, it turns into the one that never passes. -/
theorem halfSecond_read_text : Duration.read "500ms" = .ok ⟨500⟩ ∧ (⟨500⟩ : Duration) ≠ zero ∧
    Duration.read (Duration.text ⟨500⟩) = .ok zero := by
  have htext : Duration.text ⟨500⟩ = "0s" := by
    rw [Duration.text, show Duration.seconds ⟨500⟩ = 0 from rfl, Text.natText_zero]
    rfl
  rw [htext]
  exact ⟨rfl, by decide, rfl⟩

end AccessGateway.Time.Duration
