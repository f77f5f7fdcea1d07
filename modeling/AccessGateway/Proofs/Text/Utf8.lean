import AccessGateway.Proofs.Lists
import AccessGateway.Text.Utf8

/-!
# `AccessGateway.Proofs.Text.Utf8`: a text is read back from its octets, and ordered by them

Texts are compared character by character. The octets of a character begin with its highest bits,
and a character of more octets begins with a larger one, so a comparison octet by octet comes to the
same.

* `Utf8.scanFrom_encodeChar`: the octets of a character, in front of any others, are read as that
  character. The cases are the four lengths, and in each the first octet leaves open exactly the
  range that the second one is in.
* `ofUtf8?_utf8`: reading inverts writing.
* `utf8_lt_iff`, `compare_eq_lt_iff`: the order of texts is that of their octets, so that a listing
  by the octets of names may compare the names as texts.
-/

set_option autoImplicit false

namespace AccessGateway.Text

/-- The octets of a text are those of its characters, one after the other. -/
theorem utf8_eq (text : String) : utf8 text = text.toList.flatMap String.utf8EncodeChar := by
  rw [utf8, String.toUTF8_eq_toByteArray, ← String.utf8Encode_toList, List.utf8Encode,
    List.toList_data_toByteArray]

namespace Utf8

/-! ### Single octets -/

/-- An octet below 0x80 is a character by itself. -/
theorem scanFrom_single {octet : UInt8} (rest : Bytes) (hsmall : octet.toNat < 0x80) :
    scanFrom none (octet :: rest) = some (Char.ofNat octet.toNat) :: scanFrom none rest := by
  rw [scanFrom, step, start, if_pos hsmall]
  rfl

/-- The first of several octets leaves the others open and completes nothing. -/
theorem scanFrom_first {octet : UInt8} {pending : Pending} (rest : Bytes)
    (hlarge : 0x80 ≤ octet.toNat) (hpending : pending? octet.toNat = some pending) :
    scanFrom none (octet :: rest) = scanFrom (some pending) rest := by
  rw [scanFrom, step, start, if_neg (Nat.not_lt.mpr hlarge), hpending]
  rfl

/-- An octet in the middle of a character leaves one less open. From the third octet on the range is
the full one. -/
theorem scanFrom_middle {octet : UInt8} {missing low high value : Nat} (rest : Bytes)
    (hmissing : 1 < missing) (hlow : low ≤ octet.toNat) (hhigh : octet.toNat ≤ high) :
    scanFrom (some ⟨missing, low, high, value⟩) (octet :: rest)
      = scanFrom (some ⟨missing - 1, 0x80, 0xBF, value * 64 + octet.toNat % 64⟩) rest := by
  rw [scanFrom, step, if_pos ⟨hlow, hhigh⟩]
  simp only [if_neg (Nat.not_le.mpr hmissing)]
  rfl

/-- The last octet completes a character, and none is open behind it. -/
theorem scanFrom_last {octet : UInt8} {missing low high value : Nat} (rest : Bytes)
    (hmissing : missing ≤ 1) (hlow : low ≤ octet.toNat) (hhigh : octet.toNat ≤ high) :
    scanFrom (some ⟨missing, low, high, value⟩) (octet :: rest)
      = some (Char.ofNat (value * 64 + octet.toNat % 64)) :: scanFrom none rest := by
  rw [scanFrom, step, if_pos ⟨hlow, hhigh⟩]
  simp only [if_pos hmissing]
  rfl

/-! ### First octets -/

/-- The first octet of two leaves one open, of any continuation. -/
theorem pending?_two {n : Nat} (hlow : 2 ≤ n) (hhigh : n < 32) :
    pending? (n + 0xC0) = some ⟨1, 0x80, 0xBF, n⟩ := by
  rw [pending?, if_pos (by omega)]
  have hvalue : (n + 0xC0) % 32 = n := by omega
  rw [hvalue]

/-- The first octet of three, for a number that is long enough and no surrogate, admits the
second. -/
theorem pending?_three {n : Nat} (hlow : 0x800 ≤ n) (hhigh : n < 0x10000)
    (hscalar : n < 0xD800 ∨ 0xDFFF < n) :
    ∃ low high, pending? (n / 4096 + 0xE0) = some ⟨2, low, high, n / 4096⟩ ∧
      low ≤ n / 64 % 64 + 0x80 ∧ n / 64 % 64 + 0x80 ≤ high := by
  rw [pending?, if_neg (by omega)]
  -- 0xE0 admits no second octet of a shorter form, and 0xED none of a surrogate
  by_cases hfirst : n / 4096 = 0
  · exact ⟨0xA0, 0xBF, by rw [hfirst]; rfl, by omega, by omega⟩
  by_cases hsurrogate : n / 4096 = 13
  · exact ⟨0x80, 0x9F, by rw [hsurrogate]; rfl, by omega, by omega⟩
  refine ⟨0x80, 0xBF, ?_, by omega, by omega⟩
  have hvalue : (n / 4096 + 0xE0) % 16 = n / 4096 := by omega
  rw [if_neg (by omega), if_neg (by omega), if_pos (by omega), hvalue]

/-- The first octet of four, for a number that is long enough and in the range of characters,
admits the second. -/
theorem pending?_four {n : Nat} (hlow : 0x10000 ≤ n) (hhigh : n < 0x110000) :
    ∃ low high, pending? (n / 262144 + 0xF0) = some ⟨3, low, high, n / 262144⟩ ∧
      low ≤ n / 4096 % 64 + 0x80 ∧ n / 4096 % 64 + 0x80 ≤ high := by
  rw [pending?, if_neg (by omega), if_neg (by omega), if_neg (by omega), if_neg (by omega)]
  -- 0xF0 admits no second octet of a shorter form, and 0xF4 none beyond the last character
  by_cases hfirst : n / 262144 = 0
  · exact ⟨0x90, 0xBF, by rw [hfirst]; rfl, by omega, by omega⟩
  by_cases hlast : n / 262144 = 4
  · exact ⟨0x80, 0x8F, by rw [hlast]; rfl, by omega, by omega⟩
  refine ⟨0x80, 0xBF, ?_, by omega, by omega⟩
  have hvalue : (n / 262144 + 0xF0) % 8 = n / 262144 := by omega
  rw [if_neg (by omega), if_neg (by omega), if_pos (by omega), hvalue]

/-! ### Characters -/

/-- The value of an octet that is written as a number below 256. -/
theorem toNat_octet {n : Nat} (hn : n < 256) : (UInt8.ofNat n).toNat = n := by
  rw [UInt8.toNat_ofNat', Nat.mod_eq_of_lt hn]

/-- The octets of a character, in front of any others, are read as that character. -/
theorem scanFrom_encodeChar (c : Char) (rest : Bytes) :
    scanFrom none (String.utf8EncodeChar c ++ rest) = some c :: scanFrom none rest := by
  have hvalid : c.val.toNat < 0xD800 ∨ (0xDFFF < c.val.toNat ∧ c.val.toNat < 0x110000) := c.valid
  have hchar : ∀ {n : Nat}, n = c.val.toNat → Char.ofNat n = c := by
    rintro n rfl
    exact Char.ofNat_toNat c
  generalize hn : c.val.toNat = n at *
  rw [String.utf8EncodeChar]
  simp only [hn]
  -- one case for each length of the written form
  by_cases hone : n ≤ 0x7F
  · have hoctet := toNat_octet (n := n) (by omega)
    rw [if_pos hone, List.singleton_append, scanFrom_single rest (by omega), hoctet, hchar rfl]
  by_cases htwo : n ≤ 0x7FF
  · have hdiv : n / 64 % 32 = n / 64 := by omega
    have hfirst := toNat_octet (n := n / 64 + 0xC0) (by omega)
    have hlast := toNat_octet (n := n % 64 + 0x80) (by omega)
    have hpending := pending?_two (n := n / 64) (by omega) (by omega)
    rw [if_neg hone, if_pos htwo, hdiv, List.cons_append, List.singleton_append,
      scanFrom_first _ (by omega) (hfirst ▸ hpending),
      scanFrom_last _ (by decide) (by omega) (by omega), hlast, hchar (by omega)]
  by_cases hthree : n ≤ 0xFFFF
  · have hdiv : n / 4096 % 16 = n / 4096 := by omega
    have hfirst := toNat_octet (n := n / 4096 + 0xE0) (by omega)
    have hmiddle := toNat_octet (n := n / 64 % 64 + 0x80) (by omega)
    have hlast := toNat_octet (n := n % 64 + 0x80) (by omega)
    obtain ⟨low, high, hpending, hlow, hhigh⟩ :=
      pending?_three (n := n) (by omega) (by omega) (by omega)
    rw [if_neg hone, if_neg htwo, if_pos hthree, hdiv, List.cons_append, List.cons_append,
      List.singleton_append, scanFrom_first _ (by omega) (hfirst ▸ hpending),
      scanFrom_middle _ (by decide) (by omega) (by omega),
      scanFrom_last _ (by decide) (by omega) (by omega), hmiddle, hlast, hchar (by omega)]
  · have hdiv : n / 262144 % 8 = n / 262144 := by omega
    have hfirst := toNat_octet (n := n / 262144 + 0xF0) (by omega)
    have hsecond := toNat_octet (n := n / 4096 % 64 + 0x80) (by omega)
    have hthird := toNat_octet (n := n / 64 % 64 + 0x80) (by omega)
    have hlast := toNat_octet (n := n % 64 + 0x80) (by omega)
    obtain ⟨low, high, hpending, hlow, hhigh⟩ := pending?_four (n := n) (by omega) (by omega)
    rw [if_neg hone, if_neg htwo, if_neg hthree, hdiv, List.cons_append, List.cons_append,
      List.cons_append, List.singleton_append, scanFrom_first _ (by omega) (hfirst ▸ hpending),
      scanFrom_middle _ (by decide) (by omega) (by omega),
      scanFrom_middle _ (by decide) (by omega) (by omega),
      scanFrom_last _ (by decide) (by omega) (by omega), hsecond, hthird, hlast,
      hchar (by omega)]

end Utf8

/-- A text is read back from its octets. -/
theorem ofUtf8?_utf8 (text : String) : ofUtf8? (utf8 text) = some text := by
  have hscan : ∀ chars : List Char,
      Utf8.scan (chars.flatMap String.utf8EncodeChar) = chars.map some := by
    intro chars
    induction chars with
    | nil => rfl
    | cons c rest ih =>
      rw [List.flatMap_cons, Utf8.scan, Utf8.scanFrom_encodeChar, List.map_cons]
      exact congrArg _ ih
  have hall : (text.toList.map some).mapM' id = some text.toList :=
    mapM'_map_of_pure fun _ _ => rfl
  rw [ofUtf8?, utf8_eq, hscan, hall, Option.map_some, String.ofList_toList]

/-! ### Order -/

namespace Utf8

/-- Octets are compared as numbers, the first one first. -/
theorem cons_octet_lt_iff {m n : Nat} (hm : m < 256) (hn : n < 256) {rest rest' : Bytes} :
    UInt8.ofNat m :: rest < UInt8.ofNat n :: rest' ↔ m < n ∨ m = n ∧ rest < rest' := by
  rw [List.cons_lt_cons_iff, UInt8.lt_iff_toNat_lt, ← UInt8.toNat_inj, toNat_octet hm,
    toNat_octet hn]

/-- The smaller of two numbers has the smaller digit where their digits to the base 64 differ
first. -/
theorem digits_lt {m n : Nat} (hlt : m < n) :
    m / 262144 < n / 262144 ∨ m / 262144 = n / 262144 ∧
      (m / 4096 % 64 < n / 4096 % 64 ∨ m / 4096 % 64 = n / 4096 % 64 ∧
        (m / 64 % 64 < n / 64 % 64 ∨ m / 64 % 64 = n / 64 % 64 ∧ m % 64 < n % 64)) := by
  have hlast : ∀ {a b : Nat}, a < b → a / 64 < b / 64 ∨ a / 64 = b / 64 ∧ a % 64 < b % 64 := by
    intro a b h
    omega
  rcases hlast hlt with hrest | hrest
  · rcases hlast hrest with hrest' | hrest'
    · have htop := hlast hrest'
      omega
    · omega
  · omega

/-- The octets of the smaller of two characters come first, whatever follows them. -/
theorem encodeChar_append_lt {c d : Char} (hlt : c < d) (rest rest' : Bytes) :
    String.utf8EncodeChar c ++ rest < String.utf8EncodeChar d ++ rest' := by
  have hvalid : d.val.toNat < 0x110000 := by
    rcases d.valid with h | h
    · omega
    · exact h.2
  have hval : c.val.toNat < d.val.toNat := hlt
  simp only [String.utf8EncodeChar]
  generalize c.val.toNat = m at hval
  generalize d.val.toNat = n at hval hvalid
  have hdigits := digits_lt hval
  have htop : m / 262144 % 8 = m / 262144 ∧ n / 262144 % 8 = n / 262144 := by omega
  -- One case for each pair of lengths. The longer form has the larger first octet, and in forms of
  -- one length the digits are compared.
  repeat' split
  all_goals
    simp (disch := omega) only [List.cons_append, List.nil_append, cons_octet_lt_iff]
    omega

/-- Texts are in the order of their octets in UTF-8, since the encoding keeps the order of
characters and none begins another. -/
theorem flatMap_encodeChar_lt {chars others : List Char} (hlt : chars < others) :
    chars.flatMap String.utf8EncodeChar < others.flatMap String.utf8EncodeChar := by
  induction hlt with
  | @nil c rest =>
    -- Every character has octets, and nothing comes before something.
    cases hoctets : (c :: rest).flatMap String.utf8EncodeChar with
    | nil => simp [String.utf8EncodeChar_ne_nil] at hoctets
    | cons octet octets => exact List.nil_lt_cons octet octets
  | rel hchar => exact encodeChar_append_lt hchar _ _
  | cons _ ih => exact List.append_left_lt ih

end Utf8

/-- Texts are ordered as their octets are. In the other direction of two different texts one comes
first, and so do its octets. -/
theorem utf8_lt_iff {text other : String} : utf8 text < utf8 other ↔ text < other := by
  have hmono : ∀ {a b : String}, a < b → utf8 a < utf8 b := by
    intro a b h
    rw [utf8_eq, utf8_eq]
    exact Utf8.flatMap_encodeChar_lt (String.lt_iff.mp h)
  constructor
  · intro hlt
    rcases Std.lt_trichotomy text other with h | h | h
    · exact h
    · exact absurd (h ▸ hlt) (List.lt_irrefl _)
    · exact absurd (hmono h) (List.lt_asymm hlt)
  · exact hmono

/-- What comparing texts comes to on their octets. -/
theorem compare_eq_lt_iff {text other : String} :
    compare text other = .lt ↔ utf8 text < utf8 other :=
  compareOfLessAndEq_eq_lt.trans utf8_lt_iff.symm

end AccessGateway.Text
