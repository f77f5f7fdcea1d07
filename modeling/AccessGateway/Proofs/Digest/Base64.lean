import AccessGateway.Digest.Base64
import AccessGateway.Proofs.Lists

/-!
# `AccessGateway.Proofs.Digest.Base64`: octets are read back from their symbols

The parts of a token are written in these symbols and joined by a character that is none of them,
so a token is cut where it was joined and each part is read as what was written.

* `Alphabet.decode?_encode`: reading inverts writing in an alphabet of different symbols. The
  octets go three at a time, so the cases are a group of three and a rest of one or two.
* `Alphabet.mem_of_decode?`: what is read consists of symbols.
-/

set_option autoImplicit false

namespace AccessGateway.Digest.Alphabet

/-- The sixty-four symbols are different ones, so each value is found again by its symbol. -/
def IsDistinct (a : Alphabet) : Prop := ∀ n < 64, a.value? (a.symbol n) = some n

/-- The symbols of URLs are different ones, which is looked up for each of them. -/
theorem isDistinct_url : url.IsDistinct := by
  unfold IsDistinct
  decide

variable {a : Alphabet}

/-- An octet is given by its value, in whichever way that was put together. -/
theorem ofNat_eq (x : UInt8) {n : Nat} (hn : n = x.toNat) : UInt8.ofNat n = x := by
  rw [hn, UInt8.ofNat_toNat]

/-- The symbols of a written octet string have values below sixty-four, and these assemble to the
octets. -/
theorem assemble_values (bytes : Bytes) :
    ∃ values : List Nat, (∀ n ∈ values, n < 64) ∧ a.encode bytes = values.map a.symbol ∧
      assemble values = some bytes := by
  -- three octets at a time; one or two are left at the end
  induction bytes using encode.induct with
  | case1 => exact ⟨[], nofun, rfl, rfl⟩
  | case2 x =>
    have hx := x.toNat_lt
    refine ⟨[x.toNat / 4, x.toNat % 4 * 16], ?_, rfl, ?_⟩
    · simp only [List.forall_mem_cons]
      exact ⟨by omega, by omega, nofun⟩
    · rw [assemble, if_pos (by omega), ofNat_eq x (by omega)]
  | case3 x y =>
    have hx := x.toNat_lt
    have hy := y.toNat_lt
    refine ⟨[x.toNat / 4, x.toNat % 4 * 16 + y.toNat / 16, y.toNat % 16 * 4], ?_, rfl, ?_⟩
    · simp only [List.forall_mem_cons]
      exact ⟨by omega, by omega, by omega, nofun⟩
    · rw [assemble, if_pos (by omega), ofNat_eq x (by omega), ofNat_eq y (by omega)]
  | case4 x y z rest ih =>
    obtain ⟨values, hvalues, hencode, hassemble⟩ := ih
    have hx := x.toNat_lt
    have hy := y.toNat_lt
    have hz := z.toNat_lt
    refine ⟨(x.toNat / 4) :: (x.toNat % 4 * 16 + y.toNat / 16) ::
      (y.toNat % 16 * 4 + z.toNat / 64) :: (z.toNat % 64) :: values, ?_, ?_, ?_⟩
    · simp only [List.forall_mem_cons]
      exact ⟨by omega, by omega, by omega, by omega, hvalues⟩
    · rw [encode, hencode]
      rfl
    · rw [assemble, hassemble, Option.map_some, ofNat_eq x (by omega), ofNat_eq y (by omega),
        ofNat_eq z (by omega)]

/-- Octets are read back from their symbols. -/
theorem decode?_encode (hdistinct : a.IsDistinct) (bytes : Bytes) :
    a.decode? (a.encode bytes) = some bytes := by
  obtain ⟨values, hvalues, hencode, hassemble⟩ := assemble_values (a := a) bytes
  have hread : (values.map a.symbol).mapM' a.value? = some values :=
    mapM'_map_of_pure fun n hn => hdistinct n (hvalues n hn)
  rw [decode?, hencode, hread]
  exact hassemble

/-- Only symbols are read: any other character makes the text unreadable. -/
theorem mem_of_decode? {text : List Char} {bytes : Bytes} (h : a.decode? text = some bytes) :
    ∀ c ∈ text, c ∈ a.symbols := by
  obtain ⟨values, hvalues, -⟩ := Option.bind_eq_some_iff.mp h
  clear h
  induction text generalizing values with
  | nil => exact nofun
  | cons c rest ih =>
    rw [List.mapM'_cons] at hvalues
    obtain ⟨n, hn, hrest⟩ := Option.bind_eq_some_iff.mp hvalues
    obtain ⟨ns, hns, -⟩ := Option.bind_eq_some_iff.mp hrest
    intro d hd
    rcases List.mem_cons.mp hd with rfl | hd
    · obtain ⟨hlt, hget, -⟩ := List.idxOf?_eq_some_iff.mp hn
      exact hget ▸ List.getElem_mem hlt
    · exact ih ns hns d hd

/-- Only symbols are written, since what is written can be read. -/
theorem mem_of_mem_encode (hdistinct : a.IsDistinct) (bytes : Bytes) :
    ∀ c ∈ a.encode bytes, c ∈ a.symbols :=
  mem_of_decode? (decode?_encode hdistinct bytes)

end AccessGateway.Digest.Alphabet
