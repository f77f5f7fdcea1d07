import AccessGateway.Credential.Address
import AccessGateway.Proofs.Text.Decimal
import AccessGateway.Proofs.Text.Split
import Mathlib.Data.List.TakeWhile

/-!
# `AccessGateway.Proofs.Credential.Address`: which server a connection URL names

The connection URL of the shared store is put together from host, port, password and database as
they are. A host and two numbers have no character that means anything in a URL, but a password may
have all of them: the authority of the URL ends in the password at the first character that can end
it, and the server is then whatever the password says.

Read from the other end the parts are told apart without regard to the password, so no two settings
share a URL. That is no help to a client, which reads from the front.

* `RedisOptions.authority_url`: where the authority ends, for plain passwords and for others.
* `RedisOptions.url_injective`: what is lost, which is nothing. The last slash, the last colon and
  the last at sign cut the URL into its parts.
* `RedisOptions.url_names_server_iff`: the settings whose URL names their server.

`HasPlainHost` and `HasPlainPassword` are conditions on the characters of the settings and can be
decided. An at sign or a colon in a password does no harm, as the user information ends at the last
at sign; a slash, a question mark or a number sign does.
-/

set_option autoImplicit false

namespace AccessGateway.RedisOptions

open Text.Numeral (ofNat ofInt)

/-! ### The parts of a URL -/

/-- A character at which the authority of a URL ends. -/
def endsAuthority (c : Char) : Bool := c == '/' || c == '?' || c == '#'

/-- The part of a URL between its scheme and the first character at which an authority ends. It is
what a client takes user information, host and port from. -/
def authority (url : String) : List Char :=
  (url.toList.drop "redis://".length).takeWhile fun c => !endsAuthority c

/-- What follows the authority. -/
def afterAuthority (url : String) : List Char :=
  (url.toList.drop "redis://".length).dropWhile fun c => !endsAuthority c

/-- The password behind a colon and in front of an at sign, if there is one. There is no user
name. -/
def userInfo (o : RedisOptions) : List Char :=
  if o.password = "" then [] else ':' :: (o.password.toList ++ ['@'])

/-- Host and port. -/
def server (o : RedisOptions) : List Char := o.host.toList ++ ':' :: ofNat o.port

/-- No character of the host means anything in a URL. Host names and IPv4 addresses are like
that. -/
def HasPlainHost (o : RedisOptions) : Prop :=
  ∀ c ∈ o.host.toList, c ∉ ['/', '?', '#', '@', ':']

instance (o : RedisOptions) : Decidable o.HasPlainHost :=
  List.decidableBAll (fun c => c ∉ ['/', '?', '#', '@', ':']) o.host.toList

/-- The password has no character at which an authority ends. It may have at signs and colons. -/
def HasPlainPassword (o : RedisOptions) : Prop :=
  ∀ c ∈ o.password.toList, endsAuthority c = false

instance (o : RedisOptions) : Decidable o.HasPlainPassword :=
  List.decidableBAll (fun c => endsAuthority c = false) o.password.toList

/-- The characters of a URL. -/
theorem toList_url (o : RedisOptions) :
    o.url.toList = "redis://".toList ++ (o.userInfo ++ (o.server ++ '/' :: ofInt o.db)) := by
  have hplace : (o.host ++ ":" ++ Text.natText o.port ++ "/" ++ Text.intText o.db).toList
      = o.server ++ '/' :: ofInt o.db := by
    simp [server, Text.natText, Text.intText]
  rw [url]
  split
  · rename_i hempty
    rw [String.toList_append, hplace, userInfo, if_pos hempty, List.nil_append]
  · rename_i hpassword
    rw [String.toList_append, hplace, userInfo, if_neg hpassword]
    simp

/-- Behind its scheme a URL is the user information, the server, and the number of the database. -/
theorem drop_url (o : RedisOptions) : o.url.toList.drop "redis://".length
    = o.userInfo ++ (o.server ++ '/' :: ofInt o.db) := by
  rw [toList_url]
  exact List.drop_left

/-! ### The authority -/

variable {o o' : RedisOptions}

/-- Host and port do not end an authority. -/
theorem HasPlainHost.endsAuthority_server (hhost : o.HasPlainHost) :
    ∀ c ∈ o.server, endsAuthority c = false := by
  have hdigit : ∀ c ∈ ofNat o.port, c.isDigit = true :=
    fun c hc => Text.Numeral.isDigit_of_mem_ofNat hc
  intro c hc
  rcases List.mem_append.mp hc with hc | hc
  · have hplain := hhost c hc
    simp only [List.mem_cons, not_or] at hplain
    simp [endsAuthority, hplain]
  · rcases List.mem_cons.mp hc with rfl | hc
    · rfl
    · have hmark : ∀ mark : Char, mark.isDigit = false → c ≠ mark := by
        rintro mark hmark rfl
        exact Bool.false_ne_true (hmark.symm.trans (hdigit c hc))
      simp [endsAuthority, hmark]

/-- The authority is the user information and the server, unless it ends in the password: then it is
what stands before the first character of the password that ends it. -/
theorem authority_url (hhost : o.HasPlainHost) :
    (o.HasPlainPassword →
      authority o.url = o.userInfo ++ o.server ∧ afterAuthority o.url = '/' :: ofInt o.db) ∧
    (¬ o.HasPlainPassword →
      authority o.url = ':' :: o.password.toList.takeWhile fun c => !endsAuthority c) := by
  rw [authority, afterAuthority, drop_url]
  constructor
  · intro hpassword
    have hfront : ∀ c ∈ o.userInfo ++ o.server, (!endsAuthority c) = true := by
      intro c hc
      rw [Bool.not_eq_true']
      rcases List.mem_append.mp hc with hc | hc
      · rw [userInfo] at hc
        split at hc
        · cases hc
        · simp only [List.mem_cons, List.mem_append, List.not_mem_nil, or_false] at hc
          rcases hc with rfl | hc | rfl
          · rfl
          · exact hpassword c hc
          · rfl
      · exact hhost.endsAuthority_server c hc
    rw [← List.append_assoc, List.takeWhile_append_of_pos hfront,
      List.dropWhile_append_of_pos hfront]
    simp [endsAuthority]
  · intro hpassword
    obtain ⟨c, hc, hends⟩ : ∃ c ∈ o.password.toList, endsAuthority c = true := by
      simpa [HasPlainPassword] using hpassword
    have hnonempty : o.password ≠ "" := by
      rintro hempty
      simp [hempty] at hc
    rw [userInfo, if_neg hnonempty, List.cons_append, List.append_assoc,
      List.takeWhile_cons_of_pos (by rfl), List.takeWhile_append, if_neg]
    intro hlength
    have hall := List.takeWhile_eq_self_iff.mp ((List.takeWhile_sublist _).eq_of_length hlength)
    exact absurd (hall c hc) (by simp [hends])

/-- The authority of a URL that names its server has no character at which it would end, and the
password is a part of it. -/
theorem hasPlainPassword_of_authority (h : authority o.url = o.userInfo ++ o.server) :
    o.HasPlainPassword := by
  intro c hc
  have hnonempty : o.password ≠ "" := by
    rintro hempty
    simp [hempty] at hc
  have hmem : c ∈ authority o.url := by
    rw [h, userInfo, if_neg hnonempty]
    simp [hc]
  rw [authority] at hmem
  simpa using List.mem_takeWhile_imp hmem

/-! ### All parts from the end -/

/-- Password and host are told apart by the last at sign, since a plain host has none. An empty
password has no at sign of its own, so it is not mistaken for another one. -/
theorem userInfo_inj (hhost : o.HasPlainHost) (hhost' : o'.HasPlainHost)
    (h : o.userInfo ++ o.host.toList = o'.userInfo ++ o'.host.toList) :
    o.password = o'.password ∧ o.host = o'.host := by
  have hat : ∀ {o : RedisOptions}, o.HasPlainHost → '@' ∉ o.host.toList :=
    fun hhost hmem => hhost '@' hmem (by decide)
  have hsplit : ∀ {o : RedisOptions}, o.password ≠ "" →
      o.userInfo ++ o.host.toList = (':' :: o.password.toList) ++ '@' :: o.host.toList := by
    intro o hpassword
    rw [userInfo, if_neg hpassword]
    simp
  by_cases hempty : o.password = "" <;> by_cases hempty' : o'.password = ""
  · rw [userInfo, userInfo, if_pos hempty, if_pos hempty'] at h
    exact ⟨hempty.trans hempty'.symm, String.toList_inj.mp h⟩
  · -- an at sign would have to stand in the host
    rw [hsplit hempty', userInfo, if_pos hempty, List.nil_append] at h
    exact absurd (h ▸ by simp) (hat hhost)
  · rw [hsplit hempty, userInfo, if_pos hempty', List.nil_append] at h
    exact absurd (h.symm ▸ by simp) (hat hhost')
  · rw [hsplit hempty, hsplit hempty'] at h
    obtain ⟨hpassword, hname⟩ := Text.append_cons_inj (hat hhost) (hat hhost') h
    exact ⟨String.toList_inj.mp (List.cons.inj hpassword).2, String.toList_inj.mp hname⟩

/-- Settings whose hosts have no character of the URL in them do not share one, whatever their
passwords are: the last slash, colon and at sign cut a URL into its parts. -/
theorem url_injective (hhost : o.HasPlainHost) (hhost' : o'.HasPlainHost) (h : o.url = o'.url) :
    o = o' := by
  have hdigit : ∀ {n : Nat} {c : Char}, c.isDigit = false → c ∉ ofNat n := by
    intro n c hc hmem
    exact Bool.false_ne_true (hc.symm.trans (Text.Numeral.isDigit_of_mem_ofNat hmem))
  have hslash : ∀ n : Int, '/' ∉ ofInt n := by
    intro n hmem
    rcases Text.Numeral.eq_minus_or_isDigit_of_mem_ofInt hmem with hminus | hdigit
    · exact absurd hminus (by decide)
    · exact absurd hdigit (by decide)
  have hparts : o.userInfo ++ o.server ++ '/' :: ofInt o.db
      = o'.userInfo ++ o'.server ++ '/' :: ofInt o'.db := by
    rw [List.append_assoc, List.append_assoc, ← drop_url, ← drop_url, h]
  obtain ⟨hfront, hdb⟩ := Text.append_cons_inj (hslash _) (hslash _) hparts
  rw [server, server, ← List.append_assoc, ← List.append_assoc] at hfront
  obtain ⟨hfront, hport⟩ := Text.append_cons_inj (hdigit rfl) (hdigit rfl) hfront
  obtain ⟨hpassword, hname⟩ := userInfo_inj hhost hhost' hfront
  obtain ⟨host, port, password, db⟩ := o
  obtain ⟨host', port', password', db'⟩ := o'
  rw [RedisOptions.mk.injEq]
  exact ⟨hname, Text.Numeral.ofNat_injective hport, hpassword, Text.Numeral.ofInt_injective hdb⟩

/-- For a host without a character of the URL in it, the authority of the URL is the server behind
the password, and the database follows, exactly when the password has no character at which an
authority ends; otherwise it ends inside of the password. Either way no other settings with such a
host have the same URL. -/
theorem url_names_server_iff (hhost : o.HasPlainHost) :
    (authority o.url = o.userInfo ++ o.server ∧ afterAuthority o.url = '/' :: ofInt o.db
      ↔ o.HasPlainPassword) ∧
    (¬ o.HasPlainPassword →
      authority o.url = ':' :: o.password.toList.takeWhile fun c => !endsAuthority c) ∧
    ∀ o' : RedisOptions, o'.HasPlainHost → o.url = o'.url → o = o' := by
  obtain ⟨hplain, hcut⟩ := authority_url hhost
  exact ⟨⟨fun h => hasPlainPassword_of_authority h.1, hplain⟩, hcut,
    fun _ hhost' h => url_injective hhost hhost' h⟩

/-- A password with an at sign and a colon in it does no harm: neither of them ends an authority,
and the server stands behind the last at sign. -/
theorem url_names_server_iff_cache :
    let o : RedisOptions := { host := "cache", password := "p@evil:1", db := -3 }
    o.HasPlainHost ∧ authority o.url = ":p@evil:1@cache:6379".toList ∧
    afterAuthority o.url = "/-3".toList := by
  intro o
  have hhost : o.HasPlainHost := by decide
  have hpassword : o.HasPlainPassword := by decide
  obtain ⟨hauthority, hafter⟩ := (url_names_server_iff hhost).1.mpr hpassword
  have hserver : o.server = "cache:6379".toList := by decide +kernel
  have hdb : '/' :: ofInt o.db = "/-3".toList := by decide +kernel
  rw [hauthority, hafter, hserver, hdb]
  exact ⟨hhost, by decide, rfl⟩

/-- A password that begins like the rest of a URL takes the place of it: the URL of a store on the
host `cache` leads to the host that the password names. -/
theorem url_names_password :
    let o : RedisOptions := { host := "cache", password := "@evil:1/0?" }
    o.HasPlainHost ∧ authority o.url = ":@evil:1".toList ∧
    authority o.url ≠ o.userInfo ++ o.server ∧
    o.address = .ok ⟨"evil", 1, "/0"⟩ := by
  intro o
  refine ⟨by decide, by decide +kernel, fun hnames => ?_, by decide +kernel⟩
  exact absurd (hasPlainPassword_of_authority hnames) (by decide)

end AccessGateway.RedisOptions
