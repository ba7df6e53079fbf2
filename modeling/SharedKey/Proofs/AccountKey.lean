/-
**Which texts are keys, and which keys can sign.**

A group of base64 digits is read as bytes exactly when it is what these bytes are written as: two
digits with four bits left over, three with two, or four with none.  A last group tells how many
bytes it holds by its padding, and no digit is padding, so the groups of a text fix the bytes that
it stands for.  A text with other characters, with padding that is missing or in another place, or
with bits left over that are not zero, stands for none.

Blanks around a key are left out before it is read.  So a text is a key exactly when it is the
base64 text of some bytes between blanks.  These bytes are the only ones that it is the text of, and
no two keys share a text; whatever else is given as a key is refused as a mistake in the
configuration.

A configuration refuses to make a credential of an empty key.  It asks whether the text of the key
is empty, with its blanks; so a text of blanks alone is taken for a key, and no bytes are read from
it.  Nothing else goes wrong: every other text that is read gives a key that can sign, and whatever
a configuration refuses it refuses as one.

Main definitions:

* `Config.HasBlankKey` — the configurations whose key is a text of blanks.

Main results:

* `Base64.lastOne?_eq_some_iff`, `Base64.lastTwo?_eq_some_iff`, `Base64.group?_eq_some_iff` — a
  group is read as the bytes that are written as it;
* `Base64.decode?_encode`, `Base64.encode_of_decode?` — the two directions;
* `Base64.decode?_eq_some_iff` — **a text stands for bytes exactly when they are written as it**;
* `Base64.encode_injective` — bytes are determined by their base64 text;
* `Base64.read_eq_ok_iff` — the texts from which bytes are read;
* `Config.credential_eq_ok_iff` — the credentials that a configuration describes;
* `Config.isValid_credential_iff` — **the credential of a configuration can sign unless its key is a
  text of blanks**;
* `Config.credential_blankKeyed` — such a configuration;
* `Base64.trim_eq_encode_iff`, `Base64.read_encode` — base64 text between blanks, and without;
* `Credential.ofSharedKey_exact` — **a credential is made of the base64 text of its key between
  blanks, and of no other text**.
-/

import SharedKey.Config
import SharedKey.Proofs.SigningInPlace

set_option relaxedAutoImplicit false
set_option autoImplicit false

namespace SharedKey

namespace Base64

/-! ### Digits -/

theorem value?_eq_some_iff {c : Char} {n : Nat} : value? c = some n ↔ n < 64 ∧ digit n = c := by
  constructor
  · intro h
    exact ⟨lt_of_value? h, digit_of_value? h⟩
  · rintro ⟨hn, rfl⟩
    exact value?_digit hn

theorem digit_ne_padding {n : Nat} (h : n < 64) : digit n ≠ padding := by
  have hpadding : value? padding = none := rfl
  intro heq
  have hvalue := value?_digit h
  rw [heq, hpadding] at hvalue
  cases hvalue

/-! ### Groups -/

/-- The bytes that are put together from digits are bytes. -/
theorem toNat_ofNat_of_digits {m n k l : Nat} (hm : m < 64) (hn : n < 64) (hk : k < 64)
    (hl : l < 64) :
    (UInt8.ofNat (m * 4 + n / 16)).toNat = m * 4 + n / 16
      ∧ (UInt8.ofNat (n % 16 * 16 + k / 4)).toNat = n % 16 * 16 + k / 4
      ∧ (UInt8.ofNat (k % 4 * 64 + l)).toNat = k % 4 * 64 + l := by
  simp only [UInt8.toNat_ofNat']
  omega

/-- Two digits are read as the byte that is written as them; the four bits left over are zero. -/
theorem lastOne?_eq_some_iff {x y : Char} {bytes : Bytes} :
    lastOne? x y = some bytes
      ↔ ∃ a : UInt8, bytes = [a] ∧ digit (a.toNat / 4) = x ∧ digit (a.toNat % 4 * 16) = y := by
  constructor
  · intro h
    unfold lastOne? at h
    split at h
    · next m n hx hy =>
        obtain ⟨hm, rfl⟩ := value?_eq_some_iff.1 hx
        obtain ⟨hn, rfl⟩ := value?_eq_some_iff.1 hy
        split at h
        · next hzero =>
            obtain rfl := Option.some.inj h
            obtain ⟨ha, -, -⟩ := toNat_ofNat_of_digits hm hn hn hn
            have hfirst : (m * 4 + n / 16) / 4 = m := by omega
            have hsecond : (m * 4 + n / 16) % 4 * 16 = n := by omega
            exact ⟨_, rfl, by rw [ha, hfirst], by rw [ha, hsecond]⟩
        · cases h
    · cases h
  · rintro ⟨a, rfl, rfl, rfl⟩
    have ha := a.toNat_lt
    have hbyte : a.toNat / 4 * 4 + a.toNat % 4 * 16 / 16 = a.toNat := by omega
    unfold lastOne?
    rw [value?_digit (by omega), value?_digit (by omega)]
    simp only
    rw [if_pos (by omega), hbyte, UInt8.ofNat_toNat]

/-- Three digits are read as the bytes that are written as them; the two bits left over are zero. -/
theorem lastTwo?_eq_some_iff {x y z : Char} {bytes : Bytes} :
    lastTwo? x y z = some bytes
      ↔ ∃ a b : UInt8, bytes = [a, b] ∧ digit (a.toNat / 4) = x
        ∧ digit (a.toNat % 4 * 16 + b.toNat / 16) = y ∧ digit (b.toNat % 16 * 4) = z := by
  constructor
  · intro h
    unfold lastTwo? at h
    split at h
    · next m n k hx hy hz =>
        obtain ⟨hm, rfl⟩ := value?_eq_some_iff.1 hx
        obtain ⟨hn, rfl⟩ := value?_eq_some_iff.1 hy
        obtain ⟨hk, rfl⟩ := value?_eq_some_iff.1 hz
        split at h
        · next hzero =>
            obtain rfl := Option.some.inj h
            obtain ⟨ha, hb, -⟩ := toNat_ofNat_of_digits hm hn hk hk
            have hfirst : (m * 4 + n / 16) / 4 = m := by omega
            have hsecond : (m * 4 + n / 16) % 4 * 16 + (n % 16 * 16 + k / 4) / 16 = n := by omega
            have hthird : (n % 16 * 16 + k / 4) % 16 * 4 = k := by omega
            exact ⟨_, _, rfl, by rw [ha, hfirst], by rw [ha, hb, hsecond], by rw [hb, hthird]⟩
        · cases h
    · cases h
  · rintro ⟨a, b, rfl, rfl, rfl, rfl⟩
    have ha := a.toNat_lt
    have hb := b.toNat_lt
    have hfirst : a.toNat / 4 * 4 + (a.toNat % 4 * 16 + b.toNat / 16) / 16 = a.toNat := by omega
    have hsecond : (a.toNat % 4 * 16 + b.toNat / 16) % 16 * 16 + b.toNat % 16 * 4 / 4
        = b.toNat := by
      omega
    unfold lastTwo?
    rw [value?_digit (by omega), value?_digit (by omega), value?_digit (by omega)]
    simp only
    rw [if_pos (by omega), hfirst, hsecond, UInt8.ofNat_toNat, UInt8.ofNat_toNat]

/-- Four digits are read as the bytes that are written as them. -/
theorem group?_eq_some_iff {x y z w : Char} {bytes : Bytes} :
    group? x y z w = some bytes
      ↔ ∃ a b c : UInt8, bytes = [a, b, c] ∧ digit (a.toNat / 4) = x
        ∧ digit (a.toNat % 4 * 16 + b.toNat / 16) = y
        ∧ digit (b.toNat % 16 * 4 + c.toNat / 64) = z ∧ digit (c.toNat % 64) = w := by
  constructor
  · intro h
    unfold group? at h
    split at h
    · next m n k l hx hy hz hw =>
        obtain ⟨hm, rfl⟩ := value?_eq_some_iff.1 hx
        obtain ⟨hn, rfl⟩ := value?_eq_some_iff.1 hy
        obtain ⟨hk, rfl⟩ := value?_eq_some_iff.1 hz
        obtain ⟨hl, rfl⟩ := value?_eq_some_iff.1 hw
        obtain rfl := Option.some.inj h
        obtain ⟨ha, hb, hc⟩ := toNat_ofNat_of_digits hm hn hk hl
        have hfirst : (m * 4 + n / 16) / 4 = m := by omega
        have hsecond : (m * 4 + n / 16) % 4 * 16 + (n % 16 * 16 + k / 4) / 16 = n := by omega
        have hthird : (n % 16 * 16 + k / 4) % 16 * 4 + (k % 4 * 64 + l) / 64 = k := by omega
        have hfourth : (k % 4 * 64 + l) % 64 = l := by omega
        exact ⟨_, _, _, rfl, by rw [ha, hfirst], by rw [ha, hb, hsecond], by rw [hb, hc, hthird],
          by rw [hc, hfourth]⟩
    · cases h
  · rintro ⟨a, b, c, rfl, rfl, rfl, rfl, rfl⟩
    have ha := a.toNat_lt
    have hb := b.toNat_lt
    have hc := c.toNat_lt
    have hfirst : a.toNat / 4 * 4 + (a.toNat % 4 * 16 + b.toNat / 16) / 16 = a.toNat := by omega
    have hsecond : (a.toNat % 4 * 16 + b.toNat / 16) % 16 * 16
        + (b.toNat % 16 * 4 + c.toNat / 64) / 4 = b.toNat := by omega
    have hthird : (b.toNat % 16 * 4 + c.toNat / 64) % 4 * 64 + c.toNat % 64 = c.toNat := by omega
    unfold group?
    rw [value?_digit (by omega), value?_digit (by omega), value?_digit (by omega),
      value?_digit (by omega)]
    simp only
    rw [hfirst, hsecond, hthird, UInt8.ofNat_toNat, UInt8.ofNat_toNat, UInt8.ofNat_toNat]

/-! ### Whole texts -/

/-- A group of four digits at the beginning is read on its own, also where nothing follows it. -/
theorem decode?_group {x y z w : Char} {bytes : Bytes} (h : group? x y z w = some bytes)
    (rest : Text) : decode? (x :: y :: z :: w :: rest) = (decode? rest).map (bytes ++ ·) := by
  cases rest with
  | nil =>
      obtain ⟨a, b, c, -, -, -, -, rfl⟩ := group?_eq_some_iff.1 h
      have hw : digit (c.toNat % 64) ≠ padding := digit_ne_padding (Nat.mod_lt _ (by decide))
      have hlast : decode? [x, y, z, digit (c.toNat % 64)]
          = group? x y z (digit (c.toNat % 64)) := by
        rw [decode?, if_neg hw]
      rw [hlast, h]
      simp [decode?]
  | cons v rest =>
      rw [decode?, h]
      · cases decode? (v :: rest) <;> rfl
      · exact nofun

/-- What is written is read back. -/
theorem decode?_encode (bytes : Bytes) : decode? (encode bytes) = some bytes := by
  induction bytes using encode.induct with
  | case1 => rfl
  | case2 a =>
      rw [encode, decode?, if_pos rfl, if_pos rfl]
      exact lastOne?_eq_some_iff.2 ⟨a, rfl, rfl, rfl⟩
  | case3 a b =>
      have hz : digit (b.toNat % 16 * 4) ≠ padding := digit_ne_padding (by omega)
      rw [encode, decode?, if_pos rfl, if_neg hz]
      exact lastTwo?_eq_some_iff.2 ⟨a, b, rfl, rfl, rfl, rfl⟩
  | case4 a b c rest ih =>
      rw [encode, decode?_group (group?_eq_some_iff.2 ⟨a, b, c, rfl, rfl, rfl, rfl, rfl⟩), ih]
      rfl

/-- What is read is what has been written. -/
theorem encode_of_decode? {t : Text} {bytes : Bytes} (h : decode? t = some bytes) :
    encode bytes = t := by
  induction t using decode?.induct generalizing bytes with
  | case1 =>
      obtain rfl := Option.some.inj h
      rfl
  | case2 x y =>
      rw [decode?, if_pos rfl, if_pos rfl] at h
      obtain ⟨a, rfl, rfl, rfl⟩ := lastOne?_eq_some_iff.1 h
      rfl
  | case3 x y z hz =>
      rw [decode?, if_pos rfl, if_neg hz] at h
      obtain ⟨a, b, rfl, rfl, rfl, rfl⟩ := lastTwo?_eq_some_iff.1 h
      rfl
  | case4 x y z w hw =>
      rw [decode?, if_neg hw] at h
      obtain ⟨a, b, c, rfl, rfl, rfl, rfl, rfl⟩ := group?_eq_some_iff.1 h
      rfl
  | case5 x y z w rest _ group more hmore hgroup ih =>
      rw [decode?_group hgroup, hmore] at h
      obtain rfl := Option.some.inj h
      obtain ⟨a, b, c, rfl, rfl, rfl, rfl, rfl⟩ := group?_eq_some_iff.1 hgroup
      rw [← ih hmore]
      rfl
  | case6 x y z w rest hrest hfails _ =>
      rw [decode?] at h
      · split at h
        · next group more hgroup hmore => exact absurd hmore (hfails group more hgroup)
        · cases h
      · exact hrest
  | case7 t hnil hfour hmore =>
      rw [decode?] at h
      · cases h
      · exact hnil
      · exact hfour
      · exact hmore

/-- **A text stands for bytes exactly when they are written as it.** -/
theorem decode?_eq_some_iff {t : Text} {bytes : Bytes} :
    decode? t = some bytes ↔ t = encode bytes := by
  constructor
  · intro h
    exact (encode_of_decode? h).symm
  · rintro rfl
    exact decode?_encode bytes

/-- Bytes are determined by their base64 text. -/
theorem encode_injective {bytes bytes' : Bytes} (h : encode bytes = encode bytes') :
    bytes = bytes' := by
  have hdecode := decode?_encode bytes
  rw [h, decode?_encode] at hdecode
  exact (Option.some.inj hdecode).symm

/-! ### Texts that hold no bytes -/

/-- Bytes are read from the texts that are trimmed to what they are written as. -/
theorem read_eq_ok_iff {t : Text} {bytes : Bytes} :
    read t = .ok bytes ↔ Text.trim t = encode bytes := by
  rw [← decode?_eq_some_iff, read]
  cases decode? (Text.trim t) with
  | none => simp
  | some bytes' => simp

/-- No bytes are read from blanks alone. -/
theorem read_eq_ok_nil_iff {t : Text} :
    read t = .ok [] ↔ ∀ c ∈ t, Text.isBlank c = true := by
  rw [read_eq_ok_iff, ← Text.trim_eq_nil_iff]
  rfl

end Base64

/-! ### Credentials -/

namespace Credential

/-- A credential is made of the texts from which bytes are read. -/
theorem ofSharedKey_eq_ok_iff {account t : Text} {credential : Credential} :
    ofSharedKey account t = .ok credential
      ↔ credential.account = account ∧ Base64.read t = .ok credential.key := by
  obtain ⟨account', key⟩ := credential
  rw [ofSharedKey]
  cases Base64.read t with
  | error e => simp
  | ok bytes => simp [eq_comm]

/-- A key that is not read is a mistake in the configuration. -/
theorem kind_of_ofSharedKey {account t : Text} {e : Error}
    (h : ofSharedKey account t = .error e) : e.kind = .configInvalid := by
  rw [ofSharedKey] at h
  split at h
  · cases h
  · obtain rfl := Except.error.inj h
    rfl

end Credential

/-- A signer reports an unusable credential exactly when it has one, whatever the request. -/
theorem Signer.exists_sign_credentialInvalid_iff {signer : Signer} {request : Request} :
    (∃ e, (signer.sign request).answer.1 = .error e ∧ e.kind = .credentialInvalid)
      ↔ signer.credential.account = [] ∨ signer.credential.key = [] := by
  rw [signer.sign_eq request]
  split
  · next hunusable => exact ⟨fun _ => hunusable, fun _ => ⟨_, rfl, rfl⟩⟩
  · next husable =>
      constructor
      · rintro ⟨e, he, hkind⟩
        exact absurd hkind (RequestSigner.kind_ne_of_sign he)
      · intro hunusable
        exact absurd hunusable husable

/-! ### The credential of a configuration -/

namespace Config

/-- The key is a text of blanks, and not empty. -/
def HasBlankKey (config : Config) : Prop :=
  ∃ key, config.accountKey = some key ∧ key ≠ [] ∧ ∀ c ∈ key, Text.isBlank c = true

theorem present?_eq_some_iff {value : Option Text} {t : Text} :
    present? value = some t ↔ value = some t ∧ t ≠ [] := by
  simp [present?, Option.filter_eq_some_iff]

/-- The credentials that a configuration describes: its account name with the bytes that are read
from its key, where neither text is empty. -/
theorem credential_eq_ok_iff {config : Config} {credential : Credential} :
    config.credential = .ok credential
      ↔ config.accountName = some credential.account ∧ credential.account ≠ []
        ∧ ∃ key, config.accountKey = some key ∧ key ≠ []
          ∧ Base64.read key = .ok credential.key := by
  simp only [Config.credential, ← and_assoc, ← present?_eq_some_iff]
  cases present? config.accountName with
  | none => simp
  | some name =>
      cases present? config.accountKey with
      | none => simp
      | some key => simp [Credential.ofSharedKey_eq_ok_iff, eq_comm (a := name)]

/-- Whatever a configuration refuses, it refuses as one. -/
theorem kind_of_credential {config : Config} {e : Error} (h : config.credential = .error e) :
    e.kind = .configInvalid := by
  rw [Config.credential] at h
  split at h
  · obtain rfl := Except.error.inj h
    rfl
  · split at h
    · obtain rfl := Except.error.inj h
      rfl
    · exact Credential.kind_of_ofSharedKey h

/-- The key of such a credential is empty exactly where it has been read from blanks. -/
theorem key_eq_nil_iff {config : Config} {credential : Credential}
    (h : config.credential = .ok credential) : credential.key = [] ↔ config.HasBlankKey := by
  obtain ⟨-, -, key, hkey, hne, hread⟩ := credential_eq_ok_iff.1 h
  constructor
  · intro hnil
    rw [hnil] at hread
    exact ⟨key, hkey, hne, Base64.read_eq_ok_nil_iff.1 hread⟩
  · rintro ⟨key', hkey', -, hblank⟩
    obtain rfl : key' = key := Option.some.inj (hkey'.symm.trans hkey)
    rw [Base64.read_eq_ok_nil_iff.2 hblank] at hread
    exact (Except.ok.inj hread).symm

/-- An account without a key, or with an empty one, has no credential. -/
theorem exists_credential_eq_error {config : Config}
    (h : config.accountKey = none ∨ config.accountKey = some []) :
    ∃ e, config.credential = .error e := by
  cases hcredential : config.credential with
  | error e => exact ⟨e, rfl⟩
  | ok credential =>
      obtain ⟨-, -, key, hkey, hne, -⟩ := credential_eq_ok_iff.1 hcredential
      rcases h with hnone | hempty
      · rw [hnone] at hkey
        cases hkey
      · rw [hempty] at hkey
        exact absurd (Option.some.inj hkey).symm hne

/-- **The credential of a configuration can sign unless its key is a text of blanks.**  Without such
a key, whatever is wrong with a configuration, a missing or empty key included, is reported as such
when its credential is made, and no request makes its signer report an unusable credential; with
such a key there is a credential, and every request does. -/
theorem isValid_credential_iff (config : Config) :
    (∀ e, config.credential = .error e → e.kind = .configInvalid)
    ∧ (config.accountKey = none ∨ config.accountKey = some [] → ∃ e, config.credential = .error e)
    ∧ ∀ credential, config.credential = .ok credential →
      (credential.isValid = true ↔ ¬ config.HasBlankKey)
      ∧ ∃ signer, config.signer = .ok signer ∧ signer.credential = credential
        ∧ ∀ request, (∃ e, (signer.sign request).answer.1 = .error e ∧ e.kind = .credentialInvalid)
          ↔ config.HasBlankKey := by
  refine ⟨fun e he => kind_of_credential he, exists_credential_eq_error, fun credential h => ?_⟩
  have hname : credential.account ≠ [] := (credential_eq_ok_iff.1 h).2.1
  have hkey := key_eq_nil_iff h
  refine ⟨?_, ⟨credential, config.requestSigner⟩, ?_, rfl, fun request => ?_⟩
  · simp [Credential.isValid, hname, ← hkey]
  · rw [signer, h]
    rfl
  · rw [← hkey, Signer.exists_sign_credentialInvalid_iff]
    simp [hname]

/-- A configuration whose key is a blank. -/
def blankKeyed : Config := ⟨some "acct".toList, some " ".toList, none⟩

/-- It describes a credential that can not sign, and a signer that reports it for every request. -/
theorem credential_blankKeyed :
    blankKeyed.credential = .ok ⟨"acct".toList, []⟩
      ∧ Credential.isValid ⟨"acct".toList, []⟩ = false
      ∧ ∃ signer, blankKeyed.signer = .ok signer
        ∧ ∀ request, (signer.sign request).answer.1 = .error .credentialUnusable
          ∧ Error.credentialUnusable.kind = .credentialInvalid :=
  ⟨rfl, rfl, ⟨⟨"acct".toList, []⟩, .default⟩, rfl, fun _ => ⟨rfl, rfl⟩⟩

end Config

/-! ### Base64 between blanks -/

namespace Base64

theorem isBlank_of_mem_encode {bytes : Bytes} {c : Char} (h : c ∈ encode bytes) :
    Text.isBlank c = false := by
  have hdigits : (padding :: alphabet).all (fun c => !Text.isBlank c) = true := by
    rfl
  exact Bool.not_eq_eq_eq_not.1 (List.all_eq_true.1 hdigits c (mem_of_mem_encode h))

/-- A text is trimmed to what bytes are written as where that stands between blanks. -/
theorem trim_eq_encode_iff {t : Text} {bytes : Bytes} :
    Text.trim t = encode bytes
      ↔ ∃ before after, Text.AllBlank before ∧ Text.AllBlank after
        ∧ t = before ++ encode bytes ++ after := by
  constructor
  · intro h
    rw [← h]
    exact Text.exists_eq_append_trim t
  · rintro ⟨before, after, hbefore, hafter, rfl⟩
    rw [Text.trim_append hbefore hafter, Text.trim_eq_self]
    exact fun c hc => isBlank_of_mem_encode hc

/-- What is written is read back. -/
theorem read_encode (bytes : Bytes) : read (encode bytes) = .ok bytes :=
  read_eq_ok_iff.2 (Text.trim_eq_self fun _ hc => isBlank_of_mem_encode hc)

end Base64

/-! ### The credential of a key -/

namespace Credential

/-- **A credential is made of the base64 text of its key between blanks, and of no other text.** -/
theorem ofSharedKey_exact (account t : Text) :
    ((∃ credential, ofSharedKey account t = .ok credential)
      ↔ ∃ bytes, Text.trim t = Base64.encode bytes)
    ∧ (∀ bytes, Text.trim t = Base64.encode bytes →
      ofSharedKey account t = .ok ⟨account, bytes⟩
      ∧ ∀ bytes', Text.trim t = Base64.encode bytes' → bytes' = bytes)
    ∧ ((∀ bytes, Text.trim t ≠ Base64.encode bytes) →
      ∃ e, ofSharedKey account t = .error e ∧ e.kind = .configInvalid)
    ∧ ∀ bytes, ofSharedKey account t = .ok ⟨account, bytes⟩
      ↔ ∃ before after, Text.AllBlank before ∧ Text.AllBlank after
        ∧ t = before ++ Base64.encode bytes ++ after := by
  have hok : ∀ bytes, ofSharedKey account t = .ok ⟨account, bytes⟩
      ↔ Text.trim t = Base64.encode bytes := by
    intro bytes
    rw [ofSharedKey_eq_ok_iff, Base64.read_eq_ok_iff]
    exact and_iff_right rfl
  refine ⟨?_, ?_, ?_, ?_⟩
  · constructor
    · rintro ⟨⟨account', bytes⟩, h⟩
      obtain rfl : account' = account := (ofSharedKey_eq_ok_iff.1 h).1
      exact ⟨bytes, (hok bytes).1 h⟩
    · rintro ⟨bytes, h⟩
      exact ⟨_, (hok bytes).2 h⟩
  · intro bytes h
    refine ⟨(hok bytes).2 h, fun bytes' h' => ?_⟩
    exact Base64.encode_injective (h'.symm.trans h)
  · intro hnone
    cases hresult : ofSharedKey account t with
    | error e => exact ⟨e, rfl, kind_of_ofSharedKey hresult⟩
    | ok credential =>
        have hread := Base64.read_eq_ok_iff.1 (ofSharedKey_eq_ok_iff.1 hresult).2
        exact absurd hread (hnone credential.key)
  · intro bytes
    rw [hok, Base64.trim_eq_encode_iff]

/-- A key between blanks of several kinds, and one whose last digit has bits left over. -/
theorem ofSharedKey_exact_between_blanks :
    Text.trim "\u3000\tAQI=\u2003\n".toList = Base64.encode [1, 2]
      ∧ ofSharedKey "acct".toList "\u3000\tAQI=\u2003\n".toList = .ok ⟨"acct".toList, [1, 2]⟩
      ∧ (∀ bytes, Text.trim "AQJ=".toList ≠ Base64.encode bytes)
      ∧ ∃ e, ofSharedKey "acct".toList "AQJ=".toList = .error e ∧ e.kind = .configInvalid := by
  have hwritten : Text.trim "\u3000\tAQI=\u2003\n".toList = Base64.encode [1, 2] := by decide
  have hnone : ∀ bytes, Text.trim "AQJ=".toList ≠ Base64.encode bytes := by
    intro bytes h
    have hread : Base64.decode? (Text.trim "AQJ=".toList) = none := by decide
    rw [Base64.decode?_eq_some_iff.2 h] at hread
    cases hread
  obtain ⟨-, hok, -, -⟩ := ofSharedKey_exact "acct".toList "\u3000\tAQI=\u2003\n".toList
  obtain ⟨-, -, herror, -⟩ := ofSharedKey_exact "acct".toList "AQJ=".toList
  exact ⟨hwritten, (hok _ hwritten).1, hnone, herror hnone⟩

end Credential

end SharedKey
