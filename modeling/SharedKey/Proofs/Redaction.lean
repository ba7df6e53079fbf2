/-
**What is shown of a secret text, and what descriptions hide.**

Of a secret text either nothing is shown or its two ends, which take three bytes each.  The ends are
shown where the text takes twelve bytes or more and both of them are whole characters, and so they
never are more than three characters.  But bytes are counted and not characters, and fewer than
twelve characters can take twelve bytes: four characters of three bytes each are shown by the first
and the last of them, which is half of the secret.  Nothing else of a shorter text is ever shown.

A credential shows of its key the number of its bytes, and a configuration shows of its key, which
still is text, at most the two ends.  So a person who reads the descriptions of two credentials, of
two signers or of two configurations finds the same text wherever the keys agree in that much.  Of
the text of a key it is decided by boundaries whether the ends are shown, and the one behind the
first three bytes is found by looking at the byte after them; but that byte tells nothing that the
first three bytes do not tell.

The ends are cut off at byte offsets, one of which is a difference of lengths.  `Redaction.attempt`
describes a text in the same steps and gives nothing where a difference would be negative or a
character would be cut; it always gives the description.

Main definitions:

* `Redaction.ShowsEnds` — the ends of a text that is long enough;
* `Redaction.Describes` — what stands for a secret text;
* `Redaction.attempt` — the description of a text in steps that may fail;
* `Redaction.LookAlike` — texts that are both short, or have the same ends.

Main results:

* `Redaction.exists_showsEnds_iff` — when there are such ends;
* `Redaction.describes_ofText` — what stands for a secret text is what should;
* `Redaction.ofText_by_characters` — **a text is hidden unless it has ends to be shown, and what is
  shown at an end is at most three characters**;
* `Redaction.ofText_wide` — four characters, two of which are shown;
* `Redaction.attempt_eq` — no step fails;
* `Redaction.ShowsEnds.transfer` — ends are determined by the bytes that are shown;
* `Redaction.ofText_eq_of_lookAlike`, `Redaction.ofBytes_eq_of_length_eq` — what stands for secrets
  that agree in what is shown;
* `Redaction.descriptions_hide_keys` — **descriptions do not tell keys apart, and are always
  given**.
-/

import SharedKey.Config
import SharedKey.Proofs.Text

set_option relaxedAutoImplicit false
set_option autoImplicit false

namespace SharedKey

/-! ### The ends of a text -/

namespace Redaction

/-- The ends of a text of at least twelve bytes: what its first three bytes encode, and what its
last three bytes encode. -/
structure ShowsEnds (t first last : Text) : Prop where
  long : shortest ≤ Text.byteLength t
  begins : first <+: t
  length_first : Text.byteLength first = shown
  ends : last <:+ t
  length_last : Text.byteLength last = shown

variable {t first last : Text}

/-- The first bytes are split off with the first end. -/
theorem ShowsEnds.split_first (h : ShowsEnds t first last) :
    ∃ rest, Text.splitAtByte? t shown = some (first, rest) := by
  obtain ⟨rest, rfl⟩ := h.begins
  rw [← h.length_first]
  exact ⟨rest, Text.splitAtByte?_byteLength first rest⟩

/-- The last bytes are split off with the last end. -/
theorem ShowsEnds.split_last (h : ShowsEnds t first last) :
    ∃ rest, Text.splitAtByte? t (Text.byteLength t - shown) = some (rest, last) := by
  obtain ⟨rest, rfl⟩ := h.ends
  rw [← h.length_last, Text.byteLength_append, Nat.add_sub_cancel]
  exact ⟨rest, Text.splitAtByte?_byteLength rest last⟩

/-- The parts of a text that is split near its two ends are those ends. -/
theorem showsEnds_of_split {rest rest' : Text} (hlong : shortest ≤ Text.byteLength t)
    (hfirst : Text.splitAtByte? t shown = some (first, rest))
    (hlast : Text.splitAtByte? t (Text.byteLength t - shown) = some (rest', last)) :
    ShowsEnds t first last := by
  obtain ⟨hbegins, hlength⟩ := Text.splitAtByte?_append hfirst
  obtain ⟨hends, hlength'⟩ := Text.splitAtByte?_append hlast
  refine ⟨hlong, ⟨rest, hbegins.symm⟩, hlength, ⟨rest', hends.symm⟩, ?_⟩
  have htotal := congrArg Text.byteLength hends
  rw [Text.byteLength_append, hlength'] at htotal
  have hshown : shown ≤ shortest := by decide
  omega

/-- There are such ends where the text is long enough and has its boundaries there. -/
theorem exists_showsEnds_iff :
    (∃ first last, ShowsEnds t first last)
      ↔ shortest ≤ Text.byteLength t ∧ Text.isBoundary t shown = true
        ∧ Text.isBoundary t (Text.byteLength t - shown) = true := by
  rw [← Text.splitAtByte?_ne_none_iff, ← Text.splitAtByte?_ne_none_iff,
    Option.ne_none_iff_exists', Option.ne_none_iff_exists']
  constructor
  · rintro ⟨first, last, h⟩
    obtain ⟨rest, hfirst⟩ := h.split_first
    obtain ⟨rest', hlast⟩ := h.split_last
    exact ⟨h.long, ⟨_, hfirst⟩, ⟨_, hlast⟩⟩
  · rintro ⟨hlong, ⟨⟨first, rest⟩, hfirst⟩, ⟨⟨rest', last⟩, hlast⟩⟩
    exact ⟨first, last, showsEnds_of_split hlong hfirst hlast⟩

/-- What stands for a secret text. -/
inductive Describes (t : Text) : Text → Prop
  | nothing : t = [] → Describes t emptyMark
  | hidden : t ≠ [] → (¬ ∃ first last, ShowsEnds t first last) → Describes t mask
  | ends {first last : Text} : ShowsEnds t first last → Describes t (first ++ mask ++ last)

theorem ne_nil_of_long (hlong : shortest ≤ Text.byteLength t) : t ≠ [] := by
  rintro rfl
  exact absurd hlong (by decide)

/-- The ends of a text that is long enough are shown. -/
theorem ShowsEnds.ofText_eq (h : ShowsEnds t first last) :
    ofText t = first ++ mask ++ last := by
  obtain ⟨rest, hfirst⟩ := h.split_first
  obtain ⟨rest', hlast⟩ := h.split_last
  have hempty : ¬ t.isEmpty = true := mt List.isEmpty_iff.1 (ne_nil_of_long h.long)
  rw [ofText, if_neg hempty, if_neg (Nat.not_lt.2 h.long), hfirst, hlast]

/-- What stands for a secret text is what should. -/
theorem describes_ofText (t : Text) : Describes t (ofText t) := by
  by_cases hends : ∃ first last, ShowsEnds t first last
  · obtain ⟨first, last, h⟩ := hends
    rw [h.ofText_eq]
    exact .ends h
  · rw [ofText]
    split
    · next hempty => exact .nothing (List.isEmpty_iff.1 hempty)
    · next hempty =>
        have hne : t ≠ [] := mt List.isEmpty_iff.2 hempty
        split
        · exact .hidden hne hends
        · next hlong =>
            split
            · next first rest rest' last hfirst hlast =>
                exact .ends (showsEnds_of_split (Nat.not_lt.1 hlong) hfirst hlast)
            · exact .hidden hne hends

/-- A text is hidden where it has no ends to be shown. -/
theorem ofText_eq_hidden_iff :
    ofText t = (if t = [] then emptyMark else mask) ↔ ¬ ∃ first last, ShowsEnds t first last := by
  constructor
  · rintro heq ⟨first, last, h⟩
    rw [h.ofText_eq, if_neg (ne_nil_of_long h.long)] at heq
    have hlength := congrArg List.length heq
    obtain rfl : first = [] := by
      rw [← List.length_eq_zero_iff]
      simp only [List.length_append] at hlength
      omega
    exact absurd h.length_first (by decide)
  · intro hnone
    have hdescribes := describes_ofText t
    generalize ofText t = description at hdescribes ⊢
    cases hdescribes with
    | nothing hempty => exact (if_pos hempty).symm
    | hidden hne _ => exact (if_neg hne).symm
    | ends h => exact absurd ⟨_, _, h⟩ hnone

/-- A text without ends to be shown is hidden. -/
theorem ofText_eq_mask (hne : t ≠ []) (hnone : ¬ ∃ first last, ShowsEnds t first last) :
    ofText t = mask :=
  (ofText_eq_hidden_iff.2 hnone).trans (if_neg hne)

/-- **A text is hidden unless it has ends to be shown, and what is shown at an end is at most three
characters.**  A text of ASCII characters has ends to be shown only if there are twelve of them;
other texts may have them before. -/
theorem ofText_by_characters (t : Text) :
    (ofText t = (if t = [] then emptyMark else mask) ↔ ¬ ∃ first last, ShowsEnds t first last)
    ∧ (t.length < 12 → (∀ c ∈ t, c.toNat < 0x80) →
      ofText t = if t = [] then emptyMark else mask)
    ∧ (12 ≤ t.length →
      ofText t = mask
        ∨ ∃ first last, first <+: t ∧ first.length ≤ 3 ∧ last <:+ t ∧ last.length ≤ 3
          ∧ ofText t = first ++ mask ++ last) := by
  refine ⟨ofText_eq_hidden_iff, fun hshort hascii => ?_, fun hlong => ?_⟩
  · rw [ofText_eq_hidden_iff]
    rintro ⟨first, last, h⟩
    have hlong := h.long
    rw [Text.byteLength_of_ascii hascii] at hlong
    exact absurd hshort (Nat.not_lt.2 hlong)
  · have hdescribes := describes_ofText t
    generalize ofText t = description at hdescribes ⊢
    cases hdescribes with
    | nothing hempty =>
        rw [hempty] at hlong
        exact absurd hlong (by decide)
    | hidden _ _ => exact .inl rfl
    | @ends first last h =>
        have hfirst := Text.length_le_byteLength first
        have hlast := Text.length_le_byteLength last
        rw [h.length_first] at hfirst
        rw [h.length_last] at hlast
        exact .inr ⟨first, last, h.begins, hfirst, h.ends, hlast, rfl⟩

/-- A text of ten ASCII characters is hidden; of one of twelve at most three characters are shown at
each end. -/
theorem ofText_by_characters_ascii :
    ofText "HelloWorld".toList = mask
      ∧ (ofText "Hello World!".toList = mask
        ∨ ∃ first last, first <+: "Hello World!".toList ∧ first.length ≤ 3
          ∧ last <:+ "Hello World!".toList ∧ last.length ≤ 3
          ∧ ofText "Hello World!".toList = first ++ mask ++ last) := by
  have hhidden := (ofText_by_characters "HelloWorld".toList).2.1 (by decide) (by simp)
  exact ⟨hhidden, (ofText_by_characters "Hello World!".toList).2.2 (by decide)⟩

/-- Four characters of three bytes each. -/
def wideSecret : Text := "日本語字".toList

/-- Two of them are shown. -/
theorem ofText_wide :
    wideSecret.length < 12 ∧ ofText wideSecret = "日***字".toList
      ∧ ¬ ofText wideSecret = if wideSecret = [] then emptyMark else mask := by
  have hshown : ofText wideSecret = "日***字".toList := by decide
  refine ⟨by decide, hshown, ?_⟩
  rw [hshown]
  decide

end Redaction

/-! ### Steps that may fail -/

namespace Redaction

/-- The difference of two lengths, where it is not negative. -/
def subtract? (m n : Nat) : Option Nat := if n ≤ m then some (m - n) else none

/-- The description of a secret text step by step.  The boundaries are asked for first and the ends
are cut off afterwards; there is nothing where a difference is negative, or where a text is cut
inside of a character. -/
def attempt (t : Text) : Option Text :=
  let length := Text.byteLength t
  if length = 0 then some emptyMark
  else if length < shortest then some mask
  else if Text.isBoundary t shown = false then some mask
  else
    (subtract? length shown).bind fun start =>
      if Text.isBoundary t start = false then some mask
      else
        (Text.splitAtByte? t shown).bind fun (first, _) =>
          (Text.splitAtByte? t start).map fun (_, last) => first ++ mask ++ last

/-- The steps behind the test of the length. -/
theorem attempt_of_le {t : Text} (hlong : shortest ≤ Text.byteLength t) :
    attempt t
      = if Text.isBoundary t shown = false then some mask
        else if Text.isBoundary t (Text.byteLength t - shown) = false then some mask
        else
          (Text.splitAtByte? t shown).bind fun (first, _) =>
            (Text.splitAtByte? t (Text.byteLength t - shown)).map fun (_, last) =>
              first ++ mask ++ last := by
  have hpositive : Text.byteLength t ≠ 0 := Nat.ne_of_gt (Nat.lt_of_lt_of_le (by decide) hlong)
  have hshown : shown ≤ Text.byteLength t := Nat.le_trans (by decide) hlong
  simp only [attempt, subtract?, if_neg hpositive, if_neg (Nat.not_lt.2 hlong), if_pos hshown,
    Option.bind_some]

/-- No step fails, and they give what stands for the text. -/
theorem attempt_eq (t : Text) : attempt t = some (ofText t) := by
  by_cases hshort : Text.byteLength t < shortest
  · -- the first two tests answer
    rw [attempt, ofText]
    cases t with
    | nil => rfl
    | cons c t =>
        have hpositive : Text.byteLength (c :: t) ≠ 0 := by
          have hc := c.utf8Size_pos
          rw [Text.byteLength_cons]
          omega
        simp only [if_neg hpositive, if_pos hshort, List.isEmpty_cons, Bool.false_eq_true, if_false]
  · have hlong : shortest ≤ Text.byteLength t := Nat.not_lt.1 hshort
    rw [attempt_of_le hlong]
    by_cases hends : ∃ first last, ShowsEnds t first last
    · obtain ⟨-, hboundary, hboundary'⟩ := exists_showsEnds_iff.1 hends
      obtain ⟨first, last, h⟩ := hends
      obtain ⟨rest, hfirst⟩ := h.split_first
      obtain ⟨rest', hlast⟩ := h.split_last
      simp [hboundary, hboundary', hfirst, hlast, h.ofText_eq]
    · rw [ofText_eq_mask (ne_nil_of_long hlong) hends]
      rw [exists_showsEnds_iff, not_and, not_and, Bool.not_eq_true] at hends
      by_cases hboundary : Text.isBoundary t shown = false
      · rw [if_pos hboundary]
      · rw [if_neg hboundary, if_pos (hends hlong (Bool.not_eq_false _ ▸ hboundary))]

/-! ### Secrets that agree in what is shown -/

/-- Two texts that are both short, and not empty, or long texts with the same ends. -/
inductive LookAlike (s t : Text) : Prop
  | short : s ≠ [] → Text.byteLength s < 12 → t ≠ [] → Text.byteLength t < 12 → LookAlike s t
  | long : 12 ≤ Text.byteLength s → 12 ≤ Text.byteLength t →
      (Text.utf8 s).take 3 = (Text.utf8 t).take 3 →
      (Text.utf8 s).drop (Text.byteLength s - 3) = (Text.utf8 t).drop (Text.byteLength t - 3) →
      LookAlike s t

/-- The ends of a long text are those of every other long text with the same first and last
bytes. -/
theorem ShowsEnds.transfer {s t first last : Text} (h : ShowsEnds s first last)
    (hlong : shortest ≤ Text.byteLength t)
    (hfirst : (Text.utf8 s).take shown = (Text.utf8 t).take shown)
    (hlast : (Text.utf8 s).drop (Text.byteLength s - shown)
      = (Text.utf8 t).drop (Text.byteLength t - shown)) : ShowsEnds t first last where
  long := hlong
  length_first := h.length_first
  length_last := h.length_last
  begins := by
    obtain ⟨rest, rfl⟩ := h.begins
    have hbytes : (Text.utf8 (first ++ rest)).take shown = Text.utf8 first := by
      rw [Text.utf8_append, ← h.length_first]
      exact List.take_left
    refine Text.prefix_of_utf8 ?_
    rw [← hbytes, hfirst]
    exact List.take_prefix shown (Text.utf8 t)
  ends := by
    obtain ⟨rest, rfl⟩ := h.ends
    have hbytes : (Text.utf8 (rest ++ last)).drop (Text.byteLength (rest ++ last) - shown)
        = Text.utf8 last := by
      rw [Text.utf8_append, Text.byteLength_append, ← h.length_last, Nat.add_sub_cancel]
      exact List.drop_left
    refine Text.suffix_of_utf8 ?_
    rw [← hbytes, hlast]
    exact List.drop_suffix _ (Text.utf8 t)

/-- What stands for two texts that agree in what is shown is the same. -/
theorem ofText_eq_of_lookAlike {s t : Text} (h : LookAlike s t) : ofText s = ofText t := by
  cases h with
  | short hs hshort ht hshort' =>
      rw [ofText_eq_mask hs, ofText_eq_mask ht]
      · rintro ⟨first, last, h⟩
        exact absurd hshort' (Nat.not_lt.2 h.long)
      · rintro ⟨first, last, h⟩
        exact absurd hshort (Nat.not_lt.2 h.long)
  | long hlong hlong' hfirst hlast =>
      by_cases hends : ∃ first last, ShowsEnds s first last
      · obtain ⟨first, last, hs⟩ := hends
        rw [hs.ofText_eq, (hs.transfer hlong' hfirst hlast).ofText_eq]
      · have hends' : ¬ ∃ first last, ShowsEnds t first last := by
          rintro ⟨first, last, ht⟩
          exact hends ⟨first, last, ht.transfer hlong hfirst.symm hlast.symm⟩
        rw [ofText_eq_mask (ne_nil_of_long hlong) hends,
          ofText_eq_mask (ne_nil_of_long hlong') hends']

/-- Of bytes the number is shown. -/
theorem ofBytes_eq_of_length_eq {b b' : Bytes} (h : b.length = b'.length) :
    ofBytes b = ofBytes b' := by
  have hempty : b.isEmpty = b'.isEmpty := by
    rw [Bool.eq_iff_iff, List.isEmpty_iff_length_eq_zero, List.isEmpty_iff_length_eq_zero, h]
  rw [ofBytes, ofBytes, hempty, h]

/-! ### Descriptions -/

/-- A credential shows of its key the number of its bytes. -/
theorem describe_credential_of_length_eq {key key' : Bytes} (h : key.length = key'.length)
    (account : Text) :
    Credential.describe ⟨account, key⟩ = Credential.describe ⟨account, key'⟩ := by
  unfold Credential.describe
  dsimp only
  rw [ofBytes_eq_of_length_eq h]

/-- **Descriptions do not tell keys apart, and are always given.**  Two credentials of one account
whose keys are equally long are described alike, and so are their signers; two configurations are
described alike that differ in their keys only, where these are both short or have the same first
and last three bytes.  Of every secret text there is a description. -/
theorem descriptions_hide_keys :
    (∀ (account : Text) (key key' : Bytes), key.length = key'.length →
      Credential.describe ⟨account, key⟩ = Credential.describe ⟨account, key'⟩
      ∧ ∀ variant : Variant,
        Signer.describe ⟨⟨account, key⟩, ⟨variant⟩⟩ = Signer.describe ⟨⟨account, key'⟩, ⟨variant⟩⟩)
    ∧ (∀ (name : Option Text) (variant : Option Variant) (key key' : Text), LookAlike key key' →
      Config.describe ⟨name, some key, variant⟩ = Config.describe ⟨name, some key', variant⟩)
    ∧ ∀ t, attempt t = some (ofText t) := by
  refine ⟨fun account key key' h => ?_, fun name variant key key' h => ?_, attempt_eq⟩
  · have hcredential := describe_credential_of_length_eq h account
    refine ⟨hcredential, fun variant => ?_⟩
    unfold Signer.describe
    dsimp only
    rw [hcredential]
  · have hkey : ofOption (some key) = ofOption (some key') := ofText_eq_of_lookAlike h
    unfold Config.describe
    dsimp only
    rw [hkey]

/-- Two keys of two bytes, and two texts of keys with the same ends. -/
theorem descriptions_hide_keys_two_pairs :
    Credential.describe ⟨"acct".toList, [1, 2]⟩ = Credential.describe ⟨"acct".toList, [3, 4]⟩
      ∧ LookAlike "Eby8vdM02XJ1".toList "EbyAAAAAAAAAAXJ1".toList
      ∧ Config.describe ⟨none, some "Eby8vdM02XJ1".toList, none⟩
        = Config.describe ⟨none, some "EbyAAAAAAAAAAXJ1".toList, none⟩ := by
  obtain ⟨hcredential, hconfig, -⟩ := descriptions_hide_keys
  have hkeys : LookAlike "Eby8vdM02XJ1".toList "EbyAAAAAAAAAAXJ1".toList :=
    .long (by decide) (by decide) (by decide) (by decide)
  exact ⟨(hcredential _ _ _ rfl).1, hkeys, hconfig none none _ _ hkeys⟩

end Redaction

end SharedKey
