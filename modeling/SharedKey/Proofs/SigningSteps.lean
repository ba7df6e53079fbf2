/-
**What signing does with a resource, and exactly when it fails.**

Once there is a resource, signing asks whether the header fields that the variant reads are text and
whether the account name can stand in a header field.  Everything else always succeeds; in
particular a signature can stand in a header field whatever was signed.  `Authorization.Step` says
what comes of it in each case, and is all that is needed of the way there.

With a url there are two questions before these: whether it can be read, and whether its query can.
They are settled by the reading of targets and by `Query.Spoiled`.  Of the header fields only the
first values of the names that are read are asked for, so nothing else that the fields hold matters.

Main definitions:

* `FieldValue.IsControl`, `Text.HasControl` — bytes that stand in no header field;
* `StringToSign.ReadsOpaque` — a first value that is read and is no text;
* `Authorization.signHeaders` — the header fields with the authorization for a resource;
* `Authorization.Step` — what comes of them;
* `Authorization.FailsWith` — failure with an error of a kind;
* `Authorization.Outcome` — the outcomes with the answers that lead to them.

Main results:

* `Authorization.hasControl_headerText_iff` — of the text that is sent only the account name can be
  refused;
* `Authorization.step_signHeaders` — **signing does exactly one of four things**;
* `Authorization.ofUrl_congr` — the first values that are read are all that matters of the fields;
* `Authorization.addToHeaders_outcome` — **the outcome of signing, by its four questions**.
-/

import SharedKey.Proofs.Layout
import SharedKey.Proofs.QueryGrammar
import SharedKey.Proofs.TargetText

set_option relaxedAutoImplicit false
set_option autoImplicit false

namespace SharedKey

/-! ### Bytes of header fields -/

/-- A control byte, apart from the tab. -/
def FieldValue.IsControl (b : UInt8) : Prop := (b.toNat < 0x20 ∧ b.toNat ≠ 0x09) ∨ b.toNat = 0x7F

def Text.HasControl (t : Text) : Prop := ∃ b ∈ Text.utf8 t, FieldValue.IsControl b

theorem FieldValue.isFieldByte_iff {b : UInt8} : isFieldByte b = true ↔ ¬ IsControl b := by
  simp only [isFieldByte, IsControl, Bool.or_eq_true, Bool.and_eq_true, decide_eq_true_eq]
  omega

namespace Text

/-- A text without control bytes is one that can stand in a header field. -/
theorem not_hasControl_iff {t : Text} :
    ¬ HasControl t ↔ (utf8 t).all FieldValue.isFieldByte = true := by
  simp only [HasControl, List.all_eq_true, FieldValue.isFieldByte_iff, not_exists, not_and]

theorem hasControl_append {s t : Text} : HasControl (s ++ t) ↔ HasControl s ∨ HasControl t := by
  simp only [HasControl, utf8_append, List.mem_append, or_and_right, exists_or]

/-- Control bytes belong to single characters. -/
theorem not_hasControl_of_forall {t : Text} (h : ∀ c ∈ t, ¬ HasControl [c]) : ¬ HasControl t := by
  induction t with
  | nil =>
      rintro ⟨b, hb, -⟩
      cases hb
  | cons c t ih =>
      rw [← List.singleton_append, hasControl_append]
      rintro (hhead | htail)
      · exact h c List.mem_cons_self hhead
      · exact ih (fun d hd => h d (List.mem_cons_of_mem c hd)) htail

end Text

/-! ### The text that is sent -/

namespace Base64

theorem digit_mem (n : Nat) : digit n ∈ padding :: alphabet := by
  rw [digit, List.getD_eq_getElem?_getD]
  cases hn : alphabet[n]? with
  | none => exact List.mem_cons_self
  | some c => exact List.mem_cons_of_mem _ (List.mem_of_getElem? hn)

theorem mem_of_mem_encode {bytes : Bytes} {c : Char} (h : c ∈ encode bytes) :
    c ∈ padding :: alphabet := by
  induction bytes using encode.induct with
  | case1 => cases h
  | case2 a =>
      simp only [encode, List.mem_cons (a := c), List.not_mem_nil, or_false] at h
      rcases h with rfl | rfl | rfl | rfl
      · exact digit_mem _
      · exact digit_mem _
      · exact List.mem_cons_self
      · exact List.mem_cons_self
  | case3 a b =>
      simp only [encode, List.mem_cons (a := c), List.not_mem_nil, or_false] at h
      rcases h with rfl | rfl | rfl | rfl
      · exact digit_mem _
      · exact digit_mem _
      · exact digit_mem _
      · exact List.mem_cons_self
  | case4 a b d rest ih =>
      simp only [encode, List.mem_cons (a := c)] at h
      rcases h with rfl | rfl | rfl | rfl | h
      · exact digit_mem _
      · exact digit_mem _
      · exact digit_mem _
      · exact digit_mem _
      · exact ih h

/-- What is written can stand in a header field. -/
theorem not_hasControl_encode (bytes : Bytes) : ¬ Text.HasControl (encode bytes) := by
  have hdigits : (padding :: alphabet).all
      (fun c => (Text.utf8 [c]).all FieldValue.isFieldByte) = true := by
    rfl
  refine Text.not_hasControl_of_forall fun c hc => ?_
  exact Text.not_hasControl_iff.2 (List.all_eq_true.1 hdigits c (mem_of_mem_encode hc))

end Base64

/-! ### First values -/

namespace StringToSign

/-- Whether a variant reads a first value with a byte that is neither a tab nor printable ASCII. -/
def ReadsOpaque (variant : Variant) (headers : HeaderMap) : Prop :=
  ∃ name value, Reads variant name ∧ headers.first? name = some value
    ∧ ∃ b ∈ value.bytes, ¬ (b.toNat = 0x09 ∨ (0x20 ≤ b.toNat ∧ b.toNat ≤ 0x7E))

theorem not_readsOpaque_iff {variant : Variant} {headers : HeaderMap} :
    ¬ ReadsOpaque variant headers ↔ ∀ name, Reads variant name → headers.Readable name := by
  rw [not_iff_comm]
  simp only [ReadsOpaque, not_forall, HeaderMap.not_readable_iff, exists_prop]
  constructor
  · rintro ⟨name, hreads, value, hfirst, hbyte⟩
    exact ⟨name, value, hreads, hfirst, hbyte⟩
  · rintro ⟨name, value, hreads, hfirst, hbyte⟩
    exact ⟨name, hreads, value, hfirst, hbyte⟩

end StringToSign

namespace Authorization

variable {verb : Text} {headers : HeaderMap} {resource : Except Error Text} {variant : Variant}
  {credential : Credential}

/-- Of the text that is sent only the account name can have control bytes. -/
theorem hasControl_headerText_iff {s : Text} :
    Text.HasControl (headerText s credential variant)
      ↔ Text.HasControl credential.canonicalAccount := by
  have hscheme : ¬ Text.HasControl variant.scheme := by
    rw [Text.not_hasControl_iff]
    cases variant <;> decide
  have hspace : ¬ Text.HasControl [' '] := Text.not_hasControl_iff.2 (by decide)
  have hcolon : ¬ Text.HasControl [':'] := Text.not_hasControl_iff.2 (by decide)
  have hsignature := Base64.not_hasControl_encode (Hmac.sha256 credential.key (Text.utf8 s))
  have hparts : headerText s credential variant
      = variant.scheme ++ ([' '] ++ (credential.canonicalAccount
        ++ ([':'] ++ Base64.encode (Hmac.sha256 credential.key (Text.utf8 s))))) := by
    simp [headerText, signature]
  rw [hparts]
  simp only [Text.hasControl_append, hscheme, hspace, hcolon, hsignature, false_or, or_false]

/-- A text with control bytes is refused as an authorization. -/
theorem put_of_hasControl {text : Text} (h : Text.HasControl text) :
    put headers (.ok text) = (.error .invalidAuthorization, headers) := by
  have hbytes : ¬ (Text.utf8 text).all FieldValue.isFieldByte = true :=
    fun hall => Text.not_hasControl_iff.2 hall h
  have hvalue : headerValue text = .error .invalidAuthorization := by
    rw [headerValue, FieldValue.ofBytes?, dif_neg hbytes]
  simp only [put, Except.bind, hvalue]

/-- A value of an authorization is kept out of logs and has the bytes of the text. -/
theorem sensitive_of_headerValue {text : Text} {value : FieldValue}
    (h : headerValue text = .ok value) :
    value.sensitive = true ∧ value.bytes = Text.utf8 text := by
  rw [headerValue] at h
  split at h
  · next v hv =>
      obtain rfl := Except.ok.inj h
      rw [FieldValue.sensitive_markSensitive, FieldValue.bytes_markSensitive,
        FieldValue.bytes_of_ofBytes? hv]
      exact ⟨rfl, rfl⟩
  · cases h

/-- A text without control bytes is put in, and kept out of logs. -/
theorem exists_put_of_not_hasControl {text : Text} (h : ¬ Text.HasControl text) :
    ∃ value : FieldValue, value.sensitive = true ∧ value.bytes = Text.utf8 text
      ∧ put headers (.ok text) = (.ok (), headers.insert .authorization value) := by
  have hbytes := Text.not_hasControl_iff.1 h
  obtain ⟨value, hvalue⟩ : ∃ value, headerValue text = .ok value := by
    rw [headerValue, FieldValue.ofBytes?, dif_pos hbytes]
    exact ⟨_, rfl⟩
  obtain ⟨hsensitive, hvalueBytes⟩ := sensitive_of_headerValue hvalue
  refine ⟨value, hsensitive, hvalueBytes, ?_⟩
  simp only [put, Except.bind, hvalue]

/-! ### One step for all -/

/-- The header fields with the authorization for a resource put in; on failure they are left as they
were. -/
def signHeaders (verb : Text) (headers : HeaderMap) (resource : Except Error Text)
    (variant : Variant) (credential : Credential) : Logged (Except Error Unit × HeaderMap) :=
  (ofResource verb headers resource variant credential).map (put headers)

/-- What comes of header fields that are signed for a resource. -/
inductive Step (verb : Text) (headers : HeaderMap) (variant : Variant) (credential : Credential) :
    Except Error Text → Except Error Unit × HeaderMap → Prop
  | noResource {e : Error} :
      Step verb headers variant credential (.error e) (.error e, headers)
  | unreadField {r : Text} : StringToSign.ReadsOpaque variant headers →
      Step verb headers variant credential (.ok r) (.error .opaqueFieldValue, headers)
  | refusedAccount {r : Text} : ¬ StringToSign.ReadsOpaque variant headers →
      Text.HasControl credential.canonicalAccount →
      Step verb headers variant credential (.ok r) (.error .invalidAuthorization, headers)
  | signed {r s : Text} {value : FieldValue} : ¬ StringToSign.ReadsOpaque variant headers →
      ¬ Text.HasControl credential.canonicalAccount →
      StringToSign.build verb headers r variant = .ok s → value.sensitive = true →
      value.bytes = Text.utf8 (headerText s credential variant) →
      Step verb headers variant credential (.ok r) (.ok (), headers.insert .authorization value)

/-- With a string to sign, both texts are recorded and an authorization is given. -/
theorem ofResource_of_build {r s : Text}
    (hbuild : StringToSign.build verb headers r variant = .ok s) :
    ofResource verb headers (.ok r) variant credential
      = ⟨[.resource r, .stringToSign s], .ok (headerText s credential variant)⟩ := by
  rw [ofResource, Logged.recording, Logged.andThen_ok, hbuild]
  rfl

/-- Without one, the resource is recorded. -/
theorem ofResource_of_build_error {r : Text} {e : Error}
    (hbuild : StringToSign.build verb headers r variant = .error e) :
    ofResource verb headers (.ok r) variant credential = ⟨[.resource r], .error e⟩ := by
  rw [ofResource, Logged.recording, Logged.andThen_ok, hbuild]
  rfl

/-- With a resource, the string to sign decides. -/
theorem answer_ofResource_ok {r : Text} :
    (ofResource verb headers (.ok r) variant credential).answer
      = (StringToSign.build verb headers r variant).map (headerText · credential variant) := by
  cases hbuild : StringToSign.build verb headers r variant with
  | error e =>
      rw [ofResource_of_build_error hbuild]
      rfl
  | ok s =>
      rw [ofResource_of_build hbuild]
      rfl

/-- With a string to sign, an account name that can stand in a header field is all that is asked
for. -/
theorem signHeaders_eq_ok {r s : Text} (hresource : resource = .ok r)
    (hbuild : StringToSign.build verb headers r variant = .ok s)
    (hcontrol : ¬ Text.HasControl credential.canonicalAccount) :
    (signHeaders verb headers resource variant credential).answer.1 = .ok () := by
  have htext : ¬ Text.HasControl (headerText s credential variant) :=
    mt hasControl_headerText_iff.1 hcontrol
  obtain ⟨value, -, -, hput⟩ := @exists_put_of_not_hasControl headers _ htext
  rw [hresource, signHeaders, Logged.answer_map, answer_ofResource_ok, hbuild, Except.map, hput]

/-- Header fields with the same first values of the names that are read are signed alike. -/
theorem ofResource_congr {headers' : HeaderMap}
    (h : ∀ name, StringToSign.Reads variant name → headers'.first? name = headers.first? name) :
    ofResource verb headers' resource variant credential
      = ofResource verb headers resource variant credential := by
  simp only [ofResource, StringToSign.build_congr h]

/-- **Signing does exactly one of four things.** -/
theorem step_signHeaders (verb : Text) (headers : HeaderMap) (resource : Except Error Text)
    (variant : Variant) (credential : Credential) :
    Step verb headers variant credential resource
      (signHeaders verb headers resource variant credential).answer := by
  cases resource with
  | error e => exact .noResource
  | ok r =>
      have hbuild := StringToSign.reading_build verb headers r variant
      rw [signHeaders, Logged.answer_map, answer_ofResource_ok]
      by_cases hunread : StringToSign.ReadsOpaque variant headers
      · rw [hbuild.error_of fun hall => StringToSign.not_readsOpaque_iff.2 hall hunread]
        exact .unreadField hunread
      · have hs := hbuild.ok_of (StringToSign.not_readsOpaque_iff.1 hunread)
        rw [hs, Except.map]
        by_cases hcontrol : Text.HasControl credential.canonicalAccount
        · rw [put_of_hasControl (hasControl_headerText_iff.2 hcontrol)]
          exact .refusedAccount hunread hcontrol
        · obtain ⟨value, hsensitive, hbytes, hput⟩ :=
            exists_put_of_not_hasControl (mt hasControl_headerText_iff.1 hcontrol)
          rw [hput]
          exact .signed hunread hcontrol hs hsensitive hbytes

/-- An error is that of the resource, or the request is to blame. -/
theorem Step.resource_eq_error_or {answer : Except Error Unit × HeaderMap} {e : Error}
    (h : Step verb headers variant credential resource answer) (he : answer.1 = .error e) :
    resource = .error e ∨ e.kind = .requestInvalid := by
  cases h with
  | noResource =>
      obtain rfl := Except.error.inj he
      exact .inl rfl
  | unreadField _ =>
      obtain rfl := Except.error.inj he
      exact .inr rfl
  | refusedAccount _ _ =>
      obtain rfl := Except.error.inj he
      exact .inr rfl
  | signed _ _ _ _ _ => cases he

end Authorization

/-! ### The four questions -/

namespace Authorization

/-- Failure with an error of a kind. -/
def FailsWith (result : Except Error Unit) (kind : ErrorKind) : Prop :=
  ∃ e, result = .error e ∧ e.kind = kind

@[simp] theorem failsWith_error {e : Error} {kind : ErrorKind} :
    FailsWith (.error e) kind ↔ e.kind = kind := by
  simp [FailsWith]

@[simp] theorem not_failsWith_ok {kind : ErrorKind} : ¬ FailsWith (.ok ()) kind := by
  simp [FailsWith]

/-- The outcomes of signing header fields, each with the answers that lead to it. -/
inductive Outcome (url : Text) (headers : HeaderMap) (variant : Variant)
    (credential : Credential) : Except Error Unit → Prop
  | malformedUrl {reason : Target.ParseError} {e : Error} :
      Target.parse url = .error reason → e.kind = .malformedUrl →
      Outcome url headers variant credential (.error e)
  | malformedQuery {target : Target} {e : Error} :
      Target.parse url = .ok target → Query.Spoiled target.queryText → e.kind = .malformedQuery →
      Outcome url headers variant credential (.error e)
  | requestInvalid {target : Target} {e : Error} :
      Target.parse url = .ok target → ¬ Query.Spoiled target.queryText →
      StringToSign.ReadsOpaque variant headers ∨ Text.HasControl credential.canonicalAccount →
      e.kind = .requestInvalid → Outcome url headers variant credential (.error e)
  | signed {target : Target} :
      Target.parse url = .ok target → ¬ Query.Spoiled target.queryText →
      ¬ (StringToSign.ReadsOpaque variant headers
        ∨ Text.HasControl credential.canonicalAccount) →
      Outcome url headers variant credential (.ok ())

theorem outcome_addToHeaders (verb url : Text) (headers : HeaderMap) (variant : Variant)
    (credential : Credential) :
    Outcome url headers variant credential
      (addToHeaders verb url headers variant credential).answer.1 := by
  have hstep : Step verb headers variant credential
      (Resource.ofUrl url credential.account variant)
      (addToHeaders verb url headers variant credential).answer :=
    step_signHeaders verb headers (Resource.ofUrl url credential.account variant) variant credential
  generalize (addToHeaders verb url headers variant credential).answer = answer at hstep ⊢
  cases hparse : Target.parse url with
  | error reason =>
      have hresource : Resource.ofUrl url credential.account variant
          = .error (.unreadableUrl url reason) := by
        rw [Resource.ofUrl, hparse]
      rw [hresource] at hstep
      cases hstep with
      | noResource => exact .malformedUrl hparse rfl
  | ok target =>
      rw [Resource.ofUrl_eq_build hparse] at hstep
      cases hquery : Query.parse target.queryText with
      | error e =>
          rw [Resource.build, hquery] at hstep
          cases hstep with
          | noResource =>
              exact .malformedQuery hparse (Query.exists_parse_eq_error_iff.1 ⟨e, hquery⟩)
                (Query.kind_of_parse hquery)
      | ok parameters =>
          have hspoiled : ¬ Query.Spoiled target.queryText := by
            intro hspoiled
            obtain ⟨e, he⟩ := Query.exists_parse_eq_error_iff.2 hspoiled
            rw [hquery] at he
            cases he
          rw [Resource.build_eq_of_parse hquery] at hstep
          cases hstep with
          | unreadField hunread => exact .requestInvalid hparse hspoiled (.inl hunread) rfl
          | refusedAccount _ hcontrol => exact .requestInvalid hparse hspoiled (.inr hcontrol) rfl
          | signed hunread hcontrol _ _ _ =>
              exact .signed hparse hspoiled (not_or.2 ⟨hunread, hcontrol⟩)

/-- Header fields with the same first values of the names that are read are signed alike. -/
theorem ofUrl_congr {variant : Variant} {headers headers' : HeaderMap}
    (h : ∀ name, StringToSign.Reads variant name → headers'.first? name = headers.first? name)
    (verb url : Text) (credential : Credential) :
    ofUrl verb url headers' variant credential = ofUrl verb url headers variant credential :=
  ofResource_congr h

theorem put_fst_congr (headers headers' : HeaderMap) (x : Except Error Text) :
    (put headers' x).1 = (put headers x).1 := by
  simp only [put]
  cases x.bind headerValue with
  | error e => rfl
  | ok value => rfl

theorem addToHeaders_congr {variant : Variant} {headers headers' : HeaderMap}
    (h : ∀ name, StringToSign.Reads variant name → headers'.first? name = headers.first? name)
    (verb url : Text) (credential : Credential) :
    (addToHeaders verb url headers' variant credential).answer.1
      = (addToHeaders verb url headers variant credential).answer.1 := by
  rw [addToHeaders, addToHeaders, ofUrl_congr h]
  exact put_fst_congr headers headers' _

/-- **The outcome of signing, by its four questions**: the first that is answered in the negative
decides on the kind of the error, no other kind occurs, and header fields are asked for the first
values of the names that the variant reads only. -/
theorem addToHeaders_outcome (verb url : Text) (headers : HeaderMap) (variant : Variant)
    (credential : Credential) :
    (FailsWith (addToHeaders verb url headers variant credential).answer.1 .malformedUrl
      ↔ ∃ reason, Target.parse url = .error reason)
    ∧ (FailsWith (addToHeaders verb url headers variant credential).answer.1 .malformedQuery
      ↔ ∃ target, Target.parse url = .ok target ∧ Query.Spoiled target.queryText)
    ∧ (FailsWith (addToHeaders verb url headers variant credential).answer.1 .requestInvalid
      ↔ ∃ target, Target.parse url = .ok target ∧ ¬ Query.Spoiled target.queryText
        ∧ (StringToSign.ReadsOpaque variant headers
          ∨ Text.HasControl credential.canonicalAccount))
    ∧ ((addToHeaders verb url headers variant credential).answer.1 = .ok ()
      ↔ ∃ target, Target.parse url = .ok target ∧ ¬ Query.Spoiled target.queryText
        ∧ ¬ (StringToSign.ReadsOpaque variant headers
          ∨ Text.HasControl credential.canonicalAccount))
    ∧ (∀ kind, FailsWith (addToHeaders verb url headers variant credential).answer.1 kind →
      kind = .malformedUrl ∨ kind = .malformedQuery ∨ kind = .requestInvalid)
    ∧ ∀ headers' : HeaderMap,
      (∀ name, StringToSign.Reads variant name → headers'.first? name = headers.first? name) →
      ofUrl verb url headers' variant credential = ofUrl verb url headers variant credential
      ∧ (addToHeaders verb url headers' variant credential).answer.1
        = (addToHeaders verb url headers variant credential).answer.1 := by
  have houtcome := outcome_addToHeaders verb url headers variant credential
  refine ⟨?_, ?_, ?_, ?_, ?_, fun headers' hfirst =>
    ⟨ofUrl_congr hfirst verb url credential, addToHeaders_congr hfirst verb url credential⟩⟩
  -- the conditions of the outcomes exclude each other, so each of them settles every part
  all_goals
    generalize (addToHeaders verb url headers variant credential).answer.1 = result at houtcome
    cases houtcome with
    | malformedUrl hparse hkind => simp [hparse, hkind]
    | malformedQuery hparse hspoiled hkind => simp [hparse, hspoiled, hkind]
    | requestInvalid hparse hspoiled hrefused hkind => simp [hparse, hspoiled, hrefused, hkind]
    | signed hparse hspoiled hrefused => simp [hparse, hspoiled, hrefused]

end Authorization

end SharedKey
