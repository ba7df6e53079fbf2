/-
**Resources of urls as they are written, and as they are printed.**

A url is read as a target, and of a target without a path its text has to be asked.  The outcome can
be said without either: what stands in the text after the scheme and the authority is cut at the
number sign and at the question mark, and the resource is built of the two parts as they are
written.  `Target.afterAuthority` takes scheme and authority away by looking at the text only;
`Target.Follows` says, by the target that is read, that it takes away no more and no less.

A target that has been read can be signed as it is, or printed and signed as a url.  Printing keeps
the parts of a target, except that the fragment is gone, that a common scheme is in lowercase, and
that a url without a path shows the root there.  So the printed text is read again, as the same
target or as the one with the root, and of the path that is signed three cases are to be told
apart.  Where there is a path, both sign it.  Where there is none and no query either, both sign the
root: a request line sends it, and the printed text has it.  Where there is none and a query
follows, the target has an empty path and the printed text has the root; there the resources differ.

Main definitions:

* `Target.afterAuthority`, `Target.writtenPath`, `Target.writtenQuery` — what follows scheme and
  authority in a text, and the path and the query in it;
* `Target.Follows` — what follows the scheme and the authority of a target;
* `Target.withRoot` — the target that a printed target is read as;
* `Target.QueryAtAuthority` — a url whose authority is directly followed by a question mark.

Main results:

* `Target.SpellsPathQuery.cut_eq` — a path and a query are found in their text again;
* `Target.follows_afterAuthority` — so are those of every target that is read;
* `Target.notMem_path_of_parse` — what stands in no path stands in none of them;
* `Resource.ofUrl_eq_build_written` — **the resource of a url is built of the path and the query as
  they are written**;
* `Target.parse_absoluteForm` — a text that is made up of the parts of a url is read as that url;
* `Target.parse_display` — **the printed text of a target is read as the target with its root**;
* `Resource.ofUrl_display_eq_iff` — **signing a target and signing its printed text agree but for
  the one case, and there the resources differ by the slash**.
-/

import SharedKey.Proofs.TargetText

set_option relaxedAutoImplicit false
set_option autoImplicit false

namespace SharedKey

namespace Target

/-! ### Path and query in their text -/

/-- A fragment is dropped, and nothing before it. -/
theorem dropFragment_append {t fragment : Text} (ht : '#' ∉ t) (hfragment : IsFragment fragment) :
    dropFragment (t ++ fragment) = t := by
  have hall : ∀ c ∈ t, decide (c ≠ '#') = true := by
    intro c hc
    rw [decide_eq_true_eq]
    rintro rfl
    exact ht hc
  rw [dropFragment, List.takeWhile_append_of_pos hall]
  rcases hfragment with rfl | ⟨rest, rfl⟩
  · rw [List.takeWhile_nil, List.append_nil]
  · simp

theorem notMem_path {path : Text} (h : ∀ c ∈ path, isPathChar c = true) {c : Char}
    (hc : isPathChar c = false) : c ∉ path := by
  intro hmem
  rw [h c hmem] at hc
  cases hc

/-- A target that is read has a path of path characters, the asterisk included. -/
theorem isPathChar_of_mem_literalPath {t : Text} {target : Target} (h : parse t = .ok target) :
    ∀ c ∈ target.literalPath, isPathChar c = true := by
  cases spells_of_parse h with
  | originForm _ hpath =>
      obtain ⟨fragment, -, -, hchars, -⟩ := hpath
      exact hchars
  | absoluteForm _ _ _ hpath =>
      obtain ⟨fragment, -, -, hchars, -⟩ := hpath
      exact hchars
  | authorityForm _ => exact nofun
  | asteriskForm => exact List.forall_mem_singleton.2 (by decide)

theorem isPathChar_of_mem_requestPath {t : Text} {target : Target} (h : parse t = .ok target) :
    ∀ c ∈ target.requestPath, isPathChar c = true := by
  rcases target.requestPath_eq with heq | ⟨scheme, authority, rfl⟩
  · rw [heq]
    exact isPathChar_of_mem_literalPath h
  · exact List.forall_mem_singleton.2 (by decide)

/-- A path and a query are found in their text again. -/
theorem SpellsPathQuery.cut_eq {t path : Text} {query : Option Text}
    (h : SpellsPathQuery t path query) : Text.cut '?' (dropFragment t) = (path, query) := by
  obtain ⟨fragment, rfl, hfragment, hpath, hquery⟩ := h
  have hquestion : '?' ∉ path := notMem_path hpath (by decide)
  have hhash : '#' ∉ path := notMem_path hpath (by decide)
  cases query with
  | none =>
      rw [displayQuery, List.append_nil, dropFragment_append hhash hfragment,
        Text.cut_of_notMem hquestion]
  | some query =>
      have hhash' : '#' ∉ path ++ '?' :: query := by
        rw [List.mem_append, List.mem_cons]
        rintro (hmem | hmem | hmem)
        · exact hhash hmem
        · exact absurd hmem (by decide)
        · exact absurd (hquery '#' hmem) (by decide)
      rw [displayQuery, dropFragment_append hhash' hfragment, Text.cut_append_sep hquestion]

/-! ### What follows scheme and authority -/

/-- What follows scheme and authority in the text of a target: all of it where it begins with a
slash or is the asterisk, and nothing where it is an authority alone. -/
def afterAuthority (t : Text) : Text :=
  if t.head? = some '/' ∨ t = ['*'] then t
  else
    match Text.after? schemeMark t with
    | some rest => rest.dropWhile (!endsAuthority ·)
    | none => []

/-- The path as it is written, up to the first question mark or number sign. -/
def writtenPath (t : Text) : Text := (Text.cut '?' (dropFragment (afterAuthority t))).1

/-- The query as it is written, from the first question mark to the first number sign; it is empty
where there is none. -/
def writtenQuery (t : Text) : Text := (Text.cut '?' (dropFragment (afterAuthority t))).2.getD []

/-- What follows the scheme and the authority of a target in its text. -/
inductive Follows : Text → Target → Text → Prop
  | absoluteForm {scheme authority rest path : Text} {query : Option Text} :
      Follows (scheme ++ (schemeMark ++ (authority ++ rest)))
        (.absoluteForm (keptScheme scheme) authority path query) rest
  | authorityForm {authority : Text} : Follows authority (.authorityForm authority) []
  | withoutAuthority {t : Text} {target : Target} : target.authority? = none → Follows t target t

/-- After a scheme and its mark an authority is taken away up to its end. -/
theorem afterAuthority_absoluteForm {scheme authority rest : Text}
    (hscheme : ∀ c ∈ scheme, isSchemeChar c = true)
    (hauthority : ∀ c ∈ authority, endsAuthority c = false)
    (hrest : ∀ c, rest.head? = some c → endsAuthority c = true) :
    afterAuthority (scheme ++ (schemeMark ++ (authority ++ rest))) = rest := by
  have hstart : ¬ ((scheme ++ (schemeMark ++ (authority ++ rest))).head? = some '/'
      ∨ scheme ++ (schemeMark ++ (authority ++ rest)) = ['*']) := by
    rintro (hslash | hstar)
    · cases scheme with
      | nil => simp [schemeMark] at hslash
      | cons c scheme =>
          obtain rfl := Option.some.inj hslash
          exact absurd (hscheme '/' List.mem_cons_self) (by decide)
    · have hlength := congrArg List.length hstar
      simp [schemeMark] at hlength
      omega
  have hafter : Text.after? schemeMark (scheme ++ (schemeMark ++ (authority ++ rest)))
      = some (authority ++ rest) :=
    Text.after?_append (notMem_scheme hscheme (by decide))
  rw [afterAuthority, if_neg hstart, hafter]
  exact dropWhile_authority hauthority hrest

/-- After an authority alone nothing follows. -/
theorem afterAuthority_authorityForm {authority : Text}
    (hauthority : ∀ c ∈ authority, endsAuthority c = false) (hstar : authority ≠ ['*']) :
    afterAuthority authority = [] := by
  have hslash : '/' ∉ authority := by
    intro hmem
    exact absurd (hauthority '/' hmem) (by decide)
  have hstart : ¬ (authority.head? = some '/' ∨ authority = ['*']) := by
    rintro (hhead | heq)
    · exact hslash (List.mem_of_head? hhead)
    · exact hstar heq
  have hnone : Text.after? schemeMark authority = none :=
    Text.after?_eq_none (c := '/') (by decide) hslash
  rw [afterAuthority, if_neg hstart, hnone]

/-- **A text that is read is cut into the path and the query of its target.** -/
theorem follows_afterAuthority {t : Text} {target : Target} (h : parse t = .ok target) :
    Follows t target (afterAuthority t) ∧ writtenPath t = target.literalPath
      ∧ writtenQuery t = target.queryText := by
  rw [writtenPath, writtenQuery]
  cases spells_of_parse h with
  | @originForm _ path query hslash hpath =>
      have hall : afterAuthority t = t := if_pos (.inl (hpath.head?_eq_slash_iff.1 hslash))
      rw [hall, hpath.cut_eq]
      exact ⟨.withoutAuthority rfl, rfl, rfl⟩
  | @absoluteForm scheme authority rest path query hscheme hauthority hslash hpath =>
      rw [afterAuthority_absoluteForm hscheme hauthority.2 fun c hc => hpath.head?_ends hslash hc,
        hpath.cut_eq]
      exact ⟨.absoluteForm, rfl, rfl⟩
  | authorityForm hauthority =>
      -- the asterisk could be an authority, and is read before as what it is
      have hstar : t ≠ ['*'] := by
        rintro rfl
        rw [parse_asterisk] at h
        cases h
      rw [afterAuthority_authorityForm hauthority.2 hstar]
      exact ⟨.authorityForm, rfl, rfl⟩
  | asteriskForm => exact ⟨.withoutAuthority rfl, rfl, rfl⟩

/-- What stands in no path stands neither in a path as it is written nor in one that is sent. -/
theorem notMem_path_of_parse {t : Text} {target : Target} (h : parse t = .ok target) {c : Char}
    (hc : isPathChar c = false) : c ∉ writtenPath t ∧ c ∉ target.requestPath := by
  rw [(follows_afterAuthority h).2.1]
  exact ⟨notMem_path (isPathChar_of_mem_literalPath h) hc,
    notMem_path (isPathChar_of_mem_requestPath h) hc⟩

/-- The path as it is written is empty exactly where nothing follows the authority before the
query, the fragment or the end. -/
theorem writtenPath_eq_nil_iff {t : Text} :
    writtenPath t = [] ↔ afterAuthority t = [] ∨ (afterAuthority t).head? = some '?'
      ∨ (afterAuthority t).head? = some '#' := by
  rw [writtenPath, Text.cut, dropFragment]
  cases afterAuthority t with
  | nil => simp
  | cons c rest =>
      by_cases hhash : c = '#'
      · simp [hhash]
      · by_cases hquestion : c = '?'
        · simp [hquestion]
        · simp [hhash, hquestion]

end Target

namespace Resource

theorem ofUrl_eq_written {url : Text} {target : Target} (h : Target.parse url = .ok target)
    (account : Text) (variant : Variant) :
    ofUrl url account variant
      = build (Target.writtenPath url) (Target.writtenQuery url) account variant := by
  obtain ⟨-, hpath, hquery⟩ := Target.follows_afterAuthority h
  rw [ofUrl_eq_build h, hpath, hquery]

/-- A target that has been read is signed with the query as it is written, and with the path that a
request line sends. -/
theorem ofTarget_eq_written {url : Text} {target : Target} (h : Target.parse url = .ok target)
    (account : Text) (variant : Variant) :
    ofTarget target account variant
      = build target.requestPath (Target.writtenQuery url) account variant := by
  rw [ofTarget, (Target.follows_afterAuthority h).2.2]

/-- **The resource of a url is built of the path and the query as they are written.** -/
theorem ofUrl_eq_build_written {url : Text} {target : Target} (h : Target.parse url = .ok target)
    (account : Text) (variant : Variant) :
    Target.Follows url target (Target.afterAuthority url)
    ∧ ofUrl url account variant
      = build (Target.writtenPath url) (Target.writtenQuery url) account variant
    ∧ (∀ resource, ofUrl url account variant = .ok resource →
      ∃ rest, resource
        = '/' :: Credential.canonicalName account ++ Target.writtenPath url ++ rest)
    ∧ (Target.writtenPath url = [] ↔ Target.afterAuthority url = []
      ∨ (Target.afterAuthority url).head? = some '?' ∨ (Target.afterAuthority url).head? = some '#')
    ∧ ∀ url' target', Target.parse url' = .ok target' →
      Target.dropFragment (Target.afterAuthority url')
        = Target.dropFragment (Target.afterAuthority url) →
      ofUrl url' account variant = ofUrl url account variant := by
  refine ⟨(Target.follows_afterAuthority h).1, ofUrl_eq_written h account variant, ?_,
    Target.writtenPath_eq_nil_iff, ?_⟩
  · intro resource hresource
    rw [ofUrl_eq_written h] at hresource
    obtain ⟨parameters, -, rfl⟩ := build_eq_ok_iff.1 hresource
    exact ⟨tail parameters variant, rfl⟩
  · intro url' target' h' hsame
    rw [ofUrl_eq_written h, ofUrl_eq_written h', Target.writtenPath, Target.writtenQuery, hsame]
    rfl

/-- Two urls with a query where a path could be, which differ in scheme, authority and fragment. -/
theorem ofUrl_eq_build_written_query_only :
    Target.parse "Ht+p://u%40x@[::1]:80?a=/b://c#d?e".toList
        = .ok (.absoluteForm "Ht+p".toList "u%40x@[::1]:80".toList [] (some "a=/b://c".toList))
      ∧ ofUrl "Ht+p://u%40x@[::1]:80?a=/b://c#d?e".toList "a".toList .sharedKey
        = build [] "a=/b://c".toList "a".toList .sharedKey
      ∧ ofUrl "x://y?a=/b://c".toList "a".toList .sharedKey
        = ofUrl "Ht+p://u%40x@[::1]:80?a=/b://c#d?e".toList "a".toList .sharedKey := by
  have hparse : Target.parse "Ht+p://u%40x@[::1]:80?a=/b://c#d?e".toList
      = .ok (.absoluteForm "Ht+p".toList "u%40x@[::1]:80".toList [] (some "a=/b://c".toList)) := by
    decide +kernel
  have hparse' : Target.parse "x://y?a=/b://c".toList
      = .ok (.absoluteForm "x".toList "y".toList [] (some "a=/b://c".toList)) := by
    decide +kernel
  obtain ⟨-, hbuild, -, -, hsame⟩ := ofUrl_eq_build_written hparse "a".toList .sharedKey
  have hpath : Target.writtenPath "Ht+p://u%40x@[::1]:80?a=/b://c#d?e".toList = [] := by
    decide +kernel
  have hquery : Target.writtenQuery "Ht+p://u%40x@[::1]:80?a=/b://c#d?e".toList
      = "a=/b://c".toList := by
    decide +kernel
  rw [hpath, hquery] at hbuild
  exact ⟨hparse, hbuild, hsame _ _ hparse' (by decide +kernel)⟩

end Resource

namespace Target

/-! ### Schemes that are kept -/

theorem keptScheme_eq_or (scheme : Text) :
    keptScheme scheme = scheme
      ∨ keptScheme scheme ∈ commonSchemes ∧ keptScheme scheme = scheme.map Char.toLower := by
  rw [keptScheme]
  split
  · next hcommon => exact .inr ⟨List.contains_iff_mem.1 hcommon, rfl⟩
  · exact .inl rfl

theorem length_keptScheme (scheme : Text) : (keptScheme scheme).length = scheme.length := by
  rcases keptScheme_eq_or scheme with heq | ⟨-, heq⟩
  · rw [heq]
  · rw [heq, List.length_map]

/-- A scheme that has been kept is kept as it is. -/
theorem keptScheme_keptScheme (scheme : Text) :
    keptScheme (keptScheme scheme) = keptScheme scheme := by
  have hcommon : ∀ s ∈ commonSchemes, keptScheme s = s := by decide
  rcases keptScheme_eq_or scheme with heq | ⟨hmem, -⟩
  · rw [heq, heq]
  · exact hcommon _ hmem

theorem isSchemeChar_of_mem_keptScheme {scheme : Text} (h : ∀ c ∈ scheme, isSchemeChar c = true) :
    ∀ c ∈ keptScheme scheme, isSchemeChar c = true := by
  have hcommon : commonSchemes.all (·.all isSchemeChar) = true := by decide
  rcases keptScheme_eq_or scheme with heq | ⟨hmem, -⟩
  · rw [heq]
    exact h
  · exact List.all_eq_true.1 (List.all_eq_true.1 hcommon _ hmem)

/-! ### What has been checked of a url -/

/-- The scheme of a text is not too long. -/
theorem length_le_of_splitScheme {t rest scheme : Text}
    (h : splitScheme t = .ok (some scheme, rest)) : scheme.length ≤ maxScheme := by
  rw [splitScheme] at h
  split at h
  · split at h
    · cases h
    · next hlong =>
        obtain ⟨hkept, -⟩ := Prod.mk.inj (Except.ok.inj h)
        obtain rfl := Option.some.inj hkept
        rw [length_keptScheme]
        exact Nat.not_lt.1 hlong
  · cases (Prod.mk.inj (Except.ok.inj h)).1

/-- A url that is read has a scheme that is not too long and an authority that can stand. -/
theorem checks_of_parseWithAuthority {t scheme authority path : Text} {query : Option Text}
    (h : parseWithAuthority t = .ok (.absoluteForm scheme authority path query)) :
    scheme.length ≤ maxScheme ∧ checkAuthority authority = .ok () := by
  unfold parseWithAuthority at h
  split at h
  · cases h
  · next scheme' afterScheme hscheme =>
      simp only at h
      split at h
      · cases h
      · split at h
        · cases h
        · split at h
          · cases Except.ok.inj h
          · cases h
        · next hcheck =>
            split at h
            · cases h
            · obtain ⟨⟨path', query'⟩, -, heq⟩ := Fallible.map_eq_ok_iff.1 h
              cases heq
              exact ⟨length_le_of_splitScheme hscheme, hcheck⟩

theorem checks_of_parse {t scheme authority path : Text} {query : Option Text}
    (h : parse t = .ok (.absoluteForm scheme authority path query)) :
    scheme.length ≤ maxScheme ∧ checkAuthority authority = .ok () := by
  unfold parse at h
  split at h
  · cases h
  · split at h
    · cases h
    · cases Except.ok.inj h
    · cases h
    · cases h
    · obtain ⟨_, -, heq⟩ := Fallible.map_eq_ok_iff.1 h
      cases heq
    · exact checks_of_parseWithAuthority h

/-! ### Reading what is made up of the parts of a target -/

/-- A path with a query is read from its text. -/
theorem SpellsPathQuery.parsePathQuery_eq {t path : Text} {query : Option Text}
    (h : SpellsPathQuery t path query) : parsePathQuery t = .ok (path, query) := by
  have hcut := h.cut_eq
  obtain ⟨_, _, _, hpath, hquery⟩ := h
  have hchars : (path.all isPathChar && (query.getD []).all isQueryChar) = true := by
    rw [Bool.and_eq_true, List.all_eq_true, List.all_eq_true]
    exact ⟨hpath, hquery⟩
  simp only [parsePathQuery, hcut, hchars, if_true]

/-- A scheme is found before its mark. -/
theorem splitScheme_append_mark {scheme after : Text}
    (hscheme : ∀ c ∈ scheme, isSchemeChar c = true) (hlong : scheme.length ≤ maxScheme)
    (hafter : after ≠ []) :
    splitScheme (scheme ++ (schemeMark ++ after)) = .ok (some (keptScheme scheme), after) := by
  have htake : (scheme ++ (schemeMark ++ after)).takeWhile isSchemeChar = scheme := by
    rw [List.takeWhile_append_of_pos hscheme]
    exact List.append_nil scheme
  have hdrop : (scheme ++ (schemeMark ++ after)).dropWhile isSchemeChar = schemeMark ++ after := by
    rw [List.dropWhile_append_of_pos hscheme]
    rfl
  have hmark : schemeMark.isPrefixOf (schemeMark ++ after)
      ∧ schemeMark.length < (scheme ++ (schemeMark ++ after)).length := by
    refine ⟨List.isPrefixOf_iff_prefix.2 (List.prefix_append _ _), ?_⟩
    have hpos := List.length_pos_iff.2 hafter
    rw [List.length_append, List.length_append]
    omega
  rw [splitScheme, htake, hdrop, if_pos hmark, if_neg (Nat.not_lt.2 hlong), List.drop_left]

variable {scheme authority rest path : Text} {query : Option Text}

theorem parseWithAuthority_absoluteForm (hscheme : ∀ c ∈ scheme, isSchemeChar c = true)
    (hlong : scheme.length ≤ maxScheme) (hauthority : IsAuthority authority)
    (hcheck : checkAuthority authority = .ok ()) (hslash : path = [] ∨ path.head? = some '/')
    (hpath : SpellsPathQuery rest path query) :
    parseWithAuthority (scheme ++ (schemeMark ++ (authority ++ rest)))
      = .ok (.absoluteForm (keptScheme scheme) authority path query) := by
  obtain ⟨hne, hchars⟩ := hauthority
  have hafter : authority ++ rest ≠ [] := List.append_ne_nil_of_left_ne_nil hne rest
  have hends : ∀ c, rest.head? = some c → endsAuthority c = true :=
    fun c hc => hpath.head?_ends hslash hc
  have hdrop := dropWhile_authority hchars hends
  have htake := takeWhile_authority hchars hends
  unfold parseWithAuthority
  rw [splitScheme_append_mark hscheme hlong hafter]
  simp only [hdrop, htake, hcheck, List.isEmpty_iff, hafter, hne, if_false,
    hpath.parsePathQuery_eq]
  rfl

/-- **A text that is made up of the parts of a url is read as that url.** -/
theorem parse_absoluteForm (hscheme : ∀ c ∈ scheme, isSchemeChar c = true)
    (hlong : scheme.length ≤ maxScheme) (hauthority : IsAuthority authority)
    (hcheck : checkAuthority authority = .ok ()) (hslash : path = [] ∨ path.head? = some '/')
    (hpath : SpellsPathQuery rest path query)
    (hbytes : Text.byteLength (scheme ++ (schemeMark ++ (authority ++ rest))) ≤ maxBytes) :
    parse (scheme ++ (schemeMark ++ (authority ++ rest)))
      = .ok (.absoluteForm (keptScheme scheme) authority path query) := by
  have hread := parseWithAuthority_absoluteForm hscheme hlong hauthority hcheck hslash hpath
  -- reading looks at the first character, which without a scheme is that of its mark
  cases scheme with
  | nil =>
      rw [← hread]
      exact parse_cons_of_ne_slash (by decide) (List.cons_ne_nil _ _) (Nat.not_lt.2 hbytes)
  | cons c scheme =>
      have hc : c ≠ '/' := by
        rintro rfl
        exact absurd (hscheme '/' List.mem_cons_self) (by decide)
      rw [← hread]
      refine parse_cons_of_ne_slash hc ?_ (Nat.not_lt.2 hbytes)
      exact List.append_ne_nil_of_right_ne_nil _ (List.cons_ne_nil _ _)

/-! ### Printed targets -/

/-- The target with the root for a path that is missing after an authority with a scheme. -/
def withRoot : Target → Target
  | .absoluteForm scheme authority [] query => .absoluteForm scheme authority ['/'] query
  | target => target

/-- A url whose authority is directly followed by a question mark and this query. -/
def QueryAtAuthority (target : Target) (query : Text) : Prop :=
  ∃ scheme authority, target = .absoluteForm scheme authority [] (some query)

theorem queryText_withRoot (target : Target) : target.withRoot.queryText = target.queryText := by
  unfold withRoot
  split
  · rfl
  · rfl

/-- The root is the path of a request line, except before a query. -/
theorem literalPath_withRoot (target : Target) :
    target.withRoot.literalPath = target.requestPath
      ∨ ∃ query, target.QueryAtAuthority query := by
  match target with
  | .absoluteForm scheme authority [] none => exact .inl rfl
  | .absoluteForm scheme authority [] (some query) => exact .inr ⟨query, scheme, authority, rfl⟩
  | .absoluteForm _ _ (_ :: _) _ => exact .inl rfl
  | .originForm _ _ => exact .inl rfl
  | .authorityForm _ => exact .inl rfl
  | .asteriskForm => exact .inl rfl

/-- A printed path and query have no fragment. -/
theorem SpellsPathQuery.displayed {t path : Text} {query : Option Text}
    (h : SpellsPathQuery t path query) :
    SpellsPathQuery (path ++ displayQuery query) path query := by
  obtain ⟨_, -, -, hchars⟩ := h
  exact ⟨[], (List.append_nil _).symm, .inl rfl, hchars⟩

/-- Where a path is missing, so have a printed root and query. -/
theorem SpellsPathQuery.displayed_root {t : Text} {query : Option Text}
    (h : SpellsPathQuery t [] query) :
    SpellsPathQuery (['/'] ++ displayQuery query) ['/'] query := by
  obtain ⟨_, -, -, -, hquery⟩ := h
  exact ⟨[], (List.append_nil _).symm, .inl rfl, List.forall_mem_singleton.2 (by decide), hquery⟩

theorem display_absoluteForm (scheme authority path : Text) (query : Option Text) :
    (Target.absoluteForm scheme authority path query).display
      = scheme ++ (schemeMark ++ (authority
        ++ ((if path.isEmpty then ['/'] else path) ++ displayQuery query))) := by
  simp only [display, schemeMark, List.append_assoc]

/-- **The printed text of a target is read as the target with its root.** -/
theorem parse_display {t : Text} {target : Target} (h : parse t = .ok target)
    (hbytes : Text.byteLength target.display ≤ maxBytes) :
    parse target.display = .ok target.withRoot := by
  cases spells_of_parse h with
  | @originForm _ path query hslash hpath =>
      obtain ⟨rest, rfl⟩ := List.head?_eq_some_iff.1 hslash
      have hread := parse_slash (t := rest ++ displayQuery query) (Nat.not_lt.2 hbytes)
      rw [← List.cons_append, hpath.displayed.parsePathQuery_eq] at hread
      exact hread
  | @absoluteForm scheme authority rest path query hscheme hauthority hslash hpath =>
      obtain ⟨hlong, hcheck⟩ := checks_of_parse h
      rw [display_absoluteForm] at hbytes ⊢
      have hkept := isSchemeChar_of_mem_keptScheme hscheme
      cases path with
      | nil =>
          have hread := parse_absoluteForm hkept hlong hauthority hcheck (.inr rfl)
            hpath.displayed_root hbytes
          rwa [keptScheme_keptScheme] at hread
      | cons c path =>
          have hread := parse_absoluteForm hkept hlong hauthority hcheck hslash hpath.displayed
            hbytes
          rwa [keptScheme_keptScheme] at hread
  | authorityForm => exact h
  | asteriskForm => exact h

end Target

namespace Resource

variable {t : Text} {target : Target}

/-- The printed text of a target has the resource of the target with its root. -/
theorem ofUrl_display (h : Target.parse t = .ok target)
    (hbytes : Text.byteLength target.display ≤ Target.maxBytes) (account : Text)
    (variant : Variant) :
    ofUrl target.display account variant
      = build target.withRoot.literalPath target.queryText account variant := by
  rw [ofUrl_eq_build (Target.parse_display h hbytes), Target.queryText_withRoot]

/-- Where a query directly follows the authority and is accepted, the printed text has one slash
more. -/
theorem exists_rest_of_queryAtAuthority (h : Target.parse t = .ok target)
    (hbytes : Text.byteLength target.display ≤ Target.maxBytes) {query : Text}
    {parameters : Query.Parameters} (hat : target.QueryAtAuthority query)
    (hquery : Query.parse query = .ok parameters) (account : Text) (variant : Variant) :
    ∃ rest, ofTarget target account variant = .ok ('/' :: Credential.canonicalName account ++ rest)
      ∧ ofUrl target.display account variant
        = .ok ('/' :: Credential.canonicalName account ++ '/' :: rest) := by
  refine ⟨tail parameters variant, ?_, ?_⟩
  · obtain ⟨scheme, authority, rfl⟩ := hat
    rw [ofTarget]
    refine (build_eq_of_parse hquery [] account variant).trans ?_
    rw [List.append_nil]
  · rw [ofUrl_display h hbytes]
    obtain ⟨scheme, authority, rfl⟩ := hat
    refine (build_eq_of_parse hquery ['/'] account variant).trans ?_
    rw [List.append_assoc]
    rfl

/-- **Signing a target and signing its printed text agree, in the resource or in the error, except
where a query directly follows the authority and is accepted; there the printed text has a slash
after the name of the account, and is the same otherwise.** -/
theorem ofUrl_display_eq_iff (h : Target.parse t = .ok target)
    (hbytes : Text.byteLength target.display ≤ Target.maxBytes) (account : Text)
    (variant : Variant) :
    (ofUrl target.display account variant = ofTarget target account variant
      ↔ ¬ ∃ query parameters, target.QueryAtAuthority query ∧ Query.parse query = .ok parameters)
    ∧ ∀ query parameters, target.QueryAtAuthority query → Query.parse query = .ok parameters →
      ∃ rest,
        ofTarget target account variant = .ok ('/' :: Credential.canonicalName account ++ rest)
        ∧ ofUrl target.display account variant
          = .ok ('/' :: Credential.canonicalName account ++ '/' :: rest) := by
  refine ⟨⟨?_, fun hexcept => ?_⟩, fun query parameters hat hquery =>
    exists_rest_of_queryAtAuthority h hbytes hat hquery account variant⟩
  · rintro hsame ⟨query, parameters, hat, hquery⟩
    obtain ⟨rest, htarget, hurl⟩ :=
      exists_rest_of_queryAtAuthority h hbytes hat hquery account variant
    rw [htarget, hurl] at hsame
    have hlength := congrArg List.length (List.append_cancel_left (Except.ok.inj hsame))
    rw [List.length_cons] at hlength
    omega
  · rw [ofUrl_display h hbytes]
    rcases target.literalPath_withRoot with hpath | ⟨query, hat⟩
    · rw [hpath]
      rfl
    · cases hparse : Query.parse query with
      | ok parameters => exact absurd ⟨query, parameters, hat, hparse⟩ hexcept
      | error e =>
          -- the path does not matter where the query is refused
          obtain ⟨scheme, authority, rfl⟩ := hat
          have hbuild : ∀ path, build path query account variant = .error e := by
            intro path
            rw [build, hparse]
          exact (hbuild ['/']).trans (hbuild []).symm

/-- Two urls without a path, one with a query and one without. -/
theorem ofUrl_display_eq_iff_without_path :
    (∃ target, Target.parse "HTTP://h?comp=%41#f".toList = .ok target
      ∧ Text.byteLength target.display ≤ Target.maxBytes
      ∧ target.display = "http://h/?comp=%41".toList
      ∧ ∃ rest, ofTarget target "a".toList .sharedKey = .ok ("/a".toList ++ rest)
        ∧ ofUrl target.display "a".toList .sharedKey = .ok ("/a".toList ++ '/' :: rest))
    ∧ ∃ target, Target.parse "x://h#f".toList = .ok target
      ∧ Text.byteLength target.display ≤ Target.maxBytes
      ∧ target.display = "x://h/".toList
      ∧ ofUrl target.display "a".toList .sharedKey = ofTarget target "a".toList .sharedKey := by
  constructor
  · have hparse : Target.parse "HTTP://h?comp=%41#f".toList
        = .ok (.absoluteForm "http".toList "h".toList [] (some "comp=%41".toList)) := by
      decide +kernel
    have hbytes : Text.byteLength (Target.absoluteForm "http".toList "h".toList []
        (some "comp=%41".toList)).display ≤ Target.maxBytes := by
      decide +kernel
    have hquery : Query.parse "comp=%41".toList = .ok [(compName, ['A'])] := by decide +kernel
    exact ⟨_, hparse, hbytes, by decide +kernel,
      (ofUrl_display_eq_iff hparse hbytes "a".toList .sharedKey).2 _ _ ⟨_, _, rfl⟩ hquery⟩
  · have hparse : Target.parse "x://h#f".toList
        = .ok (.absoluteForm "x".toList "h".toList [] none) := by
      decide +kernel
    have hbytes : Text.byteLength (Target.absoluteForm "x".toList "h".toList [] none).display
        ≤ Target.maxBytes := by
      decide +kernel
    refine ⟨_, hparse, hbytes, by decide +kernel,
      (ofUrl_display_eq_iff hparse hbytes "a".toList .sharedKey).1.2 ?_⟩
    rintro ⟨query, parameters, ⟨scheme, authority, heq⟩, -⟩
    cases heq

end Resource

end SharedKey
