/-
**What is taken over of a query, and what a resource tells of its url.**

Shared Key signs the parameters of a query as a table: every name once, in ascending order, with all
its values in ascending order.  The table is a rearrangement of the parameters.  No parameter is
lost or written twice, and no value comes to stand under another name; so names that are repeated,
empty or written in several spellings need no care beyond decoding.

An entry of the table stands in a line with a colon after its name and commas between its values.
Where no name holds a colon, no value a comma, and neither a newline, all of that can be read back.
A path holds no newline, since no url does.  So two urls with one resource have one path, and their
queries give the same names with the same values as often; an empty value, two of them and none at
all are told from each other.

The other variants take over one value at most: the first that is given for `comp`.  It stands
behind the path and a question mark.  No path holds a question mark, so the first one ends the path,
whatever characters the value has: a value that holds question marks, slashes or newlines itself is
not mistaken for anything else.  And a resource without a value has no question mark at all, which
tells a missing value from an empty one.

Main definitions:

* `Query.pairsOf` — the parameters in a table;
* `Query.Tabulates` — the tables of given parameters;
* `Query.table` — the table that is signed;
* `Resource.entryLine` — the line of an entry;
* `Query.Plain` — parameters without the characters that separate them;
* `Query.SameValues` — parameters with the same names, and the same values of each;
* `Resource.readEntry` — the entry of a line;
* `Query.firstValue?` — the first value that is given for a name;
* `Resource.writeComp` — what such a value is written as.

Main results:

* `Query.flatMap_filter_perm` — parameters that are grouped by their names are rearranged;
* `Query.tabulates_table` — **the signed table is a table of the parameters**;
* `Resource.build_eq_tabulated` — **the resource of a query is its path with the lines of a table**;
* `Query.table_eq_iff` — two tables are equal exactly when the parameters are the same;
* `Resource.readEntry_entryLine` — **an entry is read back from its line**;
* `Resource.append_tail_eq_iff` — path and parameters are read back from a resource;
* `Resource.ofUrl_eq_iff_sameValues` — **two urls have one resource exactly when their paths and the
  values of their parameters are the same**;
* `Resource.tail_of_ne_sharedKey` — the other variants write that value and nothing else;
* `Resource.cut_append_writeComp` — **path and value are read back from a resource**;
* `Resource.ofUrl_eq_iff_sameComp` — **two urls have one resource exactly when their paths and the
  first values of `comp` are the same**.
-/

import Mathlib.Data.List.Perm.Basic
import SharedKey.Proofs.QueryOrder

set_option relaxedAutoImplicit false
set_option autoImplicit false

namespace SharedKey

namespace Query

/-! ### Names and values -/

theorem mem_names {parameters : Parameters} {name : Text} :
    name ∈ names parameters ↔ ∃ value, (name, value) ∈ parameters := by
  rw [names, List.mem_eraseDups, List.mem_map]
  constructor
  · rintro ⟨⟨n, value⟩, hmem, rfl⟩
    exact ⟨value, hmem⟩
  · rintro ⟨value, hmem⟩
    exact ⟨(name, value), hmem, rfl⟩

theorem valuesOf_ne_nil_iff {parameters : Parameters} {name : Text} :
    valuesOf parameters name ≠ [] ↔ name ∈ names parameters := by
  simp [valuesOf, mem_names, List.filter_eq_nil_iff]

/-- The values of a name with the name before each are its parameters. -/
theorem map_valuesOf (parameters : Parameters) (name : Text) :
    (valuesOf parameters name).map (name, ·)
      = parameters.filter fun parameter => parameter.1 = name := by
  rw [valuesOf, List.map_map]
  refine (List.map_congr_left ?_).trans (List.map_id _)
  intro parameter hparameter
  have hname : parameter.1 = name := of_decide_eq_true (List.mem_filter.1 hparameter).2
  rw [Function.comp_apply, ← hname, id_eq]

/-- A name finds all its parameters among those of the names other than `key`, when it is one of
these. -/
theorem filter_filter_of_ne {name key : Text} (h : name ≠ key) (parameters : Parameters) :
    (parameters.filter fun parameter => !decide (parameter.1 = key)).filter
        (fun parameter => parameter.1 = name)
      = parameters.filter fun parameter => parameter.1 = name := by
  rw [List.filter_filter]
  refine List.filter_congr fun parameter _ => ?_
  by_cases heq : parameter.1 = name
  · simp [heq, h]
  · simp [heq]

/-- Parameters that are grouped by their names are rearranged. -/
theorem flatMap_filter_perm {keys : List Text} (hkeys : keys.Nodup) {parameters : Parameters}
    (hall : ∀ parameter ∈ parameters, parameter.1 ∈ keys) :
    (keys.flatMap fun name => parameters.filter fun parameter => parameter.1 = name).Perm
      parameters := by
  induction keys generalizing parameters with
  | nil =>
      cases parameters with
      | nil => exact .refl _
      | cons parameter parameters => exact absurd (hall _ List.mem_cons_self) List.not_mem_nil
  | cons key keys ih =>
      obtain ⟨hkey, hkeys⟩ := List.nodup_cons.1 hkeys
      -- the other names are grouped among the parameters that do not have the first one
      have hothers : ∀ parameter ∈ parameters.filter fun parameter => !decide (parameter.1 = key),
          parameter.1 ∈ keys := by
        intro parameter hparameter
        obtain ⟨hmem, hne⟩ := List.mem_filter.1 hparameter
        exact (List.mem_cons.1 (hall parameter hmem)).resolve_left (by simpa using hne)
      have hne : ∀ name ∈ keys, name ≠ key := by
        rintro name hname rfl
        exact hkey hname
      have hrest := ih hkeys hothers
      rw [List.flatMap_congr fun name hname => filter_filter_of_ne (hne name hname) parameters]
        at hrest
      rw [List.flatMap_cons]
      exact (hrest.append_left _).trans
        (List.filter_append_perm (fun parameter => decide (parameter.1 = key)) parameters)

/-! ### Tables -/

/-- The parameters in a table. -/
def pairsOf (table : List (Text × List Text)) : Parameters :=
  table.flatMap fun entry => entry.2.map (entry.1, ·)

/-- A table of parameters lists every name once and in ascending order, with its values in ascending
order, and holds the parameters as often as they are given. -/
structure Tabulates (table : List (Text × List Text)) (parameters : Parameters) : Prop where
  names_ascending : (table.map Prod.fst).Pairwise fun a b => Text.le a b = true ∧ a ≠ b
  mem_names : ∀ name, name ∈ table.map Prod.fst ↔ ∃ value, (name, value) ∈ parameters
  values_ascending : ∀ entry ∈ table, entry.2.Pairwise fun a b => Text.le a b = true
  pairs_perm : (pairsOf table).Perm parameters

/-- The table that is signed. -/
def table (parameters : Parameters) : List (Text × List Text) :=
  ((names parameters).mergeSort Text.le).map fun name =>
    (name, (valuesOf parameters name).mergeSort Text.le)

theorem map_fst_table (parameters : Parameters) :
    (table parameters).map Prod.fst = (names parameters).mergeSort Text.le := by
  rw [table, List.map_map]
  exact List.map_id _

theorem mem_map_fst_table {parameters : Parameters} {name : Text} :
    name ∈ (table parameters).map Prod.fst ↔ name ∈ names parameters := by
  rw [map_fst_table, List.mem_mergeSort]

/-- The signed table holds the parameters. -/
theorem pairsOf_table_perm (parameters : Parameters) :
    (pairsOf (table parameters)).Perm parameters := by
  have hnodup : ((names parameters).mergeSort Text.le).Nodup :=
    (List.mergeSort_perm _ _).nodup_iff.2 (nodup_eraseDups _)
  have hall : ∀ parameter ∈ parameters,
      parameter.1 ∈ (names parameters).mergeSort Text.le := by
    intro parameter hparameter
    rw [List.mem_mergeSort, mem_names]
    exact ⟨parameter.2, hparameter⟩
  rw [pairsOf, table, List.flatMap_map]
  refine (List.Perm.flatMap_left _ fun name _ => ?_).trans (flatMap_filter_perm hnodup hall)
  rw [← map_valuesOf]
  exact (List.mergeSort_perm _ _).map _

/-- **The signed table is a table of the parameters.** -/
theorem tabulates_table (parameters : Parameters) : Tabulates (table parameters) parameters where
  names_ascending := by
    rw [map_fst_table]
    exact (Text.linearLe.pairwise_mergeSort _).and
      ((List.mergeSort_perm _ _).nodup_iff.2 (nodup_eraseDups _))
  mem_names name := by rw [mem_map_fst_table, mem_names]
  values_ascending entry hentry := by
    obtain ⟨name, -, rfl⟩ := List.mem_map.1 hentry
    exact Text.linearLe.pairwise_mergeSort _
  pairs_perm := pairsOf_table_perm parameters

/-- The parameters of a query that is read are those of its segments. -/
theorem exists_parse_eq_ok {query : Text} (h : ¬ Spoiled query) :
    ∃ parameters, parse query = .ok parameters
      ∧ (segments query).map decodeSegment = parameters.map Except.ok := by
  cases hparse : parse query with
  | error e => exact absurd (exists_parse_eq_error_iff.1 ⟨e, hparse⟩) h
  | ok parameters =>
      exact ⟨parameters, rfl, Fallible.mapM_eq_ok_iff.1 (parse_eq_ok_iff.1 hparse).2.2⟩

end Query

namespace Resource

/-! ### The lines of a table -/

/-- The line of an entry: its name, and its values between commas. -/
def entryLine (entry : Text × List Text) : Text := entry.1 ++ ':' :: Text.join [','] entry.2

theorem parameterLines_eq (parameters : Query.Parameters) :
    parameterLines parameters = (Query.table parameters).map entryLine := by
  rw [parameterLines, Query.table, List.map_map]
  rfl

/-- **The resource of a query is its path with the lines of a table.** -/
theorem build_eq_tabulated {query : Text} (h : ¬ Query.Spoiled query) (path account : Text) :
    ∃ parameters table,
      (Query.segments query).map Query.decodeSegment = parameters.map Except.ok
        ∧ Query.Tabulates table parameters
        ∧ build path query account .sharedKey
          = .ok ('/' :: Credential.canonicalName account ++ path
            ++ if Query.segments query = [] then []
              else '\n' :: Text.join ['\n'] (table.map entryLine)) := by
  obtain ⟨parameters, hparse, hsegments⟩ := Query.exists_parse_eq_ok h
  have hempty : parameters.isEmpty = true ↔ Query.segments query = [] := by
    have hlength := congrArg List.length hsegments
    rw [List.length_map, List.length_map] at hlength
    rw [List.isEmpty_iff, ← List.length_eq_zero_iff, ← hlength, List.length_eq_zero_iff]
  refine ⟨parameters, Query.table parameters, hsegments, Query.tabulates_table parameters, ?_⟩
  rw [build_eq_of_parse hparse, tail, parameterLines_eq]
  simp only [hempty]

/-- A query with a name in two spellings, an empty name, a segment that says nothing and a parameter
that is given twice. -/
def twoSpellings : Text := "b=2&%62=1&&=x&b=2".toList

theorem build_eq_tabulated_two_spellings :
    ¬ Query.Spoiled twoSpellings
      ∧ ∃ table, Query.Tabulates table
          [(['b'], ['2']), (['b'], ['1']), ([], ['x']), (['b'], ['2'])]
        ∧ build "/p".toList twoSpellings "acct".toList .sharedKey
          = .ok ('/' :: Credential.canonicalName "acct".toList ++ "/p".toList
            ++ '\n' :: Text.join ['\n'] (table.map entryLine)) := by
  have hsegments : (Query.segments twoSpellings).map Query.decodeSegment
      = [(['b'], ['2']), (['b'], ['1']), ([], ['x']), (['b'], ['2'])].map Except.ok := by
    decide +kernel
  have hne : Query.segments twoSpellings ≠ [] := by decide +kernel
  have hread : ¬ Query.Spoiled twoSpellings := by
    have hparse : Query.parse twoSpellings
        = .ok [(['b'], ['2']), (['b'], ['1']), ([], ['x']), (['b'], ['2'])] := by
      decide +kernel
    rw [← Query.exists_parse_eq_error_iff, hparse]
    rintro ⟨e, he⟩
    cases he
  obtain ⟨parameters, table, hmap, htable, hbuild⟩ :=
    build_eq_tabulated hread "/p".toList "acct".toList
  rw [hsegments] at hmap
  obtain rfl := List.map_injective_iff.2 (fun _ _ => Except.ok.inj) hmap
  rw [if_neg hne] at hbuild
  exact ⟨hread, table, htable, hbuild⟩

end Resource

/-! ### Parameters and their tables -/

namespace Query

variable {parameters parameters' : Parameters}

/-- No name holds a colon, no value a comma, and neither a newline. -/
def Plain (parameters : Parameters) : Prop :=
  ∀ parameter ∈ parameters, (':' ∉ parameter.1 ∧ '\n' ∉ parameter.1)
    ∧ ',' ∉ parameter.2 ∧ '\n' ∉ parameter.2

/-- The same names, and the same values of each, as often. -/
def SameValues (parameters parameters' : Parameters) : Prop :=
  ∀ name, (name ∈ names parameters ↔ name ∈ names parameters')
    ∧ (valuesOf parameters name).Perm (valuesOf parameters' name)

theorem sameValues_of_perm (h : parameters.Perm parameters') :
    SameValues parameters parameters' :=
  fun name => ⟨(names_perm h).mem_iff, valuesOf_perm h name⟩

/-- Two tables are equal exactly when the parameters are the same. -/
theorem table_eq_iff :
    table parameters = table parameters' ↔ SameValues parameters parameters' := by
  constructor
  · intro h
    have hpairs := pairsOf_table_perm parameters
    rw [h] at hpairs
    exact sameValues_of_perm (hpairs.symm.trans (pairsOf_table_perm parameters'))
  · intro h
    have hnames : (names parameters).Perm (names parameters') :=
      (List.perm_ext_iff_of_nodup (nodup_eraseDups _) (nodup_eraseDups _)).2 fun name => (h name).1
    rw [table, table, Text.linearLe.mergeSort_eq_iff.2 hnames]
    refine List.map_congr_left fun name _ => ?_
    rw [Text.linearLe.mergeSort_eq_iff.2 (h name).2]

end Query

/-! ### Reading a resource back -/

namespace Resource

/-- An entry that can be read back from its line. -/
structure PlainEntry (entry : Text × List Text) : Prop where
  colon_notMem : ':' ∉ entry.1
  newline_notMem : '\n' ∉ entry.1
  values_ne_nil : entry.2 ≠ []
  comma_notMem : ∀ value ∈ entry.2, ',' ∉ value
  newline_notMem_values : ∀ value ∈ entry.2, '\n' ∉ value

/-- The entry of a line. -/
def readEntry (line : Text) : Text × List Text :=
  ((Text.cut ':' line).1, ((Text.cut ':' line).2.getD []).splitOn ',')

/-- **An entry is read back from its line.** -/
theorem readEntry_entryLine {entry : Text × List Text} (h : PlainEntry entry) :
    readEntry (entryLine entry) = entry := by
  have hvalues : (Text.join [','] entry.2).splitOn ',' = entry.2 :=
    List.splitOn_intercalate ',' h.comma_notMem h.values_ne_nil
  rw [readEntry, entryLine, Text.cut_append_sep h.colon_notMem, Option.getD_some, hvalues]

theorem newline_notMem_entryLine {entry : Text × List Text} (h : PlainEntry entry) :
    '\n' ∉ entryLine entry := by
  rw [entryLine, List.mem_append, List.mem_cons]
  rintro (hname | hcolon | hvalues)
  · exact h.newline_notMem hname
  · exact absurd hcolon (by decide)
  · exact Text.notMem_join (by decide) h.newline_notMem_values hvalues

variable {parameters parameters' : Query.Parameters} {path path' : Text}

theorem plainEntry_of_mem_table (h : Query.Plain parameters) {entry : Text × List Text}
    (hentry : entry ∈ Query.table parameters) : PlainEntry entry := by
  have htable := Query.tabulates_table parameters
  have hname : entry.1 ∈ Query.names parameters :=
    Query.mem_map_fst_table.1 (List.mem_map_of_mem hentry)
  have hparameter : ∀ value ∈ entry.2, (entry.1, value) ∈ parameters := by
    intro value hvalue
    refine htable.pairs_perm.mem_iff.1 (List.mem_flatMap.2 ⟨entry, hentry, ?_⟩)
    exact List.mem_map_of_mem hvalue
  obtain ⟨value, hvalue⟩ := Query.mem_names.1 hname
  refine ⟨(h _ hvalue).1.1, (h _ hvalue).1.2, ?_, ?_, ?_⟩
  · obtain ⟨name, hmem, rfl⟩ := List.mem_map.1 hentry
    rw [List.mem_mergeSort] at hmem
    intro (hnil : (Query.valuesOf parameters name).mergeSort Text.le = [])
    have hperm := List.mergeSort_perm (Query.valuesOf parameters name) Text.le
    rw [hnil] at hperm
    exact Query.valuesOf_ne_nil_iff.2 hmem hperm.nil_eq.symm
  · exact fun value hvalue => (h _ (hparameter value hvalue)).2.1
  · exact fun value hvalue => (h _ (hparameter value hvalue)).2.2

/-- Path and table stand one below the other. -/
theorem append_tail_eq_join (path : Text) (parameters : Query.Parameters) :
    path ++ tail parameters .sharedKey
      = Text.join ['\n'] (path :: (Query.table parameters).map entryLine) := by
  rw [tail, parameterLines_eq]
  cases parameters with
  | nil => simp [Query.table, Query.names, Text.join]
  | cons parameter parameters =>
      have hne : (Query.table (parameter :: parameters)).map entryLine ≠ [] := by
        have hname : parameter.1 ∈ Query.names (parameter :: parameters) :=
          Query.mem_names.2 ⟨parameter.2, List.mem_cons_self⟩
        intro hnil
        rw [List.map_eq_nil_iff] at hnil
        rw [← Query.mem_map_fst_table, hnil] at hname
        cases hname
      rw [Text.join_cons_of_ne_nil _ _ hne, List.append_assoc]
      rfl

/-- Path and lines are read back from a resource. -/
theorem splitOn_append_tail (hpath : '\n' ∉ path) (h : Query.Plain parameters) :
    (path ++ tail parameters .sharedKey).splitOn '\n'
      = path :: (Query.table parameters).map entryLine := by
  rw [append_tail_eq_join]
  refine List.splitOn_intercalate '\n' ?_ (List.cons_ne_nil _ _)
  intro line hline
  rcases List.mem_cons.1 hline with rfl | hline
  · exact hpath
  · obtain ⟨entry, hentry, rfl⟩ := List.mem_map.1 hline
    exact newline_notMem_entryLine (plainEntry_of_mem_table h hentry)

theorem map_readEntry_map_entryLine (h : Query.Plain parameters) :
    ((Query.table parameters).map entryLine).map readEntry = Query.table parameters := by
  rw [List.map_map]
  refine (List.map_congr_left fun entry hentry => ?_).trans (List.map_id _)
  exact readEntry_entryLine (plainEntry_of_mem_table h hentry)

/-- Path and parameters are read back from a resource. -/
theorem append_tail_eq_iff (hpath : '\n' ∉ path) (hpath' : '\n' ∉ path')
    (h : Query.Plain parameters) (h' : Query.Plain parameters') :
    path ++ tail parameters .sharedKey = path' ++ tail parameters' .sharedKey
      ↔ path = path' ∧ Query.SameValues parameters parameters' := by
  rw [← Query.table_eq_iff]
  constructor
  · intro heq
    have hsplit := congrArg (List.splitOn '\n') heq
    rw [splitOn_append_tail hpath h, splitOn_append_tail hpath' h', List.cons.injEq] at hsplit
    have hread := congrArg (List.map readEntry) hsplit.2
    rw [map_readEntry_map_entryLine h, map_readEntry_map_entryLine h'] at hread
    exact ⟨hsplit.1, hread⟩
  · rintro ⟨rfl, htable⟩
    rw [append_tail_eq_join, append_tail_eq_join, htable]

/-- Two resources are equal exactly when path and parameters are the same. -/
theorem exists_build_eq_iff {query query' : Text} (hquery : Query.parse query = .ok parameters)
    (hquery' : Query.parse query' = .ok parameters') (hpath : '\n' ∉ path) (hpath' : '\n' ∉ path')
    (h : Query.Plain parameters) (h' : Query.Plain parameters') (account : Text) :
    ∃ resource resource', build path query account .sharedKey = .ok resource
      ∧ build path' query' account .sharedKey = .ok resource'
      ∧ (resource = resource' ↔ path = path' ∧ Query.SameValues parameters parameters') := by
  refine ⟨_, _, build_eq_of_parse hquery path account _, build_eq_of_parse hquery' path' account _,
    ?_⟩
  rw [List.append_assoc, List.append_assoc, List.append_cancel_left_eq]
  exact append_tail_eq_iff hpath hpath' h h'

end Resource

/-! ### Urls -/

namespace Resource

/-- **Two urls have one resource exactly when their paths and the values of their parameters are the
same.**  For targets that have been read the path is the one that a request line sends. -/
theorem ofUrl_eq_iff_sameValues {url url' : Text} {target target' : Target}
    {parameters parameters' : Query.Parameters} (hurl : Target.parse url = .ok target)
    (hurl' : Target.parse url' = .ok target')
    (hquery : Query.parse (Target.writtenQuery url) = .ok parameters)
    (hquery' : Query.parse (Target.writtenQuery url') = .ok parameters')
    (h : Query.Plain parameters) (h' : Query.Plain parameters') (account : Text) :
    (∃ resource resource', ofUrl url account .sharedKey = .ok resource
      ∧ ofUrl url' account .sharedKey = .ok resource'
      ∧ (resource = resource' ↔ Target.writtenPath url = Target.writtenPath url'
        ∧ Query.SameValues parameters parameters'))
    ∧ ∃ resource resource', ofTarget target account .sharedKey = .ok resource
      ∧ ofTarget target' account .sharedKey = .ok resource'
      ∧ (resource = resource' ↔ target.requestPath = target'.requestPath
        ∧ Query.SameValues parameters parameters') := by
  -- a path holds no newline, since no url does
  obtain ⟨hwritten, hsent⟩ := Target.notMem_path_of_parse hurl (c := '\n') (by decide)
  obtain ⟨hwritten', hsent'⟩ := Target.notMem_path_of_parse hurl' (c := '\n') (by decide)
  rw [ofUrl_eq_written hurl, ofUrl_eq_written hurl', ofTarget_eq_written hurl,
    ofTarget_eq_written hurl']
  exact ⟨exists_build_eq_iff hquery hquery' hwritten hwritten' h h' account,
    exists_build_eq_iff hquery hquery' hsent hsent' h h' account⟩

/-- A url with an empty value, and with a name whose values are not in order. -/
def plainUrl : Text := "http://h/p?b=2&a=&a=:&b=1".toList

def plainParameters : Query.Parameters :=
  [(['b'], ['2']), (['a'], []), (['a'], [':']), (['b'], ['1'])]

/-- Another scheme, another host and a fragment, and the parameters in another order, with escapes
and an empty segment between them. -/
def respelledUrl : Text := "x://y/p?%62=1&a=%3A&&b=2&a#f".toList

def respelledParameters : Query.Parameters :=
  [(['b'], ['1']), (['a'], [':']), (['b'], ['2']), (['a'], [])]

theorem ofUrl_eq_iff_sameValues_respelled :
    Query.parse (Target.writtenQuery plainUrl) = .ok plainParameters
      ∧ Query.parse (Target.writtenQuery respelledUrl) = .ok respelledParameters
      ∧ Query.Plain plainParameters ∧ Query.Plain respelledParameters
      ∧ ∃ resource, ofUrl plainUrl "acct".toList .sharedKey = .ok resource
        ∧ ofUrl respelledUrl "acct".toList .sharedKey = .ok resource := by
  have hurl : Target.parse plainUrl
      = .ok (.absoluteForm "http".toList "h".toList "/p".toList
          (some "b=2&a=&a=:&b=1".toList)) := by
    decide +kernel
  have hurl' : Target.parse respelledUrl
      = .ok (.absoluteForm "x".toList "y".toList "/p".toList
          (some "%62=1&a=%3A&&b=2&a".toList)) := by
    decide +kernel
  have hquery : Query.parse (Target.writtenQuery plainUrl) = .ok plainParameters := by
    decide +kernel
  have hquery' : Query.parse (Target.writtenQuery respelledUrl) = .ok respelledParameters := by
    decide +kernel
  have hplain : Query.Plain plainParameters := by
    unfold Query.Plain
    decide
  have hplain' : Query.Plain respelledParameters := by
    unfold Query.Plain
    decide
  have hsame : Query.SameValues plainParameters respelledParameters :=
    Query.sameValues_of_perm (by decide +kernel)
  obtain ⟨⟨resource, resource', hresource, hresource', hiff⟩, -⟩ :=
    ofUrl_eq_iff_sameValues hurl hurl' hquery hquery' hplain hplain' "acct".toList
  obtain rfl := hiff.2 ⟨by decide +kernel, hsame⟩
  exact ⟨hquery, hquery', hplain, hplain', resource, hresource, hresource'⟩

end Resource

/-! ### The first value of one name -/

namespace Query

/-- The first value that is given for a name, when there is one. -/
def firstValue? (parameters : Parameters) (name : Text) : Option Text :=
  (parameters.find? fun parameter => parameter.1 = name).map Prod.snd

theorem head?_valuesOf (parameters : Parameters) (name : Text) :
    (valuesOf parameters name).head? = firstValue? parameters name := by
  rw [valuesOf, firstValue?, List.head?_map, List.head?_filter]

end Query

namespace Resource

variable {variant : Variant} {parameters parameters' : Query.Parameters} {path path' : Text}

/-- The question mark, the name and the value; nothing where there is no value. -/
def writeComp : Option Text → Text
  | some value => "?comp=".toList ++ value
  | none => []

@[simp] theorem writeComp_none : writeComp none = [] := rfl

/-- The other variants write the first value of `comp` and nothing else. -/
theorem tail_of_ne_sharedKey (hvariant : variant ≠ .sharedKey) (parameters : Query.Parameters) :
    tail parameters variant = writeComp (Query.firstValue? parameters compName) := by
  rw [← Query.head?_valuesOf]
  cases variant with
  | sharedKey => exact absurd rfl hvariant
  | sharedKeyForTable => rfl
  | sharedKeyLite => rfl
  | sharedKeyLiteForTable => rfl

/-- **Path and value are read back from a resource.** -/
theorem cut_append_writeComp (hpath : '?' ∉ path) (value : Option Text) :
    Text.cut '?' (path ++ writeComp value) = (path, value.map ("comp=".toList ++ ·)) := by
  cases value with
  | none =>
      rw [writeComp_none, List.append_nil, Text.cut_of_notMem hpath]
      rfl
  | some value => exact Text.cut_append_sep hpath _

theorem append_writeComp_eq_iff (hpath : '?' ∉ path) (hpath' : '?' ∉ path')
    {value value' : Option Text} :
    path ++ writeComp value = path' ++ writeComp value' ↔ path = path' ∧ value = value' := by
  constructor
  · intro h
    -- the first question mark of both is the one that is written, whatever the values hold
    have hcut := congrArg (Text.cut '?') h
    rw [cut_append_writeComp hpath, cut_append_writeComp hpath', Prod.mk.injEq] at hcut
    obtain ⟨hpaths, hvalues⟩ := hcut
    exact ⟨hpaths, Option.map_injective (List.append_right_injective _) hvalues⟩
  · rintro ⟨rfl, rfl⟩
    rfl

/-- Two resources of the other variants are equal exactly when path and first value are. -/
theorem exists_build_eq_iff_sameComp (hvariant : variant ≠ .sharedKey) {query query' : Text}
    (hquery : Query.parse query = .ok parameters) (hquery' : Query.parse query' = .ok parameters')
    (hpath : '?' ∉ path) (hpath' : '?' ∉ path') (account : Text) :
    ∃ resource resource', build path query account variant = .ok resource
      ∧ build path' query' account variant = .ok resource'
      ∧ (resource = resource' ↔ path = path'
        ∧ Query.firstValue? parameters compName = Query.firstValue? parameters' compName) := by
  refine ⟨_, _, build_eq_of_parse hquery path account _, build_eq_of_parse hquery' path' account _,
    ?_⟩
  rw [tail_of_ne_sharedKey hvariant, tail_of_ne_sharedKey hvariant, List.append_assoc,
    List.append_assoc, List.append_cancel_left_eq]
  exact append_writeComp_eq_iff hpath hpath'

/-- **Two urls have one resource exactly when their paths and the first values of `comp` are the
same.**  For targets that have been read the path is the one that a request line sends. -/
theorem ofUrl_eq_iff_sameComp (hvariant : variant ≠ .sharedKey) {url url' : Text}
    {target target' : Target} (hurl : Target.parse url = .ok target)
    (hurl' : Target.parse url' = .ok target')
    (hquery : Query.parse (Target.writtenQuery url) = .ok parameters)
    (hquery' : Query.parse (Target.writtenQuery url') = .ok parameters') (account : Text) :
    (∃ resource resource', ofUrl url account variant = .ok resource
      ∧ ofUrl url' account variant = .ok resource'
      ∧ (resource = resource' ↔ Target.writtenPath url = Target.writtenPath url'
        ∧ Query.firstValue? parameters compName = Query.firstValue? parameters' compName))
    ∧ ∃ resource resource', ofTarget target account variant = .ok resource
      ∧ ofTarget target' account variant = .ok resource'
      ∧ (resource = resource' ↔ target.requestPath = target'.requestPath
        ∧ Query.firstValue? parameters compName = Query.firstValue? parameters' compName) := by
  -- a path ends at the first question mark
  obtain ⟨hwritten, hsent⟩ := Target.notMem_path_of_parse hurl (c := '?') (by decide)
  obtain ⟨hwritten', hsent'⟩ := Target.notMem_path_of_parse hurl' (c := '?') (by decide)
  rw [ofUrl_eq_written hurl, ofUrl_eq_written hurl', ofTarget_eq_written hurl,
    ofTarget_eq_written hurl']
  exact ⟨exists_build_eq_iff_sameComp hvariant hquery hquery' hwritten hwritten' account,
    exists_build_eq_iff_sameComp hvariant hquery hquery' hsent hsent' account⟩

/-- A url with `comp` in two spellings, whose first value holds the mark itself and a newline. -/
def markedUrl : Text := "http://h/p?a=1&%63omp=%3Fcomp%3D/%0A&comp=z".toList

/-- Another scheme, another host and a fragment, the same value with fewer escapes, and a later one
that is empty. -/
def remarkedUrl : Text := "x://y/p?comp=?comp=/%0a&comp&&b#f".toList

theorem ofUrl_eq_iff_sameComp_marked :
    Variant.sharedKeyLite ≠ .sharedKey
      ∧ Query.firstValue? [(['a'], ['1']), (compName, "?comp=/\n".toList), (compName, ['z'])]
          compName = some "?comp=/\n".toList
      ∧ ∃ resource, ofUrl markedUrl "acct".toList .sharedKeyLite = .ok resource
        ∧ ofUrl remarkedUrl "acct".toList .sharedKeyLite = .ok resource := by
  have hurl : Target.parse markedUrl
      = .ok (.absoluteForm "http".toList "h".toList "/p".toList
          (some "a=1&%63omp=%3Fcomp%3D/%0A&comp=z".toList)) := by
    decide +kernel
  have hurl' : Target.parse remarkedUrl
      = .ok (.absoluteForm "x".toList "y".toList "/p".toList
          (some "comp=?comp=/%0a&comp&&b".toList)) := by
    decide +kernel
  have hquery : Query.parse (Target.writtenQuery markedUrl)
      = .ok [(['a'], ['1']), (compName, "?comp=/\n".toList), (compName, ['z'])] := by
    decide +kernel
  have hquery' : Query.parse (Target.writtenQuery remarkedUrl)
      = .ok [(compName, "?comp=/\n".toList), (compName, []), (['b'], [])] := by
    decide +kernel
  have hvariant : Variant.sharedKeyLite ≠ .sharedKey := by decide
  obtain ⟨⟨resource, resource', hresource, hresource', hiff⟩, -⟩ :=
    ofUrl_eq_iff_sameComp hvariant hurl hurl' hquery hquery' "acct".toList
  obtain rfl := hiff.2 ⟨by decide +kernel, by decide +kernel⟩
  exact ⟨hvariant, by decide, resource, hresource, hresource'⟩

end Resource

end SharedKey
