import InventoryCloud.CloudPreflight

/-!
# The URLs that `nonsecret_https` accepts

A value it accepts is, without the characters that `urlparse` drops, an
`https` URL with an authority, without user and with neither a query nor a
fragment of any length.
-/

namespace Python

open Delimited

theorem splitScheme_cases (library : UrlLibrary) (url : List Char) :
    splitScheme library url = ([], url) ∨
      ∃ scheme rest, url = scheme ++ ':' :: rest ∧
        (∀ char ∈ scheme, isSchemeChar char = true) ∧
        splitScheme library url = (library.lower scheme, rest) := by
  rcases partition_cases ':' url with
    ⟨-, hsame⟩ | ⟨scheme, rest, hurl, -, hsame⟩
  · left
    unfold splitScheme
    rw [hsame]
    cases url <;> rfl
  · cases scheme with
    | nil =>
        left
        unfold splitScheme
        rw [hsame]
    | cons first others =>
        by_cases hscheme : (true && first.isAlpha &&
          (first :: others).all isSchemeChar) = true
        · right
          refine ⟨first :: others, rest, hurl, ?_, ?_⟩
          · rw [Bool.and_eq_true, List.all_eq_true] at hscheme
            exact hscheme.2
          · unfold splitScheme
            rw [hsame]
            exact if_pos hscheme
        · left
          unfold splitScheme
          rw [hsame]
          exact if_neg hscheme

theorem splitNetloc_cases (url : List Char) :
    splitNetloc url = ([], url) ∨
      ∃ netloc rest, url = '/' :: '/' :: (netloc ++ rest) ∧
        (∀ char ∈ netloc, isNetlocEnd char = false) ∧
        (∀ char ∈ rest.head?, isNetlocEnd char = true) ∧
        splitNetloc url = (netloc, rest) := by
  unfold splitNetloc
  split
  · rename_i rest
    right
    refine ⟨rest.takeWhile fun char => !isNetlocEnd char,
      rest.dropWhile fun char => !isNetlocEnd char, ?_, ?_, ?_, rfl⟩
    · rw [List.takeWhile_append_dropWhile]
    · intro char hchar
      simpa using List.mem_takeWhile_imp hchar
    · intro char hchar
      have hend := List.head?_dropWhile_not
        (fun char => !isNetlocEnd char) rest
      rw [Option.mem_def] at hchar
      rw [hchar] at hend
      simpa using hend
  · exact Or.inl rfl

/-- The splittings by which a URL was parsed. -/
theorem urlparse_parts {library : UrlLibrary} {value : List Char}
    {parsed : SplitResult} (hparsed : urlparse library value = some parsed) :
    ∃ hierarchical rest before hasFragment hasQuery,
      splitScheme library (sanitized value) =
          (parsed.scheme, hierarchical) ∧
        splitNetloc hierarchical = (parsed.netloc, rest) ∧
        partition '#' rest = (before, hasFragment, parsed.fragment) ∧
        partition '?' before = (parsed.path, hasQuery, parsed.query) := by
  unfold urlparse at hparsed
  split at hparsed
  rename_i scheme hierarchical hscheme
  split at hparsed
  rename_i netloc rest hnetloc
  split at hparsed
  rename_i before hasFragment fragment hfragment
  split at hparsed
  rename_i path hasQuery query hquery
  split at hparsed
  · cases hparsed
    exact ⟨hierarchical, rest, before, hasFragment, hasQuery, hscheme, hnetloc,
      hfragment, hquery⟩
  · cases hparsed

theorem isSchemeChar_ascii {char : Char} (hchar : isSchemeChar char = true) :
    isAscii char = true := by
  simp only [isSchemeChar, Char.isAlphanum, Char.isAlpha, Char.isUpper,
    Char.isLower, Char.isDigit, Bool.or_eq_true, Bool.and_eq_true, beq_iff_eq,
    decide_eq_true_eq, UInt32.le_iff_toNat_le] at hchar
  have hvalue : char.toNat = char.val.toNat := rfl
  unfold isAscii
  rw [decide_eq_true_iff]
  rcases hchar with ((hchar | rfl) | rfl) | rfl
  · have hupper : 'Z'.val.toNat = 90 := rfl
    have hlower : 'z'.val.toNat = 122 := rfl
    have hdigit : '9'.val.toNat = 57 := rfl
    omega
  · decide
  · decide
  · decide

theorem SplitResult.userinfo_none {parsed : SplitResult}
    (hnone : parsed.userinfo.1.isNone = true) : '@' ∉ parsed.netloc := by
  unfold SplitResult.userinfo at hnone
  rcases rpartition_cases '@' parsed.netloc with
    ⟨hmark, -⟩ | ⟨before, after, -, -, hsame⟩
  · exact hmark
  · rw [hsame] at hnone
    simp at hnone

theorem UrlLibrary.lower_nil (library : UrlLibrary) : library.lower [] = [] :=
  library.lower_ascii [] (by simp)

/-- A URL with a host has an authority. -/
theorem SplitResult.netloc_nonempty {library : UrlLibrary}
    {parsed : SplitResult}
    (hhost : (parsed.hostname library).isEmpty = false) :
    parsed.netloc ≠ [] := by
  intro hnetloc
  unfold SplitResult.hostname SplitResult.hostinfo at hhost
  rw [hnetloc] at hhost
  simp [rpartition, partition, library.lower_nil] at hhost

end Python

namespace InventoryCloud

namespace CloudPreflight

open Python Delimited

/-- An `https` URL with an authority, without user, query and fragment; a `?`
and a `#` with nothing after them may stand at its end. -/
structure PlainHttps (text scheme netloc path tail : List Char) : Prop where
  whole : text = scheme ++ "://".toList ++ netloc ++ path ++ tail
  https : scheme.map Char.toLower = "https".toList
  authority : netloc ≠ []
  delimited : ∀ char ∈ netloc, isNetlocEnd char = false
  withoutUser : '@' ∉ netloc
  rooted : ∀ char ∈ path.head?, char = '/'
  withoutQuery : '?' ∉ path
  withoutFragment : '#' ∉ path
  ending : tail ∈ ["".toList, "?".toList, "#".toList, "?#".toList]

/-- A rest without query and fragment is a path and perhaps their marks. -/
theorem rest_parts {rest path : List Char}
    (hrest : ∀ char ∈ rest.head?, isNetlocEnd char = true)
    {hasFragment hasQuery : Bool} {beforeFragment : List Char}
    (hfragment : partition '#' rest = (beforeFragment, hasFragment, []))
    (hquery : partition '?' beforeFragment = (path, hasQuery, [])) :
    ∃ tail ∈ ["".toList, "?".toList, "#".toList, "?#".toList],
      rest = path ++ tail ∧ '?' ∉ path ∧ '#' ∉ path ∧
        ∀ char ∈ path.head?, char = '/' := by
  obtain ⟨hhash, hbefore⟩ := partition_ends hfragment
  obtain ⟨hmark, hpath⟩ := partition_ends hquery
  have hsharp : '#' ∉ path := by
    rcases hpath with rfl | rfl
    · exact hhash
    · rw [List.mem_append, not_or] at hhash
      exact hhash.1
  have htail : ∃ tail ∈ ["".toList, "?".toList, "#".toList, "?#".toList],
      rest = path ++ tail := by
    rcases hbefore with rfl | rfl
    · rcases hpath with rfl | rfl
      · exact ⟨[], by decide, by simp⟩
      · exact ⟨['?'], by decide, rfl⟩
    · rcases hpath with rfl | rfl
      · exact ⟨['#'], by decide, rfl⟩
      · exact ⟨['?', '#'], by decide, by simp⟩
  obtain ⟨tail, htails, rfl⟩ := htail
  refine ⟨tail, htails, rfl, hmark, hsharp, ?_⟩
  intro char hchar
  cases path with
  | nil => simp at hchar
  | cons first others =>
      obtain rfl : first = char := by simpa using hchar
      have hend := hrest first rfl
      unfold isNetlocEnd at hend
      simp only [Bool.or_eq_true, beq_iff_eq] at hend
      rcases hend with (hslash | hquestion) | hnumber
      · exact hslash
      · exact absurd (by simp [hquestion]) hmark
      · exact absurd (by simp [hnumber]) hsharp

/-- What `urlparse` found in a value that `nonsecret_https` accepts. -/
theorem nonsecretHttps_parsed {library : UrlLibrary} {value : List Char}
    (haccepts : nonsecretHttps library value = true) :
    ∃ parsed, urlparse library value = some parsed ∧
      parsed.scheme = "https".toList ∧
      (parsed.hostname library).isEmpty = false ∧
      parsed.userinfo.1.isNone = true ∧ parsed.query = [] ∧
      parsed.fragment = [] := by
  unfold nonsecretHttps at haccepts
  cases hparsed : urlparse library value with
  | none =>
      rw [hparsed] at haccepts
      cases haccepts
  | some parsed =>
      rw [hparsed] at haccepts
      simp only [Bool.and_eq_true, beq_iff_eq, Bool.not_eq_true',
        List.isEmpty_iff] at haccepts
      obtain ⟨⟨⟨⟨⟨⟨hscheme, hhost⟩, huser⟩, -⟩, hquery⟩, hfragment⟩, -⟩ :=
        haccepts
      exact ⟨parsed, rfl, hscheme, hhost, huser, hquery, hfragment⟩

theorem nonsecretHttps_plain {library : UrlLibrary} {value : List Char}
    (haccepts : nonsecretHttps library value = true) :
    ∃ scheme netloc path tail,
      PlainHttps (sanitized value) scheme netloc path tail := by
  obtain ⟨parsed, hparsed, hscheme, hhost, huser, hquery, hfragment⟩ :=
    nonsecretHttps_parsed haccepts
  obtain ⟨hierarchical, rest, before, hasFragment, hasQuery, hsplit, hauthority,
    hhash, hmark⟩ := urlparse_parts hparsed
  rw [hscheme] at hsplit
  rw [hfragment] at hhash
  rw [hquery] at hmark
  have hnonempty := SplitResult.netloc_nonempty hhost
  generalize sanitized value = text at hsplit ⊢
  rcases splitScheme_cases library text with
    hnone | ⟨scheme, afterScheme, rfl, hchars, hfound⟩
  · rw [hnone, Prod.mk.injEq] at hsplit
    exact absurd hsplit.1 (by decide)
  rw [hfound, Prod.mk.injEq] at hsplit
  obtain ⟨hhttps, rfl⟩ := hsplit
  rcases splitNetloc_cases afterScheme with
    hnone | ⟨netloc, others, rfl, hdelimited, hstarts, hfound⟩
  · rw [hnone, Prod.mk.injEq] at hauthority
    exact absurd hauthority.1.symm hnonempty
  rw [hfound, Prod.mk.injEq] at hauthority
  obtain ⟨rfl, rfl⟩ := hauthority
  obtain ⟨tail, hending, rfl, hquestion, hsharp, hrooted⟩ :=
    rest_parts hstarts hhash hmark
  rw [library.lower_ascii scheme fun char hchar =>
    isSchemeChar_ascii (hchars char hchar)] at hhttps
  exact ⟨scheme, parsed.netloc, parsed.path, tail, by simp, hhttps, hnonempty,
    hdelimited, SplitResult.userinfo_none huser, hrooted, hquestion, hsharp,
    hending⟩

end CloudPreflight

end InventoryCloud
