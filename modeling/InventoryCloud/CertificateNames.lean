import InventoryCloud.AcceptedConfigs
import InventoryCloud.CloudMetadata
import InventoryCloud.IssuerUrls

/-!
# Names of a certificate

A wildcard certificate covers one label.  The match never says so: it compares
the numbers of dots and lets the star of a glob cross dots.
-/

namespace InventoryCloud

namespace CloudPreflight

open JsonValue Python TextPattern

def isLabelChar (char : Char) : Bool :=
  isAlnum char || char == '-'

/-- Labels with dots between them, perhaps after `*.`. -/
def subjectName : TextPattern :=
  chain [TextPattern.optional (literal "*."), several (.one isLabelChar),
    .many (chain [literal ".", several (.one isLabelChar)])]

/-- Equal but for the case of letters. -/
def SameName (left right : List Char) : Prop :=
  left.map Char.toLower = right.map Char.toLower

/-- One nonempty label and a dot before the domain. -/
def OneLabelBelow (domain hostname : List Char) : Prop :=
  ∃ label below, hostname = label ++ '.' :: below ∧ label ≠ [] ∧
    '.' ∉ label ∧ SameName below domain

def Covers (name hostname : List Char) : Prop :=
  SameName hostname name ∨
    ∃ domain, name = '*' :: '.' :: domain ∧ OneLabelBelow domain hostname

/-- The domain itself, or two and more labels below it. -/
def NotOneLabelBelow (domain hostname : List Char) : Prop :=
  SameName hostname domain ∨
    ∃ labels below, hostname = labels ++ '.' :: below ∧ '.' ∈ labels ∧
      SameName below domain

/-! ### Characters of names -/

def isNameChar (char : Char) : Bool :=
  isLabelChar char || char == '.'

theorem isAscii_of_nameChar {char : Char} (hchar : isNameChar char = true) :
    isAscii char = true := by
  apply isSchemeChar_ascii
  simp only [isNameChar, isLabelChar, isAlnum, Bool.or_eq_true] at hchar
  simp only [isSchemeChar, Bool.or_eq_true]
  rcases hchar with (hchar | hchar) | hchar
  · exact Or.inl (Or.inl (Or.inl hchar))
  · exact Or.inl (Or.inr hchar)
  · exact Or.inr hchar

/-- No character of a name is a wildcard, in small letters neither. -/
theorem toLower_plain {char : Char} (hchar : isNameChar char = true) :
    isWildcardChar char.toLower = false := by
  rw [isWildcardChar, Bool.or_eq_false_iff, Bool.or_eq_false_iff,
    beq_eq_false_iff_ne, beq_eq_false_iff_ne, beq_eq_false_iff_ne]
  refine ⟨⟨?_, ?_⟩, ?_⟩
  · intro hstar
    rw [eq_of_toLower (by decide) hstar] at hchar
    exact absurd hchar (by decide)
  · intro hmark
    rw [eq_of_toLower (by decide) hmark] at hchar
    exact absurd hchar (by decide)
  · intro hbracket
    rw [eq_of_toLower (by decide) hbracket] at hchar
    exact absurd hchar (by decide)

theorem count_dot_toLower (text : List Char) :
    (text.map Char.toLower).count '.' = text.count '.' := by
  rw [List.count_eq_countP, List.countP_map, List.count_eq_countP]
  apply List.countP_congr
  intro char hchar
  rw [Function.comp_apply, beq_iff_eq, beq_iff_eq]
  constructor
  · intro hdot
    exact eq_of_toLower (by decide) hdot
  · rintro rfl
    rfl

theorem lower_name {library : UrlLibrary} {name : List Char}
    (hname : ∀ char ∈ name, isNameChar char = true) :
    library.lower name = name.map Char.toLower := by
  apply library.lower_ascii
  intro char hchar
  exact isAscii_of_nameChar (hname char hchar)

theorem lower_wildcard {library : UrlLibrary} {domain : List Char}
    (hdomain : ∀ char ∈ domain, isNameChar char = true) :
    library.lower ('*' :: '.' :: domain) =
      '*' :: '.' :: domain.map Char.toLower := by
  rw [library.lower_ascii]
  · rfl
  intro char hchar
  rcases List.mem_cons.mp hchar with rfl | hchar
  · decide
  · rcases List.mem_cons.mp hchar with rfl | hchar
    · decide
    · exact isAscii_of_nameChar (hdomain char hchar)

/-! ### The grammars -/

theorem subjectName_cases {name : List Char}
    (hname : name ∈ subjectName.language) :
    (∀ char ∈ name, isNameChar char = true) ∨
      ∃ domain, name = '*' :: '.' :: domain ∧
        ∀ char ∈ domain, isNameChar char = true := by
  have hwithin : (chain [several (.one isLabelChar),
      .many (chain [literal ".", several (.one isLabelChar)])]).Within
      (isNameChar · = true) := by
    have hlabel : ∀ char, isLabelChar char = true → isNameChar char = true := by
      intro char hchar
      rw [isNameChar, hchar, Bool.true_or]
    refine ⟨⟨hlabel, hlabel⟩, ⟨Within.literal ?_, ⟨hlabel, hlabel⟩, trivial⟩,
      trivial⟩
    exact List.all_eq_true.mp (by decide)
  obtain ⟨star, hstar, rest, hrest, rfl⟩ := (mem_chain_cons _ _ _).mp hname
  have hchars := hwithin.of_mem hrest
  rcases (mem_either star _ _).mp hstar with hnone | hwildcard
  · rw [mem_blank] at hnone
    rw [hnone]
    exact Or.inl hchars
  · rw [mem_literal] at hwildcard
    rw [hwildcard]
    exact Or.inr ⟨rest, rfl, hchars⟩

/-- A host name consists of such characters and starts with a label. -/
theorem hostMatches_chars {hostname : List Char}
    (hhost : hostMatches hostname = true) :
    (∀ char ∈ hostname, isNameChar char = true) ∧
      ∃ first rest, hostname = first :: rest ∧ isAlnum first = true := by
  have halnum : ∀ char, isAlnum char = true → isNameChar char = true := by
    intro char hchar
    rw [isNameChar, isLabelChar, hchar, Bool.true_or, Bool.true_or]
  have halpha : ∀ char, Char.isAlpha char = true → isNameChar char = true := by
    intro char hchar
    apply halnum
    rw [isAlnum, Char.isAlphanum, hchar, Bool.true_or]
  have hhyphen : ∀ char, (isAlnum char || char == '-') = true →
      isNameChar char = true := by
    intro char hchar
    rw [isNameChar, isLabelChar, hchar, Bool.true_or]
  unfold hostMatches at hhost
  rw [Bool.and_eq_true, fullmatch_iff] at hhost
  have hlabel : hostLabel.Within (isNameChar · = true) :=
    ⟨halnum, ⟨trivial, @Within.upTo _ (.one _) hhyphen 61, halnum, trivial⟩,
      Within.literal (List.all_eq_true.mp (by decide)), trivial⟩
  have hpattern : hostPattern.Within (isNameChar · = true) :=
    ⟨⟨hlabel, hlabel⟩, @Within.times _ (.one Char.isAlpha) halpha 2,
      @Within.upTo _ (.one Char.isAlpha) halpha 61, trivial⟩
  constructor
  · exact hpattern.of_mem hhost.2
  · obtain ⟨labels, hlabels, last, -, rfl⟩ := (mem_chain_cons _ _ _).mp hhost.2
    obtain ⟨label, hfirst, more, -, rfl⟩ := (mem_seq _ _ _).mp hlabels
    obtain ⟨_, ⟨first, halnum, rfl⟩, rest, -, rfl⟩ :=
      (mem_chain_cons _ _ _).mp hfirst
    exact ⟨first, rest ++ more ++ last, by simp, halnum⟩

/-! ### Matching -/

theorem lower_host {library : UrlLibrary} {hostname : List Char}
    (hhost : hostMatches hostname = true) :
    library.lower hostname = hostname.map Char.toLower :=
  lower_name (hostMatches_chars hhost).1

theorem star_not_mem_host {hostname : List Char}
    (hhost : hostMatches hostname = true) : '*' ∉ hostname := by
  intro hstar
  exact absurd ((hostMatches_chars hhost).1 '*' hstar) (by decide)

theorem SameName.length {left right : List Char}
    (hsame : SameName left right) : left.length = right.length := by
  have hlength := congrArg List.length hsame
  simpa using hlength

theorem SameName.count_dot {left right : List Char}
    (hsame : SameName left right) : left.count '.' = right.count '.' := by
  rw [← count_dot_toLower left, ← count_dot_toLower right, hsame]

/-- With as many dots as the wildcard, a host that ends in its domain has one
label more. -/
theorem oneLabelBelow_of_suffix {domain hostname : List Char}
    (hhost : hostMatches hostname = true)
    (hcount : hostname.count '.' = ('*' :: '.' :: domain).count '.')
    (hsuffix : '.' :: domain.map Char.toLower <:+ hostname.map Char.toLower) :
    OneLabelBelow domain hostname := by
  obtain ⟨before, hbefore⟩ := hsuffix
  obtain ⟨label, tail, hhostname, hlabel, htail⟩ :=
    List.map_eq_append_iff.mp hbefore.symm
  obtain ⟨dot, below, rfl, hdot, hbelow⟩ := List.map_eq_cons_iff.mp htail
  have hdot : dot = '.' := eq_of_toLower (by decide) hdot
  subst hdot
  have hbelow : SameName below domain := hbelow
  have hsame := hbelow.count_dot
  have hnone : label.count '.' = 0 := by
    have hparts : hostname.count '.' =
        label.count '.' + (below.count '.' + 1) := by
      rw [hhostname, List.count_append, List.count_cons_self]
    have hname : ('*' :: '.' :: domain).count '.' = domain.count '.' + 1 := by
      rw [List.count_cons_of_ne (by decide), List.count_cons_self]
    omega
  refine ⟨label, below, hhostname, ?_, List.count_eq_zero.mp hnone, hbelow⟩
  rintro rfl
  obtain ⟨first, rest, hfirst, halnum⟩ := (hostMatches_chars hhost).2
  rw [hhostname, List.nil_append, List.cons.injEq] at hfirst
  rw [← hfirst.1] at halnum
  exact absurd halnum (by decide)

theorem suffix_of_oneLabelBelow {domain hostname : List Char}
    (hbelow : OneLabelBelow domain hostname) :
    hostname.count '.' = ('*' :: '.' :: domain).count '.' ∧
      '.' :: domain.map Char.toLower <:+ hostname.map Char.toLower := by
  obtain ⟨label, below, rfl, -, hlabel, hsame⟩ := hbelow
  constructor
  · rw [List.count_append, List.count_eq_zero.mpr hlabel,
      List.count_cons_self, List.count_cons_of_ne (by decide),
      List.count_cons_self, hsame.count_dot, Nat.zero_add]
  · refine ⟨label.map Char.toLower, ?_⟩
    rw [List.map_append, List.map_cons, hsame]
    rfl

theorem nameMatches_wildcard {library : UrlLibrary}
    {domain hostname : List Char} (hhost : hostMatches hostname = true)
    (hdomain : ∀ char ∈ domain, isNameChar char = true) :
    nameMatches library (library.lower hostname) ('*' :: '.' :: domain) =
      true ↔ Covers ('*' :: '.' :: domain) hostname := by
  have hplain : ∀ char ∈ '.' :: domain.map Char.toLower,
      isWildcardChar char = false := by
    intro char hchar
    rcases List.mem_cons.mp hchar with rfl | hchar
    · decide
    · obtain ⟨other, hother, rfl⟩ := List.mem_map.mp hchar
      exact toLower_plain (hdomain other hother)
  have hstart : "*.".toList <+: '*' :: '.' :: domain := ⟨domain, rfl⟩
  unfold nameMatches
  rw [lower_host hhost, lower_wildcard hdomain, Bool.or_eq_true, beq_iff_eq,
    decide_eq_true hstart, Bool.true_and, Bool.and_eq_true, beq_iff_eq,
    count_dot_toLower, fnmatchcase_star hplain]
  constructor
  · rintro (hsame | ⟨hcount, hsuffix⟩)
    · exact Or.inl hsame
    · exact Or.inr ⟨domain, rfl, oneLabelBelow_of_suffix hhost hcount hsuffix⟩
  · rintro (hsame | ⟨other, hother, hbelow⟩)
    · exact Or.inl hsame
    · obtain ⟨rfl⟩ : domain = other := by simpa using hother
      exact Or.inr (suffix_of_oneLabelBelow hbelow)

theorem nameMatches_plain {library : UrlLibrary} {name hostname : List Char}
    (hhost : hostMatches hostname = true)
    (hname : ∀ char ∈ name, isNameChar char = true) :
    nameMatches library (library.lower hostname) name = true ↔
      Covers name hostname := by
  have hstar : ∀ rest, name ≠ '*' :: rest := by
    rintro rest rfl
    exact absurd (hname '*' List.mem_cons_self) (by decide)
  have hstart : ¬ "*.".toList <+: name := by
    rintro ⟨rest, hrest⟩
    exact hstar ('.' :: rest) hrest.symm
  unfold nameMatches
  rw [lower_host hhost, lower_name hname, Bool.or_eq_true, beq_iff_eq,
    decide_eq_false hstart, Bool.false_and, Bool.false_and]
  constructor
  · rintro (hsame | hfalse)
    · exact Or.inl hsame
    · cases hfalse
  · rintro (hsame | ⟨domain, hdomain, -⟩)
    · exact Or.inl hsame
    · exact absurd hdomain (hstar ('.' :: domain))

theorem nameMatches_iff {library : UrlLibrary} {name hostname : List Char}
    (hhost : hostMatches hostname = true)
    (hname : name ∈ subjectName.language) :
    nameMatches library (library.lower hostname) name = true ↔
      Covers name hostname := by
  rcases subjectName_cases hname with hplain | ⟨domain, rfl, hdomain⟩
  · exact nameMatches_plain hhost hplain
  · exact nameMatches_wildcard hhost hdomain

/-- The match of texts raises nothing and takes the first name that matches.
-/
theorem certificateMatches_texts (library : UrlLibrary) (hostname : String)
    (names : List String) :
    certificateMatches library hostname (names.map .string) =
      .ok (names.any fun name =>
        nameMatches library (library.lower hostname.toList) name.toList) := by
  unfold certificateMatches
  induction names with
  | nil => rfl
  | cons name rest ih =>
      rw [List.map_cons, Python.anyOf, matchesName, ok_bind, ih, List.any_cons]
      cases nameMatches library (library.lower hostname.toList) name.toList <;>
        rfl

/-- A wildcard covers neither its domain nor anything two labels below. -/
theorem not_covers_wildcard {domain hostname : List Char}
    (hhost : hostMatches hostname = true)
    (hnot : NotOneLabelBelow domain hostname) :
    ¬ Covers ('*' :: '.' :: domain) hostname := by
  rintro (hsame | ⟨other, hother, label, below, hhostname, hlabel, hdots,
    hbelow⟩)
  · have hstar : '*' ∈ hostname.map Char.toLower := by
      rw [hsame]
      exact List.mem_cons_self
    obtain ⟨char, hchar, hlower⟩ := List.mem_map.mp hstar
    rw [eq_of_toLower (by decide) hlower] at hchar
    exact star_not_mem_host hhost hchar
  · obtain ⟨rfl⟩ : domain = other := by simpa using hother
    have hlength := hbelow.length
    rcases hnot with hsame | ⟨labels, rest, hlabels, hdot, hrest⟩
    · have hwhole := hsame.length
      rw [hhostname, List.length_append, List.length_cons] at hwhole
      omega
    · rw [hhostname] at hlabels
      have hparts := List.append_inj' hlabels
        (by rw [List.length_cons, List.length_cons, hlength, hrest.length])
      exact hdots (hparts.1 ▸ hdot)

/-- Some name matches exactly if one of the names is the host or is a wildcard
for the domain one label above it. -/
theorem wildcard_covers_one_label (library : UrlLibrary) (hostname : String)
    (hhost : hostMatches hostname.toList = true) :
    (∀ names : List String,
      (∀ name ∈ names, name.toList ∈ subjectName.language) →
        ∃ matched, certificateMatches library hostname
            (names.map .string) = .ok matched ∧
          (matched = true ↔
            ∃ name ∈ names, Covers name.toList hostname.toList)) ∧
      ∀ domain : String, ("*." ++ domain).toList ∈ subjectName.language →
        NotOneLabelBelow domain.toList hostname.toList →
          certificateMatches library hostname [.string ("*." ++ domain)] =
            .ok false := by
  constructor
  · intro names hnames
    refine ⟨_, certificateMatches_texts library hostname names, ?_⟩
    rw [List.any_eq_true]
    constructor
    · rintro ⟨name, hmem, hmatch⟩
      exact ⟨name, hmem, (nameMatches_iff hhost (hnames name hmem)).mp hmatch⟩
    · rintro ⟨name, hmem, hcovers⟩
      exact ⟨name, hmem, (nameMatches_iff hhost (hnames name hmem)).mpr hcovers⟩
  · intro domain hdomain hnot
    have htexts := certificateMatches_texts library hostname ["*." ++ domain]
    have hmiss : nameMatches library (library.lower hostname.toList)
        ("*." ++ domain).toList = false := by
      rw [← Bool.not_eq_true, nameMatches_iff hhost hdomain]
      rw [String.toList_append]
      exact not_covers_wildcard hhost hnot
    rw [List.map_singleton, List.any_cons, hmiss] at htexts
    exact htexts

theorem wildcard_covers_one_label_sample :
    certificateMatches Sample.asciiLibrary "api.shop.test"
        [.string "*.shop.test"] = .ok true ∧
      certificateMatches Sample.asciiLibrary "api.shop.test"
        [.string "*.test"] = .ok false := by
  have hhost : hostMatches "api.shop.test".toList = true := by decide +kernel
  have hnames := (wildcard_covers_one_label Sample.asciiLibrary
    "api.shop.test" hhost).1
  have hmember : ∀ name : String, subjectName.fullmatch name.toList = true →
      ∀ other ∈ [name], other.toList ∈ subjectName.language := by
    intro name hname other hother
    rw [List.mem_singleton.mp hother]
    exact (fullmatch_iff _ _).mp hname
  constructor
  · obtain ⟨matched, hmatched, hiff⟩ := hnames ["*.shop.test"]
      (hmember _ (by decide +kernel))
    rw [hiff.mpr] at hmatched
    · exact hmatched
    · exact ⟨_, List.mem_singleton_self _, Or.inr ⟨"shop.test".toList, rfl,
        "api".toList, "shop.test".toList, rfl, by decide, by decide, rfl⟩⟩
  · apply (wildcard_covers_one_label Sample.asciiLibrary
      "api.shop.test" hhost).2 "test"
    · exact (fullmatch_iff _ _).mp (by decide +kernel)
    · exact Or.inr ⟨"api.shop".toList, "test".toList, rfl, by decide, rfl⟩

end CloudPreflight

end InventoryCloud
