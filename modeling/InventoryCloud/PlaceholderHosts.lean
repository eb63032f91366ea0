import InventoryCloud.AcceptedConfigs
import InventoryCloud.IssuerUrls

/-!
# Placeholder hosts

`validate_config` keeps `example.com` out of the public host name and of the
issuer by two different tests of a suffix: one with the leading dot and in
small letters, one without the dot on a host in lower case.
-/

namespace InventoryCloud

namespace CloudPreflight

open JsonValue Python

/-- `example.com` or a subdomain of it, in any letter case. -/
def UnderExampleCom (host : List Char) : Prop :=
  host.map Char.toLower = "example.com".toList ∨
    ".example.com".toList <:+ host.map Char.toLower

/-- The hosts of a configuration are no placeholders, and its issuer is an
`https` URL without user, query and fragment. -/
structure HostsReal (library : UrlLibrary) (members : Members) : Prop where
  hostname : ¬ UnderExampleCom (textAt members "public_hostname").toList
  issuer : ¬ UnderExampleCom
    (issuerHostname library (textAt members "jwt_issuer_uri"))
  https : ∃ scheme netloc path tail,
    PlainHttps (sanitized (textAt members "jwt_issuer_uri").toList) scheme
      netloc path tail

/-- Not the bare domain, and an ending `.example.com` only in small letters.
-/
def DottedPlainly (hostname : List Char) : Prop :=
  hostname.map Char.toLower ≠ "example.com".toList ∧
    (".example.com".toList <:+ hostname.map Char.toLower →
      ".example.com".toList <:+ hostname)

/-- An ending `.example.com` of what follows a `%` only in small letters. -/
def ZonedPlainly (host : List Char) : Prop :=
  ∀ name zone, host = name ++ '%' :: zone →
    ".example.com".toList <:+ zone.map Char.toLower →
      ".example.com".toList <:+ zone

/-- The letters `example.com` within a longer label. -/
def LettersOnly (host : List Char) : Prop :=
  ∃ before char, host = before ++ char :: "example.com".toList ∧ char ≠ '.'

theorem suffix_of_dotted {host : List Char}
    (hdotted : ".example.com".toList <:+ host) :
    "example.com".toList <:+ host :=
  List.IsSuffix.trans ⟨['.'], rfl⟩ hdotted

/-! ### The public host name -/

theorem validHostname_real {hostname : String}
    (hvalid : validHostname hostname = true) :
    ¬ UnderExampleCom hostname.toList ↔ DottedPlainly hostname.toList := by
  unfold validHostname at hvalid
  rw [Bool.and_eq_true, Bool.not_eq_true'] at hvalid
  have hundotted := of_decide_eq_false hvalid.2
  constructor
  · intro hreal
    constructor
    · intro hdomain
      exact hreal (Or.inl hdomain)
    · intro hsuffix
      exact absurd (Or.inr hsuffix) hreal
  · rintro ⟨hdomain, hplain⟩ (hsame | hsuffix)
    · exact hdomain hsame
    · exact hundotted (hplain hsuffix)

/-! ### The issuer -/

/-- The host is in lower case, up to a `%`. -/
theorem hostname_lower (library : UrlLibrary) (parsed : SplitResult) :
    (parsed.hostname library).map Char.toLower = parsed.hostname library ∨
      ∃ name zone, parsed.hostname library = name ++ '%' :: zone := by
  unfold SplitResult.hostname
  split
  rename_i name percent zone hparts
  cases percent with
  | false =>
      left
      rw [if_neg (by decide), List.append_nil]
      exact map_toLower_eq (library.lower_capital name)
  | true => exact Or.inr ⟨library.lower name, zone, rfl⟩

/-- The same for the host of an issuer. -/
theorem issuerHostname_lower (library : UrlLibrary) (issuer : String) :
    (issuerHostname library issuer).map Char.toLower =
        issuerHostname library issuer ∨
      ∃ name zone, issuerHostname library issuer = name ++ '%' :: zone := by
  unfold issuerHostname
  split
  · rename_i parsed hparsed
    exact hostname_lower library parsed
  · exact Or.inl rfl

theorem validIssuer_real {library : UrlLibrary} {issuer : String}
    (hvalid : validIssuer library issuer = true) :
    ¬ UnderExampleCom (issuerHostname library issuer) ↔
      ZonedPlainly (issuerHostname library issuer) := by
  unfold validIssuer at hvalid
  rw [Bool.and_eq_true, Bool.not_eq_true'] at hvalid
  have hletters := of_decide_eq_false hvalid.2
  constructor
  · intro hreal name zone hhost hsuffix
    apply absurd _ hreal
    right
    rw [hhost, List.map_append, List.map_cons]
    exact hsuffix.trans ⟨name.map Char.toLower ++ ['%'.toLower], by simp⟩
  · intro hplain hunder
    apply hletters
    rcases issuerHostname_lower library issuer with
      hlower | ⟨name, zone, hhost⟩
    · rcases hunder with hsame | hsuffix
      · rw [← hlower, hsame]
      · rw [hlower] at hsuffix
        exact suffix_of_dotted hsuffix
    · have hsuffix : ".example.com".toList <:+ zone.map Char.toLower := by
        rcases hunder with hsame | hsuffix
        · have hmark : '%' ∈ "example.com".toList := by
            rw [← hsame, hhost, List.map_append, List.map_cons]
            exact List.mem_append_right _ List.mem_cons_self
          exact absurd hmark (by decide)
        · rw [hhost, List.map_append, List.map_cons] at hsuffix
          exact Delimited.suffix_after (by decide) hsuffix
      have hzone := suffix_of_dotted (hplain name zone hhost hsuffix)
      rw [hhost]
      exact hzone.trans ⟨name ++ ['%'], by simp⟩

/-! ### What the rules reject -/

theorem dotted_under {host : List Char}
    (hdotted : endsWith host ".example.com" = true) : UnderExampleCom host := by
  right
  have hsuffix := List.IsSuffix.map Char.toLower (of_decide_eq_true hdotted)
  exact hsuffix

theorem letters_under_iff (host : List Char) :
    (endsWith host "example.com" = true → UnderExampleCom host) ↔
      ¬ LettersOnly host := by
  constructor
  · rintro hunder ⟨before, char, rfl, hchar⟩
    have hends : endsWith (before ++ char :: "example.com".toList)
        "example.com" = true :=
      decide_eq_true ⟨before ++ [char], by simp⟩
    rcases hunder hends with hsame | hsuffix
    · have hlength := congrArg List.length hsame
      rw [List.length_map, List.length_append, List.length_cons] at hlength
      omega
    · rw [List.map_append, List.map_cons] at hsuffix
      obtain ⟨first, hfirst⟩ := hsuffix
      obtain ⟨-, hrest⟩ := List.append_inj' hfirst (by simp)
      have hdot : char.toLower = '.' := (List.cons.inj hrest).1.symm
      exact hchar (eq_of_toLower (by decide) hdot)
  · intro hlabel hends
    obtain ⟨before, hhost⟩ := of_decide_eq_true hends
    rcases List.eq_nil_or_concat before with rfl | ⟨first, char, rfl⟩
    · left
      rw [← hhost]
      decide
    · have hdot : char = '.' := by
        by_contra hother
        exact hlabel ⟨first, char, by simpa using hhost.symm, hother⟩
      apply dotted_under
      apply decide_eq_true
      refine ⟨first, ?_⟩
      rw [← hhost, hdot]
      simp

/-- Placeholder hosts stay out of an accepted configuration exactly where its
hosts are spelled plainly; the rules reject other hosts exactly where these
end in the letters of the domain. -/
theorem placeholder_rules (library : UrlLibrary) :
    (∀ members, Accepts library (.object members) →
      (HostsReal library members ↔
        DottedPlainly (textAt members "public_hostname").toList ∧
          ZonedPlainly
            (issuerHostname library (textAt members "jwt_issuer_uri")))) ∧
      (∀ hostname, endsWith hostname ".example.com" = true →
        UnderExampleCom hostname) ∧
      ∀ host, (endsWith host "example.com" = true → UnderExampleCom host) ↔
        ¬ LettersOnly host := by
  refine ⟨?_, fun hostname => dotted_under, letters_under_iff⟩
  intro members haccepts
  have hchecked := haccepts.checked
  have hhostname := validHostname_real hchecked.hostname
  have hissuer := validIssuer_real hchecked.issuer
  constructor
  · intro hreal
    exact ⟨hhostname.mp hreal.hostname, hissuer.mp hreal.issuer⟩
  · rintro ⟨hdotted, hzoned⟩
    have haccepted := hchecked.issuer
    unfold validIssuer at haccepted
    rw [Bool.and_eq_true] at haccepted
    exact ⟨hhostname.mpr hdotted, hissuer.mpr hzoned,
      nonsecretHttps_plain haccepted.1⟩

/-- The bare domain passes as public host name. -/
theorem bare_domain_accepted :
    ∃ (library : UrlLibrary) (members : Members),
      Accepts library (.object members) ∧ ¬ HostsReal library members := by
  refine ⟨Sample.asciiLibrary, Sample.config "example.com"
    "https://identity.acme.test/tenant", ?_, ?_⟩
  · unfold Accepts
    decide +kernel
  · intro hreal
    exact hreal.hostname (Or.inl rfl)

theorem placeholder_rules_sample :
    HostsReal Sample.asciiLibrary (Sample.config "inventory.acme.test"
        "https://identity.acme.test/tenant") ↔
      DottedPlainly "inventory.acme.test".toList ∧
        ZonedPlainly (issuerHostname Sample.asciiLibrary
          "https://identity.acme.test/tenant") :=
  (placeholder_rules Sample.asciiLibrary).1 _ Sample.config_accepted

end CloudPreflight

end InventoryCloud
