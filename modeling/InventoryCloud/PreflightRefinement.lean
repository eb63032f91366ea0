import InventoryCloud.AcceptedConfigs
import InventoryCloud.IssuerUrls
import InventoryCloud.TerraformPlan

/-!
# From the preflight to the plan

What `validate_config` accepts meets the conditions of the plan, apart from two
differences between the languages: `\d` takes every decimal digit, and
`urlparse` reads a scheme which is not written as `https://` at the start.
-/

namespace InventoryCloud

namespace CloudPreflight

open JsonValue Python Terraform

variable {account region image : String}

/-! ### The image -/

/-- The groups of an accepted image. -/
structure ImageParts (account region image : String)
    (path digest : List Char) : Prop where
  whole : image.toList = account.toList ++ (".dkr.ecr.".toList ++
    (region.toList ++ (".amazonaws.com/".toList ++ (path ++ '@' :: digest))))
  length : account.toList.length = 12
  regionChars : region.toList ≠ [] ∧
    ∀ char ∈ region.toList, ReleaseContract.isRegionChar char = true
  path : path ∈ imageRepository.language
  digest : digest ∈ imageDigest.language

theorem validImage_parts (hvalid : validImage account region image = true) :
    ∃ path digest, ImageParts account region image path digest := by
  unfold validImage at hvalid
  rw [Bool.and_eq_true, Bool.and_eq_true, beq_iff_eq, beq_iff_eq,
    TextPattern.fullmatch_iff] at hvalid
  obtain ⟨⟨himage, haccount⟩, hregion⟩ := hvalid
  unfold imagePattern at himage
  simp only [TextPattern.mem_chain_cons, TextPattern.mem_chain_nil,
    TextPattern.mem_literal, TextPattern.mem_times_one,
    TextPattern.mem_several_one] at himage
  obtain ⟨first, ⟨hlength, -⟩, _, ⟨_, rfl, _, ⟨home, hhome, _, ⟨_, rfl, _,
    ⟨path, hpath, _, ⟨_, rfl, _, ⟨digest, hdigest, _, rfl, rfl⟩, rfl⟩, rfl⟩,
    rfl⟩, rfl⟩, rfl⟩, hwhole⟩ := himage
  have hfirst : first = account.toList := by
    rw [← haccount, imageAccount, ← hwhole, ← hlength, List.take_left]
  have hsecond : home = region.toList := by
    have hdot : '.' ∉ home := by
      intro hmem
      exact absurd (hhome.2 '.' hmem) (by decide)
    have hprefix : (first ++ ".dkr.ecr.".toList).length = 21 := by
      rw [List.length_append, hlength]
      rfl
    have hrest : image.toList.drop 21 = home ++ '.' ::
        ("amazonaws.com/".toList ++ (path ++ ("@".toList ++ digest))) := by
      rw [← hwhole, ← hprefix]
      simp
    rw [← hregion, imageRegion, hrest, Delimited.takeWhile_first hdot]
  subst hfirst hsecond
  refine ⟨path, digest, ?_, hlength, hhome, hpath, hdigest⟩
  rw [← hwhole]
  simp

/-- A text of a pattern which needs a character and matches no line break is
what `.+` matches. -/
theorem anything_of_mem {pattern : TextPattern} {text : List Char}
    (hpattern : pattern.Within (· ≠ '\n'))
    (hblank : pattern.acceptsBlank = false)
    (htext : text ∈ pattern.language) :
    text ∈ (TextPattern.several (.one (· ≠ '\n'))).language := by
  rw [TextPattern.mem_several_one]
  constructor
  · rintro rfl
    rw [(TextPattern.acceptsBlank_iff pattern).mpr htext] at hblank
    cases hblank
  · intro char hchar
    exact decide_eq_true (hpattern.of_mem htext char hchar)

theorem imageRepository_within : imageRepository.Within (· ≠ '\n') := by
  have halnum : (TextPattern.one ReleaseContract.isLowerAlnum).Within
      (· ≠ '\n') := TextPattern.Within.avoids (by decide)
  exact ⟨⟨halnum, halnum⟩, ⟨TextPattern.Within.avoids (by decide),
    ⟨halnum, halnum⟩, trivial⟩, trivial⟩

theorem secretPattern_within : secretPattern.Within (· ≠ '\n') := by
  have hsecret : (TextPattern.one isSecretChar).Within (· ≠ '\n') :=
    TextPattern.Within.avoids (by decide)
  exact ⟨⟨hsecret, hsecret⟩, TextPattern.Within.literal (by simp),
    TextPattern.Within.times (TextPattern.Within.avoids (by decide)) 6,
    trivial⟩

theorem imageDigest_hex {digest : List Char}
    (hdigest : digest ∈ imageDigest.language) :
    ∃ hex ∈ (TextPattern.times 64
      (.one ReleaseContract.isLowerHex)).language,
      digest = "sha256:".toList ++ hex := by
  unfold imageDigest at hdigest
  rw [TextPattern.mem_chain_cons] at hdigest
  obtain ⟨_, hmark, _, hrest, rfl⟩ := hdigest
  rw [TextPattern.mem_chain_cons] at hrest
  obtain ⟨hex, hhex, _, rfl, rfl⟩ := hrest
  rw [TextPattern.mem_literal] at hmark
  exact ⟨hex, hhex, by rw [hmark, List.append_nil]⟩

/-- The validation of the variable asks for digits of ASCII. -/
theorem ImageParts.container_valid {path digest : List Char}
    (hparts : ImageParts account region image path digest) :
    containerImagePattern.fullmatch image.toList = true ↔
      ∀ char ∈ account.toList, char.isDigit = true := by
  rw [TextPattern.fullmatch_iff]
  unfold containerImagePattern
  constructor
  · intro himage
    rw [TextPattern.mem_chain_cons] at himage
    obtain ⟨other, hother, rest, -, hwhole⟩ := himage
    rw [TextPattern.mem_times_one] at hother
    obtain ⟨rfl, -⟩ := List.append_inj (hwhole.trans hparts.whole)
      (hother.1.trans hparts.length.symm)
    exact hother.2
  · intro hdigits
    obtain ⟨hex, hhex, rfl⟩ := imageDigest_hex hparts.digest
    have hwhole : image.toList = account.toList ++ (".dkr.ecr.".toList ++
        (region.toList ++ (".amazonaws.com/".toList ++ (path ++
          ("@sha256:".toList ++ (hex ++ [])))))) := by
      rw [hparts.whole]
      simp
    rw [hwhole]
    exact TextPattern.append_mem_chain
      ((TextPattern.mem_times_one _ _ _).mpr ⟨hparts.length, hdigits⟩)
      (TextPattern.append_mem_chain (TextPattern.literal_mem _)
        (TextPattern.append_mem_chain
          ((TextPattern.mem_several_one _ _).mpr hparts.regionChars)
          (TextPattern.append_mem_chain (TextPattern.literal_mem _)
            (TextPattern.append_mem_chain
              (anything_of_mem imageRepository_within rfl hparts.path)
              (TextPattern.append_mem_chain (TextPattern.literal_mem _)
                (TextPattern.append_mem_chain hhex
                  TextPattern.nil_mem_chain))))))

theorem ImageParts.starts {path digest : List Char}
    (hparts : ImageParts account region image path digest) :
    startsWith (imagePrefix account region) image = true := by
  apply decide_eq_true
  refine ⟨path ++ '@' :: digest, ?_⟩
  unfold imagePrefix
  rw [hparts.whole]
  simp only [String.toList_append, List.append_assoc]

/-! ### The runtime secret -/

theorem secret_valid {secret : String}
    (haccount : account.toList.length = 12)
    (hdigits : ∀ char ∈ account.toList, char.isDigit = true)
    (hregion : region.toList ≠ [] ∧
      ∀ char ∈ region.toList, ReleaseContract.isRegionChar char = true)
    (hvalid : validBelow (secretPrefix account region) secretPattern secret =
      true) :
    secretArnPattern.fullmatch secret.toList = true := by
  obtain ⟨rest, hrest, hsecret⟩ := validBelow_parts hvalid
  have hwhole : secret.toList = "arn:aws:secretsmanager:".toList ++
      (region.toList ++ (":".toList ++ (account.toList ++
        (":secret:".toList ++ (rest ++ []))))) := by
    unfold secretPrefix at hsecret
    simpa only [String.toList_append, List.append_assoc, List.append_nil]
      using hsecret
  rw [TextPattern.fullmatch_iff, hwhole]
  unfold secretArnPattern
  exact TextPattern.append_mem_chain (TextPattern.literal_mem _)
    (TextPattern.append_mem_chain
      ((TextPattern.mem_several_one _ _).mpr hregion)
      (TextPattern.append_mem_chain (TextPattern.literal_mem _)
        (TextPattern.append_mem_chain
          ((TextPattern.mem_times_one _ _ _).mpr ⟨haccount, hdigits⟩)
          (TextPattern.append_mem_chain (TextPattern.literal_mem _)
            (TextPattern.append_mem_chain
              (anything_of_mem secretPattern_within rfl hrest)
              TextPattern.nil_mem_chain)))))

theorem validBelow_starts {start value : String} {pattern : TextPattern}
    (hvalid : validBelow start pattern value = true) :
    startsWith start value = true := by
  unfold validBelow at hvalid
  rw [Bool.and_eq_true] at hvalid
  exact hvalid.1

/-! ### The issuer -/

/-- The first eight characters are no control characters, spaces or capitals.
-/
def PlainStart (issuer : String) : Prop :=
  ∀ char ∈ issuer.toList.take 8,
    isC0ControlOrSpace char = false ∧ char.isUpper = false

theorem unsafe_isControl {char : Char}
    (hchar : isC0ControlOrSpace char = false) : isUnsafe char = false := by
  unfold isUnsafe
  simp only [Bool.or_eq_false_iff, beq_eq_false_iff_ne]
  refine ⟨⟨?_, ?_⟩, ?_⟩ <;>
  · rintro rfl
    exact absurd hchar (by decide)

/-- `urlparse` keeps a start without control characters and spaces. -/
theorem sanitized_take {url : List Char} {count : Nat}
    (hstart : ∀ char ∈ url.take count, isC0ControlOrSpace char = false)
    (hcount : 0 < count) :
    sanitized url = url.take count ++
      (url.drop count).filter fun char => !isUnsafe char := by
  have hkept : url.dropWhile isC0ControlOrSpace = url := by
    cases url with
    | nil => rfl
    | cons first rest =>
        have hfirst : first ∈ (first :: rest).take count := by
          rw [List.take_cons hcount]
          exact List.mem_cons_self
        exact List.dropWhile_cons_of_neg (by simp [hstart first hfirst])
  have htake : (url.take count).filter (fun char => !isUnsafe char) =
      url.take count := by
    rw [List.filter_eq_self]
    intro char hchar
    simp [unsafe_isControl (hstart char hchar)]
  unfold sanitized
  rw [hkept]
  calc url.filter (fun char => !isUnsafe char)
      = (url.take count ++ url.drop count).filter
          (fun char => !isUnsafe char) := by rw [List.take_append_drop]
    _ = url.take count ++
          (url.drop count).filter (fun char => !isUnsafe char) := by
        rw [List.filter_append, htake]

/-- An accepted issuer starts with `https://` exactly when its start is plain.
-/
theorem issuer_starts_iff {library : UrlLibrary} {issuer : String}
    (haccepts : nonsecretHttps library issuer.toList = true) :
    startsWith "https://" issuer = true ↔ PlainStart issuer := by
  constructor
  · intro hstarts
    obtain ⟨rest, hissuer⟩ := of_decide_eq_true hstarts
    unfold PlainStart
    rw [← hissuer, List.take_left' (by rfl)]
    simp [isC0ControlOrSpace, Char.isUpper]
  · intro hplain
    obtain ⟨scheme, netloc, path, tail, hparts⟩ :=
      nonsecretHttps_plain haccepts
    have hwhole := hparts.whole
    rw [sanitized_take (fun char hchar => (hplain char hchar).1) (by decide)]
      at hwhole
    have hscheme : scheme.length = 5 := by
      have hlength := congrArg List.length hparts.https
      rw [List.length_map] at hlength
      exact hlength
    have hlong : 8 ≤ issuer.toList.length := by
      by_contra hshort
      have hlength := congrArg List.length hwhole
      rw [List.drop_eq_nil_of_le (by omega)] at hlength
      have hauthority := List.length_pos_of_ne_nil hparts.authority
      have hslashes : "://".toList.length = 3 := rfl
      simp only [List.filter_nil, List.length_append, List.length_take,
        List.length_nil] at hlength
      omega
    obtain ⟨hstart, -⟩ := List.append_inj
      (show issuer.toList.take 8 ++ _ =
        (scheme ++ "://".toList) ++ (netloc ++ path ++ tail) by
          simpa only [List.append_assoc] using hwhole)
      (by rw [List.length_take, List.length_append, hscheme]
          exact Nat.min_eq_left hlong)
    have hlower : scheme.map Char.toLower = scheme := by
      apply map_toLower_eq
      intro char hchar
      apply (hplain char _).2
      rw [hstart]
      exact List.mem_append_left _ hchar
    apply decide_eq_true
    refine ⟨issuer.toList.drop 8, ?_⟩
    calc "https://".toList ++ issuer.toList.drop 8
        = scheme ++ "://".toList ++ issuer.toList.drop 8 := by
          rw [← hlower, hparts.https]
          rfl
      _ = issuer.toList := by rw [← hstart, List.take_append_drop]

/-! ### The release role -/

theorem nullable_of_isNone {members : Members} {field : String}
    (hnone : isNone (lookup field members) = true) :
    nullable members field = none := by
  unfold nullable
  split
  · rename_i hfound
    rw [hfound] at hnone
    cases hnone
  · rfl

theorem nullable_of_isText {members : Members} {field text : String}
    (htext : isText text (lookup field members) = true) :
    nullable members field = some text := by
  unfold nullable
  split
  · rename_i other hfound
    rw [hfound] at htext
    rw [eq_of_beq htext]
  · rename_i hother
    unfold isText at htext
    split at htext
    · rename_i other hfound
      exact absurd hfound (hother other)
    · cases htext

theorem nullable_of_validGithub {members : Members} {field : String}
    (hvalid : validGithub (lookup field members) = true) :
    ∃ repository, nullable members field = some repository ∧
      githubPattern.fullmatch repository.toList = true := by
  unfold validGithub at hvalid
  split at hvalid
  · rename_i repository hfound
    refine ⟨repository, ?_, hvalid⟩
    unfold nullable
    rw [hfound]
  · cases hvalid

/-! ### The plan -/

/-- The account is spelled with digits of ASCII. -/
def AsciiDigits (account : String) : Prop :=
  ∀ char ∈ account.toList, char.isDigit = true

/-- An accepted configuration meets the conditions of the plan exactly when
its account has digits of ASCII and its issuer starts plainly. -/
theorem plan_conditions_iff (library : UrlLibrary) (members : Members)
    (haccepts : Accepts library (.object members)) :
    PlanConditions (textAt members "aws_account_id") (variablesOf members) ↔
      AsciiDigits (textAt members "aws_account_id") ∧
        PlainStart (textAt members "jwt_issuer_uri") := by
  have hchecked := haccepts.checked
  obtain ⟨path, digest, hparts⟩ := validImage_parts hchecked.image
  have hissuer := hchecked.issuer
  unfold validIssuer at hissuer
  rw [Bool.and_eq_true] at hissuer
  have hstarts := issuer_starts_iff hissuer.1
  constructor
  · intro hplan
    exact ⟨hparts.container_valid.mp hplan.containerImage,
      hstarts.mp hplan.jwtIssuerUri⟩
  · rintro ⟨hdigits, hplain⟩
    refine ⟨hparts.container_valid.mpr hdigits, hstarts.mpr hplain,
      secret_valid hparts.length hdigits hparts.regionChars hchecked.secret, ?_,
      hparts.starts, validBelow_starts hchecked.secret,
      validBelow_starts hchecked.certificate, ?_, ?_⟩
    all_goals
      unfold variablesOf
      dsimp only
      rcases hchecked.github with ⟨hgithub, hprovider⟩ | ⟨hgithub, hprovider⟩
    · rw [nullable_of_isNone hgithub]
      rfl
    · obtain ⟨repository, hrepository, hpattern⟩ :=
        nullable_of_validGithub hgithub
      rw [hrepository]
      exact hpattern
    · rw [nullable_of_isNone hgithub]
      intro hset
      cases hset
    · rw [nullable_of_isText hprovider]
      intro _
      rfl
    · rw [nullable_of_isNone hgithub]
      intro hset
      cases hset
    · rw [nullable_of_isText hprovider]
      intro _
      rfl

/-- An issuer with its scheme in capitals passes the preflight and fails the
plan. -/
theorem capital_scheme_not_planned :
    ∃ (library : UrlLibrary) (members : Members),
      Accepts library (.object members) ∧
        ¬ PlanConditions (textAt members "aws_account_id")
          (variablesOf members) := by
  refine ⟨Sample.asciiLibrary, Sample.config "inventory.acme.test"
    "HTTPS://identity.acme.test/tenant", ?_, ?_⟩
  · unfold Accepts
    decide +kernel
  · intro hplan
    exact absurd hplan.jwtIssuerUri (by decide)

theorem plan_conditions_iff_sample :
    Accepts Sample.asciiLibrary (.object (Sample.config "inventory.acme.test"
        "https://identity.acme.test/tenant")) ∧
      (PlanConditions "123456789012" (variablesOf (Sample.config
          "inventory.acme.test" "https://identity.acme.test/tenant")) ↔
        AsciiDigits "123456789012" ∧
          PlainStart "https://identity.acme.test/tenant") :=
  ⟨Sample.config_accepted, plan_conditions_iff _ _ Sample.config_accepted⟩

end CloudPreflight

end InventoryCloud
