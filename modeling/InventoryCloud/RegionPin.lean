import InventoryCloud.DelimitedTexts
import InventoryCloud.ReleaseGate

/-!
# The region of the images that pass the gate

`verify_deployment` matches the candidate with `REGISTRY_IMAGE` and looks for
`.ecr.<region>.amazonaws.com/` anywhere in it.  The path of a repository may
spell that text as well, and then the host need not be one of the region.
-/

namespace InventoryCloud

namespace ImageVerification

open Interaction JsonValue Python ReleaseContract

variable {python : Library ContractError} {environment : Environment}
  {uri : String} {account home path : List Char}

/-- The part of an image reference before the first `/`. -/
def registryHost (image : String) : List Char :=
  image.toList.takeWhile (· ≠ '/')

open TextPattern in
/-- `<12 digits>.dkr.ecr.<region>.amazonaws.com`, for what `digit` takes for a
digit. -/
def regionalHost (digit : Char → Bool) (region : String) : TextPattern :=
  chain [times 12 (.one digit), literal ".dkr.ecr.", literal region,
    literal ".amazonaws.com"]

open TextPattern in
/-- What `REGISTRY_IMAGE` has between the host and the digest. -/
def repositoryPath : TextPattern :=
  chain [several (.one isLowerAlnum),
    .many (chain [.one isPathSeparator, several (.one isLowerAlnum)])]

/-! ### The parts of a repository -/

def hostOf (account home : List Char) : List Char :=
  account ++ ".dkr.ecr.".toList ++ home ++ ".amazonaws.com".toList

/-- The text that the gate looks for, without the `/` at its end. -/
def regionMark (region : String) : List Char :=
  ".ecr.".toList ++ region.toList ++ ".amazonaws.com".toList

open TextPattern in
structure RepositoryParts (repository : String)
    (account home path : List Char) : Prop where
  whole : repository.toList = hostOf account home ++ '/' :: path
  account : account ∈ (times 12 (.one isDecimalDigit)).language
  home : home ∈ (several (.one isRegionChar)).language
  path : path ∈ repositoryPath.language

theorem mem_registryRepository {repository : String} :
    repository.toList ∈ registryRepository.language ↔
      ∃ account home path, RepositoryParts repository account home path := by
  have hmark : ".amazonaws.com/".toList = ".amazonaws.com".toList ++ ['/'] :=
    rfl
  constructor
  · intro hrepository
    unfold registryRepository at hrepository
    rw [TextPattern.mem_chain_cons] at hrepository
    obtain ⟨account, haccount, _, hrest, hwhole⟩ := hrepository
    rw [TextPattern.mem_chain_cons] at hrest
    obtain ⟨_, hmiddle, _, hrest, rfl⟩ := hrest
    rw [TextPattern.mem_chain_cons] at hrest
    obtain ⟨home, hhome, _, hrest, rfl⟩ := hrest
    rw [TextPattern.mem_chain_cons] at hrest
    obtain ⟨_, hend, path, hpath, rfl⟩ := hrest
    rw [TextPattern.mem_literal] at hmiddle hend
    subst hmiddle hend
    refine ⟨account, home, path, ?_, haccount, hhome, hpath⟩
    rw [← hwhole, hmark]
    simp [hostOf]
  · rintro ⟨account, home, path, hparts⟩
    have hmiddle := (TextPattern.mem_literal _ ".dkr.ecr.").mpr rfl
    have hend := (TextPattern.mem_literal _ ".amazonaws.com/").mpr rfl
    refine ⟨account, hparts.account, _, ⟨_, hmiddle, _, ⟨home, hparts.home, _,
      ⟨_, hend, path, hparts.path, rfl⟩, rfl⟩, rfl⟩, ?_⟩
    rw [hparts.whole, hmark]
    simp [hostOf]

section Parts

variable {repository region : String} {digit : Char → Bool}
  (hparts : RepositoryParts repository account home path)

include hparts

theorem RepositoryParts.account_digits :
    account.length = 12 ∧ ∀ char ∈ account, isDecimalDigit char = true :=
  (TextPattern.mem_times_one _ _ _).mp hparts.account

theorem RepositoryParts.home_chars :
    ∀ char ∈ home, isRegionChar char = true := by
  have hchars : (TextPattern.several (.one isRegionChar)).Within
      fun char => isRegionChar char = true :=
    ⟨fun _ hchar => hchar, fun _ hchar => hchar⟩
  exact hchars.of_mem hparts.home

/-- The host ends at the first `/` of the repository. -/
theorem RepositoryParts.slash_not_mem_host : '/' ∉ hostOf account home := by
  have haccount := hparts.account_digits.2 '/'
  have hhome := hparts.home_chars '/'
  unfold hostOf
  simp only [List.mem_append, not_or]
  refine ⟨⟨⟨?_, by decide⟩, ?_⟩, by decide⟩
  · intro hmem
    exact absurd (haccount hmem) (by decide)
  · intro hmem
    exact absurd (hhome hmem) (by decide)

theorem RepositoryParts.host_of_reference (digest : String) :
    registryHost (repository ++ "@" ++ digest) = hostOf account home := by
  have himage : (repository ++ "@" ++ digest).toList =
      hostOf account home ++ '/' :: (path ++ '@' :: digest.toList) := by
    simp [String.toList_append, hparts.whole]
  unfold registryHost
  rw [himage]
  exact Delimited.takeWhile_first hparts.slash_not_mem_host

/-- The host is one of the region exactly when it spells the region and the
account has the digits asked for. -/
theorem RepositoryParts.host_regional :
    hostOf account home ∈ (regionalHost digit region).language ↔
      home = region.toList ∧ ∀ char ∈ account, digit char = true := by
  unfold regionalHost hostOf
  simp only [TextPattern.mem_chain_cons, TextPattern.mem_chain_nil,
    TextPattern.mem_literal, TextPattern.mem_times_one]
  constructor
  · rintro ⟨other, ⟨hlength, hdigits⟩, _, ⟨_, rfl, _, ⟨_, rfl, _, ⟨_, rfl, _,
      rfl, rfl⟩, rfl⟩, rfl⟩, hsame⟩
    obtain ⟨rfl, hrest⟩ := List.append_inj
      (show other ++ (".dkr.ecr.".toList ++ (region.toList ++
        ".amazonaws.com".toList)) = account ++ (".dkr.ecr.".toList ++ (home ++
        ".amazonaws.com".toList)) by simpa using hsame)
      (hlength.trans hparts.account_digits.1.symm)
    have hhome : region.toList = home := by
      rw [List.append_cancel_left_eq, List.append_cancel_right_eq] at hrest
      exact hrest
    exact ⟨hhome.symm, hdigits⟩
  · rintro ⟨rfl, hdigits⟩
    refine ⟨account, ⟨hparts.account_digits.1, hdigits⟩, _, ⟨_, rfl, _, ⟨_,
      rfl, _, ⟨_, rfl, _, rfl, rfl⟩, rfl⟩, rfl⟩, ?_⟩
    simp

/-- The host spells the text which the gate looks for only if it is one of the
region. -/
theorem RepositoryParts.mark_suffix (hregion : '.' ∉ region.toList) :
    regionMark region <:+ hostOf account home ↔ home = region.toList := by
  have hhome : '.' ∉ home := by
    intro hmem
    exact absurd (hparts.home_chars '.' hmem) (by decide)
  unfold regionMark hostOf
  constructor
  · rintro ⟨before, hsame⟩
    rw [← List.append_assoc, List.append_cancel_right_eq,
      ← List.append_assoc] at hsame
    obtain ⟨-, hregions⟩ := Delimited.eq_of_last hregion hhome
      (show (before ++ ".ecr".toList) ++ '.' :: region.toList =
        (account ++ ".dkr.ecr".toList) ++ '.' :: home by simpa using hsame)
    exact hregions.symm
  · rintro rfl
    exact ⟨account ++ ".dkr".toList, by simp⟩

/-- The text is found in a digest-pinned reference when the host is one of the
region or when the path spells the text. -/
theorem RepositoryParts.inRegion_iff (hregion : '.' ∉ region.toList)
    (hslash : '/' ∉ region.toList) (hat : '@' ∉ region.toList)
    {digest : String} (hdigest : digest.toList ∈ imageId.language) :
    inRegion region (repository ++ "@" ++ digest) = true ↔
      home = region.toList ∨ regionMark region ++ ['/'] <:+: path := by
  have hmark : (".ecr." ++ region ++ ".amazonaws.com/").toList =
      regionMark region ++ ['/'] := by
    simp [regionMark, String.toList_append]
  have himage : (repository ++ "@" ++ digest).toList =
      hostOf account home ++ '/' :: (path ++ '@' :: digest.toList) := by
    simp [String.toList_append, hparts.whole]
  unfold inRegion
  rw [decide_eq_true_iff, hmark, himage, ← hparts.mark_suffix hregion]
  constructor
  · intro hwithin
    rcases Delimited.suffix_or_infix (by simp [regionMark, hslash])
      hparts.slash_not_mem_host hwithin with hsuffix | hwithin
    · exact Or.inl hsuffix
    · rcases Delimited.infix_side (by simp [regionMark, hat]) hwithin with
        hpath | hdigests
      · exact Or.inr hpath
      · have hmem : '/' ∈ digest.toList := hdigests.subset (by simp)
        have hchars : imageId.Within (· ≠ '/') :=
          ⟨TextPattern.Within.literal (by simp), TextPattern.Within.times
            (TextPattern.Within.avoids (by decide)) 64, trivial⟩
        exact absurd rfl (hchars.of_mem hdigest '/' hmem)
  · rintro (⟨before, hsuffix⟩ | ⟨before, after, hwithin⟩)
    · refine ⟨before, path ++ '@' :: digest.toList, ?_⟩
      rw [← hsuffix]
      simp
    · refine ⟨hostOf account home ++ '/' :: before, after ++ '@' ::
        digest.toList, ?_⟩
      rw [← hwithin]
      simp

end Parts

/-! ### Getting past the repository check -/

/-- The settings which the run tests before it asks ECR. -/
def AcceptedSettings (environment : Environment) : Prop :=
  (∀ name ∈ requiredNames, setting environment name ≠ "") ∧
    (requestedDigest environment).toList ∈ imageId.language

/-- Some run goes on to another query after ECR has named the repository. -/
def PassesRepositoryCheck (python : Library ContractError)
    (environment : Environment) (uri : String) : Prop :=
  ∃ next rest result, (verifyDeployment python environment).run.Runs
    (describedRepositories environment uri :: next :: rest) result

/-- Every command prints `uri`. -/
def answering (uri : String) : (request : Request) → Response request
  | .process .. => .completed 0 uri
  | .uuid4 => uri
  | .temporaryDirectory _ => none
  | .chmod _ _ => none
  | .isSymlink _ => none
  | .isFile _ => none
  | .fileSize _ => none
  | .readBytes _ => none
  | .removeDirectory _ => none

theorem run_aws_bind {α : Type} {region : String} {arguments : List String}
    {next : String → Script α} :
    (aws region arguments >>= next).run =
      .ask (.process ("aws" :: arguments ++ ["--region", region,
          "--no-cli-pager"]) none none 60)
        fun outcome => (Fallible.step (checkedOutput outcome) >>= next).run :=
  rfl

theorem run_output_bind {α : Type} {stdout : String}
    {next : String → Script α} :
    (Fallible.step (checkedOutput (.completed 0 stdout)) >>= next).run =
      (next stdout).run :=
  rfl

theorem passesRepositoryCheck_iff :
    PassesRepositoryCheck python environment uri ↔
      AcceptedSettings environment ∧
        (candidateImage environment uri).toList ∈ registryImage.language ∧
        inRegion (region environment) (candidateImage environment uri) =
          true := by
  have hsettings : AcceptedSettings environment ↔
      (requiredNames.all fun name => setting environment name ≠ "") = true ∧
        imageId.fullmatch (setting environment "IMAGE_DIGEST").toList =
          true := by
    rw [AcceptedSettings, TextPattern.fullmatch_iff]
    simp [requestedDigest]
  have hcheck : (candidateImage environment uri).toList ∈
        registryImage.language ∧
      inRegion (region environment) (candidateImage environment uri) = true ↔
      (registryImage.fullmatch (strip uri ++ "@" ++
          setting environment "IMAGE_DIGEST").toList &&
        inRegion (setting environment "AWS_REGION") (strip uri ++ "@" ++
          setting environment "IMAGE_DIGEST")) = true := by
    rw [Bool.and_eq_true, TextPattern.fullmatch_iff]
    rfl
  rw [hsettings, hcheck]
  unfold PassesRepositoryCheck verifyDeployment
  simp only [Fallible.run_check_bind, run_aws_bind]
  by_cases hnames : (requiredNames.all fun name =>
    setting environment name ≠ "") = true
  · by_cases hdigest : imageId.fullmatch
      (setting environment "IMAGE_DIGEST").toList = true
    · simp only [hnames, hdigest, if_true, describedRepositories, awsRan, ran,
        repositoriesCommand, region, Program.runs_ask_cons, run_output_bind,
        Fallible.run_check_bind, true_and]
      split
      · rename_i hpassed
        simp only [hpassed, iff_true]
        exact Program.exists_runs_of_ask (answering uri) rfl
      · rename_i hpassed
        simp only [hpassed, Program.runs_pure]
        simp
    · simp only [hnames, hdigest, if_true, if_false, Bool.false_eq_true,
        Program.runs_pure]
      simp
  · simp only [hnames, Bool.false_eq_true, if_false, Program.runs_pure]
    simp

/-! ### The region of an accepted image -/

/-- The hosts that the gate lets through are those of the region. -/
structure RegionPinned (digit : Char → Bool) (python : Library ContractError)
    (environment : Environment) (uri : String) : Prop where
  candidate : PassesRepositoryCheck python environment uri →
    registryHost (candidateImage environment uri) ∈
      (regionalHost digit (region environment)).language
  baseline : PassesRepositoryCheck python environment uri →
    ∀ definition image, liveImage (strip uri) definition = .ok image →
      registryHost image ∈
        (regionalHost digit (region environment)).language

/-- A repository of another region whose path spells the text that the gate
looks for, or one of the region with other digits than those asked for. -/
def SlipsThrough (digit : Char → Bool) (region repository : String) : Prop :=
  ∃ account home path, RepositoryParts repository account home path ∧
    (home ≠ region.toList ∧ regionMark region ++ ['/'] <:+: path ∨
      home = region.toList ∧ ∃ char ∈ account, digit char = false)

theorem regionChars_avoid {region : String} {char : Char}
    (hregion : ∀ other ∈ region.toList, isRegionChar other = true)
    (hchar : isRegionChar char = false) : char ∉ region.toList := by
  intro hmem
  rw [hregion char hmem] at hchar
  cases hchar

/-- A candidate that passes the check has the host of its repository's
account and region, and one of the two was found. -/
theorem candidate_parts
    (hregion : ∀ char ∈ (region environment).toList,
      isRegionChar char = true)
    (hpasses : PassesRepositoryCheck python environment uri) :
    ∃ account home path, RepositoryParts (strip uri) account home path ∧
      (home = (region environment).toList ∨
        regionMark (region environment) ++ ['/'] <:+: path) := by
  obtain ⟨⟨-, hdigest⟩, himage, hfound⟩ := passesRepositoryCheck_iff.mp hpasses
  have hparts : (candidateImage environment uri).toList =
      (strip uri).toList ++ '@' :: (requestedDigest environment).toList := by
    simp [candidateImage, String.toList_append]
  rw [hparts] at himage
  obtain ⟨account, home, path, hrepository⟩ :=
    mem_registryRepository.mp (registryImage_split himage).1
  refine ⟨account, home, path, hrepository, ?_⟩
  exact (hrepository.inRegion_iff (regionChars_avoid hregion (by decide))
    (regionChars_avoid hregion (by decide))
    (regionChars_avoid hregion (by decide)) hdigest).mp hfound

theorem RepositoryParts.passes {python : Library ContractError}
    (hparts : RepositoryParts (strip uri) account home path)
    (hregion : ∀ char ∈ (region environment).toList,
      isRegionChar char = true)
    (hsettings : AcceptedSettings environment)
    (hfound : home = (region environment).toList ∨
      regionMark (region environment) ++ ['/'] <:+: path) :
    PassesRepositoryCheck python environment uri := by
  rw [passesRepositoryCheck_iff]
  refine ⟨hsettings, ?_, ?_⟩
  · have hwhole : (candidateImage environment uri).toList =
        (strip uri).toList ++ ('@' ::
          (requestedDigest environment).toList) := by
      simp [candidateImage, String.toList_append]
    have hat := (TextPattern.mem_literal _ "@").mpr rfl
    exact ⟨(strip uri).toList,
      mem_registryRepository.mpr ⟨account, home, path, hparts⟩, _,
      ⟨_, hat, _, ⟨_, hsettings.2, [], rfl, List.append_nil _⟩, rfl⟩,
      hwhole.symm⟩
  · exact (hparts.inRegion_iff (regionChars_avoid hregion (by decide))
      (regionChars_avoid hregion (by decide))
      (regionChars_avoid hregion (by decide)) hsettings.2).mpr hfound

/-- The gate pins the region exactly where the repository is not one that
slips through. -/
theorem region_pinned_iff (digit : Char → Bool)
    (python : Library ContractError) (environment : Environment)
    (uri : String)
    (hregion : ∀ char ∈ (region environment).toList,
      isRegionChar char = true) :
    RegionPinned digit python environment uri ↔
      (AcceptedSettings environment →
        ¬ SlipsThrough digit (region environment) (strip uri)) := by
  constructor
  · intro hpinned hsettings hslips
    obtain ⟨account, home, path, hparts, hslips⟩ := hslips
    have hpasses : PassesRepositoryCheck python environment uri := by
      apply hparts.passes hregion hsettings
      rcases hslips with ⟨-, hpath⟩ | ⟨hhome, -⟩
      · exact Or.inr hpath
      · exact Or.inl hhome
    have hhost := hpinned.candidate hpasses
    unfold candidateImage at hhost
    rw [hparts.host_of_reference, hparts.host_regional] at hhost
    rcases hslips with ⟨hother, -⟩ | ⟨-, char, hchar, hdigit⟩
    · exact hother hhost.1
    · rw [hhost.2 char hchar] at hdigit
      cases hdigit
  · intro hstays
    have hhost : PassesRepositoryCheck python environment uri →
        ∀ digest, registryHost (strip uri ++ "@" ++ digest) ∈
          (regionalHost digit (region environment)).language := by
      intro hpasses digest
      have hsettings := (passesRepositoryCheck_iff.mp hpasses).1
      obtain ⟨account, home, path, hparts, hfound⟩ :=
        candidate_parts hregion hpasses
      rw [hparts.host_of_reference, hparts.host_regional]
      by_contra hwrong
      apply hstays hsettings
      refine ⟨account, home, path, hparts, ?_⟩
      by_cases hhome : home = (region environment).toList
      · right
        refine ⟨hhome, ?_⟩
        by_contra hall
        apply hwrong
        refine ⟨hhome, ?_⟩
        intro char hchar
        by_contra hdigit
        exact hall ⟨char, hchar, by simpa using hdigit⟩
      · left
        exact ⟨hhome, hfound.resolve_left hhome⟩
    constructor
    · intro hpasses
      exact hhost hpasses (requestedDigest environment)
    · intro hpasses definition image hlive
      obtain ⟨-, -, -, -, -, digest, rfl, -⟩ := liveImage_ok hlive
      exact hhost hpasses digest

/-- A repository of another region; its path spells the host of the sample's
region. -/
def foreignRepository : String :=
  "123456789012.dkr.ecr.eu-west-1.amazonaws.com/x.ecr.us-east-1.amazonaws.com/app"

theorem region_not_pinned :
    ∃ (python : Library ContractError) (environment : Environment)
      (uri : String),
      (∀ char ∈ (region environment).toList, isRegionChar char = true) ∧
        ¬ RegionPinned isDecimalDigit python environment uri := by
  refine ⟨Sample.library .null "", Sample.settings, foreignRepository,
    List.all_eq_true.mp (by decide +kernel), ?_⟩
  intro hpinned
  have hdigest : imageId.fullmatch
      (requestedDigest Sample.settings).toList = true := by decide +kernel
  have himage : registryImage.fullmatch
      (candidateImage Sample.settings foreignRepository).toList = true := by
    decide +kernel
  have hfound : inRegion (region Sample.settings)
      (candidateImage Sample.settings foreignRepository) = true := by
    decide +kernel
  have hhost := hpinned.candidate (passesRepositoryCheck_iff.mpr
    ⟨⟨by decide, (TextPattern.fullmatch_iff _ _).mp hdigest⟩,
      (TextPattern.fullmatch_iff _ _).mp himage, hfound⟩)
  rw [← TextPattern.fullmatch_iff] at hhost
  exact absurd hhost (by decide +kernel)

theorem region_pinned_iff_sample :
    (∀ char ∈ (region Sample.settings).toList, isRegionChar char = true) ∧
      (RegionPinned isDecimalDigit (Sample.library .null "") Sample.settings
          foreignRepository ↔
        (AcceptedSettings Sample.settings →
          ¬ SlipsThrough isDecimalDigit (region Sample.settings)
            (strip foreignRepository))) :=
  ⟨List.all_eq_true.mp (by decide +kernel),
    region_pinned_iff isDecimalDigit _ _ _
      (List.all_eq_true.mp (by decide +kernel))⟩

end ImageVerification

end InventoryCloud
