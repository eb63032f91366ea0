import InventoryCloud.SecurityReports

/-!
# The gate of the security reports

Which reports the script can go through, when it records a verdict on them, and
what the verdict is on reports of the expected shape.
-/

namespace InventoryCloud

namespace SecurityReports

open JsonValue Outcome Python

/-! ### Shapes -/

/-- The member is absent or as described. -/
def MemberIs (field : String) (shape : JsonValue → Prop)
    (value : JsonValue) : Prop :=
  ∃ members, value = .object members ∧
    ∀ found, lookup field members = some found → shape found

def IsObject (value : JsonValue) : Prop :=
  ∃ members, value = .object members

def IsArray (value : JsonValue) : Prop :=
  ∃ items, value = .array items

def IsText (value : JsonValue) : Prop :=
  ∃ text, value = .string text

def ArrayOf (shape : JsonValue → Prop) (value : JsonValue) : Prop :=
  ∃ items, value = .array items ∧ ∀ item ∈ items, shape item

def FindingShaped : JsonValue → Prop :=
  MemberIs "Severity" IsText

def ResultShaped (value : JsonValue) : Prop :=
  MemberIs "Packages" IsArray value ∧
    MemberIs "Vulnerabilities" (ArrayOf FindingShaped) value

def ReportShaped : JsonValue → Prop :=
  MemberIs "Results" (ArrayOf ResultShaped)

/-- The members which tell the platform of the image. -/
def MetadataShaped : JsonValue → Prop :=
  MemberIs "Metadata" (MemberIs "ImageConfig" IsObject)

/-- A list of such items, or nothing to go through. -/
def EachItem (shape : JsonValue → Prop) (value : JsonValue) : Prop :=
  ArrayOf shape value ∨ value = .string "" ∨ value = .object []

def HasLength (value : JsonValue) : Prop :=
  IsArray value ∨ IsObject value ∨ IsText value

def IsHashable (value : JsonValue) : Prop :=
  ¬ IsArray value ∧ ¬ IsObject value

def FindingReadable : JsonValue → Prop :=
  MemberIs "Severity" IsHashable

def ResultReadable (value : JsonValue) : Prop :=
  MemberIs "Packages" HasLength value ∧
    MemberIs "Vulnerabilities" (EachItem FindingReadable) value

def ReportReadable : JsonValue → Prop :=
  MemberIs "Results" (EachItem ResultReadable)

/-- A file that cannot be read or is no JSON is recorded as an error. -/
def Readable (name : ReportName) : Contents → Prop
  | .unreadable _ => True
  | .notJson _ => True
  | .nestedTooDeeply => False
  | .json data => ReportReadable data ∧ (name = .image → MetadataShaped data)

def IsEmpty (value : JsonValue) : Prop :=
  value = .array [] ∨ value = .object [] ∨ value = .string ""

/-- No result of the report lists a package. -/
def NoPackages (data : JsonValue) : Prop :=
  ∀ items, data.member "Results" = some (.array items) →
    ∀ item ∈ items, ∀ packages, item.member "Packages" = some packages →
      IsEmpty packages

/-- A file which cannot be read, is no JSON or lists no package. -/
def Refused (contents : Contents) : Prop :=
  ∀ data, contents = .json data → NoPackages data

/-! ### Computations that end -/

def Ends {α : Type} (outcome : Except Raised α) : Prop :=
  ∃ value, outcome = .ok value

theorem ends_bind {α β : Type} {first : Except Raised α}
    {next : α → Except Raised β} :
    Ends (first >>= next) ↔ ∃ value, first = .ok value ∧ Ends (next value) := by
  unfold Ends
  simp only [bind_ok]
  exact exists_comm.trans (exists_congr fun value => exists_and_left)

theorem ends_mapM {α β : Type} {test : α → Except Raised β}
    {items : List α} :
    Ends (items.mapM test) ↔ ∀ item ∈ items, Ends (test item) := by
  induction items with
  | nil => simp [Ends, pure, Except.pure]
  | cons item rest ih =>
      rw [List.mapM_cons, ends_bind, List.forall_mem_cons, ← ih]
      constructor
      · rintro ⟨value, hvalue, hrest⟩
        obtain ⟨others, hothers, -⟩ := ends_bind.mp hrest
        exact ⟨⟨value, hvalue⟩, others, hothers⟩
      · rintro ⟨⟨value, hvalue⟩, others, hothers⟩
        exact ⟨value, hvalue, ends_bind.mpr ⟨others, hothers, _, rfl⟩⟩

/-- Reading a member with a default of the wanted shape. -/
theorem getOr_shape {field : String} {missing value : JsonValue}
    {shape : JsonValue → Prop} (hmissing : shape missing) :
    (∃ found, (getOr field missing value : Except Raised JsonValue) =
        .ok found ∧ shape found) ↔ MemberIs field shape value := by
  unfold MemberIs
  cases value with
  | object members =>
      constructor
      · rintro ⟨found, hfound, hshape⟩
        refine ⟨members, rfl, ?_⟩
        intro other hother
        rw [getOr, hother, Except.ok.injEq] at hfound
        rw [← hfound] at hshape
        exact hshape
      · rintro ⟨other, hother, hshape⟩
        cases hother
        refine ⟨_, rfl, ?_⟩
        cases hlookup : lookup field members with
        | none => exact hmissing
        | some found => exact hshape found hlookup
  | _ => simp [getOr]

theorem iterate_shape {Own : Type} {value : JsonValue}
    {shape : JsonValue → Prop} (hobjects : ∀ item, shape item → IsObject item) :
    (∃ items, (iterate value : Except (PythonError Own) (List JsonValue)) =
        .ok items ∧ ∀ item ∈ items, shape item) ↔ EachItem shape value := by
  unfold EachItem ArrayOf
  cases value with
  | array items =>
      constructor
      · rintro ⟨others, hothers, hshape⟩
        cases hothers
        exact Or.inl ⟨items, rfl, hshape⟩
      · rintro (⟨others, hothers, hshape⟩ | hempty | hempty)
        · cases hothers
          exact ⟨items, rfl, hshape⟩
        · cases hempty
        · cases hempty
  | string text =>
      constructor
      · rintro ⟨items, hitems, hshape⟩
        right
        left
        rw [iterate, Except.ok.injEq] at hitems
        cases hchars : text.toList with
        | nil => rw [String.toList_eq_nil_iff.mp hchars]
        | cons char rest =>
            rw [hchars, List.map_cons] at hitems
            rw [← hitems] at hshape
            obtain ⟨members, hmembers⟩ :=
              hobjects _ (hshape _ List.mem_cons_self)
            cases hmembers
      · rintro (⟨items, hitems, -⟩ | hempty | hempty)
        · cases hitems
        · rw [hempty]
          exact ⟨[], rfl, by simp⟩
        · cases hempty
  | object members =>
      constructor
      · rintro ⟨items, hitems, hshape⟩
        right
        right
        rw [iterate, Except.ok.injEq] at hitems
        cases members with
        | nil => rfl
        | cons member rest =>
            have hname : member.1 ∈ names (member :: rest) := by
              rw [mem_names, lookup_isSome_iff]
              exact List.mem_cons_self
            have hitem : JsonValue.string member.1 ∈ items := by
              rw [← hitems]
              exact List.mem_map_of_mem hname
            obtain ⟨inner, hinner⟩ := hobjects _ (hshape _ hitem)
            cases hinner
      · rintro (⟨items, hitems, -⟩ | hempty | hempty)
        · cases hitems
        · cases hempty
        · cases hempty
          exact ⟨[], rfl, by simp⟩
  | _ => simp [iterate]

/-! ### Reading one report -/

theorem ends_len {value : JsonValue} :
    Ends (len value : Except Raised Nat) ↔ HasLength value := by
  cases value <;> simp [Ends, len, HasLength, IsArray, IsObject, IsText]

theorem len_eq_zero {value : JsonValue} {count : Nat}
    (hlen : (len value : Except Raised Nat) = .ok count) :
    count = 0 ↔ IsEmpty value := by
  cases value with
  | array items =>
      cases hlen
      simp [IsEmpty, List.length_eq_zero_iff]
  | string text =>
      cases hlen
      simp [IsEmpty, List.length_eq_zero_iff]
  | object members =>
      cases hlen
      rw [List.length_eq_zero_iff]
      cases members with
      | nil => simp [IsEmpty, names]
      | cons member rest =>
          have hname : member.1 ∈ names (member :: rest) := by
            rw [mem_names, lookup_isSome_iff]
            exact List.mem_cons_self
          simp [IsEmpty, List.ne_nil_of_mem hname]
  | _ => cases hlen

theorem ends_packageCount {found : JsonValue} :
    Ends (packageCount found) ↔ MemberIs "Packages" HasLength found := by
  have hnone : HasLength (.array []) := Or.inl ⟨[], rfl⟩
  rw [packageCount, ends_bind, ← getOr_shape hnone]
  simp only [ends_len]

theorem packageCount_eq_zero {found : JsonValue} {count : Nat}
    (hcount : packageCount found = .ok count) :
    count = 0 ↔
      ∀ packages, found.member "Packages" = some packages →
        IsEmpty packages := by
  obtain ⟨packages, hpackages, hlen⟩ := bind_ok.mp hcount
  rw [len_eq_zero hlen]
  cases found with
  | object members =>
      rw [getOr, Except.ok.injEq] at hpackages
      rw [← hpackages, member_object]
      cases lookup "Packages" members with
      | none => simp [IsEmpty]
      | some found => simp
  | _ => cases hpackages

theorem ends_dictKey {value : JsonValue} :
    Ends (dictKey value) ↔ IsHashable value := by
  cases value <;> simp [Ends, dictKey, IsHashable, IsArray, IsObject]

theorem ends_severityKey {vulnerability : JsonValue} :
    Ends (severityKey vulnerability) ↔ FindingReadable vulnerability := by
  have hunknown : IsHashable (.string "UNKNOWN") := by
    simp [IsHashable, IsArray, IsObject]
  rw [severityKey, FindingReadable, ends_bind, ← getOr_shape hunknown]
  simp only [ends_dictKey]

theorem MemberIs.isObject {field : String} {shape : JsonValue → Prop}
    {value : JsonValue} (hmember : MemberIs field shape value) :
    IsObject value := by
  obtain ⟨members, hvalue, -⟩ := hmember
  exact ⟨members, hvalue⟩

theorem vulnerabilities_readable {found : JsonValue} :
    (∃ findings, vulnerabilities found = .ok findings ∧
      ∀ finding ∈ findings, FindingReadable finding) ↔
      MemberIs "Vulnerabilities" (EachItem FindingReadable) found := by
  have hnone : EachItem FindingReadable (.array []) :=
    Or.inl ⟨[], rfl, by simp⟩
  rw [← getOr_shape hnone]
  simp only [vulnerabilities, bind_ok]
  constructor
  · rintro ⟨findings, ⟨listed, hlisted, hfindings⟩, hreadable⟩
    exact ⟨listed, hlisted, (iterate_shape fun _ => MemberIs.isObject).mp
      ⟨findings, hfindings, hreadable⟩⟩
  · rintro ⟨listed, hlisted, heach⟩
    obtain ⟨findings, hfindings, hreadable⟩ :=
      (iterate_shape fun _ => MemberIs.isObject).mpr heach
    exact ⟨findings, ⟨listed, hlisted, hfindings⟩, hreadable⟩

theorem ends_getOr {field : String} {missing value : JsonValue} :
    Ends (getOr field missing value : Except Raised JsonValue) ↔
      IsObject value := by
  cases value <;> simp [Ends, getOr, IsObject]

theorem ends_imagePlatform {str : JsonValue → String} {data : JsonValue} :
    Ends (imagePlatform str data) ↔ MetadataShaped data := by
  have hnone : MemberIs "ImageConfig" IsObject (.object []) :=
    ⟨[], rfl, by simp⟩
  have hobject : IsObject (.object []) := ⟨[], rfl⟩
  constructor
  · rintro ⟨platform, hplatform⟩
    obtain ⟨metadata, hmetadata, hrest⟩ := bind_ok.mp hplatform
    obtain ⟨config, hconfig, hrest⟩ := bind_ok.mp hrest
    obtain ⟨os, hos, -⟩ := bind_ok.mp hrest
    have hinner := (getOr_shape hobject).mp
      ⟨config, hconfig, ends_getOr.mp ⟨os, hos⟩⟩
    exact (getOr_shape hnone).mp ⟨metadata, hmetadata, hinner⟩
  · intro hshaped
    obtain ⟨metadata, hmetadata, hinner⟩ := (getOr_shape hnone).mpr hshaped
    obtain ⟨config, hconfig, members, rfl⟩ :=
      (getOr_shape hobject).mpr hinner
    exact ⟨_, bind_ok.mpr ⟨metadata, hmetadata, bind_ok.mpr
      ⟨_, hconfig, rfl⟩⟩⟩

theorem ends_platformOf {str : JsonValue → String} {data : JsonValue}
    {name : ReportName} :
    Ends (platformOf str data name) ↔
      (name = .image → MetadataShaped data) := by
  cases name with
  | dependencies => simp [Ends, platformOf]
  | image =>
      rw [platformOf, ends_bind, ← @ends_imagePlatform str]
      simp [Ends, pure, Except.pure]

/-- The script gets through a report exactly if its lists have items that it
can read. -/
theorem ends_readReport {str : JsonValue → String} {name : ReportName}
    {data : JsonValue} :
    Ends (readReport str name (.json data)) ↔
      ReportReadable data ∧ (name = .image → MetadataShaped data) := by
  have hobject : ∀ item, ResultReadable item → IsObject item :=
    fun item hitem => hitem.1.isObject
  have hnone : EachItem ResultReadable (.array []) :=
    Or.inl ⟨[], rfl, by simp⟩
  constructor
  · rintro ⟨reading, hreading⟩
    obtain ⟨read, hread, hrest⟩ := bind_ok.mp hreading
    cases hread
    obtain ⟨results, hresults, hrest⟩ := bind_ok.mp hrest
    obtain ⟨found, hfound, hrest⟩ := bind_ok.mp hrest
    obtain ⟨packages, hpackages, hrest⟩ := bind_ok.mp hrest
    obtain ⟨findings, hfindings, hrest⟩ := bind_ok.mp hrest
    obtain ⟨platform, hplatform, hrest⟩ := bind_ok.mp hrest
    obtain ⟨keys, hkeys, -⟩ := bind_ok.mp hrest
    refine ⟨(getOr_shape hnone).mp ⟨results, hresults,
      (iterate_shape hobject).mp ⟨found, hfound, ?_⟩⟩,
      ends_platformOf.mp ⟨platform, hplatform⟩⟩
    intro item hitem
    obtain ⟨count, -, hcount⟩ := mapM_mem hpackages hitem
    obtain ⟨listed, hmem, hlisted⟩ := mapM_mem hfindings hitem
    refine ⟨ends_packageCount.mp ⟨count, hcount⟩,
      vulnerabilities_readable.mp ⟨listed, hlisted, ?_⟩⟩
    intro finding hfinding
    obtain ⟨key, -, hkey⟩ := mapM_mem hkeys
      (List.mem_flatten_of_mem hmem hfinding)
    exact ends_severityKey.mp ⟨key, hkey⟩
  · rintro ⟨hreadable, hmetadata⟩
    obtain ⟨results, hresults, heach⟩ := (getOr_shape hnone).mpr hreadable
    obtain ⟨found, hfound, hitems⟩ := (iterate_shape hobject).mpr heach
    have hlists : ∀ item ∈ found, ∃ findings,
        vulnerabilities item = .ok findings ∧
          ∀ finding ∈ findings, FindingReadable finding :=
      fun item hitem => vulnerabilities_readable.mpr (hitems item hitem).2
    obtain ⟨packages, hpackages⟩ := ends_mapM.mpr fun item hitem =>
      ends_packageCount.mpr (hitems item hitem).1
    obtain ⟨findings, hfindings⟩ := ends_mapM.mpr fun item hitem =>
      (hlists item hitem).imp fun _ hlist => hlist.1
    obtain ⟨platform, hplatform⟩ : Ends (platformOf str data name) :=
      ends_platformOf.mpr hmetadata
    have hkeys : ∀ finding ∈ findings.flatten, Ends (severityKey finding) := by
      intro finding hfinding
      obtain ⟨list, hlist, hmem⟩ := List.mem_flatten.mp hfinding
      obtain ⟨item, hitem, hsame⟩ := mem_mapM hfindings hlist
      obtain ⟨other, hother, hreadable⟩ := hlists item hitem
      obtain rfl : list = other := Except.ok.inj (hsame.symm.trans hother)
      exact ends_severityKey.mpr (hreadable finding hmem)
    obtain ⟨keys, hkeys⟩ := ends_mapM.mpr hkeys
    exact ⟨_, bind_ok.mpr ⟨data, rfl, bind_ok.mpr ⟨results, hresults,
      bind_ok.mpr ⟨found, hfound, bind_ok.mpr ⟨packages, hpackages,
        bind_ok.mpr ⟨findings, hfindings, bind_ok.mpr ⟨platform, hplatform,
          bind_ok.mpr ⟨keys, hkeys, rfl⟩⟩⟩⟩⟩⟩⟩⟩

/-! ### Exceptions that end the script -/

/-- What the computation raises is not caught. -/
def Uncaught {α : Type} (outcome : Except Raised α) : Prop :=
  ∀ error, outcome = .error error → caughtMessage error = none

theorem Uncaught.ok {α : Type} (value : α) :
    Uncaught (.ok value : Except Raised α) :=
  nofun

theorem Uncaught.bind {α β : Type} {first : Except Raised α}
    {next : α → Except Raised β} (hfirst : Uncaught first)
    (hnext : ∀ value, Uncaught (next value)) : Uncaught (first >>= next) := by
  cases first with
  | ok value => exact hnext value
  | error raised =>
      intro error herror
      cases herror
      exact hfirst raised rfl

theorem Uncaught.mapM {α β : Type} {test : α → Except Raised β}
    (htest : ∀ item, Uncaught (test item)) (items : List α) :
    Uncaught (items.mapM test) := by
  induction items with
  | nil => exact Uncaught.ok []
  | cons item rest ih =>
      rw [List.mapM_cons]
      exact (htest item).bind fun value => ih.bind fun others => Uncaught.ok _

theorem uncaught_getOr (field : String) (missing value : JsonValue) :
    Uncaught (getOr field missing value) := by
  cases value <;> simp [Uncaught, getOr, caughtMessage]

theorem uncaught_iterate (value : JsonValue) : Uncaught (iterate value) := by
  cases value <;> simp [Uncaught, iterate, caughtMessage]

theorem uncaught_len (value : JsonValue) : Uncaught (len value) := by
  cases value <;> simp [Uncaught, len, caughtMessage]

theorem uncaught_dictKey (value : JsonValue) : Uncaught (dictKey value) := by
  cases value <;> simp [Uncaught, dictKey, caughtMessage]

theorem uncaught_platformOf (str : JsonValue → String) (data : JsonValue)
    (name : ReportName) : Uncaught (platformOf str data name) := by
  cases name with
  | dependencies => exact Uncaught.ok none
  | image =>
      refine Uncaught.bind ?_ fun platform => Uncaught.ok _
      exact (uncaught_getOr _ _ _).bind fun metadata =>
        (uncaught_getOr _ _ _).bind fun config =>
          (uncaught_getOr _ _ _).bind fun os =>
            (uncaught_getOr _ _ _).bind fun architecture => Uncaught.ok _

/-- Whatever goes wrong in a report that was loaded is not caught. -/
theorem uncaught_readReport (str : JsonValue → String) (name : ReportName)
    (data : JsonValue) :
    Uncaught (readReport str name (.json data)) := by
  refine (Uncaught.ok data).bind fun data => ?_
  refine (uncaught_getOr _ _ _).bind fun results => ?_
  refine (uncaught_iterate _).bind fun found => ?_
  refine (Uncaught.mapM ?_ found).bind fun packages => ?_
  · intro item
    exact (uncaught_getOr _ _ _).bind uncaught_len
  refine (Uncaught.mapM ?_ found).bind fun findings => ?_
  · intro item
    exact (uncaught_getOr _ _ _).bind uncaught_iterate
  refine (uncaught_platformOf str data name).bind fun platform => ?_
  refine (Uncaught.mapM ?_ findings.flatten).bind fun keys => Uncaught.ok _
  intro finding
  exact (uncaught_getOr _ _ _).bind uncaught_dictKey

/-! ### The effect of one report -/

section Reports

variable {str : JsonValue → String} {inputs : Inputs}

theorem addReport_json {name : ReportName} {summary : Summary}
    {data : JsonValue} (hcontents : inputs.contents name = .json data) :
    addReport str inputs name summary =
      (readReport str name (.json data)).map (summary.addReading name) := by
  unfold addReport
  rw [hcontents]
  cases hreading : readReport str name (.json data) with
  | ok reading => rfl
  | error error =>
      dsimp only
      rw [uncaught_readReport str name data error hreading]
      rfl

theorem ends_addReport {name : ReportName} {summary : Summary} :
    Ends (addReport str inputs name summary) ↔
      Readable name (inputs.contents name) := by
  cases hcontents : inputs.contents name with
  | json data =>
      rw [addReport_json hcontents, Readable, ← @ends_readReport str]
      cases readReport str name (.json data) with
      | ok reading => exact iff_of_true ⟨_, rfl⟩ ⟨_, rfl⟩
      | error error => exact iff_of_false nofun nofun
  | nestedTooDeeply =>
      refine iff_of_false ?_ id
      unfold addReport
      rw [hcontents]
      nofun
  | _ =>
      refine iff_of_true ?_ trivial
      unfold addReport
      rw [hcontents]
      exact ⟨_, rfl⟩

/-- A text or an object in the place of the results gives texts, which have no
packages. -/
theorem noPackages_iterated {data results : JsonValue} {found : List JsonValue}
    (hresults : (getOr "Results" (.array []) data : Except Raised JsonValue) =
      .ok results)
    (hfound : (iterate results : Except Raised (List JsonValue)) = .ok found) :
    (∀ item ∈ found, ∀ listed, item.member "Packages" = some listed →
      IsEmpty listed) ↔ NoPackages data := by
  have hnone : ∀ text listed,
      (JsonValue.string text).member "Packages" ≠ some listed := nofun
  cases data with
  | object members =>
      rw [getOr, Except.ok.injEq] at hresults
      unfold NoPackages
      rw [member_object]
      cases hlookup : lookup "Results" members with
      | none =>
          rw [hlookup, Option.getD_none] at hresults
          rw [← hresults] at hfound
          cases hfound
          simp
      | some value =>
          rw [hlookup, Option.getD_some] at hresults
          subst hresults
          cases value with
          | array items =>
              cases hfound
              simp
          | string text =>
              cases hfound
              refine iff_of_true ?_ nofun
              intro item hitem listed hlisted
              obtain ⟨char, -, rfl⟩ := List.mem_map.mp hitem
              exact absurd hlisted (hnone _ listed)
          | object inner =>
              cases hfound
              refine iff_of_true ?_ nofun
              intro item hitem listed hlisted
              obtain ⟨key, -, rfl⟩ := List.mem_map.mp hitem
              exact absurd hlisted (hnone _ listed)
          | _ => cases hfound
  | _ => cases hresults

theorem readReport_noPackages {name : ReportName} {data : JsonValue}
    {reading : Reading}
    (hreading : readReport str name (.json data) = .ok reading) :
    reading.packages = 0 ↔ NoPackages data := by
  obtain ⟨read, hread, hrest⟩ := bind_ok.mp hreading
  cases hread
  obtain ⟨results, hresults, hrest⟩ := bind_ok.mp hrest
  obtain ⟨found, hfound, hrest⟩ := bind_ok.mp hrest
  obtain ⟨packages, hpackages, hrest⟩ := bind_ok.mp hrest
  obtain ⟨findings, -, hrest⟩ := bind_ok.mp hrest
  obtain ⟨platform, -, hrest⟩ := bind_ok.mp hrest
  obtain ⟨keys, -, hrest⟩ := bind_ok.mp hrest
  rw [← pure_ok.mp hrest]
  dsimp only
  have hcounts : packages.sum = 0 ↔ ∀ item ∈ found,
      ∀ listed, item.member "Packages" = some listed → IsEmpty listed := by
    rw [List.sum_eq_zero_iff]
    constructor
    · intro hzero item hitem
      obtain ⟨count, hcount, hsame⟩ := mapM_mem hpackages hitem
      exact (packageCount_eq_zero hsame).mp (hzero count hcount)
    · intro hempty count hcount
      obtain ⟨item, hitem, hsame⟩ := mem_mapM hpackages hcount
      exact (packageCount_eq_zero hsame).mpr (hempty item hitem)
  rw [hcounts]
  exact noPackages_iterated hresults hfound

/-- A report adds a scan error exactly if it is refused. -/
theorem addReport_scanErrors {name : ReportName} {summary next : Summary}
    (hnext : addReport str inputs name summary = .ok next) :
    next.scanErrors = true ↔
      summary.scanErrors = true ∨ Refused (inputs.contents name) := by
  cases hcontents : inputs.contents name with
  | json data =>
      have hrefused : Refused (.json data) ↔ NoPackages data := by
        simp [Refused]
      rw [addReport_json hcontents] at hnext
      cases hreading : readReport str name (.json data) with
      | ok reading =>
          rw [hreading] at hnext
          cases hnext
          rw [hrefused, ← readReport_noPackages hreading]
          simp [Summary.addReading]
      | error error =>
          rw [hreading] at hnext
          cases hnext
  | nestedTooDeeply =>
      unfold addReport at hnext
      rw [hcontents] at hnext
      cases hnext
  | _ =>
      unfold addReport at hnext
      rw [hcontents] at hnext
      cases hnext
      exact iff_of_true rfl (Or.inr nofun)

theorem ends_check :
    Ends (checkSecurityReports str inputs) ↔
      Readable .dependencies (inputs.contents .dependencies) ∧
        Readable .image (inputs.contents .image) := by
  unfold checkSecurityReports
  rw [ends_bind]
  constructor
  · rintro ⟨first, hfirst, hrest⟩
    obtain ⟨second, hsecond, -⟩ := ends_bind.mp hrest
    exact ⟨ends_addReport.mp ⟨first, hfirst⟩,
      ends_addReport.mp ⟨second, hsecond⟩⟩
  · rintro ⟨hdependencies, himage⟩
    obtain ⟨first, hfirst⟩ : Ends (addReport str inputs .dependencies
        (initialSummary inputs)) := ends_addReport.mpr hdependencies
    obtain ⟨second, hsecond⟩ : Ends (addReport str inputs .image first) :=
      ends_addReport.mpr himage
    exact ⟨first, hfirst, ends_bind.mpr ⟨second, hsecond, _, rfl⟩⟩

theorem check_scanErrors {summary : Summary}
    (hsummary : checkSecurityReports str inputs = .ok summary) :
    summary.scanErrors = true ↔ inputs.scanFailed ≠ "0" ∨
      Refused (inputs.contents .dependencies) ∨
        Refused (inputs.contents .image) := by
  obtain ⟨first, hfirst, hrest⟩ := bind_ok.mp hsummary
  obtain ⟨second, hsecond, hsame⟩ := bind_ok.mp hrest
  have hstart : (initialSummary inputs).scanErrors = true ↔
      inputs.scanFailed ≠ "0" := by
    simp [initialSummary]
  rw [← pure_ok.mp hsame]
  change second.scanErrors = true ↔ _
  rw [addReport_scanErrors hsecond, addReport_scanErrors hfirst, hstart,
    or_assoc]

/-- A scan error fails the gate. -/
theorem failed_of_scanErrors {summary : Summary}
    (hsummary : checkSecurityReports str inputs = .ok summary)
    (herrors : summary.scanErrors = true) :
    summary.passed = false ∧
      exitStatus (checkSecurityReports str inputs) = 1 := by
  have hpassed : summary.passed = false := by
    obtain ⟨first, -, hrest⟩ := bind_ok.mp hsummary
    obtain ⟨second, -, hsame⟩ := bind_ok.mp hrest
    have hsame : second.decided = summary := pure_ok.mp hsame
    have hsecond : second.scanErrors = true := by
      rw [← hsame] at herrors
      exact herrors
    rw [← hsame, Summary.decided, hsecond]
    rfl
  refine ⟨hpassed, ?_⟩
  rw [hsummary, exitStatus, hpassed]
  rfl

/-- The items of a list member. -/
def itemsAt (field : String) (value : JsonValue) : List JsonValue :=
  match value.member field with
  | some (.array items) => items
  | _ => []

def packagesIn (data : JsonValue) : List JsonValue :=
  (itemsAt "Results" data).flatMap (itemsAt "Packages")

def findingsIn (data : JsonValue) : List JsonValue :=
  (itemsAt "Results" data).flatMap (itemsAt "Vulnerabilities")

def severityOf (finding : JsonValue) : String :=
  match finding.member "Severity" with
  | some (.string severity) => severity
  | _ => "UNKNOWN"

/-- The keys which the findings of a report are counted under. -/
def severityKeys (data : JsonValue) : List DictKey :=
  (findingsIn data).map fun finding => .text (severityOf finding)

def IsBlocking (finding : JsonValue) : Prop :=
  severityOf finding = "HIGH" ∨ severityOf finding = "CRITICAL"

/-- The entry counts every package and every finding once. -/
def CountsAll (data : JsonValue) (entry : ReportEntry) : Prop :=
  ∃ counts, entry = .counted (packagesIn data).length counts ∧
    (counts.map Prod.fst).Nodup ∧
    ∀ key count, (key, count) ∈ counts ↔
      ∃ severity, key = .text severity ∧ 0 < count ∧
        count = (findingsIn data).countP fun finding =>
          severityOf finding == severity

theorem getOr_items {field : String} {shape : JsonValue → Prop}
    {value : JsonValue} (hshaped : MemberIs field (ArrayOf shape) value) :
    (getOr field (.array []) value : Except Raised JsonValue) =
        .ok (.array (itemsAt field value)) ∧
      ∀ item ∈ itemsAt field value, shape item := by
  obtain ⟨members, rfl, hmember⟩ := hshaped
  unfold itemsAt
  rw [getOr, member_object]
  cases hlookup : lookup field members with
  | none => exact ⟨rfl, by simp⟩
  | some found =>
      obtain ⟨items, rfl, hitems⟩ := hmember found hlookup
      exact ⟨rfl, hitems⟩

theorem packageCount_shaped {found : JsonValue}
    (hshaped : MemberIs "Packages" IsArray found) :
    packageCount found = .ok (itemsAt "Packages" found).length := by
  have hitems : MemberIs "Packages" (ArrayOf fun _ => True) found := by
    obtain ⟨members, hfound, hmember⟩ := hshaped
    refine ⟨members, hfound, ?_⟩
    intro other hother
    obtain ⟨items, hsame⟩ := hmember other hother
    exact ⟨items, hsame, fun _ _ => trivial⟩
  rw [packageCount, (getOr_items hitems).1, ok_bind]
  rfl

theorem severityKey_shaped {finding : JsonValue}
    (hshaped : FindingShaped finding) :
    severityKey finding = .ok (.text (severityOf finding)) := by
  obtain ⟨members, rfl, hmember⟩ := hshaped
  unfold severityKey severityOf
  rw [getOr, member_object]
  cases hlookup : lookup "Severity" members with
  | none => rfl
  | some found =>
      obtain ⟨text, rfl⟩ := hmember found hlookup
      rfl

theorem readReport_shaped {name : ReportName} {data : JsonValue}
    (hshaped : ReportShaped data)
    (hmetadata : name = .image → MetadataShaped data) :
    ∃ platform, readReport str name (.json data) =
      .ok ⟨(packagesIn data).length, Counter.ofList (severityKeys data),
        platform⟩ := by
  obtain ⟨hresults, hitems⟩ := getOr_items hshaped
  obtain ⟨platform, hplatform⟩ : Ends (platformOf str data name) :=
    ends_platformOf.mpr hmetadata
  have hpackages := mapM_ok fun item hitem =>
    packageCount_shaped (hitems item hitem).1
  have hlisted : ∀ item ∈ itemsAt "Results" data, vulnerabilities item =
      .ok (itemsAt "Vulnerabilities" item) := by
    intro item hitem
    rw [vulnerabilities, (getOr_items (hitems item hitem).2).1, ok_bind]
    rfl
  have hkeys : ∀ finding ∈ findingsIn data,
      severityKey finding = .ok (.text (severityOf finding)) := by
    intro finding hfinding
    obtain ⟨item, hitem, hmem⟩ := List.mem_flatMap.mp hfinding
    exact severityKey_shaped ((getOr_items (hitems item hitem).2).2 _ hmem)
  refine ⟨platform, ?_⟩
  unfold readReport
  rw [load, ok_bind, hresults, ok_bind, iterate, ok_bind, hpackages, ok_bind,
    mapM_ok hlisted, ok_bind, hplatform, ok_bind, ← List.flatMap_def]
  change ((findingsIn data).mapM severityKey >>= _) = _
  rw [mapM_ok hkeys, ok_bind, packagesIn, List.length_flatMap]
  rfl

theorem count_severityKeys (data : JsonValue) (severity : String) :
    (severityKeys data).count (.text severity) =
      (findingsIn data).countP fun finding =>
        severityOf finding == severity := by
  rw [severityKeys, List.count_eq_countP, List.countP_map]
  apply List.countP_congr
  intro finding hfinding
  rw [Function.comp_apply, beq_iff_eq, beq_iff_eq, DictKey.text.injEq]

theorem countsAll_counter (data : JsonValue) :
    CountsAll data (.counted (packagesIn data).length
      (Counter.ofList (severityKeys data))) := by
  refine ⟨_, rfl, Counter.nodup_ofList _, ?_⟩
  intro key count
  rw [Counter.mem_ofList]
  constructor
  · rintro ⟨hkey, rfl⟩
    obtain ⟨finding, hfinding, rfl⟩ := List.mem_map.mp hkey
    exact ⟨severityOf finding, rfl, List.count_pos_iff.mpr hkey,
      count_severityKeys data _⟩
  · rintro ⟨severity, rfl, hpositive, rfl⟩
    rw [← count_severityKeys] at hpositive ⊢
    exact ⟨List.count_pos_iff.mp hpositive, rfl⟩

/-- Some severity of the list counts among the findings. -/
theorem any_counted (data : JsonValue) (severities : List String) :
    (severities.any fun severity =>
      Counter.get (.text severity) (Counter.ofList (severityKeys data)) != 0) =
        true ↔
      ∃ finding ∈ findingsIn data, severityOf finding ∈ severities := by
  rw [List.any_eq_true]
  constructor
  · rintro ⟨severity, hseverity, hcount⟩
    rw [Counter.get_ofList, count_severityKeys, bne_iff_ne,
      ← Nat.pos_iff_ne_zero, List.countP_pos_iff] at hcount
    obtain ⟨finding, hfinding, hsame⟩ := hcount
    rw [← eq_of_beq hsame] at hseverity
    exact ⟨finding, hfinding, hseverity⟩
  · rintro ⟨finding, hfinding, hseverity⟩
    refine ⟨severityOf finding, hseverity, ?_⟩
    rw [Counter.get_ofList, count_severityKeys, bne_iff_ne,
      ← Nat.pos_iff_ne_zero, List.countP_pos_iff]
    exact ⟨finding, hfinding, beq_self_eq_true _⟩

/-- What the script has counted when both reports have the expected shape. -/
theorem check_shaped {dependencies image : JsonValue}
    (hdependencies : inputs.contents .dependencies = .json dependencies)
    (himage : inputs.contents .image = .json image)
    (hfirst : ReportShaped dependencies) (hsecond : ReportShaped image)
    (hmetadata : MetadataShaped image) :
    ∃ summary : Summary,
      checkSecurityReports str inputs = .ok summary.decided ∧
      summary.blockingSeverities = ["HIGH", "CRITICAL"] ∧
      summary.scanErrors = (inputs.scanFailed != "0" ||
        (packagesIn dependencies).length == 0 ||
        (packagesIn image).length == 0) ∧
      summary.reports =
        [(.dependencies, .counted (packagesIn dependencies).length
            (Counter.ofList (severityKeys dependencies))),
          (.image, .counted (packagesIn image).length
            (Counter.ofList (severityKeys image)))] := by
  obtain ⟨unused, hread⟩ := @readReport_shaped str .dependencies dependencies
    hfirst nofun
  obtain ⟨platform, hsame⟩ := @readReport_shaped str .image image hsecond
    fun _ => hmetadata
  refine ⟨((initialSummary inputs).addReading .dependencies
      ⟨(packagesIn dependencies).length,
        Counter.ofList (severityKeys dependencies), unused⟩).addReading .image
      ⟨(packagesIn image).length, Counter.ofList (severityKeys image),
        platform⟩, ?_, rfl, rfl, rfl⟩
  unfold checkSecurityReports
  rw [addReport_json hdependencies, hread]
  change addReport str inputs .image _ >>= _ = _
  rw [addReport_json himage, hsame]
  rfl

/-- Some of the two reports counts a blocking severity. -/
theorem blocked_iff {summary : Summary} {dependencies image : JsonValue}
    {first second : Nat}
    (hseverities : summary.blockingSeverities = ["HIGH", "CRITICAL"])
    (hreports : summary.reports =
      [(.dependencies, .counted first
          (Counter.ofList (severityKeys dependencies))),
        (.image, .counted second (Counter.ofList (severityKeys image)))]) :
    summary.blocked = true ↔
      ∃ finding ∈ findingsIn dependencies ++ findingsIn image,
        IsBlocking finding := by
  have hblocking : ∀ finding,
      severityOf finding ∈ ["HIGH", "CRITICAL"] ↔ IsBlocking finding := by
    intro finding
    simp [IsBlocking]
  unfold Summary.blocked
  rw [hreports, List.any_cons, List.any_cons, List.any_nil, Bool.or_false,
    Bool.or_eq_true]
  simp only [ReportEntry.bySeverity, any_counted, hseverities, hblocking]
  constructor
  · rintro (⟨finding, hfinding, hblocks⟩ | ⟨finding, hfinding, hblocks⟩)
    · exact ⟨finding, List.mem_append_left _ hfinding, hblocks⟩
    · exact ⟨finding, List.mem_append_right _ hfinding, hblocks⟩
  · rintro ⟨finding, hfinding, hblocks⟩
    rcases List.mem_append.mp hfinding with hfinding | hfinding
    · exact Or.inl ⟨finding, hfinding, hblocks⟩
    · exact Or.inr ⟨finding, hfinding, hblocks⟩

theorem exitStatus_decided (summary : Summary) :
    exitStatus (.ok summary.decided) = 0 ↔
      summary.scanErrors = false ∧ summary.blocked = false := by
  unfold exitStatus Summary.decided
  cases summary.scanErrors <;> cases summary.blocked <;> simp

theorem exitStatus_shaped {dependencies image : JsonValue}
    (hdependencies : inputs.contents .dependencies = .json dependencies)
    (himage : inputs.contents .image = .json image)
    (hfirst : ReportShaped dependencies) (hsecond : ReportShaped image)
    (hmetadata : MetadataShaped image) :
    exitStatus (checkSecurityReports str inputs) = 0 ↔
      inputs.scanFailed = "0" ∧ packagesIn dependencies ≠ [] ∧
        packagesIn image ≠ [] ∧
        ∀ finding ∈ findingsIn dependencies ++ findingsIn image,
          ¬ IsBlocking finding := by
  obtain ⟨summary, hsummary, hseverities, herrors, hreports⟩ :=
    @check_shaped str _ _ _ hdependencies himage hfirst hsecond hmetadata
  have hblocked : summary.blocked = false ↔
      ∀ finding ∈ findingsIn dependencies ++ findingsIn image,
        ¬ IsBlocking finding := by
    rw [← Bool.not_eq_true, blocked_iff hseverities hreports]
    push Not
    rfl
  have hscan : summary.scanErrors = false ↔
      inputs.scanFailed = "0" ∧ packagesIn dependencies ≠ [] ∧
        packagesIn image ≠ [] := by
    rw [herrors]
    simp [and_assoc]
  rw [hsummary, exitStatus_decided, hblocked, hscan, and_assoc, and_assoc]

/-- The exit status and the counts for reports of the expected shape, of which
the image may have any metadata. -/
theorem gate_decision_exact (str : JsonValue → String) (inputs : Inputs)
    (dependencies image : JsonValue)
    (hdependencies : inputs.contents .dependencies = .json dependencies)
    (himage : inputs.contents .image = .json image)
    (hfirst : ReportShaped dependencies) (hsecond : ReportShaped image) :
    (exitStatus (checkSecurityReports str inputs) = 0 ↔
      inputs.scanFailed = "0" ∧ packagesIn dependencies ≠ [] ∧
        packagesIn image ≠ [] ∧
        (∀ finding ∈ findingsIn dependencies ++ findingsIn image,
          ¬ IsBlocking finding) ∧
        MetadataShaped image) ∧
      (MetadataShaped image → ∃ summary first second,
        checkSecurityReports str inputs = .ok summary ∧
          summary.reports = [(.dependencies, first), (.image, second)] ∧
          CountsAll dependencies first ∧ CountsAll image second) := by
  constructor
  · constructor
    · intro hexit
      have hends : Ends (checkSecurityReports str inputs) := by
        cases hcheck : checkSecurityReports str inputs with
        | ok summary => exact ⟨summary, rfl⟩
        | error error =>
            rw [hcheck] at hexit
            cases hexit
      have hreadable := (ends_check.mp hends).2
      rw [himage] at hreadable
      have hmetadata := hreadable.2 rfl
      obtain ⟨hscan, hlisted, himages, hfindings⟩ := (exitStatus_shaped
        hdependencies himage hfirst hsecond hmetadata).mp hexit
      exact ⟨hscan, hlisted, himages, hfindings, hmetadata⟩
    · rintro ⟨hscan, hlisted, himages, hfindings, hmetadata⟩
      exact (exitStatus_shaped hdependencies himage hfirst hsecond
        hmetadata).mpr ⟨hscan, hlisted, himages, hfindings⟩
  · intro hmetadata
    obtain ⟨summary, hsummary, -, -, hreports⟩ := @check_shaped str _ _ _
      hdependencies himage hfirst hsecond hmetadata
    exact ⟨_, _, _, hsummary, hreports, countsAll_counter dependencies,
      countsAll_counter image⟩

end Reports

namespace Sample

/-- A report with one result that lists a package and no findings. -/
def clean (others : Members) : JsonValue :=
  .object (("Results", .array [.object [("Packages", .array [.object []])]]) ::
    others)

def inputsOf (dependencies image : JsonValue) : Inputs where
  scannedAt := "2025-01-01T00:00:00+00:00"
  image := "inventory:verified"
  imageId := .string "sha256:0123"
  jarSha256 := "4567"
  scanFailed := "0"
  contents
    | .dependencies => .json dependencies
    | .image => .json image

def inputs (image : JsonValue) : Inputs :=
  inputsOf (clean []) image

def finding (severity : String) : JsonValue :=
  .object [("Severity", .string severity)]

def result (packages vulnerabilities : List JsonValue) : JsonValue :=
  .object [("Packages", .array packages),
    ("Vulnerabilities", .array vulnerabilities)]

/-- Two results, the second without packages of its own, and findings below
the blocking severities. -/
def dependencies : JsonValue :=
  .object [("Results", .array
    [result [.object [], .object []]
      [finding "LOW", finding "MEDIUM", finding "LOW"],
    result [] [.object [], finding "LOW"]])]

def image : JsonValue :=
  .object [("Metadata", .object [("ImageConfig", .object
      [("os", .string "linux"), ("architecture", .string "amd64")])]),
    ("Results", .array [result [.object []] [finding "NEGLIGIBLE"]])]

def text : JsonValue → String
  | .string text => text
  | _ => "None"

theorem reportShaped_clean {others : Members}
    (hothers : lookup "Results" others = none) : ReportShaped (clean others) := by
  refine ⟨_, rfl, ?_⟩
  intro found hfound
  rw [lookup_cons, hothers] at hfound
  cases hfound
  refine ⟨_, rfl, ?_⟩
  rw [List.forall_mem_singleton]
  constructor
  · refine ⟨_, rfl, ?_⟩
    rintro packages ⟨⟩
    exact ⟨_, rfl⟩
  · exact ⟨_, rfl, nofun⟩

theorem memberIs_of_lookup {field : String} {shape : JsonValue → Prop}
    {members : Members} {found : JsonValue}
    (hlookup : lookup field members = some found) (hshape : shape found) :
    MemberIs field shape (.object members) := by
  refine ⟨members, rfl, fun other hother => ?_⟩
  rw [hlookup] at hother
  cases hother
  exact hshape

theorem findingShaped (severity : String) : FindingShaped (finding severity) :=
  memberIs_of_lookup rfl ⟨severity, rfl⟩

theorem resultShaped {packages vulnerabilities : List JsonValue}
    (hfindings : ∀ finding ∈ vulnerabilities, FindingShaped finding) :
    ResultShaped (result packages vulnerabilities) :=
  ⟨memberIs_of_lookup rfl ⟨packages, rfl⟩,
    memberIs_of_lookup rfl ⟨vulnerabilities, rfl, hfindings⟩⟩

theorem reportShaped_dependencies : ReportShaped dependencies := by
  refine memberIs_of_lookup rfl ⟨_, rfl, ?_⟩
  simp only [List.forall_mem_cons]
  refine ⟨resultShaped ?_, resultShaped ?_, by simp⟩
  · simp [findingShaped]
  · have hunknown : FindingShaped (.object []) := ⟨[], rfl, by simp [lookup]⟩
    simp [findingShaped, hunknown]

theorem reportShaped_image : ReportShaped image := by
  refine memberIs_of_lookup rfl ⟨_, rfl, ?_⟩
  rw [List.forall_mem_singleton]
  exact resultShaped (by simp [findingShaped])

theorem metadataShaped_image : MetadataShaped image :=
  memberIs_of_lookup rfl (memberIs_of_lookup rfl ⟨_, rfl⟩)

end Sample

/-- Metadata `null` fails the gate although nothing else does. -/
theorem null_metadata_fails :
    ¬ ∀ (str : JsonValue → String) (inputs : Inputs)
        (dependencies image : JsonValue),
      inputs.contents .dependencies = .json dependencies →
      inputs.contents .image = .json image →
      ReportShaped dependencies → ReportShaped image →
      (exitStatus (checkSecurityReports str inputs) = 0 ↔
        inputs.scanFailed = "0" ∧ packagesIn dependencies ≠ [] ∧
          packagesIn image ≠ [] ∧
          ∀ finding ∈ findingsIn dependencies ++ findingsIn image,
            ¬ IsBlocking finding) := by
  intro hgate
  have hexit := (hgate Sample.text (Sample.inputs (Sample.clean
    [("Metadata", .null)])) _ _ rfl rfl (Sample.reportShaped_clean rfl)
    (Sample.reportShaped_clean rfl)).mpr ⟨rfl, nofun, nofun, nofun⟩
  cases hexit

theorem gate_decision_exact_sample :
    exitStatus (checkSecurityReports Sample.text
        (Sample.inputsOf Sample.dependencies Sample.image)) = 0 ∧
      ∃ summary counts second, checkSecurityReports Sample.text
          (Sample.inputsOf Sample.dependencies Sample.image) = .ok summary ∧
        summary.reports =
          [(.dependencies, .counted 2 counts), (.image, second)] ∧
        (.text "LOW", 3) ∈ counts ∧ (.text "MEDIUM", 1) ∈ counts ∧
          (.text "UNKNOWN", 1) ∈ counts := by
  obtain ⟨hexit, hcounted⟩ := gate_decision_exact Sample.text
    (Sample.inputsOf Sample.dependencies Sample.image) _ _ rfl rfl
    Sample.reportShaped_dependencies Sample.reportShaped_image
  have hbelow : ∀ finding ∈ findingsIn Sample.dependencies ++
      findingsIn Sample.image, ¬ IsBlocking finding := by
    unfold IsBlocking
    decide +kernel
  refine ⟨hexit.mpr ⟨rfl, by decide, by decide, hbelow,
    Sample.metadataShaped_image⟩, ?_⟩
  obtain ⟨summary, _, second, hsummary, hreports,
    ⟨counts, rfl, -, hcounts⟩, -⟩ := hcounted Sample.metadataShaped_image
  refine ⟨summary, counts, second, hsummary, hreports, ?_, ?_, ?_⟩
  · exact (hcounts _ _).mpr ⟨"LOW", rfl, by decide, by decide +kernel⟩
  · exact (hcounts _ _).mpr ⟨"MEDIUM", rfl, by decide, by decide +kernel⟩
  · exact (hcounts _ _).mpr ⟨"UNKNOWN", rfl, by decide, by decide +kernel⟩

end SecurityReports

end InventoryCloud
