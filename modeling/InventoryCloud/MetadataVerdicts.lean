import InventoryCloud.MetadataShapes

/-!
# Where the metadata checks fail closed

For every check, the responses on which its verdict fails closed are the
handled ones.
-/

namespace InventoryCloud

namespace CloudPreflight

open JsonValue Python
open SecurityReports (IsArray IsObject IsText ArrayOf MemberIs EachItem
  HasLength iterate_shape)

theorem equalsText_iff {text : String} {value : JsonValue} :
    equalsText text value = true ↔ value = .string text := by
  simp [equalsText]

/-- A member that may be missing, with a default of which nothing is asked. -/
theorem memberIs_iff {field : String} {shape : JsonValue → Prop}
    {members : Members} :
    MemberIs field shape (.object members) ↔
      ∀ found, lookup field members = some found → shape found := by
  simp [MemberIs]

/-! ### Single members -/

theorem accountMatches_closed {account : String} {response : JsonValue} :
    FailsClosed (accountMatches account response)
      (Expected .awsAccountAccess response) := by
  unfold accountMatches
  rw [failsClosed_subscript]
  intro found hfound
  refine failsClosed_ok.mpr fun hpassed => ?_
  exact ⟨found, hfound, account, equalsText_iff.mp hpassed⟩

theorem failsClosed_item {value : JsonValue}
    {next : JsonValue → Except Raised Bool} {expected : Prop} :
    FailsClosed (item 0 value >>= next) expected ↔
      ∀ found, item 0 value = (.ok found : Except Raised _) →
        FailsClosed (next found) expected := by
  apply failsClosed_bind
  intro error herror
  cases value with
  | array items =>
      cases items with
      | nil =>
          cases herror
          rfl
      | cons first rest => cases herror
  | string text =>
      cases hchar : text.toList[0]? with
      | none =>
          simp only [item, hchar] at herror
          cases herror
          rfl
      | some char =>
          simp only [item, hchar] at herror
          cases herror
  | _ =>
      cases herror
      rfl

theorem repositoryImmutable_closed {response : JsonValue} :
    FailsClosed (repositoryImmutable response)
        (Expected .ecrImmutableRepository response) ↔
      ∀ repositories, response.member "repositories" = some repositories →
        StartsWith (HasMember "imageTagMutability"
          fun mutability => mutability = .string "IMMUTABLE") repositories →
        ArrayOf RepositoryShaped repositories := by
  unfold repositoryImmutable
  rw [failsClosed_subscript]
  refine forall₂_congr fun repositories hrepositories => ?_
  rw [failsClosed_item]
  simp only [failsClosed_subscript]
  constructor
  · rintro hclosed ⟨first, rest, rfl, mutability, hmutability, rfl⟩
    have hpassed := failsClosed_ok.mp (hclosed first rfl _ hmutability)
      (equalsText_iff.mpr rfl)
    obtain ⟨found, hfound, -, hshaped⟩ := hpassed
    rw [hrepositories, Option.some.injEq] at hfound
    rwa [hfound]
  · intro hhandled repository hrepository mutability hmutability
    refine failsClosed_ok.mpr fun hpassed => ?_
    have himmutable := equalsText_iff.mp hpassed
    obtain ⟨rest, hlist⟩ := item_zero_array hrepository hmutability
    refine ⟨repositories, hrepositories, ?_, hhandled
      ⟨repository, rest, hlist, mutability, hmutability, himmutable⟩⟩
    exact ⟨repository, rest, hlist, mutability, hmutability, _, himmutable⟩

theorem versioningEnabled_closed {response : JsonValue} :
    FailsClosed (versioningEnabled response)
        (Expected .stateBucketVersioning response) ↔
      IsObject response := by
  unfold versioningEnabled
  rw [failsClosed_getOr]
  constructor
  · rintro ⟨members, hmembers, -⟩
    exact ⟨members, hmembers⟩
  · rintro ⟨members, rfl⟩
    refine ⟨members, rfl, failsClosed_ok.mpr fun hpassed => ?_⟩
    refine memberIs_iff.mpr fun status hstatus => ?_
    rw [hstatus, Option.getD_some, equalsText_iff] at hpassed
    exact ⟨_, hpassed⟩

/-- On an object every setting can be looked up, and all of them are true if
that is what is found. -/
theorem allOf_settings (members : Members) (settings : List String) :
    ∃ passed, allOf (fun setting => do
        let value ← getOr setting .null (.object members)
        pure (isTrue value)) settings = .ok passed ∧
      (passed = true → ∀ setting ∈ settings,
        MemberIs setting IsBool (.object members)) := by
  induction settings with
  | nil => exact ⟨true, rfl, by simp⟩
  | cons setting rest ih =>
      rw [allOf, getOr, ok_bind]
      cases htrue : isTrue ((lookup setting members).getD .null) with
      | true =>
          obtain ⟨passed, hpassed, hshaped⟩ := ih
          refine ⟨passed, hpassed, fun hall => ?_⟩
          rw [List.forall_mem_cons]
          refine ⟨memberIs_iff.mpr fun found hfound => ?_, hshaped hall⟩
          rw [hfound, Option.getD_some] at htrue
          cases found with
          | bool truth => exact ⟨truth, rfl⟩
          | _ => cases htrue
      | false => exact ⟨false, rfl, by simp⟩

theorem bucketPrivate_closed {response : JsonValue} :
    FailsClosed (bucketPrivate response)
        (Expected .stateBucketPublicAccess response) ↔
      ∀ protection,
        response.member "PublicAccessBlockConfiguration" = some protection →
          IsObject protection := by
  unfold bucketPrivate
  rw [failsClosed_subscript]
  refine forall₂_congr fun protection hprotection => ?_
  cases protection with
  | object members =>
      obtain ⟨passed, hpassed, hshaped⟩ :=
        allOf_settings members publicAccessSettings
      rw [hpassed, failsClosed_ok]
      exact iff_of_true (fun htrue => ⟨_, hprotection, hshaped htrue⟩)
        ⟨members, rfl⟩
  | _ =>
      exact iff_of_false not_failsClosed_attributeError (by simp [IsObject])

theorem bucketEncrypted_closed {response : JsonValue} :
    FailsClosed (bucketEncrypted response)
        (Expected .stateBucketEncryption response) ↔
      ∀ configuration rules,
        response.member "ServerSideEncryptionConfiguration" =
            some configuration →
          configuration.member "Rules" = some rules →
            ArrayOf IsObject rules ∨ truthy rules = false := by
  unfold bucketEncrypted
  rw [failsClosed_subscript]
  simp only [failsClosed_subscript]
  constructor
  · intro hclosed configuration rules hconfiguration hrules
    have hpassed := failsClosed_ok.mp
      (hclosed configuration hconfiguration rules hrules)
    cases htruthy : truthy rules with
    | false => exact Or.inr rfl
    | true =>
        left
        obtain ⟨other, hother, found, hfound, harray⟩ := hpassed htruthy
        rw [hconfiguration, Option.some.injEq] at hother
        rw [← hother, hrules, Option.some.injEq] at hfound
        rwa [hfound]
  · intro hhandled configuration hconfiguration rules hrules
    refine failsClosed_ok.mpr fun hpassed => ?_
    rcases hhandled configuration rules hconfiguration hrules with
      harray | hfalse
    · exact ⟨configuration, hconfiguration, rules, hrules, harray⟩
    · rw [hpassed] at hfalse
      cases hfalse

theorem len_two {value : JsonValue} :
    (∃ count, len value = (.ok count : Except Raised _) ∧ 2 ≤ count) ↔
      HasTwo value := by
  cases value <;> simp [len, HasTwo]

theorem twoZones_closed {response : JsonValue} :
    FailsClosed (twoZones response) (Expected .twoAvailabilityZones response) ↔
      ∀ zones, response.member "AvailabilityZones" = some zones →
        ArrayOf IsObject zones ∨ ¬ HasTwo zones := by
  unfold twoZones
  rw [failsClosed_subscript]
  refine forall₂_congr fun zones hzones => ?_
  have hexpected : Expected .twoAvailabilityZones response ↔
      ArrayOf IsObject zones := by
    constructor
    · rintro ⟨found, hfound, harray⟩
      rw [hzones, Option.some.injEq] at hfound
      rwa [hfound]
    · intro harray
      exact ⟨zones, hzones, harray⟩
  rw [failsClosed_len, hexpected, ← len_two]
  constructor
  · intro hclosed
    rw [or_iff_not_imp_right, not_not]
    rintro ⟨count, hcount, htwo⟩
    exact failsClosed_ok.mp (hclosed count hcount) (decide_eq_true htwo)
  · intro hhandled count hcount
    refine failsClosed_ok.mpr fun hpassed => ?_
    rcases hhandled with harray | hfew
    · exact harray
    · exact absurd ⟨count, hcount, of_decide_eq_true hpassed⟩ hfew

/-! ### Searches -/

/-- A search over items some of which raise `AttributeError`, and no other
exception: it goes through, or ends at such an item, or has passed before. -/
theorem anyOf_cases {α : Type} {good : α → Prop}
    {test : α → Except Raised Bool}
    (hgood : ∀ item, good item → ∃ passed, test item = .ok passed)
    (hbad : ∀ item, ¬ good item → test item = .error .attributeError)
    (items : List α) :
    ((∀ item ∈ items, good item) ∧ ∃ passed, anyOf test items = .ok passed) ∨
      ((¬ ∀ item ∈ items, good item) ∧
        (anyOf test items = .error .attributeError ∨
          anyOf test items = .ok true)) := by
  induction items with
  | nil => exact Or.inl ⟨by simp, false, rfl⟩
  | cons item rest ih =>
      by_cases hitem : good item
      · obtain ⟨passed, hpassed⟩ := hgood item hitem
        have hsearch : anyOf test (item :: rest) =
            if passed then .ok true else anyOf test rest := by
          rw [anyOf, hpassed, ok_bind]
        rw [hsearch, List.forall_mem_cons]
        rcases ih with ⟨hrest, found, hfound⟩ | ⟨hrest, hends⟩
        · cases passed with
          | true => exact Or.inl ⟨⟨hitem, hrest⟩, true, rfl⟩
          | false => exact Or.inl ⟨⟨hitem, hrest⟩, found, hfound⟩
        · cases passed with
          | true => exact Or.inr ⟨fun hall => hrest hall.2, Or.inr rfl⟩
          | false => exact Or.inr ⟨fun hall => hrest hall.2, hends⟩
      · right
        constructor
        · intro hall
          exact hitem (hall item List.mem_cons_self)
        · left
          rw [anyOf, hbad item hitem]
          rfl

/-- A search in which nothing is raised passes where a test does. -/
theorem anyOf_true {α : Type} {test : α → Except Raised Bool} {items : List α}
    (htests : ∀ item ∈ items, ∃ passed, test item = .ok passed) :
    anyOf test items = .ok true ↔ ∃ item ∈ items, test item = .ok true := by
  induction items with
  | nil => simp [anyOf]
  | cons item rest ih =>
      rw [List.forall_mem_cons] at htests
      obtain ⟨⟨passed, hpassed⟩, hrest⟩ := htests
      rw [anyOf, hpassed, ok_bind, List.exists_mem_cons_iff, hpassed]
      cases passed with
      | true => simp
      | false => simpa using ih hrest

theorem hasLength_iterate {value : JsonValue} :
    HasLength value ↔ ∃ items, iterate value = (.ok items : Except Raised _) := by
  cases value <;> simp [HasLength, IsArray, IsObject, IsText, iterate]

theorem hasDigest_object {digest : String} {detail : JsonValue}
    (hobject : IsObject detail) :
    ∃ passed, hasDigest digest detail = .ok passed := by
  obtain ⟨members, rfl⟩ := hobject
  exact ⟨_, rfl⟩

theorem hasDigest_other {digest : String} {detail : JsonValue}
    (hother : ¬ IsObject detail) :
    hasDigest digest detail = .error .attributeError := by
  cases detail with
  | object members => exact absurd ⟨members, rfl⟩ hother
  | _ => rfl

theorem hasDigest_true {digest : String} {detail : JsonValue} :
    hasDigest digest detail = .ok true ↔
      detail.member "imageDigest" = some (.string digest) := by
  cases detail with
  | object members =>
      cases hfound : lookup "imageDigest" members <;>
        simp [hasDigest, getOr, ok_bind, equalsText, hfound, pure, Except.pure]
  | _ => simp [hasDigest, getOr, bind, Except.bind, member]

/-- Details which are all objects, in a list or nothing. -/
theorem details_passed {digest : String} {details : JsonValue}
    {items : List JsonValue}
    (hitems : iterate details = (.ok items : Except Raised _))
    (hobjects : ∀ item ∈ items, IsObject item) :
    anyOf (hasDigest digest) items = .ok true ↔ HasImage digest details := by
  have hshape := @iterate_shape ReadFailure details IsObject fun _ => id
  rw [anyOf_true fun item hitem => hasDigest_object (hobjects item hitem)]
  simp only [hasDigest_true]
  rcases hshape.mp ⟨items, hitems, hobjects⟩ with ⟨others, rfl, -⟩ | rfl | rfl
  · cases hitems
    simp [HasImage]
  · cases hitems
    simp [HasImage]
  · cases hitems
    simp [HasImage, names]

theorem details_closed {digest : String} {details : JsonValue} :
    FailsClosed (iterate details >>= anyOf (hasDigest digest))
        (ArrayOf DetailShaped details) ↔
      DetailsHandled digest details := by
  have hshape := @iterate_shape ReadFailure details IsObject fun _ => id
  unfold DetailsHandled
  rw [failsClosed_iterate, hasLength_iterate]
  by_cases hlength : ∃ items, iterate details = (.ok items : Except Raised _)
  · rw [or_iff_right (not_not.mpr hlength)]
    obtain ⟨items, hitems⟩ := hlength
    rcases @anyOf_cases JsonValue IsObject (hasDigest digest)
        (fun _ => hasDigest_object) (fun _ => hasDigest_other) items with
      ⟨hobjects, passed, hpassed⟩ | ⟨hother, hends⟩
    · rw [and_iff_right (hshape.mp ⟨items, hitems, hobjects⟩),
        ← details_passed hitems hobjects]
      simp [hitems, hpassed, failsClosed_ok]
    · have hnone : ¬ EachItem IsObject details := by
        intro heach
        obtain ⟨others, hothers, hobjects⟩ := hshape.mpr heach
        obtain rfl : items = others := Except.ok.inj (hitems.symm.trans hothers)
        exact hother hobjects
      refine iff_of_false ?_ fun hboth => hnone hboth.1
      intro hclosed
      have hitemsClosed := hclosed items hitems
      rcases hends with herror | htrue
      · rw [herror] at hitemsClosed
        exact not_failsClosed_attributeError hitemsClosed
      · rw [htrue, failsClosed_ok] at hitemsClosed
        obtain ⟨others, rfl, hshaped⟩ := hitemsClosed rfl
        exact hnone (Or.inl ⟨others, rfl, fun item hitem =>
          (hshaped item hitem).isObject⟩)
  · refine iff_of_true ?_ (Or.inl hlength)
    intro items hitems
    exact absurd ⟨items, hitems⟩ hlength

theorem imageExists_closed {digest : String} {response : JsonValue} :
    FailsClosed (imageExists digest response)
        (Expected .ecrImageExists response) ↔
      MemberIs "imageDetails" (DetailsHandled digest) response := by
  unfold imageExists
  rw [failsClosed_getOr]
  constructor
  · rintro ⟨members, rfl, hclosed⟩
    refine memberIs_iff.mpr fun details hdetails => ?_
    rw [hdetails, Option.getD_some] at hclosed
    apply details_closed.mp ⟨hclosed.1, ?_⟩
    intro hpassed
    exact memberIs_iff.mp (hclosed.2 hpassed) details hdetails
  · rintro ⟨members, rfl, hhandled⟩
    refine ⟨members, rfl, ?_⟩
    cases hdetails : lookup "imageDetails" members with
    | none => exact failsClosed_false
    | some details =>
        rw [Option.getD_some]
        have hclosed := (@details_closed digest details).mpr
          (hhandled details hdetails)
        refine ⟨hclosed.1, fun hpassed => memberIs_iff.mpr ?_⟩
        intro found hfound
        rw [hdetails, Option.some.injEq] at hfound
        exact hfound ▸ hclosed.2 hpassed

/-! ### The secret and the provider -/

theorem isIn_caught {text : String} {value : JsonValue} {error : Raised}
    (herror : isIn text value = .error error) : isCaught error = true := by
  cases value <;> cases herror
  all_goals rfl

theorem isIn_ok {text : String} {value : JsonValue} :
    isIn text value = (.ok true : Except Raised _) ↔ Contains text value := by
  cases value <;> simp [isIn, Contains]

/-- Everything that has a length can be searched, and nothing else. -/
theorem isIn_cases (text : String) (value : JsonValue) :
    (HasLength value ∧ ∃ passed, isIn text value =
        (.ok passed : Except Raised _)) ∨
      (¬ HasLength value ∧ ¬ Contains text value ∧
        isIn text value = (.error .typeError : Except Raised _)) := by
  cases value <;>
    simp [isIn, Contains, HasLength, IsArray, IsObject, IsText]

theorem anyOf_isIn_caught {text : String} {values : List JsonValue}
    {error : Raised} (herror : anyOf (isIn text) values = .error error) :
    isCaught error = true := by
  induction values with
  | nil => cases herror
  | cons value rest ih =>
      rcases bind_error.mp herror with hfirst | ⟨passed, -, hnext⟩
      · exact isIn_caught hfirst
      · cases passed with
        | true => cases hnext
        | false => exact ih hnext

theorem anyOf_isIn_ok {text : String} {values : List JsonValue} :
    anyOf (isIn text) values = (.ok true : Except Raised _) ↔
      Found text values := by
  induction values with
  | nil =>
      refine iff_of_false ?_ id
      intro htrue
      cases htrue
  | cons value rest ih =>
      rw [Found]
      rcases isIn_cases text value with
        ⟨hlength, passed, hpassed⟩ | ⟨hlength, habsent, hvalue⟩
      · rw [anyOf, hpassed, ok_bind, ← isIn_ok, hpassed]
        cases passed with
        | true => exact iff_of_true rfl (Or.inl rfl)
        | false => simp [hlength, ← ih]
      · rw [anyOf, hvalue]
        refine iff_of_false ?_ (by simp [habsent, hlength])
        intro htrue
        cases htrue

/-- The verdict once the stages are known. -/
theorem stages_closed {secret : Members} {stages : List JsonValue}
    {expected : Prop} :
    FailsClosed (do
      let current ← anyOf (isIn "AWSCURRENT") stages
      let deleted ← getOr "DeletedDate" .null (.object secret)
      let key ← getOr "KmsKeyId" .null (.object secret)
      pure (!truthy deleted && isDefaultKey key && current)) expected ↔
      (Undeleted secret → Found "AWSCURRENT" stages → expected) := by
  rw [failsClosed_bind fun error herror => anyOf_isIn_caught herror]
  simp only [getOr, ok_bind]
  constructor
  · intro hclosed hundeleted hfound
    apply failsClosed_ok.mp (hclosed true (anyOf_isIn_ok.mpr hfound))
    simp [hundeleted.1, hundeleted.2]
  · intro himplies current hcurrent
    refine failsClosed_ok.mpr fun hpassed => ?_
    simp only [Bool.and_eq_true, Bool.not_eq_true'] at hpassed
    apply himplies ⟨hpassed.1.1, hpassed.1.2⟩
    rw [← anyOf_isIn_ok, hcurrent, hpassed.2]

theorem secretReady_closed {response : JsonValue} :
    FailsClosed (secretReady response)
        (Expected .runtimeSecretMetadata response) ↔
      ∃ members, response = .object members ∧
        ∀ versions, lookup "VersionIdsToStages" members = some versions →
          StagesHandled members versions := by
  unfold secretReady
  rw [failsClosed_getOr]
  refine exists_congr fun members => and_congr_right ?_
  rintro rfl
  cases hversions : lookup "VersionIdsToStages" members with
  | none =>
      refine iff_of_true ?_ (by simp)
      rw [Option.getD_none]
      exact (@stages_closed members [] _).mpr fun _ hfound => hfound.elim
  | some versions =>
      rw [Option.getD_some]
      simp only [Option.some.injEq, forall_eq']
      unfold StagesHandled
      cases versions with
      | object stages =>
          rw [values, ok_bind, stages_closed]
          simp [Expected]
      | _ =>
          exact iff_of_false not_failsClosed_attributeError (by simp)

/-- The verdict once the URL is that of the provider. -/
theorem clients_closed {members : Members} {expected : Prop} :
    FailsClosed (do
      let audiences ← getOr "ClientIDList" (.array []) (.object members)
      isIn "sts.amazonaws.com" audiences) expected ↔
      (∀ clients, lookup "ClientIDList" members = some clients →
        Contains "sts.amazonaws.com" clients → expected) := by
  have hsearch : ∀ value, FailsClosed (isIn "sts.amazonaws.com" value)
      expected ↔ (Contains "sts.amazonaws.com" value → expected) := by
    intro value
    rw [← isIn_ok]
    exact and_iff_right fun error herror => isIn_caught herror
  rw [getOr, ok_bind, hsearch]
  cases hclients : lookup "ClientIDList" members with
  | none => simp [Contains]
  | some clients => simp

theorem providerReady_closed {response : JsonValue} :
    FailsClosed (providerReady response)
        (Expected .githubOidcProvider response) ↔
      MemberIs "Url" IsText response ∧
        ∀ url, response.member "Url" = some (.string url) →
          removePrefix "https://" url =
              "token.actions.githubusercontent.com".toList →
            MemberIs "ClientIDList" ClientsHandled response := by
  cases response with
  | object members =>
      unfold providerReady
      rw [getOr, ok_bind, member_object, memberIs_iff, memberIs_iff]
      cases hurl : lookup "Url" members with
      | none =>
          refine iff_of_true ?_ ⟨by simp, by simp⟩
          exact failsClosed_false
      | some found =>
          rw [Option.getD_some]
          cases found with
          | string url =>
              have htext : MemberIs "Url" IsText (.object members) :=
                memberIs_iff.mpr (by simp [hurl, IsText])
              rw [withoutPrefix, ok_bind]
              by_cases hhost : removePrefix "https://" url =
                  "token.actions.githubusercontent.com".toList
              · rw [if_pos (beq_iff_eq.mpr hhost), clients_closed]
                constructor
                · intro hclosed
                  refine ⟨by simp [IsText], ?_⟩
                  intro _ _ _ clients hclients
                  rw [ClientsHandled, or_iff_not_imp_right, not_not]
                  intro hcontains
                  have hshaped := hclosed clients hclients hcontains
                  exact memberIs_iff.mp hshaped.2 clients hclients
                · rintro ⟨-, hhandled⟩ clients hclients hcontains
                  refine ⟨htext, memberIs_iff.mpr ?_⟩
                  intro found hfound
                  rw [hclients, Option.some.injEq] at hfound
                  subst hfound
                  rcases hhandled url rfl hhost clients hclients with
                    harray | habsent
                  · exact harray
                  · exact absurd hcontains habsent
              · rw [if_neg (by simpa using hhost)]
                refine iff_of_true failsClosed_false ?_
                refine ⟨by simp [IsText], ?_⟩
                intro other hother hsame
                cases hother
                exact absurd hsame hhost
          | _ =>
              exact iff_of_false not_failsClosed_attributeError
                (by simp [IsText])
  | _ =>
      refine iff_of_false not_failsClosed_attributeError ?_
      rintro ⟨⟨members, hmembers, -⟩, -⟩
      cases hmembers

end CloudPreflight

end InventoryCloud
