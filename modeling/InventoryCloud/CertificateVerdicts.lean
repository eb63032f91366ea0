import InventoryCloud.MetadataVerdicts

/-!
# Where the check of the certificate fails closed

The names of the certificate are gone through before its expiry and its status
are looked at, so a name that is no text ends the check unless a text before it
matches.
-/

namespace InventoryCloud

namespace CloudPreflight

open JsonValue Python
open SecurityReports (IsArray IsObject IsText ArrayOf MemberIs)

variable {surroundings : Surroundings}

/-! ### Expiry and status -/

theorem expiry_caught {value : JsonValue} {error : Raised}
    (herror : expiry surroundings value = .error error) :
    isCaught error = true := by
  cases value with
  | string text =>
      cases hmoment : surroundings.timestamp (replaceZulu text) with
      | none =>
          simp only [expiry, hmoment] at herror
          cases herror
          rfl
      | some moment =>
          simp only [expiry, hmoment] at herror
          cases herror
  | _ => cases herror

theorem laterThan_caught {moment : Rat} {value : JsonValue} {error : Raised}
    (herror : laterThan moment value = .error error) :
    isCaught error = true := by
  cases value <;> cases herror
  all_goals rfl

theorem expires_later {value : JsonValue} :
    (∃ expires, expiry surroundings value = .ok expires ∧
        laterThan surroundings.now expires = .ok true) ↔
      LaterThanNow surroundings value := by
  cases value with
  | string text =>
      cases hmoment : surroundings.timestamp (replaceZulu text) <;>
        simp [expiry, LaterThanNow, laterThan, hmoment]
  | _ => simp [expiry, LaterThanNow, laterThan]

/-- The verdict once it is known whether a name matches. -/
theorem inForce_closed {certificate : Members} {matched : Bool}
    {expected : Prop} :
    FailsClosed (do
      let notAfter ← getOr "NotAfter" (.integer 0) (.object certificate)
      let expires ← expiry surroundings notAfter
      let status ← getOr "Status" .null (.object certificate)
      if equalsText "ISSUED" status then do
        let later ← laterThan surroundings.now expires
        pure (later && matched)
      else pure false) expected ↔
      (matched = true → InForce surroundings certificate → expected) := by
  have hstatus : equalsText "ISSUED"
      ((lookup "Status" certificate).getD .null) = true ↔
        lookup "Status" certificate = some (.string "ISSUED") := by
    rw [equalsText_iff]
    cases lookup "Status" certificate <;> simp
  rw [getOr, ok_bind, failsClosed_bind fun error herror =>
    expiry_caught herror]
  simp only [getOr, ok_bind]
  unfold InForce
  rw [← hstatus, ← expires_later]
  by_cases hissued : equalsText "ISSUED"
      ((lookup "Status" certificate).getD .null) = true
  · simp only [if_pos hissued, failsClosed_bind fun error herror =>
      @laterThan_caught surroundings.now _ error herror]
    constructor
    · rintro hclosed hmatched ⟨-, expires, hexpires, hlater⟩
      exact failsClosed_ok.mp (hclosed expires hexpires true hlater)
        (by simp [hmatched])
    · intro himplies expires hexpires later hlater
      refine failsClosed_ok.mpr fun hpassed => ?_
      rw [Bool.and_eq_true] at hpassed
      rw [hpassed.1] at hlater
      exact himplies hpassed.2 ⟨hissued, expires, hexpires, hlater⟩
  · simp only [if_neg hissued]
    exact iff_of_true (fun _ _ => failsClosed_false)
      fun _ hinforce => absurd hinforce.1 hissued

/-! ### Names -/

theorem matches_cases (library : UrlLibrary) (hostname : String)
    (items : List JsonValue) :
    (Matched (nameMatches library (library.lower hostname.toList)) items ∧
        certificateMatches library hostname items = .ok true) ∨
      ¬ Matched (nameMatches library (library.lower hostname.toList)) items ∧
        ((∀ item ∈ items, IsText item) ∧
            certificateMatches library hostname items = .ok false ∨
          (¬ ∀ item ∈ items, IsText item) ∧
            certificateMatches library hostname items =
              .error .attributeError) := by
  unfold certificateMatches
  induction items with
  | nil => exact Or.inr ⟨id, Or.inl ⟨by simp, rfl⟩⟩
  | cons item rest ih =>
      cases item with
      | string name =>
          rw [anyOf, matchesName, ok_bind, List.forall_mem_cons, Matched]
          have htext : IsText (.string name) := ⟨name, rfl⟩
          cases nameMatches library (library.lower hostname.toList)
              name.toList with
          | true => exact Or.inl ⟨Or.inl rfl, rfl⟩
          | false => simpa [htext] using ih
      | _ =>
          refine Or.inr ⟨id, Or.inr ⟨?_, rfl⟩⟩
          intro htexts
          obtain ⟨text, htext⟩ := htexts _ List.mem_cons_self
          cases htext

/-- The verdict once the names are known. -/
theorem names_closed {hostname : String} {certificate : Members}
    {items : List JsonValue} {expected : Prop} :
    FailsClosed (do
      let matched ← certificateMatches surroundings.urls hostname items
      let notAfter ← getOr "NotAfter" (.integer 0) (.object certificate)
      let expires ← expiry surroundings notAfter
      let status ← getOr "Status" .null (.object certificate)
      if equalsText "ISSUED" status then do
        let later ← laterThan surroundings.now expires
        pure (later && matched)
      else pure false) expected ↔
      (Matched (nameMatches surroundings.urls
          (surroundings.urls.lower hostname.toList)) items ∧
        (InForce surroundings certificate → expected)) ∨
      (¬ Matched (nameMatches surroundings.urls
          (surroundings.urls.lower hostname.toList)) items ∧
        ∀ item ∈ items, IsText item) := by
  rcases matches_cases surroundings.urls hostname items with
    ⟨hmatched, hvalue⟩ | ⟨hnone, ⟨htexts, hvalue⟩ | ⟨hother, hvalue⟩⟩
  · rw [hvalue, ok_bind, inForce_closed]
    simp [hmatched]
  · rw [hvalue, ok_bind, inForce_closed]
    exact iff_of_true (by simp) (Or.inr ⟨hnone, htexts⟩)
  · rw [hvalue]
    refine iff_of_false not_failsClosed_attributeError ?_
    rintro (⟨hmatched, -⟩ | ⟨-, htexts⟩)
    · exact hnone hmatched
    · exact hother htexts

/-- The shape of a certificate with names. -/
theorem certificateShaped_iff {certificate : Members} {found : JsonValue}
    (hnames : lookup "SubjectAlternativeNames" certificate = some found) :
    CertificateShaped (.object certificate) ↔
      (ArrayOf IsText found ∧
          MemberIs "NotAfter" IsMoment (.object certificate)) ∧
        MemberIs "Status" IsText (.object certificate) := by
  have hfound : MemberIs "SubjectAlternativeNames" (ArrayOf IsText)
      (.object certificate) ↔ ArrayOf IsText found := by
    rw [memberIs_iff, hnames]
    simp
  rw [CertificateShaped, hfound, and_assoc]

/-- The status of a certificate in force is a text. -/
theorem InForce.status {certificate : Members}
    (hinforce : InForce surroundings certificate) :
    MemberIs "Status" IsText (.object certificate) := by
  refine memberIs_iff.mpr fun status hstatus => ?_
  rw [hinforce.1, Option.some.injEq] at hstatus
  exact ⟨_, hstatus.symm⟩

theorem certificateReady_closed {hostname : String} {response : JsonValue} :
    FailsClosed (certificateReady surroundings hostname response)
        (Expected .acmCertificateReady response) ↔
      ∀ certificate, response.member "Certificate" = some certificate →
        ∃ members, certificate = .object members ∧
          ∀ found, lookup "SubjectAlternativeNames" members = some found →
            NamesHandled surroundings hostname members found := by
  unfold certificateReady
  rw [failsClosed_subscript]
  refine forall₂_congr fun certificate hcertificate => ?_
  rw [failsClosed_getOr]
  refine exists_congr fun members => and_congr_right ?_
  rintro rfl
  have hexpected : Expected .acmCertificateReady response ↔
      CertificateShaped (.object members) := by
    constructor
    · rintro ⟨other, hother, hshaped⟩
      rw [hcertificate, Option.some.injEq] at hother
      rwa [hother]
    · intro hshaped
      exact ⟨.object members, hcertificate, hshaped⟩
  rw [hexpected]
  cases hnames : lookup "SubjectAlternativeNames" members with
  | none =>
      refine iff_of_true ?_ (by simp)
      rw [Option.getD_none, iterate, ok_bind, names_closed]
      exact Or.inr ⟨id, by simp⟩
  | some found =>
      rw [Option.getD_some]
      simp only [Option.some.injEq, forall_eq']
      have hlist := certificateShaped_iff hnames
      cases found with
      | array items =>
          have htexts : ArrayOf IsText (.array items) ↔
              ∀ item ∈ items, IsText item := by simp [ArrayOf]
          have hshaped : InForce surroundings members →
              (CertificateShaped (.object members) ↔
                (∀ item ∈ items, IsText item) ∧
                  MemberIs "NotAfter" IsMoment (.object members)) := by
            intro hinforce
            rw [hlist, htexts, and_iff_left hinforce.status]
          rw [iterate, ok_bind, names_closed, NamesHandled]
          tauto
      | object others =>
          have hkeys : ∀ item ∈ (names others).map JsonValue.string,
              IsText item := by simp [IsText]
          have hshaped : ¬ CertificateShaped (.object members) := by
            simp [hlist, ArrayOf]
          rw [iterate, ok_bind, names_closed, NamesHandled]
          tauto
      | string text =>
          have hchars : ∀ item ∈ text.toList.map fun char =>
              JsonValue.string (String.ofList [char]), IsText item := by
            simp [IsText]
          have hshaped : ¬ CertificateShaped (.object members) := by
            simp [hlist, ArrayOf]
          rw [iterate, ok_bind, names_closed, NamesHandled]
          tauto
      | _ =>
          refine iff_of_true ?_ trivial
          exact failsClosed_error.mpr rfl

/-! ### All checks -/

/-- On exactly the handled responses the verdict fails closed. -/
theorem verdict_closed {settings : Members} {check : MetadataCheck}
    {response : JsonValue} :
    FailsClosed (check.verdict surroundings settings response)
        (Expected check response) ↔
      Handled surroundings settings check response := by
  cases check with
  | awsAccountAccess => exact iff_of_true accountMatches_closed trivial
  | ecrImmutableRepository => exact repositoryImmutable_closed
  | ecrImageExists => exact imageExists_closed
  | acmCertificateReady => exact certificateReady_closed
  | runtimeSecretMetadata => exact secretReady_closed
  | stateBucketVersioning => exact versioningEnabled_closed
  | stateBucketPublicAccess => exact bucketPrivate_closed
  | stateBucketEncryption => exact bucketEncrypted_closed
  | twoAvailabilityZones => exact twoZones_closed
  | githubOidcProvider => exact providerReady_closed

end CloudPreflight

end InventoryCloud
