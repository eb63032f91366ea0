import InventoryCloud.RuntimePrivileges

/-!
# The memberships of the runtime role

The loop of `runtime-role.sql` revokes every role of which `inventory_app` is a
member, but each REVOKE takes away the membership of one grantor only.
-/

namespace InventoryCloud

namespace RuntimeRole

open AccessControl Outcome

variable {server : Server} {catalog after : Catalog}

theorem memberships_restrictDatabase
    (hafter : restrictDatabase server catalog = .ok after) :
    after.memberships = catalog.memberships := by
  have hafter := require_ok hafter
  obtain ⟨first, -, hrest⟩ := bind_ok.mp hafter
  obtain ⟨second, -, hrest⟩ := bind_ok.mp hrest
  obtain ⟨third, -, hsame⟩ := bind_ok.mp hrest
  rw [← pure_ok.mp hsame]

theorem memberships_restrictSchema
    (hafter : restrictSchema server catalog = .ok after) :
    after.memberships = catalog.memberships := by
  have hafter := require_ok hafter
  obtain ⟨first, -, hrest⟩ := bind_ok.mp hafter
  obtain ⟨second, -, hrest⟩ := bind_ok.mp hrest
  obtain ⟨third, -, hsame⟩ := bind_ok.mp hrest
  rw [← pure_ok.mp hsame]

theorem memberships_restrictRelations
    (hafter : restrictRelations server catalog = .ok after) :
    after.memberships = catalog.memberships := by
  obtain ⟨first, -, hrest⟩ := bind_ok.mp hafter
  obtain ⟨second, -, hrest⟩ := bind_ok.mp hrest
  obtain ⟨sequences, -, hrest⟩ := bind_ok.mp hrest
  have hrest := require_ok (require_ok hrest)
  obtain ⟨third, -, hsame⟩ := bind_ok.mp hrest
  rw [← pure_ok.mp hsame]

/-- The statements after the loop leave the memberships alone. -/
theorem provision_memberships {runtimePassword : Option String}
    (hafter : provision server runtimePassword catalog = .ok after) :
    ∃ created, createRole server catalog = .ok created ∧
      after.memberships = created.memberships.filter (isKept server) := by
  obtain ⟨password, -, hrest⟩ := bind_ok.mp hafter
  obtain ⟨created, hcreated, hrest⟩ := bind_ok.mp hrest
  obtain ⟨⟨⟩, -, hrest⟩ := bind_ok.mp hrest
  obtain ⟨login, hlogin, hrest⟩ := bind_ok.mp hrest
  obtain ⟨revoked, hrevoked, hrest⟩ := bind_ok.mp hrest
  obtain ⟨secret, hsecret, hrest⟩ := bind_ok.mp hrest
  obtain ⟨database, hdatabase, hrest⟩ := bind_ok.mp hrest
  obtain ⟨schema, hschema, hrelations⟩ := bind_ok.mp hrest
  refine ⟨created, hcreated, ?_⟩
  rw [memberships_restrictRelations hrelations,
    memberships_restrictSchema hschema, memberships_restrictDatabase hdatabase,
    alterRole_ok hsecret, revokeMemberships_ok hrevoked, alterRole_ok hlogin]

/-- A role that is created now is a member of nothing; its creator is another
role. -/
theorem created_memberships
    (hsession : catalog.roles server.session.user ≠ none)
    (hafter : createRole server catalog = .ok after) (membership : Membership)
    (hmember : membership.member = app) :
    membership ∈ after.memberships ↔ membership ∈ catalog.memberships := by
  unfold createRole at hafter
  cases hrole : catalog.roles app with
  | some attributes =>
      rw [hrole] at hafter
      cases hafter
      rfl
  | none =>
      rw [hrole] at hafter
      obtain ⟨allowed, -, hsame⟩ := bind_ok.mp hafter
      cases hsame
      rw [List.mem_append]
      constructor
      · rintro (hmem | hcreator)
        · exact hmem
        · split_ifs at hcreator
          · cases hcreator
          · rw [List.mem_singleton.mp hcreator] at hmember
            have huser : server.session.user = app := hmember
            rw [huser] at hsession
            exact absurd hrole hsession
      · exact Or.inl

/-- A script that commits leaves the role without memberships exactly if each
of them was granted by the role in whose name the session revokes it. -/
theorem memberships_removed_iff (server : Server)
    (runtimePassword : Option String) (catalog after : Catalog)
    (hsession : catalog.roles server.session.user ≠ none)
    (hafter : provision server runtimePassword catalog = .ok after) :
    (∀ membership ∈ after.memberships, membership.member ≠ app) ↔
      ∀ membership ∈ catalog.memberships, membership.member = app →
        inferredGrantor server membership.role = some membership.grantor := by
  obtain ⟨created, hcreated, hsame⟩ := provision_memberships hafter
  have hkept : ∀ membership : Membership, membership.member = app →
      (isKept server membership = true ↔
        inferredGrantor server membership.role ≠ some membership.grantor) := by
    intro membership hmember
    simp [isKept, hmember]
  rw [hsame]
  constructor
  · intro hnone membership hmembership hmember
    by_contra hgrantor
    apply hnone membership _ hmember
    rw [List.mem_filter]
    exact ⟨(created_memberships hsession hcreated membership hmember).mpr
      hmembership, (hkept membership hmember).mpr hgrantor⟩
  · intro hgrantors membership hmembership hmember
    obtain ⟨hcreatedMem, hkeptMem⟩ := List.mem_filter.mp hmembership
    apply (hkept membership hmember).mp hkeptMem
    exact hgrantors membership
      ((created_memberships hsession hcreated membership hmember).mp
        hcreatedMem) hmember

namespace Sample

/-- A membership which another administrator has granted. -/
def reporting : Membership := ⟨"reporting", app, "bob"⟩

def granted : Membership := ⟨"reporting", app, "postgres"⟩

theorem commits (memberships : List Membership)
    (hcommits : (provision (Sample.server true) password
      (Sample.catalog [] memberships)).toOption.isSome = true) :
    ∃ after, provision (Sample.server true) password
      (Sample.catalog [] memberships) = .ok after := by
  cases hprovision : provision (Sample.server true) password
      (Sample.catalog [] memberships) with
  | ok after => exact ⟨after, rfl⟩
  | error error =>
      rw [hprovision] at hcommits
      cases hcommits

end Sample

/-- The membership granted by another administrator stays. -/
theorem foreign_membership_stays :
    ¬ ∀ (server : Server) (runtimePassword : Option String)
        (catalog after : Catalog),
      catalog.roles server.session.user ≠ none →
      provision server runtimePassword catalog = .ok after →
      ∀ membership ∈ after.memberships, membership.member ≠ app := by
  intro hremoved
  obtain ⟨after, hafter⟩ := Sample.commits [Sample.reporting]
    (by decide +kernel)
  obtain ⟨created, hcreated, hsame⟩ := provision_memberships hafter
  have hmembership : Sample.reporting ∈ after.memberships := by
    cases hcreated
    rw [hsame]
    decide +kernel
  exact hremoved _ _ _ _ (by decide) hafter _ hmembership rfl

theorem memberships_removed_iff_sample :
    ∃ after, provision (Sample.server true) Sample.password
        (Sample.catalog [] [Sample.granted]) = .ok after ∧
      ∀ membership ∈ after.memberships, membership.member ≠ app := by
  obtain ⟨after, hafter⟩ := Sample.commits [Sample.granted]
    (by decide +kernel)
  refine ⟨after, hafter, ?_⟩
  apply (memberships_removed_iff _ _ _ _ (by decide) hafter).mpr
  intro membership hmembership hmember
  rw [List.mem_singleton.mp hmembership]
  rfl

end RuntimeRole

end InventoryCloud
