import InventoryCloud.Outcomes

/-!
# Access control lists

The privileges on one object as PostgreSQL keeps them: every entry names its
grantee and its grantor, and REVOKE takes away only what the grantor in whose
name it is issued has granted.  A session which issues its statements as the
owner of an object takes away everything the owner has granted.
-/

namespace AccessControl

inductive Grantee (Role : Type) where
  | everyone
  | role (role : Role)
  deriving DecidableEq

/-- A privilege of a grantee, or the option to grant it to others. -/
structure Entry (Role Privilege : Type) where
  grantee : Grantee Role
  grantor : Role
  privilege : Privilege
  isOption : Bool
  deriving DecidableEq

abbrev Acl (Role Privilege : Type) := List (Entry Role Privilege)

/-- `roles` are the roles whose privileges the user has, in the order in which
they are searched. -/
structure Session (Role : Type) where
  user : Role
  isSuperuser : Bool
  roles : List Role

inductive AclError where
  | permissionDenied
  | dependentPrivileges

variable {Role Privilege : Type} [DecidableEq Role] [DecidableEq Privilege]

/-- The role has the option to grant the privilege. -/
def hasOption (role : Role) (privilege : Privilege)
    (acl : Acl Role Privilege) : Bool :=
  acl.any fun entry => decide (entry.grantee = .role role) &&
    decide (entry.privilege = privilege) && entry.isOption

/-- Which of the privileges the role may grant; the owner may grant all. -/
def grantable (owner role : Role) (needed : List Privilege)
    (acl : Acl Role Privilege) : List Privilege :=
  if role = owner then needed
  else needed.filter fun privilege => hasOption role privilege acl

/-- The role in whose name a statement is issued, with the privileges it may
grant: the owner, or the first role which may grant the most. -/
def selectGrantor (session : Session Role) (owner : Role)
    (needed : List Privilege) (acl : Acl Role Privilege) :
    Role × List Privilege :=
  if session.isSuperuser || session.user = owner then (owner, needed)
  else
    session.roles.foldl (fun best role =>
      if best.2.length < (grantable owner role needed acl).length then
        (role, grantable owner role needed acl)
      else best) (session.user, [])

def anyPrivilege (session : Session Role) (acl : Acl Role Privilege) : Bool :=
  acl.any fun entry =>
    match entry.grantee with
    | .everyone => true
    | .role role => role ∈ session.roles

/-- Without any option a statement does nothing, and fails unless the session
has some privilege on the object. -/
def restrict (session : Session Role) (owner : Role)
    (needed : List Privilege) (context : Acl Role Privilege) :
    Except AclError (Role × List Privilege) :=
  let chosen := selectGrantor session owner needed context
  if chosen.2.isEmpty && !anyPrivilege session context then
    .error .permissionDenied
  else .ok chosen

/-- The grantee has granted on what it may no longer grant. -/
def leavesDependents (owner : Role) (grantee : Grantee Role)
    (privileges : List Privilege) (acl : Acl Role Privilege) : Bool :=
  match grantee with
  | .everyone => false
  | .role role => decide (role ≠ owner) && acl.any fun entry =>
      decide (entry.grantor = role) && entry.privilege ∈ privileges &&
        !hasOption role entry.privilege acl

/-- `REVOKE privileges ON object FROM grantee RESTRICT`.  The grantor is chosen
by the entries of `context`. -/
def revoke (session : Session Role) (owner : Role) (grantee : Grantee Role)
    (privileges : List Privilege) (context acl : Acl Role Privilege) :
    Except AclError (Acl Role Privilege) := do
  let (grantor, allowed) ← restrict session owner privileges context
  let after := acl.filter fun entry => !(decide (entry.grantee = grantee) &&
    decide (entry.grantor = grantor) && entry.privilege ∈ allowed)
  if leavesDependents owner grantee allowed after then
    .error .dependentPrivileges
  else .ok after

/-- `GRANT privileges ON object TO grantee` -/
def grant (session : Session Role) (owner : Role) (grantee : Grantee Role)
    (privileges : List Privilege) (acl : Acl Role Privilege) :
    Except AclError (Acl Role Privilege) := do
  let (grantor, allowed) ← restrict session owner privileges acl
  let granted := allowed.map fun privilege =>
    Entry.mk grantee grantor privilege false
  .ok (acl ++ granted.filter fun entry => entry ∉ acl)

/-! ### Statements issued as the owner -/

/-- A superuser, the owner itself, or a role with the privileges of the owner
and of no other role that may grant anything. -/
def IssuesAsOwner (session : Session Role) (owner : Role)
    (acl : Acl Role Privilege) : Prop :=
  session.isSuperuser = true ∨ session.user = owner ∨
    owner ∈ session.roles ∧ ∀ entry ∈ acl, entry.isOption = true →
      ∀ role ∈ session.roles, entry.grantee = .role role → role = owner

def OwnerIssued (owner : Role) (acl : Acl Role Privilege) : Prop :=
  ∀ entry ∈ acl, entry.grantor = owner

/-- The list without what the owner has granted to the grantee. -/
def without (grantee : Grantee Role) (privileges : List Privilege)
    (acl : Acl Role Privilege) : Acl Role Privilege :=
  acl.filter fun entry =>
    !(decide (entry.grantee = grantee) && entry.privilege ∈ privileges)

omit [DecidableEq Role] [DecidableEq Privilege] in
theorem IssuesAsOwner.mono {session : Session Role} {owner : Role}
    {acl other : Acl Role Privilege} (hissues : IssuesAsOwner session owner acl)
    (hsub : ∀ entry ∈ other, entry.isOption = true → entry ∈ acl) :
    IssuesAsOwner session owner other := by
  rcases hissues with hsuperuser | howner | ⟨hmember, hoptions⟩
  · exact Or.inl hsuperuser
  · exact Or.inr (Or.inl howner)
  · refine Or.inr (Or.inr ⟨hmember, ?_⟩)
    intro entry hentry hoption
    exact hoptions entry (hsub entry hentry hoption) hoption

theorem length_grantable_le (owner role : Role) (needed : List Privilege)
    (acl : Acl Role Privilege) :
    (grantable owner role needed acl).length ≤ needed.length := by
  unfold grantable
  split_ifs
  · exact le_rfl
  · exact List.length_filter_le _ _

/-- The search ends with the owner if it has found the owner or has found
nothing and the owner is still to come. -/
theorem search_owner {owner : Role} {needed : List Privilege}
    {acl : Acl Role Privilege} (hneeded : needed ≠ []) {roles : List Role}
    (hothers : ∀ role ∈ roles, role ≠ owner →
      grantable owner role needed acl = []) {best : Role × List Privilege}
    (hbest : best = (owner, needed) ∨ best.2 = [] ∧ owner ∈ roles) :
    roles.foldl (fun best role =>
      if best.2.length < (grantable owner role needed acl).length then
        (role, grantable owner role needed acl)
      else best) best = (owner, needed) := by
  induction roles generalizing best with
  | nil =>
      rcases hbest with hbest | ⟨-, hmember⟩
      · exact hbest
      · cases hmember
  | cons role rest ih =>
      obtain ⟨hrole, hrest⟩ := List.forall_mem_cons.mp hothers
      rw [List.foldl_cons]
      apply ih hrest
      rcases hbest with rfl | ⟨hempty, hmember⟩
      · left
        apply if_neg
        exact Nat.not_lt.mpr (length_grantable_le owner role needed acl)
      · by_cases hsame : role = owner
        · left
          have hpositive : best.2.length < needed.length := by
            rw [hempty]
            exact List.length_pos_iff.mpr hneeded
          rw [hsame, grantable, if_pos rfl, if_pos hpositive]
        · right
          have hnothing : ¬ best.2.length < 0 := Nat.not_lt_zero _
          rw [hrole hsame, List.length_nil, if_neg hnothing]
          exact ⟨hempty, (List.mem_cons.mp hmember).resolve_left
            (Ne.symm hsame)⟩

theorem selectGrantor_owner {session : Session Role} {owner : Role}
    {needed : List Privilege} {acl : Acl Role Privilege}
    (hissues : IssuesAsOwner session owner acl) (hneeded : needed ≠ []) :
    selectGrantor session owner needed acl = (owner, needed) := by
  unfold selectGrantor
  rcases hissues with hsuperuser | howner | ⟨hmember, hoptions⟩
  · rw [hsuperuser]
    rfl
  · rw [if_pos (by simp [howner])]
  · split_ifs
    · rfl
    · apply search_owner hneeded _ (Or.inr ⟨rfl, hmember⟩)
      intro role hrole hne
      rw [grantable, if_neg hne, List.filter_eq_nil_iff]
      intro privilege hprivilege hoption
      obtain ⟨entry, hentry, hsame⟩ := List.any_eq_true.mp hoption
      simp only [Bool.and_eq_true, decide_eq_true_eq] at hsame
      exact hne (hoptions entry hentry hsame.2 role hrole hsame.1.1)

theorem restrict_owner {session : Session Role} {owner : Role}
    {needed : List Privilege} {context : Acl Role Privilege}
    (hissues : IssuesAsOwner session owner context) (hneeded : needed ≠ []) :
    restrict session owner needed context = .ok (owner, needed) := by
  unfold restrict
  rw [selectGrantor_owner hissues hneeded]
  have hnone : needed.isEmpty = false := by simpa using hneeded
  simp [hnone]

theorem revoke_owner {session : Session Role} {owner : Role}
    {grantee : Grantee Role} {privileges : List Privilege}
    {context acl after : Acl Role Privilege}
    (hissues : IssuesAsOwner session owner context)
    (hprivileges : privileges ≠ []) (hissued : OwnerIssued owner acl)
    (hafter : revoke session owner grantee privileges context acl =
      .ok after) : after = without grantee privileges acl := by
  unfold revoke at hafter
  rw [restrict_owner hissues hprivileges, Outcome.ok_bind] at hafter
  dsimp only at hafter
  split_ifs at hafter
  rw [Except.ok.injEq] at hafter
  rw [← hafter]
  apply List.filter_congr
  intro entry hentry
  rw [hissued entry hentry, decide_eq_true rfl, Bool.and_true]

theorem grant_owner {session : Session Role} {owner : Role}
    {grantee : Grantee Role} {privileges : List Privilege}
    {acl : Acl Role Privilege} (hissues : IssuesAsOwner session owner acl)
    (hprivileges : privileges ≠ [])
    (hfresh : ∀ entry ∈ acl, entry.grantee ≠ grantee) :
    grant session owner grantee privileges acl =
      .ok (acl ++ privileges.map fun privilege =>
        Entry.mk grantee owner privilege false) := by
  unfold grant
  rw [restrict_owner hissues hprivileges, Outcome.ok_bind]
  dsimp only
  rw [List.filter_eq_self.mpr]
  intro entry hentry
  obtain ⟨privilege, -, rfl⟩ := List.mem_map.mp hentry
  exact decide_eq_true fun hmem => hfresh _ hmem rfl

theorem mem_without {grantee : Grantee Role} {privileges : List Privilege}
    {acl : Acl Role Privilege} {entry : Entry Role Privilege} :
    entry ∈ without grantee privileges acl ↔
      entry ∈ acl ∧
        ¬ (entry.grantee = grantee ∧ entry.privilege ∈ privileges) := by
  rw [without, List.mem_filter, Bool.not_eq_true', ← Bool.not_eq_true,
    Bool.and_eq_true, decide_eq_true_eq, decide_eq_true_eq]

theorem without_without (grantee : Grantee Role) (privileges : List Privilege)
    (acl : Acl Role Privilege) :
    without grantee privileges (without grantee privileges acl) =
      without grantee privileges acl := by
  unfold without
  rw [List.filter_filter]
  simp only [Bool.and_self]

end AccessControl
