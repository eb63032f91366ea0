import InventoryCloud.RuntimeRole

/-!
# What provisioning leaves of the runtime role

A script which a session runs as the owner of the database, of the schema and
of its tables either fails or leaves `inventory_app` with the privileges of the
application only.  If it owns the sequences too, nothing changes when it is run
again.
-/

namespace InventoryCloud

namespace RuntimeRole

open AccessControl Outcome

/-! ### One object -/

section Object

variable {Name Privilege : Type}

/-- The list of privileges on the object as a whole. -/
def effective (default : Role → Acl Role Privilege)
    (object : Securable Name Privilege) : Acl Role Privilege :=
  object.acl.getD (default object.owner)

def allEntries (default : Role → Acl Role Privilege)
    (object : Securable Name Privilege) : Acl Role Privilege :=
  effective default object ++ object.columns.flatten

def ownerIssuedOn (default : Role → Acl Role Privilege)
    (object : Securable Name Privilege) : Prop :=
  OwnerIssued object.owner (allEntries default object)

/-- The statements of the session on the object are issued as its owner. -/
def issuesOn (server : Server) (default : Role → Acl Role Privilege)
    (object : Securable Name Privilege) : Prop :=
  IssuesAsOwner server.session object.owner (allEntries default object)

def grantedOn (default : Role → Acl Role Privilege)
    (privileges : List Privilege) (object : Securable Name Privilege) :
    Securable Name Privilege :=
  { object with
    acl := some (effective default object ++ privileges.map fun privilege =>
      Entry.mk (.role app) object.owner privilege false) }

theorem allEntries_grantedOn {default : Role → Acl Role Privilege}
    {privileges : List Privilege} {object : Securable Name Privilege}
    {entry : Entry Role Privilege}
    (hentry : entry ∈
      allEntries default (grantedOn default privileges object)) :
    entry ∈ allEntries default object ∨
      entry.grantor = object.owner ∧ entry.isOption = false := by
  rcases List.mem_append.mp hentry with hentry | hentry
  · rcases List.mem_append.mp hentry with hentry | hentry
    · exact Or.inl (List.mem_append_left _ hentry)
    · obtain ⟨privilege, -, rfl⟩ := List.mem_map.mp hentry
      exact Or.inr ⟨rfl, rfl⟩
  · exact Or.inl (List.mem_append_right _ hentry)

variable [DecidableEq Privilege]

def revokedOn (default : Role → Acl Role Privilege) (grantee : Grantee Role)
    (privileges : List Privilege) (object : Securable Name Privilege) :
    Securable Name Privilege :=
  { object with
    acl := some (without grantee privileges (effective default object))
    columns := object.columns.map (without grantee privileges) }

variable {server : Server} {default : Role → Acl Role Privilege}
  {grantee : Grantee Role} {privileges : List Privilege}
  {object : Securable Name Privilege}

theorem allEntries_revokedOn {entry : Entry Role Privilege}
    (hentry : entry ∈
      allEntries default (revokedOn default grantee privileges object)) :
    entry ∈ allEntries default object := by
  rcases List.mem_append.mp hentry with hentry | hentry
  · exact List.mem_append_left _ (mem_without.mp hentry).1
  · obtain ⟨column, hcolumn, hentry⟩ := List.mem_flatten.mp hentry
    obtain ⟨before, hbefore, rfl⟩ := List.mem_map.mp hcolumn
    exact List.mem_append_right _
      (List.mem_flatten_of_mem hbefore (mem_without.mp hentry).1)

theorem ownerIssuedOn_revokedOn (hissued : ownerIssuedOn default object) :
    ownerIssuedOn default (revokedOn default grantee privileges object) :=
  fun entry hentry => hissued entry (allEntries_revokedOn hentry)

theorem issuesOn_revokedOn (hissues : issuesOn server default object) :
    issuesOn server default (revokedOn default grantee privileges object) :=
  hissues.mono fun _ hentry _ => allEntries_revokedOn hentry

omit [DecidableEq Privilege] in
theorem ownerIssuedOn_grantedOn (hissued : ownerIssuedOn default object) :
    ownerIssuedOn default (grantedOn default privileges object) := by
  intro entry hentry
  rcases allEntries_grantedOn hentry with hentry | ⟨hgrantor, -⟩
  · exact hissued entry hentry
  · exact hgrantor

omit [DecidableEq Privilege] in
theorem issuesOn_grantedOn (hissues : issuesOn server default object) :
    issuesOn server default (grantedOn default privileges object) := by
  apply hissues.mono
  intro entry hentry hoption
  rcases allEntries_grantedOn hentry with hentry | ⟨-, hnone⟩
  · exact hentry
  · rw [hoption] at hnone
    cases hnone

/-- A REVOKE issued as the owner takes away everything the grantee has of the
privileges. -/
theorem revokeOn_ok {after : Securable Name Privilege}
    (hissues : issuesOn server default object)
    (hissued : ownerIssuedOn default object) (hprivileges : privileges ≠ [])
    (hafter : revokeOn server default grantee privileges object =
      .ok after) : after = revokedOn default grantee privileges object := by
  have hwhole : ∀ entry ∈ effective default object,
      entry ∈ allEntries default object :=
    fun entry hentry => List.mem_append_left _ hentry
  have hcolumn : ∀ column ∈ object.columns, ∀ entry ∈ column,
      entry ∈ allEntries default object :=
    fun column hmem entry hentry =>
      List.mem_append_right _ (List.mem_flatten_of_mem hmem hentry)
  obtain ⟨acl, hacl, hrest⟩ := bind_ok.mp hafter
  obtain ⟨columns, hcolumns, hsame⟩ := bind_ok.mp hrest
  have hacl : acl = without grantee privileges (effective default object) :=
    revoke_owner (hissues.mono fun entry hentry _ => hwhole entry hentry)
      hprivileges (fun entry hentry => hissued entry (hwhole entry hentry))
      hacl
  have hcolumns : columns =
      object.columns.map (without grantee privileges) := by
    apply mapM_map hcolumns
    intro column hmem found hfound
    apply revoke_owner _ hprivileges _ hfound
    · apply hissues.mono
      intro entry hentry hoption
      rcases List.mem_append.mp hentry with hentry | hentry
      · exact hwhole entry hentry
      · exact hcolumn column hmem entry hentry
    · intro entry hentry
      exact hissued entry (hcolumn column hmem entry hentry)
  rw [← pure_ok.mp hsame, hacl, hcolumns]
  rfl

theorem grantOn_ok {after : Securable Name Privilege}
    (hissues : issuesOn server default object) (hprivileges : privileges ≠ [])
    (hfresh : ∀ entry ∈ effective default object,
      entry.grantee ≠ .role app)
    (hafter : grantOn server default privileges object = .ok after) :
    after = grantedOn default privileges object := by
  have hgrant := @grant_owner _ _ _ _ server.session object.owner (.role app)
    privileges (effective default object)
    (hissues.mono fun entry hentry _ => List.mem_append_left _ hentry)
    hprivileges hfresh
  obtain ⟨acl, hacl, hsame⟩ := bind_ok.mp hafter
  have hacl : .ok acl = Except.ok _ := hacl.symm.trans hgrant
  rw [Except.ok.injEq] at hacl
  rw [← pure_ok.mp hsame, hacl]
  rfl

end Object

/-! ### Every object -/

section Each

variable {Name Privilege : Type}

def onEach (applies : Securable Name Privilege → Bool)
    (change : Securable Name Privilege → Securable Name Privilege)
    (objects : List (Securable Name Privilege)) :
    List (Securable Name Privilege) :=
  objects.map fun object => if applies object then change object else object

variable {applies : Securable Name Privilege → Bool}
  {objects after : List (Securable Name Privilege)}

theorem changeEach_ok
    {change : Securable Name Privilege →
      Except AclError (Securable Name Privilege)}
    {value : Securable Name Privilege → Securable Name Privilege}
    (hafter : changeEach applies change objects = .ok after)
    (hvalue : ∀ object ∈ objects, applies object = true → ∀ found,
      change object = .ok found → found = value object) :
    after = onEach applies value objects := by
  unfold changeEach orFail at hafter
  cases hmap : objects.mapM fun object =>
      if applies object then change object else .ok object with
  | error error =>
      rw [hmap] at hafter
      cases hafter
  | ok found =>
      rw [hmap] at hafter
      cases hafter
      apply mapM_map hmap
      intro object hobject found hfound
      split_ifs at hfound ⊢ with happlies
      · exact hvalue object hobject happlies found hfound
      · rw [Except.ok.injEq] at hfound
        exact hfound.symm

end Each

/-! ### A REVOKE from PUBLIC, one from the role and a GRANT -/

/-- The objects which two REVOKE statements concern, those of them which a
GRANT concerns, and the privileges of the three statements. -/
structure Restriction (Name Privilege : Type) where
  default : Role → Acl Role Privilege
  applies : Name → Bool
  granted : Name → Bool
  fromEveryone : List Privilege
  all : List Privilege
  toApp : List Privilege
  applies_of_granted : ∀ name, granted name = true → applies name = true
  mem_all : ∀ privilege, privilege ∈ all
  fromEveryone_ne_nil : fromEveryone ≠ []
  toApp_ne_nil : toApp ≠ []

namespace Restriction

variable {Name Privilege : Type} [DecidableEq Privilege]
  (restriction : Restriction Name Privilege)

/-- The object without what the two REVOKE statements take away. -/
def stripped (object : Securable Name Privilege) : Securable Name Privilege :=
  revokedOn restriction.default (.role app) restriction.all
    (revokedOn restriction.default .everyone restriction.fromEveryone object)

def settled (object : Securable Name Privilege) : Securable Name Privilege :=
  if restriction.granted object.name then
    grantedOn restriction.default restriction.toApp
      (restriction.stripped object)
  else if restriction.applies object.name then restriction.stripped object
  else object

/-- The session issues the statements on these objects as their owner, who has
issued all grants on them. -/
def Administered (server : Server) (objects : List (Securable Name Privilege)) :
    Prop :=
  ∀ object ∈ objects, restriction.applies object.name = true →
    issuesOn server restriction.default object ∧
      ownerIssuedOn restriction.default object

variable {restriction} {server : Server}

omit [DecidableEq Privilege] in
theorem all_ne_nil (restriction : Restriction Name Privilege) :
    restriction.all ≠ [] := by
  obtain ⟨privilege, -⟩ :=
    List.exists_mem_of_ne_nil _ restriction.toApp_ne_nil
  exact List.ne_nil_of_mem (restriction.mem_all privilege)

/-- The role has no entry left when everything is revoked from it. -/
theorem stripped_entries {object : Securable Name Privilege}
    {entry : Entry Role Privilege}
    (hentry : entry ∈
      allEntries restriction.default (restriction.stripped object)) :
    entry.grantee ≠ .role app ∧
      (entry.grantee = .everyone →
        entry.privilege ∉ restriction.fromEveryone) := by
  have happ : ∀ acl : Acl Role Privilege,
      entry ∈ without (.role app) restriction.all
        (without .everyone restriction.fromEveryone acl) →
      entry.grantee ≠ .role app ∧ (entry.grantee = .everyone →
        entry.privilege ∉ restriction.fromEveryone) := by
    intro acl hmem
    obtain ⟨hmem, hnotApp⟩ := mem_without.mp hmem
    obtain ⟨-, hnotEveryone⟩ := mem_without.mp hmem
    exact ⟨fun hgrantee => hnotApp ⟨hgrantee, restriction.mem_all _⟩,
      fun hgrantee hprivilege => hnotEveryone ⟨hgrantee, hprivilege⟩⟩
  rcases List.mem_append.mp hentry with hentry | hentry
  · exact happ _ hentry
  · obtain ⟨column, hcolumn, hentry⟩ := List.mem_flatten.mp hentry
    obtain ⟨between, hbetween, rfl⟩ := List.mem_map.mp hcolumn
    obtain ⟨before, -, rfl⟩ := List.mem_map.mp hbetween
    exact happ _ hentry

theorem settled_name (object : Securable Name Privilege) :
    (restriction.settled object).name = object.name := by
  unfold settled
  split_ifs <;> rfl

/-- The three statements settle every object they concern. -/
theorem settled_ok {objects first second after :
      List (Securable Name Privilege)}
    (hadministered : restriction.Administered server objects)
    (hfirst : changeEach (fun object => restriction.applies object.name)
      (revokeOn server restriction.default .everyone
        restriction.fromEveryone) objects = .ok first)
    (hsecond : changeEach (fun object => restriction.applies object.name)
      (revokeOn server restriction.default (.role app) restriction.all)
        first = .ok second)
    (hafter : changeEach (fun object => restriction.granted object.name)
      (grantOn server restriction.default restriction.toApp) second =
        .ok after) :
    after = objects.map restriction.settled := by
  have hfirst := changeEach_ok hfirst fun object hobject happlies found hfound =>
    revokeOn_ok (hadministered object hobject happlies).1
      (hadministered object hobject happlies).2
      restriction.fromEveryone_ne_nil hfound
  subst hfirst
  have hbetween : restriction.Administered server
      (onEach (fun object => restriction.applies object.name)
        (revokedOn restriction.default .everyone restriction.fromEveryone)
        objects) := by
    intro object hobject happlies
    obtain ⟨before, hbefore, rfl⟩ := List.mem_map.mp hobject
    split_ifs at happlies ⊢ with hbeforeApplies
    · obtain ⟨hissues, hissued⟩ :=
        hadministered before hbefore hbeforeApplies
      exact ⟨issuesOn_revokedOn hissues, ownerIssuedOn_revokedOn hissued⟩
    · exact absurd happlies hbeforeApplies
  have hsecond := changeEach_ok hsecond fun object hobject happlies found
    hfound => revokeOn_ok (hbetween object hobject happlies).1
      (hbetween object hobject happlies).2 (all_ne_nil restriction) hfound
  have hstripped : second = objects.map fun object =>
      if restriction.applies object.name then restriction.stripped object
      else object := by
    rw [hsecond]
    unfold onEach
    rw [List.map_map]
    apply List.map_congr_left
    intro object hobject
    dsimp only [Function.comp_apply]
    by_cases happlies : restriction.applies object.name = true
    · rw [if_pos happlies, if_pos happlies]
      exact if_pos happlies
    · rw [if_neg happlies, if_neg happlies, if_neg happlies]
  subst hstripped
  have hafter := changeEach_ok hafter fun object hobject hgranted found
      hfound => by
    obtain ⟨before, hbefore, hsame⟩ := List.mem_map.mp hobject
    have hname : object.name = before.name := by
      rw [← hsame]
      split_ifs <;> rfl
    rw [hname] at hgranted
    have happlies := restriction.applies_of_granted _ hgranted
    rw [if_pos happlies] at hsame
    subst hsame
    obtain ⟨hissues, -⟩ := hadministered before hbefore happlies
    apply grantOn_ok (issuesOn_revokedOn (issuesOn_revokedOn hissues))
      restriction.toApp_ne_nil _ hfound
    intro entry hentry
    exact (stripped_entries (List.mem_append_left _ hentry)).1
  rw [hafter]
  unfold onEach
  rw [List.map_map]
  apply List.map_congr_left
  intro object hobject
  dsimp only [Function.comp_apply]
  unfold settled
  by_cases happlies : restriction.applies object.name = true
  · rw [if_pos happlies]
    rfl
  · have hgranted : ¬ restriction.granted object.name = true :=
      fun hgranted => happlies (restriction.applies_of_granted _ hgranted)
    rw [if_neg happlies, if_neg hgranted, if_neg hgranted]

/-- The statements leave what they have settled as it is. -/
theorem administered_settled {objects : List (Securable Name Privilege)}
    (hadministered : restriction.Administered server objects) :
    restriction.Administered server (objects.map restriction.settled) := by
  intro object hobject happlies
  obtain ⟨before, hbefore, rfl⟩ := List.mem_map.mp hobject
  rw [settled_name] at happlies
  obtain ⟨hissues, hissued⟩ := hadministered before hbefore happlies
  have hissues : issuesOn server restriction.default
      (restriction.stripped before) :=
    issuesOn_revokedOn (issuesOn_revokedOn hissues)
  have hissued : ownerIssuedOn restriction.default
      (restriction.stripped before) :=
    ownerIssuedOn_revokedOn (ownerIssuedOn_revokedOn hissued)
  unfold settled
  split_ifs
  · exact ⟨issuesOn_grantedOn hissues, ownerIssuedOn_grantedOn hissued⟩
  · exact ⟨hissues, hissued⟩

variable (restriction) in
def strip (acl : Acl Role Privilege) : Acl Role Privilege :=
  without (.role app) restriction.all
    (without .everyone restriction.fromEveryone acl)

theorem stripped_eq (object : Securable Name Privilege) :
    restriction.stripped object =
      { object with
        acl := some (restriction.strip (effective restriction.default object))
        columns := object.columns.map restriction.strip } := by
  unfold stripped revokedOn
  dsimp only
  rw [List.map_map]
  rfl

theorem strip_append (first second : Acl Role Privilege) :
    restriction.strip (first ++ second) =
      restriction.strip first ++ restriction.strip second := by
  unfold strip without
  rw [List.filter_append, List.filter_append]

theorem strip_strip (acl : Acl Role Privilege) :
    restriction.strip (restriction.strip acl) = restriction.strip acl := by
  unfold strip without
  simp only [List.filter_filter]
  apply List.filter_congr
  intro entry hentry
  rw [Bool.eq_iff_iff]
  simp only [Bool.and_eq_true]
  tauto

theorem strip_granted (owner : Role) :
    restriction.strip (restriction.toApp.map fun privilege =>
      Entry.mk (.role app) owner privilege false) = [] := by
  rw [List.eq_nil_iff_forall_not_mem]
  intro entry hentry
  obtain ⟨hmem, hnone⟩ := mem_without.mp hentry
  obtain ⟨privilege, -, rfl⟩ := List.mem_map.mp (mem_without.mp hmem).1
  exact hnone ⟨rfl, restriction.mem_all privilege⟩

/-- Stripping takes away again what was granted in between. -/
theorem stripped_granted (object : Securable Name Privilege) :
    restriction.stripped (grantedOn restriction.default restriction.toApp
      (restriction.stripped object)) = restriction.stripped object := by
  rw [stripped_eq, stripped_eq]
  unfold grantedOn effective
  dsimp only [Option.getD_some]
  rw [strip_append, strip_strip, strip_granted, List.append_nil, List.map_map]
  congr 1
  apply List.map_congr_left
  intro column hcolumn
  exact strip_strip column

theorem stripped_stripped (object : Securable Name Privilege) :
    restriction.stripped (restriction.stripped object) =
      restriction.stripped object := by
  rw [stripped_eq, stripped_eq]
  unfold effective
  dsimp only [Option.getD_some]
  rw [strip_strip, List.map_map]
  congr 1
  apply List.map_congr_left
  intro column hcolumn
  exact strip_strip column

theorem settled_settled (object : Securable Name Privilege) :
    restriction.settled (restriction.settled object) =
      restriction.settled object := by
  by_cases hgranted : restriction.granted object.name = true
  · have hsettled : restriction.settled object =
        grantedOn restriction.default restriction.toApp
          (restriction.stripped object) := if_pos hgranted
    have hname := @settled_name _ _ _ restriction object
    rw [settled, hname, if_pos hgranted, hsettled, stripped_granted]
  · by_cases happlies : restriction.applies object.name = true
    · have hsettled : restriction.settled object =
          restriction.stripped object := by
        rw [settled, if_neg hgranted, if_pos happlies]
      have hname := @settled_name _ _ _ restriction object
      rw [settled, hname, if_neg hgranted, if_pos happlies, hsettled,
        stripped_stripped]
    · have hsettled : restriction.settled object = object := by
        rw [settled, if_neg hgranted, if_neg happlies]
      rw [hsettled, hsettled]

/-- The entries of the role and of PUBLIC on a settled object. -/
theorem settled_entries {object : Securable Name Privilege}
    {entry : Entry Role Privilege}
    (happlies : restriction.applies object.name = true)
    (hentry : entry ∈
      allEntries restriction.default (restriction.settled object)) :
    (entry.grantee = .role app → restriction.granted object.name = true ∧
        entry.privilege ∈ restriction.toApp ∧ entry.isOption = false) ∧
      (entry.grantee = .everyone →
        entry.privilege ∉ restriction.fromEveryone) := by
  by_cases hgranted : restriction.granted object.name = true
  · have hsettled : restriction.settled object =
        grantedOn restriction.default restriction.toApp
          (restriction.stripped object) := if_pos hgranted
    rw [hsettled] at hentry
    have hold : entry ∈ allEntries restriction.default
        (restriction.stripped object) ∨ entry ∈ restriction.toApp.map
          (fun privilege => Entry.mk (.role app) object.owner privilege false) := by
      rcases List.mem_append.mp hentry with hentry | hentry
      · rcases List.mem_append.mp hentry with hentry | hentry
        · exact Or.inl (List.mem_append_left _ hentry)
        · exact Or.inr hentry
      · exact Or.inl (List.mem_append_right _ hentry)
    rcases hold with hold | hnew
    · obtain ⟨hnotApp, hnotEveryone⟩ := stripped_entries hold
      exact ⟨fun hgrantee => absurd hgrantee hnotApp, hnotEveryone⟩
    · obtain ⟨privilege, hprivilege, rfl⟩ := List.mem_map.mp hnew
      exact ⟨fun _ => ⟨hgranted, hprivilege, rfl⟩, nofun⟩
  · have hsettled : restriction.settled object =
        restriction.stripped object := by
      rw [settled, if_neg hgranted, if_pos happlies]
    rw [hsettled] at hentry
    obtain ⟨hnotApp, hnotEveryone⟩ := stripped_entries hentry
    exact ⟨fun hgrantee => absurd hgrantee hnotApp, hnotEveryone⟩

/-- No column of a settled object has an entry of the role, nor one of PUBLIC
for what is revoked from PUBLIC. -/
theorem settled_columns {object : Securable Name Privilege}
    {column : Acl Role Privilege} {entry : Entry Role Privilege}
    (happlies : restriction.applies object.name = true)
    (hcolumn : column ∈ (restriction.settled object).columns)
    (hentry : entry ∈ column) :
    entry.grantee ≠ .role app ∧
      (entry.grantee = .everyone →
        entry.privilege ∉ restriction.fromEveryone) := by
  have hcolumns : (restriction.settled object).columns =
      (restriction.stripped object).columns := by
    unfold settled
    split_ifs <;> rfl
  rw [hcolumns] at hcolumn
  exact stripped_entries (List.mem_append_right _
    (List.mem_flatten_of_mem hcolumn hentry))

/-- The granted privileges are there. -/
theorem granted_entry {object : Securable Name Privilege}
    (hgranted : restriction.granted object.name = true) {privilege : Privilege}
    (hprivilege : privilege ∈ restriction.toApp) :
    Entry.mk (.role app) object.owner privilege false ∈
      effective restriction.default (restriction.settled object) := by
  rw [settled, if_pos hgranted]
  exact List.mem_append_right _ (List.mem_map_of_mem hprivilege)

end Restriction

/-! ### The privileges of the role -/

/-- A privilege of the role, its own or that of PUBLIC. -/
def Holds {Privilege : Type} (acl : Acl Role Privilege)
    (privilege : Privilege) : Prop :=
  ∃ entry ∈ acl, (entry.grantee = .role app ∨ entry.grantee = .everyone) ∧
    entry.privilege = privilege ∧ entry.isOption = false

/-- The role holds these privileges on the object as a whole, no others and
none that it may grant on. -/
structure HoldsExactly {Name Privilege : Type}
    (default : Role → Acl Role Privilege) (object : Securable Name Privilege)
    (holds : Privilege → Prop) : Prop where
  privileges : ∀ privilege,
    Holds (effective default object) privilege ↔ holds privilege
  options : ∀ entry ∈ allEntries default object,
    entry.grantee = .role app → entry.isOption = false

theorem Restriction.holdsExactly {Name Privilege : Type}
    [DecidableEq Privilege] {restriction : Restriction Name Privilege}
    {object : Securable Name Privilege}
    (happlies : restriction.applies object.name = true)
    (hcover : ∀ privilege, privilege ∈ restriction.fromEveryone ∨
      restriction.granted object.name = true ∧
        privilege ∈ restriction.toApp) :
    HoldsExactly restriction.default (restriction.settled object)
      fun privilege => restriction.granted object.name = true ∧
        privilege ∈ restriction.toApp := by
  constructor
  · intro privilege
    constructor
    · rintro ⟨entry, hentry, hgrantee, rfl, -⟩
      obtain ⟨happ, heveryone⟩ := settled_entries happlies
        (List.mem_append_left _ hentry)
      rcases hgrantee with hgrantee | hgrantee
      · exact ⟨(happ hgrantee).1, (happ hgrantee).2.1⟩
      · exact (hcover entry.privilege).resolve_left (heveryone hgrantee)
    · rintro ⟨hgranted, hprivilege⟩
      exact ⟨_, granted_entry hgranted hprivilege, Or.inl rfl, rfl, rfl⟩
  · intro entry hentry hgrantee
    exact ((settled_entries happlies hentry).1 hgrantee).2.2

def databaseRestriction (server : Server) :
    Restriction String DatabasePrivilege where
  default := databaseDefault
  applies name := decide (name = server.currentDatabase)
  granted name := decide (name = server.currentDatabase)
  fromEveryone := DatabasePrivilege.all
  all := DatabasePrivilege.all
  toApp := [.connect]
  applies_of_granted _ hgranted := hgranted
  mem_all privilege := by cases privilege <;> decide
  fromEveryone_ne_nil := by decide
  toApp_ne_nil := by decide

def schemaRestriction : Restriction String SchemaPrivilege where
  default := schemaDefault
  applies name := decide (name = "public")
  granted name := decide (name = "public")
  fromEveryone := [.create]
  all := SchemaPrivilege.all
  toApp := [.usage]
  applies_of_granted _ hgranted := hgranted
  mem_all privilege := by cases privilege <;> decide
  fromEveryone_ne_nil := by decide
  toApp_ne_nil := by decide

def tableRestriction : Restriction RelationName TablePrivilege where
  default := tableDefault
  applies name := decide (name.1 = "public")
  granted name := applicationTables.contains name
  fromEveryone := TablePrivilege.all
  all := TablePrivilege.all
  toApp := [.select, .insert, .update]
  applies_of_granted name hgranted := by
    have hname := List.contains_iff_mem.mp hgranted
    simp only [applicationTables, List.mem_cons, List.not_mem_nil,
      or_false] at hname
    rcases hname with rfl | rfl <;> rfl
  mem_all privilege := by cases privilege <;> decide
  fromEveryone_ne_nil := by decide
  toApp_ne_nil := by decide

/-! ### The steps of the script -/

/-- The grants on all objects were issued by their owners. -/
structure OwnersIssued (catalog : Catalog) : Prop where
  databases : ∀ database ∈ catalog.databases,
    ownerIssuedOn databaseDefault database
  schemas : ∀ schema ∈ catalog.schemas, ownerIssuedOn schemaDefault schema
  tables : ∀ table ∈ catalog.tables, ownerIssuedOn tableDefault table
  sequences : ∀ sequence ∈ catalog.sequences,
    ownerIssuedOn sequenceDefault sequence

/-- The session that runs the script issues its statements as the owner of the
database, of the schema and of each of its tables. -/
structure ActsAsOwner (server : Server) (catalog : Catalog) : Prop where
  database : ∀ database ∈ catalog.databases,
    database.name = server.currentDatabase →
      issuesOn server databaseDefault database
  schema : ∀ schema ∈ catalog.schemas, schema.name = "public" →
    issuesOn server schemaDefault schema
  tables : ∀ table ∈ catalog.tables, table.name.1 = "public" →
    issuesOn server tableDefault table

/-- It issues them as the owner of each of the sequences too. -/
def ActsOnSequences (server : Server) (catalog : Catalog) : Prop :=
  ∀ sequence ∈ catalog.sequences, sequence.name.1 = "public" →
    issuesOn server sequenceDefault sequence

/-- The membership is not the one which `REVOKE role FROM inventory_app`
removes. -/
def isKept (server : Server) (membership : Membership) : Bool :=
  !(decide (membership.member = app) &&
    decide (inferredGrantor server membership.role = some membership.grantor))

def provisionedAttributes (password : String) (attributes : RoleAttributes) :
    RoleAttributes :=
  { attributes with
    canLogin := true
    inherits := false
    password := some password }

/-- The REVOKE on the sequences. -/
def revokeSequences (server : Server) :
    List Sequence → Except ProvisionError (List Sequence) :=
  changeEach inPublic (revokeOn server sequenceDefault (.role app)
    SequencePrivilege.all)

def revokedSequences : List Sequence → List Sequence :=
  onEach inPublic (revokedOn sequenceDefault (.role app)
    SequencePrivilege.all)

/-- The catalog after the statements on a role that exists, with what they have
left of the sequences. -/
def settledCatalog (server : Server) (password : String)
    (sequences : List Sequence) (catalog : Catalog) : Catalog where
  roles := Function.update catalog.roles app
    ((catalog.roles app).map (provisionedAttributes password))
  memberships := catalog.memberships.filter (isKept server)
  databases := catalog.databases.map (databaseRestriction server).settled
  schemas := catalog.schemas.map schemaRestriction.settled
  tables := catalog.tables.map tableRestriction.settled
  sequences := sequences
  otherRelations := catalog.otherRelations

section Steps

variable {server : Server} {catalog after : Catalog}

theorem alterRole_ok {command : RoleCommand}
    {change : RoleAttributes → RoleAttributes}
    (hafter : alterRole server command change catalog = .ok after) :
    after = { catalog with
      roles := Function.update catalog.roles app
        ((catalog.roles app).map change) } := by
  obtain ⟨allowed, -, hsame⟩ := bind_ok.mp hafter
  exact (Except.ok.inj hsame).symm

theorem revokeRole_ok {role : Role}
    (hafter : revokeRole server catalog role = .ok after) :
    ∃ grantor, inferredGrantor server role = some grantor ∧
      after = { catalog with
        memberships := catalog.memberships.filter
          (· ≠ ⟨role, app, grantor⟩) } := by
  obtain ⟨allowed, -, hrest⟩ := bind_ok.mp hafter
  cases hgrantor : inferredGrantor server role with
  | none =>
      rw [hgrantor] at hrest
      cases hrest
  | some grantor =>
      rw [hgrantor] at hrest
      exact ⟨grantor, rfl, (Except.ok.inj hrest).symm⟩

/-- The loop removes, for every role it goes through, what the inferred grantor
has granted. -/
theorem revokeRoles_ok {roles : List Role}
    (hafter : roles.foldlM (revokeRole server) catalog = .ok after) :
    after = { catalog with
      memberships := catalog.memberships.filter fun membership =>
        !(decide (membership.member = app) && membership.role ∈ roles &&
          decide (inferredGrantor server membership.role =
            some membership.grantor)) } := by
  induction roles generalizing catalog with
  | nil =>
      cases hafter
      simp
  | cons role rest ih =>
      rw [List.foldlM_cons] at hafter
      obtain ⟨between, hbetween, hrest⟩ := bind_ok.mp hafter
      obtain ⟨grantor, hgrantor, rfl⟩ := revokeRole_ok hbetween
      rw [ih hrest]
      congr 1
      rw [List.filter_filter]
      apply List.filter_congr
      intro membership hmembership
      obtain ⟨other, member, granted⟩ := membership
      by_cases hrole : other = role
      · subst hrole
        rw [hgrantor, Bool.eq_iff_iff]
        simp only [Membership.mk.injEq, true_and, List.mem_cons, true_or,
          decide_true, Option.some.injEq, decide_not, Bool.and_eq_true,
          Bool.not_eq_true', Bool.and_eq_false_iff, decide_eq_false_iff_not,
          Bool.and_true]
        grind
      · simp [hrole]

theorem revokeMemberships_ok
    (hafter : revokeMemberships server catalog = .ok after) :
    after = { catalog with
      memberships := catalog.memberships.filter (isKept server) } := by
  rw [revokeRoles_ok hafter]
  congr 1
  apply List.filter_congr
  intro membership hmembership
  unfold isKept
  by_cases hmember : membership.member = app
  · have hrole : membership.role ∈
        (catalog.memberships.filter fun membership =>
          membership.member = app).map Membership.role := by
      apply List.mem_map_of_mem
      exact List.mem_filter.mpr ⟨hmembership, decide_eq_true hmember⟩
    rw [decide_eq_true hrole, Bool.and_true]
  · rw [decide_eq_false hmember, Bool.false_and, Bool.false_and]

theorem require_ok {Name Privilege : Type} [DecidableEq Name] {name : Name}
    {objects : List (Securable Name Privilege)} {β : Type}
    {next : Unit → Except ProvisionError β} {result : β}
    (hresult : (requireSome name objects >>= next) = .ok result) :
    next ⟨⟩ = .ok result := by
  obtain ⟨⟨⟩, -, hrest⟩ := bind_ok.mp hresult
  exact hrest

theorem restrictDatabase_ok
    (hafter : restrictDatabase server catalog = .ok after)
    (hadministered :
      (databaseRestriction server).Administered server catalog.databases) :
    after = { catalog with
      databases := catalog.databases.map
        (databaseRestriction server).settled } := by
  have hafter := require_ok hafter
  obtain ⟨first, hfirst, hrest⟩ := bind_ok.mp hafter
  obtain ⟨second, hsecond, hrest⟩ := bind_ok.mp hrest
  obtain ⟨third, hthird, hsame⟩ := bind_ok.mp hrest
  rw [← pure_ok.mp hsame,
    Restriction.settled_ok hadministered hfirst hsecond hthird]

theorem restrictSchema_ok
    (hafter : restrictSchema server catalog = .ok after)
    (hadministered : schemaRestriction.Administered server catalog.schemas) :
    after = { catalog with
      schemas := catalog.schemas.map schemaRestriction.settled } := by
  have hafter := require_ok hafter
  obtain ⟨first, hfirst, hrest⟩ := bind_ok.mp hafter
  obtain ⟨second, hsecond, hrest⟩ := bind_ok.mp hrest
  obtain ⟨third, hthird, hsame⟩ := bind_ok.mp hrest
  rw [← pure_ok.mp hsame,
    Restriction.settled_ok hadministered hfirst hsecond hthird]

theorem restrictRelations_ok
    (hafter : restrictRelations server catalog = .ok after)
    (htables : tableRestriction.Administered server catalog.tables) :
    ∃ sequences, revokeSequences server catalog.sequences = .ok sequences ∧
      after = { catalog with
        tables := catalog.tables.map tableRestriction.settled
        sequences := sequences } := by
  obtain ⟨first, hfirst, hrest⟩ := bind_ok.mp hafter
  obtain ⟨second, hsecond, hrest⟩ := bind_ok.mp hrest
  obtain ⟨sequences, hrevoked, hrest⟩ := bind_ok.mp hrest
  have hrest := require_ok (require_ok hrest)
  obtain ⟨third, hthird, hsame⟩ := bind_ok.mp hrest
  refine ⟨sequences, hrevoked, ?_⟩
  rw [← pure_ok.mp hsame,
    Restriction.settled_ok htables hfirst hsecond hthird]

/-- What the owner of the sequences revokes. -/
theorem revokeSequences_ok {sequences found : List Sequence}
    (hadministered : ∀ sequence ∈ sequences, inPublic sequence = true →
      issuesOn server sequenceDefault sequence ∧
        ownerIssuedOn sequenceDefault sequence)
    (hfound : revokeSequences server sequences = .ok found) :
    found = revokedSequences sequences := by
  apply changeEach_ok hfound
  intro sequence hmem happlies revoked hrevoked
  obtain ⟨hissues, hissued⟩ := hadministered sequence hmem happlies
  exact revokeOn_ok hissues hissued (by decide) hrevoked

/-- A REVOKE leaves the owner, whoever issues it. -/
theorem owner_revokeOn {Name Privilege : Type} [DecidableEq Privilege]
    {default : Role → Acl Role Privilege} {grantee : Grantee Role}
    {privileges : List Privilege} {object revoked : Securable Name Privilege}
    (hrevoked : revokeOn server default grantee privileges object =
      .ok revoked) : revoked.owner = object.owner := by
  obtain ⟨acl, -, hrest⟩ := bind_ok.mp hrevoked
  obtain ⟨columns, -, hsame⟩ := bind_ok.mp hrest
  rw [← pure_ok.mp hsame]

theorem owner_revokeSequences {sequences found : List Sequence}
    (hfound : revokeSequences server sequences = .ok found)
    {sequence : Sequence} (hmem : sequence ∈ found) :
    ∃ before ∈ sequences, sequence.owner = before.owner := by
  unfold revokeSequences changeEach orFail at hfound
  cases hmap : sequences.mapM fun object =>
      if inPublic object then revokeOn server sequenceDefault (.role app)
        SequencePrivilege.all object else .ok object with
  | error error =>
      rw [hmap] at hfound
      cases hfound
  | ok values =>
      rw [hmap] at hfound
      cases hfound
      obtain ⟨before, hbefore, hvalue⟩ := mem_mapM hmap hmem
      refine ⟨before, hbefore, ?_⟩
      split_ifs at hvalue
      · exact owner_revokeOn hvalue
      · rw [Except.ok.inj hvalue]

theorem createRole_ok (hafter : createRole server catalog = .ok after) :
    (∃ attributes, after.roles app = some attributes) ∧
      after.databases = catalog.databases ∧ after.schemas = catalog.schemas ∧
      after.tables = catalog.tables ∧ after.sequences = catalog.sequences := by
  unfold createRole at hafter
  cases hrole : catalog.roles app with
  | some attributes =>
      rw [hrole] at hafter
      cases hafter
      exact ⟨⟨attributes, hrole⟩, rfl, rfl, rfl, rfl⟩
  | none =>
      rw [hrole] at hafter
      obtain ⟨allowed, -, hsame⟩ := bind_ok.mp hafter
      cases hsame
      refine ⟨⟨newRole, ?_⟩, rfl, rfl, rfl, rfl⟩
      exact Function.update_self app (some newRole) catalog.roles

/-- The conditions on the objects which the statements concern. -/
structure Administered (server : Server) (catalog : Catalog) : Prop where
  databases :
    (databaseRestriction server).Administered server catalog.databases
  schemas : schemaRestriction.Administered server catalog.schemas
  tables : tableRestriction.Administered server catalog.tables

theorem Administered.created (hadministered : Administered server catalog)
    (hafter : createRole server catalog = .ok after) :
    Administered server after := by
  obtain ⟨-, hdatabases, hschemas, htables, -⟩ := createRole_ok hafter
  constructor
  · rw [hdatabases]
    exact hadministered.databases
  · rw [hschemas]
    exact hadministered.schemas
  · rw [htables]
    exact hadministered.tables

theorem administered_of (hissued : OwnersIssued catalog)
    (hacts : ActsAsOwner server catalog) : Administered server catalog where
  databases database hmem happlies :=
    ⟨hacts.database database hmem (of_decide_eq_true happlies),
      hissued.databases database hmem⟩
  schemas schema hmem happlies :=
    ⟨hacts.schema schema hmem (of_decide_eq_true happlies),
      hissued.schemas schema hmem⟩
  tables table hmem happlies :=
    ⟨hacts.tables table hmem (of_decide_eq_true happlies),
      hissued.tables table hmem⟩

/-- A script that commits has settled the catalog in which the role exists. -/
theorem provision_ok {runtimePassword : Option String}
    (hadministered : Administered server catalog)
    (hafter : provision server runtimePassword catalog = .ok after) :
    ∃ password created sequences, runtimePassword = some password ∧
      createRole server catalog = .ok created ∧
      checkRole created = .ok ⟨⟩ ∧
      revokeSequences server created.sequences = .ok sequences ∧
      after = settledCatalog server password sequences created := by
  obtain ⟨password, hpassword, hrest⟩ := bind_ok.mp hafter
  obtain ⟨created, hcreated, hrest⟩ := bind_ok.mp hrest
  obtain ⟨⟨⟩, hchecked, hrest⟩ := bind_ok.mp hrest
  obtain ⟨login, hlogin, hrest⟩ := bind_ok.mp hrest
  obtain ⟨revoked, hrevoked, hrest⟩ := bind_ok.mp hrest
  obtain ⟨secret, hsecret, hrest⟩ := bind_ok.mp hrest
  obtain ⟨database, hdatabase, hrest⟩ := bind_ok.mp hrest
  obtain ⟨schema, hschema, hrelations⟩ := bind_ok.mp hrest
  have hadministered := hadministered.created hcreated
  obtain rfl := alterRole_ok hlogin
  obtain rfl := revokeMemberships_ok hrevoked
  obtain rfl := alterRole_ok hsecret
  obtain rfl := restrictDatabase_ok hdatabase hadministered.databases
  obtain rfl := restrictSchema_ok hschema hadministered.schemas
  have hpassword : runtimePassword = some password := by
    cases runtimePassword with
    | none => cases hpassword
    | some text =>
        unfold checkedPassword at hpassword
        dsimp only at hpassword
        split_ifs at hpassword
        rw [Except.ok.inj hpassword]
  obtain ⟨sequences, hsequences, rfl⟩ :=
    restrictRelations_ok hrelations hadministered.tables
  refine ⟨password, created, sequences, hpassword, hcreated, hchecked,
    hsequences, ?_⟩
  unfold settledCatalog
  dsimp only
  rw [Function.update_idem, Function.update_self, Option.map_map]
  rfl

/-- Settling settled objects changes nothing. -/
theorem map_settled {Name Privilege : Type} [DecidableEq Privilege]
    (restriction : Restriction Name Privilege)
    (objects : List (Securable Name Privilege)) :
    (objects.map restriction.settled).map restriction.settled =
      objects.map restriction.settled := by
  rw [List.map_map]
  apply List.map_congr_left
  intro object hobject
  exact restriction.settled_settled object

theorem revokedSequences_revokedSequences (sequences : List Sequence) :
    revokedSequences (revokedSequences sequences) =
      revokedSequences sequences := by
  unfold revokedSequences onEach
  rw [List.map_map]
  apply List.map_congr_left
  intro sequence hsequence
  dsimp only [Function.comp_apply]
  by_cases happlies : inPublic sequence = true
  · rw [if_pos happlies]
    rw [if_pos (show inPublic (revokedOn sequenceDefault (.role app)
      SequencePrivilege.all sequence) = true from happlies)]
    unfold revokedOn effective
    dsimp only [Option.getD_some]
    rw [without_without, List.map_map]
    congr 1
    apply List.map_congr_left
    intro column hcolumn
    exact without_without _ _ column
  · rw [if_neg happlies, if_neg happlies]

theorem settledCatalog_settledCatalog (server : Server) (password : String)
    (sequences : List Sequence) (catalog : Catalog) :
    settledCatalog server password sequences
        (settledCatalog server password sequences catalog) =
      settledCatalog server password sequences catalog := by
  unfold settledCatalog
  dsimp only
  rw [map_settled, map_settled, map_settled, List.filter_filter,
    Function.update_self, Function.update_idem, Option.map_map]
  simp only [Bool.and_self]
  rfl

/-! ### The result -/

/-- The role owns no relation, schema or database. -/
def OwnsNothing (catalog : Catalog) : Prop :=
  (∀ table ∈ catalog.tables, table.owner ≠ app) ∧
    (∀ sequence ∈ catalog.sequences, sequence.owner ≠ app) ∧
    app ∉ catalog.otherRelations ∧
    (∀ schema ∈ catalog.schemas, schema.owner ≠ app) ∧
    ∀ database ∈ catalog.databases, database.owner ≠ app

/-- The role can log in, owns nothing, has no elevated attribute and has the
privileges of the application only. -/
structure Restricted (server : Server) (catalog : Catalog) : Prop where
  login : ∃ attributes, catalog.roles app = some attributes ∧
    attributes.canLogin = true ∧ isElevated attributes = false
  ownsNothing : OwnsNothing catalog
  database : ∀ database ∈ catalog.databases,
    database.name = server.currentDatabase →
      HoldsExactly databaseDefault database (· = .connect)
  schema : ∀ schema ∈ catalog.schemas, schema.name = "public" →
    HoldsExactly schemaDefault schema (· = .usage)
  tables : ∀ table ∈ catalog.tables, table.name.1 = "public" →
    HoldsExactly tableDefault table fun privilege =>
      table.name ∈ applicationTables ∧
        privilege ∈ [.select, .insert, .update]
  columns : ∀ table ∈ catalog.tables, table.name.1 = "public" →
    ∀ column ∈ table.columns, ∀ privilege, ¬ Holds column privilege

theorem checkRole_ok (hchecked : checkRole catalog = .ok ⟨⟩) :
    OwnsNothing catalog ∧ ∀ attributes, catalog.roles app = some attributes →
      isElevated attributes = false := by
  unfold checkRole at hchecked
  split_ifs at hchecked with howns helevated
  constructor
  · simpa [ownsObjects, OwnsNothing, and_assoc] using howns
  · intro attributes hrole
    rw [hrole] at helevated
    simpa using helevated

/-- Settling changes no owner. -/
theorem ownsNothing_settled {password : String} {sequences : List Sequence}
    (howns : OwnsNothing catalog)
    (hrevoked : revokeSequences server catalog.sequences = .ok sequences) :
    OwnsNothing (settledCatalog server password sequences catalog) := by
  have hsettled : ∀ {Name Privilege : Type} [DecidableEq Privilege]
      (restriction : Restriction Name Privilege)
      (object : Securable Name Privilege),
      (restriction.settled object).owner = object.owner := by
    intro Name Privilege _ restriction object
    unfold Restriction.settled
    split_ifs <;> rfl
  obtain ⟨htables, hsequences, hothers, hschemas, hdatabases⟩ := howns
  refine ⟨?_, ?_, hothers, ?_, ?_⟩
  · intro table htable
    obtain ⟨before, hbefore, rfl⟩ := List.mem_map.mp htable
    rw [hsettled]
    exact htables before hbefore
  · intro sequence hsequence
    obtain ⟨before, hbefore, howner⟩ :=
      owner_revokeSequences hrevoked hsequence
    rw [howner]
    exact hsequences before hbefore
  · intro schema hschema
    obtain ⟨before, hbefore, rfl⟩ := List.mem_map.mp hschema
    rw [hsettled]
    exact hschemas before hbefore
  · intro database hdatabase
    obtain ⟨before, hbefore, rfl⟩ := List.mem_map.mp hdatabase
    rw [hsettled]
    exact hdatabases before hbefore

theorem HoldsExactly.congr {Name Privilege : Type}
    {default : Role → Acl Role Privilege} {object : Securable Name Privilege}
    {holds other : Privilege → Prop}
    (hexactly : HoldsExactly default object holds)
    (hsame : ∀ privilege, holds privilege ↔ other privilege) :
    HoldsExactly default object other where
  privileges privilege := (hexactly.privileges privilege).trans (hsame privilege)
  options := hexactly.options

theorem restricted_settled {password : String} {sequences : List Sequence}
    (hrole : ∃ attributes, catalog.roles app = some attributes)
    (hchecked : checkRole catalog = .ok ⟨⟩)
    (hrevoked : revokeSequences server catalog.sequences = .ok sequences) :
    Restricted server (settledCatalog server password sequences catalog) := by
  obtain ⟨attributes, hrole⟩ := hrole
  obtain ⟨howns, helevated⟩ := checkRole_ok hchecked
  constructor
  · refine ⟨provisionedAttributes password attributes, ?_, rfl, ?_⟩
    · unfold settledCatalog
      dsimp only
      rw [Function.update_self, hrole]
      rfl
    · exact helevated attributes hrole
  · exact ownsNothing_settled howns hrevoked
  · intro database hdatabase hname
    obtain ⟨before, hbefore, rfl⟩ := List.mem_map.mp hdatabase
    rw [Restriction.settled_name] at hname
    have happlies : (databaseRestriction server).applies before.name = true :=
      decide_eq_true hname
    have hexactly := Restriction.holdsExactly happlies fun privilege =>
      Or.inl ((databaseRestriction server).mem_all privilege)
    apply hexactly.congr
    intro privilege
    simp [databaseRestriction, hname]
  · intro schema hschema hname
    obtain ⟨before, hbefore, rfl⟩ := List.mem_map.mp hschema
    rw [Restriction.settled_name] at hname
    have happlies : schemaRestriction.applies before.name = true :=
      decide_eq_true hname
    have hexactly := Restriction.holdsExactly happlies fun privilege => by
      cases privilege with
      | create => exact Or.inl (by decide)
      | usage => exact Or.inr ⟨happlies, by decide⟩
    apply hexactly.congr
    intro privilege
    simp [schemaRestriction, hname]
  · intro table htable hname
    obtain ⟨before, hbefore, rfl⟩ := List.mem_map.mp htable
    rw [Restriction.settled_name] at hname ⊢
    have happlies : tableRestriction.applies before.name = true :=
      decide_eq_true hname
    have hexactly := Restriction.holdsExactly happlies fun privilege =>
      Or.inl (tableRestriction.mem_all privilege)
    apply hexactly.congr
    intro privilege
    simp [tableRestriction]
  · intro table htable hname column hcolumn privilege hholds
    obtain ⟨before, hbefore, rfl⟩ := List.mem_map.mp htable
    rw [Restriction.settled_name] at hname
    have happlies : tableRestriction.applies before.name = true :=
      decide_eq_true hname
    obtain ⟨entry, hentry, hgrantee, -⟩ := hholds
    obtain ⟨hnotApp, hnotEveryone⟩ :=
      Restriction.settled_columns happlies hcolumn hentry
    rcases hgrantee with hgrantee | hgrantee
    · exact hnotApp hgrantee
    · exact hnotEveryone hgrantee (tableRestriction.mem_all entry.privilege)

theorem administered_settledCatalog {password : String}
    {sequences : List Sequence} (hadministered : Administered server catalog) :
    Administered server
      (settledCatalog server password sequences catalog) where
  databases := Restriction.administered_settled hadministered.databases
  schemas := Restriction.administered_settled hadministered.schemas
  tables := Restriction.administered_settled hadministered.tables

/-- The REVOKE on the sequences takes away nothing more when their owner issues
it again. -/
theorem revokeSequences_again {sequences found : List Sequence}
    (hadministered : ∀ sequence ∈ sequences, inPublic sequence = true →
      issuesOn server sequenceDefault sequence ∧
        ownerIssuedOn sequenceDefault sequence)
    (hfound : revokeSequences server (revokedSequences sequences) =
      .ok found) : found = revokedSequences sequences := by
  rw [← revokedSequences_revokedSequences sequences]
  apply revokeSequences_ok _ hfound
  intro sequence hmem happlies
  obtain ⟨before, hbefore, rfl⟩ := List.mem_map.mp hmem
  split_ifs at happlies ⊢ with hbeforeApplies
  · obtain ⟨hissues, hissued⟩ := hadministered before hbefore hbeforeApplies
    exact ⟨issuesOn_revokedOn hissues, ownerIssuedOn_revokedOn hissued⟩
  · exact absurd happlies hbeforeApplies

/-- What a run has settled stays as it is in a further run. -/
theorem provisioned_settled {password : String} {sequences : List Sequence}
    (hrole : ∃ attributes, catalog.roles app = some attributes)
    (hadministered : Administered server catalog)
    (hagain : ∀ found, revokeSequences server sequences = .ok found →
      found = sequences) :
    provisioned server (some password)
        (settledCatalog server password sequences catalog) =
      settledCatalog server password sequences catalog := by
  unfold provisioned
  cases hprovision : provision server (some password)
      (settledCatalog server password sequences catalog) with
  | error error => rfl
  | ok second =>
      obtain ⟨other, created, found, hpassword, hcreated, -, hfound, hsecond⟩ :=
        provision_ok (administered_settledCatalog hadministered) hprovision
      obtain ⟨attributes, hrole⟩ := hrole
      have hexists :
          (settledCatalog server password sequences catalog).roles app =
            some (provisionedAttributes password attributes) := by
        unfold settledCatalog
        dsimp only
        rw [Function.update_self, hrole]
        rfl
      have hsame : settledCatalog server password sequences catalog =
          created := by
        unfold createRole at hcreated
        rw [hexists] at hcreated
        exact Except.ok.inj hcreated
      rw [← hsame] at hfound
      dsimp only
      rw [hsecond, hagain found hfound, ← hsame, ← Option.some.inj hpassword,
        settledCatalog_settledCatalog]

/-- Provisioning as the owner either fails and changes nothing, or leaves the
role restricted; as the owner of the sequences too, running it again changes
nothing more. -/
theorem provision_restricts (server : Server) (runtimePassword : Option String)
    (catalog : Catalog) (hissued : OwnersIssued catalog)
    (hacts : ActsAsOwner server catalog) :
    (∃ error, provision server runtimePassword catalog = .error error ∧
      provisioned server runtimePassword catalog = catalog) ∨
      ∃ after, provision server runtimePassword catalog = .ok after ∧
        provisioned server runtimePassword catalog = after ∧
        Restricted server after ∧
        (ActsOnSequences server catalog →
          provisioned server runtimePassword after = after) := by
  cases hprovision : provision server runtimePassword catalog with
  | error error =>
      left
      refine ⟨error, rfl, ?_⟩
      unfold provisioned
      rw [hprovision]
  | ok after =>
      right
      have hadministered := administered_of hissued hacts
      obtain ⟨password, created, sequences, rfl, hcreated, hchecked, hrevoked,
        rfl⟩ := provision_ok hadministered hprovision
      obtain ⟨hrole, -, -, -, hsequences⟩ := createRole_ok hcreated
      refine ⟨_, rfl, ?_, restricted_settled hrole hchecked hrevoked, ?_⟩
      · unfold provisioned
        rw [hprovision]
      · intro hactsOn
        apply provisioned_settled hrole (hadministered.created hcreated)
        intro found hfound
        rw [hsequences] at hrevoked
        have howned : ∀ sequence ∈ catalog.sequences,
            inPublic sequence = true →
              issuesOn server sequenceDefault sequence ∧
                ownerIssuedOn sequenceDefault sequence :=
          fun sequence hmem happlies =>
            ⟨hactsOn sequence hmem (of_decide_eq_true happlies),
              hissued.sequences sequence hmem⟩
        obtain rfl := revokeSequences_ok howned hrevoked
        exact revokeSequences_again howned hfound

end Steps

theorem ownersIssued_sample {tables : List Table}
    {memberships : List Membership}
    (htables : ∀ table ∈ tables, ownerIssuedOn tableDefault table) :
    OwnersIssued (Sample.catalog tables memberships) := by
  have howned : ∀ {Name Privilege : Type} (name : Name)
      (default : Role → Acl Role Privilege),
      (∀ entry ∈ default "inventory", entry.grantor = "inventory") →
        ownerIssuedOn default (Sample.owned name) := by
    intro Name Privilege name default hdefault entry hentry
    rcases List.mem_append.mp hentry with hentry | hentry
    · exact hdefault entry hentry
    · cases hentry
  constructor
  · intro database hdatabase
    rw [List.mem_singleton.mp hdatabase]
    exact howned _ _ (by decide)
  · intro schema hschema
    rw [List.mem_singleton.mp hschema]
    exact howned _ _ (by decide)
  · intro table htable
    rcases List.mem_append.mp htable with htable | htable
    · simp only [List.mem_cons, List.not_mem_nil, or_false] at htable
      rcases htable with rfl | rfl | rfl <;> exact howned _ _ (by decide)
    · exact htables table htable
  · nofun

/-- A table of another role keeps what its owner has granted to PUBLIC, also
when the owner of the database and of the schema runs the script. -/
theorem foreign_table_stays_readable :
    ¬ ∀ (server : Server) (runtimePassword : Option String)
        (catalog : Catalog), OwnersIssued catalog →
      (∃ error, provision server runtimePassword catalog = .error error ∧
        provisioned server runtimePassword catalog = catalog) ∨
        ∃ after, provision server runtimePassword catalog = .ok after ∧
          provisioned server runtimePassword catalog = after ∧
          Restricted server after ∧
          provisioned server runtimePassword after = after := by
  intro hclaim
  have hissued : OwnersIssued (Sample.catalog [Sample.auditTable] []) := by
    apply ownersIssued_sample
    intro table htable
    rw [List.mem_singleton.mp htable]
    unfold ownerIssuedOn OwnerIssued
    decide
  have hkept : ((provision (Sample.server false) Sample.password
      (Sample.catalog [Sample.auditTable] [])).toOption.any fun after =>
        after.tables.any fun table =>
          decide (table.name = Sample.auditTable.name) &&
            decide (table.acl = Sample.auditTable.acl)) = true := by
    decide +kernel
  rcases hclaim (Sample.server false) Sample.password _ hissued with
    ⟨error, herror, -⟩ | ⟨after, hafter, -, hrestricted, -⟩
  · rw [herror] at hkept
    cases hkept
  · rw [hafter] at hkept
    obtain ⟨table, htable, hsame⟩ := List.any_eq_true.mp hkept
    rw [Bool.and_eq_true, decide_eq_true_eq, decide_eq_true_eq] at hsame
    obtain ⟨hname, hacl⟩ := hsame
    have hholds := ((hrestricted.tables table htable
      (by rw [hname]; rfl)).privileges .select).mp
        ⟨⟨.everyone, "bob", .select, false⟩, by
          rw [effective, hacl]
          exact List.mem_singleton_self _, Or.inr rfl, rfl, rfl⟩
    rw [hname] at hholds
    exact absurd hholds.1 (by decide)

namespace Sample

/-- The catalog with a runtime role from earlier, to which and to PUBLIC more
is granted than the script leaves. -/
def grantedCatalog (sequences : List Sequence) : Catalog where
  roles role :=
    if role = "inventory" ∨ role = app then some newRole else none
  memberships := []
  databases := [{ owned "inventory" with
    acl := some (databaseDefault "inventory" ++
      [⟨.role app, "inventory", .temporary, false⟩]) }]
  schemas := [{ owned "public" with
    acl := some (schemaDefault "inventory" ++
      [⟨.everyone, "inventory", .create, false⟩,
        ⟨.everyone, "inventory", .usage, false⟩,
        ⟨.role app, "inventory", .create, true⟩]) }]
  tables :=
    [⟨("public", "products"), "inventory",
        some [⟨.everyone, "inventory", .select, false⟩,
          ⟨.role app, "inventory", .delete, false⟩,
          ⟨.role app, "inventory", .delete, true⟩],
        [[⟨.role app, "inventory", .references, false⟩],
          [⟨.everyone, "inventory", .update, false⟩]]⟩,
      owned ("public", "reservations"),
      ⟨("public", "flyway_schema_history"), "inventory",
        some [⟨.everyone, "inventory", .select, false⟩,
          ⟨.role app, "inventory", .insert, false⟩], []⟩]
  sequences := sequences
  otherRelations := []

def ownSequence : Sequence where
  name := ("public", "audit_id")
  owner := "inventory"
  acl := some [⟨.role app, "inventory", .usage, false⟩]
  columns := []

/-- A sequence of another role.  The runtime role may grant two privileges on
the sequence and the third on one of its columns. -/
def auditSequence : Sequence where
  name := ("public", "audit_id")
  owner := "bob"
  acl := some [⟨.role app, "bob", .update, true⟩,
    ⟨.role app, "bob", .usage, true⟩]
  columns := [[⟨.role app, "bob", .select, true⟩]]

/-- The owner of the database with the privileges of two other roles. -/
def memberServer : Server :=
  { server false with
    session := ⟨"inventory", false, ["inventory", app, "bob"]⟩ }

end Sample

theorem ownersIssued_granted {sequences : List Sequence}
    (hsequences : ∀ sequence ∈ sequences,
      ownerIssuedOn sequenceDefault sequence) :
    OwnersIssued (Sample.grantedCatalog sequences) := by
  constructor
  · intro database hdatabase
    rw [List.mem_singleton.mp hdatabase]
    unfold ownerIssuedOn OwnerIssued
    decide
  · intro schema hschema
    rw [List.mem_singleton.mp hschema]
    unfold ownerIssuedOn OwnerIssued
    decide
  · intro table htable
    simp only [Sample.grantedCatalog, List.mem_cons, List.not_mem_nil,
      or_false] at htable
    unfold ownerIssuedOn OwnerIssued
    rcases htable with rfl | rfl | rfl <;> decide
  · exact hsequences

theorem actsAsOwner_granted {server : Server} {sequences : List Sequence}
    (huser : server.session.user = "inventory") :
    ActsAsOwner server (Sample.grantedCatalog sequences) := by
  constructor
  · intro database hdatabase hname
    rw [List.mem_singleton.mp hdatabase]
    exact Or.inr (Or.inl huser)
  · intro schema hschema hname
    rw [List.mem_singleton.mp hschema]
    exact Or.inr (Or.inl huser)
  · intro table htable hname
    simp only [Sample.grantedCatalog, List.mem_cons, List.not_mem_nil,
      or_false] at htable
    rcases htable with rfl | rfl | rfl <;> exact Or.inr (Or.inl huser)

theorem provision_restricts_sample :
    Restricted (Sample.server false) (provisioned (Sample.server false)
        Sample.password (Sample.grantedCatalog [Sample.ownSequence])) ∧
      provisioned (Sample.server false) Sample.password
          (provisioned (Sample.server false) Sample.password
            (Sample.grantedCatalog [Sample.ownSequence])) =
        provisioned (Sample.server false) Sample.password
          (Sample.grantedCatalog [Sample.ownSequence]) := by
  have hissued : OwnersIssued (Sample.grantedCatalog [Sample.ownSequence]) := by
    apply ownersIssued_granted
    intro sequence hsequence
    rw [List.mem_singleton.mp hsequence]
    unfold ownerIssuedOn OwnerIssued
    decide
  have hacts : ActsOnSequences (Sample.server false)
      (Sample.grantedCatalog [Sample.ownSequence]) := by
    intro sequence hsequence hname
    rw [List.mem_singleton.mp hsequence]
    exact Or.inr (Or.inl rfl)
  have hcommits : (provision (Sample.server false) Sample.password
      (Sample.grantedCatalog [Sample.ownSequence])).toOption.isSome =
        true := by
    decide +kernel
  rcases provision_restricts (Sample.server false) Sample.password
    (Sample.grantedCatalog [Sample.ownSequence]) hissued
    (actsAsOwner_granted rfl) with
    ⟨error, herror, -⟩ | ⟨after, -, hafter, hrestricted, hagain⟩
  · rw [herror] at hcommits
    cases hcommits
  · rw [hafter]
    exact ⟨hrestricted, hagain hacts⟩

/-- On a sequence of another role a second run may take away what the first has
left, since it is issued in the name of another grantor. -/
theorem foreign_sequence_loses_more :
    ¬ ∀ (server : Server) (runtimePassword : Option String)
        (catalog : Catalog), OwnersIssued catalog →
      ActsAsOwner server catalog →
        provisioned server runtimePassword
            (provisioned server runtimePassword catalog) =
          provisioned server runtimePassword catalog := by
  intro hclaim
  have hissued :
      OwnersIssued (Sample.grantedCatalog [Sample.auditSequence]) := by
    apply ownersIssued_granted
    intro sequence hsequence
    rw [List.mem_singleton.mp hsequence]
    unfold ownerIssuedOn OwnerIssued
    decide
  have hsame := congrArg
    (fun catalog => catalog.sequences.map fun sequence => sequence.columns)
    (hclaim Sample.memberServer Sample.password _ hissued
      (actsAsOwner_granted rfl))
  revert hsame
  decide +kernel

end RuntimeRole

end InventoryCloud
