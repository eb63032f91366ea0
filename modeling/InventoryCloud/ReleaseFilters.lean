import InventoryCloud.JsonFilters
import InventoryCloud.PythonValues

/-!
# The jq filters of the release scripts

`service-baseline.jq`, which compares a fresh service snapshot with the
report of the image gate, and the filter with which `deploy-ecs.sh` and
`migrate-ecs.sh` put a new image into a task definition.
-/

namespace InventoryCloud

namespace ReleaseFilters

open JsonValue Jq

/-! ### `service-baseline.jq` -/

/-- `first == second` -/
def equalBoth (first second : Result JsonValue) : Result Bool := do
  let left ← first
  let right ← second
  pure (equals left right)

/-- The checks of the filter, in order. -/
def baselineChecks (baseline response : JsonValue) : List (Result Bool) :=
  let services := field "services" response
  let service := services >>= entry 0
  let deployments := path service ["deployments"]
  let deployment := deployments >>= entry 0
  [equalTo (field "failures" response) (.array []),
    equalTo (services >>= length) (.integer 1),
    equalTo (path service ["status"]) (.string "ACTIVE"),
    equalBoth (path service ["taskDefinition"])
      (field "previous_task" baseline),
    equalBoth (path service ["desiredCount"])
      (field "previous_count" baseline),
    equalBoth (path service ["runningCount"])
      (field "previous_running_count" baseline),
    equalBoth (path service ["pendingCount"])
      (field "previous_pending_count" baseline),
    equalBoth (path service ["runningCount"]) (path service ["desiredCount"]),
    equalTo (path service ["pendingCount"]) (.integer 0),
    equalTo (deployments >>= length) (.integer 1),
    equalBoth (path deployment ["id"])
      (field "previous_deployment_id" baseline),
    equalTo (path deployment ["status"]) (.string "PRIMARY"),
    equalBoth (path deployment ["taskDefinition"])
      (field "previous_task" baseline),
    equalTo (path deployment ["rolloutState"]) (.string "COMPLETED"),
    equalBoth (path deployment ["desiredCount"])
      (field "previous_count" baseline),
    equalBoth (path deployment ["runningCount"])
      (field "previous_running_count" baseline),
    equalTo (path deployment ["pendingCount"]) (.integer 0)]

/-- `verified` are the documents of the report, of which the first counts. -/
def serviceBaseline (verified : List JsonValue) : Filter := fun response => do
  let baseline ← entry 0 (.array verified)
  let accepted ← conjunction (baselineChecks baseline response)
  pure [.bool accepted]

/-- `jq -e --slurpfile verified report -f service-baseline.jq snapshot` -/
def baselineRun (format : TextFormat) (report snapshot : String) :
    Nat × String :=
  if (format.read report).broken then (2, "")
  else run format false (serviceBaseline (format.read report).values) snapshot

/-! ### The task definition of a release -/

/-- The fields of a described task definition that a registration must not
have. -/
def readOnlyFields : List String :=
  ["taskDefinitionArn", "revision", "status", "requiresAttributes",
    "compatibilities", "registeredAt", "registeredBy", "deregisteredAt"]

/-- `(select(.name == name) | .image) = image` on one container. -/
def withImage (name image : String) (container : JsonValue) :
    Result JsonValue := do
  if ← equalTo (field "name" container) (.string name) then
    setField "image" (.string image) container
  else pure container

def imagesReplaced (name image : String) :
    List JsonValue → Result (List JsonValue)
  | [] => pure []
  | container :: rest => do
      let first ← withImage name image container
      let others ← imagesReplaced name image rest
      pure (first :: others)

/-- The update of `.containerDefinitions[]`, which an object of containers
keeps under their keys. -/
def containersReplaced (name image : String) : JsonValue → Result JsonValue
  | .array items => do
      let replaced ← imagesReplaced name image items
      pure (.array replaced)
  | .object members => do
      let replaced ← imagesReplaced name image
        ((effective members).map Prod.snd)
      pure (.object (((effective members).map Prod.fst).zip replaced))
  | _ => throw .cannotIterate

def releaseDefinition (name image : String) : Filter := fun definition => do
  let containers ← field "containerDefinitions" definition
  let values ← iterate containers
  let named ← selectNamed (.string name) values
  if named.length ≠ 1 then
    throw (.raised ("Expected exactly one " ++ name ++ " container"))
  match definition with
  | .object members =>
      let replaced ← containersReplaced name image containers
      pure [.object (assign "containerDefinitions" replaced
        (del readOnlyFields members))]
  | _ => throw .cannotIndex

/-- One container before and after: the named one has the new image and is
otherwise as before, every other one is unchanged. -/
structure ContainerReplaced (name image : String) (old new : JsonValue) :
    Prop where
  named : old.member "name" = some (.string name) →
    new.member "image" = some (.string image) ∧
      ∀ key, key ≠ "image" → new.member key = old.member key
  other : old.member "name" ≠ some (.string name) → new = old

/-- The containers of a definition, however they are kept. -/
inductive ContainersReplaced (name image : String) :
    JsonValue → JsonValue → Prop where
  | array {old new : List JsonValue}
      (items : List.Forall₂ (ContainerReplaced name image) old new) :
      ContainersReplaced name image (.array old) (.array new)
  | object {old : Members} {new : List JsonValue}
      (items : List.Forall₂ (ContainerReplaced name image)
        ((effective old).map Prod.snd) new) :
      ContainersReplaced name image (.object old)
        (.object (((effective old).map Prod.fst).zip new))

def isNamed (name : String) (container : JsonValue) : Bool :=
  match container.member "name" with
  | some found => decide (found = .string name)
  | none => false

/-- `next` is `base` without its read-only fields and with the new image in
its only container called `name`. -/
structure ImageReplaced (name image : String) (base next : JsonValue) :
    Prop where
  kept : ∀ key, key ∉ readOnlyFields → key ≠ "containerDefinitions" →
    next.member key = base.member key
  dropped : ∀ key ∈ readOnlyFields, next.member key = none
  containers : ∃ old new values,
    base.member "containerDefinitions" = some old ∧
      next.member "containerDefinitions" = some new ∧
      ContainersReplaced name image old new ∧ iterate old = .ok values ∧
      (values.filter (isNamed name)).length = 1

section Specification

open Python (bind_ok guard_ok pure_ok throw_bind throw_ne_ok)

variable {name image : String}

theorem equalTo_ok {value : Result JsonValue} {constant : JsonValue}
    {result : Bool} :
    equalTo value constant = .ok result ↔
      ∃ found, value = .ok found ∧ equals found constant = result := by
  unfold equalTo
  simp only [bind_ok, pure_ok]

/-- Values of length zero. -/
def Vacant : JsonValue → Prop
  | .null => True
  | .string text => text = ""
  | .array items => items = []
  | .object members => members = []
  | .integer value => value = 0
  | .decimal value => value = 0
  | _ => False

theorem vacant_of_length {value : JsonValue}
    (hzero : equalTo (Jq.length value) (.integer 0) = .ok true) :
    Vacant value := by
  obtain ⟨count, hcount, hequal⟩ := equalTo_ok.mp hzero
  rw [equals_integer] at hequal
  cases value with
  | null => trivial
  | bool value => cases hcount
  | integer value =>
      cases hcount
      simpa [number, Vacant] using hequal
  | decimal value =>
      cases hcount
      simpa [number, Vacant] using hequal
  | nonFinite name =>
      cases name <;> cases hcount <;> cases hequal
  | string text =>
      cases hcount
      simpa [number, Vacant] using hequal
  | array items =>
      cases hcount
      simpa [number, Vacant] using hequal
  | object members =>
      cases hcount
      simpa [number, Vacant, names] using hequal

theorem fieldIs_string {key text : String} {value : JsonValue} :
    equalTo (field key value) (.string text) = .ok true ↔
      value.member key = some (.string text) := by
  rw [equalTo_ok]
  constructor
  · rintro ⟨found, hfound, hequal⟩
    rw [equals_string.mp hequal] at hfound
    exact member_of_field hfound (by simp)
  · intro hmember
    exact ⟨_, field_of_member hmember, equals_string.mpr rfl⟩

theorem fieldIs_noItems {key : String} {value : JsonValue} :
    equalTo (field key value) (.array []) = .ok true ↔
      value.member key = some (.array []) := by
  rw [equalTo_ok]
  constructor
  · rintro ⟨found, hfound, hequal⟩
    rw [equals_noItems.mp hequal] at hfound
    exact member_of_field hfound (by simp)
  · intro hmember
    exact ⟨_, field_of_member hmember, equals_noItems.mpr rfl⟩

/-- The member is a number of this value. -/
def HasCount (value : JsonValue) (key : String) (count : Int) : Prop :=
  ∃ found, value.member key = some found ∧
    number found = some (count : Rat)

theorem fieldIs_integer {key : String} {count : Int} {value : JsonValue} :
    equalTo (field key value) (.integer count) = .ok true ↔
      HasCount value key count := by
  rw [equalTo_ok]
  constructor
  · rintro ⟨found, hfound, hequal⟩
    rw [equals_integer] at hequal
    refine ⟨found, member_of_field hfound ?_, hequal⟩
    rintro rfl
    cases hequal
  · rintro ⟨found, hmember, hnumber⟩
    exact ⟨found, field_of_member hmember, equals_integer.mpr hnumber⟩

theorem HasCount.unique {value : JsonValue} {key : String}
    {first second : Int} (hfirst : HasCount value key first)
    (hsecond : HasCount value key second) : first = second := by
  obtain ⟨found, hmember, hnumber⟩ := hfirst
  obtain ⟨other, hother, hsecond⟩ := hsecond
  rw [hmember, Option.some_inj] at hother
  rw [hother, hsecond, Option.some_inj] at hnumber
  exact_mod_cast hnumber.symm

theorem fieldsEqual_iff {value : JsonValue} {key other : String}
    {first second : Int} (hfirst : HasCount value key first)
    (hsecond : HasCount value other second) :
    equalBoth (field key value) (field other value) = .ok true ↔
      first = second := by
  obtain ⟨found, hmember, hnumber⟩ := hfirst
  obtain ⟨constant, hconstant, hsecond⟩ := hsecond
  rw [field_of_member hmember, field_of_member hconstant]
  have hequal : equalBoth (.ok found) (.ok constant) =
      .ok (equals found constant) := rfl
  rw [hequal, Except.ok.injEq, equals_numbers hnumber hsecond]
  exact Int.cast_inj

/-- The only item of a member of which a field was read. -/
theorem only_item {key inner : String} {response value : JsonValue}
    (hone : equalTo (field key response >>= Jq.length) (.integer 1) =
      .ok true)
    (hvalue : path (field key response >>= entry 0) [inner] = .ok value) :
    ∃ item, response.member key = some (.array [item]) ∧
      field inner item = .ok value := by
  obtain ⟨count, hcount, hequal⟩ := equalTo_ok.mp hone
  rw [equals_integer] at hequal
  rw [bind_ok] at hcount
  obtain ⟨items, hitems, hcount⟩ := hcount
  unfold path at hvalue
  rw [hitems] at hvalue
  cases items with
  | array items =>
      cases hcount
      have hlength : items.length = 1 := by simpa [number] using hequal
      obtain ⟨item, rfl⟩ := List.length_eq_one_iff.mp hlength
      exact ⟨item, member_of_field hitems (by simp), hvalue⟩
  | null =>
      cases hcount
      simp [number] at hequal
  | _ => cases hvalue

/-- Whether a value that has a readable name is called `name`. -/
theorem named_ok {container : JsonValue} {result : Bool}
    (hnamed : equalTo (field "name" container) (.string name) =
      .ok result) :
    result = isNamed name container ∧
      (result = true ↔ container.member "name" = some (.string name)) := by
  obtain ⟨found, hfound, rfl⟩ := equalTo_ok.mp hnamed
  cases container with
  | object members =>
      have hsame : (lookup "name" members).getD .null = found := by
        simpa [field] using hfound
      rw [isNamed, member_object, ← hsame]
      cases hlookup : lookup "name" members with
      | none => simp [equals]
      | some value =>
          constructor
          · rw [Bool.eq_iff_iff, Option.getD_some, equals_string]
            simp
          · rw [Option.getD_some, equals_string, Option.some_inj]
  | null =>
      have hsame : JsonValue.null = found := by simpa [field] using hfound
      simp [← hsame, equals, isNamed, member]
  | _ => simp [field] at hfound

theorem selectNamed_ok {values named : List JsonValue}
    (hnamed : selectNamed (.string name) values = .ok named) :
    named = values.filter (isNamed name) := by
  induction values generalizing named with
  | nil =>
      cases hnamed
      rfl
  | cons value rest ih =>
      unfold selectNamed at hnamed
      simp only [bind_ok, pure_ok] at hnamed
      obtain ⟨found, hfound, others, hothers, rfl⟩ := hnamed
      rw [List.filter_cons, (named_ok hfound).1, ih hothers]

theorem withImage_ok {container result : JsonValue}
    (hresult : withImage name image container = .ok result) :
    ContainerReplaced name image container result := by
  unfold withImage at hresult
  rw [bind_ok] at hresult
  obtain ⟨found, hfound, hresult⟩ := hresult
  obtain ⟨-, hiff⟩ := named_ok hfound
  cases found with
  | true =>
      have hname := hiff.mp rfl
      refine ⟨fun _ => ?_, fun hother => absurd hname hother⟩
      cases container with
      | object members =>
          have hset : JsonValue.object
              (assign "image" (.string image) (effective members)) = result :=
            Except.ok.inj hresult
          rw [← hset]
          constructor
          · rw [member_object, lookup_assign _ _ _ (effective_nodup members),
              if_pos rfl]
          · intro key hkey
            rw [member_object, lookup_assign _ _ _ (effective_nodup members),
              if_neg hkey, lookup_effective, member_object]
      | _ => simp [member] at hname
  | false =>
      have hname : container.member "name" ≠ some (.string name) :=
        fun hsame => Bool.noConfusion (hiff.mpr hsame)
      exact ⟨fun hsame => absurd hsame hname,
        fun _ => (Except.ok.inj hresult).symm⟩

theorem imagesReplaced_ok {containers result : List JsonValue}
    (hresult : imagesReplaced name image containers = .ok result) :
    List.Forall₂ (ContainerReplaced name image) containers result := by
  induction containers generalizing result with
  | nil =>
      cases hresult
      exact .nil
  | cons container rest ih =>
      unfold imagesReplaced at hresult
      simp only [bind_ok, pure_ok] at hresult
      obtain ⟨first, hfirst, others, hothers, rfl⟩ := hresult
      exact .cons (withImage_ok hfirst) (ih hothers)

theorem containersReplaced_ok {containers result : JsonValue}
    (hresult : containersReplaced name image containers = .ok result) :
    ContainersReplaced name image containers result := by
  unfold containersReplaced at hresult
  split at hresult
  · simp only [bind_ok, pure_ok] at hresult
    obtain ⟨replaced, hreplaced, rfl⟩ := hresult
    exact .array (imagesReplaced_ok hreplaced)
  · simp only [bind_ok, pure_ok] at hresult
    obtain ⟨replaced, hreplaced, rfl⟩ := hresult
    exact .object (imagesReplaced_ok hreplaced)
  · exact absurd hresult throw_ne_ok

theorem releaseDefinition_ok {base : JsonValue} {outputs : List JsonValue}
    (houtputs : releaseDefinition name image base = .ok outputs) :
    ∃ next, outputs = [next] ∧ ImageReplaced name image base next := by
  unfold releaseDefinition at houtputs
  simp only [bind_ok, throw_bind, guard_ok, not_not, ne_eq] at houtputs
  obtain ⟨containers, hcontainers, values, hvalues, named, hnamed, hone,
    houtputs⟩ := houtputs
  split at houtputs
  · rename_i members
    simp only [bind_ok, pure_ok] at houtputs
    obtain ⟨replaced, hreplaced, rfl⟩ := houtputs
    have hdel := del_nodup readOnlyFields members
    have hcontainers' : (lookup "containerDefinitions" members).getD .null =
        containers := by simpa [field] using hcontainers
    refine ⟨_, rfl, ?_, ?_, containers, replaced, values, ?_, ?_,
      containersReplaced_ok hreplaced, hvalues, ?_⟩
    · intro key hkey hne
      rw [member_object, lookup_assign _ _ _ hdel, if_neg hne, lookup_del,
        if_neg hkey, member_object]
    · intro key hkey
      have hne : key ≠ "containerDefinitions" := by
        rintro rfl
        revert hkey
        decide
      rw [member_object, lookup_assign _ _ _ hdel, if_neg hne, lookup_del,
        if_pos hkey]
    · rw [member_object]
      cases hlookup : lookup "containerDefinitions" members with
      | none =>
          rw [hlookup, Option.getD_none] at hcontainers'
          rw [← hcontainers'] at hvalues
          cases hvalues
      | some found =>
          rw [hlookup, Option.getD_some] at hcontainers'
          rw [hcontainers']
    · rw [member_object, lookup_assign _ _ _ hdel, if_pos rfl]
    · rw [← selectNamed_ok hnamed]
      exact hone
  · exact absurd houtputs throw_ne_ok

/-- Every document that the filter puts out is a base document with the new
image. -/
theorem releaseDefinition_outputs {bases : List JsonValue} {definition : JsonValue}
    (hmem : definition ∈ Jq.outputs (releaseDefinition name image) bases) :
    ∃ base ∈ bases, ImageReplaced name image base definition := by
  unfold Jq.outputs at hmem
  obtain ⟨base, hbase, hdefinition⟩ := List.mem_flatMap.mp hmem
  cases houtputs : releaseDefinition name image base with
  | error error =>
      rw [houtputs] at hdefinition
      cases hdefinition
  | ok outputs =>
      obtain ⟨next, rfl, hreplaced⟩ := releaseDefinition_ok houtputs
      rw [houtputs] at hdefinition
      rw [List.mem_singleton.mp hdefinition]
      exact ⟨base, hbase, hreplaced⟩

end Specification

end ReleaseFilters

end InventoryCloud
