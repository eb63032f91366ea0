import InventoryCloud.JsonValues

/-!
# A Docker engine

The containers and networks of a machine, and what a command can do to them
and say about them.  Nothing is assumed of a command that did not succeed but
that it did what it is for or did nothing, so that a lost answer is one of
the cases.
-/

namespace Docker

open JsonValue

structure Resource where
  id : String
  name : String
  labels : String → Option String

structure Container extends Resource where
  image : String
  isRunning : Bool

section

variable {ρ : Type}

/-- A command makes the resource it is for, unless it fails. -/
def Makes (name : ρ → String) (fits : ρ → Prop) (succeeded : Prop)
    (before after : List ρ) : Prop :=
  (after = before ∧ ¬ succeeded) ∨
    ∃ made, fits made ∧ (∀ other ∈ before, name other ≠ name made) ∧
      after = made :: before

/-- A command removes the only resource it names, unless it fails. -/
def Removes (named : ρ → Prop) (succeeded : Prop) (before after : List ρ) :
    Prop :=
  (after = before ∧ ¬ succeeded) ∨
    ∃ first removed last, before = first ++ removed :: last ∧
      after = first ++ last ∧ named removed ∧ ∀ other ∈ after, ¬ named other

theorem Removes.sublist {named : ρ → Prop} {succeeded : Prop}
    {before after : List ρ} (hremoves : Removes named succeeded before after) :
    after.Sublist before := by
  rcases hremoves with ⟨rfl, -⟩ | ⟨first, removed, last, rfl, rfl, -⟩
  · exact List.Sublist.refl _
  · exact (List.sublist_cons_self removed last).append_left first

/-- What is gone is what had the name. -/
theorem Removes.eq_of_gone {named : ρ → Prop} {succeeded : Prop}
    {before after : List ρ} (hremoves : Removes named succeeded before after)
    {resource other : ρ} (hbefore : resource ∈ before)
    (hgone : resource ∉ after) (hother : other ∈ before)
    (hnamed : named other) : resource = other := by
  rcases hremoves with ⟨rfl, -⟩ | ⟨first, removed, last, rfl, rfl, -, hnone⟩
  · exact absurd hbefore hgone
  · have hkept : other ∉ first ++ last := fun hmem => hnone other hmem hnamed
    rw [List.mem_append, not_or] at hgone hkept
    have hresource : resource = removed := by
      simpa [hgone.1, hgone.2] using hbefore
    have hremoved : other = removed := by
      simpa [hkept.1, hkept.2] using hother
    rw [hresource, hremoved]

/-- A removal by the name of the first resource, which only it has. -/
theorem Removes.of_cons {named : ρ → Prop} {succeeded : Prop} {first : ρ}
    {rest after : List ρ}
    (hremoves : Removes named succeeded (first :: rest) after)
    (hnamed : named first) :
    (after = first :: rest ∧ ¬ succeeded) ∨ after = rest := by
  rcases hremoves with hkept | ⟨before, removed, last, hsplit, rfl, -, hnone⟩
  · exact Or.inl hkept
  · right
    cases before with
    | nil =>
        cases hsplit
        rfl
    | cons other before =>
        cases hsplit
        exact absurd hnamed (hnone first List.mem_cons_self)

/-- After a removal that succeeded nothing has the name. -/
theorem Removes.none_named {named : ρ → Prop} {succeeded : Prop}
    {before after : List ρ} (hremoves : Removes named succeeded before after)
    (hsucceeded : succeeded) : ∀ resource ∈ after, ¬ named resource := by
  rcases hremoves with ⟨-, hfailed⟩ | ⟨first, removed, last, -, -, -, hnone⟩
  · exact absurd hsucceeded hfailed
  · exact hnone

end

/-- The labels in an answer are those of the resource, where they are
texts. -/
def LabelsAgree (labels : String → Option String) (answer : JsonValue) :
    Prop :=
  ∀ key text, answer.member key = some (.string text) → labels key = some text

/-- What `docker container inspect` answers about the labels. -/
def ContainerLabelsAgree (labels : String → Option String)
    (answer : JsonValue) : Prop :=
  ∀ config found, answer.member "Config" = some config →
    config.member "Labels" = some found → LabelsAgree labels found

/-- What `docker network inspect` answers about the labels. -/
def NetworkLabelsAgree (labels : String → Option String)
    (answer : JsonValue) : Prop :=
  ∀ found, answer.member "Labels" = some found → LabelsAgree labels found

/-- What `docker container inspect` answers about a container: members may
be missing or malformed, but a text that is there is true. -/
structure Container.DescribedBy (container : Container) (answer : JsonValue) :
    Prop where
  name : ∀ text, answer.member "Name" = some (.string text) →
    text = "/" ++ container.name
  image : ∀ text, answer.member "Image" = some (.string text) →
    text = container.image
  labels : ContainerLabelsAgree container.labels answer

end Docker
