import InventoryCloud.ReleaseContract

/-!
# The documents that the contract reader accepts

`strict_object` at every object and `validate_contract` accept one shape of
document, up to the order of members and of capabilities, and refuse every
other document with a `ContractError`, as long as the interpreter has the
levels of recursion that reading the document takes: the `RecursionError` of a
document nested deeper is not among the exceptions that are caught.
-/

namespace InventoryCloud

namespace ReleaseContract

open JsonValue Python

/-! ### Repeated keys -/

mutual

/-- No object of the tree repeats a key. -/
def distinctKeys : JsonValue → Bool
  | .array items => distinctInItems items
  | .object members =>
      decide (members.map Prod.fst).Nodup && distinctInMembers members
  | .null => true
  | .bool _ => true
  | .integer _ => true
  | .decimal _ => true
  | .nonFinite _ => true
  | .string _ => true

def distinctInItems : List JsonValue → Bool
  | [] => true
  | item :: rest => distinctKeys item && distinctInItems rest

def distinctInMembers : Members → Bool
  | [] => true
  | (_, value) :: rest => distinctKeys value && distinctInMembers rest

end

def duplicateKeys : Failure :=
  contractError "The embedded contract contains duplicate JSON object keys."

mutual

/-- Reading with `strict_object` changes nothing and fails at a repeated key.
-/
theorem withHook_strict (value : JsonValue) :
    withHook strictObject value =
      if distinctKeys value then .ok value else .error duplicateKeys := by
  cases value with
  | array items =>
      rw [withHook, itemsWithHook_strict items, distinctKeys]
      cases distinctInItems items <;> rfl
  | object members =>
      rw [withHook, membersWithHook_strict members, distinctKeys]
      cases distinctInMembers members with
      | false =>
          rw [Bool.and_false]
          rfl
      | true =>
          by_cases hkeys : (members.map Prod.fst).Nodup <;>
            simp [strictObject, hkeys, duplicateKeys, bind, Except.bind]
  | _ => rfl

theorem itemsWithHook_strict (items : List JsonValue) :
    itemsWithHook strictObject items =
      if distinctInItems items then .ok items else .error duplicateKeys := by
  cases items with
  | nil => rfl
  | cons item rest =>
      rw [itemsWithHook, withHook_strict item, itemsWithHook_strict rest,
        distinctInItems]
      cases distinctKeys item with
      | false => rfl
      | true => cases distinctInItems rest <;> rfl

theorem membersWithHook_strict (members : Members) :
    membersWithHook strictObject members =
      if distinctInMembers members then .ok members
      else .error duplicateKeys := by
  cases members with
  | nil => rfl
  | cons member rest =>
      obtain ⟨name, value⟩ := member
      rw [membersWithHook, withHook_strict value, membersWithHook_strict rest,
        distinctInMembers]
      cases distinctKeys value with
      | false => rfl
      | true => cases distinctInMembers rest <;> rfl

end

/-! ### The shape of a contract -/

def contractKeys : List String :=
  ["schemaVersion", "service", "capabilities"]

/-- The only shape: three members, the version a whole number written as such,
the capabilities in any order. -/
structure ContractShape (document : JsonValue) (members : Members)
    (capabilities : List String) : Prop where
  object : document = .object members
  keys : ∀ key, key ∈ members.map Prod.fst ↔ key ∈ contractKeys
  version : lookup "schemaVersion" members = some (.integer 1)
  service : lookup "service" members =
    some (.string "inventory-cloud-service")
  listed : lookup "capabilities" members =
    some (.array (capabilities.map .string))
  exact : capabilities.Perm requiredCapabilities

def canonicalContract : Members :=
  [("schemaVersion", .integer 1),
    ("service", .string "inventory-cloud-service"),
    ("capabilities", .array (sortedCapabilities.map .string))]

theorem sameSet_iff {first second : List String} :
    sameSet first second = true ↔ ∀ text, text ∈ first ↔ text ∈ second := by
  unfold sameSet
  rw [Bool.and_eq_true, List.all_eq_true, List.all_eq_true]
  simp only [decide_eq_true_iff]
  constructor
  · intro hboth text
    exact ⟨hboth.1 text, hboth.2 text⟩
  · intro hsame
    exact ⟨fun text => (hsame text).mp, fun text => (hsame text).mpr⟩

theorem texts_map (capabilities : List String) :
    texts (capabilities.map .string) = some capabilities := by
  induction capabilities with
  | nil => rfl
  | cons first rest ih =>
      rw [List.map_cons, texts, ih]
      rfl

theorem texts_some {items : List JsonValue} {capabilities : List String}
    (htexts : texts items = some capabilities) :
    items = capabilities.map .string := by
  induction items generalizing capabilities with
  | nil =>
      cases htexts
      rfl
  | cons item rest ih =>
      cases item with
      | string text =>
          rw [texts, Option.map_eq_some_iff] at htexts
          obtain ⟨others, hothers, rfl⟩ := htexts
          rw [ih hothers]
          rfl
      | _ => cases htexts

theorem validCapabilities_iff {value : JsonValue} :
    validCapabilities value = true ↔
      ∃ capabilities : List String,
        value = .array (capabilities.map .string) ∧
          capabilities.Perm requiredCapabilities := by
  have hrequired : requiredCapabilities.Nodup := by decide
  constructor
  · intro hvalid
    cases value with
    | array items =>
        unfold validCapabilities at hvalid
        dsimp only at hvalid
        cases htexts : texts items with
        | none =>
            rw [htexts] at hvalid
            cases hvalid
        | some capabilities =>
            rw [htexts] at hvalid
            dsimp only at hvalid
            rw [Bool.and_eq_true, decide_eq_true_iff, sameSet_iff] at hvalid
            refine ⟨capabilities, by rw [texts_some htexts], ?_⟩
            exact (List.perm_ext_iff_of_nodup hvalid.1 hrequired).mpr hvalid.2
    | _ => cases hvalid
  · rintro ⟨capabilities, rfl, hperm⟩
    unfold validCapabilities
    dsimp only
    rw [texts_map]
    dsimp only
    rw [Bool.and_eq_true, decide_eq_true_iff, sameSet_iff]
    exact ⟨hperm.nodup_iff.mpr hrequired, fun text => hperm.mem_iff⟩

/-- The checks one after another, for an object with the three keys. -/
theorem validateContract_object {members : Members}
    {version service capabilities : JsonValue}
    (hkeys : sameSet (members.map Prod.fst) contractKeys = true)
    (hversion : lookup "schemaVersion" members = some version)
    (hservice : lookup "service" members = some service)
    (hcapabilities : lookup "capabilities" members = some capabilities) :
    (version = .integer 1 ∧ service = .string "inventory-cloud-service" ∧
        validCapabilities capabilities = true ∧
        validateContract (.object members) = .ok canonicalContract) ∨
      (¬ (version = .integer 1 ∧
          service = .string "inventory-cloud-service" ∧
          validCapabilities capabilities = true) ∧
        ∃ message, validateContract (.object members) =
          .error (contractError message)) := by
  have hknown : ¬ ¬ sameSet (members.map Prod.fst)
      ["schemaVersion", "service", "capabilities"] = true := not_not.mpr hkeys
  unfold validateContract
  dsimp only
  rw [if_neg hknown]
  simp only [subscript, hversion, hservice, hcapabilities, ok_bind]
  by_cases hone : version = .integer 1
  · rw [if_neg (not_not.mpr hone)]
    by_cases hname : service = .string "inventory-cloud-service"
    · rw [if_neg (not_not.mpr hname)]
      by_cases hlisted : validCapabilities capabilities = true
      · rw [if_neg (not_not.mpr hlisted)]
        exact Or.inl ⟨hone, hname, hlisted, rfl⟩
      · rw [if_pos hlisted]
        exact Or.inr ⟨fun hall => hlisted hall.2.2, _, rfl⟩
    · rw [if_pos hname]
      exact Or.inr ⟨fun hall => hname hall.2.1, _, rfl⟩
  · rw [if_pos hone]
    exact Or.inr ⟨fun hall => hone hall.1, _, rfl⟩

/-- Validation returns the canonical contract for the documents of the shape
and raises a `ContractError` for all others. -/
theorem validateContract_cases (document : JsonValue) :
    ((∃ members capabilities, ContractShape document members capabilities) ∧
        validateContract document = .ok canonicalContract) ∨
      ((¬ ∃ members capabilities,
          ContractShape document members capabilities) ∧
        ∃ message,
          validateContract document = .error (contractError message)) := by
  cases document with
  | object members =>
      by_cases hkeys : sameSet (members.map Prod.fst) contractKeys = true
      · have hmem := sameSet_iff.mp hkeys
        have hfound : ∀ key ∈ contractKeys,
            ∃ value, lookup key members = some value := by
          intro key hkey
          rw [← Option.isSome_iff_exists, lookup_isSome_iff]
          exact (hmem key).mpr hkey
        obtain ⟨version, hversion⟩ := hfound "schemaVersion" (by decide)
        obtain ⟨service, hservice⟩ := hfound "service" (by decide)
        obtain ⟨listed, hlisted⟩ := hfound "capabilities" (by decide)
        rcases validateContract_object hkeys hversion hservice hlisted with
          ⟨rfl, rfl, hvalid, hresult⟩ | ⟨hinvalid, hresult⟩
        · left
          obtain ⟨capabilities, rfl, hperm⟩ := validCapabilities_iff.mp hvalid
          exact ⟨⟨members, capabilities, rfl, hmem, hversion, hservice,
            hlisted, hperm⟩, hresult⟩
        · right
          refine ⟨?_, hresult⟩
          rintro ⟨others, capabilities, hshape⟩
          obtain rfl := JsonValue.object.inj hshape.object
          apply hinvalid
          refine ⟨?_, ?_, ?_⟩
          · exact Option.some.inj (hversion.symm.trans hshape.version)
          · exact Option.some.inj (hservice.symm.trans hshape.service)
          · rw [Option.some.inj (hlisted.symm.trans hshape.listed)]
            exact validCapabilities_iff.mpr ⟨capabilities, rfl, hshape.exact⟩
      · right
        constructor
        · rintro ⟨others, capabilities, hshape⟩
          obtain rfl := JsonValue.object.inj hshape.object
          exact hkeys (sameSet_iff.mpr hshape.keys)
        · exact ⟨_, if_pos hkeys⟩
  | _ =>
      right
      constructor
      · rintro ⟨members, capabilities, hshape⟩
        cases hshape.object
      · exact ⟨_, rfl⟩

/-- What the reader is to be: it returns the canonical contract for exactly
the documents of the shape in which no object repeats a key, and raises a
`ContractError` for all others. -/
structure ReadsExactly (document : JsonValue)
    (outcome : Except Failure Members) : Prop where
  accepted : (∃ validated, outcome = .ok validated) ↔
    distinctKeys document = true ∧
      ∃ members capabilities, ContractShape document members capabilities
  canonical : ∀ validated, outcome = .ok validated →
    validated = canonicalContract
  refused : ∀ failure, outcome = .error failure →
    ∃ message, failure = contractError message

/-- The reader of documents of any depth. -/
theorem readsExactly_acceptedContract (document : JsonValue) :
    ReadsExactly document (acceptedContract document) := by
  unfold acceptedContract
  rw [withHook_strict]
  by_cases hdistinct : distinctKeys document = true
  · rw [if_pos hdistinct, ok_bind]
    rcases validateContract_cases document with
      ⟨hshape, hresult⟩ | ⟨hshape, message, hresult⟩
    · rw [hresult]
      refine ⟨iff_of_true ⟨_, rfl⟩ ⟨hdistinct, hshape⟩, ?_, nofun⟩
      intro validated hvalidated
      exact (Except.ok.inj hvalidated).symm
    · rw [hresult]
      refine ⟨iff_of_false nofun fun hboth => hshape hboth.2, nofun, ?_⟩
      intro failure hfailure
      exact ⟨message, (Except.error.inj hfailure).symm⟩
  · rw [if_neg hdistinct]
    refine ⟨iff_of_false nofun fun hboth => hdistinct hboth.1, nofun, ?_⟩
    intro failure hfailure
    exact ⟨_, (Except.error.inj hfailure).symm⟩

/-! ### Deep documents -/

/-- The recursion an interpreter has left where `json.loads` is called, in
levels, and how many of them a call of `strict_object` takes: a call that
raises may take more than one that returns. -/
structure Interpreter where
  levels : Nat
  taken : Members → Nat

mutual

/-- The levels suffice up to the first object that repeats a key, and to the
end if there is none. -/
def isReadable (taken : Members → Nat) : JsonValue → Nat → Bool
  | .array _, 0 => false
  | .array items, levels + 1 => itemsReadable taken items levels
  | .object _, 0 => false
  | .object members, levels + 1 =>
      membersReadable taken members levels &&
        (!distinctInMembers members || decide (taken members ≤ levels))
  | .null, _ => true
  | .bool _, _ => true
  | .integer _, _ => true
  | .decimal _, _ => true
  | .nonFinite _, _ => true
  | .string _, _ => true

def itemsReadable (taken : Members → Nat) : List JsonValue → Nat → Bool
  | [], _ => true
  | item :: rest, levels => isReadable taken item levels &&
      (!distinctKeys item || itemsReadable taken rest levels)

def membersReadable (taken : Members → Nat) : Members → Nat → Bool
  | [], _ => true
  | (_, value) :: rest, levels => isReadable taken value levels &&
      (!distinctKeys value || membersReadable taken rest levels)

end

/-- `json.loads(raw, object_pairs_hook=strict_object)` by this interpreter,
and the validation of the result. -/
def Interpreter.acceptedContract (interpreter : Interpreter)
    (document : JsonValue) : Except Failure Members := do
  let contract ← withHookWithin strictObject .recursionError
    interpreter.taken document interpreter.levels
  validateContract contract

mutual

/-- Where the levels suffice, the reader does what it does without a limit. -/
theorem withHookWithin_strict (taken : Members → Nat) (value : JsonValue)
    (levels : Nat) :
    withHookWithin strictObject .recursionError taken value levels =
      if isReadable taken value levels then withHook strictObject value
      else .error .recursionError := by
  cases value with
  | array items =>
      cases levels with
      | zero => rfl
      | succ levels =>
          rw [withHookWithin, itemsWithHookWithin_strict taken items levels,
            isReadable, withHook]
          cases itemsReadable taken items levels <;> rfl
  | object members =>
      cases levels with
      | zero => rfl
      | succ levels =>
          rw [withHookWithin,
            membersWithHookWithin_strict taken members levels, isReadable,
            withHook, membersWithHook_strict]
          cases membersReadable taken members levels with
          | false => rfl
          | true =>
              cases distinctInMembers members with
              | false => rfl
              | true =>
                  by_cases hlevels : taken members ≤ levels <;>
                    simp [hlevels, bind, Except.bind]
  | _ => rfl

theorem itemsWithHookWithin_strict (taken : Members → Nat)
    (items : List JsonValue) (levels : Nat) :
    itemsWithHookWithin strictObject .recursionError taken items levels =
      if itemsReadable taken items levels then itemsWithHook strictObject items
      else .error .recursionError := by
  cases items with
  | nil => rfl
  | cons item rest =>
      rw [itemsWithHookWithin, withHookWithin_strict taken item levels,
        itemsWithHookWithin_strict taken rest levels, itemsReadable,
        itemsWithHook, withHook_strict]
      cases isReadable taken item levels with
      | false => rfl
      | true =>
          cases distinctKeys item with
          | false => rfl
          | true => cases itemsReadable taken rest levels <;> rfl

theorem membersWithHookWithin_strict (taken : Members → Nat)
    (members : Members) (levels : Nat) :
    membersWithHookWithin strictObject .recursionError taken members levels =
      if membersReadable taken members levels then
        membersWithHook strictObject members
      else .error .recursionError := by
  cases members with
  | nil => rfl
  | cons member rest =>
      obtain ⟨name, value⟩ := member
      rw [membersWithHookWithin, withHookWithin_strict taken value levels,
        membersWithHookWithin_strict taken rest levels, membersReadable,
        membersWithHook, withHook_strict]
      cases isReadable taken value levels with
      | false => rfl
      | true =>
          cases distinctKeys value with
          | false => rfl
          | true => cases membersReadable taken rest levels <;> rfl

end

/-- The limited reader refines the one without a limit. -/
theorem Interpreter.acceptedContract_eq (interpreter : Interpreter)
    (document : JsonValue) :
    interpreter.acceptedContract document =
      if isReadable interpreter.taken document interpreter.levels then
        ReleaseContract.acceptedContract document
      else .error .recursionError := by
  unfold Interpreter.acceptedContract
  rw [withHookWithin_strict]
  cases isReadable interpreter.taken document interpreter.levels <;>
    rfl

mutual

/-- How many arrays and objects are open at once. -/
def nesting : JsonValue → Nat
  | .array items => nestingOfItems items + 1
  | .object members => nestingOfMembers members + 1
  | .null => 0
  | .bool _ => 0
  | .integer _ => 0
  | .decimal _ => 0
  | .nonFinite _ => 0
  | .string _ => 0

def nestingOfItems : List JsonValue → Nat
  | [] => 0
  | item :: rest => max (nesting item) (nestingOfItems rest)

def nestingOfMembers : Members → Nat
  | [] => 0
  | (_, value) :: rest => max (nesting value) (nestingOfMembers rest)

end

section

variable {taken : Members → Nat} {most : Nat}

mutual

theorem isReadable_of_nesting (htaken : ∀ members, taken members ≤ most)
    (value : JsonValue) (levels : Nat)
    (hnesting : nesting value + most ≤ levels) :
    isReadable taken value levels = true := by
  cases value with
  | array items =>
      rw [nesting] at hnesting
      obtain ⟨inner, rfl⟩ : ∃ inner, levels = inner + 1 :=
        ⟨levels - 1, by omega⟩
      rw [isReadable]
      exact itemsReadable_of_nesting htaken items inner (by omega)
  | object members =>
      rw [nesting] at hnesting
      obtain ⟨inner, rfl⟩ : ∃ inner, levels = inner + 1 :=
        ⟨levels - 1, by omega⟩
      have hcall : taken members ≤ inner := by
        have hmost := htaken members
        omega
      rw [isReadable,
        membersReadable_of_nesting htaken members inner (by omega),
        decide_eq_true hcall, Bool.or_true, Bool.and_true]
  | _ => rfl

theorem itemsReadable_of_nesting (htaken : ∀ members, taken members ≤ most)
    (items : List JsonValue) (levels : Nat)
    (hnesting : nestingOfItems items + most ≤ levels) :
    itemsReadable taken items levels = true := by
  cases items with
  | nil => rfl
  | cons item rest =>
      rw [nestingOfItems] at hnesting
      rw [itemsReadable, isReadable_of_nesting htaken item levels (by omega),
        itemsReadable_of_nesting htaken rest levels (by omega), Bool.or_true,
        Bool.and_true]

theorem membersReadable_of_nesting (htaken : ∀ members, taken members ≤ most)
    (members : Members) (levels : Nat)
    (hnesting : nestingOfMembers members + most ≤ levels) :
    membersReadable taken members levels = true := by
  cases members with
  | nil => rfl
  | cons member rest =>
      obtain ⟨name, value⟩ := member
      rw [nestingOfMembers] at hnesting
      rw [membersReadable,
        isReadable_of_nesting htaken value levels (by omega),
        membersReadable_of_nesting htaken rest levels (by omega),
        Bool.or_true, Bool.and_true]

end

end

theorem Interpreter.readsExactly_of_readable {interpreter : Interpreter}
    {document : JsonValue}
    (hreadable : isReadable interpreter.taken document interpreter.levels =
      true) :
    ReadsExactly document (interpreter.acceptedContract document) := by
  rw [interpreter.acceptedContract_eq, if_pos hreadable]
  exact readsExactly_acceptedContract document

/-- So it is for all documents of less than the nesting the interpreter can
read, whatever they repeat. -/
theorem Interpreter.readsExactly_of_nesting {interpreter : Interpreter}
    {document : JsonValue} {most : Nat}
    (htaken : ∀ members, interpreter.taken members ≤ most)
    (hnesting : nesting document + most ≤ interpreter.levels) :
    ReadsExactly document (interpreter.acceptedContract document) :=
  readsExactly_of_readable
    (isReadable_of_nesting htaken document interpreter.levels hnesting)

/-- The reader is what it is to be for exactly the documents for which the
levels suffice. -/
theorem contract_reader_exact (interpreter : Interpreter)
    (document : JsonValue) :
    ReadsExactly document (interpreter.acceptedContract document) ↔
      isReadable interpreter.taken document interpreter.levels = true := by
  constructor
  · intro hexact
    by_contra hdeep
    have hraised := interpreter.acceptedContract_eq document
    rw [if_neg hdeep] at hraised
    obtain ⟨message, hmessage⟩ := hexact.refused _ hraised
    cases hmessage
  · exact Interpreter.readsExactly_of_readable

namespace Sample

/-- An interpreter with a limit of a thousand levels, of which eight are in
use, where calls of functions count like open arrays and objects. -/
def interpreter : Interpreter where
  levels := 992
  taken pairs := if (pairs.map Prod.fst).Nodup then 1 else 2

/-- Opening brackets, one more than the number, and as many closing ones. -/
def nested : Nat → JsonValue
  | 0 => .array []
  | depth + 1 => .array [nested depth]

theorem isReadable_nested (taken : Members → Nat) (depth levels : Nat) :
    isReadable taken (nested depth) levels = decide (depth < levels) := by
  induction depth generalizing levels with
  | zero => cases levels <;> simp [nested, isReadable, itemsReadable]
  | succ depth ih =>
      cases levels with
      | zero => simp [nested, isReadable]
      | succ levels => simp [nested, isReadable, itemsReadable, ih]

end Sample

/-- A document of two thousand bytes ends in a `RecursionError`. -/
theorem deep_document_escapes :
    Sample.interpreter.acceptedContract (Sample.nested 999) =
        .error .recursionError ∧
      ¬ ReadsExactly (Sample.nested 999)
        (Sample.interpreter.acceptedContract (Sample.nested 999)) := by
  have hdeep : Sample.interpreter.acceptedContract (Sample.nested 999) =
      .error .recursionError := by
    rw [Interpreter.acceptedContract_eq, Sample.isReadable_nested]
    rfl
  refine ⟨hdeep, ?_⟩
  intro hexact
  obtain ⟨message, hmessage⟩ := hexact.refused _ hdeep
  cases hmessage

end ReleaseContract

end InventoryCloud
