import InventoryCloud.JsonValues

/-!
# JSON filters

The part of the jq language that the scripts use, on one input value: paths,
`length`, `==`, `and`, `select`, `del` and an update, with `null` passed on
and an error for every other value of a wrong type.  `run` is a whole run of
`jq -e`: the filter is applied to every document of its input, and the exit
status speaks of the last one.
-/

namespace Jq

open JsonValue

inductive FilterError where
  | cannotIndex
  | cannotIterate
  | noLength
  | notAText
  | raised (message : String)

abbrev Result (α : Type) := Except FilterError α

/-- `.key` -/
def field (key : String) : JsonValue → Result JsonValue
  | .object members => .ok ((lookup key members).getD .null)
  | .null => .ok .null
  | _ => .error .cannotIndex

/-- `.[index]` -/
def entry (index : Nat) : JsonValue → Result JsonValue
  | .array items => .ok (items[index]?.getD .null)
  | .null => .ok .null
  | _ => .error .cannotIndex

/-- The members of an object as jq sees them: each name once, with its last
value. -/
def effective (members : Members) : Members :=
  (names members).map fun name => (name, (lookup name members).getD .null)

/-- `.[]` -/
def iterate : JsonValue → Result (List JsonValue)
  | .array items => .ok items
  | .object members => .ok ((effective members).map Prod.snd)
  | _ => .error .cannotIterate

/-- `length`, which is the absolute value of a number. -/
def length : JsonValue → Result JsonValue
  | .null => .ok (.integer 0)
  | .bool _ => .error .noLength
  | .integer value => .ok (.integer |value|)
  | .decimal value => .ok (.decimal |value|)
  | .nonFinite .nan => .ok (.nonFinite .nan)
  | .nonFinite _ => .ok (.nonFinite .infinity)
  | .string text => .ok (.integer text.toList.length)
  | .array items => .ok (.integer items.length)
  | .object members => .ok (.integer (names members).length)

/-- The value of a finite number. -/
def number : JsonValue → Option Rat
  | .integer value => some value
  | .decimal value => some value
  | _ => none

mutual

/-- `==`: numbers by value, objects without regard to order. -/
def equals : JsonValue → JsonValue → Bool
  | .null, .null => true
  | .bool first, .bool second => first == second
  | .integer first, other => number other == some (first : Rat)
  | .decimal first, other => number other == some first
  | .nonFinite first, .nonFinite second =>
      first ≠ .nan && decide (first = second)
  | .string first, .string second => first == second
  | .array first, .array second => itemsEqual first second
  | .object first, .object second =>
      membersEqual first second &&
        second.all fun member => (lookup member.1 first).isSome
  | _, _ => false

def itemsEqual : List JsonValue → List JsonValue → Bool
  | [], [] => true
  | first :: rest, second :: others =>
      equals first second && itemsEqual rest others
  | _, _ => false

/-- Every member that no later one replaces has an equal value in `others`. -/
def membersEqual : Members → Members → Bool
  | [], _ => true
  | (name, value) :: rest, others =>
      ((lookup name rest).isSome ||
        (lookup name others).any fun other => equals value other) &&
        membersEqual rest others

end

def truthy : JsonValue → Bool
  | .null => false
  | .bool false => false
  | _ => true

/-- `first and second and …`, which stops at the first that is not true. -/
def conjunction : List (Result Bool) → Result Bool
  | [] => .ok true
  | first :: rest => do
      if ← first then conjunction rest else pure false

/-- `.key₁.key₂…` of a value read by `start`. -/
def path (start : Result JsonValue) : List String → Result JsonValue
  | [] => start
  | key :: rest => path (start >>= field key) rest

/-- `value == constant` -/
def equalTo (value : Result JsonValue) (constant : JsonValue) :
    Result Bool := do
  let found ← value
  pure (equals found constant)

/-- `[values[] | select(.name == name)]` -/
def selectNamed (name : JsonValue) : List JsonValue → Result (List JsonValue)
  | [] => pure []
  | value :: rest => do
      let found ← equalTo (field "name" value) name
      let others ← selectNamed name rest
      pure (if found then value :: others else others)

/-- `.key = value` for an object. -/
def assign (key : String) (value : JsonValue) : Members → Members
  | [] => [(key, value)]
  | (name, old) :: rest =>
      if name = key then (key, value) :: rest
      else (name, old) :: assign key value rest

def setField (key : String) (value : JsonValue) :
    JsonValue → Result JsonValue
  | .object members => .ok (.object (assign key value (effective members)))
  | .null => .ok (.object [(key, value)])
  | _ => .error .cannotIndex

/-- `del(.key₁, .key₂, …)` of an object. -/
def del (keys : List String) (members : Members) : Members :=
  (effective members).filter fun member => member.1 ∉ keys

/-! ### A run of `jq -e` -/

/-- What a reader finds in a text: the documents up to its end or up to the
first that is broken. -/
structure Documents where
  values : List JsonValue
  broken : Bool

/-- How JSON is read from and written to texts. -/
structure TextFormat where
  read : String → Documents
  write : JsonValue → String
  write_integer : ∀ value, write (.integer value) = toString value

mutual

/-- The layout of a value, without escapes in its texts. -/
def layout (indent : String) : JsonValue → String
  | .null => "null"
  | .bool value => if value then "true" else "false"
  | .integer value => toString value
  | .decimal value => toString value.num ++ "/" ++ toString value.den
  | .nonFinite _ => "null"
  | .string text => "\"" ++ text ++ "\""
  | .array [] => "[]"
  | .array items =>
      "[\n" ++ ",\n".intercalate (itemLayouts (indent ++ "  ") items) ++
        "\n" ++ indent ++ "]"
  | .object [] => "\x7b\x7d"
  | .object members =>
      "\x7b\n" ++
        ",\n".intercalate (memberLayouts (indent ++ "  ") members) ++
        "\n" ++ indent ++ "\x7d"

def itemLayouts (indent : String) : List JsonValue → List String
  | [] => []
  | item :: rest =>
      (indent ++ layout indent item) :: itemLayouts indent rest

def memberLayouts (indent : String) : Members → List String
  | [] => []
  | (name, value) :: rest =>
      (indent ++ "\"" ++ name ++ "\": " ++ layout indent value) ::
        memberLayouts indent rest

end

/-- A format that can read some texts only. -/
def TextFormat.ofTexts (texts : List (String × List JsonValue)) :
    TextFormat where
  read text :=
    match texts.find? fun entry => entry.1 = text with
    | some entry => ⟨entry.2, false⟩
    | none => ⟨[], true⟩
  write := layout ""
  write_integer _ := rfl

/-- Such a format finds nothing or the documents of one of its texts. -/
theorem TextFormat.ofTexts_read (texts : List (String × List JsonValue))
    (text : String) :
    ((ofTexts texts).read text).values = [] ∨
      ∃ entry ∈ texts, ((ofTexts texts).read text).values = entry.2 := by
  unfold ofTexts
  dsimp only
  cases hfind : texts.find? fun entry => entry.1 = text with
  | none => exact Or.inl rfl
  | some entry =>
      exact Or.inr ⟨entry, List.mem_of_find?_eq_some hfind, rfl⟩

theorem TextFormat.ofTexts_single {texts : List (String × List JsonValue)}
    (htexts : ∀ entry ∈ texts, entry.2.length = 1) (text : String) :
    ((ofTexts texts).read text).values.length ≤ 1 := by
  rcases ofTexts_read texts text with hnone | ⟨entry, hmem, hvalues⟩
  · rw [hnone]
    exact Nat.zero_le 1
  · rw [hvalues]
    exact (htexts entry hmem).le

/-- A filter gives any number of outputs for an input, or an error. -/
abbrev Filter := JsonValue → Result (List JsonValue)

inductive Ending where
  | wanted
  | unwanted
  | nothing
  | failed
  deriving DecidableEq

/-- How the run on one document ends; its last output counts. -/
def ending : Result (List JsonValue) → Ending
  | .error _ => .failed
  | .ok outputs =>
      match outputs.getLast? with
      | none => .nothing
      | some last => if truthy last then .wanted else .unwanted

/-- The exit status with `-e`.  The last document decides; when it has no
output, the last one before it that had. -/
def exitStatus (endings : List Ending) (broken : Bool) : Nat :=
  if broken then 5
  else match endings.getLast? with
    | some .failed => 5
    | some .wanted => 0
    | some .unwanted => 1
    | _ =>
        match (endings.filter fun ending =>
          ending = .wanted ∨ ending = .unwanted).getLast? with
        | some .wanted => 0
        | some .unwanted => 1
        | _ => 4

/-- An output as it is printed; `raw` is the option `-r`. -/
def printed (format : TextFormat) (raw : Bool) : JsonValue → String
  | .string text => if raw then text else format.write (.string text)
  | value => format.write value

def outputsOf : Result (List JsonValue) → List JsonValue
  | .error _ => []
  | .ok outputs => outputs

def outputs (filter : Filter) (documents : List JsonValue) :
    List JsonValue :=
  documents.flatMap fun document => outputsOf (filter document)

def lines (format : TextFormat) (raw : Bool) (values : List JsonValue) :
    String :=
  String.join (values.map fun value => printed format raw value ++ "\n")

/-- The exit status and the output of `jq -e` on a text. -/
def run (format : TextFormat) (raw : Bool) (filter : Filter)
    (input : String) : Nat × String :=
  (exitStatus ((format.read input).values.map fun document =>
      ending (filter document)) (format.read input).broken,
    lines format raw (outputs filter (format.read input).values))

/-- The filter has put out a value for the document, and the last is neither
null nor false. -/
def Accepts (filter : Filter) (document : JsonValue) : Prop :=
  ∃ outputs last, filter document = .ok outputs ∧
    outputs.getLast? = some last ∧ truthy last = true

theorem ending_wanted {result : Result (List JsonValue)} :
    ending result = .wanted ↔ ∃ outputs last, result = .ok outputs ∧
      outputs.getLast? = some last ∧ truthy last = true := by
  cases result with
  | error error => simp [ending]
  | ok outputs =>
      unfold ending
      cases hlast : outputs.getLast? with
      | none => simp [hlast]
      | some last =>
          by_cases htruthy : truthy last = true <;> simp [hlast, htruthy]

/-- A run of status zero has accepted some document of its input. -/
theorem exists_accepts_of_run {format : TextFormat} {raw : Bool}
    {filter : Filter} {input : String}
    (hrun : (run format raw filter input).1 = 0) :
    (format.read input).broken = false ∧
      ∃ document ∈ (format.read input).values, Accepts filter document := by
  have hwanted : (format.read input).broken = false ∧
      Ending.wanted ∈ (format.read input).values.map
        fun document => ending (filter document) := by
    unfold run exitStatus at hrun
    dsimp only at hrun
    cases hbroken : (format.read input).broken with
    | true => simp [hbroken] at hrun
    | false =>
        rw [hbroken, if_neg (by decide)] at hrun
        refine ⟨rfl, ?_⟩
        split at hrun
        · cases hrun
        · rename_i hlast
          exact List.mem_of_getLast? hlast
        · cases hrun
        · split at hrun
          · rename_i hlast
            exact List.mem_of_mem_filter (List.mem_of_getLast? hlast)
          · cases hrun
          · cases hrun
  obtain ⟨hbroken, hmem⟩ := hwanted
  obtain ⟨document, hdocument, hending⟩ := List.mem_map.mp hmem
  exact ⟨hbroken, document, hdocument, ending_wanted.mp hending⟩

theorem outputs_ne_nil {format : TextFormat} {raw : Bool}
    {filter : Filter} {input : String}
    (hrun : (run format raw filter input).1 = 0) :
    outputs filter (format.read input).values ≠ [] := by
  obtain ⟨-, document, hdocument, outputs, last, houtputs, hlast, -⟩ :=
    exists_accepts_of_run hrun
  intro hnil
  have hempty := List.flatMap_eq_nil_iff.mp hnil document hdocument
  rw [houtputs] at hempty
  rw [show outputs = [] from hempty] at hlast
  cases hlast

/-- A run of status zero on one document at most has accepted it. -/
theorem accepts_of_run {format : TextFormat} {raw : Bool} {filter : Filter}
    {input : String} (hrun : (run format raw filter input).1 = 0)
    (hsingle : (format.read input).values.length ≤ 1) :
    ∃ document, format.read input = ⟨[document], false⟩ ∧
      Accepts filter document := by
  obtain ⟨hbroken, document, hmem, haccepts⟩ := exists_accepts_of_run hrun
  refine ⟨document, ?_, haccepts⟩
  have hpos : 0 < (format.read input).values.length :=
    List.length_pos_of_mem hmem
  obtain ⟨other, hvalues⟩ :=
    List.length_eq_one_iff.mp (Nat.le_antisymm hsingle hpos)
  rw [hvalues, List.mem_singleton] at hmem
  rw [hmem, ← hbroken, ← hvalues]

theorem run_single {format : TextFormat} {raw : Bool} {filter : Filter}
    {input : String} {document : JsonValue}
    (hread : format.read input = ⟨[document], false⟩) :
    run format raw filter input =
      (exitStatus [ending (filter document)] false,
        lines format raw (outputsOf (filter document))) := by
  simp [run, hread, outputs]

/-! ### Filters that test their input -/

theorem conjunction_true {checks : List (Result Bool)} :
    conjunction checks = .ok true ↔ ∀ check ∈ checks, check = .ok true := by
  induction checks with
  | nil => simp [conjunction]
  | cons first rest ih =>
      rw [List.forall_mem_cons, ← ih]
      cases first with
      | error error =>
          constructor
          · exact nofun
          · rintro ⟨herror, -⟩
            cases herror
      | ok found =>
          cases found with
          | false =>
              constructor
              · exact nofun
              · rintro ⟨hfalse, -⟩
                cases hfalse
          | true =>
              have hrest : conjunction (.ok true :: rest) =
                  conjunction rest := rfl
              rw [hrest]
              exact (and_iff_right rfl).symm

/-- A filter that puts out whether some checks hold accepts what passes them
all. -/
theorem accepts_conjunction {filter : Filter} {document : JsonValue}
    {checks : List (Result Bool)}
    (hfilter : filter document =
      conjunction checks >>= fun accepted => pure [.bool accepted]) :
    Accepts filter document ↔ ∀ check ∈ checks, check = .ok true := by
  rw [← conjunction_true]
  unfold Accepts
  rw [hfilter]
  constructor
  · rintro ⟨outputs, last, houtputs, hlast, htruthy⟩
    cases hchecks : conjunction checks with
    | error error =>
        rw [hchecks] at houtputs
        cases houtputs
    | ok accepted =>
        rw [hchecks] at houtputs
        have hsame : [JsonValue.bool accepted] = outputs :=
          Except.ok.inj houtputs
        rw [← hsame, List.getLast?_singleton, Option.some_inj] at hlast
        rw [← hlast] at htruthy
        cases accepted with
        | false => cases htruthy
        | true => rfl
  · intro hchecks
    rw [hchecks]
    exact ⟨[.bool true], .bool true, rfl, rfl, rfl⟩

/-! ### Members after an update -/

theorem equals_string {value : JsonValue} {text : String} :
    equals value (.string text) = true ↔ value = .string text := by
  cases value <;> simp [equals, number]

theorem equals_integer {value : JsonValue} {constant : Int} :
    equals value (.integer constant) = true ↔
      number value = some (constant : Rat) := by
  cases value with
  | integer value => simp [equals, number, @eq_comm _ constant]
  | decimal value => simp [equals, number, @eq_comm _ (constant : Rat)]
  | _ => simp [equals, number]

theorem equals_numbers {first second : JsonValue} {left right : Rat}
    (hfirst : number first = some left)
    (hsecond : number second = some right) :
    equals first second = true ↔ left = right := by
  cases first with
  | integer value =>
      have hleft : (value : Rat) = left := by simpa [number] using hfirst
      simp [equals, hsecond, ← hleft, @eq_comm _ right]
  | decimal value =>
      have hleft : value = left := by simpa [number] using hfirst
      simp [equals, hsecond, ← hleft, @eq_comm _ right]
  | _ => cases hfirst

theorem equals_noItems {value : JsonValue} :
    equals value (.array []) = true ↔ value = .array [] := by
  cases value with
  | array items => cases items <;> simp [equals, itemsEqual]
  | _ => simp [equals, number]

theorem integral_of_number {value : JsonValue} {count : Int}
    (hvalue : number value = some (count : Rat)) :
    value.integral = .integer count := by
  cases value with
  | integer value =>
      have hsame : value = count := by simpa [number] using hvalue
      rw [integral, hsame]
  | decimal value =>
      have hsame : value = (count : Rat) := by simpa [number] using hvalue
      rw [integral, hsame, if_pos (Rat.den_intCast count),
        Rat.num_intCast]
  | _ => cases hvalue

/-- A field that is there. -/
theorem member_of_field {key : String} {value found : JsonValue}
    (hfield : field key value = .ok found) (hfound : found ≠ .null) :
    value.member key = some found := by
  cases value with
  | object members =>
      have hsame : (lookup key members).getD .null = found :=
        Except.ok.inj hfield
      rw [member_object]
      cases hlookup : lookup key members with
      | none =>
          rw [hlookup, Option.getD_none] at hsame
          exact absurd hsame.symm hfound
      | some value =>
          rw [hlookup, Option.getD_some] at hsame
          rw [hsame]
  | null =>
      have hsame : JsonValue.null = found := Except.ok.inj hfield
      exact absurd hsame.symm hfound
  | _ => cases hfield

theorem field_of_member {key : String} {value found : JsonValue}
    (hmember : value.member key = some found) :
    field key value = .ok found := by
  cases value with
  | object members =>
      rw [member_object] at hmember
      rw [field, hmember, Option.getD_some]
  | _ => cases hmember

theorem lookup_map (key : String) (keys : List String)
    (value : String → JsonValue) :
    lookup key (keys.map fun name => (name, value name)) =
      if key ∈ keys then some (value key) else none := by
  induction keys with
  | nil => rfl
  | cons name rest ih =>
      rw [List.map_cons, lookup_cons, ih]
      by_cases hrest : key ∈ rest
      · simp [hrest]
      · by_cases hname : name = key
        · subst hname
          simp [hrest]
        · simp [hrest, hname, Ne.symm hname]

theorem lookup_effective (key : String) (members : Members) :
    lookup key (effective members) = lookup key members := by
  unfold effective
  rw [lookup_map]
  cases hlookup : lookup key members with
  | none =>
      rw [if_neg]
      rw [mem_names, hlookup]
      simp
  | some value =>
      rw [if_pos]
      · rfl
      · rw [mem_names, hlookup]
        rfl

theorem effective_nodup (members : Members) :
    ((effective members).map Prod.fst).Nodup := by
  have hsame : (effective members).map Prod.fst = names members := by
    unfold effective
    rw [List.map_map]
    exact List.map_id _
  rw [hsame]
  exact nodup_names members

theorem lookup_filter (key : String) (keys : List String)
    (members : Members) :
    lookup key (members.filter fun member => member.1 ∉ keys) =
      if key ∈ keys then none else lookup key members := by
  induction members with
  | nil => simp
  | cons member rest ih =>
      obtain ⟨name, value⟩ := member
      rw [List.filter_cons]
      by_cases hname : name ∈ keys
      · rw [if_neg (by simpa using hname), ih, lookup_cons]
        by_cases hkey : key ∈ keys
        · simp [hkey]
        · have hne : name ≠ key := fun hsame => hkey (hsame ▸ hname)
          simp [hkey, hne]
      · rw [if_pos (by simpa using hname), lookup_cons, lookup_cons, ih]
        by_cases hkey : key ∈ keys
        · have hne : name ≠ key := fun hsame => hname (hsame ▸ hkey)
          simp [hkey, hne]
        · simp [hkey]

theorem lookup_del (key : String) (keys : List String) (members : Members) :
    lookup key (del keys members) =
      if key ∈ keys then none else lookup key members := by
  unfold del
  rw [lookup_filter, lookup_effective]

theorem del_nodup (keys : List String) (members : Members) :
    ((del keys members).map Prod.fst).Nodup :=
  (List.filter_sublist.map Prod.fst).nodup (effective_nodup members)

theorem lookup_assign (key other : String) (value : JsonValue)
    {members : Members} (hnodup : (members.map Prod.fst).Nodup) :
    lookup other (assign key value members) =
      if other = key then some value else lookup other members := by
  induction members with
  | nil =>
      by_cases hsame : other = key
      · simp [assign, lookup_cons, hsame]
      · simp [assign, lookup_cons, hsame, Ne.symm hsame]
  | cons member rest ih =>
      obtain ⟨name, old⟩ := member
      rw [List.map_cons, List.nodup_cons] at hnodup
      unfold assign
      by_cases hname : name = key
      · have hrest : lookup key rest = none := by
          rw [← Option.not_isSome_iff_eq_none, lookup_isSome_iff, ← hname]
          exact hnodup.1
        rw [if_pos hname, lookup_cons, lookup_cons]
        by_cases hsame : other = key
        · simp [hsame, hrest]
        · simp [hsame, hname, Ne.symm hsame]
      · rw [if_neg hname, lookup_cons, lookup_cons, ih hnodup.2]
        by_cases hsame : other = key
        · simp [hsame]
        · simp [hsame]

end Jq
