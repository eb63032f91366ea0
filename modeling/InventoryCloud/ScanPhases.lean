import InventoryCloud.ScanScript

/-!
# The phases of a release scan

What a run of each phase of `verify-release.sh` has asked and what the
variables hold after it: the unpacking of the scanner, the scans, and the
decision on their reports.
-/

namespace InventoryCloud

namespace ScanScript

open Interaction Shell Statement SecurityReports

variable {invocation : Invocation} {library : ReportLibrary}
  {state final : State} {trace : Trace} {status : Nat}
  {completion : Completion}

/-! ### Runs of the commands -/

theorem runs_asking {query : State → Request}
    {outcome : (state : State) → Answer (query state) → Nat × State}
    {suspended : Bool} :
    (asking query outcome).Runs suspended state trace completion final ↔
      ∃ answer, trace = [⟨query state, answer⟩] ∧
        completion = Statement.completion suspended (outcome state answer).1 ∧
          final = (outcome state answer).2 := by
  unfold asking
  rw [runs_command]
  constructor
  · rintro ⟨result, ⟨answer, rest, rfl, rfl, hsame⟩, rfl⟩
    exact ⟨answer, rfl, by rw [← hsame], by rw [← hsame]⟩
  · rintro ⟨answer, rfl, rfl, rfl⟩
    exact ⟨_, ⟨answer, [], rfl, rfl, rfl⟩, rfl⟩

theorem runs_asking_normal {query : State → Request}
    {outcome : (state : State) → Answer (query state) → Nat × State} :
    (asking query outcome).Runs false state trace (.normal status) final ↔
      status = 0 ∧ ∃ answer, (outcome state answer).1 = 0 ∧
        trace = [⟨query state, answer⟩] ∧
          final = (outcome state answer).2 := by
  rw [runs_asking]
  simp only [completion_false_normal]
  constructor
  · rintro ⟨answer, rfl, ⟨hzero, rfl⟩, rfl⟩
    exact ⟨rfl, answer, hzero, rfl, rfl⟩
  · rintro ⟨rfl, answer, hzero, rfl, rfl⟩
    exact ⟨answer, rfl, ⟨hzero, rfl⟩, rfl⟩

theorem runs_run_normal {arguments : State → List String}
    {stdin : State → String} {store : Ended → State → State} :
    (run arguments stdin store).Runs false state trace (.normal status)
        final ↔
      status = 0 ∧ ∃ ended : Ended, ended.status = 0 ∧
        trace = [⟨.run (arguments state) (stdin state), ended⟩] ∧
          final = store ended state :=
  runs_asking_normal

theorem runs_probe_normal {arguments : State → List String}
    {store : Ended → State → State} :
    (probe arguments store).Runs false state trace (.normal status) final ↔
      status = 0 ∧ ∃ ended : Ended,
        trace = [⟨.run (arguments state) "", ended⟩] ∧
          final = store ended state := by
  unfold probe
  rw [runs_asking_normal]
  simp only [true_and]

theorem runs_write_normal {path text : State → String} :
    (write path text).Runs false state trace (.normal status) final ↔
      status = 0 ∧ trace = [⟨.write (path state) (text state), (0 : Nat)⟩] ∧
        final = state := by
  unfold write
  rw [runs_asking_normal]
  constructor
  · rintro ⟨rfl, answer, hzero, rfl, rfl⟩
    dsimp only at hzero
    exact ⟨rfl, by rw [hzero], rfl⟩
  · rintro ⟨rfl, rfl, rfl⟩
    exact ⟨rfl, 0, rfl, rfl, rfl⟩

theorem refuse_exits {message : String} {suspended : Bool}
    (hrun : (refuse message).Runs suspended state trace completion final) :
    completion = .exited 1 := by
  unfold refuse at hrun
  rcases runs_sequence.mp hrun with ⟨_, hecho, -⟩ |
    ⟨_, _, _, _, -, -, hexit⟩
  · obtain ⟨_, -, hexited, -⟩ := runs_asking.mp hecho
    simp [Statement.completion] at hexited
  · exact (runs_exit.mp hexit).2.1

theorem refuse_never_normal {message : String} :
    ¬ (refuse message).Runs false state trace (.normal status) final := by
  intro hrun
  cases refuse_exits hrun

/-- `[[ … ]] || { echo …; exit 1; }` -/
theorem runs_test_refuse {condition : State → Bool} {message : String} :
    (Statement.orElse (test condition) (refuse message)).Runs false state
        trace (.normal status) final ↔
      status = 0 ∧ trace = [] ∧ final = state ∧ condition state = true :=
  runs_test_orElse_normal fun _ _ _ _ => refuse_never_normal

theorem runs_isFile_refuse {path message : String} :
    (Statement.orElse (isFile path) (refuse message)).Runs false state trace
        (.normal status) final ↔
      status = 0 ∧ trace = [⟨.isFile path, true⟩] ∧ final = state := by
  rw [runs_orElse_normal fun _ _ _ _ => refuse_never_normal]
  apply and_congr_right
  intro hstatus
  constructor
  · intro hfile
    obtain ⟨found, rfl, hcompletion, rfl⟩ := runs_asking.mp hfile
    rw [completion_true, Completion.normal.injEq] at hcompletion
    cases found with
    | true => exact ⟨rfl, rfl⟩
    | false => exact absurd hcompletion.symm Nat.one_ne_zero
  · rintro ⟨rfl, rfl⟩
    exact runs_asking.mpr ⟨true, rfl, completion_true.symm, rfl⟩

/-- After a command of the scanner, whose failure is remembered. -/
def State.scanned (state : State) (status : Nat) : State :=
  { state with
    scanFailed := if status = 0 then state.scanFailed else "1" }

/-- `… || scan_failed=1` -/
theorem runs_orFailed {arguments : State → List String} {path : String}
    {store : Option String → State → State} :
    (orFailed (scan arguments path store)).Runs false state trace
        (.normal status) final ↔
      status = 0 ∧ ∃ scanned : Scanned,
        trace = [⟨.scan (arguments state) path, scanned⟩] ∧
          final = (store scanned.report state).scanned scanned.status := by
  have hzero : ∀ kept : State, kept.scanned 0 = kept := fun kept => rfl
  have hfailed : ∀ (kept : State) {code : Nat}, code ≠ 0 →
      kept.scanned code = { kept with scanFailed := "1" } := by
    intro kept code hcode
    rw [State.scanned, if_neg hcode]
  unfold orFailed
  rw [runs_orElse]
  constructor
  · rintro (⟨_, -, hexited⟩ | ⟨result, middle, left, right, rfl, hscan, hrest⟩)
    · cases hexited
    · obtain ⟨scanned, rfl, hcompletion, rfl⟩ := runs_asking.mp hscan
      rw [completion_true, Completion.normal.injEq] at hcompletion
      dsimp only at hcompletion
      subst hcompletion
      rcases hrest with ⟨hstatus, rfl, hnormal, rfl⟩ | ⟨hstatus, hnote⟩
      · refine ⟨Completion.normal.inj hnormal, scanned, rfl, ?_⟩
        rw [hstatus, hzero]
      · obtain ⟨rfl, rfl, rfl⟩ := runs_note_normal.mp hnote
        exact ⟨rfl, scanned, rfl, (hfailed _ hstatus).symm⟩
  · rintro ⟨rfl, scanned, rfl, rfl⟩
    refine Or.inr ⟨scanned.status, store scanned.report state, _, [],
      (List.append_nil _).symm,
      runs_asking.mpr ⟨scanned, rfl, completion_true.symm, rfl⟩, ?_⟩
    by_cases hstatus : scanned.status = 0
    · exact Or.inl ⟨hstatus, rfl, rfl, by rw [hstatus, hzero]⟩
    · exact Or.inr ⟨hstatus,
        runs_note_normal.mpr ⟨rfl, rfl, hfailed _ hstatus⟩⟩

/-! ### The scanner -/

def IsScan : Request → Prop
  | .scan _ _ => True
  | _ => False

theorem asksOnly_asking {allowed : Request → Prop} {query : State → Request}
    {outcome : (state : State) → Answer (query state) → Nat × State}
    (hallowed : ∀ state, allowed (query state)) :
    (asking query outcome).AsksOnly allowed :=
  fun state => ⟨hallowed state, fun _ => trivial⟩

def checksumTools : List (List String) :=
  [["sha256sum", "-c", "-"], ["shasum", "-a", "256", "-c", "-"]]

/-- The archive has passed the published checksum for the host, and then the
scanner was taken from it. -/
def Unpacked (invocation : Invocation) (trace : Trace) : Prop :=
  ∃ (system machine checked unpacked : Ended) (asset : Asset)
    (tool : List String),
    assetOf (substituted system.stdout ++ "-" ++
        substituted machine.stdout) = some asset ∧
      tool ∈ checksumTools ∧ checked.status = 0 ∧ unpacked.status = 0 ∧
        [(⟨.run ["uname", "-s"] "", system⟩ : Exchange Request Answer),
          ⟨.run ["uname", "-m"] "", machine⟩,
          ⟨.run tool (asset.checksum ++ "  " ++ archive invocation ++ "\n"),
            checked⟩,
          ⟨.run (tarArguments invocation) "", unpacked⟩].Sublist trace

theorem Unpacked.append {first : Trace}
    (hunpacked : Unpacked invocation first) (second : Trace) :
    Unpacked invocation (first ++ second) := by
  obtain ⟨system, machine, checked, unpacked, asset, tool, hasset, htool,
    hchecked, hstatus, hchain⟩ := hunpacked
  exact ⟨system, machine, checked, unpacked, asset, tool, hasset, htool,
    hchecked, hstatus, hchain.trans (List.sublist_append_left first second)⟩

theorem fetch_keeps {path : String}
    {first second : Statement Request Answer State}
    (hfirst : ∀ {state final trace status},
      first.Runs false state trace (.normal status) final → final = state)
    (hsecond : ∀ {state final trace status},
      second.Runs false state trace (.normal status) final → final = state)
    (hrun : (Statement.whenTrue (.negate (isFile path))
      (.sequence first second)).Runs false state trace (.normal status)
        final) : final = state := by
  rcases runs_whenTrue.mp hrun with ⟨_, -, hexited⟩ |
    ⟨_, middle, _, _, -, hcondition, hrest⟩
  · cases hexited
  · have hmiddle : middle = state := by
      rcases runs_negate.mp hcondition with ⟨_, -, hexited⟩ | ⟨_, hfile, -⟩
      · cases hexited
      · obtain ⟨_, -, -, rfl⟩ := runs_asking.mp hfile
        rfl
    subst hmiddle
    rcases hrest with ⟨-, hbody⟩ | ⟨-, -, -, rfl⟩
    · obtain ⟨_, _, _, _, -, hleft, hright⟩ := runs_sequence_normal.mp hbody
      rw [hsecond hright, hfirst hleft]
    · rfl

theorem simply_keeps {arguments : State → List String}
    (hrun : (simply arguments).Runs false state trace (.normal status)
      final) : final = state := by
  obtain ⟨-, _, -, -, rfl⟩ := runs_run_normal.mp hrun
  rfl

theorem checksumLine_eq {asset : Asset}
    (hasset : assetOf state.host = some asset) :
    checksumLine invocation state =
      asset.checksum ++ "  " ++ archive invocation ++ "\n" := by
  rw [checksumLine, State.asset, hasset, Option.getD_some]

theorem checksumArguments_mem (state : State) :
    checksumArguments state ∈ checksumTools := by
  unfold checksumArguments
  split <;> simp [checksumTools]

theorem preparePhase_normal
    (hrun : (block (preparePhase invocation)).Runs false state trace
      (.normal status) final) :
    Unpacked invocation trace ∧ final.scanFailed = state.scanFailed ∧
      final.trapped = state.trapped := by
  unfold preparePhase enterRoot simply at hrun
  simp only [block, runs_sequence_normal, runs_run_normal, runs_probe_normal,
    runs_isFile_refuse, runs_test_refuse, runs_command_normal,
    Program.runs_ask, Program.runs_pure, Prod.mk.injEq, existsAndEq,
    List.nil_append, List.cons_append, true_and, and_true] at hrun
  obtain ⟨_, middle, fetched, unpacked, checked, found, machine, system, _, _,
    directory, entered, rfl, -, -, -, hsome, hfetch, hchecked, rfl, hunpacked,
    rfl⟩ := hrun
  have hmiddle := fetch_keeps simply_keeps simply_keeps hfetch
  obtain ⟨asset, hasset⟩ := Option.isSome_iff_exists.mp hsome
  have hline : checksumLine invocation
      { middle with hasSha256sum := found.status == 0 } =
        asset.checksum ++ "  " ++ archive invocation ++ "\n" :=
    checksumLine_eq (by rw [hmiddle]; exact hasset)
  have hmem := @checksumArguments_mem
    { middle with hasSha256sum := found.status == 0 }
  refine ⟨⟨system, machine, checked, unpacked, asset, _, hasset, hmem,
    hchecked, hunpacked, ?_⟩, by rw [hmiddle], by rw [hmiddle]⟩
  rw [← hline]
  iterate 5 apply List.Sublist.cons
  apply List.Sublist.cons_cons
  apply List.Sublist.cons_cons
  apply List.sublist_append_of_sublist_right
  apply List.Sublist.cons
  exact List.Sublist.refl _

/-! ### The scans -/

/-- The packaged application and the inspected image were scanned, and `state`
holds what is known of the scans. -/
structure Scans (invocation : Invocation) (trace : Trace) (state : State)
    (rootfs imaged : Scanned) : Prop where
  digest : ReleaseCommands.imageDigest.fullmatch state.imageId.toList = true
  chain : ∃ made copied inspected : Ended,
    state.scanTmp = substituted made.stdout ∧ copied.status = 0 ∧
      inspected.status = 0 ∧ state.imageId = substituted inspected.stdout ∧
        [(⟨.run ["mktemp", "-d"] "", made⟩ : Exchange Request Answer),
          ⟨.run ["cp", jarFile invocation, applicationJar state] "", copied⟩,
          ⟨.run (inspectArguments invocation) "", inspected⟩,
          ⟨.scan (rootfsArguments invocation state)
            (reportFile invocation "dependencies.json"), rootfs⟩,
          ⟨.scan (imageArguments invocation state)
            (reportFile invocation "image.json"), imaged⟩].Sublist trace
  dependencies : state.dependencies = rootfs.report
  image : state.image = imaged.report
  failed : state.scanFailed = "0" → rootfs.status = 0 ∧ imaged.status = 0

theorem scanPhase_normal
    (hrun : (block (scanPhase invocation)).Runs false state trace
      (.normal status) final) :
    ∃ rootfs imaged, Scans invocation trace final rootfs imaged := by
  unfold scanPhase simply at hrun
  simp only [block, runs_sequence_normal, runs_run_normal, runs_write_normal,
    runs_note_normal, runs_test_refuse, runs_orFailed, existsAndEq,
    List.nil_append, List.cons_append, true_and, and_true] at hrun
  obtain ⟨imaged, rootfs, inspected, copied, made, rfl, -, hcopied, hinspected,
    hdigest, -, rfl⟩ := hrun
  refine ⟨rootfs, imaged, hdigest, ⟨made, copied, inspected, rfl, hcopied,
    hinspected, rfl, ?_⟩, rfl, rfl, fun hzero => ?_⟩
  · apply List.Sublist.cons_cons
    apply List.Sublist.cons
    apply List.Sublist.cons
    apply List.Sublist.cons_cons
    apply List.Sublist.cons_cons
    apply List.Sublist.cons
    exact List.Sublist.refl _
  · have hboth : (if imaged.status = 0 then
        (if rootfs.status = 0 then state.scanFailed else "1") else "1") =
          "0" := hzero
    by_cases himaged : imaged.status = 0
    · by_cases hrootfs : rootfs.status = 0
      · exact ⟨hrootfs, himaged⟩
      · simp [hrootfs] at hboth
    · simp [himaged] at hboth

/-! ### The decision -/

/-- `if [[ … ]]; then …; else …; fi`, as the two halves of it. -/
theorem runs_branches {condition : State → Bool}
    {first second : Statement Request Answer State}
    (hsame : ∀ {state final trace status},
      first.Runs false state trace (.normal status) final →
        condition final = condition state)
    (hrun : (Statement.whenTrue (test condition) first).Runs false state trace
      (.normal status) final) {rest : Trace} {next : State} {code : Nat}
    (hnext : (Statement.whenTrue (.negate (test condition)) second).Runs false
      final rest (.normal code) next) :
    (condition state = true ∧ next = final ∧ rest = [] ∧
        first.Runs false state trace (.normal status) final) ∨
      (condition state = false ∧ final = state ∧ trace = [] ∧
        second.Runs false state rest (.normal code) next) := by
  have hfirst : (condition state = true ∧
      first.Runs false state trace (.normal status) final) ∨
        (condition state = false ∧ final = state ∧ trace = []) := by
    rcases runs_whenTrue.mp hrun with ⟨_, -, hexited⟩ |
      ⟨_, _, _, _, rfl, htest, hrest⟩
    · cases hexited
    · obtain ⟨rfl, rfl, rfl⟩ := runs_test.mp htest
      cases hcondition : condition _ with
      | true =>
          rcases hrest with ⟨-, hbody⟩ | ⟨hnonzero, -⟩
          · exact Or.inl ⟨rfl, hbody⟩
          · simp [hcondition] at hnonzero
      | false =>
          rcases hrest with ⟨hzero, -⟩ | ⟨-, rfl, -, rfl⟩
          · simp [hcondition] at hzero
          · exact Or.inr ⟨rfl, rfl, rfl⟩
  have hsecond : (condition final = true ∧ next = final ∧ rest = []) ∨
      (condition final = false ∧
        second.Runs false final rest (.normal code) next) := by
    rcases runs_whenTrue.mp hnext with ⟨_, -, hexited⟩ |
      ⟨_, _, _, _, rfl, hnegated, hrest⟩
    · cases hexited
    · rcases runs_negate.mp hnegated with ⟨_, -, hexited⟩ |
        ⟨result, htest, hnormal⟩
      · cases hexited
      · obtain ⟨rfl, rfl, rfl⟩ := runs_test.mp htest
        rw [Completion.normal.injEq] at hnormal
        cases hcondition : condition _ with
        | true =>
            rcases hrest with ⟨hzero, -⟩ | ⟨-, rfl, -, rfl⟩
            · simp [hnormal, hcondition] at hzero
            · exact Or.inl ⟨rfl, rfl, rfl⟩
        | false =>
            rcases hrest with ⟨-, hbody⟩ | ⟨hnonzero, -⟩
            · exact Or.inr ⟨rfl, hbody⟩
            · simp [hnormal, hcondition] at hnonzero
  rcases hfirst with ⟨htrue, hbody⟩ | ⟨hfalse, rfl, rfl⟩
  · rcases hsecond with ⟨-, rfl, rfl⟩ | ⟨hfalse, -⟩
    · exact Or.inl ⟨htrue, rfl, rfl, hbody⟩
    · rw [hsame hbody, htrue] at hfalse
      cases hfalse
  · rcases hsecond with ⟨htrue, -⟩ | ⟨-, hbody⟩
    · rw [hfalse] at htrue
      cases htrue
    · exact Or.inr ⟨hfalse, rfl, rfl, hbody⟩

/-- What the last command decided, on what the scans have left. -/
theorem decidePhase_normal
    (hrun : (block (decidePhase invocation library)).Runs false state trace
      (.normal status) final) :
    ∃ checked : Checked,
      final = { state with scanFailed := final.scanFailed } ∧
        checkOutcome invocation library final checked = 0 ∧
          (⟨.check (checkArguments invocation final) final.imageId
            final.dependencies final.image, checked⟩ :
              Exchange Request Answer) ∈ trace ∧
          (final.scanFailed = "0" → state.scanFailed = "0" ∧
            state.hasImageReport = true ∧
              ∃ converted : Scanned, converted.status = 0 ∧
                (⟨.scan (convertArguments invocation)
                  (reportFile invocation "sbom.cdx.json"), converted⟩ :
                    Exchange Request Answer) ∈ trace) := by
  unfold decidePhase at hrun
  simp only [block] at hrun
  obtain ⟨_, middle, converting, _, rfl, hconvert, hrun⟩ :=
    runs_sequence_normal.mp hrun
  obtain ⟨_, _, noting, _, rfl, hnote, hrun⟩ :=
    runs_sequence_normal.mp hrun
  obtain ⟨_, _, _, _, rfl, hversion, hcheck⟩ := runs_sequence_normal.mp hrun
  unfold scan at hversion
  unfold checkReports at hcheck
  obtain ⟨-, version, -, rfl, rfl⟩ := runs_asking_normal.mp hversion
  obtain ⟨-, checked, hzero, rfl, rfl⟩ := runs_asking_normal.mp hcheck
  refine ⟨checked, ?_⟩
  have hkept : ∀ {state final : State} {trace : Trace} {status : Nat},
      (orFailed (scan (fun _ => convertArguments invocation)
        (reportFile invocation "sbom.cdx.json")
          fun _ state => state)).Runs false state trace (.normal status)
            final →
        final.hasImageReport = state.hasImageReport := by
    intro state final trace status horFailed
    obtain ⟨-, _, -, rfl⟩ := runs_orFailed.mp horFailed
    rfl
  rcases runs_branches hkept hconvert hnote with
    ⟨himage, rfl, rfl, hscan⟩ | ⟨-, rfl, rfl, hfailed⟩
  · obtain ⟨-, converted, rfl, rfl⟩ := runs_orFailed.mp hscan
    refine ⟨rfl, hzero, by simp, fun hclean => ?_⟩
    have hstatus : (if converted.status = 0 then state.scanFailed
        else "1") = "0" := hclean
    by_cases hconverted : converted.status = 0
    · rw [if_pos hconverted] at hstatus
      exact ⟨hstatus, himage, converted, hconverted, by simp⟩
    · rw [if_neg hconverted] at hstatus
      exact absurd hstatus (by decide)
  · obtain ⟨-, rfl, rfl⟩ := runs_note_normal.mp hfailed
    refine ⟨rfl, hzero, by simp, fun hclean => ?_⟩
    exact absurd (show "1" = "0" from hclean) (by decide)

end ScanScript

end InventoryCloud
