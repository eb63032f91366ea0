import InventoryCloud.ScanPhases

/-!
# The scan gate of a release

The runs of `verify-release.sh` against every exit status and output of its
commands.  No scanner runs unless its archive has passed the published
checksum, and the script succeeds only when the packaged application and
exactly the inspected image were scanned without an error and the reports of
these scans passed the gate.
-/

namespace InventoryCloud

namespace ScanScript

open Interaction Shell Statement SecurityReports

variable {invocation : Invocation} {library : ReportLibrary}
  {state final : State} {trace : Trace} {status : Nat}
  {completion : Completion}

/-- A gate that passes has read two reports with packages in them, after
scans without an error. -/
theorem exitStatus_zero {str : JsonValue → String} {inputs : Inputs}
    (hzero : exitStatus (checkSecurityReports str inputs) = 0) :
    inputs.scanFailed = "0" ∧
      ∃ dependencies image, inputs.contents .dependencies =
          .json dependencies ∧ inputs.contents .image = .json image ∧
        ¬ NoPackages dependencies ∧ ¬ NoPackages image ∧
          (ReportShaped dependencies → ReportShaped image →
            ∀ finding ∈ findingsIn dependencies ++ findingsIn image,
              ¬ IsBlocking finding) := by
  cases hsummary : checkSecurityReports str inputs with
  | error error =>
      rw [hsummary] at hzero
      cases hzero
  | ok summary =>
      have herrors : summary.scanErrors ≠ true := by
        intro herrors
        rw [(failed_of_scanErrors hsummary herrors).2] at hzero
        cases hzero
      rw [Ne, check_scanErrors hsummary] at herrors
      push Not at herrors
      obtain ⟨hscan, hfirst, hsecond⟩ := herrors
      unfold Refused at hfirst hsecond
      push Not at hfirst hsecond
      obtain ⟨dependencies, hdependencies, hlisted⟩ := hfirst
      obtain ⟨image, himage, himages⟩ := hsecond
      refine ⟨hscan, dependencies, image, hdependencies, himage, hlisted,
        himages, fun hshaped hshape => ?_⟩
      have hreadable := (ends_check.mp ⟨summary, hsummary⟩).2
      rw [himage] at hreadable
      exact ((exitStatus_shaped hdependencies himage hshaped hshape
        (hreadable.2 rfl)).mp hzero).2.2.2

/-! ### The script -/

/-- What a release has gone through when the script succeeds: the jar and the
image that Docker named were scanned with the unpacked scanner, all scans
ended well, and the reports they left passed the gate. -/
def Released (invocation : Invocation) (library : ReportLibrary)
    (trace : Trace) : Prop :=
  ∃ (state : State) (rootfs imaged converted : Scanned)
    (scannedAt jarSha256 dependencies image : String)
    (listed listedImage : JsonValue),
    Scans invocation trace state rootfs imaged ∧
      rootfs.status = 0 ∧ rootfs.report = some dependencies ∧
        imaged.status = 0 ∧ imaged.report = some image ∧
      converted.status = 0 ∧
        (⟨.scan (convertArguments invocation)
          (reportFile invocation "sbom.cdx.json"), converted⟩ :
            Exchange Request Answer) ∈ trace ∧
      (⟨.check ["python3", "scripts/check_security_reports.py",
          reportDir invocation, applicationJar state, imageRef invocation,
          "0"] state.imageId (some dependencies) (some image),
          .decided scannedAt jarSha256⟩ : Exchange Request Answer) ∈ trace ∧
      library.decode dependencies = .json listed ∧
        library.decode image = .json listedImage ∧
        ¬ NoPackages listed ∧ ¬ NoPackages listedImage ∧
          (ReportShaped listed → ReportShaped listedImage →
            ∀ finding ∈ findingsIn listed ++ findingsIn listedImage,
              ¬ IsBlocking finding)

theorem Scans.mono {rootfs imaged : Scanned} {longer : Trace}
    (hscans : Scans invocation trace state rootfs imaged)
    (hsub : trace.Sublist longer) :
    Scans invocation longer state rootfs imaged := by
  obtain ⟨hdigest, ⟨made, copied, inspected, htmp, hcopied, hinspected, hid,
    hchain⟩, hdependencies, himage, hfailed⟩ := hscans
  exact ⟨hdigest, ⟨made, copied, inspected, htmp, hcopied, hinspected, hid,
    hchain.trans hsub⟩, hdependencies, himage, hfailed⟩

theorem contents_json {text : Option String} {data : JsonValue}
    (hcontents : library.contents text = .json data) :
    ∃ read, text = some read ∧ library.decode read = .json data := by
  cases text with
  | none => cases hcontents
  | some read => exact ⟨read, rfl, hcontents⟩

/-- A command of the scanner is the unpacked one. -/
def ScansWith (invocation : Invocation) : Request → Prop
  | .scan arguments _ => arguments.head? = some (trivy invocation)
  | _ => True

def IsCheck : Request → Prop
  | .check _ _ _ _ => True
  | _ => False

theorem preparePhase_asks {allowed : Request → Prop}
    (hecho : ∀ text, allowed (.echo text))
    (hrun : ∀ arguments stdin, allowed (.run arguments stdin))
    (hfile : ∀ path, allowed (.isFile path)) :
    (block (preparePhase invocation)).AsksOnly allowed := by
  have hrefuse : ∀ message, (refuse message).AsksOnly allowed :=
    fun message => ⟨asksOnly_asking fun _ => hecho _, trivial⟩
  apply asksOnly_block
  unfold preparePhase
  simp only [List.forall_mem_cons]
  exact ⟨fun _ => ⟨hrun _ _, fun _ => ⟨hrun _ _, fun _ => trivial⟩⟩,
    asksOnly_asking fun _ => hrun _ _, asksOnly_asking fun _ => hrun _ _,
    ⟨asksOnly_asking fun _ => hfile _, hrefuse _⟩,
    asksOnly_asking fun _ => hrun _ _, asksOnly_asking fun _ => hrun _ _,
    ⟨fun _ => trivial, hrefuse _⟩,
    ⟨asksOnly_asking fun _ => hfile _, asksOnly_asking fun _ => hrun _ _,
      asksOnly_asking fun _ => hrun _ _⟩,
    asksOnly_asking fun _ => hrun _ _, asksOnly_asking fun _ => hrun _ _,
    asksOnly_asking fun _ => hrun _ _, by simp⟩

theorem scanPhase_asks {allowed : Request → Prop}
    (hecho : ∀ text, allowed (.echo text))
    (hrun : ∀ arguments stdin, allowed (.run arguments stdin))
    (hwrite : ∀ path text, allowed (.write path text))
    (hscan : ∀ rest path, allowed (.scan (trivy invocation :: rest) path)) :
    (block (scanPhase invocation)).AsksOnly allowed := by
  apply asksOnly_block
  unfold scanPhase
  simp only [List.forall_mem_cons]
  exact ⟨asksOnly_asking fun _ => hrun _ _, fun _ => trivial,
    asksOnly_asking fun _ => hwrite _ _, asksOnly_asking fun _ => hwrite _ _,
    asksOnly_asking fun _ => hrun _ _, asksOnly_asking fun _ => hrun _ _,
    ⟨fun _ => trivial, asksOnly_asking fun _ => hecho _, trivial⟩,
    asksOnly_asking fun _ => hwrite _ _,
    ⟨asksOnly_asking fun _ => hscan _ _, fun _ => trivial⟩,
    ⟨asksOnly_asking fun _ => hscan _ _, fun _ => trivial⟩, by simp⟩

theorem decidePhase_asks {allowed : Request → Prop}
    (hscan : ∀ rest path, allowed (.scan (trivy invocation :: rest) path))
    (hcheck : ∀ arguments imageId dependencies image,
      allowed (.check arguments imageId dependencies image)) :
    (block (decidePhase invocation library)).AsksOnly allowed := by
  apply asksOnly_block
  unfold decidePhase
  simp only [List.forall_mem_cons]
  exact ⟨⟨fun _ => trivial, asksOnly_asking fun _ => hscan _ _,
      fun _ => trivial⟩, ⟨fun _ => trivial, fun _ => trivial⟩,
    asksOnly_asking fun _ => hscan _ _,
    asksOnly_asking fun _ => hcheck _ _ _ _, by simp⟩

theorem body_scansWith :
    (body invocation library).AsksOnly (ScansWith invocation) :=
  ⟨preparePhase_asks (fun _ => trivial) (fun _ _ => trivial)
      fun _ => trivial,
    scanPhase_asks (fun _ => trivial) (fun _ _ => trivial)
      (fun _ _ => trivial) fun _ _ => rfl,
    decidePhase_asks (fun _ _ => rfl) fun _ _ _ _ => trivial⟩

/-- The status of the script once the reports are checked. -/
theorem decidePhase_checked
    (hrun : (block (decidePhase invocation library)).Runs false state trace
      completion final) {arguments : List String} {imageId : String}
    {dependencies image : Option String} {checked : Checked}
    (hmem : (⟨.check arguments imageId dependencies image, checked⟩ :
      Exchange Request Answer) ∈ trace) :
    arguments = checkArguments invocation final ∧ imageId = final.imageId ∧
      dependencies = final.dependencies ∧ image = final.image ∧
        completion = Statement.completion false
          (checkOutcome invocation library final checked) := by
  have hquiet : ∀ {statement : Statement Request Answer State}
      {state final : State} {trace : Trace} {completion : Completion},
      statement.AsksOnly (¬ IsCheck ·) →
        statement.Runs false state trace completion final →
          ¬ (⟨.check arguments imageId dependencies image, checked⟩ :
            Exchange Request Answer) ∈ trace :=
    fun hasks hruns hchecked => hasks.of_runs hruns _ hchecked trivial
  have hconvert : (Statement.whenTrue (test State.hasImageReport)
      (orFailed (scan (fun _ => convertArguments invocation)
        (reportFile invocation "sbom.cdx.json")
          fun _ state => state))).AsksOnly (¬ IsCheck ·) :=
    ⟨fun _ => trivial, asksOnly_asking fun _ => id, fun _ => trivial⟩
  have hnote : (Statement.whenTrue (.negate (test State.hasImageReport))
      (note fun state => { state with scanFailed := "1" }) :
        Statement Request Answer State).AsksOnly (¬ IsCheck ·) :=
    ⟨fun _ => trivial, asksOnly_note⟩
  have hversion : (scan (fun _ => versionArguments invocation)
      (reportFile invocation "scanner.json") fun _ state => state).AsksOnly
        (¬ IsCheck ·) :=
    asksOnly_asking fun _ => id
  unfold decidePhase at hrun
  simp only [block] at hrun
  rcases runs_sequence.mp hrun with ⟨_, hfirst, -⟩ |
    ⟨_, _, _, _, rfl, hfirst, hrun⟩
  · exact absurd hmem (hquiet hconvert hfirst)
  rcases runs_sequence.mp hrun with ⟨_, hsecond, -⟩ |
    ⟨_, _, _, _, rfl, hsecond, hrun⟩
  · rcases List.mem_append.mp hmem with hleft | hright
    · exact absurd hleft (hquiet hconvert hfirst)
    · exact absurd hright (hquiet hnote hsecond)
  have hlast := (List.mem_append.mp ((List.mem_append.mp hmem).resolve_left
    (hquiet hconvert hfirst))).resolve_left (hquiet hnote hsecond)
  rcases runs_sequence.mp hrun with ⟨_, hthird, -⟩ |
    ⟨_, _, _, _, rfl, hthird, hcheck⟩
  · exact absurd hlast (hquiet hversion hthird)
  have hchecked := (List.mem_append.mp hlast).resolve_left
    (hquiet hversion hthird)
  unfold checkReports at hcheck
  obtain ⟨answer, rfl, rfl, rfl⟩ := runs_asking.mp hcheck
  cases List.mem_singleton.mp hchecked
  exact ⟨rfl, rfl, rfl, rfl, rfl⟩

theorem body_checked
    (hrun : (body invocation library).Runs false state trace completion final)
    {arguments : List String} {imageId : String}
    {dependencies image : Option String} {checked : Checked}
    (hmem : (⟨.check arguments imageId dependencies image, checked⟩ :
      Exchange Request Answer) ∈ trace) :
    arguments = checkArguments invocation final ∧ imageId = final.imageId ∧
      dependencies = final.dependencies ∧ image = final.image ∧
        completion = Statement.completion false
          (checkOutcome invocation library final checked) := by
  have hprepare : (block (preparePhase invocation)).AsksOnly
      (¬ IsCheck ·) :=
    preparePhase_asks (fun _ => id) (fun _ _ => id) fun _ => id
  have hscan : (block (scanPhase invocation)).AsksOnly (¬ IsCheck ·) :=
    scanPhase_asks (fun _ => id) (fun _ _ => id) (fun _ _ => id)
      fun _ _ => id
  rcases runs_sequence.mp hrun with ⟨_, hfirst, -⟩ |
    ⟨_, _, _, _, rfl, hfirst, hrest⟩
  · exact absurd trivial (hprepare.of_runs hfirst _ hmem)
  have hright := (List.mem_append.mp hmem).resolve_left fun hleft =>
    hprepare.of_runs hfirst _ hleft trivial
  rcases runs_sequence.mp hrest with ⟨_, hsecond, -⟩ |
    ⟨_, _, _, _, rfl, hsecond, hlast⟩
  · exact absurd trivial (hscan.of_runs hsecond _ hright)
  exact decidePhase_checked hlast ((List.mem_append.mp hright).resolve_left
    fun hleft => hscan.of_runs hsecond _ hleft trivial)

theorem body_unpacked
    (hrun : (body invocation library).Runs false state trace completion final)
    {before after : Trace} {arguments : List String} {path : String}
    {scanned : Scanned}
    (hsplit : trace = before ++ ⟨.scan arguments path, scanned⟩ :: after) :
    Unpacked invocation before := by
  have hprepare : (block (preparePhase invocation)).AsksOnly (¬ IsScan ·) :=
    preparePhase_asks (fun _ => id) (fun _ _ => id) fun _ => id
  rcases runs_sequence.mp hrun with ⟨_, hfirst, -⟩ |
    ⟨_, _, _, _, rfl, hfirst, -⟩
  · have hmem : (⟨.scan arguments path, scanned⟩ :
        Exchange Request Answer) ∈ trace := by
      rw [hsplit]
      exact List.mem_append_right _ List.mem_cons_self
    exact absurd trivial (hprepare.of_runs hfirst _ hmem)
  · obtain ⟨hunpacked, -⟩ := preparePhase_normal hfirst
    rcases List.append_eq_append_iff.mp hsplit with
      ⟨middle, rfl, -⟩ | ⟨middle, rfl, hrest⟩
    · exact hunpacked.append middle
    · cases middle with
      | nil =>
          rw [List.append_nil] at hunpacked
          exact hunpacked
      | cons head tail =>
          cases (List.cons.inj hrest).1
          exact absurd trivial (hprepare.of_runs hfirst
            ⟨.scan arguments path, scanned⟩ (by simp))

theorem body_released
    (hrun : (body invocation library).Runs false state trace (.normal status)
      final) : Released invocation library trace := by
  obtain ⟨_, _, _, _, rfl, -, hrest⟩ := runs_sequence_normal.mp hrun
  obtain ⟨_, scannedState, _, _, rfl, hscan, hdecide⟩ :=
    runs_sequence_normal.mp hrest
  obtain ⟨rootfs, imaged, hscans⟩ := scanPhase_normal hscan
  obtain ⟨checked, hfinal, hzero, hchecked, hclean⟩ :=
    decidePhase_normal hdecide
  cases checked with
  | broken code hfails => exact absurd hzero hfails
  | decided scannedAt jarSha256 =>
      obtain ⟨hfailed, listed, listedImage, hlisted, himages, hpackages,
        himagePackages, hblocking⟩ := exitStatus_zero hzero
      have hfailed : final.scanFailed = "0" := hfailed
      obtain ⟨hbefore, -, converted, hconverted, hconversion⟩ :=
        hclean hfailed
      obtain ⟨hrootfs, himaged⟩ := hscans.failed hbefore
      have hdependencies : library.contents final.dependencies =
          .json listed := hlisted
      have himage : library.contents final.image = .json listedImage :=
        himages
      obtain ⟨dependencies, hdependencies, hread⟩ :=
        contents_json hdependencies
      obtain ⟨image, himage, hreadImage⟩ := contents_json himage
      rw [hdependencies, himage, checkArguments, hfailed] at hchecked
      have hsameDependencies : final.dependencies =
          scannedState.dependencies := by rw [hfinal]
      have hsameImage : final.image = scannedState.image := by rw [hfinal]
      have hsameId : final.imageId = scannedState.imageId := by rw [hfinal]
      have hsameJar : applicationJar final = applicationJar scannedState := by
        rw [hfinal]
        rfl
      refine ⟨scannedState, rootfs, imaged, converted, scannedAt, jarSha256,
        dependencies, image, listed, listedImage,
        hscans.mono (by simp), hrootfs, ?_, himaged, ?_, hconverted,
        by simp [hconversion], ?_, hread, hreadImage, hpackages,
        himagePackages, hblocking⟩
      · rw [← hscans.dependencies, ← hsameDependencies, hdependencies]
      · rw [← hscans.image, ← hsameImage, himage]
      · rw [← hsameJar, ← hsameId]
        simp [hchecked]

/-- The directory of the scan could be removed. -/
def Removed (trace : Trace) : Prop :=
  ∀ scanTmp (removed : Ended),
    (⟨.run ["rm", "-rf", scanTmp] "", removed⟩ : Exchange Request Answer) ∈
      trace → removed.status = 0

structure ScanGate (invocation : Invocation) (library : ReportLibrary)
    (trace : Trace) (status : Nat) : Prop where
  checked : ∀ before arguments path scanned after,
    trace = before ++ ⟨.scan arguments path, scanned⟩ :: after →
      arguments.head? = some (trivy invocation) ∧ Unpacked invocation before
  released : status = 0 → Released invocation library trace
  decided : ∀ arguments imageId dependencies image scannedAt jarSha256,
    (⟨.check arguments imageId dependencies image,
        .decided scannedAt jarSha256⟩ : Exchange Request Answer) ∈ trace →
      ∃ state : State, arguments = checkArguments invocation state ∧
        imageId = state.imageId ∧ dependencies = state.dependencies ∧
          image = state.image ∧ (Removed trace →
            status = exitStatus (checkSecurityReports library.str
              (checkInputs invocation library state scannedAt jarSha256)))

theorem cleanup_runs {code : Nat}
    (hrun : (cleanup state status).Runs trace code) :
    (∀ exchange ∈ trace, ∃ arguments, exchange.query = .run arguments "") ∧
      (code = 0 → status = 0) ∧ (Removed trace → code = status) := by
  unfold cleanup at hrun
  split_ifs at hrun with htrapped
  · obtain ⟨removed, rest, rfl, rfl, rfl⟩ := hrun
    refine ⟨?_, ?_, fun hremoved => ?_⟩
    · intro exchange hmem
      rw [List.mem_singleton.mp hmem]
      exact ⟨_, rfl⟩
    · intro hcode
      split_ifs at hcode with hzero
      · exact hcode
      · exact absurd hcode hzero
    · exact if_pos (hremoved _ removed List.mem_cons_self)
  · obtain ⟨rfl, rfl⟩ := hrun
    exact ⟨by simp, id, fun _ => rfl⟩

theorem Released.mono {longer : Trace}
    (hreleased : Released invocation library trace)
    (hsub : trace.Sublist longer) : Released invocation library longer := by
  obtain ⟨state, rootfs, imaged, converted, scannedAt, jarSha256,
    dependencies, image, listed, listedImage, hscans, hrootfs, hdependencies,
    himaged, himage, hconverted, hconversion, hchecked, hrest⟩ := hreleased
  exact ⟨state, rootfs, imaged, converted, scannedAt, jarSha256,
    dependencies, image, listed, listedImage, hscans.mono hsub, hrootfs,
    hdependencies, himaged, himage, hconverted, hsub.subset hconversion,
    hsub.subset hchecked, hrest⟩

theorem body_exitsFail :
    (body invocation library).ExitsFail := by
  have hrefuse : ∀ message, (refuse message).ExitsFail :=
    fun message => ⟨trivial, Nat.one_ne_zero⟩
  refine ⟨exitsFail_block _ ?_, exitsFail_block _ ?_, exitsFail_block _ ?_⟩
  · unfold preparePhase
    simp only [List.forall_mem_cons]
    exact ⟨trivial, trivial, trivial, ⟨trivial, hrefuse _⟩, trivial, trivial,
      ⟨trivial, hrefuse _⟩, ⟨trivial, trivial, trivial⟩, trivial, trivial,
      trivial, by simp⟩
  · unfold scanPhase
    simp only [List.forall_mem_cons]
    exact ⟨trivial, trivial, trivial, trivial, trivial, trivial,
      ⟨trivial, hrefuse _⟩, trivial, ⟨trivial, trivial⟩, ⟨trivial, trivial⟩,
      by simp⟩
  · unfold decidePhase
    simp only [List.forall_mem_cons]
    exact ⟨⟨trivial, trivial, trivial⟩, ⟨trivial, trivial⟩, trivial, trivial,
      by simp⟩

/-- Every run of the script is gated. -/
theorem release_scan_gated (hrun : (verifyRelease invocation library).Runs
      trace status) : ScanGate invocation library trace status := by
  unfold verifyRelease at hrun
  obtain ⟨⟨completion, final⟩, first, rest, rfl, hbody, hcleanup⟩ :=
    (Program.runs_bind _ _ _ _).mp hrun
  have hbody : (body invocation library).Runs false State.initial first
      completion final := runs_iff.mpr hbody
  obtain ⟨hquiet, hzero, hremoved⟩ := cleanup_runs hcleanup
  constructor
  · intro before arguments path scanned after hsplit
    have hin : ∃ middle, first =
        before ++ ⟨.scan arguments path, scanned⟩ :: middle := by
      rcases List.append_eq_append_iff.mp hsplit with
        ⟨middle, rfl, hrest⟩ | ⟨middle, rfl, hrest⟩
      · have hmem : (⟨.scan arguments path, scanned⟩ :
            Exchange Request Answer) ∈ rest := by
          rw [hrest]
          simp
        obtain ⟨_, hother⟩ := hquiet _ hmem
        cases hother
      · cases middle with
        | nil =>
            have hmem : (⟨.scan arguments path, scanned⟩ :
                Exchange Request Answer) ∈ rest := by
              rw [← List.nil_append rest, ← hrest]
              exact List.mem_cons_self
            obtain ⟨_, hother⟩ := hquiet _ hmem
            cases hother
        | cons head tail =>
            cases (List.cons.inj hrest).1
            exact ⟨tail, rfl⟩
    obtain ⟨middle, hfirst⟩ := hin
    refine ⟨?_, body_unpacked hbody hfirst⟩
    exact body_scansWith.of_runs hbody ⟨.scan arguments path, scanned⟩
      (by simp [hfirst])
  · intro hstatus
    cases completion with
    | normal code =>
        exact (body_released hbody).mono (List.sublist_append_left first rest)
    | exited code =>
        exact absurd (hzero hstatus) (body_exitsFail.of_runs hbody)
  · intro arguments imageId dependencies image scannedAt jarSha256 hmem
    have hfirst := (List.mem_append.mp hmem).resolve_right fun hlast => by
      obtain ⟨_, hother⟩ := hquiet _ hlast
      cases hother
    obtain ⟨harguments, hid, hdependencies, himage, hcompletion⟩ :=
      body_checked hbody hfirst
    refine ⟨final, harguments, hid, hdependencies, himage, fun hgone => ?_⟩
    rw [hremoved fun scanTmp removed hlast =>
      hgone scanTmp removed (List.mem_append_right _ hlast), hcompletion]
    unfold Statement.completion
    split <;> rfl

namespace Sample

def call : Invocation where
  script := "scripts/verify-release.sh"
  arguments := []
  environment _ := none

def report : String :=
  "\x7b\"Results\":[\x7b\"Packages\":[\x7b\x7d]\x7d]\x7d"

def reading : ReportLibrary where
  str := SecurityReports.Sample.text
  decode text :=
    if text = report then .json (SecurityReports.Sample.clean [])
    else .notJson "Expecting value: line 1 column 1 (char 0)"
  missing := "[Errno 2] No such file or directory"

def imageId : String :=
  "sha256:" ++ String.ofList (List.replicate 64 '0')

/-- A Linux host on which every command does what it should. -/
def answers : (request : Request) → Answer request
  | .echo _ => ⟨⟩
  | .run ["uname", "-s"] _ => ⟨0, "Linux\n"⟩
  | .run ["uname", "-m"] _ => ⟨0, "x86_64\n"⟩
  | .run ["mktemp", "-d"] _ => ⟨0, "/tmp/tmp.scan\n"⟩
  | .run ("docker" :: _) _ => ⟨0, imageId ++ "\n"⟩
  | .run _ _ => ⟨0, ""⟩
  | .isFile _ => true
  | .write _ _ => (0 : Nat)
  | .scan _ _ => ⟨0, some report⟩
  | .check _ _ _ _ => .decided "2026-09-13T00:00:00+00:00" "4567"

def transcript : Trace :=
  (verifyRelease call reading).transcript answers

end Sample

theorem release_scan_gated_sample :
    ScanGate Sample.call Sample.reading Sample.transcript 0 := by
  have hstatus : (verifyRelease Sample.call Sample.reading).eval
      Sample.answers = 0 := by
    decide +kernel
  have hrun := Program.runs_transcript Sample.answers
    (verifyRelease Sample.call Sample.reading)
  rw [hstatus] at hrun
  exact release_scan_gated hrun

end ScanScript

end InventoryCloud
