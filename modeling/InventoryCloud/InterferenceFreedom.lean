import InventoryCloud.InteractionProgram
import Mathlib.Data.Set.Basic

/-!
# Programs under interference

A transaction executes its queries at different moments, and other
transactions change the shared view in between.  The locks it holds bound
what can change: `Rely held` relates a view to every view a holder of `held`
may find later.

A program is `Guarded` when each of its queries either can be repeated on any
later view without changing the outcome, or leaves a program whose outcome is
fixed and has no effect.  For guarded programs the body run atomically on the
current view agrees with what is left of the interrupted run.

Where the answers are not a function of the view, `Meets` says what the result
of an interrupted run satisfies.
-/

namespace Interaction

universe u v w

/-- What a party may assume about the moves of the others. -/
structure Interference (Q : Type u) (A : Q → Type v) (V L R : Type w) where
  answer : V → (query : Q) → A query
  /-- The locks which executing the query on the view adds to the held ones. -/
  takes : V → Q → Set L
  Valid : V → Prop
  Rely : Set L → V → V → Prop
  /-- The effects of the result stay inside what the held locks protect. -/
  Covered : Set L → R → Prop
  /-- The result has no effect on the view. -/
  Quiet : R → Prop
  rely_refl : ∀ held view, Rely held view view
  rely_trans : ∀ {held first second third},
    Rely held first second → Rely held second third → Rely held first third
  rely_anti : ∀ {held more first second},
    held ⊆ more → Rely more first second → Rely held first second
  covered_mono : ∀ {held more result},
    held ⊆ more → Covered held result → Covered more result

namespace Interference

variable {Q : Type u} {A : Q → Type v} {V L R : Type w}
variable (I : Interference Q A V L R)

/-- Two programs have the same outcome on every later view. -/
def Agree (held : Set L) (view : V) (first second : Program Q A R) : Prop :=
  ∀ later, I.Valid later → I.Rely held view later →
    first.eval (I.answer later) = second.eval (I.answer later)

/-- The outcome of the program is the same on every later view. -/
def Forces (held : Set L) (view : V) (program : Program Q A R) (result : R) :
    Prop :=
  ∀ later, I.Valid later → I.Rely held view later →
    program.eval (I.answer later) = result

def Decided (held : Set L) (view : V) (program : Program Q A R) : Prop :=
  ∃ result, I.Quiet result ∧ I.Forces held view program result

def Guarded : Set L → Program Q A R → Prop
  | held, .pure result => I.Covered held result
  | held, .ask query rest => ∀ view, I.Valid view →
      Guarded (held ∪ I.takes view query) (rest (I.answer view query)) ∧
        (I.Agree (held ∪ I.takes view query) view (.ask query rest)
            (rest (I.answer view query)) ∨
          I.Decided (held ∪ I.takes view query) view
            (rest (I.answer view query)))

variable {I}

theorem Agree.refl (held : Set L) (view : V) (program : Program Q A R) :
    I.Agree held view program program :=
  fun _ _ _ => rfl

theorem Agree.now {held : Set L} {view : V} {first second : Program Q A R}
    (hvalid : I.Valid view) (hagree : I.Agree held view first second) :
    first.eval (I.answer view) = second.eval (I.answer view) :=
  hagree view hvalid (I.rely_refl held view)

theorem Agree.trans {held : Set L} {view : V}
    {first second third : Program Q A R}
    (hfirst : I.Agree held view first second)
    (hsecond : I.Agree held view second third) :
    I.Agree held view first third :=
  fun later hvalid hrely =>
    (hfirst later hvalid hrely).trans (hsecond later hvalid hrely)

theorem Agree.mono {held more : Set L} {view : V}
    {first second : Program Q A R} (hsub : held ⊆ more)
    (hagree : I.Agree held view first second) :
    I.Agree more view first second :=
  fun later hvalid hrely => hagree later hvalid (I.rely_anti hsub hrely)

theorem Agree.later {held : Set L} {view later : V}
    {first second : Program Q A R} (hrely : I.Rely held view later)
    (hagree : I.Agree held view first second) :
    I.Agree held later first second :=
  fun after hvalid hafter => hagree after hvalid (I.rely_trans hrely hafter)

theorem Forces.now {held : Set L} {view : V} {program : Program Q A R}
    {result : R} (hvalid : I.Valid view)
    (hforces : I.Forces held view program result) :
    program.eval (I.answer view) = result :=
  hforces view hvalid (I.rely_refl held view)

theorem Forces.mono {held more : Set L} {view : V} {program : Program Q A R}
    {result : R} (hsub : held ⊆ more)
    (hforces : I.Forces held view program result) :
    I.Forces more view program result :=
  fun later hvalid hrely => hforces later hvalid (I.rely_anti hsub hrely)

theorem Forces.later {held : Set L} {view later : V}
    {program : Program Q A R} {result : R} (hrely : I.Rely held view later)
    (hforces : I.Forces held view program result) :
    I.Forces held later program result :=
  fun after hvalid hafter => hforces after hvalid (I.rely_trans hrely hafter)

theorem Decided.mono {held more : Set L} {view : V} {program : Program Q A R}
    (hsub : held ⊆ more) (hdecided : I.Decided held view program) :
    I.Decided more view program := by
  obtain ⟨result, hquiet, hforces⟩ := hdecided
  exact ⟨result, hquiet, hforces.mono hsub⟩

theorem decided_pure {held : Set L} {view : V} {result : R}
    (hquiet : I.Quiet result) :
    I.Decided held view (.pure result) :=
  ⟨result, hquiet, fun _ _ _ => rfl⟩

/-- A query whose answer cannot change any more may be executed at once. -/
theorem agree_of_stable {held : Set L} {view : V} {query : Q}
    (rest : A query → Program Q A R)
    (hstable : ∀ later, I.Valid later → I.Rely held view later →
      I.answer later query = I.answer view query) :
    I.Agree held view (.ask query rest) (rest (I.answer view query)) := by
  intro later hvalid hrely
  rw [Program.eval_ask, hstable later hvalid hrely]

/-- Holding more locks never hurts. -/
theorem Guarded.mono {program : Program Q A R} :
    ∀ {held more : Set L}, held ⊆ more →
      I.Guarded held program → I.Guarded more program := by
  induction program with
  | pure result =>
      intro held more hsub hguarded
      exact I.covered_mono hsub hguarded
  | ask query rest ih =>
      intro held more hsub hguarded view hvalid
      have hafter : held ∪ I.takes view query ⊆ more ∪ I.takes view query :=
        Set.union_subset_union_left _ hsub
      obtain ⟨hrest, hstep⟩ := hguarded view hvalid
      refine ⟨ih _ hafter hrest, ?_⟩
      exact hstep.imp (Agree.mono hafter) (Decided.mono hafter)

/-- One query of an undecided run: either the run stays explained by the whole
body, or its outcome is decided now and equals the outcome of the whole body. -/
theorem Guarded.step_agree {held : Set L} {view : V}
    {whole : Program Q A R} {query : Q} {rest : A query → Program Q A R}
    (hvalid : I.Valid view) (hguarded : I.Guarded held (.ask query rest))
    (hagree : I.Agree held view whole (.ask query rest)) :
    I.Agree (held ∪ I.takes view query) view whole
        (rest (I.answer view query)) ∨
      ∃ result, I.Quiet result ∧ whole.eval (I.answer view) = result ∧
        I.Forces (held ∪ I.takes view query) view
          (rest (I.answer view query)) result := by
  obtain ⟨-, hstep | ⟨result, hquiet, hforces⟩⟩ := hguarded view hvalid
  · exact Or.inl ((hagree.mono Set.subset_union_left).trans hstep)
  · refine Or.inr ⟨result, hquiet, ?_, hforces⟩
    calc
      whole.eval (I.answer view) =
          (Program.ask query rest).eval (I.answer view) := hagree.now hvalid
      _ = (rest (I.answer view query)).eval (I.answer view) := rfl
      _ = result := hforces.now hvalid

/-- A decided run keeps its outcome. -/
theorem Guarded.step_forces {held : Set L} {view : V} {query : Q}
    {rest : A query → Program Q A R} {result : R}
    (hvalid : I.Valid view) (hguarded : I.Guarded held (.ask query rest))
    (hforces : I.Forces held view (.ask query rest) result) :
    I.Forces (held ∪ I.takes view query) view
      (rest (I.answer view query)) result := by
  obtain ⟨-, hstep | ⟨other, -, hother⟩⟩ := hguarded view hvalid
  · intro later hlater hrely
    rw [← hstep later hlater hrely]
    exact hforces later hlater (I.rely_anti Set.subset_union_left hrely)
  · have hsame : other = result := by
      rw [← hother.now hvalid, ← hforces.now hvalid, Program.eval_ask]
    rwa [← hsame]

theorem Guarded.rest {held : Set L} {view : V} {query : Q}
    {rest : A query → Program Q A R}
    (hvalid : I.Valid view) (hguarded : I.Guarded held (.ask query rest)) :
    I.Guarded (held ∪ I.takes view query) (rest (I.answer view query)) :=
  (hguarded view hvalid).1

variable (I) in
/-- The remaining program is accounted for by the whole body: either the body,
run atomically on any later view, ends as the rest does, or the outcome is
decided, has no effect, and is the outcome of the body on a view the run has
seen. -/
def Explained (seen : V → Prop) (held : Set L) (view : V)
    (whole rest : Program Q A R) : Prop :=
  I.Agree held view whole rest ∨
    ∃ result, I.Quiet result ∧
      (∃ moment, I.Valid moment ∧ seen moment ∧ I.Rely ∅ moment view ∧
        whole.eval (I.answer moment) = result) ∧
      I.Forces held view rest result

variable {seen : V → Prop}

theorem Explained.start (held : Set L) (view : V) (whole : Program Q A R) :
    I.Explained seen held view whole whole :=
  Or.inl (Agree.refl held view whole)

theorem Explained.later {held : Set L} {view later : V}
    {whole rest : Program Q A R} (hrely : I.Rely held view later)
    (hexplained : I.Explained seen held view whole rest) :
    I.Explained seen held later whole rest := by
  rcases hexplained with
    hagree | ⟨result, hquiet, ⟨moment, hvalid, hseen, hpast, hwhole⟩, hforces⟩
  · exact Or.inl (hagree.later hrely)
  · have hafter := I.rely_trans hpast
      (I.rely_anti (Set.empty_subset held) hrely)
    exact Or.inr ⟨result, hquiet, ⟨moment, hvalid, hseen, hafter, hwhole⟩,
      hforces.later hrely⟩

theorem Explained.mono {held more : Set L} {view : V}
    {whole rest : Program Q A R} (hsub : held ⊆ more)
    (hexplained : I.Explained seen held view whole rest) :
    I.Explained seen more view whole rest := by
  rcases hexplained with hagree | ⟨result, hquiet, hmoment, hforces⟩
  · exact Or.inl (hagree.mono hsub)
  · exact Or.inr ⟨result, hquiet, hmoment, hforces.mono hsub⟩

theorem Explained.step {held : Set L} {view : V}
    {whole : Program Q A R} {query : Q} {rest : A query → Program Q A R}
    (hvalid : I.Valid view) (hseen : seen view)
    (hguarded : I.Guarded held (.ask query rest))
    (hexplained : I.Explained seen held view whole (.ask query rest)) :
    I.Explained seen (held ∪ I.takes view query) view whole
      (rest (I.answer view query)) := by
  rcases hexplained with hagree | ⟨result, hquiet, hmoment, hforces⟩
  · rcases hguarded.step_agree hvalid hagree with
      hafter | ⟨result, hquiet, hwhole, hforces⟩
    · exact Or.inl hafter
    · exact Or.inr ⟨result, hquiet,
        ⟨view, hvalid, hseen, I.rely_refl ∅ view, hwhole⟩, hforces⟩
  · exact Or.inr ⟨result, hquiet, hmoment,
      hguarded.step_forces hvalid hforces⟩

/-- A finished run ended as the whole body does on the current view, or it had
no effect and ended as the body did on a view it has seen. -/
theorem Explained.finished {held : Set L} {view : V} {whole : Program Q A R}
    {result : R} (hvalid : I.Valid view)
    (hexplained : I.Explained seen held view whole (.pure result)) :
    whole.eval (I.answer view) = result ∨
      (I.Quiet result ∧ ∃ moment, I.Valid moment ∧ seen moment ∧
        I.Rely ∅ moment view ∧ whole.eval (I.answer moment) = result) := by
  rcases hexplained with hagree | ⟨other, hquiet, hmoment, hforces⟩
  · exact Or.inl (hagree.now hvalid)
  · have hsame : result = other := hforces.now hvalid
    subst hsame
    exact Or.inr ⟨hquiet, hmoment⟩

/-! ## Answers that only fit the view -/

variable (I) in
/-- The postcondition of the result, as long as each query gets an answer that
fits the view it is executed on. -/
def Meets (Fits : V → (query : Q) → A query → Prop)
    (Post : Set L → V → R → Prop) : Set L → V → Program Q A R → Prop
  | held, view, .pure result => ∀ later, I.Valid later →
      I.Rely held view later → Post held later result
  | held, view, .ask query rest => ∀ later, I.Valid later →
      I.Rely held view later → ∀ answer, Fits later query answer →
        Meets Fits Post (held ∪ I.takes later query) later (rest answer)

variable {Fits : V → (query : Q) → A query → Prop}
  {Post : Set L → V → R → Prop}

theorem Meets.later {held : Set L} {view later : V} {program : Program Q A R}
    (hrely : I.Rely held view later)
    (hmeets : I.Meets Fits Post held view program) :
    I.Meets Fits Post held later program := by
  cases program with
  | pure result =>
      intro after hvalid hafter
      exact hmeets after hvalid (I.rely_trans hrely hafter)
  | ask query rest =>
      intro after hvalid hafter
      exact hmeets after hvalid (I.rely_trans hrely hafter)

theorem Meets.answered {held : Set L} {view : V} {query : Q}
    {rest : A query → Program Q A R} {answer : A query}
    (hvalid : I.Valid view) (hfits : Fits view query answer)
    (hmeets : I.Meets Fits Post held view (.ask query rest)) :
    I.Meets Fits Post (held ∪ I.takes view query) view (rest answer) :=
  hmeets view hvalid (I.rely_refl held view) answer hfits

theorem Meets.finished {held : Set L} {view : V} {result : R}
    (hvalid : I.Valid view)
    (hmeets : I.Meets Fits Post held view (.pure result)) :
    Post held view result :=
  hmeets view hvalid (I.rely_refl held view)

end Interference

end Interaction
