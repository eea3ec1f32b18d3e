import ContractBuild.Proofs.Completion
import Mathlib.Computability.RegularExpressions

/-!
# The order of operations

A session may be driven in any way, also out of order, and goes on behind an operation that fails. `Session.performAll`
performs operations one after the other and lists what they give. The order that a session takes is a regular language
over the operations without their arguments (`Session.wholeBuild`).

* `Session.performed`: what one operation does in any phase (`Session.Performed`). Everything below is read off it.
* `Session.Orderly.behind`: there are no hints before a build streams, and nothing but the hints is kept behind its
  last phase.
* `Session.accepted_append_mem_iff`: what may follow the operations that were taken is what the phase allows.
* `Session.outcomes_length_le_one`: at most one operation gives an outcome.
* `Session.operations_in_order`: all of this for a fresh session.
-/

namespace ContractBuild

/-- The outcome of a build whose process never started. -/
structure Outcome.NeverStarted (o : Outcome) : Prop where
  success : o.success = false
  exitCode : o.exitCode = none
  diagnostics : o.diagnostics = .empty
  oneHint : o.toolchainErrors.length = 1

namespace Session

/-! ## Operations -/

/-- An operation on a session. The end of a build is told with the folder that relative paths are taken from. -/
inductive Operation where
  | markSpawning
  | markStreaming
  | feed (stream : Stream) (chunk : Chunk)
  | finalize (cwd : Text) (exitCode : Int)
  | failToSpawn (command : Text) (error : SpawnError)

/-- An operation without its arguments. -/
inductive Step where
  | spawning
  | failToSpawn
  | streaming
  | feed (stream : Stream)
  | finalize
deriving DecidableEq

/-- The operation without its arguments. -/
def Operation.step : Operation → Step
  | .markSpawning => .spawning
  | .markStreaming => .streaming
  | .feed stream _ => .feed stream
  | .finalize _ _ => .finalize
  | .failToSpawn _ _ => .failToSpawn

/-- Performs an operation. Only the two that end a build give an outcome. -/
def perform (s : Session) : Operation → Except Error (Option Outcome) × Session
  | .markSpawning => (s.markSpawning.1.map fun _ => none, s.markSpawning.2)
  | .markStreaming => (s.markStreaming.1.map fun _ => none, s.markStreaming.2)
  | .feed stream chunk => ((s.feed stream chunk).1.map fun _ => none, (s.feed stream chunk).2)
  | .finalize cwd exitCode => ((s.finalize cwd exitCode).1.map fun r => some r.1, (s.finalize cwd exitCode).2)
  | .failToSpawn command error => ((s.failToSpawn command error).1.map some, (s.failToSpawn command error).2)

/-- Performs operations one after the other, also behind one that fails. -/
def performAll (s : Session) : List Operation → List (Operation × Except Error (Option Outcome)) × Session
  | [] => ([], s)
  | op :: ops =>
    let (result, s') := s.perform op
    let (results, s'') := s'.performAll ops
    ((op, result) :: results, s'')

/-- What operations give, one after the other. -/
def results (s : Session) (ops : List Operation) : List (Operation × Except Error (Option Outcome)) :=
  (s.performAll ops).1

/-- The session behind operations. -/
def behind (s : Session) (ops : List Operation) : Session := (s.performAll ops).2

/-- Whether a result says that the operation came out of order. -/
def isRefusal : Except Error (Option Outcome) → Bool
  | .error (.order _ _) => true
  | .error (.message _) => false
  | .ok _ => false

/-- The operations that did not come out of order. -/
def accepted (results : List (Operation × Except Error (Option Outcome))) : List Step :=
  (results.filter fun r => !isRefusal r.2).map fun r => r.1.step

/-- The outcome of a result that has one. -/
def outcome? : Except Error (Option Outcome) → Option Outcome
  | .ok o => o
  | .error _ => none

/-- The outcomes among results. -/
def outcomes (results : List (Operation × Except Error (Option Outcome))) : List Outcome :=
  results.filterMap fun r => outcome? r.2

/-! ## The order -/

section Order

open RegularExpression

/-- Chunks of both outputs. -/
def chunks : RegularExpression Step := star (char (.feed .stdout) + char (.feed .stderr))

/-- A whole build: the process is being started, and either cannot be started or streams chunks and ends. -/
def wholeBuild : RegularExpression Step :=
  char .spawning * (char .failToSpawn + char .streaming * chunks * char .finalize)

end Order

/-- What may be done in a phase. -/
def allowed : Phase → RegularExpression Step
  | .idle => wholeBuild
  | .spawning => .char .failToSpawn + .char .streaming * chunks * .char .finalize
  | .streaming => chunks * .char .finalize
  | .finalizing | .completed | .failedToSpawn => 1

/-- What may be done behind an operation that was taken. -/
def Step.allowed : Step → RegularExpression Step
  | .spawning => Session.allowed .spawning
  | .streaming | .feed _ => Session.allowed .streaming
  | .finalize | .failToSpawn => 1

/-- The phase in which an operation may come. -/
def Step.source : Step → Phase
  | .spawning => .idle
  | .failToSpawn => .spawning
  | .streaming => .spawning
  | .feed _ => .streaming
  | .finalize => .streaming

/-- The phase that an operation asks for. -/
def Step.target : Step → Phase
  | .spawning => .spawning
  | .failToSpawn => .failedToSpawn
  | .streaming => .streaming
  | .feed _ => .streaming
  | .finalize => .finalizing

/-- **The first operation decides what may follow.** -/
theorem cons_mem_allowed_iff (p : Phase) (k : Step) (w : List Step) :
    k :: w ∈ (allowed p).matches' ↔ p = k.source ∧ w ∈ k.allowed.matches' := by
  rw [← RegularExpression.rmatch_iff_matches', RegularExpression.rmatch, RegularExpression.rmatch_iff_matches']
  cases p <;> rcases k with _ | _ | _ | ⟨_ | _⟩ | _ <;>
    simp [allowed, Step.allowed, Step.source, wholeBuild, chunks, RegularExpression.deriv,
      RegularExpression.matchEpsilon]

/-- A build can be brought to its end from any phase. -/
theorem exists_mem_allowed (p : Phase) : ∃ w, w ∈ (allowed p).matches' := by
  cases p with
  | idle => exact ⟨[.spawning, .failToSpawn], by decide⟩
  | spawning => exact ⟨[.failToSpawn], by decide⟩
  | streaming => exact ⟨[.finalize], by decide⟩
  | finalizing | completed | failedToSpawn => exact ⟨[], by decide⟩

theorem Step.exists_mem_allowed (k : Step) : ∃ w, w ∈ k.allowed.matches' := by
  cases k with
  | spawning => exact Session.exists_mem_allowed .spawning
  | streaming | feed _ => exact Session.exists_mem_allowed .streaming
  | finalize | failToSpawn => exact Session.exists_mem_allowed .completed

/-! ## One operation -/

/-- A session that keeps nothing of its build but the hints. -/
structure Released (s : Session) : Prop where
  pending : ∀ stream, s.pending? stream = none
  buffers : ∀ stream, s.buffer stream = .empty
  diagnostics : s.findings.diagnostics = .empty
  artifacts : s.findings.artifacts = []

/-- In the last phase all is let go of. -/
theorem released_release {s : Session} (h : s.phase.isLast = true) : s.release.Released where
  pending _ := if_pos h
  buffers stream := by cases stream <;> rfl
  diagnostics := rfl
  artifacts := rfl

/-- **What an operation does**: what it gives, and the session behind it. -/
inductive Performed (s : Session) : Operation → Except Error (Option Outcome) → Session → Prop
  /-- It comes out of order. -/
  | refused {op : Operation} (order : s.phase ≠ op.step.source) :
      Performed s op (.error (.order s.phase op.step.target)) s
  | spawning (phase : s.phase = .idle) : Performed s .markSpawning (.ok none) { s with phase := .spawning }
  | streaming (phase : s.phase = .spawning) : Performed s .markStreaming (.ok none) { s with phase := .streaming }
  /-- The chunk is taken, up to a line that cannot be. -/
  | fed {stream : Stream} {chunk : Chunk} {s' : Session} (result : Except Message.Fault Unit)
      (phase : s.phase = .streaming) (phase' : s'.phase = .streaming) :
      Performed s (.feed stream chunk) ((result.mapError .message).map fun _ => none) s'
  /-- A line that was still open cannot be taken. -/
  | stuck {cwd : Text} {exitCode : Int} {fault : Message.Fault} {s' : Session}
      (phase : s.phase = .streaming) (phase' : s'.phase = .finalizing) :
      Performed s (.finalize cwd exitCode) (.error (.message fault)) s'
  | finished {cwd : Text} {exitCode : Int} {o : Outcome} {s' : Session}
      (phase : s.phase = .streaming) (code : o.exitCode = some exitCode) (phase' : s'.phase = .completed)
      (released : s'.Released) : Performed s (.finalize cwd exitCode) (.ok (some o)) s'
  | notStarted {command : Text} {error : SpawnError} {s' : Session}
      (phase : s.phase = .spawning) (phase' : s'.phase = .failedToSpawn) (released : s'.Released) :
      Performed s (.failToSpawn command error) (.ok (some {
        success := false
        artifact := none
        diagnostics := .empty
        toolchainErrors := Toolchain.record s.findings.hints (some (.notStarted command error))
        exitCode := none })) s'

theorem advance_of_next {s : Session} {p : Phase} (h : s.phase.next.elem p = true) :
    s.advance p = (.ok (), { s with phase := p }) := if_pos h

/-- An operation other than a chunk asks for a phase that only follows the one in which the operation may come. -/
theorem advance_of_ne {s : Session} {k : Step} (hk : ∀ stream, k ≠ .feed stream) (h : s.phase ≠ k.source) :
    s.advance k.target = (.error (.order s.phase k.target), s) := by
  have hnext : s.phase.next.elem k.target = decide (s.phase = k.source) := by
    cases k with
    | feed stream => exact absurd rfl (hk stream)
    | spawning | failToSpawn | streaming | finalize => cases s.phase <;> rfl
  rw [decide_eq_false h] at hnext
  exact if_neg (Bool.eq_false_iff.1 hnext)

/-- **An operation that comes out of order** fails and changes nothing. -/
theorem perform_of_ne {s : Session} {op : Operation} (h : s.phase ≠ op.step.source) :
    s.perform op = (.error (.order s.phase op.step.target), s) := by
  cases op with
  | feed stream chunk =>
    have hfeed : s.feed stream chunk = (.error (.order s.phase .streaming), s) := if_pos h
    rw [perform, hfeed]
    rfl
  | markSpawning =>
    have hstay : s.markSpawning = (.error (.order s.phase .spawning), s) :=
      advance_of_ne (k := .spawning) (fun _ => Step.noConfusion) h
    rw [perform, hstay]
    rfl
  | markStreaming =>
    have hstay : s.markStreaming = (.error (.order s.phase .streaming), s) :=
      advance_of_ne (k := .streaming) (fun _ => Step.noConfusion) h
    rw [perform, hstay]
    rfl
  | finalize cwd exitCode =>
    have hstay : s.advance .finalizing = (.error (.order s.phase .finalizing), s) :=
      advance_of_ne (k := .finalize) (fun _ => Step.noConfusion) h
    rw [perform, finalize, hstay]
    rfl
  | failToSpawn command error =>
    have hstay : s.advance .failedToSpawn = (.error (.order s.phase .failedToSpawn), s) :=
      advance_of_ne (k := .failToSpawn) (fun _ => Step.noConfusion) h
    rw [perform, failToSpawn, hstay]
    rfl

/-- **One operation**, in any phase. -/
theorem performed (s : Session) (op : Operation) : Performed s op (s.perform op).1 (s.perform op).2 := by
  by_cases h : s.phase = op.step.source
  · cases op with
    | feed stream chunk =>
      have hphase : s.phase = .streaming := h
      rw [perform, feed_eq hphase, observe_eq]
      exact .fed _ hphase (by simp [hphase])
    | markSpawning =>
      have hgo : s.markSpawning = (.ok (), { s with phase := .spawning }) := advance_of_next (by rw [h]; rfl)
      rw [perform, hgo]
      exact .spawning h
    | markStreaming =>
      have hgo : s.markStreaming = (.ok (), { s with phase := .streaming }) := advance_of_next (by rw [h]; rfl)
      rw [perform, hgo]
      exact .streaming h
    | finalize cwd exitCode =>
      simp only [perform, finalize, advance_finalizing h, close, observe_eq, buffer, setBuffer]
      rcases s.findings.observeEach (Stream.stdout.tag s.stdout.finish.1) with ⟨fault | ⟨⟩, f⟩
      · exact .stuck h rfl
      · simp only [Except.mapError]
        rcases f.observeEach (Stream.stderr.tag s.stderr.finish.1) with ⟨fault | ⟨⟩, f'⟩
        · exact .stuck h rfl
        · dsimp only [Except.map]
          refine .finished h ?_ rfl ?_
          · rfl
          · exact released_release (s := { s with phase := .completed, findings := f' }) rfl
    | failToSpawn command error =>
      have hgo : s.advance .failedToSpawn = (.ok (), { s with phase := .failedToSpawn }) :=
        advance_of_next (by rw [h]; rfl)
      simp only [perform, failToSpawn, hgo]
      exact .notStarted h rfl (released_release rfl)
  · rw [perform_of_ne h]
    exact .refused h

/-! ## Any operations -/

section

variable {s s' : Session} {op : Operation} {result : Except Error (Option Outcome)}

/-- What every session satisfies that started fresh: there are no hints before the build streams, and in the last phase
all is let go of. -/
structure Orderly (s : Session) : Prop where
  quiet : s.phase = .idle ∨ s.phase = .spawning → s.findings.hints = []
  released : s.phase.isLast = true → s.Released

theorem orderly_new (projectDir : Text) (criteria : Artifact.Criteria) : (new projectDir criteria).Orderly where
  quiet _ := rfl
  released h := by cases h

/-- **One operation** keeps a session orderly. -/
theorem Performed.orderly (hop : Performed s op result s') (h : s.Orderly) : s'.Orderly := by
  cases hop with
  | refused => exact h
  | spawning phase => exact ⟨fun _ => h.quiet (.inl phase), nofun⟩
  | streaming => exact ⟨by simp, nofun⟩
  | fed _ _ phase' | stuck _ phase' => exact ⟨by simp [phase'], by simp [phase', Phase.isLast, Phase.next]⟩
  | finished _ _ phase' released | notStarted _ phase' released => exact ⟨by simp [phase'], fun _ => released⟩

/-- **Many operations** keep a session orderly. -/
theorem Orderly.behind {s : Session} (h : s.Orderly) (ops : List Operation) : (s.behind ops).Orderly := by
  induction ops generalizing s with
  | nil => exact h
  | cons op ops ih => exact ih ((performed s op).orderly h)

/-- An operation is refused exactly when it comes in another phase than its own. -/
theorem Performed.isRefusal_eq (hop : Performed s op result s') :
    isRefusal result = decide (s.phase ≠ op.step.source) := by
  cases hop with
  | refused order => exact (decide_eq_true order).symm
  | fed result phase => cases result <;> exact (decide_eq_false (not_not_intro phase)).symm
  | spawning phase | streaming phase | stuck phase | finished phase | notStarted phase =>
    exact (decide_eq_false (not_not_intro phase)).symm

/-- Behind an operation that was taken the phase allows what may be done behind that operation. -/
theorem Performed.allowed_eq (hop : Performed s op result s') (h : s.phase = op.step.source) :
    allowed s'.phase = op.step.allowed := by
  cases hop with
  | refused order => exact absurd h order
  | spawning | streaming => rfl
  | fed _ _ phase' | stuck _ phase' | finished _ _ phase' | notStarted _ phase' => rw [phase']; rfl

/-- **What may follow** the operations that were taken is what the phase behind them allows. -/
theorem accepted_append_mem_iff (s : Session) (ops : List Operation) (w : List Step) :
    accepted (s.results ops) ++ w ∈ (allowed s.phase).matches' ↔ w ∈ (allowed (s.behind ops).phase).matches' := by
  induction ops generalizing s with
  | nil => rfl
  | cons op ops ih =>
    have hbehind : s.behind (op :: ops) = (s.perform op).2.behind ops := rfl
    have hresults : s.results (op :: ops) = (op, (s.perform op).1) :: (s.perform op).2.results ops := rfl
    rw [hbehind, ← ih, hresults]
    by_cases h : s.phase = op.step.source
    · have haccepted (rs : List (Operation × Except Error (Option Outcome))) :
          accepted ((op, (s.perform op).1) :: rs) = op.step :: accepted rs := by
        simp [accepted, (performed s op).isRefusal_eq, h]
      rw [haccepted, List.cons_append, cons_mem_allowed_iff, (performed s op).allowed_eq h]
      exact and_iff_right h
    · rw [perform_of_ne h]
      exact Iff.rfl

/-- A phase in which no operation may come. -/
def Closed (p : Phase) : Prop := ∀ k : Step, p ≠ k.source

theorem closed_of_isLast {p : Phase} (h : p.isLast = true) : Closed p := by
  intro k
  cases p with
  | completed | failedToSpawn => cases k <;> nofun
  | idle | spawning | streaming | finalizing => cases h

theorem closed_finalizing : Closed .finalizing := by
  intro k
  cases k <;> nofun

/-- In a closed phase nothing gives an outcome any more. -/
theorem outcomes_of_closed {s : Session} (h : Closed s.phase) (ops : List Operation) :
    outcomes (s.results ops) = [] := by
  induction ops with
  | nil => rfl
  | cons op ops ih =>
    rw [results, performAll, perform_of_ne (h op.step)]
    exact ih

/-- An operation that gives an outcome is the last one. -/
theorem Performed.isLast (hop : Performed s op result s') {o : Outcome} (h : outcome? result = some o) :
    s'.phase.isLast = true := by
  cases hop with
  | refused | spawning | streaming | stuck => cases h
  | fed result => cases result <;> cases h
  | finished _ _ phase' | notStarted _ phase' => rw [phase']; rfl

theorem outcomes_cons (s : Session) (op : Operation) (ops : List Operation) :
    outcomes (s.results (op :: ops)) =
      (outcome? (s.perform op).1).toList ++ outcomes ((s.perform op).2.results ops) := by
  cases h : outcome? (s.perform op).1 <;> simp [results, performAll, outcomes, h]

/-- **There is one outcome at most.** -/
theorem outcomes_length_le_one (s : Session) (ops : List Operation) : (outcomes (s.results ops)).length ≤ 1 := by
  induction ops generalizing s with
  | nil => exact Nat.zero_le 1
  | cons op ops ih =>
    rw [outcomes_cons]
    cases h : outcome? (s.perform op).1 with
    | none => exact ih _
    | some o =>
      rw [outcomes_of_closed (closed_of_isLast ((performed s op).isLast h))]
      exact Nat.le_refl 1

/-- An outcome tells whether it is that of a process that could not be started. -/
theorem Performed.outcome_iff (hop : Performed s op result s') (h : s.Orderly) {o : Outcome}
    (ho : outcome? result = some o) :
    (o.spawnFailed = true ↔ op.step = .failToSpawn) ∧ (o.NeverStarted ↔ op.step = .failToSpawn) := by
  cases hop with
  | refused | spawning | streaming | stuck => cases ho
  | fed result => cases result <;> cases ho
  | finished phase code phase' released =>
    cases ho
    refine ⟨by simp [Outcome.spawnFailed, code, Operation.step], ⟨fun hnever => ?_, nofun⟩⟩
    rw [hnever.exitCode] at code
    cases code
  | notStarted phase phase' released =>
    cases ho
    refine ⟨by simp [Outcome.spawnFailed, Operation.step], ⟨fun _ => rfl, fun _ => ⟨rfl, rfl, rfl, ?_⟩⟩⟩
    -- the session had no hints before, so there is this one
    rw [h.quiet (.inr phase)]
    rfl

/-- The end of a build that fails and does not come out of order leaves the session finalizing. -/
theorem Performed.phase_of_stuck {cwd : Text} {exitCode : Int} {e : Error}
    (hop : Performed s (.finalize cwd exitCode) (.error e) s') (h : isRefusal (.error e) = false) :
    s'.phase = .finalizing := by
  cases hop with
  | refused => cases h
  | stuck phase phase' => exact phase'

/-- In a closed phase every operation is refused. -/
theorem isRefusal_of_closed {s : Session} (h : Closed s.phase) (op : Operation) :
    isRefusal (s.perform op).1 = true := by
  rw [(performed s op).isRefusal_eq]
  exact decide_eq_true (h op.step)

end

/-- **Operations on a fresh session**, in any order and with any arguments. Those that are not refused form the
beginning of a whole build, and the next one is taken exactly when it continues that build. A refused one changes
nothing. At most one gives an outcome, which is that of a process that never started exactly when the operation says so.
In the last phase all but the hints is let go of and every operation is refused. An end of the build that fails
otherwise leaves the session finalizing, where every operation is refused too. -/
theorem operations_in_order (projectDir : Text) (criteria : Artifact.Criteria) (ops : List Operation) :
    let rs := (new projectDir criteria).results ops
    let s := (new projectDir criteria).behind ops
    (∃ rest, accepted rs ++ rest ∈ wholeBuild.matches') ∧
    (∀ op, isRefusal (s.perform op).1 = false ↔ ∃ rest, accepted rs ++ op.step :: rest ∈ wholeBuild.matches') ∧
    (∀ op, isRefusal (s.perform op).1 = true → (s.perform op).2 = s) ∧
    (outcomes rs).length ≤ 1 ∧
    (∀ op o, outcome? (s.perform op).1 = some o →
      (o.spawnFailed = true ↔ op.step = .failToSpawn) ∧ (o.NeverStarted ↔ op.step = .failToSpawn)) ∧
    (s.phase = .completed ∨ s.phase = .failedToSpawn → s.Released ∧ ∀ op, isRefusal (s.perform op).1 = true) ∧
    (∀ cwd exitCode e, (s.perform (.finalize cwd exitCode)).1 = .error e → isRefusal (.error e) = false →
      (s.perform (.finalize cwd exitCode)).2.phase = .finalizing ∧
        ∀ op, isRefusal ((s.perform (.finalize cwd exitCode)).2.perform op).1 = true) := by
  intro rs s
  have horderly : s.Orderly := (orderly_new projectDir criteria).behind ops
  have hmem (w : List Step) : accepted rs ++ w ∈ wholeBuild.matches' ↔ w ∈ (allowed s.phase).matches' :=
    accepted_append_mem_iff (new projectDir criteria) ops w
  have hrefusal (op : Operation) := (performed s op).isRefusal_eq
  refine ⟨?_, fun op => ?_, fun op h => ?_, outcomes_length_le_one _ ops,
    fun op o ho => (performed s op).outcome_iff horderly ho,
    fun h => ?_, fun cwd exitCode e he h => ?_⟩
  · obtain ⟨w, hw⟩ := exists_mem_allowed s.phase
    exact ⟨w, (hmem w).2 hw⟩
  · simp only [hmem, cons_mem_allowed_iff, hrefusal, decide_eq_false_iff_not, Decidable.not_not]
    obtain ⟨w, hw⟩ := op.step.exists_mem_allowed
    exact ⟨fun h => ⟨w, h, hw⟩, fun ⟨_, h, _⟩ => h⟩
  · rw [hrefusal, decide_eq_true_eq] at h
    rw [perform_of_ne h]
  · have hlast : s.phase.isLast = true := by rcases h with h | h <;> rw [h] <;> rfl
    exact ⟨horderly.released hlast, isRefusal_of_closed (closed_of_isLast hlast)⟩
  · have hop := performed s (.finalize cwd exitCode)
    rw [he] at hop
    have hphase := hop.phase_of_stuck h
    exact ⟨hphase, isRefusal_of_closed (by rw [hphase]; exact closed_finalizing)⟩

/-- A session on which nothing has been done. -/
def untouched : Session := new "/p" Artifact.contract

/-- A build that is driven out of order, before, between and behind its operations. -/
def misdriven : List Operation :=
  [.feed .stdout (.text "a\n"), .markSpawning, .markSpawning, .markStreaming,
    .feed .stderr (.text "error: no such command: x\n"), .finalize "/" 101, .markStreaming]

/-- A build whose last line cannot be taken. -/
def unreadable : List Operation :=
  [.markSpawning, .markStreaming,
    .feed .stdout (.text
      "\x7b\"reason\":\"compiler-message\",\"message\":\x7b\"level\":[],\"spans\":[0]\x7d\x7d")]

/-- The order kept by three sessions: one that is driven out of order, one whose process cannot be started, and one that
cannot be ended. -/
theorem operations_in_order_misdriven :
    accepted (untouched.results misdriven) = [.spawning, .streaming, .feed .stderr, .finalize] ∧
    (∃ rest, accepted (untouched.results misdriven) ++ rest ∈ wholeBuild.matches') ∧
    (outcomes (untouched.results misdriven)).length = 1 ∧
    ((untouched.behind misdriven).perform .markSpawning).2 = untouched.behind misdriven ∧
    (untouched.behind misdriven).Released ∧
    (∃ o, outcome? ((untouched.behind [.markSpawning]).perform (.failToSpawn "cargo" (.described "gone"))).1 = some o ∧
      o.NeverStarted) ∧
    ((untouched.behind unreadable).perform (.finalize "/" 0)).2.phase = .finalizing ∧
    isRefusal (((untouched.behind unreadable).perform (.finalize "/" 0)).2.perform (.finalize "/" 0)).1 = true := by
  obtain ⟨hbegun, -, hkept, -, -, hlast, -⟩ := operations_in_order "/p" Artifact.contract misdriven
  obtain ⟨-, -, -, -, houtcome, -, -⟩ := operations_in_order "/p" Artifact.contract [.markSpawning]
  obtain ⟨-, -, -, -, -, -, hstuck⟩ := operations_in_order "/p" Artifact.contract unreadable
  rw [← untouched] at hbegun hkept hlast houtcome hstuck
  have hrefusal : isRefusal ((untouched.behind misdriven).perform .markSpawning).1 = true := by decide +kernel
  have hdone : (untouched.behind misdriven).phase = .completed := by decide +kernel
  obtain ⟨o, ho⟩ : ∃ o,
      outcome? ((untouched.behind [.markSpawning]).perform (.failToSpawn "cargo" (.described "gone"))).1 = some o :=
    Option.isSome_iff_exists.1 (by decide +kernel)
  obtain ⟨fault, hstop⟩ :
      ∃ fault, ((untouched.behind unreadable).perform (.finalize "/" 0)).1 = .error (.message fault) := by
    have hfault : (match ((untouched.behind unreadable).perform (.finalize "/" 0)).1 with
        | .error (.message _) => true
        | _ => false) = true := by decide +kernel
    rcases h : ((untouched.behind unreadable).perform (.finalize "/" 0)).1 with (⟨_, _⟩ | fault) | o
    · rw [h] at hfault; cases hfault
    · exact ⟨fault, rfl⟩
    · rw [h] at hfault; cases hfault
  obtain ⟨hphase, hrefused⟩ := hstuck "/" 0 _ hstop rfl
  exact ⟨by decide +kernel, hbegun, by decide +kernel, hkept .markSpawning hrefusal, (hlast (.inl hdone)).1,
    ⟨o, ho, (houtcome _ o ho).2.2 rfl⟩, hphase, hrefused _⟩

end Session

end ContractBuild
