import ContractBuild.Cargo.Schedule

/-!
# A build waits for everything

A build that runs has taken the reads that have arrived, in the order in which they came, and is finished at the last
arrival of a schedule and not before.

* `Expects`: what is still to come, seen from what has come. Every arrival keeps it (`Expects.of_exit`,
  `Expects.of_end`, `Expects.of_read`), and nothing is to come exactly when nothing is waited for (`eq_nil_iff`).
* `Running.Reached`: how far a build is behind some arrivals; `Running.Reached.receive` is the step.
* `Schedule.reached`: every build is that far behind the arrivals of a schedule.
* `Schedule.run_eq_complete`: in the end a schedule gives what taking its reads in order gives.
-/

namespace ContractBuild.Cargo

/-! ## Reads and exit codes -/

namespace Arrival

theorem reads_read (stream : Stream) (p : Piece) (as : List Arrival) :
    reads stream (.read p :: as) = (if p.stream = stream then [p.bytes] else []) ++ reads stream as := by
  by_cases h : p.stream = stream <;> simp [reads, h]

theorem reads_exited (stream : Stream) (code : Int) (as : List Arrival) :
    reads stream (.exited code :: as) = reads stream as := by
  simp [reads]

theorem exits_read (p : Piece) (as : List Arrival) : exits (.read p :: as) = exits as := by
  simp [exits]

theorem exits_exited (code : Int) (as : List Arrival) : exits (.exited code :: as) = code :: exits as := by
  simp [exits]

theorem pieces_append (as bs : List Arrival) : pieces (as ++ bs) = pieces as ++ pieces bs := by
  simp [pieces]

theorem pieces_read (p : Piece) : pieces [.read p] = if p.bytes = [] then [] else [p] := by
  by_cases h : p.bytes = [] <;> simp [pieces, h]

end Arrival

/-! ## What is still to come -/

/-- What is to come when some outputs have ended and the exit code may be known: the reads of the other outputs, each
with an empty one at its end, and the exit code unless it is known. -/
structure Expects (ended : List Stream) (exitCode : Option Int) (code : Int) (rest : List Arrival) : Prop where
  closed : ∀ stream ∈ ended, Arrival.reads stream rest = []
  more : ∀ stream ∉ ended, ∃ chunks, [] ∉ chunks ∧ Arrival.reads stream rest = chunks ++ [[]]
  exit : exitCode.toList ++ Arrival.exits rest = [code]

namespace Expects

variable {ended : List Stream} {exitCode : Option Int} {code : Int} {rest : List Arrival}

/-- The exit code is the one that is expected, and comes once. -/
theorem of_exit {c : Int} (h : Expects ended exitCode code (.exited c :: rest)) :
    c = code ∧ Expects ended (some c) code rest := by
  obtain ⟨hclosed, hmore, hexit⟩ := h
  rw [Arrival.exits_exited] at hexit
  have hc : c = code ∧ Arrival.exits rest = [] := by
    cases exitCode with
    | none => simpa using hexit
    | some d => simp at hexit
  refine ⟨hc.1, ?_, ?_, by simp [hc]⟩
  · intro stream hs
    have := hclosed stream hs
    rwa [Arrival.reads_exited] at this
  · intro stream hs
    have := hmore stream hs
    rwa [Arrival.reads_exited] at this

/-- A read comes from an output that has not ended. -/
theorem not_mem {p : Piece} (h : Expects ended exitCode code (.read p :: rest)) : p.stream ∉ ended := by
  intro hp
  have hreads := h.closed p.stream hp
  simp [Arrival.reads_read] at hreads

/-- An empty read ends its output. -/
theorem of_end {p : Piece} (hp : p.bytes = []) (h : Expects ended exitCode code (.read p :: rest)) :
    Expects (p.stream :: ended) exitCode code rest := by
  obtain ⟨chunks, hchunks, hreads⟩ := h.more p.stream h.not_mem
  have hclosed : Arrival.reads p.stream rest = [] := by
    rw [Arrival.reads_read, if_pos rfl, hp] at hreads
    cases chunks with
    | nil => simpa using hreads
    | cons c cs =>
      -- a chunk is not empty, but this read is
      simp only [List.cons_append, List.nil_append, List.cons.injEq] at hreads
      simp [← hreads.1] at hchunks
  have hother {stream : Stream} (hs : stream ≠ p.stream) :
      Arrival.reads stream (.read p :: rest) = Arrival.reads stream rest := by
    rw [Arrival.reads_read, if_neg hs.symm, List.nil_append]
  refine ⟨?_, ?_, ?_⟩
  · intro stream hs
    by_cases hstream : stream = p.stream
    · rw [hstream]
      exact hclosed
    · rw [← hother hstream]
      exact h.closed stream (by simpa [hstream] using hs)
  · intro stream hs
    rw [List.mem_cons, not_or] at hs
    rw [← hother hs.1]
    exact h.more stream hs.2
  · have := h.exit
    rwa [Arrival.exits_read] at this

/-- A read that is not empty changes nothing about which outputs have ended. -/
theorem of_read {p : Piece} (hp : p.bytes ≠ []) (h : Expects ended exitCode code (.read p :: rest)) :
    Expects ended exitCode code rest := by
  refine ⟨?_, ?_, ?_⟩
  · intro stream hs
    have hreads := h.closed stream hs
    rw [Arrival.reads_read, List.append_eq_nil_iff] at hreads
    exact hreads.2
  · intro stream hs
    obtain ⟨chunks, hchunks, hreads⟩ := h.more stream hs
    rw [Arrival.reads_read] at hreads
    by_cases hstream : p.stream = stream
    · rw [if_pos hstream] at hreads
      cases chunks with
      | nil => simp [hp] at hreads
      | cons c cs =>
        simp only [List.cons_append, List.nil_append, List.cons.injEq] at hreads
        exact ⟨cs, fun hmem => hchunks (List.mem_cons_of_mem c hmem), hreads.2⟩
    · rw [if_neg hstream, List.nil_append] at hreads
      exact ⟨chunks, hchunks, hreads⟩
  · have := h.exit
    rwa [Arrival.exits_read] at this

/-- **Nothing is to come** exactly when both outputs have ended and the exit code is known. -/
theorem eq_nil_iff (h : Expects ended exitCode code rest) :
    rest = [] ↔ exitCode = some code ∧ .stdout ∈ ended ∧ .stderr ∈ ended := by
  constructor
  · rintro rfl
    have hend (stream : Stream) : stream ∈ ended := by
      refine Decidable.byContradiction fun hs => ?_
      obtain ⟨chunks, -, hreads⟩ := h.more stream hs
      simp [Arrival.reads] at hreads
    have hexit := h.exit
    cases exitCode with
    | none => simp [Arrival.exits] at hexit
    | some c => exact ⟨by simpa [Arrival.exits] using hexit, hend .stdout, hend .stderr⟩
  · rintro ⟨rfl, hout, herr⟩
    cases rest with
    | nil => rfl
    | cons a rest =>
      cases a with
      | exited c => simpa [Arrival.exits_exited] using h.exit
      | read p =>
        have hmem : p.stream ∈ ended := by
          cases p.stream
          · exact hout
          · exact herr
        exact absurd hmem h.not_mem

end Expects

/-! ## Taking reads in order -/

namespace Intake

theorem takeAll_append_of_error {i j : Intake} {ps : List Piece} {e : Session.Error} {events : List Event}
    (h : i.takeAll ps = (.error e, events, j)) (qs : List Piece) : i.takeAll (ps ++ qs) = (.error e, events, j) := by
  induction ps generalizing i events with
  | nil => cases h
  | cons p ps ih =>
    rw [takeAll] at h
    rw [List.cons_append, takeAll]
    rcases ht : i.take p with ⟨_ | ⟨⟩, es, k⟩
    · rw [ht] at h
      exact h
    · rw [ht] at h
      rcases hk : k.takeAll ps with ⟨result, more, l⟩
      simp only [hk, Prod.mk.injEq] at h
      obtain ⟨rfl, rfl, rfl⟩ := h
      simp [ih hk]

/-- Reads that can be taken, and one more. -/
theorem takeAll_concat_of_ok {i j : Intake} {ps : List Piece} {events : List Event}
    (h : i.takeAll ps = (.ok (), events, j)) (p : Piece) :
    i.takeAll (ps ++ [p]) = ((j.take p).1, events ++ (j.take p).2.1, (j.take p).2.2) := by
  induction ps generalizing i events with
  | nil =>
    obtain ⟨rfl, rfl⟩ : [] = events ∧ i = j := by simpa [takeAll] using h
    rw [List.nil_append, takeAll]
    rcases i.take p with ⟨_ | ⟨⟩, es, k⟩ <;> simp [takeAll]
  | cons q ps ih =>
    rw [takeAll] at h
    rw [List.cons_append, takeAll]
    rcases ht : i.take q with ⟨_ | ⟨⟩, es, k⟩
    · rw [ht] at h
      cases h
    · rw [ht] at h
      rcases hk : k.takeAll ps with ⟨result, more, l⟩
      simp only [hk, Prod.mk.injEq] at h
      obtain ⟨rfl, rfl, rfl⟩ := h
      simp [ih hk]

end Intake

/-! ## A build behind some arrivals -/

namespace Running

variable (cwd folder : Text) (code : Int)

/-- How far a build is that has received `begun` and is to receive `rest`. -/
inductive Reached (begun rest : List Arrival) (r : Running) : Prop where
  /-- All reads were taken, and more is to come. -/
  | waiting (stage : r.stage = .waiting)
      (taken : (start folder).intake.takeAll (Arrival.pieces begun) = (.ok (), r.events, r.intake))
      (expects : Expects r.ended r.exitCode code rest) (more : rest ≠ [])
  /-- A read could not be taken. -/
  | stopped (e : Session.Error) (i : Intake) (stage : r.stage = .stopped e)
      (taken : (start folder).intake.takeAll (Arrival.pieces begun) = (.error e, r.events, i))
  /-- All reads were taken, nothing is to come, and the session has given its result. -/
  | finished (events : List Event) (i : Intake) (stage : r.stage = .finished (i.finish cwd folder code).1)
      (taken : (start folder).intake.takeAll (Arrival.pieces begun) = (.ok (), events, i))
      (told : r.events = events ++ (i.finish cwd folder code).2) (last : rest = [])

variable {cwd folder code}

/-- A build that waits goes on exactly when nothing is to come. -/
theorem reached_proceed {begun rest : List Arrival} {r : Running} (stage : r.stage = .waiting)
    (taken : (start folder).intake.takeAll (Arrival.pieces begun) = (.ok (), r.events, r.intake))
    (expects : Expects r.ended r.exitCode code rest) :
    Reached cwd folder code begun rest (r.proceed cwd folder) := by
  by_cases hrest : rest = []
  · obtain ⟨hexit, hends⟩ := expects.eq_nil_iff.1 hrest
    have hgo : r.proceed cwd folder = { r with
        events := r.events ++ (r.intake.finish cwd folder code).2
        stage := .finished (r.intake.finish cwd folder code).1 } := by
      simp [proceed, hexit, hends]
    rw [hgo]
    exact .finished r.events r.intake rfl taken rfl hrest
  · have hstay : r.proceed cwd folder = r := by
      unfold proceed
      split
      · rfl
      · rename_i c hc
        refine if_neg fun hends => hrest (expects.eq_nil_iff.2 ⟨?_, hends⟩)
        have hexit := expects.exit
        rw [hc] at hexit ⊢
        simp only [Option.toList_some, List.singleton_append, List.cons.injEq] at hexit
        rw [hexit.1]
    rw [hstay]
    exact .waiting stage taken expects hrest

/-- **One arrival.** -/
theorem Reached.receive {begun rest : List Arrival} {a : Arrival} {r : Running}
    (h : Reached cwd folder code begun (a :: rest) r) :
    Reached cwd folder code (begun ++ [a]) rest (r.receive cwd folder a) := by
  cases h with
  | finished events i stage taken told last => cases last
  | stopped e i stage taken =>
    have hstay : r.receive cwd folder a = r := by simp [Running.receive, stage]
    rw [hstay]
    refine .stopped e i stage ?_
    rw [Arrival.pieces_append]
    exact Intake.takeAll_append_of_error taken _
  | waiting stage taken expects more =>
    cases a with
    | exited c =>
      have hgo : r.receive cwd folder (.exited c) = { r with exitCode := some c }.proceed cwd folder := by
        simp [Running.receive, stage]
      have hpieces : Arrival.pieces (begun ++ [.exited c]) = Arrival.pieces begun := by simp [Arrival.pieces]
      rw [hgo]
      exact reached_proceed stage (by rw [hpieces]; exact taken) expects.of_exit.2
    | read p =>
      have hopen := expects.not_mem
      by_cases hp : p.bytes = []
      · have hgo : r.receive cwd folder (.read p) = { r with ended := p.stream :: r.ended }.proceed cwd folder := by
          simp [Running.receive, stage, hopen, hp]
        have hpieces : Arrival.pieces (begun ++ [.read p]) = Arrival.pieces begun := by
          rw [Arrival.pieces_append, Arrival.pieces_read, if_pos hp, List.append_nil]
        rw [hgo]
        exact reached_proceed stage (by rw [hpieces]; exact taken) (expects.of_end hp)
      · have hpieces : Arrival.pieces (begun ++ [.read p]) = Arrival.pieces begun ++ [p] := by
          rw [Arrival.pieces_append, Arrival.pieces_read, if_neg hp]
        have htaken := Intake.takeAll_concat_of_ok taken p
        rw [← hpieces] at htaken
        have hrest := expects.of_read hp
        rcases ht : r.intake.take p with ⟨e | ⟨⟩, events, i⟩
        · rw [ht] at htaken
          exact .stopped e i (by simp [Running.receive, stage, hopen, hp, ht])
            (by simpa [Running.receive, stage, hopen, hp, ht] using htaken)
        · rw [ht] at htaken
          have hmore : rest ≠ [] := by
            intro hnil
            exact hopen (by cases p.stream <;> simp [(hrest.eq_nil_iff.1 hnil).2])
          refine .waiting ?_ ?_ ?_ hmore
          · simp [Running.receive, stage, hopen, hp, ht]
          · simpa [Running.receive, stage, hopen, hp, ht] using htaken
          · simpa [Running.receive, stage, hopen, hp, ht] using hrest

/-- **Many arrivals.** -/
theorem Reached.receiveAll {begun as rest : List Arrival} {r : Running}
    (h : Reached cwd folder code begun (as ++ rest) r) :
    Reached cwd folder code (begun ++ as) rest (r.receiveAll cwd folder as) := by
  induction as generalizing begun r with
  | nil => simpa [Running.receiveAll] using h
  | cons a as ih => simpa [Running.receiveAll] using ih h.receive

end Running

namespace Schedule

variable {output : Stream → Bytes} {code : Int} (s : Schedule output code) (cwd folder : Text)

/-- A build is as far as the arrivals that it has received. -/
theorem reached {begun rest : List Arrival} (h : begun ++ rest = s.arrivals) :
    Running.Reached cwd folder code begun rest ((Running.start folder).receiveAll cwd folder begun) := by
  have hstart : Running.Reached cwd folder code [] (begun ++ rest) (Running.start folder) := by
    refine .waiting rfl rfl ⟨?_, ?_, ?_⟩ ?_
    · intro stream hs
      cases hs
    · intro stream _
      exact ⟨s.chunks stream, s.chunks_ne_nil stream, by rw [h]; exact s.reads_eq stream⟩
    · rw [h]
      exact s.exits_eq
    · intro hnil
      rw [hnil] at h
      have hexit := s.exits_eq
      rw [← h] at hexit
      cases hexit
  exact hstart.receiveAll

/-- **In the end** a schedule gives what its reads give when they are taken in order. -/
theorem run_eq_complete : s.result? cwd folder =
      some (Intake.complete cwd folder ⟨streaming folder, .start⟩ (Arrival.pieces s.arrivals) code).1 ∧
    (s.run cwd folder).events =
      (Intake.complete cwd folder ⟨streaming folder, .start⟩ (Arrival.pieces s.arrivals) code).2 := by
  have h : Running.Reached cwd folder code s.arrivals [] (s.run cwd folder) :=
    s.reached cwd folder (List.append_nil s.arrivals)
  have hstart : (Running.start folder).intake = ⟨streaming folder, .start⟩ := rfl
  unfold result? Running.result? Intake.complete
  cases h with
  | waiting stage taken expects more => exact absurd rfl more
  | stopped e i stage taken =>
    rw [hstart] at taken
    rw [stage, taken]
    exact ⟨rfl, rfl⟩
  | finished events i stage taken told last =>
    rw [hstart] at taken
    rw [stage, told, taken]
    exact ⟨rfl, rfl⟩

end Schedule

end ContractBuild.Cargo
