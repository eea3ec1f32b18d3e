import ContractBuild.Proofs.Arrivals
import ContractBuild.Proofs.Completion
import ContractBuild.Proofs.FirstSeen

/-!
# All orders of arrival give one outcome

The two outputs of a program share a session, and with it the list of hints. Their lines come interleaved, so two orders
of arrival differ in which line is handled when; but each output has the lines of its bytes in any order
(`Schedule.select_lines`), and what is made of the lines of both outputs only depends on their interleaving in the order
of the hints (`batch_agree`).

* `Schedule.result?_eq_batch`: a schedule gives the outcome of the batch of its lines.
* `Program.schedule`: the reads of a program are a schedule, and a build has its result (`build_result`).
* `Schedule.results_agree`: the session is ended behind the last read, and all schedules agree.
-/

namespace ContractBuild

/-! ## Lines in another order -/

/-- What is on the outputs, one after the other, is all that there is. -/
theorem Stream.tag_select_perm {α : Type} (xs : List (Stream × α)) :
    (Stream.stdout.tag (Stream.stdout.select xs) ++ Stream.stderr.tag (Stream.stderr.select xs)).Perm xs := by
  induction xs with
  | nil => exact .refl []
  | cons x xs ih =>
    obtain ⟨stream, a⟩ := x
    cases stream with
    | stdout => simpa [tag] using ih
    | stderr =>
      have hmiddle : (Stream.stdout.tag (Stream.stdout.select xs) ++
            (Stream.stderr, a) :: Stream.stderr.tag (Stream.stderr.select xs)).Perm
          ((Stream.stderr, a) :: (Stream.stdout.tag (Stream.stdout.select xs) ++
            Stream.stderr.tag (Stream.stderr.select xs))) := List.perm_middle
      simpa [tag] using hmiddle.trans (ih.cons _)

/-- What has the same on each output is the same up to order. -/
theorem Stream.perm_of_select {α : Type} {xs ys : List (Stream × α)}
    (h : ∀ stream : Stream, stream.select xs = stream.select ys) : xs.Perm ys := by
  have hxs := tag_select_perm xs
  rw [h, h] at hxs
  exact hxs.symm.trans (tag_select_perm ys)

/-- Every hint is there once. -/
theorem hintsOf_nodup (lines : List (Stream × Text)) : (hintsOf lines).Nodup := eraseDups_nodup _

/-- The hints of lines in another order are the same up to order. -/
theorem hintsOf_perm {ls ks : List (Stream × Text)} (h : ls.Perm ks) : (hintsOf ls).Perm (hintsOf ks) := by
  rw [List.perm_ext_iff_of_nodup (hintsOf_nodup ls) (hintsOf_nodup ks)]
  intro t
  unfold hintsOf
  rw [List.mem_eraseDups, List.mem_eraseDups]
  exact ((h.filterMap Reading.hint?).map Toolchain.Hint.message).mem_iff

/-- Outcomes that differ at most in the order of their hints, each of which is there once. -/
structure Outcome.Agrees (o o' : Outcome) : Prop where
  success : o.success = o'.success
  exitCode : o.exitCode = o'.exitCode
  artifact : o.artifact = o'.artifact
  diagnostics : o.diagnostics = o'.diagnostics
  hints : o.toolchainErrors.Perm o'.toolchainErrors
  once : o.toolchainErrors.Nodup ∧ o'.toolchainErrors.Nodup

/-- **The interleaving of the outputs** only decides the order of the hints. -/
theorem batch_agree (criteria : Artifact.Criteria) (cwd projectDir : Text) {ls ks : List (Stream × Text)}
    (h : ∀ stream : Stream, stream.select ls = stream.select ks) (exitCode : Int) :
    (∃ e, (Stream.stdout.select ls).findSome? Reading.fault? = some e ∧
        batch criteria cwd projectDir ls exitCode = .error e ∧ batch criteria cwd projectDir ks exitCode = .error e) ∨
      ∃ o o', batch criteria cwd projectDir ls exitCode = .ok o ∧ batch criteria cwd projectDir ks exitCode = .ok o' ∧
        o.Agrees o' := by
  unfold batch
  rw [← h .stdout]
  cases hm : (Stream.stdout.select ls).mapM Reading.ofLine with
  | error e => exact .inl ⟨e, Reading.mapM_error_iff.1 hm, rfl, rfl⟩
  | ok rs =>
    refine .inr ⟨_, _, rfl, rfl, ?_⟩
    exact {
      success := rfl
      exitCode := rfl
      artifact := rfl
      diagnostics := rfl
      hints := hintsOf_perm (Stream.perm_of_select h)
      once := ⟨hintsOf_nodup ls, hintsOf_nodup ks⟩ }

/-- The lines of an output that sends some bytes. -/
def LineBuffer.linesOf (bs : Bytes) : List Text := Text.trimmed (Text.pieces (Utf8.decodeLettingGo bs))

/-- A read as a chunk for a session. -/
def Piece.chunk (p : Piece) : Stream × Chunk := (p.stream, .bytes p.bytes)

namespace Cargo

/-! ## What a session makes of reads -/

namespace Intake

/-- Reads are taken as chunks of the session. -/
theorem takeAll_session (i : Intake) (ps : List Piece) :
    (i.takeAll ps).1 = (i.session.feedAll (ps.map Piece.chunk)).1 ∧
      (i.takeAll ps).2.2.session = (i.session.feedAll (ps.map Piece.chunk)).2 := by
  induction ps generalizing i with
  | nil => exact ⟨rfl, rfl⟩
  | cons p ps ih =>
    have htake : (i.take p).1 = (i.session.feed p.stream (.bytes p.bytes)).1 ∧
        (i.take p).2.2.session = (i.session.feed p.stream (.bytes p.bytes)).2 := ⟨rfl, rfl⟩
    rw [List.map_cons, Piece.chunk, takeAll, Session.feedAll]
    rcases ht : i.take p with ⟨result, events, j⟩
    rw [ht] at htake
    obtain ⟨hresult, hsession⟩ : result = _ ∧ j.session = _ := htake
    rcases hf : i.session.feed p.stream (.bytes p.bytes) with ⟨_ | ⟨⟩, s⟩
    · rw [hf] at hresult hsession
      subst hresult
      exact ⟨rfl, hsession⟩
    · rw [hf] at hresult hsession
      subst hresult hsession
      exact ih j

/-- **Taking reads and ending the build** has the result of the session. -/
theorem complete_result (cwd folder : Text) (i : Intake) (ps : List Piece) (code : Int) :
    (complete cwd folder i ps code).1 = (i.session.complete cwd (ps.map Piece.chunk) code).1.map Prod.fst := by
  obtain ⟨hresult, hsession⟩ := i.takeAll_session ps
  unfold complete Session.complete
  rcases hf : i.session.feedAll (ps.map Piece.chunk) with ⟨_ | ⟨⟩, s⟩
  · rcases ht : i.takeAll ps with ⟨result, events, j⟩
    rw [hf, ht] at hresult
    cases hresult
    rfl
  · rcases ht : i.takeAll ps with ⟨result, events, j⟩
    rw [hf, ht] at hresult hsession
    cases hresult
    cases hsession
    simp only [finish]
    rcases j.session.finalize cwd code with ⟨_ | ⟨o, records⟩, s'⟩ <;> rfl

end Intake

namespace Arrival

/-- What has arrived of an output is what its reads give together. -/
theorem gather_pieces (stream : Stream) (as : List Arrival) :
    Piece.gather stream (pieces as) = (reads stream as).flatten := by
  induction as with
  | nil => rfl
  | cons a as ih =>
    cases a with
    | exited code => simpa [pieces, reads] using ih
    | read p =>
      rw [reads_read, List.flatten_append, ← ih]
      by_cases hp : p.bytes = [] <;> by_cases hs : p.stream = stream <;> simp [pieces, Piece.gather, hp, hs]

/-- The chunks of an output are its reads that are not empty. -/
theorem select_pieces (stream : Stream) (as : List Arrival) :
    stream.select ((pieces as).map Piece.chunk) = ((reads stream as).filter (· ≠ [])).map .bytes := by
  induction as with
  | nil => rfl
  | cons a as ih =>
    cases a with
    | exited code => simpa [pieces, reads] using ih
    | read p =>
      rw [reads_read, List.filter_append, List.map_append, ← ih]
      by_cases hp : p.bytes = [] <;> by_cases hs : p.stream = stream <;> simp [pieces, Piece.chunk, hp, hs]

end Arrival

/-! ## What a schedule gives -/

namespace Schedule

variable {output : Stream → Bytes} {code : Int} (s : Schedule output code)

/-- The lines of both outputs, in the order in which they are handled. -/
def lines : List (Stream × Text) := handled ((Arrival.pieces s.arrivals).map Piece.chunk)

/-- **Each output has the lines of its bytes**, whatever its reads are and whatever comes between them. -/
theorem select_lines (stream : Stream) : stream.select s.lines = LineBuffer.linesOf (output stream) := by
  have hchunks : (Arrival.reads stream s.arrivals).filter (· ≠ []) = s.chunks stream := by
    have hall : ∀ c ∈ s.chunks stream, decide (c ≠ []) = true := by
      intro c hc
      exact decide_eq_true fun h => s.chunks_ne_nil stream (h ▸ hc)
    rw [s.reads_eq, List.filter_append, List.filter_eq_self.2 hall]
    simp
  have hrun := select_handled stream ((Arrival.pieces s.arrivals).map Piece.chunk)
  rw [Arrival.select_pieces, hchunks, LineBuffer.run_bytes_lettingGo, s.chunks_flatten] at hrun
  exact (Except.ok.inj hrun).symm

/-- A schedule gives the outcome of the batch of its lines. -/
theorem result?_eq_batch (cwd folder : Text) :
    s.result? cwd folder = some ((batch Artifact.contract cwd folder s.lines code).mapError .message) := by
  rw [(s.run_eq_complete cwd folder).1, Intake.complete_result, lines, ← Session.run_outcome]
  rfl

/-- **A finished build has taken everything**: its result is what the session gives at its end, behind all bytes of both
outputs. -/
theorem taken_of_finished (cwd folder : Text) {begun rest : List Arrival} (h : begun ++ rest = s.arrivals)
    {result : Except Session.Error Outcome}
    (hstage : ((Running.start folder).receiveAll cwd folder begun).stage = .finished result) :
    (∀ stream, Piece.gather stream (Arrival.pieces begun) = output stream) ∧
      ∃ events i, (Running.start folder).intake.takeAll (Arrival.pieces begun) = (.ok (), events, i) ∧
        result = (i.session.finalize cwd code).1.map Prod.fst := by
  cases s.reached cwd folder h with
  | waiting stage taken expects more =>
    rw [stage] at hstage
    cases hstage
  | stopped e i stage taken =>
    rw [stage] at hstage
    cases hstage
  | finished events i stage taken told last =>
    rw [last, List.append_nil] at h
    rw [stage, Stage.finished.injEq] at hstage
    refine ⟨fun stream => ?_, events, i, taken, ?_⟩
    · rw [Arrival.gather_pieces, h, s.reads_eq, List.flatten_append, s.chunks_flatten]
      simp
    · rw [← hstage, Intake.finish]
      rcases i.session.finalize cwd code with ⟨_ | ⟨o, records⟩, s'⟩ <;> rfl

end Schedule

end Cargo

/-! ## The reads of a program -/

namespace Piece

theorem flatten_runs (n : Nat) (bs : Bytes) : (runs n bs).flatten = bs := by
  fun_induction runs n bs with
  | case1 => rfl
  | case2 b bs ih => simp [ih]

theorem nil_not_mem_runs (n : Nat) (bs : Bytes) : [] ∉ runs n bs := by
  fun_induction runs n bs with
  | case1 => simp
  | case2 b bs ih => simp [ih]

theorem gather_append (stream : Stream) (ps qs : List Piece) :
    gather stream (ps ++ qs) = gather stream ps ++ gather stream qs := by
  simp [gather]

theorem gather_cut (stream : Stream) (n : Nat) (p : Piece) : gather stream (p.cut n) = gather stream [p] := by
  by_cases h : p.stream = stream <;> simp [gather, cut, h, List.flatMap_map, flatten_runs]

end Piece

namespace Program

/-- The reads of a program are all that it writes. -/
theorem gather_reads (p : Program) (stream : Stream) {size : Int} (hsize : size ≠ 0) :
    Piece.gather stream (p.reads size) = p.output stream := by
  unfold reads
  split
  · by_cases ho : p.output .stdout = [] <;> by_cases he : p.output .stderr = [] <;> cases stream <;>
      simp [Piece.gather, ho, he]
  · rw [output]
    induction p.writes with
    | nil => rfl
    | cons w ws ih =>
      rw [List.flatMap_cons, Piece.gather_append, Piece.gather_cut, ih, ← Piece.gather_append, List.singleton_append]

theorem reads_ne_nil (p : Program) (size : Int) : ∀ q ∈ p.reads size, q.bytes ≠ [] := by
  intro q hq
  unfold reads at hq
  split at hq
  · exact of_decide_eq_true (List.mem_filter.1 hq).2
  · split at hq
    · cases hq
    · obtain ⟨w, -, hw⟩ := List.mem_flatMap.1 hq
      obtain ⟨bs, hbs, rfl⟩ := List.mem_map.1 hw
      intro h
      have hnil : bs = [] := h
      rw [hnil] at hbs
      exact Piece.nil_not_mem_runs _ _ hbs

/-- The reads of a program, then the ends of its outputs and its exit code. -/
def arrivals (p : Program) (size : Int) : List Cargo.Arrival :=
  (p.reads size).map .read ++ [.read ⟨.stdout, []⟩, .read ⟨.stderr, []⟩, .exited p.exitCode]

theorem pieces_arrivals (p : Program) (size : Int) : Cargo.Arrival.pieces (p.arrivals size) = p.reads size := by
  have hpieces : Cargo.Arrival.pieces ((p.reads size).map .read) = p.reads size := by
    have hne := p.reads_ne_nil size
    generalize p.reads size = qs at hne
    induction qs with
    | nil => rfl
    | cons q qs ih =>
      have hqs := ih fun r hr => hne r (List.mem_cons_of_mem q hr)
      rw [List.map_cons, ← List.singleton_append, Cargo.Arrival.pieces_append, Cargo.Arrival.pieces_read,
        if_neg (hne q List.mem_cons_self), hqs, List.singleton_append]
  rw [arrivals, Cargo.Arrival.pieces_append, hpieces]
  exact List.append_nil _

theorem reads_arrivals (p : Program) (size : Int) (stream : Stream) :
    Cargo.Arrival.reads stream (p.arrivals size) =
      Cargo.Arrival.reads stream ((p.reads size).map .read) ++ [[]] := by
  cases stream <;> simp [arrivals, Cargo.Arrival.reads]

/-- **The reads of a program** are a schedule of its output. -/
def schedule (p : Program) {size : Int} (hsize : size ≠ 0) : Cargo.Schedule p.output p.exitCode where
  arrivals := p.arrivals size
  chunks stream := Cargo.Arrival.reads stream ((p.reads size).map .read)
  chunks_ne_nil stream hmem := by
    obtain ⟨a, ha, hread⟩ := List.mem_filterMap.1 hmem
    obtain ⟨q, hq, rfl⟩ := List.mem_map.1 ha
    by_cases hs : q.stream = stream
    · exact p.reads_ne_nil size q hq (by simpa [hs] using hread)
    · simp [hs] at hread
  chunks_flatten stream := by
    have hgather := Cargo.Arrival.gather_pieces stream (p.arrivals size)
    rw [p.pieces_arrivals, p.gather_reads stream hsize, p.reads_arrivals, List.flatten_append] at hgather
    simpa using hgather.symm
  reads_eq := p.reads_arrivals size
  exits_eq := by simp [arrivals, Cargo.Arrival.exits]

end Program

namespace Cargo

/-- A build whose program starts has the result of any schedule with the same reads. -/
theorem build_result_of_reads (c : Cargo) (m : Machine) {folder command : Text} {run : Machine.Run}
    (hcommand : c.command = .text command) (hstart : m.start folder command buildArguments = .ok run)
    {output : Stream → Bytes} (s : Schedule output run.program.exitCode)
    (hreads : Arrival.pieces s.arrivals = run.program.reads c.chunkSize) :
    (s.result? m.cwd folder).map (·.mapError .session) = some (build c m folder).result := by
  rw [(s.run_eq_complete m.cwd folder).1, hreads, build, hcommand]
  simp [hstart, watch]

/-- **A build whose program starts** has the result of a schedule. -/
theorem build_result (c : Cargo) (m : Machine) {folder command : Text} {run : Machine.Run}
    (hcommand : c.command = .text command) (hstart : m.start folder command buildArguments = .ok run)
    (hsize : c.chunkSize ≠ 0) :
    ((run.program.schedule hsize).result? m.cwd folder).map (·.mapError .session) = some (build c m folder).result :=
  build_result_of_reads c m hcommand hstart (run.program.schedule hsize) (run.program.pieces_arrivals c.chunkSize)

namespace Schedule

variable {output : Stream → Bytes} {code : Int}

/-- **All schedules of a program agree.** A build is finished, with the result of its session, only when all bytes of
both outputs have been taken. Two schedules of the same outputs and exit code either both give the error of the first
line of standard output that cannot be read, or both give an outcome, and the outcomes agree. A build that is run is one
of the schedules of its program. -/
theorem results_agree (cwd folder : Text) (a b : Schedule output code) :
    (∀ begun rest result, begun ++ rest = a.arrivals →
      ((Running.start folder).receiveAll cwd folder begun).stage = .finished result →
      (∀ stream, Piece.gather stream (Arrival.pieces begun) = output stream) ∧
        ∃ events i, (Running.start folder).intake.takeAll (Arrival.pieces begun) = (.ok (), events, i) ∧
          result = (i.session.finalize cwd code).1.map Prod.fst) ∧
    ((∃ e, (LineBuffer.linesOf (output .stdout)).findSome? Reading.fault? = some e ∧
        a.result? cwd folder = some (.error (.message e)) ∧ b.result? cwd folder = some (.error (.message e))) ∨
      ∃ o o', a.result? cwd folder = some (.ok o) ∧ b.result? cwd folder = some (.ok o') ∧ o.Agrees o') ∧
    (∀ (c : Cargo) (m : Machine) (command : Text) (run : Machine.Run), c.command = .text command →
      m.start folder command buildArguments = .ok run → c.chunkSize ≠ 0 → m.cwd = cwd →
      run.program.output = output → run.program.exitCode = code →
      ∃ s : Schedule output code,
        (s.result? cwd folder).map (·.mapError .session) = some (build c m folder).result) := by
  refine ⟨?_, ?_, ?_⟩
  · intro begun rest result h hstage
    exact a.taken_of_finished cwd folder h hstage
  · have hlines (stream : Stream) : stream.select a.lines = stream.select b.lines := by
      rw [a.select_lines, b.select_lines]
    rw [a.result?_eq_batch, b.result?_eq_batch, ← a.select_lines]
    rcases batch_agree Artifact.contract cwd folder hlines code with ⟨e, hfault, ha, hb⟩ | ⟨o, o', ha, hb, hagree⟩
    · exact .inl ⟨e, hfault, by rw [ha]; rfl, by rw [hb]; rfl⟩
    · exact .inr ⟨o, o', by rw [ha]; rfl, by rw [hb]; rfl, hagree⟩
  · rintro c m command run hcommand hstart hsize rfl rfl rfl
    exact ⟨run.program.schedule hsize, build_result c m hcommand hstart hsize⟩

/-- A program that complains about one command on each output. -/
def complaining : Program where
  writes := [⟨.stdout, Utf8.encode ("no such command a\n" : Text)⟩,
    ⟨.stderr, Utf8.encode ("no such command b\n" : Text)⟩]
  exitCode := 101
  seconds := (0, 1)

/-- The other output. -/
def otherThan : Stream → Stream
  | .stdout => .stderr
  | .stderr => .stdout

/-- One output is received to its end, then the exit code, and then the other output in two reads. -/
def oneByOne (first : Stream) : Schedule complaining.output 101 where
  arrivals := [.read ⟨first, complaining.output first⟩, .read ⟨first, []⟩, .exited 101,
    .read ⟨otherThan first, (complaining.output (otherThan first)).take 5⟩,
    .read ⟨otherThan first, (complaining.output (otherThan first)).drop 5⟩, .read ⟨otherThan first, []⟩]
  chunks stream :=
    if stream = first then [complaining.output stream]
    else [(complaining.output stream).take 5, (complaining.output stream).drop 5]
  chunks_ne_nil stream := by cases first <;> cases stream <;> decide
  chunks_flatten stream := by cases first <;> cases stream <;> decide
  reads_eq stream := by cases first <;> cases stream <;> decide
  exits_eq := rfl

/-- A machine where that program is cargo. -/
def complainingMachine : Machine := ⟨⟨[(["p"], .folder), (["c"], .file [] (some complaining))]⟩, "/", [], []⟩

/-- The two complaints received in either order, and by a build: the outcomes agree, and the hints are told in another
order. -/
theorem results_agree_one_by_one :
    let a := oneByOne .stdout
    let b := oneByOne .stderr
    (∃ result, (a.run "/" "/p").stage = .finished result ∧
      ∀ stream, Piece.gather stream (Arrival.pieces a.arrivals) = complaining.output stream) ∧
    (∃ o o', a.result? "/" "/p" = some (.ok o) ∧ b.result? "/" "/p" = some (.ok o') ∧ o.Agrees o' ∧
      o.toolchainErrors ≠ o'.toolchainErrors) ∧
    ∃ s : Schedule complaining.output 101, (s.result? "/" "/p").map (·.mapError .session) =
      some (build ⟨.text "/c", 4096, .null⟩ complainingMachine "/p").result := by
  intro a b
  obtain ⟨htaken, hresults, hbuild⟩ := results_agree "/" "/p" a b
  refine ⟨?_, ?_, ?_⟩
  · have hfinished : (match (a.run "/" "/p").stage with | .finished _ => true | _ => false) = true := by
      decide +kernel
    cases hstage : (a.run "/" "/p").stage with
    | waiting => rw [hstage] at hfinished; cases hfinished
    | stopped e => rw [hstage] at hfinished; cases hfinished
    | finished result => exact ⟨result, rfl, (htaken a.arrivals [] result (List.append_nil _) hstage).1⟩
  · have hnone : (LineBuffer.linesOf (complaining.output .stdout)).findSome? Reading.fault? = none := by
      decide +kernel
    have hhints : (a.result? "/" "/p").map (·.map Outcome.toolchainErrors) ≠
        (b.result? "/" "/p").map (·.map Outcome.toolchainErrors) := by
      decide +kernel
    rw [hnone] at hresults
    obtain ⟨e, hfault, -⟩ | ⟨o, o', ho, ho', hagree⟩ := hresults
    · cases hfault
    · rw [ho, ho'] at hhints
      exact ⟨o, o', ho, ho', hagree, fun h => hhints (by simp [Except.map, h])⟩
  · exact hbuild _ _ _ _ rfl rfl (by decide) rfl rfl rfl

end Schedule

end Cargo

end ContractBuild
