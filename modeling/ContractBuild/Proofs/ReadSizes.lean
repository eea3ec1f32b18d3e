import ContractBuild.Cargo.Pump
import ContractBuild.Proofs.Schedules

/-!
# The size of a read

Both outputs of a program are read with one size, which the settings give. Any size but zero reads all of an output
(`Pump.chunks`), so the outcome is the same for all of them up to the order of the hints. With a size of zero nothing is
read at all, and the outcome is that of a program that writes nothing.

* `Reception.schedule`: a reception is a schedule of what is read (`received`).
* `Program.reception`: the reads of a program are a reception for every size, and a build has its result
  (`build_eq_reception`).
* `Reception.same_as_default_iff`: when a size gives what the default gives.
-/

namespace ContractBuild

/-- The outcome of a build whose program writes nothing. -/
def Outcome.silent (code : Int) : Outcome := ⟨code = 0, none, .empty, [], some code⟩

namespace Cargo

/-! ## One output -/

/-- What is read of an output with a size. -/
def received (size : Int) (output : Bytes) : Bytes := if size = 0 then [] else output

variable {size : Int} {rest got left : Bytes}

/-- What a read gives is taken from what was to come. -/
theorem Read.append_eq (h : Read size rest got left) : got ++ left = rest := by
  cases h with
  | some | ended | nothing => rfl
  | everything => exact List.append_nil rest

/-- A read of another size than zero is empty at the end only. -/
theorem Read.eq_nil_of_ne_zero (h : Read size rest [] left) (hsize : size ≠ 0) : rest = [] := by
  cases h with
  | some _ nonempty => exact absurd rfl nonempty
  | ended | everything => rfl
  | nothing zero => exact absurd zero hsize

/-- A read of size zero is empty. -/
theorem Read.eq_nil_of_zero (h : Read size rest got left) (hsize : size = 0) : got = [] := by
  cases h with
  | some positive => omega
  | ended | nothing => rfl
  | everything negative => omega

/-- **The reads of an output**, up to the one that stops the loop, are what is received of it. -/
theorem Pump.chunks {reads : List Bytes} (h : Pump size rest reads) :
    ∃ chunks, reads = chunks ++ [[]] ∧ [] ∉ chunks ∧ chunks.flatten = received size rest := by
  induction h with
  | stop read =>
    refine ⟨[], rfl, List.not_mem_nil, ?_⟩
    rw [received]
    split
    · rfl
    · rename_i hsize
      rw [read.eq_nil_of_ne_zero hsize]
      rfl
  | @next rest got left reads read nonempty more ih =>
    have hsize : size ≠ 0 := fun hsize => nonempty (read.eq_nil_of_zero hsize)
    obtain ⟨chunks, rfl, hne, hflat⟩ := ih
    refine ⟨got :: chunks, rfl, ?_, ?_⟩
    · rw [List.mem_cons, not_or]
      exact ⟨nonempty.symm, hne⟩
    · rw [List.flatten_cons, hflat, received, received, if_neg hsize, if_neg hsize, read.append_eq]

/-- Chunks of a positive size are reads of what they are together. -/
theorem Pump.of_chunks (hsize : 0 < size) {chunks : List Bytes} (hne : [] ∉ chunks)
    (hbound : ∀ c ∈ chunks, (c.length : Int) ≤ size) : Pump size chunks.flatten (chunks ++ [[]]) := by
  induction chunks with
  | nil => exact .stop (.ended hsize)
  | cons c chunks ih =>
    rw [List.mem_cons, not_or] at hne
    rw [List.forall_mem_cons] at hbound
    have hread : Read size (c ++ chunks.flatten) c chunks.flatten := .some hsize (Ne.symm hne.1) hbound.1
    exact .next hread (Ne.symm hne.1) (ih hne.2 hbound.2)

/-- An output is read to its end by one read of a negative size, or by none when it is empty. -/
theorem Pump.of_negative (hsize : size < 0) (output : Bytes) :
    Pump size output ([output].filter (· ≠ []) ++ [[]]) := by
  by_cases h : output = []
  · subst h
    exact .stop (.everything hsize)
  · have hfilter : [output].filter (· ≠ []) = [output] := List.filter_eq_self.2 (by simpa using h)
    rw [hfilter]
    exact .next (.everything hsize) h (.stop (.everything hsize))

/-! ## Both outputs -/

/-- Two ends of a build that differ at most in the order of the hints. -/
def SameResult (a b : Option (Except Session.Error Outcome)) : Prop :=
  (∃ e, a = some (.error e) ∧ b = some (.error e)) ∨ ∃ o o', a = some (.ok o) ∧ b = some (.ok o') ∧ o.Agrees o'

namespace Schedule

variable {output output' : Stream → Bytes} {code : Int}

/-- Schedules of the same outputs give the same. -/
theorem sameResult (a : Schedule output code) (b : Schedule output' code) (h : ∀ stream, output stream = output' stream)
    (cwd folder : Text) : SameResult (a.result? cwd folder) (b.result? cwd folder) := by
  have hlines (stream : Stream) : stream.select a.lines = stream.select b.lines := by
    rw [a.select_lines, b.select_lines, h]
  rw [a.result?_eq_batch, b.result?_eq_batch]
  rcases batch_agree Artifact.contract cwd folder hlines code with ⟨e, -, ha, hb⟩ | ⟨o, o', ha, hb, hagree⟩
  · exact .inl ⟨.message e, by rw [ha]; rfl, by rw [hb]; rfl⟩
  · exact .inr ⟨o, o', by rw [ha]; rfl, by rw [hb]; rfl, hagree⟩

/-- A schedule of a program that writes nothing. -/
theorem result?_of_silent (s : Schedule output code) (h : ∀ stream, output stream = []) (cwd folder : Text) :
    s.result? cwd folder = some (.ok (.silent code)) := by
  have hlines : s.lines = [] := by
    refine List.perm_nil.1 (Stream.perm_of_select fun stream => ?_)
    rw [s.select_lines, h]
    rfl
  rw [s.result?_eq_batch, hlines, Outcome.silent]
  by_cases hcode : code = 0 <;> simp [batch, hintsOf, hcode] <;> rfl

end Schedule

/-- What agrees with the outcome of a program that writes nothing is that outcome. -/
theorem SameResult.eq_silent {code : Int} {b : Option (Except Session.Error Outcome)}
    (h : SameResult (some (.ok (.silent code))) b) : b = some (.ok (.silent code)) := by
  obtain ⟨e, he, -⟩ | ⟨o, o', ho, rfl, hagree⟩ := h
  · cases he
  · cases ho
    obtain ⟨success, exitCode, artifact, diagnostics, hints, -⟩ := hagree
    have hnone : o'.toolchainErrors = [] := List.nil_perm.1 hints
    cases o'
    simp_all [Outcome.silent]

namespace Reception

variable {output : Stream → Bytes} {code : Int}

/-- **A reception is a schedule** of what is received. -/
def schedule (r : Reception size output code) : Schedule (fun stream => received size (output stream)) code where
  arrivals := r.arrivals
  chunks stream := (Arrival.reads stream r.arrivals).dropLast
  chunks_ne_nil stream := by
    obtain ⟨chunks, hreads, hne, -⟩ := (r.pumped stream).chunks
    rw [hreads, List.dropLast_concat]
    exact hne
  chunks_flatten stream := by
    obtain ⟨chunks, hreads, -, hflat⟩ := (r.pumped stream).chunks
    rw [hreads, List.dropLast_concat]
    exact hflat
  reads_eq stream := by
    obtain ⟨chunks, hreads, -, -⟩ := (r.pumped stream).chunks
    rw [hreads, List.dropLast_concat]
  exits_eq := r.exits_eq

/-- With a size of zero the program seems to write nothing. -/
theorem result?_of_zero (r : Reception size output code) (hsize : size = 0) (cwd folder : Text) :
    r.result? cwd folder = some (.ok (.silent code)) :=
  r.schedule.result?_of_silent (fun _ => if_pos hsize) cwd folder

/-- All sizes but zero give the same. -/
theorem sameResult {size' : Int} (r : Reception size output code) (r' : Reception size' output code) (hsize : size ≠ 0)
    (hsize' : size' ≠ 0) (cwd folder : Text) : SameResult (r.result? cwd folder) (r'.result? cwd folder) :=
  r.schedule.sameResult r'.schedule (fun _ => (if_neg hsize).trans (if_neg hsize').symm) cwd folder

end Reception

end Cargo

/-! ## The reads of a program -/

theorem Piece.length_of_mem_runs {n : Nat} {bs c : Bytes} (h : c ∈ runs n bs) : c.length ≤ n + 1 := by
  fun_induction runs n bs with
  | case1 => cases h
  | case2 b bs ih =>
    rcases List.mem_cons.1 h with rfl | h
    · exact Nat.succ_le_succ (List.length_take_le n bs)
    · exact ih h

namespace Program

variable {size : Int}

/-- The reads of a program are not longer than what was asked for. -/
theorem length_of_mem_reads (p : Program) (hsize : 0 < size) {q : Piece} (h : q ∈ p.reads size) :
    (q.bytes.length : Int) ≤ size := by
  rw [reads, if_neg (by omega), if_neg (by omega)] at h
  obtain ⟨w, -, hw⟩ := List.mem_flatMap.1 h
  obtain ⟨c, hc, rfl⟩ := List.mem_map.1 hw
  have hlength := Piece.length_of_mem_runs hc
  show (c.length : Int) ≤ size
  omega

/-- With a negative size an output is read at once, unless it is empty. -/
theorem reads_of_negative (p : Program) (hsize : size < 0) (stream : Stream) :
    Cargo.Arrival.reads stream ((p.reads size).map .read) = [p.output stream].filter (· ≠ []) := by
  rw [reads, if_pos hsize]
  by_cases ho : p.output .stdout = [] <;> by_cases he : p.output .stderr = [] <;> cases stream <;>
    simp [Cargo.Arrival.reads, ho, he]

/-- **The reads of a program**, with any size, are those of the loop that reads its outputs. -/
theorem pump_arrivals (p : Program) (size : Int) (stream : Stream) :
    Cargo.Pump size (p.output stream) (Cargo.Arrival.reads stream (p.arrivals size)) := by
  rw [p.reads_arrivals]
  rcases Int.lt_trichotomy size 0 with hsize | hsize | hsize
  · rw [p.reads_of_negative hsize]
    exact .of_negative hsize (p.output stream)
  · subst hsize
    exact .stop (.nothing rfl)
  · have hne : size ≠ 0 := by omega
    let s := p.schedule hne
    rw [← s.chunks_flatten stream]
    refine .of_chunks hsize (s.chunks_ne_nil stream) fun c hc => ?_
    obtain ⟨a, ha, hread⟩ := List.mem_filterMap.1 hc
    obtain ⟨q, hq, rfl⟩ := List.mem_map.1 ha
    by_cases hs : q.stream = stream
    · have hbytes : q.bytes = c := by simpa [hs] using hread
      rw [← hbytes]
      exact p.length_of_mem_reads hsize hq
    · simp [hs] at hread

theorem exits_arrivals (p : Program) (size : Int) : Cargo.Arrival.exits (p.arrivals size) = [p.exitCode] := by
  simp [arrivals, Cargo.Arrival.exits]

/-- The reads of a program are a reception. -/
def reception (p : Program) (size : Int) : Cargo.Reception size p.output p.exitCode where
  arrivals := p.arrivals size
  pumped := p.pump_arrivals size
  exits_eq := p.exits_arrivals size

end Program

namespace Cargo

/-! ## A build -/

/-- **A build whose program starts** has the result of a reception with the size of its settings. -/
theorem build_eq_reception (c : Cargo) (m : Machine) {folder command : Text} {run : Machine.Run}
    (hcommand : c.command = .text command) (hstart : m.start folder command buildArguments = .ok run) :
    ((run.program.reception c.chunkSize).result? m.cwd folder).map (·.mapError .session) =
      some (build c m folder).result :=
  build_result_of_reads c m hcommand hstart (run.program.reception c.chunkSize).schedule
    (run.program.pieces_arrivals c.chunkSize)

namespace Reception

/-- **The size of a read.** Whatever size the settings give, a build ends as with the default size, up to the order of
the hints, unless the size is zero: then it ends as if the program wrote nothing, and as with the default only when that
gives the same. A build that is run is received in one of these ways. -/
theorem same_as_default_iff {size : Int} {output : Stream → Bytes} {code : Int} (cwd folder : Text)
    (a : Reception size output code) (b : Reception 4096 output code) :
    (SameResult (a.result? cwd folder) (b.result? cwd folder) ↔
      (size = 0 → b.result? cwd folder = some (.ok (.silent code)))) ∧
    (size = 0 → a.result? cwd folder = some (.ok (.silent code))) ∧
    (∀ (c : Cargo) (m : Machine) (command : Text) (run : Machine.Run), c.command = .text command →
      m.start folder command buildArguments = .ok run → c.chunkSize = size → m.cwd = cwd →
      run.program.output = output → run.program.exitCode = code →
      ∃ r : Reception size output code,
        (r.result? cwd folder).map (·.mapError .session) = some (build c m folder).result) := by
  refine ⟨⟨fun h hsize => ?_, fun h => ?_⟩, fun hsize => a.result?_of_zero hsize cwd folder, ?_⟩
  · rw [a.result?_of_zero hsize] at h
    exact h.eq_silent
  · by_cases hsize : size = 0
    · rw [a.result?_of_zero hsize, h hsize]
      exact .inr ⟨_, _, rfl, rfl, rfl, rfl, rfl, rfl, .refl _, List.nodup_nil, List.nodup_nil⟩
    · exact a.sameResult b hsize (by decide) cwd folder
  · rintro c m command run hcommand hstart rfl rfl rfl rfl
    exact ⟨run.program.reception c.chunkSize, build_eq_reception c m hcommand hstart⟩

open Schedule (complaining complainingMachine) in
/-- Two complaints about a command, read at once, not at all, and in a build. -/
theorem same_as_default_iff_complaining :
    SameResult ((complaining.reception (-1)).result? "/" "/p") ((complaining.reception 4096).result? "/" "/p") ∧
    ¬ SameResult ((complaining.reception 0).result? "/" "/p") ((complaining.reception 4096).result? "/" "/p") ∧
    ∃ r : Reception (-1) complaining.output 101, (r.result? "/" "/p").map (·.mapError .session) =
      some (build ⟨.text "/c", -1, .null⟩ complainingMachine "/p").result := by
  obtain ⟨hall, -, hbuild⟩ := same_as_default_iff "/" "/p" (complaining.reception (-1)) (complaining.reception 4096)
  obtain ⟨hzero, -, -⟩ := same_as_default_iff "/" "/p" (complaining.reception 0) (complaining.reception 4096)
  have hhints : ((complaining.reception 4096).result? "/" "/p").map (·.map Outcome.toolchainErrors) ≠
      some (.ok []) := by
    decide +kernel
  refine ⟨hall.2 fun h => absurd h (by decide), fun h => hhints ?_, hbuild _ _ _ _ rfl rfl rfl rfl rfl rfl⟩
  rw [hzero.1 h rfl]
  rfl

end Reception

/-- A program that announces a contract. -/
def announcing : Program where
  writes := [⟨.stdout, Utf8.encode
    ("\x7b\"reason\":\"compiler-artifact\",\"target\":\x7b\"kind\":[\"cdylib\"]\x7d,\"filenames\":[\"a.wasm\"]\x7d\n"
      : Text)⟩]
  exitCode := 0
  seconds := (0, 1)

/-- A machine where that program is cargo. -/
def announcingMachine : Machine := ⟨⟨[(["p"], .folder), (["cargo"], .file [] (some announcing))]⟩, "/", ["/"], []⟩

/-- Whether a build with some settings succeeds there, and the contract that it finds. -/
def announced (settings : Value) : Option (Bool × Option Text) :=
  (ofSettings settings).toOption.bind fun c =>
    (build c announcingMachine "/p").result.toOption.map fun o => (o.success, o.artifact.map Artifact.path)

/-- With a size of zero the build still succeeds, but the announcement is lost. -/
theorem announced_of_size_zero :
    announced (.map []) = some (true, some ("/p/a.wasm" : Text)) ∧
      announced (.map [("build_system", .map [("read_chunk_size", .int 0)])]) = some (true, none) := by
  decide +kernel

end Cargo

end ContractBuild
