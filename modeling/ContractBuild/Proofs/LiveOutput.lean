import ContractBuild.Proofs.Schedules
import ContractBuild.Sink.Logged

/-!
# What the sink is given

While cargo runs, its standard error is decoded and given to the sink piece by piece. However it is cut into reads and
whatever arrives between them, the pieces are not empty, together they are the text of all of standard error, and one
flush follows them (`Schedule.live_output`). A sink made of log records therefore has one record for each line of that
text that is not blank.

* `Sink.Appends`: calls that append a text piece by piece. `Intake.takeAll_appends` and `Intake.finish_appends` are the
  reads and the end of a build.
* `Sink.Logged.calls_of_appends`: the records of such calls depend on their text alone.
-/

namespace ContractBuild

/-! ## Lines of a text -/

namespace Text

/-- The lines of two texts together: the last line of the first one goes on in the second one. -/
theorem splitOn_append (a b : Text) : (a ++ b).splitOn lineFeed =
    (a.splitOn lineFeed).dropLast ++ ((a.splitOn lineFeed).getLastD [] ++ b).splitOn lineFeed := by
  induction a with
  | nil => rfl
  | cons c a ih =>
    obtain ⟨line, rest, hsplit⟩ := List.exists_cons_of_ne_nil (List.splitOn_ne_nil lineFeed a)
    rw [List.cons_append, List.splitOn_cons_eq_if_modifyHead, List.splitOn_cons_eq_if_modifyHead, ih, hsplit]
    by_cases hc : c = lineFeed
    · simp [hc]
    · cases rest with
      | nil => simp [hc, List.splitOn_cons_eq_if_modifyHead]
      | cons next rest => simp [hc]

theorem splitOn_eq_concat (t : Text) :
    t.splitOn lineFeed = (t.splitOn lineFeed).dropLast ++ [(t.splitOn lineFeed).getLastD []] := by
  have hne := List.splitOn_ne_nil lineFeed t
  rw [List.getLastD_eq_getLast?, List.getLast?_eq_some_getLast hne, Option.getD_some, List.dropLast_concat_getLast hne]

/-- The last line of a text is one line. -/
theorem splitOn_last (t : Text) :
    ((t.splitOn lineFeed).getLastD []).splitOn lineFeed = [(t.splitOn lineFeed).getLastD []] := by
  have happend := splitOn_append t []
  rw [List.append_nil, List.append_nil] at happend
  exact List.append_cancel_left (happend.symm.trans (splitOn_eq_concat t))

/-- A carriage return is white space, so a line without those at its end is blank when the line is. -/
theorem isBlank_dropTrailing (t : Text) : (t.dropTrailing carriageReturn).isBlank = t.isBlank := by
  have hparts := List.takeWhile_append_dropWhile (p := fun c => decide (c = carriageReturn)) (l := t.reverse)
  have hreturns : (t.reverse.takeWhile fun c => decide (c = carriageReturn)).all CodePoint.isSpace = true := by
    rw [List.all_eq_true]
    intro c hc
    have hreturn : c = carriageReturn := by simpa using List.mem_takeWhile_imp hc
    rw [hreturn]
    rfl
  have hall : t.all CodePoint.isSpace = t.reverse.all CodePoint.isSpace := List.all_reverse.symm
  unfold isBlank dropTrailing
  rw [List.all_reverse, hall, ← hparts, List.all_append, hreturns, Bool.true_and, hparts]

end Text

/-! ## A sink made of log records -/

namespace Sink

/-- Calls that append a text piece by piece, where no piece is empty. -/
def Appends (calls : List Call) (t : Text) : Prop :=
  ∃ texts : List Text, calls = texts.map .append ∧ [] ∉ texts ∧ texts.flatten = t

theorem appends_nil : Appends [] [] := ⟨[], rfl, List.not_mem_nil, rfl⟩

theorem appends_singleton {t : Text} (h : t ≠ []) : Appends [.append t] t :=
  ⟨[t], rfl, by simpa using h.symm, List.append_nil t⟩

theorem Appends.append {cs ds : List Call} {t u : Text} (hcs : Appends cs t) (hds : Appends ds u) :
    Appends (cs ++ ds) (t ++ u) := by
  obtain ⟨ts, rfl, hts, rfl⟩ := hcs
  obtain ⟨us, rfl, hus, rfl⟩ := hds
  refine ⟨ts ++ us, by simp, ?_, by simp⟩
  rw [List.mem_append, not_or]
  exact ⟨hts, hus⟩

namespace Logged

/-- The records of lines: one for each that is not blank, without the carriage returns at its end. -/
def recordsOfLines (level : Log.Level) (lines : List Text) : List Log.Record :=
  (lines.filter fun line => !line.isBlank).map fun line =>
    ⟨Log.cargoOutput, level, line.dropTrailing Text.carriageReturn⟩

/-- The records of a text: those of its lines. -/
def recordsOfText (level : Log.Level) (t : Text) : List Log.Record := recordsOfLines level (t.splitOn Text.lineFeed)

theorem flatMap_recordsOf (level : Log.Level) (lines : List Text) :
    lines.flatMap (recordsOf level) = recordsOfLines level lines := by
  unfold recordsOfLines
  induction lines with
  | nil => rfl
  | cons line lines ih =>
    rw [List.flatMap_cons, ih, recordsOf]
    by_cases h : Text.isBlank line = true <;> simp [Text.isBlank_dropTrailing, h]

theorem flatMap_recordsOf_splitOn (level : Log.Level) (t : Text) :
    (t.splitOn Text.lineFeed).flatMap (recordsOf level) = recordsOfText level t := flatMap_recordsOf level _

theorem calls_append (s : Logged) (cs ds : List Call) : s.calls (cs ++ ds) =
    ((s.calls cs).1 ++ ((s.calls cs).2.calls ds).1, ((s.calls cs).2.calls ds).2) := by
  induction cs generalizing s with
  | nil => rfl
  | cons c cs ih => simp [calls, ih]

/-- **Pieces of a text** give the records of the lines that end in it. The open line is held back. -/
theorem calls_of_texts (s : Logged) (hheld : s.held.splitOn Text.lineFeed = [s.held]) (texts : List Text) :
    let lines := (s.held ++ texts.flatten).splitOn Text.lineFeed
    s.calls (texts.map .append) = (lines.dropLast.flatMap (recordsOf s.level), { s with held := lines.getLastD [] }) := by
  induction texts generalizing s with
  | nil => simp [calls, hheld]
  | cons t texts ih =>
    let lines := (s.held ++ t).splitOn Text.lineFeed
    have hstep : s.append t = (lines.dropLast.flatMap (recordsOf s.level), { s with held := lines.getLastD [] }) := rfl
    have hrest := ih { s with held := lines.getLastD [] } (Text.splitOn_last (s.held ++ t))
    dsimp only at hrest ⊢
    rw [List.map_cons, calls, call, hstep]
    dsimp only
    let next := (lines.getLastD [] ++ texts.flatten).splitOn Text.lineFeed
    have hnext : next ≠ [] := List.splitOn_ne_nil _ _
    have hlines : (s.held ++ (t :: texts).flatten).splitOn Text.lineFeed = lines.dropLast ++ next := by
      rw [List.flatten_cons, ← List.append_assoc, Text.splitOn_append]
    have hlast : (lines.dropLast ++ next).getLastD [] = next.getLastD [] := by
      rw [List.getLastD_eq_getLast?, List.getLastD_eq_getLast?, List.getLast?_append,
        List.getLast?_eq_some_getLast hnext, Option.some_or]
    rw [hrest, hlines, hlast, List.dropLast_append_of_ne_nil hnext, List.flatMap_append]

/-- **Pieces of a text and a flush** give the records of the text, however it is cut. -/
theorem calls_of_appends {s : Logged} (hheld : s.held = []) {calls : List Call} {t : Text} (h : Appends calls t) :
    (s.calls (calls ++ [.flush])).1 = recordsOfText s.level t := by
  obtain ⟨texts, rfl, -, rfl⟩ := h
  have hopen : s.held.splitOn Text.lineFeed = [s.held] := by rw [hheld, List.splitOn_nil]
  rw [calls_append, calls_of_texts s hopen, hheld, List.nil_append, ← flatMap_recordsOf_splitOn,
    Text.splitOn_eq_concat texts.flatten]
  simp [Logged.calls, call, flush]

end Logged

end Sink

/-! ## What a build gives the sink -/

namespace Cargo

theorem Event.sinkCalls_append (es fs : List Event) : sinkCalls (es ++ fs) = sinkCalls es ++ sinkCalls fs :=
  List.filterMap_append

namespace Intake

theorem appends_appendCalls (t : Text) : Sink.Appends (Event.sinkCalls (appendCalls t)) t := by
  cases t with
  | nil => exact Sink.appends_nil
  | cons c t => exact Sink.appends_singleton (List.cons_ne_nil c t)

/-- **One read** gives the sink what it adds to the text of standard error. -/
theorem take_appends (i : Intake) (p : Piece) :
    let decoded := Utf8.readAll i.decoder (Piece.gather .stderr [p])
    Sink.Appends (Event.sinkCalls (i.take p).2.1) decoded.1 ∧ (i.take p).2.2.decoder = decoded.2 := by
  obtain ⟨stream, bytes⟩ := p
  cases stream with
  | stdout => exact ⟨Sink.appends_nil, rfl⟩
  | stderr =>
    have hgather : Piece.gather .stderr [⟨.stderr, bytes⟩] = bytes := by simp [Piece.gather]
    rw [hgather]
    exact ⟨appends_appendCalls _, rfl⟩

/-- **Reads** give the sink the text of standard error, as far as it has been read. -/
theorem takeAll_appends {i j : Intake} {ps : List Piece} {events : List Event}
    (h : i.takeAll ps = (.ok (), events, j)) :
    let decoded := Utf8.readAll i.decoder (Piece.gather .stderr ps)
    Sink.Appends (Event.sinkCalls events) decoded.1 ∧ j.decoder = decoded.2 := by
  induction ps generalizing i events with
  | nil =>
    obtain ⟨rfl, rfl⟩ : [] = events ∧ i = j := by simpa [takeAll] using h
    exact ⟨Sink.appends_nil, rfl⟩
  | cons p ps ih =>
    obtain ⟨hcalls, hdecoder⟩ := i.take_appends p
    rw [takeAll] at h
    rcases ht : i.take p with ⟨_ | ⟨⟩, es, k⟩
    · rw [ht] at h
      cases h
    · rcases hk : k.takeAll ps with ⟨result, more, l⟩
      simp only [ht, hk, Prod.mk.injEq] at h
      obtain ⟨rfl, rfl, rfl⟩ := h
      rw [ht] at hcalls hdecoder
      obtain ⟨hmore, hlast⟩ := ih hk
      rw [hdecoder] at hmore hlast
      rw [← List.singleton_append, Piece.gather_append, Utf8.readAll_append, Event.sinkCalls_append]
      exact ⟨hcalls.append hmore, hlast⟩

/-- **The end of a build** gives the sink what the decoder still holds, and flushes it. -/
theorem finish_appends (i : Intake) (cwd folder : Text) (code : Int) :
    ∃ calls, Event.sinkCalls (i.finish cwd folder code).2 = calls ++ [.flush] ∧ Sink.Appends calls i.decoder.flush := by
  refine ⟨_, ?_, appends_appendCalls i.decoder.flush⟩
  have hend : Event.sinkCalls i.endCalls = Event.sinkCalls (appendCalls i.decoder.flush) ++ [.flush] :=
    Event.sinkCalls_append _ _
  have hlog (records : List Log.Record) : Event.sinkCalls (records.map .log) = [] := by simp [Event.sinkCalls]
  unfold finish
  rcases i.session.finalize cwd code with ⟨e | ⟨o, records⟩, s⟩
  · exact hend
  · dsimp only
    rw [Event.sinkCalls_append, Event.sinkCalls_append, hend, hlog]
    exact List.append_nil _

end Intake

/-- What a build tells before anything arrives. -/
def begun (folder command : Text) : List Event :=
  [.sink (.appendLine ("Building contract in: " ++ folder)),
    .log (record Log.info ("Executing cargo command: " ++ Text.joinWith " " (command :: buildArguments)))]

namespace Schedule

variable {output : Stream → Bytes} {code : Int} (s : Schedule output code)

/-- What a build tells whose program is started and received in this order. -/
def told (cwd folder command : Text) : List Event := begun folder command ++ (s.run cwd folder).events

/-- **A finished build** has given the sink the text of standard error, and flushed it. -/
theorem run_appends (cwd folder : Text) {result : Except Session.Error Outcome}
    (h : (s.run cwd folder).stage = .finished result) :
    ∃ calls, Event.sinkCalls (s.run cwd folder).events = calls ++ [.flush] ∧
      Sink.Appends calls (Utf8.decode (output .stderr)) := by
  have hgather : Piece.gather .stderr (Arrival.pieces s.arrivals) = output .stderr :=
    (s.taken_of_finished cwd folder (List.append_nil s.arrivals) h).1 .stderr
  have hreached : Running.Reached cwd folder code s.arrivals [] (s.run cwd folder) :=
    s.reached cwd folder (List.append_nil s.arrivals)
  cases hreached with
  | waiting stage taken expects more => exact absurd rfl more
  | stopped e i stage taken =>
    rw [stage] at h
    cases h
  | finished events i stage taken told last =>
    obtain ⟨hcalls, hdecoder⟩ := Intake.takeAll_appends taken
    obtain ⟨calls, hfinish, hflush⟩ := i.finish_appends cwd folder code
    rw [hgather] at hcalls hdecoder
    rw [hdecoder] at hflush
    refine ⟨Event.sinkCalls events ++ calls, ?_, hcalls.append hflush⟩
    rw [told, Event.sinkCalls_append, hfinish, List.append_assoc]

theorem finished_of_result? {cwd folder : Text} {o : Outcome} (h : s.result? cwd folder = some (.ok o)) :
    (s.run cwd folder).stage = .finished (.ok o) := by
  unfold result? Running.result? at h
  split at h
  · cases h
  · cases h
  · rename_i hstage
    rw [hstage, Option.some.inj h]

end Schedule

/-- A build whose program starts tells what any schedule with the same reads tells. -/
theorem build_events_of_reads (c : Cargo) (m : Machine) {folder command : Text} {run : Machine.Run}
    (hcommand : c.command = .text command) (hstart : m.start folder command buildArguments = .ok run)
    {output : Stream → Bytes} (s : Schedule output run.program.exitCode)
    (hreads : Arrival.pieces s.arrivals = run.program.reads c.chunkSize) :
    (build c m folder).events = s.told m.cwd folder command := by
  rw [Schedule.told, (s.run_eq_complete m.cwd folder).2, hreads, build, hcommand]
  simp [hstart, watch, begun]

namespace Schedule

variable {output : Stream → Bytes} {code : Int}

/-- **The live output of a build** that completes. The sink is given a line that announces the build; then texts that are
not empty and are together the text of all of standard error, decoded at once; and then one flush. So a sink made of log
records has, behind those of the announcement, the records of that text, however it was cut and whatever came between. A
build that is run is one of the schedules of its program. -/
theorem live_output (cwd folder command : Text) (s : Schedule output code) {o : Outcome}
    (h : s.result? cwd folder = some (.ok o)) :
    let announcement : Text := "Building contract in: " ++ folder
    let decoded := Utf8.decode (output .stderr)
    let calls := Event.sinkCalls (s.told cwd folder command)
    (∃ texts : List Text, calls = .appendLine announcement :: (texts.map .append ++ [.flush]) ∧ [] ∉ texts ∧
      texts.flatten = decoded) ∧
    (∀ level, ((Sink.Logged.start level).calls calls).1 =
      Sink.Logged.recordsOf level announcement ++ Sink.Logged.recordsOfText level decoded) ∧
    (∀ (c : Cargo) (m : Machine) (run : Machine.Run), c.command = .text command →
      m.start folder command buildArguments = .ok run → c.chunkSize ≠ 0 → m.cwd = cwd →
      run.program.output = output → run.program.exitCode = code →
      ∃ s' : Schedule output code, (build c m folder).events = s'.told cwd folder command ∧
        (s'.result? cwd folder).map (·.mapError .session) = some (build c m folder).result) := by
  intro announcement decoded calls
  obtain ⟨pieces, hpieces, happends⟩ := s.run_appends cwd folder (s.finished_of_result? h)
  have hcalls : calls = .appendLine announcement :: (pieces ++ [.flush]) := by
    rw [← hpieces]
    rfl
  refine ⟨?_, ?_, ?_⟩
  · obtain ⟨texts, rfl, hne, hflat⟩ := happends
    exact ⟨texts, hcalls, hne, hflat⟩
  · intro level
    have hrest := Sink.Logged.calls_of_appends (s := Sink.Logged.start level) rfl happends
    rw [hcalls, Sink.Logged.calls]
    exact congrArg (Sink.Logged.recordsOf level announcement ++ ·) hrest
  · rintro c m run hcommand hstart hsize rfl rfl rfl
    exact ⟨run.program.schedule hsize,
      build_events_of_reads c m hcommand hstart (run.program.schedule hsize)
        (run.program.pieces_arrivals c.chunkSize),
      build_result c m hcommand hstart hsize⟩

/-- A program whose standard error has a line with a carriage return, a blank one, and one that ends inside a sequence.
-/
def garbled : Program where
  writes := [⟨.stderr, [0x61, 0xC3, 0xA9, 0x0D, 0x0A, 0x20, 0x0A, 0x62, 0xE2, 0x82]⟩, ⟨.stdout, [0x0A]⟩]
  exitCode := 1
  seconds := (0, 1)

/-- A machine where that program is cargo. -/
def garbledMachine : Machine := ⟨⟨[(["p"], .folder), (["c"], .file [] (some garbled))]⟩, "/", [], []⟩

/-- That program is received with its exit code first, and its standard error is cut inside sequences. -/
def cutInside : Schedule garbled.output 1 where
  arrivals := [.exited 1, .read ⟨.stderr, [0x61, 0xC3]⟩, .read ⟨.stdout, [0x0A]⟩,
    .read ⟨.stderr, [0xA9, 0x0D, 0x0A, 0x20, 0x0A, 0x62, 0xE2]⟩, .read ⟨.stdout, []⟩, .read ⟨.stderr, [0x82]⟩,
    .read ⟨.stderr, []⟩]
  chunks
    | .stdout => [[0x0A]]
    | .stderr => [[0x61, 0xC3], [0xA9, 0x0D, 0x0A, 0x20, 0x0A, 0x62, 0xE2], [0x82]]
  chunks_ne_nil stream := by cases stream <;> decide
  chunks_flatten stream := by cases stream <;> decide
  reads_eq stream := by cases stream <;> decide
  exits_eq := rfl

/-- Its two lines that are not blank become records, behind the one that announces the build. -/
theorem live_output_garbled :
    (∃ o, cutInside.result? "/" "/p" = some (.ok o)) ∧
    (∃ texts : List Text, Event.sinkCalls (cutInside.told "/" "/p" "cargo") =
        .appendLine "Building contract in: /p" :: (texts.map .append ++ [.flush]) ∧
      [] ∉ texts ∧ texts.flatten = ("a\u00e9\r\n \nb\ufffd" : Text)) ∧
    (((Sink.Logged.start Log.info).calls (Event.sinkCalls (cutInside.told "/" "/p" "cargo"))).1.map Log.Record.message =
      ([("Building contract in: /p" : Text), ("a\u00e9" : Text), ("b\ufffd" : Text)] : List Text)) ∧
    ∃ s : Schedule garbled.output 1,
      (build ⟨.text "/c", 3, .null⟩ garbledMachine "/p").events = s.told "/" "/p" "/c" := by
  have hcompletes : (cutInside.result? "/" "/p").map (·.toOption.isSome) = some true := by decide +kernel
  have hdecoded : Utf8.decode (garbled.output .stderr) = ("a\u00e9\r\n \nb\ufffd" : Text) := by decide
  cases hresult : cutInside.result? "/" "/p" with
  | none =>
    rw [hresult] at hcompletes
    cases hcompletes
  | some result =>
    cases result with
    | error e =>
      rw [hresult] at hcompletes
      cases hcompletes
    | ok o =>
      obtain ⟨⟨texts, hcalls, hne, hflat⟩, hrecords, -⟩ := live_output "/" "/p" "cargo" cutInside hresult
      obtain ⟨-, -, hbuild⟩ := live_output "/" "/p" "/c" cutInside hresult
      refine ⟨⟨o, rfl⟩, ⟨texts, hcalls, hne, hflat.trans hdecoded⟩, ?_, ?_⟩
      · rw [hrecords, hdecoded]
        decide
      · obtain ⟨s, hevents, -⟩ :=
          hbuild ⟨.text "/c", 3, .null⟩ garbledMachine _ rfl rfl (by decide) rfl rfl rfl
        exact ⟨s, hevents⟩

end Schedule

end Cargo

end ContractBuild
