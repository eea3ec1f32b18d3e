import ContractBuild.LineBuffer
import Mathlib.Data.List.TakeWhile

/-!
# Lines and chunks

A line buffer is fed in chunks and then finished (`LineBuffer.run`). Two things are shown.

* What it gives depends on the chunks only through the text that they decode to, put together (`feedAll_eq`). For bytes
  that is the text of the bytes put together (`readChunks_bytes`).
* For bytes, the lines are the trimmed pieces of the decoded text (`run_bytes_eq_trimmed_pieces_iff`), with one exception: when
  the bytes end in an unfinished sequence right behind a carriage return (`Utf8.JoinsAtEnd`), the carriage return is let
  go of and U+FFFD is put onto the line before it.

Both rest on the step lemma `OpenLine.pieces_cons`: a code point moves the open line from the pieces of a text to those
of the text without it.
-/

namespace ContractBuild

/-! ## White space at the ends -/

namespace Text

theorem stripLeft_eq_nil_iff {t : Text} : t.stripLeft = [] ↔ ∀ c ∈ t, c.isSpace = true := by
  simp [stripLeft, List.dropWhile_eq_nil_iff]

theorem stripRight_eq_nil_iff {t : Text} : t.stripRight = [] ↔ ∀ c ∈ t, c.isSpace = true := by
  simp [stripRight, List.dropWhile_eq_nil_iff]

/-- A text that does not start with white space keeps its start. -/
theorem stripLeft_cons_of_not_space {c : CodePoint} {t : Text} (h : c.isSpace = false) :
    stripLeft (c :: t) = c :: t := by
  simp [stripLeft, h]

/-- What is stripped to nothing is white space. -/
theorem strip_eq_nil_iff {t : Text} : t.strip = [] ↔ ∀ c ∈ t, c.isSpace = true := by
  constructor
  · intro h
    rw [strip, stripRight_eq_nil_iff] at h
    rw [← stripLeft_eq_nil_iff]
    -- the first code point left would be white space, but `stripLeft` removes it
    cases hl : t.stripLeft with
    | nil => rfl
    | cons c u =>
      have hc : c.isSpace = true := h c (by simp [hl])
      have hd := List.head?_dropWhile_not CodePoint.isSpace t
      rw [show t.dropWhile CodePoint.isSpace = c :: u from hl] at hd
      simp [hc] at hd
  · intro h
    rw [strip, stripLeft_eq_nil_iff.2 h]
    rfl

theorem stripLeft_append_of_ne_nil {t : Text} (u : Text) (h : t.stripLeft ≠ []) :
    stripLeft (t ++ u) = t.stripLeft ++ u := by
  rw [stripLeft, List.dropWhile_append, if_neg (by simpa [stripLeft] using h)]
  rfl

/-- A text that does not end in white space keeps its end. -/
theorem stripRight_append_of_not_space {t u : Text} (hu : u ≠ []) (h : ∀ c ∈ u, c.isSpace = false) :
    stripRight (t ++ u) = t ++ u := by
  obtain ⟨v, c, rfl⟩ : ∃ v c, u = v ++ [c] := ⟨u.dropLast, u.getLast hu, (List.dropLast_concat_getLast hu).symm⟩
  have hc : c.isSpace = false := h c (by simp)
  simp [stripRight, hc]

theorem trimmed_append (ts us : List Text) : trimmed (ts ++ us) = trimmed ts ++ trimmed us := by
  simp [trimmed]

theorem trimmed_nil_last (ts : List Text) : trimmed (ts ++ [[]]) = trimmed ts := by
  rw [trimmed_append]
  simp [trimmed, strip, stripLeft, stripRight]

/-- Joining a text without white space to a line shows exactly when both have something in them. -/
theorem trimmed_join_iff {line u : Text} (h : ∀ c ∈ u, c.isSpace = false) :
    trimmed [line ++ u] = trimmed [line, u] ↔ u = [] ∨ line.strip = [] := by
  by_cases hu : u = []
  · subst hu
    simpa using (trimmed_nil_last [line]).symm
  · obtain ⟨c, v, rfl⟩ := List.exists_cons_of_ne_nil hu
    have hself : strip (c :: v) = c :: v := by
      rw [strip, stripLeft_cons_of_not_space (h c (by simp))]
      simpa using stripRight_append_of_not_space (t := []) hu h
    by_cases hl : line.strip = []
    · have hjoin : strip (line ++ c :: v) = c :: v := by
        rw [strip, stripLeft, List.dropWhile_append_of_pos (strip_eq_nil_iff.1 hl)]
        exact hself
      simp [trimmed, hl, hself, hjoin]
    · have hl' : line.stripLeft ≠ [] := fun e => hl (by rw [strip, e]; rfl)
      have hjoin : strip (line ++ c :: v) = line.stripLeft ++ c :: v := by
        rw [strip, stripLeft_append_of_ne_nil _ hl', stripRight_append_of_not_space hu h]
      simp [trimmed, hl, hself, hjoin]

theorem lineFeed_ne_carriageReturn : lineFeed ≠ carriageReturn := by decide

/-- A text without line ends is part of one piece. -/
theorem piecesFrom_of_no_break {u : Text} (h : ∀ c ∈ u, c ≠ lineFeed ∧ c ≠ carriageReturn) (afterReturn : Bool)
    (line : Text) : piecesFrom afterReturn line u = [line.reverse ++ u] := by
  induction u generalizing afterReturn line with
  | nil => simp [piecesFrom]
  | cons c u ih =>
    obtain ⟨hf, hr⟩ := h c (by simp)
    have := ih (fun d hd => h d (by simp [hd])) false (c :: line)
    simp [piecesFrom, hf, hr, this]

end Text

/-! ## The open line -/

namespace OpenLine

/-- The line so far, without a held carriage return. -/
def line (o : OpenLine) : Text := o.reversed.reverse

/-- The pieces that an open line stands for when nothing follows it. -/
def rest (o : OpenLine) : List Text := if o.heldReturn then [o.line, []] else [o.line]

/-- The pieces of an open line and the text that follows it. -/
def pieces (o : OpenLine) (t : Text) : List Text :=
  if o.heldReturn then o.line :: Text.piecesFrom true [] t else Text.piecesFrom false o.reversed t

theorem pieces_nil (o : OpenLine) : o.pieces [] = o.rest := by
  cases h : o.heldReturn <;> simp [pieces, rest, line, h, Text.piecesFrom]

theorem pieces_empty (t : Text) : empty.pieces t = Text.pieces t := rfl

/-- A code point without a held carriage return before it. -/
theorem pieces_pushFree (line : Text) (c : CodePoint) (t : Text) :
    Text.piecesFrom false line (c :: t) = (pushFree line c).1 ++ (pushFree line c).2.pieces t := by
  by_cases hf : c = Text.lineFeed
  · subst hf
    simp [Text.piecesFrom, pushFree, pieces, empty, Text.lineFeed_ne_carriageReturn]
  · by_cases hr : c = Text.carriageReturn
    · subst hr
      simp [Text.piecesFrom, pushFree, pieces, OpenLine.line, hf]
    · simp [Text.piecesFrom, pushFree, pieces, hf, hr]

/-- **One code point**: the lines that it ends, and then the pieces of the line that is open behind it. -/
theorem pieces_cons (o : OpenLine) (c : CodePoint) (t : Text) :
    o.pieces (c :: t) = (o.push c).1 ++ (o.push c).2.pieces t := by
  cases h : o.heldReturn with
  | false => simp only [pieces, push, h, Bool.false_eq_true, ↓reduceIte, pieces_pushFree]
  | true =>
    by_cases hf : c = Text.lineFeed
    · -- the line feed belongs to the carriage return before it
      subst hf
      simp [pieces, push, line, h, Text.piecesFrom, empty]
    · have hfree : Text.piecesFrom true [] (c :: t) = Text.piecesFrom false [] (c :: t) := by
        simp [Text.piecesFrom, hf]
      rw [pieces, if_pos h, hfree, pieces_pushFree]
      simp [push, line, h, hf]

theorem pieces_append (o : OpenLine) (t u : Text) :
    o.pieces (t ++ u) = (o.pushAll t).1 ++ (o.pushAll t).2.pieces u := by
  induction t generalizing o with
  | nil => simp [pushAll]
  | cons c t ih => simp [pushAll, pieces_cons, ih, List.append_assoc]

/-- The pieces of a text are the lines that it ends and those that the open line stands for. -/
theorem pieces_eq (o : OpenLine) (t : Text) : o.pieces t = (o.pushAll t).1 ++ (o.pushAll t).2.rest := by
  have h := o.pieces_append t []
  rwa [List.append_nil, pieces_nil] at h

/-- A carriage return is held exactly behind a carriage return. -/
theorem push_heldReturn (o : OpenLine) (c : CodePoint) :
    (o.push c).2.heldReturn = decide (c = Text.carriageReturn) := by
  have free (line : Text) : (pushFree line c).2.heldReturn = decide (c = Text.carriageReturn) := by
    by_cases hf : c = Text.lineFeed
    · subst hf
      simp [pushFree, empty, Text.lineFeed_ne_carriageReturn]
    · by_cases hr : c = Text.carriageReturn
      · subst hr
        simp [pushFree, hf]
      · simp [pushFree, hf, hr]
  unfold push
  split
  · split
    · rename_i hf
      subst hf
      simp [empty, Text.lineFeed_ne_carriageReturn]
    · exact free []
  · exact free _

/-- Behind a carriage return the open line is the piece that was last before it. -/
theorem push_return_line (o : OpenLine) :
    o.rest.getLast? = some (o.push Text.carriageReturn).2.line := by
  cases h : o.heldReturn <;> simp [rest, push, pushFree, line, h, Text.lineFeed_ne_carriageReturn.symm]

/-- Behind a whole text a carriage return is held exactly when the text ends in one. -/
theorem pushAll_heldReturn (t : Text) :
    (empty.pushAll t).2.heldReturn = decide (t.getLast? = some Text.carriageReturn) := by
  rcases List.eq_nil_or_concat t with rfl | ⟨t, c, rfl⟩
  · rfl
  · simp [pushAll_append, pushAll, push_heldReturn]

/-- A text without line ends behind an open line is joined to it, or is a piece of its own when a carriage return is
held. -/
theorem pieces_of_no_break {u : Text} (h : ∀ c ∈ u, c ≠ Text.lineFeed ∧ c ≠ Text.carriageReturn) (o : OpenLine) :
    o.pieces u = if o.heldReturn then [o.line, u] else [o.line ++ u] := by
  cases ho : o.heldReturn <;> simp [pieces, line, ho, Text.piecesFrom_of_no_break h]

/-- Letting go of a held carriage return joins what follows to the line before it. -/
theorem pieces_eq_push_return {u : Text} (h : ∀ c ∈ u, c ≠ Text.lineFeed ∧ c ≠ Text.carriageReturn) (o : OpenLine) :
    o.pieces u = (o.push Text.carriageReturn).1 ++ [(o.push Text.carriageReturn).2.line ++ u] := by
  rw [pieces_of_no_break h]
  cases ho : o.heldReturn <;> simp [push, pushFree, line, ho, Text.lineFeed_ne_carriageReturn.symm]

end OpenLine

/-! ## What the decoder holds -/

namespace Utf8

/-- A decoder has only U+FFFD left at the end. -/
theorem eq_replacement_of_mem_flush {s : State} {c : CodePoint} (h : c ∈ s.flush) : c = .replacement := by
  cases s with
  | start => simp [State.flush] at h
  | inside bits missing low high => simpa [State.flush] using h
  | surrogate => simpa [State.flush] using h

theorem no_break_of_mem_flush {s : State} {c : CodePoint} (h : c ∈ s.flush) :
    c ≠ Text.lineFeed ∧ c ≠ Text.carriageReturn := by
  rw [eq_replacement_of_mem_flush h]
  decide

theorem not_space_of_mem_flush {s : State} {c : CodePoint} (h : c ∈ s.flush) : c.isSpace = false := by
  rw [eq_replacement_of_mem_flush h]
  decide

theorem flush_eq_nil_iff {s : State} : s.flush = [] ↔ s = .start := by
  cases s <;> simp [State.flush]

/-- The bytes end in an unfinished sequence right behind a carriage return, which ends a line that has more than white
space on it. -/
def JoinsAtEnd (bs : Bytes) : Prop :=
  ∃ t line, (readAll .start bs).1 = t ++ [Text.carriageReturn] ∧ (readAll .start bs).2 ≠ .start ∧
    (Text.pieces t).getLast? = some line ∧ line.strip ≠ []

theorem joinsAtEnd_iff {bs : Bytes} {t : Text} {s : State} (h : readAll .start bs = (t, s)) :
    JoinsAtEnd bs ↔ (OpenLine.empty.pushAll t).2.heldReturn = true ∧ s ≠ .start ∧
      (OpenLine.empty.pushAll t).2.line.strip ≠ [] := by
  -- the open line behind `t'` and a carriage return is the last piece of `t'`
  have hlast (t' : Text) : (Text.pieces t').getLast? =
      some (OpenLine.empty.pushAll (t' ++ [Text.carriageReturn])).2.line := by
    rw [← OpenLine.pieces_empty, OpenLine.pieces_eq, List.getLast?_append, OpenLine.push_return_line]
    simp [OpenLine.pushAll_append, OpenLine.pushAll]
  simp only [JoinsAtEnd, h]
  constructor
  · rintro ⟨t', line, rfl, hs, hline, hne⟩
    refine ⟨by simp [OpenLine.pushAll_heldReturn], hs, ?_⟩
    rw [hlast, Option.some.injEq] at hline
    rwa [hline]
  · rintro ⟨hheld, hs, hne⟩
    rw [OpenLine.pushAll_heldReturn, decide_eq_true_eq, List.getLast?_eq_some_iff] at hheld
    obtain ⟨t', rfl⟩ := hheld
    exact ⟨t', _, rfl, hs, hlast t', hne⟩

/-- The text of bytes in which a carriage return that ends the finished part is left out. -/
def decodeLettingGo (bs : Bytes) : Text :=
  let (t, s) := readAll .start bs
  (if t.getLast? = some Text.carriageReturn then t.dropLast else t) ++ s.flush

end Utf8

/-! ## Runs of a buffer -/

namespace Decoder

/-- Reads a chunk; a text is taken as it is. -/
def readChunk (d : Decoder) : Chunk → Text × Decoder
  | .text t => (t, d)
  | .bytes bs => d.read bs

/-- Reads chunks in order. -/
def readChunks : Decoder → List Chunk → Text × Decoder
  | d, [] => ([], d)
  | d, c :: cs =>
    let (t, d') := d.readChunk c
    let (u, d'') := d'.readChunks cs
    (t ++ u, d'')

/-- Bytes decode to the text of all of them, however they are cut. -/
theorem readChunks_bytes (s : Utf8.State) (chunks : List Bytes) :
    (Decoder.utf8 s).readChunks (chunks.map .bytes) =
      ((Utf8.readAll s chunks.flatten).1, .utf8 (Utf8.readAll s chunks.flatten).2) := by
  induction chunks generalizing s with
  | nil => rfl
  | cons bs chunks ih => simp [readChunks, readChunk, read, ih, Utf8.readAll_append]

end Decoder

namespace LineBuffer

/-- Takes chunks in order and gives the lines that they end. -/
def feedAll (b : LineBuffer) : List Chunk → Except Error (List Text × LineBuffer)
  | [] => .ok ([], b)
  | c :: cs =>
    match b.feed c with
    | .error e => .error e
    | .ok (lines, b') => (b'.feedAll cs).map fun r => (lines ++ r.1, r.2)

/-- All lines that a fresh buffer gives for chunks, those of its end included. -/
def run (chunks : List Chunk) : Except Error (List Text) :=
  (empty.feedAll chunks).map fun r => r.1 ++ r.2.finish.1

theorem take_eq (b : LineBuffer) (c : Chunk) :
    b.take c = (Text.trimmed (b.line.pushAll (b.decoder.readChunk c).1).1,
      { b with decoder := (b.decoder.readChunk c).2, line := (b.line.pushAll (b.decoder.readChunk c).1).2 }) := by
  cases c <;> rfl

/-- **Chunks count only through the text that they decode to.** -/
theorem feedAll_eq {b : LineBuffer} (h : b.finished = false) (chunks : List Chunk) :
    b.feedAll chunks = .ok (Text.trimmed (b.line.pushAll (b.decoder.readChunks chunks).1).1,
      { b with
        decoder := (b.decoder.readChunks chunks).2
        line := (b.line.pushAll (b.decoder.readChunks chunks).1).2 }) := by
  induction chunks generalizing b with
  | nil => simp [feedAll, Decoder.readChunks, OpenLine.pushAll, Text.trimmed]
  | cons c cs ih =>
    have hfeed : b.feed c = .ok (b.take c) := by simp [feed, h]
    have hnext : (b.take c).2.finished = false := by rw [take_eq]; exact h
    rw [feedAll, hfeed]
    simp only [ih hnext]
    simp [take_eq, Except.map, Decoder.readChunks, OpenLine.pushAll_append, Text.trimmed_append]

/-- The lines of bytes: those that end in the decoded text, and the open one with what the decoder has left. -/
theorem run_bytes (chunks : List Bytes) {t : Text} {s : Utf8.State} (h : Utf8.readAll .start chunks.flatten = (t, s)) :
    run (chunks.map .bytes) = .ok (Text.trimmed (OpenLine.empty.pushAll t).1 ++
      Text.trimmed [(OpenLine.empty.pushAll t).2.line ++ s.flush]) := by
  rw [run, feedAll_eq rfl]
  simp only [empty, ofEncoding, Decoder.ofEncoding, Decoder.readChunks_bytes, h]
  simp [Except.map, finish, Decoder.flush, OpenLine.line]

/-- The lines of bytes are those of the decoded text in which a held carriage return is let go of at the end. -/
theorem run_bytes_lettingGo (chunks : List Bytes) :
    run (chunks.map .bytes) = .ok (Text.trimmed (Text.pieces (Utf8.decodeLettingGo chunks.flatten))) := by
  obtain ⟨⟨t, s⟩, h⟩ : ∃ r, Utf8.readAll .start chunks.flatten = r := ⟨_, rfl⟩
  have hflush := fun c (hc : c ∈ s.flush) => Utf8.no_break_of_mem_flush hc
  rw [run_bytes chunks h, Utf8.decodeLettingGo, h]
  dsimp only
  rw [← Text.trimmed_append, ← OpenLine.pieces_empty, OpenLine.pieces_append]
  by_cases hlast : t.getLast? = some Text.carriageReturn
  · obtain ⟨t', rfl⟩ := List.getLast?_eq_some_iff.1 hlast
    simp [OpenLine.pushAll_append, OpenLine.pushAll, OpenLine.pieces_eq_push_return hflush]
  · have hheld : (OpenLine.empty.pushAll t).2.heldReturn = false := by simp [OpenLine.pushAll_heldReturn, hlast]
    simp [hlast, OpenLine.pieces_of_no_break hflush, hheld]

/-- **Lines of a byte stream.** However the bytes are cut, the buffer gives the trimmed pieces of the decoded text in
which a carriage return at the end of the finished part is let go of. These are the trimmed pieces of the decoded text
itself, except when that carriage return ends a line and an unfinished sequence follows it. -/
theorem run_bytes_eq_trimmed_pieces_iff (chunks : List Bytes) :
    run (chunks.map .bytes) = .ok (Text.trimmed (Text.pieces (Utf8.decodeLettingGo chunks.flatten))) ∧
      (run (chunks.map .bytes) = .ok (Text.trimmed (Text.pieces (Utf8.decode chunks.flatten))) ↔
        ¬ Utf8.JoinsAtEnd chunks.flatten) := by
  refine ⟨run_bytes_lettingGo chunks, ?_⟩
  obtain ⟨⟨t, s⟩, h⟩ : ∃ r, Utf8.readAll .start chunks.flatten = r := ⟨_, rfl⟩
  have hdecode : Utf8.decode chunks.flatten = t ++ s.flush := by simp [Utf8.decode, h]
  rw [run_bytes chunks h, Utf8.joinsAtEnd_iff h, hdecode, ← OpenLine.pieces_empty, OpenLine.pieces_append,
    OpenLine.pieces_of_no_break fun c hc => Utf8.no_break_of_mem_flush hc, Text.trimmed_append, Except.ok.injEq,
    List.append_cancel_left_eq]
  cases (OpenLine.empty.pushAll t).2.heldReturn with
  | false => simp
  | true =>
    rw [if_pos rfl, Text.trimmed_join_iff fun c hc => Utf8.not_space_of_mem_flush hc, Utf8.flush_eq_nil_iff]
    simp only [true_and, ne_eq, not_and, Decidable.not_not]
    exact Decidable.or_iff_not_imp_left

/-- A line that ends in a carriage return, and an unfinished sequence: they come as one line, and not as two. -/
theorem run_unfinished_behind_return :
    run [.bytes [0x61, 0x0D, 0xE2]] = .ok [[CodePoint.ofNat 0x61, .replacement]] ∧
      run [.bytes [0x61, 0x0D, 0xE2]] ≠ .ok (Text.trimmed (Text.pieces (Utf8.decode [0x61, 0x0D, 0xE2]))) := by
  decide

end LineBuffer

end ContractBuild
