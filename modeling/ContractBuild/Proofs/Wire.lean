import ContractBuild.Message
import ContractBuild.Proofs.Json.OneLine

/-!
# Documents on a wire

A program writes JSON documents to its output, each on a line of its own, with blank lines anywhere (`Wire`). Lines may
end in each of the three ways, and the last one may be left open. However the bytes of that are cut into chunks, each
document becomes one message, and there are no others (`Wire.messages`).

Three facts are put together. A wire is read back from its bytes, since nothing on it is a surrogate
(`Wire.isScalar_text`). The lines of a wire are its documents: they have no line end in them and no white space around
them (`Wire.trimmed_pieces`). And a document is read back from its line (`Wire.Document.ofLine?_text`).
-/

namespace ContractBuild

/-! ## Lines of a text -/

namespace Text

/-- A line feed right behind a carriage return makes no line, and a line of its own would be empty. -/
theorem trimmed_piecesFrom (t : Text) : trimmed (piecesFrom true [] t) = trimmed (pieces t) := by
  cases t with
  | nil => rfl
  | cons c t =>
    by_cases hc : c = lineFeed
    · subst hc
      have hpieces : pieces (lineFeed :: t) = [] :: pieces t := rfl
      have hblank : trimmed ([] :: pieces t) = trimmed (pieces t) := rfl
      rw [hpieces, hblank]
      rfl
    · simp [pieces, piecesFrom, hc]

/-- A text without line ends is put onto the piece so far. -/
theorem piecesFrom_append {u : Text} (h : ∀ c ∈ u, c ≠ lineFeed ∧ c ≠ carriageReturn) (line t : Text) :
    piecesFrom false line (u ++ t) = piecesFrom false (u.reverse ++ line) t := by
  induction u generalizing line with
  | nil => rfl
  | cons c u ih =>
    obtain ⟨⟨hf, hr⟩, hu⟩ := List.forall_mem_cons.1 h
    rw [List.cons_append, piecesFrom]
    simp [hf, hr, ih hu]

end Text

/-- What ends a line. -/
inductive LineEnd where
  | lineFeed
  | carriageReturn
  | both
deriving DecidableEq

/-- The characters of a line end. -/
def LineEnd.text : LineEnd → Text
  | .lineFeed => [Text.lineFeed]
  | .carriageReturn => [Text.carriageReturn]
  | .both => [Text.carriageReturn, Text.lineFeed]

/-- **The lines of a text** are its first one and those of what follows. -/
theorem Text.trimmed_pieces_append {line : Text} (h : ∀ c ∈ line, c ≠ lineFeed ∧ c ≠ carriageReturn) (e : LineEnd)
    (t : Text) : trimmed (pieces (line ++ (e.text ++ t))) = trimmed [line] ++ trimmed (pieces t) := by
  have hpieces : pieces (line ++ (e.text ++ t)) = [line] ++ piecesFrom (e = .carriageReturn) [] t := by
    rw [pieces, piecesFrom_append h, List.append_nil]
    cases e <;> simp [LineEnd.text, piecesFrom, lineFeed_ne_carriageReturn, lineFeed_ne_carriageReturn.symm]
  have hrest : trimmed (piecesFrom (e = .carriageReturn) [] t) = trimmed (pieces t) := by
    cases e with
    | lineFeed | both => rfl
    | carriageReturn => exact trimmed_piecesFrom t
  rw [hpieces, trimmed_append, hrest]

/-- The lines of bytes that end with no sequence open. -/
theorem LineBuffer.run_bytes_of_complete (chunks : List Bytes) {t : Text}
    (h : Utf8.readAll .start chunks.flatten = (t, .start)) :
    run (chunks.map .bytes) = .ok (Text.trimmed (Text.pieces t)) := by
  have hflush : Utf8.State.start.flush = [] := rfl
  rw [run_bytes chunks h, ← OpenLine.pieces_empty, OpenLine.pieces_eq, Text.trimmed_append, hflush, List.append_nil,
    OpenLine.rest]
  split
  · rw [← Text.trimmed_nil_last [_]]
    rfl
  · rfl

/-! ## Documents and lines -/

/-- A JSON document that stands on one line, as with the compact layouts. It has no floating point numbers and no
surrogates in it, its integers have not too many digits, and it is not nested too deep. -/
structure Document where
  layout : Json.Layout
  entries : List (Text × Value)
  separates : layout.Separates
  oneLine : layout.OneLine
  writable : Json.Writable (fun t => t.isScalar = true) (fun _ => False) Json.maxDepth (.map entries)

namespace Document

variable (d : Document)

/-- What is written of a document. -/
def text : Text := Json.print d.layout (.map d.entries)

/-- The message that a document is. -/
def message : Message := ⟨.ofReason (Value.entry? "reason" d.entries), d.entries, d.text⟩

theorem visible_text : ∀ c ∈ d.text, Json.Visible c :=
  d.writable.visible d.oneLine (fun _ h => h) (fun _ h => h.elim) 0

/-- A document is a line, and has no white space around it. -/
theorem trimmed_text : Text.trimmed [d.text] = [d.text] := by
  have hstrip : d.text.strip = d.text := Json.strip_print_map d.entries
  have hne : d.text ≠ [] := by
    obtain ⟨c, rest, heq, -⟩ :=
      (d.writable.readBack d.separates (fun _ => Text.unpaired_of_isScalar) (fun _ h => h.elim)).opens 0
    rw [text, Json.print, heq]
    exact List.cons_ne_nil c rest
  simp [Text.trimmed, hstrip, hne]

/-- **A document is read back** from its line. -/
theorem ofLine?_text : Message.ofLine? d.text = .ok (some d.message) := by
  have hparse : Json.parse d.text = .ok (.map d.entries) :=
    Json.parse_print d.writable d.separates (fun _ => Text.unpaired_of_isScalar) (fun _ h => h.elim)
  rw [Message.ofLine?, hparse]
  rfl

end Document

/-- The messages of lines that are documents. -/
theorem Message.ofLines_documents (ds : List Document) :
    Message.ofLines (ds.map Document.text) = .ok (ds.map Document.message) := by
  induction ds with
  | nil => rfl
  | cons d ds ih =>
    rw [List.map_cons, Message.ofLines, d.ofLine?_text, ih]
    rfl

/-- What stands on a line: a document, or nothing but white space. -/
inductive WireLine where
  | document (d : Document)
  | blank (space : Text) (isSpace : ∀ c ∈ space, c.isSpace = true ∧ c ≠ Text.lineFeed ∧ c ≠ Text.carriageReturn)

namespace WireLine

/-- The characters of a line. -/
def text : WireLine → Text
  | .document d => d.text
  | .blank space _ => space

/-- The document on a line. -/
def document? : WireLine → Option Document
  | .document d => some d
  | .blank _ _ => none

/-- A line holds no line end and no surrogate. -/
theorem forall_mem_text (x : WireLine) :
    ∀ c ∈ x.text, (c ≠ Text.lineFeed ∧ c ≠ Text.carriageReturn) ∧ c.isSurrogate = false := by
  intro c hc
  cases x with
  | document d =>
    obtain ⟨hcontrol, hscalar⟩ := d.visible_text c hc
    refine ⟨⟨?_, ?_⟩, hscalar⟩
    · rintro rfl
      exact absurd hcontrol (by decide)
    · rintro rfl
      exact absurd hcontrol (by decide)
  | blank space isSpace =>
    obtain ⟨hspace, hends⟩ := isSpace c hc
    refine ⟨hends, ?_⟩
    simp [CodePoint.isSpace] at hspace
    simp [CodePoint.isSurrogate]
    omega

/-- A line gives its document, and nothing when it is blank. -/
theorem trimmed_text (x : WireLine) : Text.trimmed [x.text] = x.document?.toList.map Document.text := by
  cases x with
  | document d => exact d.trimmed_text
  | blank space isSpace =>
    have hstrip : space.strip = [] := Text.strip_eq_nil_iff.2 fun c hc => (isSpace c hc).1
    simp [Text.trimmed, text, document?, hstrip]

end WireLine

/-! ## Wires -/

/-- Lines with their ends, and a last one that is left open. It is blank when the line before it is the last that was
written. -/
structure Wire where
  lines : List (WireLine × LineEnd)
  last : WireLine

namespace Wire

/-- All that is written. -/
def text (w : Wire) : Text := w.lines.flatMap (fun x => x.1.text ++ x.2.text) ++ w.last.text

/-- The documents in order. -/
def documents (w : Wire) : List Document := (w.lines.map Prod.fst ++ [w.last]).filterMap WireLine.document?

theorem isScalar_text (w : Wire) : w.text.isScalar = true := by
  have hline (x : WireLine) : ∀ c ∈ x.text, (!c.isSurrogate) = true := by
    intro c hc
    rw [(x.forall_mem_text c hc).2]
    rfl
  have hend (e : LineEnd) : ∀ c ∈ e.text, (!c.isSurrogate) = true := by cases e <;> decide
  rw [Text.isScalar, List.all_eq_true, text, List.forall_mem_append]
  refine ⟨fun c hc => ?_, hline w.last⟩
  obtain ⟨x, -, hx⟩ := List.mem_flatMap.1 hc
  exact List.forall_mem_append.2 ⟨hline x.1, hend x.2⟩ c hx

/-- **The lines of a wire are its documents.** -/
theorem trimmed_pieces (w : Wire) : Text.trimmed (Text.pieces w.text) = w.documents.map Document.text := by
  obtain ⟨lines, last⟩ := w
  have hbreak (x : WireLine) : ∀ c ∈ x.text, c ≠ Text.lineFeed ∧ c ≠ Text.carriageReturn :=
    fun c hc => (x.forall_mem_text c hc).1
  simp only [text, documents, List.filterMap_eq_flatMap_toList]
  induction lines with
  | nil =>
    have hpieces : Text.pieces last.text = [last.text] := Text.piecesFrom_of_no_break (hbreak last) false []
    simp [hpieces, last.trimmed_text]
  | cons x lines ih =>
    rw [List.flatMap_cons, List.append_assoc, List.append_assoc, Text.trimmed_pieces_append (hbreak x.1), ih,
      x.1.trimmed_text, List.map_cons, List.cons_append, List.flatMap_cons, List.map_append]

/-- **Each document becomes one message**, in order, and there are no others, however the bytes are cut into chunks. -/
theorem messages (w : Wire) {chunks : List Bytes} (h : chunks.flatten = Utf8.encode w.text) :
    LineBuffer.run (chunks.map .bytes) = .ok (w.documents.map Document.text) ∧
      Message.ofLines (w.documents.map Document.text) = .ok (w.documents.map Document.message) := by
  have hread : Utf8.readAll .start chunks.flatten = (w.text, .start) := by
    rw [h, Utf8.readAll_encode w.isScalar_text]
  refine ⟨?_, Message.ofLines_documents w.documents⟩
  rw [LineBuffer.run_bytes_of_complete chunks hread, w.trimmed_pieces]

/-- A diagnostic that is written with all its characters, and one thing more in ASCII. A blank line stands between them,
and the second one is left open. -/
def sample : Wire where
  lines := [
    (.document {
      layout := { Json.Layout.compact with asciiOnly := false }
      entries := [("reason", .text "compiler-message"), ("text", .text "\u2028\u0085\u000b\"\\\n😀"),
        ("spans", .list [.int (-12), .map []])]
      separates := Json.Layout.separates_compact false
      oneLine := Json.Layout.oneLine_compact false
      writable := by
        refine .map (by decide) (by decide) ?_
        simp only [List.forall_mem_cons]
        refine ⟨.text rfl, .text rfl, .list ?_, List.forall_mem_nil _⟩
        simp only [List.forall_mem_cons]
        exact ⟨.int (by decide), .map (by decide) (List.forall_mem_nil _) (List.forall_mem_nil _),
          List.forall_mem_nil _⟩ }, .both),
    (.blank " " (by decide), .carriageReturn)]
  last := .document {
    layout := { Json.Layout.compact with asciiOnly := true }
    entries := [("reason", .bool true), ("text", .text "\u2028😀")]
    separates := Json.Layout.separates_compact true
    oneLine := Json.Layout.oneLine_compact true
    writable := by
      refine .map (by decide) (by decide) ?_
      simp only [List.forall_mem_cons]
      exact ⟨.bool true, .text rfl, List.forall_mem_nil _⟩ }

/-- That wire, received byte by byte. -/
theorem messages_sample :
    LineBuffer.run (((Utf8.encode sample.text).map ([·])).map .bytes) = .ok (sample.documents.map Document.text) ∧
      (Message.ofLines (sample.documents.map Document.text)).map (·.map Message.kind) =
        .ok [.compilerDiagnostic, .other] := by
  have hbytes : ((Utf8.encode sample.text).map ([·])).flatten = Utf8.encode sample.text := by
    rw [← List.flatMap_def]
    exact List.flatMap_singleton' _
  obtain ⟨hlines, hmessages⟩ := sample.messages hbytes
  refine ⟨hlines, ?_⟩
  rw [hmessages]
  decide +kernel

end Wire

end ContractBuild
