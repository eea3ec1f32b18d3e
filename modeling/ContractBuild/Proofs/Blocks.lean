import ContractBuild.Proofs.Affixes
import ContractBuild.Proofs.LiveOutput

/-!
# Blocks of calls to a sink

Calls to a sink come in blocks: pieces of text, and then a line of the builder's own or a flush, which ends what is open.
A sink made of log records has the records of each block, and these depend on the text of its pieces alone, wherever it
was cut. Of the pieces behind the last block the line that is still open is held back.

* `blocks_eq_iff`: calls are cut into blocks in one way.
* `Logged.calls_block`, `Logged.calls_blocks`: a block, and then many, give their records and leave nothing held.
* `Logged.calls_in_blocks`: the records of any calls, what is held back behind them, and when it is let go of.
-/

namespace ContractBuild.Sink

/-! ## Cutting calls into blocks -/

/-- A call that ends what is open: a line of the builder's own, or a flush. -/
def ending : Option Text → Call
  | some t => .appendLine t
  | none => .flush

/-- Pieces of text, and the call that ends them. -/
structure Block where
  pieces : List Text
  line? : Option Text
deriving DecidableEq

namespace Block

/-- The text of the pieces. -/
def text (b : Block) : Text := b.pieces.flatten

/-- The calls of a block. -/
def calls (b : Block) : List Call := b.pieces.map .append ++ [ending b.line?]

end Block

/-- Puts a piece of text before blocks and the pieces behind them. -/
def putPiece (t : Text) : List Block × List Text → List Block × List Text
  | ([], pieces) => ([], t :: pieces)
  | (b :: bs, pieces) => ({ b with pieces := t :: b.pieces } :: bs, pieces)

/-- The blocks of calls, and the pieces behind the last one. -/
def blocks : List Call → List Block × List Text
  | [] => ([], [])
  | .append t :: cs => putPiece t (blocks cs)
  | .appendLine t :: cs => (⟨[], some t⟩ :: (blocks cs).1, (blocks cs).2)
  | .flush :: cs => (⟨[], none⟩ :: (blocks cs).1, (blocks cs).2)

/-- The calls of blocks and of the pieces behind them. -/
def callsOf (p : List Block × List Text) : List Call := p.1.flatMap Block.calls ++ p.2.map .append

theorem callsOf_putPiece (t : Text) (p : List Block × List Text) : callsOf (putPiece t p) = .append t :: callsOf p := by
  obtain ⟨_ | ⟨b, bs⟩, pieces⟩ := p <;> rfl

theorem callsOf_blocks (cs : List Call) : callsOf (blocks cs) = cs := by
  induction cs with
  | nil => rfl
  | cons c cs ih =>
    cases c with
    | append t => rw [blocks, callsOf_putPiece, ih]
    | appendLine t => exact congrArg (Call.appendLine t :: ·) ih
    | flush => exact congrArg (Call.flush :: ·) ih

theorem blocks_callsOf (p : List Block × List Text) : blocks (callsOf p) = p := by
  obtain ⟨bs, pieces⟩ := p
  induction bs with
  | nil =>
    induction pieces with
    | nil => rfl
    | cons t pieces ih => exact congrArg (putPiece t) ih
  | cons b bs ih =>
    obtain ⟨ts, line?⟩ := b
    have hblock : callsOf (⟨ts, line?⟩ :: bs, pieces) = ts.map .append ++ ending line? :: callsOf (bs, pieces) := by
      simp [callsOf, Block.calls]
    rw [hblock]
    induction ts with
    | nil => cases line? <;> simp [ending, blocks, ih]
    | cons t ts ihTexts =>
      rw [List.map_cons, List.cons_append, blocks, ihTexts (by simp [callsOf, Block.calls])]
      rfl

/-- **Calls are cut into blocks in one way.** -/
theorem blocks_eq_iff {cs : List Call} {p : List Block × List Text} : p = blocks cs ↔ callsOf p = cs := by
  constructor
  · rintro rfl
    exact callsOf_blocks cs
  · rintro rfl
    exact (blocks_callsOf p).symm

namespace Logged

/-! ## Records of blocks -/

/-- The records of a block: those of the lines of its text, and that of the builder's own line. -/
def recordsOfBlock (level : Log.Level) (b : Block) : List Log.Record :=
  recordsOfLines level (b.text.splitOn Text.lineFeed) ++ recordsOfLines level b.line?.toList

theorem recordsOf_eq (level : Log.Level) (line : Text) : recordsOf level line = recordsOfLines level [line] := by
  rw [← List.flatMap_singleton (recordsOf level) line, flatMap_recordsOf]

theorem recordsOfLines_append (level : Log.Level) (ls ms : List Text) :
    recordsOfLines level (ls ++ ms) = recordsOfLines level ls ++ recordsOfLines level ms := by
  simp [recordsOfLines]

variable {s : Logged}

/-- **A call that ends what is open** gives the record of the line that was held back and that of its own line. -/
theorem call_ending (s : Logged) (line? : Option Text) : s.call (ending line?) =
    (recordsOfLines s.level [s.held] ++ recordsOfLines s.level line?.toList, { s with held := [] }) := by
  cases line? with
  | none =>
    rw [ending, call, flush, recordsOf_eq]
    exact congrArg (·, _) (List.append_nil _).symm
  | some t =>
    rw [ending, call, flush, recordsOf_eq]
    dsimp only
    rw [recordsOf_eq]
    rfl

/-- Pieces of text, where nothing is held before them: the line that is open behind them is held back. -/
theorem calls_pieces (hheld : s.held = []) (texts : List Text) :
    let lines := texts.flatten.splitOn Text.lineFeed
    s.calls (texts.map .append) = (recordsOfLines s.level lines.dropLast, { s with held := lines.getLastD [] }) := by
  have hopen : s.held.splitOn Text.lineFeed = [s.held] := by rw [hheld, List.splitOn_nil]
  have hcalls := calls_of_texts s hopen texts
  dsimp only at hcalls
  rwa [hheld, List.nil_append, flatMap_recordsOf] at hcalls

/-- **A block** gives its records, and leaves nothing held. -/
theorem calls_block (hheld : s.held = []) (b : Block) : s.calls b.calls = (recordsOfBlock s.level b, s) := by
  have hlast : ({ s with held := [] } : Logged) = s := by rw [← hheld]
  rw [Block.calls, calls_append, calls_pieces hheld]
  simp only [calls, call_ending, List.append_nil]
  rw [← List.append_assoc, ← recordsOfLines_append, ← Text.splitOn_eq_concat, recordsOfBlock, Block.text, hlast]

/-- **Blocks** give their records, one after the other. -/
theorem calls_blocks (hheld : s.held = []) (bs : List Block) :
    s.calls (bs.flatMap Block.calls) = (bs.flatMap (recordsOfBlock s.level), s) := by
  induction bs with
  | nil => rfl
  | cons b bs ih => rw [List.flatMap_cons, calls_append, calls_block hheld, ih, List.flatMap_cons]

/-! ## Any calls -/

/-- **The records of any calls.** The calls are cut into blocks in one way. The records are those of the blocks and of the
lines that end in the pieces behind the last block; the line that is open behind these is held back, has no line feed,
and becomes a record with the next call that is no piece, ahead of that call's own line. Then nothing is held. Calls
whose blocks have the same texts, however cut, give the same. -/
theorem calls_in_blocks (level : Log.Level) (cs : List Call) :
    let bs := (blocks cs).1
    let lines := (blocks cs).2.flatten.splitOn Text.lineFeed
    let s := ((start level).calls cs).2
    (∀ p, p = blocks cs ↔ callsOf p = cs) ∧
    ((start level).calls cs).1 = bs.flatMap (recordsOfBlock level) ++ recordsOfLines level lines.dropLast ∧
    s = ⟨level, lines.getLastD []⟩ ∧ Text.lineFeed ∉ s.held ∧
    (∀ line?, (s.call (ending line?)).1 = recordsOfLines level [s.held] ++ recordsOfLines level line?.toList ∧
      (s.call (ending line?)).2.held = []) ∧
    (∀ ds, (blocks ds).1.map (fun b => (b.text, b.line?)) = bs.map (fun b => (b.text, b.line?)) →
      (blocks ds).2.flatten = (blocks cs).2.flatten → (start level).calls ds = (start level).calls cs) := by
  have hcalls (cs : List Call) : (start level).calls cs =
      let lines := (blocks cs).2.flatten.splitOn Text.lineFeed
      ((blocks cs).1.flatMap (recordsOfBlock level) ++ recordsOfLines level lines.dropLast,
        ⟨level, lines.getLastD []⟩) := by
    conv_lhs => rw [← callsOf_blocks cs, callsOf, calls_append, calls_blocks rfl, calls_pieces rfl]
    rfl
  intro bs lines s
  have hs : s = ⟨level, lines.getLastD []⟩ := congrArg Prod.snd (hcalls cs)
  refine ⟨fun p => blocks_eq_iff, congrArg Prod.fst (hcalls cs), hs, ?_, fun line? => ?_, fun ds hbs hpieces => ?_⟩
  · have hmem : lines.getLastD [] ∈ lines := by
      have hlines : lines = lines.dropLast ++ [lines.getLastD []] := Text.splitOn_eq_concat _
      rw [hlines, List.getLastD_concat]
      exact List.mem_append_right _ (List.mem_singleton_self _)
    rw [hs]
    exact Text.not_mem_of_mem_splitOn hmem
  · have hlevel : s.level = level := by rw [hs]
    rw [call_ending, hlevel]
    exact ⟨rfl, rfl⟩
  · have hrecords (es : List Call) : (blocks es).1.flatMap (recordsOfBlock level) =
        ((blocks es).1.map fun b => (b.text, b.line?)).flatMap fun b =>
          recordsOfLines level (b.1.splitOn Text.lineFeed) ++ recordsOfLines level b.2.toList := by
      rw [List.flatMap_map]
      rfl
    rw [hcalls ds, hcalls cs, hrecords ds, hrecords cs, hbs, hpieces]

/-- Two blocks and pieces behind them, cut between the two characters of a line end. -/
def cutCalls : List Call :=
  [.append "a\r", .append "", .append "\nb", .appendLine "c\r\r", .append " ", .flush, .append "\nd"]

/-- The same with other cuts. -/
def uncutCalls : List Call := [.append "a\r\nb", .appendLine "c\r\r", .append " ", .flush, .append "\n", .append "d"]

/-- Both give three records and hold the last line back, which a flush lets go of. -/
theorem calls_in_blocks_cut :
    (start Log.info).calls uncutCalls = (start Log.info).calls cutCalls ∧
    ((start Log.info).calls cutCalls).1.map Log.Record.message = ([("a" : Text), ("b" : Text), ("c" : Text)] : List Text) ∧
    ((start Log.info).calls cutCalls).2.held = "d" ∧
    (((start Log.info).calls cutCalls).2.call .flush).2.held = [] := by
  obtain ⟨-, hrecords, hheld, -, hending, hcut⟩ := calls_in_blocks Log.info cutCalls
  refine ⟨hcut uncutCalls (by decide) (by decide), ?_, ?_, (hending none).2⟩
  · rw [hrecords]
    decide
  · rw [hheld]
    decide

end Logged

end ContractBuild.Sink
