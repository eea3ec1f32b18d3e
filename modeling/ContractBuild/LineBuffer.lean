import ContractBuild.Encoding.Decoder
import ContractBuild.Text.Space

/-!
# Line buffers

Output arrives in chunks that end anywhere: inside a byte sequence, or between the two characters of a line end. A line
buffer puts the lines together. A line ends at a line feed, at a carriage return, or at both together; so a carriage
return that ends a chunk is held until it is known what follows it. Lines are given without the white space around them,
and empty ones not at all.

Only what a chunk holds is looked at when it arrives (`OpenLine.pushAll_append`). When a buffer is finished the line that
is still open is given too, with what the decoder has left and without a held carriage return.

`Text.pieces` is the same rule for a text that is at hand as a whole.
-/

namespace ContractBuild

/-- A piece of output: text, or bytes that are still to be decoded. -/
inductive Chunk where
  | text (t : Text)
  | bytes (bs : Bytes)

/-- The line that is being received: its code points, the last one first, and whether a carriage return is held. -/
structure OpenLine where
  reversed : Text
  heldReturn : Bool
deriving DecidableEq

namespace OpenLine

/-- The line before anything has arrived. -/
def empty : OpenLine := ⟨[], false⟩

/-- The text received so far. -/
def text (o : OpenLine) : Text :=
  o.reversed.reverse ++ (if o.heldReturn then [Text.carriageReturn] else [])

/-- Takes a code point where no carriage return is held. -/
def pushFree (line : Text) (c : CodePoint) : List Text × OpenLine :=
  if c = Text.lineFeed then ([line.reverse], empty)
  else if c = Text.carriageReturn then ([], ⟨line, true⟩)
  else ([], ⟨c :: line, false⟩)

/-- Takes a code point and gives the lines that it ends. -/
def push (o : OpenLine) (c : CodePoint) : List Text × OpenLine :=
  if o.heldReturn then
    if c = Text.lineFeed then ([o.reversed.reverse], empty)
    else
      let (ended, o') := pushFree [] c
      (o.reversed.reverse :: ended, o')
  else pushFree o.reversed c

/-- Takes code points in order and gives the lines that they end. -/
def pushAll : OpenLine → Text → List Text × OpenLine
  | o, [] => ([], o)
  | o, c :: t =>
    let (ended, o') := o.push c
    let (more, o'') := o'.pushAll t
    (ended ++ more, o'')

theorem pushAll_append (o : OpenLine) (t u : Text) :
    o.pushAll (t ++ u) = ((o.pushAll t).1 ++ ((o.pushAll t).2.pushAll u).1, ((o.pushAll t).2.pushAll u).2) := by
  induction t generalizing o with
  | nil => simp [pushAll]
  | cons c t ih => simp [pushAll, ih, List.append_assoc]

end OpenLine

namespace Text

/-- The pieces of the text that follows `line`, the piece so far with its last code point first, split at each line feed,
carriage return, or both together; `afterReturn` says whether a carriage return has just ended a piece. -/
def piecesFrom (afterReturn : Bool) (line : Text) : Text → List Text
  | [] => [line.reverse]
  | c :: t =>
    if afterReturn && c = lineFeed then piecesFrom false line t
    else if c = lineFeed || c = carriageReturn then line.reverse :: piecesFrom (c = carriageReturn) [] t
    else piecesFrom false (c :: line) t

/-- The pieces of a text, split at each line feed, carriage return, or both together. -/
def pieces (t : Text) : List Text := piecesFrom false [] t

/-- Lines without the white space around them, the empty ones left out. -/
def trimmed (ts : List Text) : List Text := (ts.map strip).filter (· ≠ [])

end Text

/-- What puts lines together. -/
structure LineBuffer where
  decoder : Decoder
  line : OpenLine
  finished : Bool
deriving DecidableEq

/-- Why a line buffer does not take a chunk. -/
inductive LineBuffer.Error where
  | finished
deriving DecidableEq

/-- The wording of the error. -/
def LineBuffer.Error.message : LineBuffer.Error → Text
  | .finished => "LineAccumulator.feed() called after finish()"

namespace LineBuffer

/-- A buffer that has received nothing. -/
def ofEncoding (e : Encoding) : LineBuffer := ⟨.ofEncoding e, .empty, false⟩

/-- A buffer for UTF-8 that has received nothing. -/
def empty : LineBuffer := ofEncoding .utf8

/-- What has been received and not yet given as a line. -/
def pending (b : LineBuffer) : Text := b.line.text

/-- Takes text. -/
def feedText (b : LineBuffer) (t : Text) : List Text × LineBuffer :=
  let (ended, line) := b.line.pushAll t
  (Text.trimmed ended, { b with line })

/-- Takes bytes. -/
def feedBytes (b : LineBuffer) (bs : Bytes) : List Text × LineBuffer :=
  let (t, decoder) := b.decoder.read bs
  { b with decoder }.feedText t

/-- Takes a chunk and gives the lines that it ends. -/
def take (b : LineBuffer) : Chunk → List Text × LineBuffer
  | .text t => b.feedText t
  | .bytes bs => b.feedBytes bs

/-- Takes a chunk, unless the output has ended. -/
def feed (b : LineBuffer) (chunk : Chunk) : Except Error (List Text × LineBuffer) :=
  if b.finished then .error .finished else .ok (b.take chunk)

/-- Ends the output and gives the line that was open. A second time there is none. -/
def finish (b : LineBuffer) : List Text × LineBuffer :=
  if b.finished then ([], b)
  else (Text.trimmed [b.line.reversed.reverse ++ b.decoder.flush], { b with line := .empty, finished := true })

end LineBuffer

end ContractBuild
