import ContractBuild.Proofs.Lines

/-!
# What a line buffer holds back

A line buffer that is fed with texts gives every piece but the last, and holds the last one back. A carriage return at
the end of what has been received is held back too and counts as no line end, since a line feed may follow it
(`Text.settled` is the text without it). Where the texts were cut does not matter.

* `OpenLine.pieces_settled`: behind a text the open line is the last piece of its settled part.
* `LineBuffer.performAll_of_finished`: a buffer that is finished gives nothing and takes nothing, and stays as it is.
* `LineBuffer.feed_texts`: the lines so far, what is held back, and what is left for the end.
-/

namespace ContractBuild

namespace Text

/-- The carriage return at the end of a text, when there is one. -/
def unsettled (t : Text) : Text := if t.getLast? = some carriageReturn then [carriageReturn] else []

/-- A text without the carriage return at its end. -/
def settled (t : Text) : Text := if t.getLast? = some carriageReturn then t.dropLast else t

end Text

namespace OpenLine

/-- What is received and no line yet is the open line, and the carriage return that ends the text. -/
theorem text_pushAll (t : Text) : (empty.pushAll t).2.text = (empty.pushAll t).2.line ++ t.unsettled := by
  simp only [text, line, Text.unsettled, pushAll_heldReturn, decide_eq_true_eq]

/-- **The pieces of the settled part** are the lines that the text ends, and the open line behind it. -/
theorem pieces_settled (t : Text) :
    Text.pieces t.settled = (empty.pushAll t).1 ++ [(empty.pushAll t).2.line] := by
  by_cases h : t.getLast? = some Text.carriageReturn
  · obtain ⟨u, rfl⟩ := List.getLast?_eq_some_iff.1 h
    have hsettled : Text.settled (u ++ [Text.carriageReturn]) = u := by simp [Text.settled]
    have hopen := pieces_eq_push_return (u := []) (by simp) (empty.pushAll u).2
    rw [hsettled, ← pieces_empty, ← List.append_nil u, pieces_append, hopen]
    simp [pushAll_append, pushAll]
  · have hheld : (empty.pushAll t).2.heldReturn = false := by simp [pushAll_heldReturn, h]
    rw [Text.settled, if_neg h, ← pieces_empty, pieces_eq, rest, hheld]
    rfl

end OpenLine

namespace Decoder

/-- Texts are taken as they are. -/
theorem readChunks_text (d : Decoder) (ts : List Text) : d.readChunks (ts.map .text) = (ts.flatten, d) := by
  induction ts with
  | nil => rfl
  | cons t ts ih => simp [readChunks, readChunk, ih]

/-- A decoder that has read nothing has nothing left. -/
theorem flush_ofEncoding (e : Encoding) : (ofEncoding e).flush = [] := by cases e <;> rfl

end Decoder

namespace LineBuffer

/-- A call to a line buffer. -/
inductive Call where
  | feed (chunk : Chunk)
  | finish

/-- What a call gives, and the buffer behind it. A call that fails leaves the buffer as it is. -/
def perform (b : LineBuffer) : Call → Except Error (List Text) × LineBuffer
  | .feed chunk =>
    match b.feed chunk with
    | .error e => (.error e, b)
    | .ok (lines, b') => (.ok lines, b')
  | .finish => (.ok b.finish.1, b.finish.2)

/-- Calls one after the other, also behind one that fails. -/
def performAll (b : LineBuffer) : List Call → List (Except Error (List Text)) × LineBuffer
  | [] => ([], b)
  | call :: calls =>
    let (result, b') := b.perform call
    let (results, b'') := b'.performAll calls
    (result :: results, b'')

/-- What a call gives when the output has ended. -/
def Call.late : Call → Except Error (List Text)
  | .feed _ => .error .finished
  | .finish => .ok []

theorem perform_of_finished {b : LineBuffer} (h : b.finished = true) (call : Call) :
    b.perform call = (call.late, b) := by
  cases call <;> simp [perform, feed, finish, Call.late, h]

/-- A finished buffer stays as it is. -/
theorem performAll_of_finished {b : LineBuffer} (h : b.finished = true) (calls : List Call) :
    b.performAll calls = (calls.map Call.late, b) := by
  induction calls with
  | nil => rfl
  | cons call calls ih => simp [performAll, perform_of_finished h, ih]

/-- **Texts in any chunks.** A fresh buffer gives the trimmed pieces of the settled part of all texts together, without
the last one. That one is held back, with the carriage return behind it, until the buffer is finished, which gives it
without the carriage return. Then nothing is left, and no call gives or changes anything any more. One chunk that holds
all texts does the same. -/
theorem feed_texts (e : Encoding) (ts : List Text) :
    let t : Text := ts.flatten
    ∃ ended last b, Text.pieces t.settled = ended ++ [last] ∧
      (ofEncoding e).feedAll (ts.map .text) = .ok (Text.trimmed ended, b) ∧
      b.pending = last ++ t.unsettled ∧
      b.finish.1 = Text.trimmed [last] ∧
      b.finish.2.pending = [] ∧
      (∀ calls, b.finish.2.performAll calls = (calls.map Call.late, b.finish.2)) ∧
      (ofEncoding e).feedAll [.text t] = .ok (Text.trimmed ended, b) := by
  intro t
  let o := OpenLine.empty.pushAll t
  let b : LineBuffer := { ofEncoding e with line := o.2 }
  have hfeed (us : List Text) (hus : us.flatten = t) :
      (ofEncoding e).feedAll (us.map .text) = .ok (Text.trimmed o.1, b) := by
    rw [feedAll_eq rfl, Decoder.readChunks_text, hus]
    rfl
  refine ⟨o.1, o.2.line, b, OpenLine.pieces_settled t, hfeed ts rfl, OpenLine.text_pushAll t, ?_, rfl, ?_, ?_⟩
  · have hflush : b.decoder.flush = [] := Decoder.flush_ofEncoding e
    have hfinish : b.finish.1 = Text.trimmed [o.2.line ++ b.decoder.flush] := rfl
    rw [hfinish, hflush, List.append_nil]
  · exact performAll_of_finished rfl
  · exact hfeed [t] (List.append_nil t)

example : (empty.feedAll [.text "a\r", .text "", .text "\nb\r"]).map (fun r => (r.1, r.2.pending)) =
    .ok (["a"], "b\r") := by
  decide

end LineBuffer

end ContractBuild
