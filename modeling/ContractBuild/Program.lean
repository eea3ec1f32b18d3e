import ContractBuild.Encoding.Utf8

/-!
# Programs

What a program does when it runs: it writes pieces to its two outputs in some order, takes some time, and ends with an
exit code. The outputs are read in pieces of a size that the reader chooses. `Program.reads` lists these reads in the
order in which they come: any order of reads is that of some program, which writes just these pieces.
-/

namespace ContractBuild

/-- One of the two outputs of a program. -/
inductive Stream where
  | stdout
  | stderr
deriving DecidableEq

/-- A piece of output. -/
structure Piece where
  stream : Stream
  bytes : Bytes
deriving DecidableEq

namespace Piece

/-- The bytes of an output, put together from pieces. -/
def gather (stream : Stream) (pieces : List Piece) : Bytes :=
  pieces.flatMap fun p => if p.stream = stream then p.bytes else []

/-- Bytes in runs of `n + 1`, of which only the last may be shorter. -/
def runs (n : Nat) : Bytes → List Bytes
  | [] => []
  | b :: bs => (b :: bs.take n) :: runs n (bs.drop n)
termination_by bs => bs.length
decreasing_by exact Nat.lt_succ_of_le (by rw [List.length_drop]; exact Nat.sub_le _ _)

/-- A piece cut into pieces of `n + 1` bytes. -/
def cut (n : Nat) (p : Piece) : List Piece := (runs n p.bytes).map (⟨p.stream, ·⟩)

end Piece

/-- What running a program does, and the seconds that it takes, as a quotient. -/
structure Program where
  writes : List Piece
  exitCode : Int
  seconds : Nat × Nat

namespace Program

/-- All bytes of an output. -/
def output (p : Program) (stream : Stream) : Bytes := Piece.gather stream p.writes

/-- The reads of a reader that takes at most `size` bytes at once. A negative size stands for everything up to the end.
With a size of zero the first read is empty, and an empty read is taken for the end. -/
def reads (p : Program) (size : Int) : List Piece :=
  if size < 0 then [⟨.stdout, p.output .stdout⟩, ⟨.stderr, p.output .stderr⟩].filter (·.bytes ≠ [])
  else if size = 0 then []
  else p.writes.flatMap (Piece.cut (size.toNat - 1))

end Program

end ContractBuild
