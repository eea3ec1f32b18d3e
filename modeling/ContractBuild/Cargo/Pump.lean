import ContractBuild.Cargo.Schedule

/-!
# Reads of a given size

An output is read in a loop that asks for at most `size` bytes at once and stops at the first read that is empty. `Read`
says what a read gives, and `Pump` what the loop does with it. A read of a positive size is empty at the end of the
output only, but a read of size zero is always empty, and so the loop stops at once.

A `Reception` is an order in which a program is received whose outputs are both read in this way.
-/

namespace ContractBuild.Cargo

/-- What a read of at most `size` bytes gives when `rest` is still to come (`got`), and what is to come behind it. A
negative size asks for everything up to the end. -/
inductive Read (size : Int) : (rest got left : Bytes) → Prop
  | some {got left : Bytes} (positive : 0 < size) (nonempty : got ≠ []) (bound : (got.length : Int) ≤ size) :
      Read size (got ++ left) got left
  | ended (positive : 0 < size) : Read size [] [] []
  | nothing {rest : Bytes} (zero : size = 0) : Read size rest [] rest
  | everything {rest : Bytes} (negative : size < 0) : Read size rest rest []

/-- The reads of an output of which `rest` is to come, with the empty one that stops the loop. -/
inductive Pump (size : Int) : (rest : Bytes) → List Bytes → Prop
  | stop {rest left : Bytes} (read : Read size rest [] left) : Pump size rest [[]]
  | next {rest got left : Bytes} {reads : List Bytes} (read : Read size rest got left) (nonempty : got ≠ [])
      (more : Pump size left reads) : Pump size rest (got :: reads)

/-- An order in which a program is received that writes `output` and exits with `code`, when both outputs are read with
the same size. -/
structure Reception (size : Int) (output : Stream → Bytes) (code : Int) where
  arrivals : List Arrival
  pumped : ∀ stream, Pump size (output stream) (Arrival.reads stream arrivals)
  exits_eq : Arrival.exits arrivals = [code]

/-- How the build ends whose program is received in this order. -/
def Reception.result? {size : Int} {output : Stream → Bytes} {code : Int} (r : Reception size output code)
    (cwd folder : Text) : Option (Except Session.Error Outcome) :=
  ((Running.start folder).receiveAll cwd folder r.arrivals).result?

end ContractBuild.Cargo
