import ContractBuild.Text.Case

/-!
# Documentation of diagnostics

A message that mentions a known subject gets a link. Subjects are looked for in a fixed order and without regard to case;
the first one that occurs decides.
-/

namespace ContractBuild

/-- A subject and where it is documented. -/
structure Documentation where
  keyword : Text
  url : Text
deriving DecidableEq

namespace Documentation

/-- The subjects, in the order in which they are tried. -/
def subjects : List Documentation := [
  ⟨"near_sdk", "https://docs.rs/near-sdk/latest/near_sdk/"⟩,
  ⟨"wasm", "https://docs.near.org/sdk/rust/quickstart"⟩]

/-- The first subject that a text mentions. -/
def ofText? (t : Text) : Option Documentation :=
  let lowered := t.lower
  subjects.find? fun d => lowered.contains d.keyword

/-- The code of a documented diagnostic that has none of its own. -/
def defaultCode : Text := "near"

end Documentation

end ContractBuild
