import ContractBuild.Screen.Boxed
import ContractBuild.Screen.Choice
import ContractBuild.Screen.Plain
import ContractBuild.Text.Quoted

/-!
# Outputs

What a screen shows goes to an output in UTF-8. Half of a surrogate pair has no form there, and it depends on the output
which of them it takes all the same. A call for which the screen would write something that the output refuses fails, and
nothing of it is shown. `Output.take` asks calls of a screen in order, up to one that fails; `Output.goOn` and `Output.close`
ask more of them, the one unless a call has failed, the other in any case.
-/

namespace ContractBuild.Screen

/-! ## Screens of both kinds -/

/-- A screen of either kind. -/
inductive Display where
  | boxed (s : Boxed)
  | plain (s : Plain)

namespace Display

/-- The screen of a kind before any call. -/
def start : Kind → Display
  | .boxed _ => .boxed .start
  | .plain => .plain .start

/-- Takes a call, on a screen of the given width. -/
def call (width : Nat) (d : Display) (c : Call) : Text × Display :=
  match d with
  | .boxed s =>
    let (text, s) := s.call width c
    (text, .boxed s)
  | .plain s =>
    let (text, s) := s.call c
    (text, .plain s)

/-- Takes calls in order. -/
def calls (width : Nat) (d : Display) : List Call → Text × Display
  | [] => ([], d)
  | c :: cs =>
    let (first, d) := d.call width c
    let (rest, d) := d.calls width cs
    (first ++ rest, d)

end Display

/-- What a screen of a kind writes for calls, where all of it can be written. -/
def shown (width : Nat) (kind : Option Kind) (calls : List Call) : Text :=
  match kind with
  | none => []
  | some kind => ((Display.start kind).calls width calls).1

/-! ## Outputs -/

/-- What a screen writes to: its width, and the code points that it takes. Only surrogates can be refused. -/
structure Output where
  width : Nat
  takes : CodePoint → Bool
  takes_scalar : ∀ c, c.isSurrogate = false → takes c = true

/-- A text that an output refuses: the first code point that it does not take, how many surrogates stand behind it, and
where it stands. -/
structure Fault where
  first : CodePoint
  more : Nat
  position : Nat
deriving DecidableEq

/-- The wording of a fault. -/
def Fault.message (f : Fault) : Text :=
  let place : Text :=
    if f.more = 0 then "character '\\u" ++ Text.hex 4 f.first.val ++ "' in position " ++ Text.ofNat f.position
    else "characters in position " ++ Text.ofNat f.position ++ "-" ++ Text.ofNat (f.position + f.more)
  "'utf-8' codec can't encode " ++ place ++ ": surrogates not allowed"

/-- What became of calls to a screen: those that were asked, the screen behind them, and why one failed, if one did. -/
structure Taken where
  calls : List Call
  display : Display
  fault : Option Fault

/-- Calls, and then more that were asked of the screen behind them, unless one of the first has failed. -/
def Taken.andThen (t rest : Taken) : Taken :=
  match t.fault with
  | some _ => t
  | none => { rest with calls := t.calls ++ rest.calls }

namespace Output

/-- An output that takes every text. -/
def any : Output := ⟨80, fun _ => true, fun _ _ => rfl⟩

/-- An output that takes what has a form in UTF-8. -/
def utf8 : Output := ⟨80, fun c => !c.isSurrogate, fun _ h => by rw [h]; rfl⟩

/-- The output takes all of a text. -/
def TakesAll (out : Output) (t : Text) : Prop := ∀ c ∈ t, out.takes c = true

instance (out : Output) (t : Text) : Decidable (out.TakesAll t) := inferInstanceAs (Decidable (∀ c ∈ t, _))

/-- Why the output refuses a text, if it does. -/
def fault? (out : Output) (t : Text) : Option Fault :=
  match t.dropWhile out.takes with
  | [] => none
  | c :: rest => some ⟨c, (rest.takeWhile CodePoint.isSurrogate).length, (t.takeWhile out.takes).length⟩

/-- Asks one call of a screen. -/
def ask (out : Output) (d : Display) (c : Call) : Taken :=
  let (text, d) := d.call out.width c
  ⟨[c], d, out.fault? text⟩

/-- Asks calls of a screen in order, up to one that fails. -/
def take (out : Output) (d : Display) : List Call → Taken
  | [] => ⟨[], d, none⟩
  | c :: cs =>
    let first := out.ask d c
    first.andThen (out.take first.display cs)

/-- Goes on with calls, unless one has failed. -/
def goOn (out : Output) (t : Taken) (cs : List Call) : Taken := t.andThen (out.take t.display cs)

/-- Goes on with calls even when one has failed. Of two failures the last one counts. -/
def close (out : Output) (t : Taken) (cs : List Call) : Taken :=
  let rest := out.take t.display cs
  ⟨t.calls ++ rest.calls, rest.display, rest.fault.or t.fault⟩

/-- What the output holds behind calls that were asked: nothing of those that failed. -/
def written (out : Output) (d : Display) : List Call → Text
  | [] => []
  | c :: cs =>
    let (text, d) := d.call out.width c
    (if (out.fault? text).isNone then text else []) ++ out.written d cs

end Output

end ContractBuild.Screen
