import ContractBuild.Log
import ContractBuild.Path
import ContractBuild.Settings.Error

/-!
# Paths in settings

A path in the settings is meant from the folder of the settings file. `Settings.resolvePath` replaces it, where it is
found under a list of keys, by the absolute path.
-/

namespace ContractBuild.Settings

/-- What becomes of a value whose path is resolved: it stays, it is replaced, or it has no map where one is needed. -/
inductive Resolution where
  | kept
  | replaced (v : Value)
  | broken

/-- The value with the path under the keys made absolute, `absolute` giving the absolute path. -/
def resolveUnder (absolute : Text → Text) (default : Value) : List Text → Value → Except Error Resolution
  | [], _ => .error .noKeys
  | [key], .map entries =>
    match (Value.entry? key entries).getD default with
    | .null => .ok .kept
    | .text p => .ok (.replaced (.map (Value.put key (.text (absolute p)) entries)))
    | v => .error (.notPath v)
  | key :: next :: keys, .map entries =>
    match Value.entry? key entries with
    | none => (resolveUnder absolute default (next :: keys) (.map [])).map fun _ => .kept
    | some (.map inner) =>
      (resolveUnder absolute default (next :: keys) (.map inner)).map fun
        | .replaced v => .replaced (.map (Value.put key v entries))
        | r => r
    | some _ => .ok .broken
  | _ :: _, v => .error (.noSections v)

/-- What is recorded about keys that do not lead through maps. -/
def brokenRecord (keys : List Text) (default : Value) : Log.Record :=
  ⟨Log.settings, Log.warning,
    "Config path " ++ Text.joinWith "->" keys ++ " structure invalid. Using default '" ++ default.display ++
      "' if available."⟩

/-- Settings with the path under the keys taken from the folder `root`. -/
def resolvePath (cwd root : Text) (keys : List Text) (default settings : Value) :
    Except Error (Value × List Log.Record) :=
  (resolveUnder (fun p => Path.resolve cwd (Path.join root p)) default keys settings).map fun
    | .kept => (settings, [])
    | .replaced v => (v, [])
    | .broken => (settings, [brokenRecord keys default])

end ContractBuild.Settings
