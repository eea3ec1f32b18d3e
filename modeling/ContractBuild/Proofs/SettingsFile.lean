import ContractBuild.CommandLine.Run
import ContractBuild.Proofs.Entries

/-!
# What a settings file gives

The entries of a settings file have different keys (`Yaml.nodup_parse`), so that each is laid over the built-in settings on
its own (`Settings.entry?_overlay`). `Settings.Holds` says which file is read and which entries are in it, and
`CommandLine.runOn_of_holds` what a run does with them.
-/

namespace ContractBuild

theorem eq_ok_of_toOption {ε α : Type} {x : Except ε α} {a : α} (h : x.toOption = some a) : x = .ok a := by
  cases x with
  | error e => cases h
  | ok b => exact congrArg Except.ok (Option.some.inj h)

namespace Yaml

theorem scalarValue_ne_map {tag : Tag} {t : Text} {entries : List (Text × Value)} :
    scalarValue tag t ≠ .ok (.map entries) := by
  unfold scalarValue
  intro h
  split at h
  all_goals (repeat' split at h) <;> cases h

/-- The keys of a map differ, whatever was written. -/
theorem Node.nodup_toValue {n : Node} {entries : List (Text × Value)} (h : n.toValue = .ok (.map entries)) :
    (entries.map Prod.fst).Nodup := by
  cases n with
  | scalar tag t =>
    rw [toValue] at h
    exact absurd h scalarValue_ne_map
  | list tag items =>
    rw [toValue] at h
    split at h
    · cases hitems : itemValues items <;> rw [hitems] at h <;> cases h
    · cases h
  | map tag pairs =>
    rw [toValue] at h
    split at h
    · cases hpairs : bindings pairs with
      | error e => rw [hpairs] at h; cases h
      | ok b =>
        rw [hpairs] at h
        cases h
        exact Value.nodup_ofBindings b.all
    · cases h

theorem nodup_parse {t : Text} {entries : List (Text × Value)} (h : parse t = .ok (.map entries)) :
    (entries.map Prod.fst).Nodup := by
  unfold parse at h
  cases htokens : tokens t with
  | error e => rw [htokens] at h; cases h
  | ok ts =>
    rw [htokens] at h
    simp only [bind, Except.bind] at h
    cases hnode : Node.ofTokens ts with
    | error e => rw [hnode] at h; cases h
    | ok node? =>
      rw [hnode] at h
      cases node? with
      | none => cases h
      | some node => exact Node.nodup_toValue h

end Yaml

namespace Settings

/-! ## Entries over others -/

/-- Where keys differ, each entry is laid over what was there. -/
theorem entry?_overlay {entries : List (Text × Value)} (h : (entries.map Prod.fst).Nodup) (base : List (Text × Value))
    (key : Text) : Value.entry? key (overlay base entries) = match Value.entry? key entries with
      | none => Value.entry? key base
      | some v => some (laidOver (Value.entry? key base) v) := by
  induction entries generalizing base with
  | nil => rw [overlay]; rfl
  | cons e rest ih =>
    obtain ⟨k, v⟩ := e
    rw [List.map_cons, List.nodup_cons] at h
    rw [overlay, ih h.2, Value.entry?_put]
    by_cases hkey : key = k
    · subst hkey
      rw [if_pos rfl, Value.entry?_cons_self, Value.entry?_eq_none h.1]
    · rw [if_neg hkey, Value.entry?_cons_of_ne hkey]

/-! ## Paths -/

theorem resolvePath_of_map (cwd root name : Text) {key : Text} {entries inner : List (Text × Value)}
    (h : Value.entry? key entries = some (.map inner)) :
    resolvePath cwd root [key, name] .null (.map entries) = match (Value.entry? name inner).getD .null with
      | .null => .ok (.map entries, [])
      | .text p =>
        .ok (.map (Value.put key (.map (Value.put name (.text (Path.resolve cwd (Path.join root p))) inner)) entries), [])
      | v => .error (.notPath v) := by
  rw [resolvePath, resolveUnder, h]
  dsimp only
  rw [resolveUnder]
  cases (Value.entry? name inner).getD .null <;> rfl

/-- What resolving a path in a section does to a map depends on that section only: it fails, it leaves the map as it is,
or it puts another section in. -/
theorem resolvePath_cases (cwd root key name : Text) (found : Option Value) :
    (∃ e, ∀ entries, Value.entry? key entries = found →
        resolvePath cwd root [key, name] .null (.map entries) = .error e) ∨
      (∃ records, ∀ entries, Value.entry? key entries = found →
        resolvePath cwd root [key, name] .null (.map entries) = .ok (.map entries, records)) ∨
      ∃ v records, ∀ entries, Value.entry? key entries = found →
        resolvePath cwd root [key, name] .null (.map entries) = .ok (.map (Value.put key v entries), records) := by
  cases found with
  | none =>
    refine .inr (.inl ⟨[], fun entries h => ?_⟩)
    rw [resolvePath, resolveUnder, h]
    rfl
  | some v =>
    cases v with
    | map inner =>
      have hmap (entries : List (Text × Value)) (h : Value.entry? key entries = some (.map inner)) :=
        resolvePath_of_map cwd root name h
      cases hname : (Value.entry? name inner).getD .null with
      | null =>
        rw [hname] at hmap
        exact .inr (.inl ⟨[], hmap⟩)
      | text p =>
        rw [hname] at hmap
        exact .inr (.inr ⟨_, [], hmap⟩)
      | _ =>
        rw [hname] at hmap
        exact .inl ⟨_, hmap⟩
    | _ =>
      refine .inr (.inl ⟨[brokenRecord [key, name] .null], fun entries h => ?_⟩)
      rw [resolvePath, resolveUnder, h]
      rfl

/-! ## Files -/

/-- The path of the settings file that is asked for. -/
def pathOf (cwd base : Text) (file : Option Text) : Text :=
  Path.resolve cwd (Path.join base (match file with
    | some f => if f.isEmpty then defaultFile else f
    | none => defaultFile))

/-- A settings file that can be read decides what is loaded. -/
theorem load_of_read {disk : Disk} {cwd base : Text} {file : Option Text} {bs : Bytes}
    (h : disk.read cwd (pathOf cwd base file) = .ok bs) :
    load disk cwd base file = ofBytes cwd (pathOf cwd base file) bs := by
  cases file <;> (rw [pathOf] at h ⊢; dsimp only [load] at h ⊢; rw [h])

/-- The settings file that is asked for is at a path, and holds a map with the given entries; an empty file has none. -/
structure Holds (m : Machine) (file : Option Text) (path : Text) (entries : List (Text × Value)) : Prop where
  path_eq : pathOf m.cwd m.cwd file = path
  reads : ∃ bs t document, m.disk.read m.cwd path = .ok bs ∧ Utf8.decodeFile bs = .ok t ∧
    Yaml.parse t.unifyLineEnds = .ok document ∧ (document = .map entries ∨ document = .null ∧ entries = [])

theorem Holds.nodup {m : Machine} {file : Option Text} {path : Text} {entries : List (Text × Value)}
    (h : Holds m file path entries) : (entries.map Prod.fst).Nodup := by
  obtain ⟨bs, t, document, -, -, hparse, rfl | ⟨-, rfl⟩⟩ := h.reads
  · exact Yaml.nodup_parse hparse
  · exact List.nodup_nil

theorem Holds.load_eq {m : Machine} {file : Option Text} {path : Text} {entries : List (Text × Value)}
    (h : Holds m file path entries) : load m.disk m.cwd m.cwd file = ofDocument m.cwd path (.map entries) := by
  obtain ⟨bs, t, document, hread, hdecode, hparse, hdocument⟩ := h.reads
  rw [← h.path_eq] at hread
  rw [load_of_read hread, h.path_eq, ofBytes, hdecode]
  dsimp only
  rw [hparse]
  obtain rfl | ⟨rfl, rfl⟩ := hdocument <;> rfl

/-- The settings that the entries of a file in the folder `root` give. -/
def ofEntries (cwd root : Text) (entries : List (Text × Value)) : Except Error Value :=
  (resolvePath cwd root ["logging", "log_file"] .null (.map (overlay defaults entries))).map Prod.fst

theorem ofDocument_map (cwd path : Text) (entries : List (Text × Value)) :
    (ofDocument cwd path (.map entries)).1 = match ofEntries cwd (Path.parent path) entries with
      | .error e => .error e
      | .ok s => .settings s := by
  rw [ofEntries]
  unfold ofDocument
  simp only [Value.entries?]
  cases resolvePath cwd (Path.parent path) ["logging", "log_file"] .null (.map (overlay defaults entries)) <;> rfl

theorem Holds.load_eq_ofEntries {m : Machine} {file : Option Text} {path : Text} {entries : List (Text × Value)}
    (h : Holds m file path entries) :
    (load m.disk m.cwd m.cwd file).1 = match ofEntries m.cwd (Path.parent path) entries with
      | .error e => .error e
      | .ok s => .settings s := by
  rw [h.load_eq, ofDocument_map]

end Settings

/-- **A run with a settings file.** -/
theorem CommandLine.runOn_of_holds (out : Screen.Output) {m : Machine} {arguments : List Text} {args : Arguments}
    (hargs : parseArguments arguments = .ok args) {path : Text} {entries : List (Text × Value)}
    (hfile : Settings.Holds m args.config path entries) :
    runOn out m arguments = match Settings.ofEntries m.cwd (Path.parent path) entries with
      | .error e => .ended (.error e) m.disk
      | .ok s => runWith out m s args.command := by
  rw [runOn, hargs]
  dsimp only
  rw [hfile.load_eq_ofEntries]
  cases Settings.ofEntries m.cwd (Path.parent path) entries <;> rfl

end ContractBuild
