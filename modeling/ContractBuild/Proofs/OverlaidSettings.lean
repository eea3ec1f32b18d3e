import ContractBuild.Proofs.KeyPaths

/-!
# Settings laid over others

Where one map is laid over another, the paths of keys decide what becomes of the values that are no maps (`Overlaid`): a
value of the upper map stands where it stood, a value of the lower one stays unless the upper one says something at its
path or ends before it, and nothing else appears. To lay the same map over the result changes nothing.

Settings are loaded by laying the entries of a file over the built-in ones (`Found`), and apart from the path of the log
file they are what that gives (`LoadedOver`).
-/

namespace ContractBuild

namespace Value

/-- A value that is no map stands at a path. -/
def Leaf (v : Value) (path : List Text) (w : Value) : Prop := v.at? path = some w ∧ ¬ w.IsMap

/-- A path goes on behind a value that is no map. -/
def Blocks (v : Value) (path : List Text) : Prop :=
  ∃ start key rest w, path = start ++ key :: rest ∧ v.Leaf start w

theorem blocks_of_not_isMap {v : Value} (h : ¬ v.IsMap) (key : Text) (path : List Text) : v.Blocks (key :: path) :=
  ⟨[], key, path, v, rfl, rfl, h⟩

theorem Blocks.cons {v : Value} {path : List Text} (h : v.Blocks path) {key : Text} {entries : List (Text × Value)}
    (hv : entry? key entries = some v) : (Value.map entries).Blocks (key :: path) := by
  obtain ⟨start, next, rest, w, rfl, hat, hw⟩ := h
  exact ⟨key :: start, next, rest, w, rfl, by rw [at?_cons_map, hv]; exact hat, hw⟩

/-- A path does not go on behind such a value when its keys but the last lead to a map. -/
theorem not_blocks_concat {v : Value} (path : List Text) {entries : List (Text × Value)}
    (h : v.at? path = some (.map entries)) (key : Text) : ¬ v.Blocks (path ++ [key]) := by
  rintro ⟨start, next, rest, w, hpath, hat, hw⟩
  obtain ⟨more, rfl⟩ : start <+: path := by
    have hlength := congrArg List.length hpath
    simp only [List.length_append, List.length_cons, List.length_nil] at hlength
    exact List.prefix_of_prefix_length_le (hpath ▸ List.prefix_append start _) (List.prefix_append path [key]) (by omega)
  rw [at?_append, hat, Option.bind_some] at h
  cases more with
  | nil => exact hw ⟨entries, Option.some.inj h⟩
  | cons k more => exact hw (isMap_of_at?_cons h)

theorem not_leaf_nil_map (entries : List (Text × Value)) (w : Value) : ¬ (Value.map entries).Leaf [] w := by
  rintro ⟨hat, hw⟩
  exact hw ⟨entries, (Option.some.inj hat).symm⟩

theorem leaf_cons_map {key : Text} {path : List Text} {entries : List (Text × Value)} {w : Value} :
    (Value.map entries).Leaf (key :: path) w ↔ ∃ v, entry? key entries = some v ∧ v.Leaf path w := by
  constructor
  · rintro ⟨hat, hw⟩
    rw [at?_cons_map] at hat
    obtain ⟨v, hv, hat⟩ := Option.bind_eq_some_iff.1 hat
    exact ⟨v, hv, hat, hw⟩
  · rintro ⟨v, hv, hat, hw⟩
    exact ⟨by rw [at?_cons_map, hv]; exact hat, hw⟩

end Value

namespace Settings

/-! ## One value over another -/

theorem laidOver_map (base entries : List (Text × Value)) :
    laidOver (some (.map base)) (.map entries) = .map (overlay base entries) := by rw [laidOver]

theorem laidOver_none (v : Value) : laidOver none v = v := by
  cases v <;> rw [laidOver]
  exact nofun

theorem laidOver_of_not_isMap {v : Value} (h : ¬ v.IsMap) (old : Option Value) : laidOver old v = v := by
  cases v with
  | map entries => exact absurd (Value.isMap_map entries) h
  | null | bool _ | int _ | float _ | text _ | list _ => rw [laidOver]

theorem laidOver_of_old_not_isMap {old : Value} (h : ¬ old.IsMap) (v : Value) : laidOver (some old) v = v := by
  cases v with
  | map entries =>
    cases old with
    | map base => exact absurd (Value.isMap_map base) h
    | null | bool _ | int _ | float _ | text _ | list _ => rw [laidOver]; exact nofun
  | null | bool _ | int _ | float _ | text _ | list _ => rw [laidOver]

/-- A map is laid over a map entry by entry, and any other value takes the place of what was there. -/
theorem laidOver_cases (old : Option Value) (v : Value) :
    (∃ base entries, old = some (.map base) ∧ v = .map entries) ∨
      laidOver old v = v ∧ ((∀ w, old = some w → ¬ w.IsMap) ∨ ¬ v.IsMap) := by
  by_cases hv : v.IsMap
  · obtain ⟨entries, rfl⟩ := hv
    cases old with
    | none => exact .inr ⟨laidOver_none _, .inl nofun⟩
    | some old =>
      by_cases hold : old.IsMap
      · obtain ⟨base, rfl⟩ := hold
        exact .inl ⟨base, entries, rfl, rfl⟩
      · exact .inr ⟨laidOver_of_old_not_isMap hold _, .inl fun w hw => Option.some.inj hw ▸ hold⟩
  · exact .inr ⟨laidOver_of_not_isMap hv old, .inr hv⟩

/-- The value at a path in a map laid over another. -/
theorem at?_overlay {entries : List (Text × Value)} (h : (entries.map Prod.fst).Nodup) (base : List (Text × Value))
    (key : Text) (path : List Text) :
    (Value.map (overlay base entries)).at? (key :: path) = match Value.entry? key entries with
      | none => (Value.map base).at? (key :: path)
      | some v => (laidOver (Value.entry? key base) v).at? path := by
  rw [Value.at?_cons_map, entry?_overlay h]
  cases Value.entry? key entries <;> rfl

/-- Where the upper value has something, that is laid over what the lower one has there. -/
theorem at?_laidOver_of_some {v : Value} (hv : v.WellKeyed) {path : List Text} {w : Value} (h : v.at? path = some w)
    (old : Option Value) : (laidOver old v).at? path = some (laidOver (old.bind (Value.at? path)) w) := by
  induction path generalizing old v with
  | nil =>
    obtain rfl := Option.some.inj h
    cases old <;> rfl
  | cons key path ih =>
    obtain ⟨base, entries, rfl, rfl⟩ | ⟨hsame, hold⟩ := laidOver_cases old v
    · rw [Value.at?_cons_map] at h
      obtain ⟨u, hu, h⟩ := Option.bind_eq_some_iff.1 h
      rw [laidOver_map, at?_overlay hv.nodup, hu, Option.bind_some, Value.at?_cons_map]
      exact ih (hv.of_entry hu) h (Value.entry? key base)
    · have hnone : old.bind (Value.at? (key :: path)) = none := by
        refine Option.bind_eq_none_iff.2 fun w hw => Option.eq_none_iff_forall_ne_some.2 fun u hu => ?_
        exact hold.elim (fun hold => hold w hw (Value.isMap_of_at?_cons hu)) fun hv => hv (Value.isMap_of_at?_cons h)
      rw [hsame, h, hnone, laidOver_none]

/-- A value that is no map stands where it stood before it was laid over something. -/
theorem at?_laidOver_of_leaf {v : Value} (hv : v.WellKeyed) {path : List Text} {w : Value} (h : v.Leaf path w)
    (old : Option Value) : (laidOver old v).at? path = some w := by
  rw [at?_laidOver_of_some hv h.1, laidOver_of_not_isMap h.2]

/-- Behind a value of the upper one that is no map there is nothing. -/
theorem at?_laidOver_of_blocks {v : Value} (hv : v.WellKeyed) {path : List Text} (h : v.Blocks path)
    (old : Option Value) : (laidOver old v).at? path = none := by
  obtain ⟨start, key, rest, w, rfl, hleaf⟩ := h
  rw [Value.at?_append, at?_laidOver_of_leaf hv hleaf, Option.bind_some]
  exact Option.eq_none_iff_forall_ne_some.2 fun u hu => hleaf.2 (Value.isMap_of_at?_cons hu)

/-- Where the upper value has nothing and nothing before it either, the lower one stays. -/
theorem at?_laidOver_of_free {v : Value} (hv : v.WellKeyed) {path : List Text} (h : v.at? path = none)
    (hfree : ¬ v.Blocks path) (old : Value) : (laidOver (some old) v).at? path = old.at? path := by
  induction path generalizing old v with
  | nil => cases h
  | cons key path ih =>
    have hmap : v.IsMap := by
      by_contra hmap
      exact hfree (Value.blocks_of_not_isMap hmap key path)
    obtain ⟨base, entries, hold, rfl⟩ | ⟨hsame, hold⟩ := laidOver_cases (some old) v
    · obtain rfl := Option.some.inj hold
      rw [laidOver_map, at?_overlay hv.nodup]
      rw [Value.at?_cons_map] at h
      cases hu : Value.entry? key entries with
      | none => rfl
      | some u =>
        rw [hu] at h
        have hinner (oldInner : Value) : (laidOver (some oldInner) u).at? path = oldInner.at? path :=
          ih (hv.of_entry hu) h (fun hblocks => hfree (hblocks.cons hu)) oldInner
        rw [Value.at?_cons_map]
        cases Value.entry? key base with
        | none => exact (congrArg (Value.at? path) (laidOver_none u)).trans h
        | some oldInner => exact hinner oldInner
    · obtain hold | hv := hold
      · rw [hsame, h]
        exact (Option.eq_none_iff_forall_ne_some.2 fun u hu => hold old rfl (Value.isMap_of_at?_cons hu)).symm
      · exact absurd hmap hv

theorem nodup_overlay {base : List (Text × Value)} (h : (base.map Prod.fst).Nodup) (entries : List (Text × Value)) :
    ((overlay base entries).map Prod.fst).Nodup := by
  induction entries generalizing base with
  | nil => rwa [overlay]
  | cons e rest ih =>
    rw [overlay]
    exact ih (Value.nodup_put h e.1 _)

theorem wellKeyed_laidOver {v : Value} (hv : v.WellKeyed) {old : Option Value} (hold : ∀ w, old = some w → w.WellKeyed) :
    (laidOver old v).WellKeyed := by
  intro path inner h
  induction path generalizing old v with
  | nil =>
    obtain ⟨base, entries, rfl, rfl⟩ | ⟨hsame, -⟩ := laidOver_cases old v
    · rw [laidOver_map] at h
      obtain rfl := Value.map.inj (Option.some.inj h)
      exact nodup_overlay (hold _ rfl).nodup entries
    · rw [hsame] at h
      exact hv [] inner h
  | cons key path ih =>
    obtain ⟨base, entries, rfl, rfl⟩ | ⟨hsame, -⟩ := laidOver_cases old v
    · rw [laidOver_map, at?_overlay hv.nodup] at h
      cases hu : Value.entry? key entries with
      | none =>
        rw [hu] at h
        exact hold _ rfl (key :: path) inner h
      | some u =>
        rw [hu] at h
        exact ih (hv.of_entry hu) (fun w hw => (hold _ rfl).of_entry hw) h
    · rw [hsame] at h
      exact hv (key :: path) inner h

/-! ## The same value once more -/

/-- To put what is there changes nothing. -/
theorem put_of_entry {key : Text} {v : Value} {entries : List (Text × Value)} (h : Value.entry? key entries = some v) :
    Value.put key v entries = entries := by
  induction entries with
  | nil => cases h
  | cons e rest ih =>
    obtain ⟨k, w⟩ := e
    rw [Value.put]
    by_cases hkey : k = key
    · subst hkey
      rw [Value.entry?_cons_self] at h
      rw [if_pos rfl, Option.some.inj h]
    · rw [Value.entry?_cons_of_ne (Ne.symm hkey)] at h
      rw [if_neg hkey, ih h]

/-- Entries change nothing where what each gives is there. -/
theorem overlay_of_fixed {base entries : List (Text × Value)}
    (h : ∀ e ∈ entries, ∃ w, Value.entry? e.1 base = some w ∧ laidOver (some w) e.2 = w) : overlay base entries = base := by
  induction entries with
  | nil => rw [overlay]
  | cons e rest ih =>
    obtain ⟨w, hw, hfixed⟩ := h e List.mem_cons_self
    rw [overlay, hw, hfixed, put_of_entry hw]
    exact ih fun e he => h e (List.mem_cons_of_mem _ he)

/-- What a map gives, over a map or over nothing, has what each of its entries gives. -/
theorem exists_laidOver_map {entries : List (Text × Value)} (h : (entries.map Prod.fst).Nodup) (old : Option Value) :
    ∃ merged, laidOver old (.map entries) = .map merged ∧
      ∀ e ∈ entries, ∃ inner, Value.entry? e.1 merged = some (laidOver inner e.2) := by
  obtain ⟨base, other, rfl, hother⟩ | ⟨hsame, -⟩ := laidOver_cases old (.map entries)
  · refine ⟨overlay base entries, laidOver_map base entries, fun e he => ⟨Value.entry? e.1 base, ?_⟩⟩
    rw [entry?_overlay h, Value.entry?_of_mem h he]
  · exact ⟨entries, hsame, fun e he => ⟨none, by rw [laidOver_none, Value.entry?_of_mem h he]⟩⟩

mutual

/-- To lay a value over what it gave changes nothing. -/
theorem laidOver_again : ∀ {v : Value}, v.WellKeyed → ∀ old, laidOver (some (laidOver old v)) v = laidOver old v
  | .null, _, _ | .bool _, _, _ | .int _, _, _ | .float _, _, _ | .text _, _, _ | .list _, _, _ => by
    simp only [laidOver]
  | .map entries, hv, old => by
    obtain ⟨merged, hmerged, hentries⟩ := exists_laidOver_map hv.nodup old
    rw [hmerged, laidOver_map]
    refine congrArg Value.map (overlay_of_fixed fun e he => ?_)
    obtain ⟨inner, hinner⟩ := hentries e he
    exact ⟨_, hinner, laidOver_again_of_mem entries (fun e he => hv.of_mem he) e he inner⟩

theorem laidOver_again_of_mem : ∀ (entries : List (Text × Value)), (∀ e ∈ entries, e.2.WellKeyed) →
    ∀ e ∈ entries, ∀ old, laidOver (some (laidOver old e.2)) e.2 = laidOver old e.2
  | [], _, _, he, _ => nomatch he
  | (_, v) :: rest, h, e, he, old => by
    rcases List.mem_cons.1 he with rfl | he
    · exact laidOver_again (v := v) (h _ List.mem_cons_self) old
    · exact laidOver_again_of_mem rest (fun e he => h e (List.mem_cons_of_mem _ he)) e he old

end

/-- What becomes of the paths of keys where one value is laid over another. -/
structure Overlaid (base override merged : Value) : Prop where
  override_wins : ∀ path w, override.Leaf path w → merged.at? path = some w
  base_stays : ∀ path w, base.Leaf path w → override.at? path = none → ¬ override.Blocks path → merged.at? path = some w
  nothing_else : ∀ path, merged.at? path ≠ none → base.at? path ≠ none ∨ override.at? path ≠ none

theorem overlaid_laidOver (base : Value) {override : Value} (h : override.WellKeyed) :
    Overlaid base override (laidOver (some base) override) where
  override_wins _ _ hleaf := at?_laidOver_of_leaf h hleaf (some base)
  base_stays _ _ hleaf hnone hfree := (at?_laidOver_of_free h hnone hfree base).trans hleaf.1
  nothing_else path hat := by
    by_contra hnone
    rw [not_or, not_ne_iff, not_ne_iff] at hnone
    refine hat ?_
    by_cases hblocks : override.Blocks path
    · exact at?_laidOver_of_blocks h hblocks (some base)
    · rw [at?_laidOver_of_free h hnone.2 hblocks, hnone.1]

/-! ## Paths in settings -/

/-- Settings that differ from others at a path. -/
structure SameBut (path : List Text) (old new : Value) : Prop where
  leaf_stays : ∀ p w, p ≠ path → old.Leaf p w → new.at? p = some w
  nothing_else : ∀ p, new.at? p ≠ none → old.at? p ≠ none

theorem sameBut_of_not_isMap {old new : Value} (hold : ¬ old.IsMap) (hnew : ¬ new.IsMap) : SameBut [] old new where
  leaf_stays p w hp h := by
    cases p with
    | nil => exact absurd rfl hp
    | cons key p => exact absurd (Value.isMap_of_at?_cons h.1) hold
  nothing_else p h := by
    cases p with
    | nil => exact nofun
    | cons key p =>
      obtain ⟨w, hw⟩ := Option.ne_none_iff_exists'.1 h
      exact absurd (Value.isMap_of_at?_cons hw) hnew

/-- A value that is changed at a path is put in its place. -/
theorem SameBut.put {path : List Text} {old new : Value} (h : SameBut path old new) {key : Text}
    {entries : List (Text × Value)} (hold : Value.entry? key entries = some old) :
    SameBut (key :: path) (.map entries) (.map (Value.put key new entries)) where
  leaf_stays p w hp hleaf := by
    cases p with
    | nil => exact absurd hleaf (Value.not_leaf_nil_map entries w)
    | cons k p =>
      rw [Value.at?_put]
      split
      · rename_i hkey
        subst hkey
        obtain ⟨u, hu, hleaf⟩ := Value.leaf_cons_map.1 hleaf
        obtain rfl := Option.some.inj (hold.symm.trans hu)
        exact h.leaf_stays p w (fun heq => hp (by rw [heq])) hleaf
      · exact hleaf.1
  nothing_else p hat := by
    cases p with
    | nil => exact nofun
    | cons k p =>
      rw [Value.at?_put] at hat
      split at hat
      · rename_i hkey
        subst hkey
        rw [Value.at?_cons_map, hold]
        exact h.nothing_else p hat
      · exact hat

/-- What the value under two keys does to the resolving of a path there: a text is replaced by the absolute path, null and
nothing are left, and anything else is an error. -/
inductive Resolved (cwd root : Text) (keys : List Text) (settings : Value) : Prop
  | replaced (p : Text) (new : Value) (records : List Log.Record) (found : settings.at? keys = some (.text p))
      (eq : resolvePath cwd root keys .null settings = .ok (new, records))
      (absolute : new.at? keys = some (.text (Path.resolve cwd (Path.join root p)))) (same : SameBut keys settings new)
  | kept (records : List Log.Record) (found : settings.at? keys = none ∨ settings.at? keys = some .null)
      (eq : resolvePath cwd root keys .null settings = .ok (settings, records))
  | failed (v : Value) (found : settings.at? keys = some v) (null : v ≠ .null) (text : ∀ p, v ≠ .text p)
      (eq : resolvePath cwd root keys .null settings = .error (.notPath v))

theorem resolved (cwd root key name : Text) (entries : List (Text × Value)) :
    Resolved cwd root [key, name] (.map entries) := by
  have hat : (Value.map entries).at? [key, name] = (Value.entry? key entries).bind (Value.at? [name]) := rfl
  cases hsection : Value.entry? key entries with
  | none =>
    rw [hsection] at hat
    exact .kept [] (.inl hat) (by rw [resolvePath, resolveUnder, hsection]; rfl)
  | some found =>
    rw [hsection] at hat
    cases found with
    | map inner =>
      have heq := resolvePath_of_map cwd root name hsection
      replace hat : (Value.map entries).at? [key, name] = (Value.entry? name inner).bind (Value.at? []) := hat
      cases hname : Value.entry? name inner with
      | none =>
        rw [hname] at heq hat
        exact .kept [] (.inl hat) heq
      | some v =>
        rw [hname] at heq hat
        cases v with
        | null => exact .kept [] (.inr hat) heq
        | text p =>
          have hsame : SameBut [] (.text p) (.text (Path.resolve cwd (Path.join root p))) :=
            sameBut_of_not_isMap (Value.not_isMap_text _) (Value.not_isMap_text _)
          refine .replaced p _ [] hat heq ?_ ((hsame.put hname).put hsection)
          rw [Value.at?_put, if_pos rfl, Value.at?_put, if_pos rfl, Value.at?]
        | bool _ | int _ | float _ | list _ | map _ =>
          refine .failed _ hat ?_ ?_ heq
          · intro h
            cases h
          · intro p h
            cases h
    | null | bool _ | int _ | float _ | text _ | list _ =>
      exact .kept [brokenRecord [key, name] .null] (.inl hat) (by rw [resolvePath, resolveUnder, hsection]; rfl)

/-! ## Loaded settings -/

/-- The keys of the path of the log file. -/
def logFile : List Text := ["logging", "log_file"]

/-- What is in the settings file that is asked for: the entries of its map, and none in an empty file or where the file of
the default name is missing. -/
inductive Found (disk : Disk) (cwd base : Text) (file : Option Text) : List (Text × Value) → Prop
  | read {bs : Bytes} {t : Text} {document : Value} {entries : List (Text × Value)}
      (reads : disk.read cwd (pathOf cwd base file) = .ok bs) (decodes : Utf8.decodeFile bs = .ok t)
      (parses : Yaml.parse t.unifyLineEnds = .ok document)
      (gives : document = .map entries ∨ document = .null ∧ entries = []) : Found disk cwd base file entries
  | missing {e : SystemError} (asked : file = none) (refused : disk.read cwd (pathOf cwd base file) = .error e)
      (absent : e.number = 2) : Found disk cwd base file []

/-- Settings that were loaded: the entries of a file in the folder `root`, laid over the built-in settings, with the path of
the log file made absolute. -/
structure LoadedOver (cwd root : Text) (entries : List (Text × Value)) (settings : Value) : Prop where
  default_stays : ∀ path w, (Value.map defaults).Leaf path w → (Value.map entries).at? path = none →
    ¬ (Value.map entries).Blocks path → settings.at? path = some w
  loaded_stays : ∀ path w, path ≠ logFile → (Value.map entries).Leaf path w → settings.at? path = some w
  nothing_else : ∀ path, settings.at? path ≠ none →
    (Value.map defaults).at? path ≠ none ∨ (Value.map entries).at? path ≠ none
  log_file_absolute : ∀ p, (Value.map entries).at? logFile = some (.text p) →
    settings.at? logFile = some (.text (Path.resolve cwd (Path.join root p)))
  log_file_null : (Value.map entries).at? logFile = some .null → settings.at? logFile = some .null

/-- The settings that entries give: they fail where the path of the log file is neither a text nor null. -/
theorem ofEntries_cases {entries : List (Text × Value)} (h : (Value.map entries).WellKeyed) (cwd root : Text) :
    (∃ s, ofEntries cwd root entries = .ok s ∧ LoadedOver cwd root entries s) ∨
      ∃ v, ofEntries cwd root entries = .error (.notPath v) ∧ (Value.map entries).at? logFile = some v ∧ v ≠ .null ∧
        ∀ p, v ≠ .text p := by
  have hover : Overlaid (.map defaults) (.map entries) (.map (overlay defaults entries)) :=
    laidOver_map defaults entries ▸ overlaid_laidOver (.map defaults) h
  have hfound {v : Value} (hv : (Value.map entries).at? logFile = some v) :
      (Value.map (overlay defaults entries)).at? logFile = some v := by
    rw [← laidOver_map, at?_laidOver_of_some h hv]
    refine congrArg some (laidOver_of_old_not_isMap ?_ v)
    rintro ⟨_, hnull⟩
    cases hnull
  cases resolved cwd root "logging" "log_file" (overlay defaults entries) with
  | replaced p new records found eq absolute same =>
    refine .inl ⟨new, by rw [ofEntries, eq]; rfl, ?_, ?_, ?_, ?_, ?_⟩
    · intro path w hleaf hnone hfree
      have hat := hover.base_stays path w hleaf hnone hfree
      refine same.leaf_stays path w ?_ ⟨hat, hleaf.2⟩
      rintro rfl
      cases hleaf.1
      cases hat.symm.trans found
    · intro path w hpath hleaf
      exact same.leaf_stays path w hpath ⟨hover.override_wins path w hleaf, hleaf.2⟩
    · intro path hat
      exact hover.nothing_else path (same.nothing_else path hat)
    · intro q hq
      cases (hfound hq).symm.trans found
      exact absolute
    · intro hnull
      cases (hfound hnull).symm.trans found
  | kept records found eq =>
    refine .inl ⟨_, by rw [ofEntries, eq]; rfl, hover.base_stays, fun path w _ => hover.override_wins path w,
      hover.nothing_else, ?_, hfound⟩
    intro q hq
    obtain found | found := found <;> cases (hfound hq).symm.trans found
  | failed v found null text eq =>
    refine .inr ⟨v, by rw [ofEntries, eq]; rfl, ?_, null, text⟩
    cases hat : (Value.map entries).at? logFile with
    | some u => exact (hfound hat).symm.trans found
    | none =>
      exfalso
      by_cases hblocks : (Value.map entries).Blocks logFile
      · have hnone := at?_laidOver_of_blocks h hblocks (some (.map defaults))
        rw [laidOver_map] at hnone
        cases hnone.symm.trans found
      · have hnull := at?_laidOver_of_free h hat hblocks (.map defaults)
        rw [laidOver_map] at hnull
        cases hnull.symm.trans found
        exact null rfl

theorem Found.wellKeyed {disk : Disk} {cwd base : Text} {file : Option Text} {entries : List (Text × Value)}
    (h : Found disk cwd base file entries) : (Value.map entries).WellKeyed := by
  cases h with
  | read reads decodes parses gives =>
    obtain rfl | ⟨-, rfl⟩ := gives
    · exact Yaml.wellKeyed_parse parses
    · exact Value.wellKeyed_empty
  | missing asked refused absent => exact Value.wellKeyed_empty

/-- A settings file that cannot be read ends the program, unless it is the one of the default name and missing. -/
theorem load_of_refused {disk : Disk} {cwd base : Text} {file : Option Text} {e : SystemError}
    (h : disk.read cwd (pathOf cwd base file) = .error e) :
    (load disk cwd base file).1 = if e.number = 2 ∧ file = none then .settings (.map defaults) else .exit 1 := by
  cases file with
  | none =>
    rw [pathOf] at h
    dsimp only [load]
    rw [h]
    dsimp only
    by_cases he : e.number = 2
    · rw [if_neg (not_not_intro he)]
      exact (if_pos ⟨he, rfl⟩).symm
    · rw [if_pos he]
      exact (if_neg fun hmissing => he hmissing.1).symm
  | some f =>
    have hgiven : ¬ (e.number = 2 ∧ some f = none) := fun hmissing => Option.some_ne_none f hmissing.2
    rw [if_neg hgiven]
    rw [pathOf] at h
    dsimp only [load] at h ⊢
    rw [h]
    dsimp only
    split <;> rfl

theorem Found.load_eq {disk : Disk} {cwd base : Text} {file : Option Text} {entries : List (Text × Value)}
    (h : Found disk cwd base file entries) :
    (load disk cwd base file).1 = match ofEntries cwd (Path.parent (pathOf cwd base file)) entries with
      | .error e => .error e
      | .ok s => .settings s := by
  refine Eq.trans ?_ (ofDocument_map cwd (pathOf cwd base file) entries)
  cases h with
  | read reads decodes parses gives =>
    rw [load_of_read reads, ofBytes, decodes]
    dsimp only
    rw [parses]
    obtain rfl | ⟨rfl, rfl⟩ := gives <;> rfl
  | missing asked refused absent =>
    rw [load_of_refused refused, if_pos ⟨absent, asked⟩]
    rfl

/-- Settings come from what is found. -/
theorem exists_found {disk : Disk} {cwd base : Text} {file : Option Text} {s : Value}
    (h : (load disk cwd base file).1 = .settings s) : ∃ entries, Found disk cwd base file entries := by
  cases hread : disk.read cwd (pathOf cwd base file) with
  | ok bs =>
    rw [load_of_read hread, ofBytes] at h
    cases hdecode : Utf8.decodeFile bs with
    | error f => rw [hdecode] at h; cases h
    | ok t =>
      rw [hdecode] at h
      dsimp only at h
      cases hparse : Yaml.parse t.unifyLineEnds with
      | error e => rw [hparse] at h; cases e <;> cases h
      | ok document =>
        rw [hparse] at h
        cases document with
        | map entries => exact ⟨entries, .read hread hdecode hparse (.inl rfl)⟩
        | null => exact ⟨[], .read hread hdecode hparse (.inr ⟨rfl, rfl⟩)⟩
        | bool _ | int _ | float _ | text _ | list _ => cases h
  | error e =>
    rw [load_of_refused hread] at h
    split at h
    · rename_i hmissing
      exact ⟨[], .missing hmissing.2 hread hmissing.1⟩
    · cases h

/-- One map merged over another. -/
theorem exists_merged {base override : List (Text × Value)} (hbase : (Value.map base).WellKeyed)
    (hoverride : (Value.map override).WellKeyed) : ∃ merged, merge (.map base) (.map override) = .ok merged ∧
      merged.WellKeyed ∧ Overlaid (.map base) (.map override) merged ∧ merge merged (.map override) = .ok merged := by
  have heq : laidOver (some (.map base)) (.map override) = .map (overlay base override) := laidOver_map base override
  have hkeyed := wellKeyed_laidOver hoverride fun w (hw : some (.map base) = some w) => Option.some.inj hw ▸ hbase
  have hover := overlaid_laidOver (.map base) hoverride
  have hagain := laidOver_again hoverride (some (.map base))
  rw [heq] at hkeyed hover hagain
  rw [laidOver_map] at hagain
  refine ⟨.map (overlay base override), ?_, hkeyed, hover, ?_⟩
  · rw [merge]
  · rw [merge, hagain]

theorem Found.loadedOver {disk : Disk} {cwd base : Text} {file : Option Text} {entries : List (Text × Value)}
    (h : Found disk cwd base file entries) {s : Value} (hload : (load disk cwd base file).1 = .settings s) :
    LoadedOver cwd (Path.parent (pathOf cwd base file)) entries s := by
  rw [h.load_eq] at hload
  obtain ⟨loaded, hloaded, hover⟩ | ⟨v, hfailed, -⟩ :=
    ofEntries_cases h.wellKeyed cwd (Path.parent (pathOf cwd base file))
  · rw [hloaded] at hload
    cases hload
    exact hover
  · rw [hfailed] at hload
    cases hload

theorem Found.exists_settings {disk : Disk} {cwd base : Text} {file : Option Text} {entries : List (Text × Value)}
    (h : Found disk cwd base file entries)
    (hlog : ∀ v, (Value.map entries).at? logFile = some v → v = .null ∨ ∃ p, v = .text p) :
    ∃ s, (load disk cwd base file).1 = .settings s := by
  rw [h.load_eq]
  obtain ⟨loaded, hloaded, -⟩ | ⟨v, -, hat, hnull, htext⟩ :=
    ofEntries_cases h.wellKeyed cwd (Path.parent (pathOf cwd base file))
  · rw [hloaded]
    exact ⟨loaded, rfl⟩
  · obtain rfl | ⟨p, rfl⟩ := hlog v hat
    · exact absurd rfl hnull
    · exact absurd rfl (htext p)

/-- **Settings over others.** Of two maps laid over each other the paths of keys tell what stands where, and to lay the upper
one over the result changes nothing. Settings that are loaded are the entries that are found, laid over the built-in ones,
but for the path of the log file; they are loaded unless that is neither a text nor null. -/
theorem overlaid_settings :
    (∀ base override : List (Text × Value), (Value.map base).WellKeyed → (Value.map override).WellKeyed →
      ∃ merged, merge (.map base) (.map override) = .ok merged ∧ merged.WellKeyed ∧
        Overlaid (.map base) (.map override) merged ∧ merge merged (.map override) = .ok merged) ∧
    ∀ (disk : Disk) (cwd base : Text) (file : Option Text),
      (∀ s, (load disk cwd base file).1 = .settings s → ∃ entries, Found disk cwd base file entries) ∧
      ∀ entries, Found disk cwd base file entries →
        (∀ s, (load disk cwd base file).1 = .settings s →
          LoadedOver cwd (Path.parent (pathOf cwd base file)) entries s) ∧
        ((∀ v, (Value.map entries).at? logFile = some v → v = .null ∨ ∃ p, v = .text p) →
          ∃ s, (load disk cwd base file).1 = .settings s) := by
  constructor
  · intro base override hbase hoverride
    exact exists_merged hbase hoverride
  · intro disk cwd base file
    constructor
    · intro s hload
      exact exists_found hload
    · intro entries hfound
      exact ⟨fun s hload => hfound.loadedOver hload, hfound.exists_settings⟩

/-- Entries that are laid over others. -/
def lowerEntries : List (Text × Value) :=
  [("a", .map [("x", .int 1), ("y", .map [("p", .int 1)])]), ("b", .int 2), ("c", .int 3)]

/-- Entries with a map where those have none, and none where those have one, at both depths. -/
def upperEntries : List (Text × Value) :=
  [("a", .map [("x", .map [("q", .int 4)]), ("y", .int 5)]), ("b", .map [("r", .int 6)])]

/-- The text of a settings file. -/
def logText : Text := "logging:\n  log_file: a.log\n"

/-- A machine's disk with that settings file. -/
def logDisk : Disk :=
  ⟨[(["config"], .folder), (["config", "application.yml"], .file (Utf8.encode logText) none)]⟩

theorem found_logDisk : Found logDisk "/" "/" none [("logging", .map [("log_file", .text "a.log")])] := by
  have htokens : Yaml.tokens logText.unifyLineEnds = .ok [.blockMapping, .key, .scalar .plain "logging", .value,
      .blockMapping, .key, .scalar .plain "log_file", .value, .scalar .plain "a.log", .blockEnd, .blockEnd] :=
    eq_ok_of_toOption (by decide +kernel)
  have hparse : Yaml.parse logText.unifyLineEnds = .ok (.map [("logging", .map [("log_file", .text "a.log")])]) := by
    rw [Yaml.parse, htokens]
    rfl
  have hdecode : Utf8.decodeFile (Utf8.encode logText) = .ok logText := eq_ok_of_toOption (by decide +kernel)
  have hread : logDisk.read "/" (pathOf "/" "/" none) = .ok (Utf8.encode logText) :=
    eq_ok_of_toOption (by decide +kernel)
  exact .read hread hdecode hparse (.inl rfl)

/-- Maps take the place of other values there and the other way round, the value that only the lower map has stays, and the
upper map once more changes nothing. The settings of that file are loaded, with the path of the log file made absolute and
the built-in level. -/
theorem overlaid_settings_clashes :
    (∃ merged, merge (.map lowerEntries) (.map upperEntries) = .ok merged ∧
      merged.at? ["a", "x", "q"] = some (.int 4) ∧ merged.at? ["a", "y"] = some (.int 5) ∧
      merged.at? ["b", "r"] = some (.int 6) ∧ merged.at? ["c"] = some (.int 3) ∧
      merge merged (.map upperEntries) = .ok merged) ∧
    ∃ s, (load logDisk "/" "/" none).1 = .settings s ∧ s.at? logFile = some (.text "/config/a.log") ∧
      s.at? ["logging", "level"] = some (.text "INFO") := by
  have hint (n : Int) : ¬ (Value.int n).IsMap := by
    rintro ⟨_, h⟩
    cases h
  have hleaf (n : Int) : (Value.int n).WellKeyed := Value.wellKeyed_of_not_isMap (hint n)
  have hone (key : Text) {v : Value} (hv : v.WellKeyed) : (Value.map [(key, v)]).WellKeyed :=
    Value.wellKeyed_map (List.nodup_singleton _) (by simpa using hv)
  have hlower : (Value.map lowerEntries).WellKeyed := by
    have hinner : (Value.map [("x", .int 1), ("y", .map [("p", .int 1)])]).WellKeyed :=
      Value.wellKeyed_map (by decide) (by simpa using ⟨hleaf 1, hone "p" (hleaf 1)⟩)
    exact Value.wellKeyed_map (by decide) (by simpa [lowerEntries] using ⟨hinner, hleaf 2, hleaf 3⟩)
  have hupper : (Value.map upperEntries).WellKeyed := by
    have hinner : (Value.map [("x", .map [("q", .int 4)]), ("y", .int 5)]).WellKeyed :=
      Value.wellKeyed_map (by decide) (by simpa using ⟨hone "q" (hleaf 4), hleaf 5⟩)
    exact Value.wellKeyed_map (by decide) (by simpa [upperEntries] using ⟨hinner, hone "r" (hleaf 6)⟩)
  obtain ⟨hmerge, hload⟩ := overlaid_settings
  constructor
  · obtain ⟨merged, heq, -, hover, hagain⟩ := hmerge lowerEntries upperEntries hlower hupper
    refine ⟨merged, heq, hover.override_wins _ _ ⟨rfl, hint 4⟩, hover.override_wins _ _ ⟨rfl, hint 5⟩,
      hover.override_wins _ _ ⟨rfl, hint 6⟩, hover.base_stays _ _ ⟨rfl, hint 3⟩ rfl ?_, hagain⟩
    exact Value.not_blocks_concat [] rfl "c"
  · obtain ⟨-, hfound⟩ := hload logDisk "/" "/" none
    obtain ⟨hover, hloads⟩ := hfound _ found_logDisk
    obtain ⟨s, hs⟩ := hloads fun v hv => by
      cases hv
      exact .inr ⟨_, rfl⟩
    have hloaded := hover s hs
    refine ⟨s, hs, hloaded.log_file_absolute "a.log" rfl, ?_⟩
    refine hloaded.default_stays _ _ ⟨rfl, Value.not_isMap_text _⟩ rfl ?_
    exact Value.not_blocks_concat ["logging"] rfl "level"

end Settings

end ContractBuild
