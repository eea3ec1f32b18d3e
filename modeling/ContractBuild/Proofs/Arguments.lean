import ContractBuild.CommandLine.Arguments

/-!
# Arguments in any order

The settings file may be named before a command and behind it, and what is chosen behind a command may stand on both
sides of its operand.

* Choices are told as words and taken in the order in which they are written (`Word.ofArguments_written`,
  `Operands.take_words`). Of the files that they name the last one is kept.
* A settings file that is named in front of any arguments is used where these name none. It changes nothing else of what
  they give, errors included (`takeProgram_orConfig`, `parseArguments_named`).

`parseArguments_settings` puts the two together: of all files that are named, the last one counts.
-/

namespace ContractBuild.CommandLine

/-! ## Words -/

section Words

variable {topic : Topic} {argument : Text}

theorem Word.ofArgument_of_no_dash (h : argument.head? ≠ some dash) (topic : Topic) :
    Word.ofArgument topic argument = .ok (.operand argument) := by
  unfold Word.ofArgument
  split
  · rename_i c d rest
    rw [if_neg fun hc => h (by rw [hc]; rfl)]
  · rfl

theorem Word.ofArguments_cons {word : Word} (hdouble : argument ≠ doubleDash)
    (hword : Word.ofArgument topic argument = .ok word) (rest : List Text) :
    Word.ofArguments topic (argument :: rest) = (Word.ofArguments topic rest).map (word :: ·) := by
  rw [Word.ofArguments, if_neg hdouble, hword]
  cases Word.ofArguments topic rest <;> rfl

/-- An argument that does not begin with a dash is an operand. -/
theorem Word.ofArguments_of_no_dash (h : argument.head? ≠ some dash) (topic : Topic) (rest : List Text) :
    Word.ofArguments topic (argument :: rest) = (Word.ofArguments topic rest).map (.operand argument :: ·) := by
  refine Word.ofArguments_cons ?_ (Word.ofArgument_of_no_dash h topic) rest
  rintro rfl
  exact h rfl

end Words

/-! ## Choices -/

/-- What can be chosen behind a command. -/
inductive Choice where
  | json
  | config (path : Text)
deriving DecidableEq

namespace Choice

/-- The option of a choice. -/
def switch : Choice → Switch
  | .json => .json
  | .config _ => .config

/-- The arguments of a choice. -/
def arguments : Choice → List Text
  | .json => ["--json"]
  | .config path => ["--config", path]

/-- The words of these arguments. An option that the topic does not have is not recognized. -/
def words (topic : Topic) : Choice → List Word
  | .json => [if .json ∈ topic.switches then .switch .json none else .unknown "--json"]
  | .config path => [.switch .config none, .operand path]

/-- The settings file of a choice. -/
def path? : Choice → Option Text
  | .json => none
  | .config path => some path

/-- Choices as they are written. -/
def written (choices : List Choice) : List Text := choices.flatMap arguments

/-- The settings files among choices. -/
def paths (choices : List Choice) : List Text := choices.filterMap path?

/-- Settings files as they are named. -/
def named (files : List Text) : List Text := written (files.map .config)

theorem paths_append (choices more : List Choice) : paths (choices ++ more) = paths choices ++ paths more :=
  List.filterMap_append

theorem paths_map_config (files : List Text) : paths (files.map .config) = files := by
  rw [paths, List.filterMap_map]
  exact List.filterMap_some

end Choice

open Choice (written paths named)

section Choices

variable {topic : Topic} {choices : List Choice}

theorem Word.ofArguments_written (h : ∀ path ∈ paths choices, path.head? ≠ some dash) (topic : Topic)
    (rest : List Text) :
    Word.ofArguments topic (written choices ++ rest) =
      (Word.ofArguments topic rest).map (choices.flatMap (Choice.words topic) ++ ·) := by
  induction choices with
  | nil =>
    rw [written, List.flatMap_nil, List.nil_append]
    cases Word.ofArguments topic rest <;> rfl
  | cons c choices ih =>
    cases c with
    | json =>
      have hjson : Word.ofArgument topic "--json" =
          .ok (if .json ∈ topic.switches then .switch .json none else .unknown "--json") := by
        cases topic <;> rfl
      have hwritten : written (.json :: choices) ++ rest = ("--json" : Text) :: (written choices ++ rest) := rfl
      rw [hwritten, Word.ofArguments_cons (by decide) hjson, ih h]
      cases Word.ofArguments topic rest <;> rfl
    | config path =>
      obtain ⟨hpath, hpaths⟩ : path.head? ≠ some dash ∧ ∀ p ∈ paths choices, p.head? ≠ some dash :=
        List.forall_mem_cons.1 h
      have hconfig : Word.ofArgument topic "--config" = .ok (.switch .config none) := by
        cases topic <;> rfl
      have hwritten : written (.config path :: choices) ++ rest =
          ("--config" : Text) :: path :: (written choices ++ rest) := rfl
      rw [hwritten, Word.ofArguments_cons (by decide) hconfig, Word.ofArguments_of_no_dash hpath, ih hpaths]
      cases Word.ofArguments topic rest <;> rfl

theorem Word.ofArguments_choices (h : ∀ path ∈ paths choices, path.head? ≠ some dash) (topic : Topic) :
    Word.ofArguments topic (written choices) = .ok (choices.flatMap (Choice.words topic)) := by
  have hwritten := Word.ofArguments_written h topic []
  rwa [List.append_nil, Word.ofArguments, Except.map, List.append_nil] at hwritten

/-- What choices add to what is given behind a command. -/
def Operands.choose (o : Operands) (choices : List Choice) : Operands :=
  { o with json := o.json || choices.elem .json, config := (paths choices).getLast?.or o.config }

theorem Operands.choose_json (o : Operands) (choices : List Choice) :
    Operands.choose { o with json := true } choices = o.choose (.json :: choices) := by
  simp [choose, paths, Choice.path?]

theorem Operands.choose_config (o : Operands) (path : Text) (choices : List Choice) :
    Operands.choose { o with config := some path } choices = o.choose (.config path :: choices) := by
  have hpaths : paths (.config path :: choices) = path :: paths choices := rfl
  rw [choose, choose, hpaths, List.getLast?_cons]
  cases (paths choices).getLast? <;> simp

/-- The words of choices are taken in order, whatever stands behind them. -/
theorem Operands.take_words (h : ∀ c ∈ choices, c.switch ∈ topic.switches) (o : Operands) (wanted : Bool)
    (rest : List Word) :
    Operands.take topic o wanted (choices.flatMap (Choice.words topic) ++ rest) =
      Operands.take topic (o.choose choices) wanted rest := by
  induction choices generalizing o with
  | nil => simp [choose, paths]
  | cons c choices ih =>
    obtain ⟨hc, hchoices⟩ := List.forall_mem_cons.1 h
    cases c with
    | json =>
      have hwords : Choice.words topic .json = [.switch .json none] := congrArg (fun w => [w]) (if_pos hc)
      rw [List.flatMap_cons, hwords, ← choose_json, ← ih hchoices]
      rfl
    | config path =>
      rw [List.flatMap_cons, ← choose_config, ← ih hchoices]
      rfl

theorem Operands.take_choices (h : ∀ c ∈ choices, c.switch ∈ topic.switches) (o : Operands) (wanted : Bool) :
    Operands.take topic o wanted (choices.flatMap (Choice.words topic)) = .ok (o.choose choices) := by
  have hwords := Operands.take_words h o wanted []
  rwa [List.append_nil, Operands.take] at hwords

theorem flatMap_words_ne_separator (topic : Topic) (choices : List Choice) (more : List Word) :
    choices.flatMap (Choice.words topic) ≠ .separator :: more := by
  cases choices with
  | nil => nofun
  | cons c choices =>
    cases c with
    | json =>
      rw [List.flatMap_cons, Choice.words]
      split <;> nofun
    | config path => nofun

/-- The folder is taken with nothing else, unless a double dash follows it. -/
theorem Operands.take_folder {rest : List Word} (h : ∀ more, rest ≠ .separator :: more) (o : Operands) (folder : Text) :
    Operands.take topic o true (.operand folder :: rest) =
      Operands.take topic { o with folder := some folder } false rest := by
  cases rest with
  | nil => rfl
  | cons word rest =>
    cases word with
    | separator => exact absurd rfl (h rest)
    | operand _ | switch _ _ | shortHelp _ | unknown _ => rfl

end Choices

/-! ## Commands -/

section Commands

variable {first later : List Choice} {folder : Text}

/-- Choices on both sides of a folder. -/
theorem Word.ofArguments_around (hfolder : folder.head? ≠ some dash)
    (h : ∀ path ∈ paths (first ++ later), path.head? ≠ some dash) (topic : Topic) :
    Word.ofArguments topic (written first ++ folder :: written later) =
      .ok (first.flatMap (Choice.words topic) ++ .operand folder :: later.flatMap (Choice.words topic)) := by
  rw [Choice.paths_append, List.forall_mem_append] at h
  rw [Word.ofArguments_written h.1, Word.ofArguments_of_no_dash hfolder, Word.ofArguments_choices h.2]
  rfl

theorem operands_build (hfolder : folder.head? ≠ some dash)
    (h : ∀ path ∈ paths (first ++ later), path.head? ≠ some dash) :
    operands .build true (written first ++ folder :: written later) =
      .ok ⟨some folder, (first ++ later).elem .json, (paths (first ++ later)).getLast?, []⟩ := by
  have hswitch (choices : List Choice) : ∀ c ∈ choices, c.switch ∈ Topic.build.switches := by
    intro c _
    cases c with
    | json => exact List.mem_cons_of_mem _ List.mem_cons_self
    | config path => exact List.mem_cons_of_mem _ (List.mem_cons_of_mem _ List.mem_cons_self)
  rw [operands, Word.ofArguments_around hfolder h]
  change Operands.take .build ⟨none, false, none, []⟩ true _ = _
  rw [Operands.take_words (hswitch first), Operands.take_folder (flatMap_words_ne_separator .build later),
    Operands.take_choices (hswitch later)]
  simp [Operands.choose, Choice.paths_append, List.getLast?_append]

theorem commandOf_build (hfolder : folder.head? ≠ some dash)
    (h : ∀ path ∈ paths (first ++ later), path.head? ≠ some dash) :
    commandOf "build" (written first ++ folder :: written later) =
      .ok (.build folder ((first ++ later).elem .json), (paths (first ++ later)).getLast?, []) := by
  rw [commandOf, if_pos rfl, operands_build hfolder h]
  rfl

theorem commandOf_verify {files : List Text} (h : ∀ path ∈ files, path.head? ≠ some dash) :
    commandOf "verify" (named files) = .ok (.verify, files.getLast?, []) := by
  have hswitch : ∀ c ∈ files.map Choice.config, c.switch ∈ Topic.verify.switches := by
    intro c hc
    obtain ⟨path, -, rfl⟩ := List.mem_map.1 hc
    exact List.mem_cons_of_mem _ List.mem_cons_self
  rw [← Choice.paths_map_config files] at h
  have hoperands : operands .verify false (named files) =
      .ok (Operands.choose ⟨none, false, none, []⟩ (files.map .config)) := by
    rw [operands, named, Word.ofArguments_choices h]
    exact Operands.take_choices hswitch _ false
  rw [commandOf, if_neg (by decide), if_pos rfl, hoperands]
  simp [bind, Except.bind, pure, Except.pure, Operands.choose, Choice.paths_map_config]

/-- Where the program can tell the words of the arguments, they are taken, and nothing may be left of them. -/
theorem parseArguments_of_words {arguments : List Text} {words : List Word}
    (h : Word.ofArguments .program arguments = .ok words) :
    parseArguments arguments = (takeProgram none [] words arguments).bind fun r =>
      if r.2.isEmpty then .ok r.1 else .error (.misuse .program (.unrecognized r.2)) := by
  rw [parseArguments, h]
  rfl

theorem parseArguments_of_command {name : Text} (hname : name.head? ≠ some dash) {arguments : List Text}
    {words : List Word} (hwords : Word.ofArguments .program arguments = .ok words) {command : Command}
    {config : Option Text} (hcommand : commandOf name arguments = .ok (command, config, [])) :
    parseArguments (name :: arguments) = .ok ⟨command, config⟩ := by
  have htold : Word.ofArguments .program (name :: arguments) = .ok (.operand name :: words) := by
    rw [Word.ofArguments_of_no_dash hname, hwords]
    rfl
  have htake : takeProgram none [] (.operand name :: words) (name :: arguments) = .ok (⟨command, config⟩, []) := by
    rw [takeProgram, hcommand]
    simp [bind, Except.bind, pure, Except.pure]
  rw [parseArguments_of_words htold, htake]
  rfl

/-- **The arguments of a build**, with choices on both sides of its folder. -/
theorem parseArguments_around (first later : List Choice) (hfolder : folder.head? ≠ some dash)
    (h : ∀ path ∈ paths (first ++ later), path.head? ≠ some dash) :
    parseArguments ("build" :: (written first ++ folder :: written later)) =
      .ok ⟨.build folder ((first ++ later).elem .json), (paths (first ++ later)).getLast?⟩ :=
  parseArguments_of_command (by decide) (Word.ofArguments_around hfolder h .program) (commandOf_build hfolder h)

/-- **The arguments of a verification**, with settings files behind it. -/
theorem parseArguments_behind {files : List Text} (h : ∀ path ∈ files, path.head? ≠ some dash) :
    parseArguments ("verify" :: named files) = .ok ⟨.verify, files.getLast?⟩ := by
  have hpaths := h
  rw [← Choice.paths_map_config files] at hpaths
  exact parseArguments_of_command (by decide) (Word.ofArguments_choices hpaths .program) (commandOf_verify h)

end Commands

/-! ## A settings file in front of all arguments -/

/-- The arguments with a settings file, which counts when they name none. -/
def Arguments.orConfig (a : Arguments) (path? : Option Text) : Arguments := { a with config := a.config.or path? }

theorem orConfig_none (a : Arguments) : a.orConfig none = a := by
  rw [Arguments.orConfig, Option.or_none]

theorem orConfig_orConfig (a : Arguments) (later? earlier? : Option Text) :
    (a.orConfig later?).orConfig earlier? = a.orConfig (later?.or earlier?) := by
  rw [Arguments.orConfig, Arguments.orConfig, Arguments.orConfig, Option.or_assoc]

/-- Behind a file that counts, no file in front of it does. -/
theorem map_orConfig_some (r : Except Stop (Arguments × List Text)) (later : Text) (earlier? : Option Text) :
    ((r.map fun q => (q.1.orConfig (some later), q.2)).map fun q => (q.1.orConfig earlier?, q.2)) =
      r.map fun q => (q.1.orConfig (some later), q.2) := by
  cases r with
  | error e => rfl
  | ok q => simp only [Except.map, orConfig_orConfig, Option.some_or]

/-- The file that is named before the words that are left counts at the end only. -/
theorem takeProgram_orConfig (config : Option Text) (extras : List Text) (words : List Word) (arguments : List Text) :
    takeProgram config extras words arguments =
      (takeProgram none extras words arguments).map fun r => (r.1.orConfig config, r.2) := by
  fun_induction takeProgram config extras words arguments with
  | case1 config extras name words argument arguments =>
    -- the command
    rw [takeProgram]
    cases commandOf name arguments with
    | error e => rfl
    | ok parsed => simp only [bind, Except.bind, pure, Except.pure, Except.map, Arguments.orConfig, Option.or_none]
  | case3 config extras t words argument arguments ih => exact ih
  | case5 config extras v words argument arguments ih =>
    have hrest : takeProgram none extras (.switch .config (some v) :: words) (argument :: arguments) =
        takeProgram (some v) extras words arguments := rfl
    rw [hrest, ih, map_orConfig_some]
  | case6 config extras v words argument second arguments ih =>
    have hrest : takeProgram none extras (.switch .config none :: .operand v :: words) (argument :: second :: arguments) =
        takeProgram (some v) extras words arguments := rfl
    rw [hrest, ih, map_orConfig_some]
  | case2 | case4 | case7 | case8 | case9 | case10 =>
    -- an error, or help
    simp (disch := assumption) only [takeProgram, Except.map]

/-- One settings file in front of any arguments. -/
theorem parseArguments_config {path : Text} (h : path.head? ≠ some dash) (arguments : List Text) :
    parseArguments ("--config" :: path :: arguments) = (parseArguments arguments).map (·.orConfig (some path)) := by
  have hpaths : ∀ p ∈ paths [.config path], p.head? ≠ some dash := List.forall_mem_singleton.2 h
  have hwords : Word.ofArguments .program ("--config" :: path :: arguments) =
      (Word.ofArguments .program arguments).map ([.switch .config none, .operand path] ++ ·) :=
    Word.ofArguments_written hpaths .program arguments
  cases htold : Word.ofArguments .program arguments with
  | error e =>
    rw [htold] at hwords
    rw [parseArguments, parseArguments, hwords, htold]
    rfl
  | ok words =>
    rw [htold] at hwords
    have htake : takeProgram none [] ([.switch .config none, .operand path] ++ words) ("--config" :: path :: arguments) =
        takeProgram (some path) [] words arguments := rfl
    rw [parseArguments_of_words hwords, parseArguments_of_words htold, htake, takeProgram_orConfig]
    cases takeProgram none [] words arguments with
    | error e => rfl
    | ok parsed =>
      obtain ⟨a, extras⟩ := parsed
      cases extras <;> rfl

/-- **Settings files in front** of any arguments: the last of them is used where the arguments name none. -/
theorem parseArguments_named {files : List Text} (h : ∀ path ∈ files, path.head? ≠ some dash) (arguments : List Text) :
    parseArguments (named files ++ arguments) =
      (parseArguments arguments).map (·.orConfig files.getLast?) := by
  induction files with
  | nil =>
    have hsame : (·.orConfig none) = (id : Arguments → Arguments) := funext orConfig_none
    rw [List.getLast?_nil, hsame, Except.map_id]
    rfl
  | cons path files ih =>
    obtain ⟨hpath, hfiles⟩ := List.forall_mem_cons.1 h
    have hnamed : named (path :: files) ++ arguments = ("--config" : Text) :: path :: (named files ++ arguments) := rfl
    rw [hnamed, parseArguments_config hpath, ih hfiles, List.getLast?_cons]
    cases parseArguments arguments with
    | error e => rfl
    | ok a =>
      simp only [Except.map, orConfig_orConfig]
      cases files.getLast? <;> rfl

/-- **Where the settings file is named.** Files may be named in front of a command and behind it, and the folder of a
build stands anywhere among what is chosen behind its command. The command is the same for every order, and JSON is asked
for when it is chosen anywhere. Of the files behind the command the last one counts, of those in front of it the last one
where there is none behind it, and there is no file when none is named. Files in front of any arguments change nothing
else of what these give: neither the command, nor the file that they name themselves, nor the errors that they end with. -/
theorem parseArguments_settings (before behind : List Text) (first later : List Choice) (folder : Text)
    (hbefore : ∀ path ∈ before, path.head? ≠ some dash) (hbehind : ∀ path ∈ behind, path.head? ≠ some dash)
    (hfolder : folder.head? ≠ some dash) (hchoices : ∀ path ∈ paths (first ++ later), path.head? ≠ some dash) :
    parseArguments (named before ++ ("build" : Text) :: (written first ++ folder :: written later)) =
        .ok ⟨.build folder ((first ++ later).elem .json), (paths (first ++ later)).getLast?.or before.getLast?⟩ ∧
      parseArguments (named before ++ ("verify" : Text) :: named behind) =
        .ok ⟨.verify, behind.getLast?.or before.getLast?⟩ ∧
      ∀ arguments, parseArguments (named before ++ arguments) =
        (parseArguments arguments).map (·.orConfig before.getLast?) := by
  refine ⟨?_, ?_, parseArguments_named hbefore⟩
  · rw [parseArguments_named hbefore, parseArguments_around first later hfolder hchoices]
    rfl
  · rw [parseArguments_named hbefore, parseArguments_behind hbehind]
    rfl

/-- One file in three places, with JSON before and behind it, and a file in front that another one overrides. -/
theorem parseArguments_settings_placed :
    (∀ path ∈ (["a.yml", "b.yml"] : List Text), path.head? ≠ some dash) ∧ ("hello" : Text).head? ≠ some dash ∧
      parseArguments ["--config", "a.yml", "build", "--json", "hello"] = .ok ⟨.build "hello" true, some "a.yml"⟩ ∧
      parseArguments ["build", "--json", "--config", "a.yml", "hello"] = .ok ⟨.build "hello" true, some "a.yml"⟩ ∧
      parseArguments ["build", "hello", "--config", "a.yml", "--json"] = .ok ⟨.build "hello" true, some "a.yml"⟩ ∧
      parseArguments ["build", "hello"] = .ok ⟨.build "hello" false, none⟩ ∧
      parseArguments ["--config", "b.yml", "verify", "--config", "a.yml"] = .ok ⟨.verify, some "a.yml"⟩ := by
  have hfiles : ∀ path ∈ (["a.yml", "b.yml"] : List Text), path.head? ≠ some dash := by decide
  have hone : ∀ path ∈ (["a.yml"] : List Text), path.head? ≠ some dash := by decide
  have hother : ∀ path ∈ (["b.yml"] : List Text), path.head? ≠ some dash := by decide
  have hfolder : ("hello" : Text).head? ≠ some dash := by decide
  have hnone : ∀ path ∈ ([] : List Text), path.head? ≠ some dash := nofun
  obtain ⟨hbefore, -, -⟩ := parseArguments_settings ["a.yml"] [] [.json] [] "hello" hone hnone hfolder hnone
  obtain ⟨hbetween, -, -⟩ :=
    parseArguments_settings [] [] [.json, .config "a.yml"] [] "hello" hnone hnone hfolder hone
  obtain ⟨hafter, -, -⟩ :=
    parseArguments_settings [] [] [] [.config "a.yml", .json] "hello" hnone hnone hfolder hone
  obtain ⟨hplain, -, -⟩ := parseArguments_settings [] [] [] [] "hello" hnone hnone hfolder hnone
  obtain ⟨-, hverify, -⟩ := parseArguments_settings ["b.yml"] ["a.yml"] [] [] "hello" hother hone hfolder hnone
  exact ⟨hfiles, hfolder, hbefore, hbetween, hafter, hplain, hverify⟩

end ContractBuild.CommandLine
