import LineScan.Proofs.WholeRun

/-!
# Exit codes

A run of the program ends with an exit code or with an exception that nothing catches. The code is
at most 2, and it is 2 exactly if the run was refused before it started: for its arguments, for its
configuration, or for an input that cannot be opened. Then nothing has been written.

What escapes is listed case by case, along the stages of a run: the options, the lines, the input
and the output. For each stage two things are shown, that it ends in one of the ways that are listed
for it, and that it does end so in each of the cases. Together they say exactly what escapes.

The list holds for both editions of the reader of arguments, and for every stack of calls. An option
without its value, which may leave a run without a limit, comes from the former edition only.

## Main statements

* `valued_of_parse`: in the current edition, options have their values.
* `resolve_cases`, `runInput_error_iff`, `runOptions_cases`: how the stages of a run may end.
* `run_exit_code`: how the program ends.
* `run_undecodable_config`: a configuration that is not UTF-8 is not refused.
-/

namespace LineScan.CommandLine

open Calculator

variable {stack : Toml.Stack} {look : Path → Node} {a : Arguments} {config : Toml.Table} {c : Crash}

/-! ## The arguments -/

/-- Every option that takes a value was given one. -/
structure Arguments.Valued (a : Arguments) : Prop where
  env : none ∉ a.env
  maxInt : a.maxInt ≠ some none

namespace Arguments.Valued

variable {a a' : Arguments}

/-- Setting an option to a value leaves none without. -/
theorem setValue {s : Switch} {value : String} (h : a.Valued)
    (hset : a.setValue s (some value) = .ok a') : a'.Valued := by
  unfold Arguments.setValue at hset
  cases s with
  | maxInt =>
    dsimp only at hset
    split at hset
    · cases hset
      exact ⟨h.env, nofun⟩
    · cases hset
  | env =>
    cases hset
    exact ⟨by simpa using h.env, h.maxInt⟩
  | _ =>
    cases hset
    exact ⟨h.env, h.maxInt⟩

/-- Setting an option that takes no value leaves the values as they are. -/
theorem setFlag {s : Switch} (h : a.Valued) (hset : a.setFlag s = .ok a') : a'.Valued := by
  cases s <;> cases hset <;> exact ⟨h.env, h.maxInt⟩

/-- In the current edition, taking words leaves no option without its value. -/
theorem take {words : List (String × Word)} {p q : Progress} (h : p.arguments.Valued)
    (htake : CommandLine.take .current words p = .ok q) : q.arguments.Valued := by
  fun_induction CommandLine.take .current words p with
  | case1 =>
    cases htake
    exact h
  | case2 word rest p hmet ih => exact ih h htake
  | case3 word p hmet next divider rest ih => exact ih ⟨h.env, h.maxInt⟩ htake
  | case4 word p hmet next rest hother ih => exact ih ⟨h.env, h.maxInt⟩ htake
  | case5 word rest p ih =>
    refine ih ?_ htake
    split <;> exact h
  | case6 word rest p ih => exact ih h htake
  -- an option with a value attached, or in the next word
  | case7 word s short p htakes attached rest a hset ih => exact ih (h.setValue hset) htake
  | case9 word s short p htakes value rest a hset ih => exact ih (h.setValue hset) htake
  | case12 word s short rest p htakes a hset ih => exact ih (h.setFlag hset) htake
  | _ => cases htake

end Arguments.Valued

/-- In the current edition, no option that takes a value is given without one. -/
theorem valued_of_parse {words : List String} {a : Arguments} (h : parse .current words = .ok a) :
    a.Valued := by
  unfold parse at h
  split at h
  · cases h
  · next classified hclassified =>
    have hnone : ({} : Progress).arguments.Valued := ⟨List.not_mem_nil, nofun⟩
    cases htake : take .current classified {} with
    | error e =>
      rw [htake] at h
      cases h
    | ok p =>
      simp only [htake] at h
      split at h
      · cases h
        exact hnone.take htake
      · cases h

example : (parse .current ["--env=--"]).toOption.map Arguments.env = some [some "--"] := by
  decide +kernel

example : (parse .former ["--env=--"]).toOption.map Arguments.env = some [none] := by
  decide +kernel

/-! ## The options -/

/-- There is a configuration file with this content, and it may be read. -/
def HasConfig (look : Path → Node) (a : Arguments) (content : ByteArray) : Prop :=
  a.configPath.hasNul = false ∧ ∃ location denied,
    look a.configPath = .file location content denied ∧ denied.reading = none

/-- The variables of a configuration, with their values. -/
def configVariables (config : Toml.Table) : List (String × Datum) :=
  match config.get? "env" with
  | some (.table entries) => entries
  | _ => []

/-- What keeps the first value from being written that is too long or nested too deep. -/
def unwritten? (stack : Toml.Stack) (entries : List (String × Datum)) : Option Crash :=
  entries.findSome? fun entry =>
    match configText stack entry.2 with
    | .ok _ => none
    | .error cause => some cause

/-- The definition of a variable has an equals sign. -/
def isDefinition : Option String → Bool
  | none => false
  | some text => text.toList.contains '='

/-- The limit for integers that is asked for, unless it was given without a value. -/
def limit? (config : Toml.Table) (flag : Option (Option Int)) : Option Int :=
  match flag, (calcSection config).get? "max_int" with
  | some limit, _ => limit
  | none, some (.int n) => some n
  | none, _ => some Calculator.defaultMaxInt

/-- What escapes from resolving the options. -/
inductive OptionsEscape (stack : Toml.Stack) (look : Path → Node) (a : Arguments) :
    Crash → Prop where
  /-- The configuration is not UTF-8. -/
  | undecodable {content : ByteArray} (hconfig : HasConfig look a content)
      (h : String.fromUTF8? content = none) : OptionsEscape stack look a .undecodable
  /-- The way to the configuration is blocked, and not for want of a file. -/
  | unreachable {cause : OsError} (hpath : a.configPath.hasNul = false)
      (hnode : look a.configPath = .blocked cause) (h : cause.meansNoFile = false) :
      OptionsEscape stack look a (.os cause a.configPath)
  /-- The configuration may not be read. -/
  | denied {location : String} {content : ByteArray} {denied : Denied} {cause : OsError}
      (hpath : a.configPath.hasNul = false)
      (hnode : look a.configPath = .file location content denied)
      (h : denied.reading = some cause) : OptionsEscape stack look a (.os cause a.configPath)
  /-- A number in the configuration is too long to be read. -/
  | number {content : ByteArray} {text : String} {cause : Decimal.Oversize}
      (hconfig : HasConfig look a content) (htext : String.fromUTF8? content = some text)
      (h : Toml.parse stack text.toList = .error (.oversize cause)) :
      OptionsEscape stack look a (.failure (.fault (.oversize cause)))
  /-- The values in the configuration are nested too deep to be read. -/
  | nesting {content : ByteArray} {text : String} (hconfig : HasConfig look a content)
      (htext : String.fromUTF8? content = some text)
      (h : Toml.parse stack text.toList = .error .tooDeep) : OptionsEscape stack look a .tooDeep
  /-- The value of a variable in the configuration is too long to be written, or nested too deep. -/
  | value {config : Toml.Table} {cause : Crash}
      (hconfig : loadConfig stack a.configPath (look a.configPath) = .ok config)
      (h : unwritten? stack (configVariables config) = some cause) :
      OptionsEscape stack look a cause
  /-- The limit for integers was given without a value. -/
  | limit {config : Toml.Table}
      (hconfig : loadConfig stack a.configPath (look a.configPath) = .ok config)
      (hvariables : unwritten? stack (configVariables config) = none)
      (hdefinitions : a.env.all isDefinition = true) (h : a.maxInt = some none) :
      OptionsEscape stack look a .noLimit

/-- A value that has no text is nested too deep, or it is too long. -/
theorem configText_error {value : Datum} (h : configText stack value = .error c) :
    c = .tooDeep ∨ ∃ cause, c = .failure (.fault (.oversize cause)) := by
  unfold configText at h
  split at h
  · cases htext : value.plainText with
    | ok text =>
      rw [htext] at h
      cases h
    | error cause =>
      rw [htext] at h
      cases h
      exact .inr ⟨cause, rfl⟩
  · cases h
    exact .inl rfl

/-- What is missing for want of a value is the limit for integers. -/
theorem OptionsEscape.maxInt_eq (h : OptionsEscape stack look a .noLimit) :
    a.maxInt = some none := by
  cases h with
  | value hconfig h =>
    obtain ⟨entry, -, hentry⟩ := List.exists_of_findSome?_eq_some h
    split at hentry
    · cases hentry
    · next cause hcause =>
      obtain htext | ⟨cause, htext⟩ := configText_error hcause <;> cases htext ▸ hentry
  | limit hconfig hvariables hdefinitions h => exact h

/-- What is reported when the options are resolved. -/
inductive OptionsRefused (stack : Toml.Stack) (look : Path → Node) (a : Arguments) : Prop where
  /-- The configuration is no TOML document. -/
  | malformed {content : ByteArray} {text : String} (hconfig : HasConfig look a content)
      (htext : String.fromUTF8? content = some text)
      (h : Toml.parse stack text.toList = .error .malformed)
  /-- The definition of a variable has no equals sign. -/
  | definition {config : Toml.Table}
      (hconfig : loadConfig stack a.configPath (look a.configPath) = .ok config)
      (hvariables : unwritten? stack (configVariables config) = none)
      (h : a.env.all isDefinition = false)
  /-- The limit for integers is not positive. -/
  | limit {config : Toml.Table} {n : Int}
      (hconfig : loadConfig stack a.configPath (look a.configPath) = .ok config)
      (hvariables : unwritten? stack (configVariables config) = none)
      (hdefinitions : a.env.all isDefinition = true) (hlimit : limit? config a.maxInt = some n)
      (h : n < 1)

/-- If a value has no text, the variables of a configuration fail for the first such value. -/
theorem configEnv_of_unwritten {entries : List (String × Datum)} {cause : Crash}
    (h : unwritten? stack entries = some cause) :
    configEnv stack entries = .error (.crash cause) := by
  induction entries with
  | nil => cases h
  | cons entry entries ih =>
    rw [unwritten?, List.findSome?_cons] at h
    rw [configEnv]
    cases htext : configText stack entry.2 with
    | error cause =>
      rw [htext] at h
      cases h
      rfl
    | ok text =>
      rw [htext] at h
      simp only [ih h]
      rfl

/-- If every value has a text, the variables of a configuration are read. -/
theorem configEnv_of_written {entries : List (String × Datum)}
    (h : unwritten? stack entries = none) : ∃ env, configEnv stack entries = .ok env := by
  induction entries with
  | nil => exact ⟨[], rfl⟩
  | cons entry entries ih =>
    rw [unwritten?, List.findSome?_cons] at h
    rw [configEnv]
    cases htext : configText stack entry.2 with
    | error cause =>
      rw [htext] at h
      cases h
    | ok text =>
      rw [htext] at h
      obtain ⟨env, henv⟩ := ih h
      exact ⟨_, by simp only [henv]; rfl⟩

/-- A definition is read exactly if it has an equals sign. -/
theorem isOk_readDefinition (text : String) :
    (readDefinition text).isOk = isDefinition (some text) := by
  rw [readDefinition, splitEquals, isDefinition]
  have hsplit := List.takeWhile_append_dropWhile (p := (· != '=')) (l := text.toList)
  cases h : text.toList.dropWhile (· != '=') with
  | nil =>
    rw [h, List.append_nil] at hsplit
    have hother : ∀ c ∈ text.toList, (c != '=') = true := by
      rw [← hsplit]
      exact List.all_eq_true.mp List.all_takeWhile
    have habsent : '=' ∉ text.toList := fun hmem => absurd (hother '=' hmem) (by decide)
    simpa [Except.isOk, Except.toBool] using habsent
  | cons c value =>
    have hfirst := List.head?_dropWhile_not (· != '=') text.toList
    rw [h] at hfirst hsplit
    have hequals : c = '=' := by simpa using hfirst
    have hmem : '=' ∈ text.toList := by
      rw [← hsplit, hequals]
      simp
    simpa [Except.isOk, Except.toBool] using hmem

/-- Definitions are added exactly if all of them have an equals sign. -/
theorem isOk_addDefinitions (env : Option (Bindings String)) (definitions : List (Option String)) :
    (addDefinitions env definitions).isOk = definitions.all isDefinition := by
  induction definitions generalizing env with
  | nil => rfl
  | cons definition definitions ih =>
    rw [List.all_cons]
    cases definition with
    | none => rfl
    | some text =>
      have hread := isOk_readDefinition text
      rw [addDefinitions]
      cases hentry : readDefinition text with
      | error e =>
        rw [hentry] at hread
        rw [← hread]
        rfl
      | ok entry =>
        rw [hentry] at hread
        rw [← hread]
        exact ih _

/-- A value without a text is noticed before any definition of the command line. -/
theorem resolveEnv_of_unwritten {cause : Crash}
    (h : unwritten? stack (configVariables config) = some cause)
    (definitions : List (Option String)) :
    resolveEnv stack config definitions = .error (.crash cause) := by
  unfold configVariables at h
  unfold resolveEnv
  cases henv : config.get? "env" with
  | none =>
    rw [henv] at h
    cases h
  | some value =>
    rw [henv] at h
    cases value with
    | table entries =>
      have hlong : unwritten? stack entries = some cause := h
      simp only [configEnv_of_unwritten hlong]
      rfl
    | _ => cases h

/-- If all values of the configuration have texts, only a definition can still be wrong. -/
theorem resolveEnv_of_written (h : unwritten? stack (configVariables config) = none)
    (definitions : List (Option String)) : ∃ env, resolveEnv stack config definitions =
      (addDefinitions env definitions).mapError Refusal.error := by
  unfold configVariables at h
  unfold resolveEnv
  cases henv : config.get? "env" with
  | none => exact ⟨none, rfl⟩
  | some value =>
    rw [henv] at h
    cases value with
    | table entries =>
      have hshort : unwritten? stack entries = none := h
      obtain ⟨env, hentries⟩ := configEnv_of_written hshort
      refine ⟨some env, ?_⟩
      simp only [hentries]
      rfl
    | _ => exact ⟨none, rfl⟩

/-- The limit for integers is the one that is asked for, if there is one and it is positive. -/
theorem resolveMaxInt_eq (config : Toml.Table) (flag : Option (Option Int)) :
    resolveMaxInt config flag = match limit? config flag with
      | none => .error (.crash .noLimit)
      | some n => if n < 1 then .error (.error (.notPositive n)) else .ok n := by
  unfold resolveMaxInt limit?
  rcases flag with _ | _ | n
  · cases (calcSection config).get? "max_int" with
    | none => rfl
    | some value => cases value <;> rfl
  · rfl
  · rfl

/-- No limit is asked for only if the option was given without a value. -/
theorem flag_of_limit? {flag : Option (Option Int)} (h : limit? config flag = none) :
    flag = some none := by
  unfold limit? at h
  split at h
  · rw [h]
  · cases h
  · cases h

/-- A configuration is loaded, or what there is of it escapes or is refused. -/
theorem loadConfig_cases (stack : Toml.Stack) (look : Path → Node) (a : Arguments) :
    (∃ config, loadConfig stack a.configPath (look a.configPath) = .ok config) ∨
      (∃ c, OptionsEscape stack look a c) ∨ OptionsRefused stack look a := by
  unfold loadConfig
  cases hpath : a.configPath.hasNul with
  | true => exact .inl ⟨[], rfl⟩
  | false =>
    rw [if_neg Bool.false_ne_true]
    cases hnode : look a.configPath with
    | file location content denied =>
      cases hreading : denied.reading with
      | some cause => exact .inr (.inl ⟨_, .denied hpath hnode hreading⟩)
      | none =>
        have hconfig : HasConfig look a content := ⟨hpath, location, denied, hnode, hreading⟩
        cases htext : String.fromUTF8? content with
        | none => exact .inr (.inl ⟨_, .undecodable hconfig htext⟩)
        | some text =>
          cases hparse : Toml.parse stack text.toList with
          | ok table => exact .inl ⟨table, by simp only [hreading, readConfig, htext, hparse]⟩
          | error e =>
            cases e with
            | malformed => exact .inr (.inr (.malformed hconfig htext hparse))
            | tooDeep => exact .inr (.inl ⟨_, .nesting hconfig htext hparse⟩)
            | oversize cause => exact .inr (.inl ⟨_, .number hconfig htext hparse⟩)
    | blocked cause =>
      -- only a path that leads to no file is taken for a configuration that is absent
      cases hcause : cause.meansNoFile with
      | true => exact .inl ⟨[], if_pos hcause⟩
      | false => exact .inr (.inl ⟨_, .unreachable hpath hnode hcause⟩)
    | device kind => exact .inl ⟨[], rfl⟩
    | directory => exact .inl ⟨[], rfl⟩
    | vacant location => exact .inl ⟨[], rfl⟩

/-- What is loaded of a file that may be read is what is read of its content. -/
theorem loadConfig_of_file {content : ByteArray} (h : HasConfig look a content) :
    loadConfig stack a.configPath (look a.configPath) = readConfig stack content := by
  obtain ⟨hpath, location, denied, hnode, hreading⟩ := h
  simp only [loadConfig, hpath, hnode, hreading, Bool.false_eq_true, if_false]

/-- With the configuration loaded, its merge with the arguments is left to do. -/
theorem resolve_of_loaded (h : loadConfig stack a.configPath (look a.configPath) = .ok config) :
    resolve stack look a = merge stack config a := by
  rw [resolve, h]
  rfl

/-- Without a configuration there are no options. -/
theorem resolve_of_not_loaded {refusal : Refusal}
    (h : loadConfig stack a.configPath (look a.configPath) = .error refusal) :
    resolve stack look a = .error refusal := by
  rw [resolve, h]
  rfl

/-- With its variables and its limit, a run has its options. -/
theorem merge_of_limit {env : Option (Bindings String)} {n : Int}
    (henv : resolveEnv stack config a.env = .ok env) (h : resolveMaxInt config a.maxInt = .ok n) :
    ∃ options, merge stack config a = .ok options := by
  rw [merge, henv, h]
  exact ⟨_, rfl⟩

/-- What is wrong with the limit is wrong with the options. -/
theorem merge_of_not_limit {env : Option (Bindings String)} {refusal : Refusal}
    (henv : resolveEnv stack config a.env = .ok env)
    (h : resolveMaxInt config a.maxInt = .error refusal) :
    merge stack config a = .error refusal := by
  rw [merge, henv, h]
  rfl

/-- What is wrong with the variables is wrong with the options. -/
theorem merge_of_not_env {refusal : Refusal} (h : resolveEnv stack config a.env = .error refusal) :
    merge stack config a = .error refusal := by
  rw [merge, h]
  rfl

/-- The variables of a run are there if nothing is wrong with the configuration and the
definitions. -/
theorem exists_env (hvariables : unwritten? stack (configVariables config) = none)
    (hdefinitions : a.env.all isDefinition = true) :
    ∃ env, resolveEnv stack config a.env = .ok env := by
  obtain ⟨base, hbase⟩ := resolveEnv_of_written hvariables a.env
  have hok := isOk_addDefinitions base a.env
  rw [hdefinitions] at hok
  cases hadd : addDefinitions base a.env with
  | ok env => exact ⟨env, by rw [hbase, hadd]; rfl⟩
  | error e =>
    rw [hadd] at hok
    cases hok

/-- A definition without an equals sign is reported, if nothing is wrong with the configuration. -/
theorem exists_env_error (hvariables : unwritten? stack (configVariables config) = none)
    (hdefinitions : a.env.all isDefinition = false) :
    ∃ e, resolveEnv stack config a.env = .error (.error e) := by
  obtain ⟨base, hbase⟩ := resolveEnv_of_written hvariables a.env
  have hok := isOk_addDefinitions base a.env
  rw [hdefinitions] at hok
  cases hadd : addDefinitions base a.env with
  | ok env =>
    rw [hadd] at hok
    cases hok
  | error e => exact ⟨e, by rw [hbase, hadd]; rfl⟩

/-- In each of the cases that are listed, resolving the options fails with that exception. -/
theorem OptionsEscape.resolve_eq (h : OptionsEscape stack look a c) :
    resolve stack look a = .error (.crash c) := by
  cases h with
  | undecodable hconfig h =>
    refine resolve_of_not_loaded ?_
    simp only [loadConfig_of_file hconfig, readConfig, h]
  | unreachable hpath hnode h =>
    refine resolve_of_not_loaded ?_
    simp only [loadConfig, hpath, hnode, h, Bool.false_eq_true, if_false]
  | denied hpath hnode h =>
    refine resolve_of_not_loaded ?_
    simp only [loadConfig, hpath, hnode, h, Bool.false_eq_true, if_false]
  | number hconfig htext h =>
    refine resolve_of_not_loaded ?_
    simp only [loadConfig_of_file hconfig, readConfig, htext, h]
  | nesting hconfig htext h =>
    refine resolve_of_not_loaded ?_
    simp only [loadConfig_of_file hconfig, readConfig, htext, h]
  | value hconfig h =>
    rw [resolve_of_loaded hconfig]
    exact merge_of_not_env (resolveEnv_of_unwritten h a.env)
  | limit hconfig hvariables hdefinitions h =>
    obtain ⟨env, henv⟩ := exists_env hvariables hdefinitions
    rw [resolve_of_loaded hconfig]
    exact merge_of_not_limit henv (by rw [resolveMaxInt_eq, h]; rfl)

/-- In each of the cases that are listed, resolving the options reports an error. -/
theorem OptionsRefused.resolve_eq (h : OptionsRefused stack look a) :
    ∃ e, resolve stack look a = .error (.error e) := by
  cases h with
  | malformed hconfig htext h =>
    refine ⟨.badConfig, resolve_of_not_loaded ?_⟩
    simp only [loadConfig_of_file hconfig, readConfig, htext, h]
  | definition hconfig hvariables h =>
    obtain ⟨e, he⟩ := exists_env_error hvariables h
    exact ⟨e, by rw [resolve_of_loaded hconfig, merge_of_not_env he]⟩
  | @limit config n hconfig hvariables hdefinitions hlimit h =>
    obtain ⟨env, henv⟩ := exists_env hvariables hdefinitions
    refine ⟨.notPositive n, ?_⟩
    rw [resolve_of_loaded hconfig]
    refine merge_of_not_limit henv ?_
    rw [resolveMaxInt_eq, hlimit]
    exact if_pos h

/-- Resolving the options gives options, or it fails as listed. -/
theorem resolve_cases (stack : Toml.Stack) (look : Path → Node) (a : Arguments) :
    (∃ options, resolve stack look a = .ok options) ∨
      (∃ c, OptionsEscape stack look a c) ∨ OptionsRefused stack look a := by
  obtain ⟨config, hconfig⟩ | hfailed := loadConfig_cases stack look a
  · cases hvariables : unwritten? stack (configVariables config) with
    | some cause => exact .inr (.inl ⟨_, .value hconfig hvariables⟩)
    | none =>
      cases hdefinitions : a.env.all isDefinition with
      | false => exact .inr (.inr (.definition hconfig hvariables hdefinitions))
      | true =>
        obtain ⟨env, henv⟩ := exists_env hvariables hdefinitions
        cases hlimit : limit? config a.maxInt with
        | none =>
          have hflag := flag_of_limit? hlimit
          exact .inr (.inl ⟨_, .limit hconfig hvariables hdefinitions hflag⟩)
        | some n =>
          by_cases hn : n < 1
          · exact .inr (.inr (.limit hconfig hvariables hdefinitions hlimit hn))
          · have hmax : resolveMaxInt config a.maxInt = .ok n := by
              rw [resolveMaxInt_eq, hlimit]
              exact if_neg hn
            rw [resolve_of_loaded hconfig]
            exact .inl (merge_of_limit henv hmax)
  · exact .inr hfailed

/-! ## The lines -/

variable {world : World} {options : Options}

/-- What escapes from reading the lines of an input. -/
inductive InputEscape (world : World) (options : Options) : Input → Crash → Prop where
  /-- The input is not UTF-8, and no line before that ends the run. -/
  | undecodable {content : ByteArray} (hbroken : (Text.Stream.ofBytes content).broken = true)
      (h : ((calculator world options).outcomes 0 (Text.Stream.ofBytes content).lines).find?
        (ends options) = none) : InputEscape world options (.bytes content) .undecodable
  /-- A line asks for more than a run can do. -/
  | line {content : ByteArray} {outcome : Except Failure Int}
      (hlast : ((calculator world options).outcomes 0 (Text.Stream.ofBytes content).lines).find?
        (ends options) = some outcome) (h : exceeds outcome = true) :
      InputEscape world options (.bytes content) (.failure (ending outcome))
  /-- The first line has no end, and there is no room for it. -/
  | endless : InputEscape world options .endless (.failure (.fault (.overlong .noRoom)))

/-- Reading the bytes of an input fails exactly as listed. -/
theorem runStream_error_iff {content : ByteArray} :
    (runStream world options (Text.Stream.ofBytes content)).1 = .error c ↔
      InputEscape world options (.bytes content) c := by
  obtain ⟨w, -, hrun⟩ := runStream_apply world options (Text.Stream.ofBytes content)
  rw [hrun]
  constructor
  · intro h
    -- the run goes to the end of the input, or it is ended by a line
    cases hfind : ((calculator world options).outcomes 0 (Text.Stream.ofBytes content).lines).find?
        (ends options) with
    | none =>
      simp only [hfind] at h
      cases hbroken : (Text.Stream.ofBytes content).broken with
      | true =>
        rw [hbroken] at h
        cases h
        exact .undecodable hbroken hfind
      | false =>
        rw [hbroken] at h
        cases h
    | some outcome =>
      simp only [hfind] at h
      cases hexceeds : exceeds outcome with
      | true =>
        rw [hexceeds] at h
        cases h
        exact .line hfind hexceeds
      | false =>
        rw [hexceeds] at h
        cases h
  · intro h
    cases h with
    | undecodable hbroken h => simp only [h, hbroken, if_true]
    | line hlast h => simp only [hlast, h, if_true]

/-- Reading an input fails exactly as listed. -/
theorem runInput_error_iff {input : Input} :
    (runInput world options input).1 = .error c ↔ InputEscape world options input c := by
  cases input with
  | bytes content => exact runStream_error_iff
  | endless =>
    constructor
    · intro h
      cases h
      exact .endless
    · intro h
      cases h
      rfl

/-! ## Input and output -/

/-- The file can be opened and read. -/
def isReadable : Node → Bool
  | .file _ _ denied => denied.reading.isNone
  | .device _ => true
  | _ => false

/-- What escapes from a run with its options. -/
inductive RunEscape (world : World) (options : Options) : Crash → Prop where
  /-- The path of the input holds a NUL. -/
  | inputPath {path : Path} (hinput : options.inputFile = some path) (h : path.hasNul = true) :
      RunEscape world options .nulInPath
  /-- The output cannot be opened. -/
  | output {source : Option String} {input : Input} {path : Path} {c : Crash}
      (hinput : openInput world options = .ok (source, input))
      (houtput : options.outputFile = some path) (h : openOutput world path = .error c) :
      RunEscape world options c
  /-- There is no room for the output. -/
  | noSpace {input : Input} (hopened : Opened world options input true)
      (h : (runInput world options input).2.output ≠ "") : RunEscape world options .noSpace
  /-- The lines are left. -/
  | lines {input : Input} {full : Bool} {c : Crash} (hopened : Opened world options input full)
      (hroom : full = true → (runInput world options input).2.output = "")
      (h : InputEscape world options input c) : RunEscape world options c

/-- The input cannot be opened, and its path is not the reason. -/
def InputRefused (world : World) (options : Options) : Prop :=
  ∃ path, options.inputFile = some path ∧ path.hasNul = false ∧
    isReadable (world.look path) = false

/-- Opening the output asks for no limit. -/
theorem openOutput_ne_noLimit (world : World) (path : Path) :
    openOutput world path ≠ .error .noLimit := by
  have hfile (location : String) (denied : Option OsError) :
      openFile path location denied ≠ .error .noLimit := by
    cases denied <;> nofun
  unfold openOutput
  split
  · nofun
  · split
    · exact hfile _ _
    · exact hfile _ _
    all_goals nofun

/-- A run with its options has a limit. -/
theorem RunEscape.ne_noLimit (h : RunEscape world options c) : c ≠ .noLimit := by
  rintro rfl
  cases h with
  | output hinput houtput h => exact openOutput_ne_noLimit world _ h
  | lines hopened hroom h => cases h

/-- A path with a NUL cannot be opened, and the exception for that is not caught. -/
theorem openInput_of_nul {path : Path} (hinput : options.inputFile = some path)
    (h : path.hasNul = true) :
    openInput world options = .error { ending := .crash .nulInPath } := by
  simp only [openInput, hinput, h, if_true]

/-- An input that cannot be opened is reported, with the exit code 2. -/
theorem InputRefused.openInput_eq (h : InputRefused world options) :
    ∃ errors, openInput world options = .error { ending := .exit 2, errors } := by
  obtain ⟨path, hinput, hpath, hnode⟩ := h
  simp only [openInput, hinput, hpath, Bool.false_eq_true, if_false]
  cases hlook : world.look path with
  | file location content denied =>
    cases hreading : denied.reading with
    | some cause =>
      simp only [hreading]
      exact ⟨_, rfl⟩
    | none => simp [hlook, isReadable, hreading] at hnode
  | device kind =>
    rw [hlook] at hnode
    cases hnode
  | directory => exact ⟨_, rfl⟩
  | vacant location denied => exact ⟨_, rfl⟩
  | blocked cause => exact ⟨_, rfl⟩

/-- The input is opened, or it is refused, or its path has a NUL. -/
theorem openInput_cases (world : World) (options : Options) :
    (∃ source input, openInput world options = .ok (source, input)) ∨
      InputRefused world options ∨
      ∃ path, options.inputFile = some path ∧ path.hasNul = true := by
  cases hinput : options.inputFile with
  | none => exact .inl ⟨none, .bytes world.stdin, by simp only [openInput, hinput]⟩
  | some path =>
    cases hpath : path.hasNul with
    | true => exact .inr (.inr ⟨path, rfl, hpath⟩)
    | false =>
      cases hnode : isReadable (world.look path) with
      | false => exact .inr (.inl ⟨path, hinput, hpath, hnode⟩)
      | true =>
        refine .inl ?_
        simp only [openInput, hinput, hpath, Bool.false_eq_true, if_false]
        match world.look path, hnode with
        | .file location content denied, hnode =>
          have hreading : denied.reading = none := Option.isNone_iff_eq_none.mp hnode
          exact ⟨some location, .bytes content, by simp only [hreading]⟩
        | .device kind, _ => exact ⟨_, _, rfl⟩

/-- With its input open, a run has its output as well, unless that cannot be opened. -/
theorem openOutput_cases {source : Option String} {input : Input}
    (hinput : openInput world options = .ok (source, input)) :
    (∃ input full, Opened world options input full) ∨
      ∃ path c, options.outputFile = some path ∧ openOutput world path = .error c := by
  cases houtput : options.outputFile with
  | none => exact .inl ⟨_, _, .standard hinput houtput⟩
  | some path =>
    cases hopen : openOutput world path with
    | error c => exact .inr ⟨path, c, rfl, hopen⟩
    | ok destination =>
      cases destination with
      | file location => exact .inl ⟨_, _, .file hinput houtput hopen⟩
      | device kind => exact .inl ⟨_, _, .device hinput houtput hopen⟩

/-- A run that has room for its output ends as the evaluation of its input does. -/
theorem runOptions_ending_of_room {input : Input} {full : Bool}
    (hopened : Opened world options input full)
    (hroom : full = true → (runInput world options input).2.output = "") :
    (runOptions world options).ending = endingOf (runInput world options input).1 := by
  rw [runOptions_ending hopened]
  cases full with
  | false => rfl
  | true => simp [hroom rfl]

/-- Nothing is run or written if the input is refused. -/
theorem InputRefused.runOptions_eq (h : InputRefused world options) :
    ∃ errors, runOptions world options = { ending := .exit 2, errors } := by
  obtain ⟨errors, herrors⟩ := h.openInput_eq
  exact ⟨errors, by simp only [runOptions, herrors]⟩

/-- In each of the cases that are listed, a run ends with that exception. -/
theorem RunEscape.ending_eq (h : RunEscape world options c) :
    (runOptions world options).ending = .crash c := by
  cases h with
  | inputPath hinput h => simp only [runOptions, openInput_of_nul hinput h]
  | output hinput houtput h => simp only [runOptions, hinput, houtput, h]
  | noSpace hopened h => simp [runOptions_ending hopened, h]
  | lines hopened hroom h =>
    rw [runOptions_ending_of_room hopened hroom, runInput_error_iff.mpr h]
    rfl

/-- A run ends with a code that tells whether there are errors, or it fails as listed. -/
theorem runOptions_cases (world : World) (options : Options) :
    (∃ code ≤ 1, (runOptions world options).ending = .exit code) ∨
      InputRefused world options ∨ ∃ c, RunEscape world options c := by
  obtain ⟨source, input, hinput⟩ | hrefused | ⟨path, hpath, hnul⟩ := openInput_cases world options
  · obtain ⟨input, full, hopened⟩ | ⟨path, c, houtput, hopen⟩ := openOutput_cases hinput
    · by_cases hroom : full = true → (runInput world options input).2.output = ""
      · cases hresult : (runInput world options input).1 with
        | error c => exact .inr (.inr ⟨c, .lines hopened hroom (runInput_error_iff.mp hresult)⟩)
        | ok errors =>
          refine .inl ⟨if errors == 0 then 0 else 1, by split <;> omega, ?_⟩
          rw [runOptions_ending_of_room hopened hroom, hresult]
          rfl
      · obtain ⟨rfl, hwritten⟩ := Classical.not_imp.mp hroom
        exact .inr (.inr ⟨_, .noSpace hopened hwritten⟩)
    · exact .inr (.inr ⟨c, .output hinput houtput hopen⟩)
  · exact .inr (.inl hrefused)
  · exact .inr (.inr ⟨_, .inputPath hpath hnul⟩)

/-! ## The program -/

variable {words : List String}

/-- What escapes from the program. -/
inductive Escapes (world : World) (words : List String) : Crash → Prop where
  | options {a : Arguments} {c : Crash} (hwords : parse world.edition words = .ok a)
      (h : OptionsEscape world.stack world.look a c) : Escapes world words c
  | started {a : Arguments} {options : Options} {c : Crash}
      (hwords : parse world.edition words = .ok a)
      (hoptions : resolve world.stack world.look a = .ok options) (h : RunEscape world options c) :
      Escapes world words c

/-- In the current edition, no run lacks a limit: it is given with its value, or not at all. -/
theorem not_escapes_noLimit (hedition : world.edition = .current) :
    ¬ Escapes world words .noLimit := by
  rintro (@⟨a, -, hwords, h⟩ | ⟨-, -, h⟩)
  · rw [hedition] at hwords
    exact (valued_of_parse hwords).maxInt h.maxInt_eq
  · exact h.ne_noLimit rfl

/-- The program refuses to run. -/
inductive Refused (world : World) (words : List String) : Prop where
  | usage {e : UsageError} (h : parse world.edition words = .error (.usage e))
  | options {a : Arguments} (hwords : parse world.edition words = .ok a)
      (h : OptionsRefused world.stack world.look a)
  | input {a : Arguments} {options : Options} (hwords : parse world.edition words = .ok a)
      (hoptions : resolve world.stack world.look a = .ok options) (h : InputRefused world options)

/-- How the program is left. -/
inductive Departure where
  | returned (code : Nat)
  /-- The reader of the arguments ends the process. -/
  | exited (code : Nat)
  | raised (cause : Crash)

/-- How the program is left: once the arguments are read, an exit code is returned. -/
def departure (world : World) (words : List String) : Departure :=
  match parse world.edition words, (run world words).ending with
  | .ok _, .exit code => .returned code
  | .error _, .exit code => .exited code
  | _, .crash c => .raised c

/-- In each of the cases that are listed, the program ends with that exception. -/
theorem Escapes.ending_eq (h : Escapes world words c) : (run world words).ending = .crash c := by
  cases h with
  | options hwords h => simp only [run, hwords, h.resolve_eq]
  | started hwords hoptions h => simp only [run, hwords, hoptions, h.ending_eq]

/-- A program that refuses to run writes nothing but an error, and its exit code is 2. -/
theorem Refused.run_eq (h : Refused world words) :
    ∃ errors, run world words = { ending := .exit 2, errors } := by
  cases h with
  | usage h =>
    simp only [run, h]
    exact ⟨_, rfl⟩
  | options hwords h =>
    obtain ⟨e, he⟩ := h.resolve_eq
    simp only [run, hwords, he]
    exact ⟨_, rfl⟩
  | input hwords hoptions h =>
    obtain ⟨errors, herrors⟩ := h.runOptions_eq
    exact ⟨errors, by simp only [run, hwords, hoptions, herrors]⟩

/-- The program ends with a code that tells whether there are errors, or it fails as listed. -/
theorem run_cases (world : World) (words : List String) :
    (∃ code ≤ 1, (run world words).ending = .exit code) ∨ Refused world words ∨
      ∃ c, Escapes world words c := by
  cases hwords : parse world.edition words with
  | error stop =>
    cases stop with
    | help => exact .inl ⟨0, by omega, by simp only [run, hwords]⟩
    | usage e => exact .inr (.inl (.usage hwords))
  | ok a =>
    obtain ⟨options, hoptions⟩ | ⟨c, hescape⟩ | hrefused := resolve_cases world.stack world.look a
    · obtain ⟨code, hcode, hending⟩ | hrefused | ⟨c, hescape⟩ := runOptions_cases world options
      · exact .inl ⟨code, hcode, by simp only [run, hwords, hoptions, hending]⟩
      · exact .inr (.inl (.input hwords hoptions hrefused))
      · exact .inr (.inr ⟨c, .started hwords hoptions hescape⟩)
    · exact .inr (.inr ⟨c, .options hwords hescape⟩)
    · exact .inr (.inl (.options hwords hrefused))

/-- No exit code is greater than 2. -/
theorem code_le_two {code : Nat} (h : (run world words).ending = .exit code) : code ≤ 2 := by
  obtain ⟨small, hsmall, hending⟩ | hrefused | ⟨c, hescapes⟩ := run_cases world words
  · rw [hending] at h
    cases h
    omega
  · obtain ⟨errors, hrun⟩ := hrefused.run_eq
    rw [hrun] at h
    cases h
    exact Nat.le_refl 2
  · rw [hescapes.ending_eq] at h
    cases h

/-- The program ends with an exception exactly as listed. -/
theorem run_crash_iff : (run world words).ending = .crash c ↔ Escapes world words c := by
  refine ⟨fun h => ?_, Escapes.ending_eq⟩
  obtain ⟨small, -, hending⟩ | hrefused | ⟨c', hescapes⟩ := run_cases world words
  · rw [hending] at h
    cases h
  · obtain ⟨errors, hrun⟩ := hrefused.run_eq
    rw [hrun] at h
    cases h
  · rw [hescapes.ending_eq] at h
    cases h
    exact hescapes

/-- The exit code 2 is kept for refusals. -/
theorem refused_of_two (h : (run world words).ending = .exit 2) : Refused world words := by
  obtain ⟨small, hsmall, hending⟩ | hrefused | ⟨c, hescapes⟩ := run_cases world words
  · rw [hending] at h
    cases h
    omega
  · exact hrefused
  · rw [hescapes.ending_eq] at h
    cases h

/-- Once the arguments are read, an exit code is returned and an exception is raised. -/
theorem departure_of_parse {a : Arguments} (hwords : parse world.edition words = .ok a) :
    departure world words = match (run world words).ending with
      | .exit code => .returned code
      | .crash c => .raised c := by
  rw [departure, hwords]
  cases (run world words).ending <;> rfl

/-- A code is returned only if the arguments were read. -/
theorem parse_of_returned {code : Nat} (h : departure world words = .returned code) :
    ∃ a, parse world.edition words = .ok a := by
  cases hwords : parse world.edition words with
  | ok a => exact ⟨a, rfl⟩
  | error stop =>
    rw [departure, hwords] at h
    cases hending : (run world words).ending with
    | exit other =>
      rw [hending] at h
      cases h
    | crash c =>
      rw [hending] at h
      cases h

/-- The program ends with a code of at most 2, unless one of the exceptions that are listed escapes.
The code is 2 exactly if the run is refused, and then nothing is written. It is returned exactly if
nothing escapes and the reader of the arguments does not end the process itself. With the current
edition of that reader, a missing limit is not among the exceptions. -/
theorem run_exit_code (world : World) (words : List String) :
    (∀ code, (run world words).ending = .exit code → code ≤ 2) ∧
    (∀ c, (run world words).ending = .crash c ↔ Escapes world words c) ∧
    ((run world words).ending = .exit 2 ↔ Refused world words) ∧
    ((run world words).ending = .exit 2 →
      (run world words).output = "" ∧ (run world words).written = none) ∧
    ((∃ code ≤ 2, departure world words = .returned code) ↔
      (∃ a, parse world.edition words = .ok a) ∧ ∀ c, ¬ Escapes world words c) ∧
    (world.edition = .current → ¬ Escapes world words .noLimit) := by
  refine ⟨fun code => code_le_two, fun c => run_crash_iff, ⟨refused_of_two, fun h => ?_⟩,
    fun h => ?_, ⟨fun ⟨code, _, hleft⟩ => ?_, fun ⟨⟨a, hwords⟩, hnone⟩ => ?_⟩,
    not_escapes_noLimit⟩
  · obtain ⟨errors, hrun⟩ := h.run_eq
    rw [hrun]
  · obtain ⟨errors, hrun⟩ := (refused_of_two h).run_eq
    rw [hrun]
    exact ⟨rfl, rfl⟩
  · obtain ⟨a, hwords⟩ := parse_of_returned hleft
    refine ⟨⟨a, hwords⟩, fun c hescapes => ?_⟩
    rw [departure_of_parse hwords, hescapes.ending_eq] at hleft
    cases hleft
  · rw [departure_of_parse hwords]
    cases hending : (run world words).ending with
    | exit code => exact ⟨code, code_le_two hending, rfl⟩
    | crash c => exact absurd (run_crash_iff.mp hending) (hnone c)

/-- A configuration of a single byte, which is no UTF-8. -/
def strayByteWorld : World where
  look := (FileTree.around [(["c.toml"], ⟨#[0xff]⟩)] []).look
  stdin := "1\n".toUTF8

/-- A configuration that is not UTF-8 is not refused: the program is left by an exception, as it is
if the output cannot be opened. For an option that is not known, the process is ended. -/
theorem run_undecodable_config :
    departure strayByteWorld ["--config", "c.toml"] = .raised .undecodable ∧
      departure strayByteWorld ["-o", "none/x"] = .raised (.os .missing (Path.ofText "none/x")) ∧
      departure strayByteWorld ["--loud"] = .exited 2 :=
  ⟨rfl, rfl, rfl⟩

end LineScan.CommandLine
