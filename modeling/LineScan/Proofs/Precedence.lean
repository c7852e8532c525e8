import Mathlib
import LineScan.Proofs.ExitCode
import LineScan.Proofs.Values

/-!
# The command line comes before the configuration

A setting of a run can be given in three places: on the command line, in the configuration, and as a
default. The first of these that has it decides. For the variables this holds name by name, and
among several definitions of a name on the command line the last one decides.

What a setting comes to is said here by relations that do not follow the order in which the options
are put together: `MergedLimit` for the largest integer, and `MergedVariable` for a variable. A
definition is told apart from its text alone (`Defines`): its name is what stands before the first
equals sign.

## Main statements

* `readDefinition_eq_ok_iff`: what a definition reads as.
* `get?_addDefinitions`: the variables after the definitions of the command line.
* `resolve_merges`: when options are refused, and what they are otherwise.
-/

namespace LineScan

namespace Bindings

variable {α : Type _}

/-- Without entries no name has a value. -/
theorem get?_nil (key : String) : get? ([] : Bindings α) key = none := rfl

/-- The first entry of a name decides. -/
theorem get?_cons (first : String) (old : α) (rest : Bindings α) (key : String) :
    get? ((first, old) :: rest) key = if key = first then some old else get? rest key := by
  by_cases h : key = first
  · simp [get?, h]
  · simp [get?, List.lookup_cons, beq_eq_false_iff_ne.mpr h, h]

/-- Giving a name a value changes the value of that name and of no other. -/
theorem get?_insert (bindings : Bindings α) (name key : String) (value : α) :
    (bindings.insert name value).get? key =
      if key = name then some value else bindings.get? key := by
  induction bindings with
  | nil => exact get?_cons name value [] key
  | cons entry rest ih =>
    obtain ⟨first, old⟩ := entry
    unfold insert
    by_cases hfirst : first = name
    · subst hfirst
      rw [if_pos (beq_self_eq_true first), get?_cons, get?_cons]
      split <;> rfl
    · have hkeep : ¬ (first == name) = true := fun h => hfirst (beq_iff_eq.mp h)
      rw [if_neg hkeep, get?_cons, get?_cons, ih]
      -- the name given is not the first one, so the two questions are asked in either order
      by_cases hkey : key = first
      · rw [if_pos hkey, if_pos hkey, if_neg (hkey ▸ hfirst)]
      · rw [if_neg hkey, if_neg hkey]

end Bindings

namespace CommandLine

open Grammar

/-! ## Definitions -/

/-- A definition gives a name a value: they stand before and after its first equals sign. -/
def Defines (definition : Option String) (name value : String) : Prop :=
  ∃ text, definition = some text ∧ text.toList = name.toList ++ '=' :: value.toList ∧
    '=' ∉ name.toList

/-- A definition is one of the name. -/
def DefinitionOf (name : String) (definition : Option String) : Prop :=
  ∃ value, Defines definition name value

/-- The last definition of a name gives it the value. -/
def LastDefines (definitions : List (Option String)) (name value : String) : Prop :=
  ∃ before definition after, definitions = before ++ definition :: after ∧
    Defines definition name value ∧ ∀ later ∈ after, ¬ DefinitionOf name later

/-- A word is split at its first equals sign. -/
theorem splitEquals_of_mem {word name value : List Char} (h : word = name ++ '=' :: value)
    (hname : '=' ∉ name) : splitEquals word = (name, some value) := by
  have hrun : ∀ c ∈ name, (c != '=') = true := fun c hc =>
    bne_iff_ne.mpr fun hequals => hname (hequals ▸ hc)
  have hstop : ∀ c, ('=' :: value).head? = some c → (c != '=') = false := by
    rintro c ⟨⟩
    rfl
  rw [h, splitEquals, Grammar.dropWhile_run hrun hstop, Grammar.takeWhile_run hrun hstop]

/-- A definition is read as the name and the value that it gives. -/
theorem readDefinition_eq_ok_iff {text name value : String} :
    readDefinition text = .ok (name, value) ↔ Defines (some text) name value := by
  constructor
  · intro h
    have hsplit := List.takeWhile_append_dropWhile (p := (· != '=')) (l := text.toList)
    unfold readDefinition splitEquals at h
    cases hrest : text.toList.dropWhile (· != '=') with
    | nil =>
      rw [hrest] at h
      cases h
    | cons c after =>
      have hfirst := List.head?_dropWhile_not (· != '=') text.toList
      rw [hrest] at h hfirst hsplit
      obtain rfl : c = '=' := by simpa using hfirst
      cases h
      refine ⟨text, rfl, ?_, fun hmem => ?_⟩
      · rw [String.toList_ofList, String.toList_ofList]
        exact hsplit.symm
      · rw [String.toList_ofList] at hmem
        exact absurd (List.all_eq_true.mp List.all_takeWhile '=' hmem) (by decide)
  · rintro ⟨_, ⟨⟩, htext, hname⟩
    have hok : readDefinition text =
        .ok (String.ofList name.toList, String.ofList value.toList) := by
      rw [readDefinition, splitEquals_of_mem htext hname]
    rw [hok, String.ofList_toList, String.ofList_toList]

/-- A definition is one of a single name, and gives it a single value. -/
theorem Defines.unique {definition : Option String} {name name' value value' : String}
    (h : Defines definition name value) (h' : Defines definition name' value') :
    name = name' ∧ value = value' := by
  obtain ⟨text, rfl, -⟩ := id h
  have hread := readDefinition_eq_ok_iff.mpr h
  rw [readDefinition_eq_ok_iff.mpr h'] at hread
  cases hread
  exact ⟨rfl, rfl⟩

/-- Without definitions no name is defined. -/
theorem lastDefines_nil (name value : String) : ¬ LastDefines [] name value := by
  rintro ⟨before, definition, after, h, -⟩
  cases before <;> cases h

/-- The first definition decides if none of the others is one of the name. -/
theorem lastDefines_cons {definition : Option String} {rest : List (Option String)}
    {name value : String} :
    LastDefines (definition :: rest) name value ↔ LastDefines rest name value ∨
      (∀ later ∈ rest, ¬ DefinitionOf name later) ∧ Defines definition name value := by
  constructor
  · rintro ⟨before, last, after, hsplit, hlast, hafter⟩
    cases before with
    | nil =>
      cases hsplit
      exact .inr ⟨hafter, hlast⟩
    | cons first before =>
      cases hsplit
      exact .inl ⟨before, last, after, rfl, hlast, hafter⟩
  · rintro (⟨before, last, after, rfl, hlast, hafter⟩ | ⟨hrest, hdefines⟩)
    · exact ⟨definition :: before, last, after, rfl, hlast, hafter⟩
    · exact ⟨[], definition, rest, rfl, hdefines, hrest⟩

/-! ## Variables -/

/-- What the variables are after the definitions of the command line: for each name what its last
definition says, and for a name without a definition what was there before. -/
theorem get?_addDefinitions {env result : Option (Bindings String)}
    {definitions : List (Option String)} (h : addDefinitions env definitions = .ok result)
    (name value : String) :
    (result.getD []).get? name = some value ↔ LastDefines definitions name value ∨
      (∀ definition ∈ definitions, ¬ DefinitionOf name definition) ∧
        (env.getD []).get? name = some value := by
  -- the induction is on the definitions; each of them is on top of the variables so far
  induction definitions generalizing env with
  | nil =>
    cases h
    simp [lastDefines_nil]
  | cons definition rest ih =>
    cases definition with
    | none => cases h
    | some text =>
      obtain ⟨⟨key, new⟩, hread, h⟩ := bind_eq_ok h
      have hdefines := readDefinition_eq_ok_iff.mp hread
      rw [ih h, Option.getD_some, Bindings.get?_insert, lastDefines_cons, List.forall_mem_cons]
      by_cases hkey : name = key
      · subst hkey
        have hof : DefinitionOf name (some text) := ⟨new, hdefines⟩
        have hnew : Defines (some text) name value ↔ new = value :=
          ⟨fun hvalue => (hdefines.unique hvalue).2, fun hvalue => hvalue ▸ hdefines⟩
        simp [hof, hnew]
      · have hother : ∀ value, ¬ Defines (some text) name value := fun _ hvalue =>
          hkey (hvalue.unique hdefines).1
        have hnot : ¬ DefinitionOf name (some text) := by
          rintro ⟨other, hvalue⟩
          exact hother other hvalue
        simp [hother, hnot, hkey]

/-- There are variables of the run's own if there were some before, or with the first definition. -/
theorem addDefinitions_eq_none_iff {env result : Option (Bindings String)}
    {definitions : List (Option String)} (h : addDefinitions env definitions = .ok result) :
    result = none ↔ definitions = [] ∧ env = none := by
  induction definitions generalizing env with
  | nil =>
    cases h
    simp
  | cons definition rest ih =>
    cases definition with
    | none => cases h
    | some text =>
      obtain ⟨entry, -, h⟩ := bind_eq_ok h
      simp [ih h]

variable {stack : Toml.Stack}

/-- A value's text in a configuration is its plain text. -/
theorem plainText_of_configText {datum : Datum} {text : String}
    (h : configText stack datum = .ok text) : datum.plainText = .ok text := by
  unfold configText at h
  split at h
  · exact mapError_eq_ok h
  · cases h

/-- The texts of the configuration's variables, name by name. -/
theorem get?_configEnv {entries : List (String × Datum)} {env : Bindings String}
    (h : configEnv stack entries = .ok env) (name value : String) :
    env.get? name = some value ↔
      ∃ datum, Bindings.get? entries name = some datum ∧ datum.plainText = .ok value := by
  induction entries generalizing env with
  | nil =>
    cases h
    simp [Bindings.get?_nil]
  | cons entry rest ih =>
    obtain ⟨key, datum⟩ := entry
    rw [configEnv] at h
    cases htext : configText stack datum with
    | error cause =>
      rw [htext] at h
      cases h
    | ok text =>
      cases hrest : configEnv stack rest with
      | error e =>
        rw [htext, hrest] at h
        cases h
      | ok others =>
        rw [htext, hrest] at h
        cases h
        rw [Bindings.get?_cons, Bindings.get?_cons]
        split
        · simp [plainText_of_configText htext]
        · exact ih hrest

/-- The value of a variable of a run: what the last definition of its name says, and for a name
without a definition the text of what the configuration has. -/
inductive MergedVariable (config : Toml.Table) (definitions : List (Option String))
    (name value : String) : Prop where
  | defined (h : LastDefines definitions name value)
  | configured (hnone : ∀ definition ∈ definitions, ¬ DefinitionOf name definition)
      {entries : Toml.Table} {datum : Datum} (hsection : config.get? "env" = some (.table entries))
      (hentry : entries.get? name = some datum) (htext : datum.plainText = .ok value)

variable {look : Path → Node} {a : Arguments} {config : Toml.Table}

/-- The definitions are added to what the configuration has, if it has a section of variables. -/
theorem exists_base {definitions : List (Option String)} {result : Option (Bindings String)}
    (h : resolveEnv stack config definitions = .ok result) :
    ∃ base, addDefinitions base definitions = .ok result ∧
      (base = none ↔ ∀ entries, config.get? "env" ≠ some (.table entries)) ∧
      ∀ name value, (base.getD []).get? name = some value ↔
        ∃ entries datum, config.get? "env" = some (.table entries) ∧
          Bindings.get? entries name = some datum ∧ datum.plainText = .ok value := by
  unfold resolveEnv at h
  dsimp only at h
  split at h
  · next entries hentries =>
    obtain ⟨base, hbase, h⟩ := bind_eq_ok h
    cases henv : configEnv stack entries with
    | error e =>
      rw [henv] at hbase
      cases hbase
    | ok env =>
      rw [henv] at hbase
      cases hbase
      refine ⟨some env, mapError_eq_ok h, by simp [hentries], fun name value => ?_⟩
      rw [Option.getD_some, get?_configEnv henv]
      simp [hentries]
  · next hother =>
    have hnone : ∀ entries, config.get? "env" ≠ some (.table entries) := hother
    obtain ⟨base, hbase, h⟩ := bind_eq_ok h
    cases hbase
    -- without a section the definitions have nothing to be added to
    refine ⟨none, mapError_eq_ok h, by simpa using hnone, fun name value => ?_⟩
    simp [Bindings.get?_nil, hnone]

/-- The variables of a run are those of the definitions and of the configuration, name by name, and
there are none of its own if it has neither. -/
theorem resolveEnv_merges {definitions : List (Option String)} {result : Option (Bindings String)}
    (h : resolveEnv stack config definitions = .ok result) :
    (result = none ↔ definitions = [] ∧ ∀ entries, config.get? "env" ≠ some (.table entries)) ∧
      ∀ name value, (result.getD []).get? name = some value ↔
        MergedVariable config definitions name value := by
  obtain ⟨base, hadd, hbase, hvalues⟩ := exists_base h
  refine ⟨(addDefinitions_eq_none_iff hadd).trans (and_congr_right' hbase), fun name value => ?_⟩
  rw [get?_addDefinitions hadd, hvalues]
  constructor
  · rintro (hlast | ⟨hnone, entries, datum, hsection, hentry, htext⟩)
    · exact .defined hlast
    · exact .configured hnone hsection hentry htext
  · rintro (hlast | ⟨hnone, hsection, hentry, htext⟩)
    · exact .inl hlast
    · exact .inr ⟨hnone, _, _, hsection, hentry, htext⟩

/-! ## The section of the calculator -/

/-- What is in the section of the calculator is in a table of that name. -/
theorem get?_calcSection {key : String} {value : Datum} :
    (calcSection config).get? key = some value ↔
      ∃ entries, config.get? "calc" = some (.table entries) ∧
        Bindings.get? entries key = some value := by
  unfold calcSection
  split
  · next entries hentries => simp [hentries]
  · next hnone =>
    refine ⟨nofun, ?_⟩
    rintro ⟨entries, hentries, -⟩
    exact absurd hentries (hnone entries)

/-- The largest integer of a run: that of the command line, else that of the configuration, if it
is an integer in a section of the calculator, else the greatest of 32 bits with a sign. -/
inductive MergedLimit (config : Toml.Table) : Option (Option Int) → Int → Prop where
  | flag (n : Int) : MergedLimit config (some (some n)) n
  | configured {entries : Toml.Table} {n : Int}
      (hsection : config.get? "calc" = some (.table entries))
      (hentry : entries.get? "max_int" = some (.int n)) : MergedLimit config none n
  | default (hnone : ∀ entries n, config.get? "calc" = some (.table entries) →
      Bindings.get? entries "max_int" ≠ some (.int n)) : MergedLimit config none 2147483647

/-- The limit that is asked for is the merged one. -/
theorem limit?_eq_some_iff {flag : Option (Option Int)} {n : Int} :
    limit? config flag = some n ↔ MergedLimit config flag n := by
  constructor
  · intro h
    unfold limit? at h
    split at h
    · subst h
      exact .flag n
    · next hentry =>
      cases h
      obtain ⟨entries, hsection, hentry⟩ := get?_calcSection.mp hentry
      exact .configured hsection hentry
    · next hnone =>
      cases h
      exact .default fun entries n hsection hentry =>
        hnone n (get?_calcSection.mpr ⟨entries, hsection, hentry⟩)
  · rintro (_ | ⟨hsection, hentry⟩ | hnone)
    · rfl
    · have hentry := get?_calcSection.mpr ⟨_, hsection, hentry⟩
      simp only [limit?, hentry]
    · have hother : ∀ n, (calcSection config).get? "max_int" ≠ some (.int n) := by
        intro n h
        obtain ⟨entries, hsection, hentry⟩ := get?_calcSection.mp h
        exact hnone entries n hsection hentry
      unfold limit?
      split
      · next h => cases h
      · next h => exact absurd h (hother _)
      · rfl

/-- A run stops at an error if the command line or the configuration says so. -/
theorem resolveStop_eq_true_iff {flag : Bool} :
    resolveStop config flag = true ↔ flag = true ∨ ∃ entries,
      config.get? "calc" = some (.table entries) ∧
        Bindings.get? entries "stop_on_error" = some (.bool true) := by
  rw [resolveStop, Bool.or_eq_true, ← get?_calcSection]
  refine or_congr_right ?_
  split
  · next b hb => simp [hb]
  · next hnone => simpa using hnone true

/-! ## The options of a run -/

/-- Some definition has no equals sign, or the largest integer is not positive. -/
def Rejected (config : Toml.Table) (a : Arguments) : Prop :=
  (∃ definition ∈ a.env, isDefinition definition = false) ∨
    ∃ n, MergedLimit config a.maxInt n ∧ n < 1

/-- What is set on the command line and in a configuration is what the options say. -/
structure Options.Merge (options : Options) (config : Toml.Table) (a : Arguments) : Prop where
  /-- Without any definition and without a section of variables they are those of the process. -/
  env_eq_none : options.env = none ↔
    a.env = [] ∧ ∀ entries, config.get? "env" ≠ some (.table entries)
  env_get? : ∀ env, options.env = some env → ∀ name value,
    env.get? name = some value ↔ MergedVariable config a.env name value
  maxInt_merged : MergedLimit config a.maxInt options.maxInt
  stopOnError_eq_true : options.stopOnError = true ↔ a.stopOnError = true ∨ ∃ entries,
    config.get? "calc" = some (.table entries) ∧
      Bindings.get? entries "stop_on_error" = some (.bool true)

/-- If every variable of the configuration has a text, none is left unwritten. -/
theorem unwritten?_of_texts
    (h : ∀ entries, config.get? "env" = some (.table entries) →
      ∀ entry ∈ entries, ∃ text, configText stack entry.2 = .ok text) :
    unwritten? stack (configVariables config) = none := by
  refine List.findSome?_eq_none_iff.mpr fun entry hentry => ?_
  unfold configVariables at hentry
  split at hentry
  · next entries hentries =>
    obtain ⟨text, htext⟩ := h entries hentries entry hentry
    rw [htext]
  · cases hentry

/-- Options that are merged say what the command line and the configuration say. -/
theorem merge_ok {options : Options} (h : merge stack config a = .ok options) :
    options.Merge config a := by
  unfold merge at h
  obtain ⟨env, henv, h⟩ := bind_eq_ok h
  obtain ⟨n, hlimit, h⟩ := bind_eq_ok h
  cases h
  obtain ⟨hnone, hvalues⟩ := resolveEnv_merges henv
  refine ⟨hnone, ?_, ?_, resolveStop_eq_true_iff⟩
  · rintro own rfl
    exact hvalues
  · rw [resolveMaxInt_eq] at hlimit
    refine limit?_eq_some_iff.mp ?_
    split at hlimit
    · cases hlimit
    · next m hm =>
      split at hlimit
      · cases hlimit
      · cases hlimit
        exact hm

/-- If nothing is rejected, every definition has an equals sign. -/
theorem all_isDefinition_of_not_rejected (h : ¬ Rejected config a) :
    a.env.all isDefinition = true := by
  refine List.all_eq_true.mpr fun definition hmem => ?_
  cases hfalse : isDefinition definition with
  | true => rfl
  | false => exact absurd (.inl ⟨definition, hmem, hfalse⟩) h

/-- A configuration and the command line are merged. The options are refused if and only if some
definition has no equals sign or the largest integer is not positive; otherwise they are what the
command line says, and what the configuration says where the command line says nothing. A largest
integer that was given without a value is neither. -/
theorem resolve_merges (hconfig : loadConfig stack a.configPath (look a.configPath) = .ok config)
    (htexts : ∀ entries, config.get? "env" = some (.table entries) →
      ∀ entry ∈ entries, ∃ text, configText stack entry.2 = .ok text) :
    ((∃ e, resolve stack look a = .error (.error e)) ↔ Rejected config a) ∧
      (¬ Rejected config a → a.maxInt ≠ some none →
        ∃ options, resolve stack look a = .ok options ∧ options.Merge config a) ∧
      (¬ Rejected config a → a.maxInt = some none →
        resolve stack look a = .error (.crash .noLimit)) := by
  have hvariables := unwritten?_of_texts htexts
  have hrejected (h : Rejected config a) : ∃ e, resolve stack look a = .error (.error e) := by
    cases hdefinitions : a.env.all isDefinition with
    | false => exact (OptionsRefused.definition hconfig hvariables hdefinitions).resolve_eq
    | true =>
      obtain ⟨definition, hmem, hfalse⟩ | ⟨n, hlimit, hn⟩ := h
      · rw [List.all_eq_true.mp hdefinitions definition hmem] at hfalse
        cases hfalse
      · exact (OptionsRefused.limit hconfig hvariables hdefinitions
          (limit?_eq_some_iff.mpr hlimit) hn).resolve_eq
  have hmerged (h : ¬ Rejected config a) (hflag : a.maxInt ≠ some none) :
      ∃ options, resolve stack look a = .ok options ∧ options.Merge config a := by
    obtain ⟨env, henv⟩ := exists_env hvariables (all_isDefinition_of_not_rejected h)
    cases hlimit : limit? config a.maxInt with
    | none => exact absurd (flag_of_limit? hlimit) hflag
    | some n =>
      have hn : ¬ n < 1 := fun hn => h (.inr ⟨n, limit?_eq_some_iff.mp hlimit, hn⟩)
      have hmax : resolveMaxInt config a.maxInt = .ok n := by
        rw [resolveMaxInt_eq, hlimit]
        exact if_neg hn
      obtain ⟨options, hoptions⟩ := merge_of_limit henv hmax
      exact ⟨options, (resolve_of_loaded hconfig).trans hoptions, merge_ok hoptions⟩
  have hvalueless (h : ¬ Rejected config a) (hflag : a.maxInt = some none) :
      resolve stack look a = .error (.crash .noLimit) :=
    (OptionsEscape.limit hconfig hvariables (all_isDefinition_of_not_rejected h) hflag).resolve_eq
  refine ⟨⟨?_, hrejected⟩, hmerged, hvalueless⟩
  -- conversely, what is not rejected is merged or lacks a limit, and neither is an error that is
  -- reported
  rintro ⟨e, he⟩
  by_cases h : Rejected config a
  · exact h
  · by_cases hflag : a.maxInt = some none
    · rw [hvalueless h hflag] at he
      cases he
    · obtain ⟨options, hoptions, -⟩ := hmerged h hflag
      rw [hoptions] at he
      cases he

/-- A configuration with one variable and a largest integer. -/
def smallConfigText : String := "env.x = true\ncalc.max_int = 7"

/-- The sections of the configuration. -/
def smallConfig : Toml.Table :=
  [("env", .table [("x", .bool true)]), ("calc", .table [("max_int", .int 7)])]

/-- Two definitions of another variable. -/
def twoDefinitions : Arguments where
  env := [some "y=1", some "y=2=3"]

/-- The configuration has the variable `x` and the largest integer, and the command line has `y`, of
which the second definition decides. -/
theorem resolve_merges_smallConfig :
    let look : Path → Node := fun _ => .file "uuscan.toml" smallConfigText.toUTF8
    let stack : Toml.Stack := .bounded Toml.Stack.defaultRoom
    loadConfig stack twoDefinitions.configPath (look twoDefinitions.configPath) = .ok smallConfig ∧
      ¬ Rejected smallConfig twoDefinitions ∧ ∃ options,
        resolve stack look twoDefinitions = .ok options ∧ options.maxInt = 7 ∧
          ∃ env, options.env = some env ∧ env.get? "x" = some "True" ∧
            env.get? "y" = some "2=3" := by
  intro look stack
  have hconfig : loadConfig stack twoDefinitions.configPath (look twoDefinitions.configPath) =
      .ok smallConfig := by
    have htext : String.fromUTF8? smallConfigText.toUTF8 = some smallConfigText := rfl
    have hparse : Toml.parse stack smallConfigText.toList = .ok smallConfig := by cbv
    have hfile : HasConfig look twoDefinitions smallConfigText.toUTF8 := ⟨rfl, _, _, rfl, rfl⟩
    simp only [loadConfig_of_file hfile, readConfig, htext, hparse]
  have htexts : ∀ entries, smallConfig.get? "env" = some (.table entries) →
      ∀ entry ∈ entries, ∃ text, configText stack entry.2 = .ok text := by
    rintro entries ⟨⟩ entry hentry
    rw [List.mem_singleton.mp hentry]
    exact ⟨"True", rfl⟩
  have haccepted : ¬ Rejected smallConfig twoDefinitions := by
    rintro (⟨definition, hmem, hfalse⟩ | ⟨n, hlimit, hn⟩)
    · have hall : twoDefinitions.env.all isDefinition = true := rfl
      rw [List.all_eq_true.mp hall definition hmem] at hfalse
      cases hfalse
    · have hseven : limit? smallConfig none = some 7 := rfl
      have hn' := limit?_eq_some_iff.mpr hlimit
      cases hseven.symm.trans hn'
      omega
  obtain ⟨-, hmerged, -⟩ := resolve_merges hconfig htexts
  obtain ⟨options, hoptions, hmerge⟩ := hmerged haccepted (fun h => by cases h)
  refine ⟨hconfig, haccepted, options, hoptions, ?_, ?_⟩
  · have hlimit := limit?_eq_some_iff.mpr hmerge.maxInt_merged
    exact (Option.some.inj hlimit).symm
  · cases henv : options.env with
    | none => cases (hmerge.env_eq_none.mp henv).1
    | some env =>
      refine ⟨env, rfl, (hmerge.env_get? env henv ..).mpr ?_, (hmerge.env_get? env henv ..).mpr ?_⟩
      · refine .configured ?_ rfl rfl rfl
        rintro definition hmem ⟨value, text, rfl, htext, -⟩
        -- both definitions start with another letter
        have hfirst : ∀ text, some text ∈ twoDefinitions.env → text.toList.head? = some 'y' := by
          simp [twoDefinitions]
        have hhead := hfirst text hmem
        rw [htext] at hhead
        cases hhead
      · refine .defined ⟨[some "y=1"], _, [], rfl, ⟨"y=2=3", rfl, rfl, by decide⟩,
          fun _ h => by cases h⟩

end CommandLine

end LineScan
