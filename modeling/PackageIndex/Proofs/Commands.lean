import PackageIndex.CommandLine
import PackageIndex.Proofs.Loading

/-!
# What a command does

A command line that names a directory loads a configuration and generates the indexes, and does
nothing else.  `Gives` says which settings its options give: the names to leave out are gathered,
and of all other options for a setting the last one counts.  A setting without an option is left to
the settings file (`value?_overridesOf_eq_none_iff`).

Before the end of a command the user is told nothing but what loading warns of and the steps of the
run (`isWarning_of_mem_load`, `isStep_of_mem_generate`).  `runCommand_follows_calls` compares the
outcome of a command with that of the two calls: the disk, the exit code and what is told, also if
one of the calls fails.
-/

namespace PackageIndex

open Settings

/-! ## Options -/

/-- The setting that an option gives a value to. -/
def Flag.setting? : Flag → Option Setting
  | .version => some .version
  | .exclude => some .exclude
  | .respectListing _ => some .respectListing
  | .sort _ => some .sort
  | .verbose => some .verbose
  | .programVersion | .help => none

/-- The value that an option stands for, with the text behind it. -/
def Flag.value (text : String) : Flag → Value
  | .version | .exclude => .text text
  | .respectListing on | .sort on => .boolean on
  | .verbose | .programVersion | .help => .boolean true

/-- Arguments give a value to a setting.  All names to leave out are gathered, and of the options
for any other setting the last one counts. -/
inductive Gives (found : List Argument) : Setting → Value → Prop
  | gathered (h : valuesOf .exclude found ≠ []) :
    Gives found .exclude (.list ((valuesOf .exclude found).map .text))
  | last {s : Setting} {flag : Flag} {text : String} {front back : List Argument}
    (h : found = front ++ .option flag text :: back) (hs : flag.setting? = some s)
    (hne : s ≠ .exclude)
    (hlast : ∀ other text, .option other text ∈ back → other.setting? ≠ some s) :
    Gives found s (flag.value text)

/-- The value that an argument gives to a setting. -/
def Argument.valueFor? (s : Setting) : Argument → Option Value
  | .option flag text => if flag.setting? = some s then some (flag.value text) else none
  | .word _ => none

variable {found : List Argument} {s : Setting} {v : Value}

/-- The values of a flag are the texts of its options. -/
lemma mem_valuesOf {flag : Flag} {text : String} :
    text ∈ valuesOf flag found ↔ .option flag text ∈ found := by
  simp only [valuesOf, List.mem_filterMap]
  constructor
  · rintro ⟨⟨other, text⟩ | text, hmem, h⟩
    · dsimp only at h
      split_ifs at h with hother
      obtain rfl := Option.some.inj h
      exact hother ▸ hmem
    · cases h
  · exact fun hmem => ⟨_, hmem, if_pos rfl⟩

/-- The last of all values is the last of all texts, as a value. -/
lemma getLast?_valuesOf_map (flag : Flag) (value : String → Value) :
    (valuesOf flag found).getLast?.map value = (found.filterMap fun
      | .option other text => if other = flag then some (value text) else none
      | .word _ => none).getLast? := by
  rw [valuesOf, ← List.getLast?_map, List.map_filterMap]
  congr 2
  funext a
  cases a with
  | word => rfl
  | option other text => by_cases h : other = flag <;> simp [h]

/-- Of all options for a setting the last one counts, unless they leave out names. -/
lemma value?_overridesOf (hs : s ≠ .exclude) :
    (overridesOf found).value? s = (found.filterMap (Argument.valueFor? s)).getLast? := by
  have hvalues {f : Argument → Option Value}
      (hoption : ∀ flag text, f (.option flag text) = (Argument.option flag text).valueFor? s)
      (hword : ∀ text, f (.word text) = none) :
      (found.filterMap f).getLast? = (found.filterMap (Argument.valueFor? s)).getLast? := by
    rw [List.filterMap_congr fun a _ => ?_]
    cases a with
    | option flag text => exact hoption flag text
    | word text => exact hword text
  cases s with
  | exclude => exact absurd rfl hs
  | version =>
    refine (getLast?_valuesOf_map .version .text).trans (hvalues (fun flag text => ?_) fun _ => rfl)
    cases flag <;> rfl
  | respectListing =>
    refine hvalues (fun flag text => ?_) fun _ => rfl
    rcases flag with - | - | (_ | _) | (_ | _) | - | - | - <;> rfl
  | sort =>
    refine hvalues (fun flag text => ?_) fun _ => rfl
    rcases flag with - | - | (_ | _) | (_ | _) | - | - | - <;> rfl
  | verbose =>
    have hmap : (if (valuesOf .verbose found).isEmpty then none else some (.boolean true)) =
        (valuesOf .verbose found).getLast?.map fun _ => Value.boolean true := by
      cases h : valuesOf .verbose found with
      | nil => rfl
      | cons text texts => simp [List.getLast?_cons]
    refine (hmap.trans (getLast?_valuesOf_map .verbose _)).trans
      (hvalues (fun flag text => ?_) fun _ => rfl)
    cases flag <;> rfl

/-- The excluded names are gathered from all of their options, if there is one. -/
lemma value?_overridesOf_exclude : (overridesOf found).value? .exclude =
    if valuesOf .exclude found = [] then none
    else some (.list ((valuesOf .exclude found).map .text)) := by
  simp [Overrides.value?, overridesOf]

/-- An option gives its value to one setting, and a word gives none. -/
lemma Argument.valueFor?_eq_some_iff {a : Argument} : a.valueFor? s = some v ↔
    ∃ flag text, a = .option flag text ∧ flag.setting? = some s ∧ flag.value text = v := by
  cases a with
  | word text => simp [valueFor?]
  | option flag text =>
    simp only [valueFor?, Option.ite_none_right_eq_some, Option.some.injEq, option.injEq]
    constructor
    · rintro ⟨hs, hv⟩
      exact ⟨flag, text, ⟨rfl, rfl⟩, hs, hv⟩
    · rintro ⟨flag, text, ⟨rfl, rfl⟩, hs, hv⟩
      exact ⟨hs, hv⟩

/-- An argument gives no value to a setting unless it is an option for it. -/
lemma Argument.valueFor?_eq_none_iff {a : Argument} : a.valueFor? s = none ↔
    ∀ flag text, a = .option flag text → flag.setting? ≠ some s := by
  cases a with
  | word text => simp [valueFor?]
  | option flag text =>
    simp only [valueFor?, ite_eq_right_iff, reduceCtorEq, imp_false, option.injEq]
    constructor
    · rintro hs flag text ⟨rfl, rfl⟩
      exact hs
    · exact fun hs => hs flag text ⟨rfl, rfl⟩

/-- The values that reach the loading are the ones that the options give. -/
theorem value?_overridesOf_eq_some_iff :
    (overridesOf found).value? s = some v ↔ Gives found s v := by
  by_cases hs : s = .exclude
  · subst hs
    rw [value?_overridesOf_exclude]
    constructor
    · intro h
      split_ifs at h with hvalues
      exact Option.some.inj h ▸ .gathered hvalues
    · rintro (⟨h⟩ | ⟨-, -, hne, -⟩)
      · rw [if_neg h]
      · exact absurd rfl hne
  rw [value?_overridesOf hs, List.getLast?_filterMap, List.findSome?_eq_some_iff]
  constructor
  · rintro ⟨back, a, front, harguments, hvalue, hback⟩
    obtain ⟨flag, text, rfl, hsetting, rfl⟩ := Argument.valueFor?_eq_some_iff.1 hvalue
    have hsplit : found = front.reverse ++ .option flag text :: back.reverse := by
      simpa using congrArg List.reverse harguments
    refine .last hsplit hsetting hs fun other text hmem => ?_
    exact Argument.valueFor?_eq_none_iff.1 (hback _ (by simpa using hmem)) other text rfl
  · rintro (⟨-⟩ | ⟨harguments, hsetting, -, hlast⟩)
    · exact absurd rfl hs
    · rename_i flag text front back
      refine ⟨back.reverse, .option flag text, front.reverse, by simp [harguments],
        Argument.valueFor?_eq_some_iff.2 ⟨flag, text, rfl, hsetting, rfl⟩, ?_⟩
      rintro a hmem
      refine Argument.valueFor?_eq_none_iff.2 ?_
      rintro other text rfl
      exact hlast other text (by simpa using hmem)

/-- A setting is left to the settings file if there is no option for it. -/
theorem value?_overridesOf_eq_none_iff : (overridesOf found).value? s = none ↔
    ∀ flag text, .option flag text ∈ found → flag.setting? ≠ some s := by
  by_cases hs : s = .exclude
  · subst hs
    have hempty : (overridesOf found).value? .exclude = none ↔ valuesOf .exclude found = [] := by
      simp [value?_overridesOf_exclude]
    rw [hempty, List.eq_nil_iff_forall_not_mem]
    constructor
    · intro h flag text hmem hsetting
      obtain rfl : flag = .exclude := by cases flag <;> simp_all [Flag.setting?]
      exact h text (mem_valuesOf.2 hmem)
    · exact fun h text hmem => h .exclude text (mem_valuesOf.1 hmem) rfl
  · rw [value?_overridesOf hs, List.getLast?_eq_none_iff, List.filterMap_eq_nil_iff]
    constructor
    · intro h flag text hmem
      exact Argument.valueFor?_eq_none_iff.1 (h _ hmem) flag text rfl
    · intro h a hmem
      refine Argument.valueFor?_eq_none_iff.2 ?_
      rintro flag text rfl
      exact h flag text hmem

/-- The command of a correct use that names a directory and does not ask about the program. -/
lemma Command.ofArguments_eq_generate {texts : List String} {directory : String}
    (hread : arguments texts = some found)
    (hhelp : ∀ text, .option .help text ∉ found)
    (hversion : ∀ text, .option .programVersion text ∉ found)
    (hdirectory : wordsOf found = [directory]) :
    Command.ofArguments texts = .generate directory (overridesOf found) := by
  have hinquiry : inquiry? found = none := by
    refine List.findSome?_eq_none_iff.2 fun a hmem => ?_
    split
    · exact absurd hmem (hhelp _)
    · exact absurd hmem (hversion _)
    · rfl
  rw [ofArguments, hread]
  dsimp only
  rw [hinquiry, hdirectory]

/-! ## Notices -/

/-- The notice warns of a settings file. -/
def Notice.isWarning : Notice → Bool
  | .settingsUnreadable _ | .settingsNotTable _ => true
  | _ => false

variable {d : Disk} {root project : Path} {o : Overrides} {config : Config} {notice : Notice}

/-- Loading tells nothing but warnings. -/
lemma isWarning_of_mem_load (h : notice ∈ (Config.load d root project o).2) :
    notice.isWarning = true := by
  rcases load_cases d root project o with ⟨f, hf, -⟩ | ⟨-, -, hnone | hwarning | hwarning⟩
  · rw [hf] at h
    cases h
  · rw [hnone] at h
    cases h
  · rw [hwarning, List.mem_singleton] at h
    rw [h]
    rfl
  · rw [hwarning, List.mem_singleton] at h
    rw [h]
    rfl

/-- Every event tells of a step at most. -/
lemma invariant_notices (config : Config) :
    Run.Invariant config (fun st => ∀ notice ∈ st.notices, notice.isStep = true)
      (fun _ _ => True) (fun _ _ => True) where
  directory _ _ := trivial
  nil _ := trivial
  append _ _ _ := trivial
  source _ _ _ := trivial
  child _ _ _ _ _ _ _ := trivial
  tell hstep h notice hmem := by
    rcases List.mem_append.1 hmem with hmem | hmem
    · exact h notice hmem
    · exact List.mem_singleton.1 hmem ▸ hstep
  write h _ _ _ _ := h

/-- A run tells nothing but its steps, also if it fails. -/
lemma isStep_of_mem_generate (h : notice ∈ (generate config d).2.notices) :
    notice.isStep = true := by
  have hstart : ∀ notice ∈ (Progress.start d).notices, notice.isStep = true := nofun
  have hafter : ∀ notice ∈ (generate config d).2.notices, notice.isStep = true :=
    ((invariant_notices config).ensures_visit _ _ _ hstart).1
  exact hafter notice h

/-! ## Ends -/

/-- A command ends with a failure after some notices.  A failure that is reported is the last thing
that is told; any other is not told of, but reaches the caller as it is. -/
structure Outcome.EndsWith (outcome : Outcome) (f : Failure) (before : List Notice) : Prop where
  exitCode : outcome.exitCode = 1
  reported : f.isReported = true → outcome.notices = before ++ [.failed f] ∧
    outcome.notices.map Notice.text = before.map Notice.text ++ ["Error: " ++ f.message] ∧
    outcome.unreported = none
  unreported : f.isReported = false → outcome.notices = before ∧ outcome.unreported = some f

/-- The outcome of a failure ends with that failure. -/
lemma Outcome.ofFailure_endsWith (f : Failure) (before : List Notice) (d : Disk) :
    (Outcome.ofFailure f before d).EndsWith f before := by
  unfold ofFailure
  split_ifs with hf
  · exact ⟨rfl, fun _ => ⟨rfl, List.map_append, rfl⟩, fun hnot => absurd hf (by simp [hnot])⟩
  · exact ⟨rfl, fun hreported => absurd hreported hf, fun _ => ⟨rfl, rfl⟩⟩

/-- The outcome of a failure has the disk that was left behind. -/
lemma Outcome.ofFailure_disk (f : Failure) (before : List Notice) (d : Disk) :
    (Outcome.ofFailure f before d).disk = d := by
  unfold ofFailure
  split <;> rfl

/-! ## Commands -/

section Calls

variable {directory : String} {f : Failure} {statements : List Statement}

/-- A command whose settings cannot be loaded ends with that failure and has changed nothing. -/
lemma runGenerate_of_load_error
    (hf : (Config.load d (Path.ofString directory) (Path.ofString ".") o).1 = .error f) :
    runGenerate d directory o =
      .ofFailure f (Config.load d (Path.ofString directory) (Path.ofString ".") o).2 d := by
  rw [runGenerate]
  dsimp only
  rw [hf]

variable
  (hconfig : (Config.load d (Path.ofString directory) (Path.ofString ".") o).1 = .ok config)

include hconfig

/-- A command whose run fails ends with that failure and with what the run has done before it. -/
lemma runGenerate_of_generate_error (hf : (generate config d).1 = .error f) :
    runGenerate d directory o =
      .ofFailure f ((Config.load d (Path.ofString directory) (Path.ofString ".") o).2 ++
        (generate config d).2.notices) (generate config d).2.disk := by
  rw [runGenerate]
  dsimp only
  rw [hconfig]
  dsimp only
  rw [hf]

/-- A command whose run returns ends well and tells the number of indexes. -/
lemma runGenerate_of_ok (hok : (generate config d).1 = .ok statements) :
    runGenerate d directory o =
      ⟨0, (Config.load d (Path.ofString directory) (Path.ofString ".") o).2 ++
        (generate config d).2.notices ++ [.finished (generate config d).2.written.length],
        (generate config d).2.disk, none⟩ := by
  rw [runGenerate]
  dsimp only
  rw [hconfig]
  dsimp only
  rw [hok]

end Calls

/-- A command that names a directory does what loading a configuration and generating its indexes
do, and nothing else.  Its configuration has the values that its options give, and for settings
without an option the values of the settings file or the defaults.  The disk is the one that the
calls leave, also if they fail.  The exit code is 0 exactly if both return.  What is told begins
with the warnings of loading and goes on with the steps of the run.  It ends with the number of
written indexes, or with the failure if that is reported. -/
theorem runCommand_follows_calls {d : Disk} {texts : List String} {directory : String}
    (hread : arguments texts = some found)
    (hhelp : ∀ text, .option .help text ∉ found)
    (hversion : ∀ text, .option .programVersion text ∉ found)
    (hdirectory : wordsOf found = [directory]) :
    ∃ o : Overrides,
      (∀ s v, o.value? s = some v ↔ Gives found s v) ∧
      let loaded := Config.load d (Path.ofString directory) (Path.ofString ".") o
      let outcome := runCommand d texts
      (∀ config, loaded.1 = .ok config → ∃ value : Setting → Value, config.Has value ∧
        ∀ s, Gives found s (value s) ∨
          (∀ flag text, .option flag text ∈ found → flag.setting? ≠ some s) ∧
            value s = ((tableOf d ((Path.ofString ".").child fileName)).lookup s.key).getD
              s.default) ∧
      (∀ notice ∈ loaded.2, notice.isWarning = true) ∧
      (∀ f, loaded.1 = .error f → outcome.disk = d ∧ outcome.EndsWith f loaded.2) ∧
      (∀ config, loaded.1 = .ok config →
        outcome.disk = (generate config d).2.disk ∧
        (∀ notice ∈ (generate config d).2.notices, notice.isStep = true) ∧
        (∀ f, (generate config d).1 = .error f →
          outcome.EndsWith f (loaded.2 ++ (generate config d).2.notices)) ∧
        ∀ statements, (generate config d).1 = .ok statements →
          outcome.exitCode = 0 ∧ outcome.unreported = none ∧
            outcome.notices = loaded.2 ++ (generate config d).2.notices ++
              [.finished (generate config d).2.written.length]) ∧
      (outcome.exitCode = 0 ↔ ∃ config statements, loaded.1 = .ok config ∧
        (generate config d).1 = .ok statements) := by
  refine ⟨overridesOf found, fun s v => value?_overridesOf_eq_some_iff, ?_⟩
  intro loaded outcome
  have houtcome : outcome = runGenerate d directory (overridesOf found) := by
    have hcommand := Command.ofArguments_eq_generate hread hhelp hversion hdirectory
    simp only [outcome, runCommand, hcommand]
  refine ⟨fun config hconfig => ?_, fun notice => isWarning_of_mem_load, ?_⟩
  · obtain ⟨-, -, hhas⟩ := load_eq_ok_iff.1 hconfig
    refine ⟨_, hhas, fun s => ?_⟩
    cases hgiven : (overridesOf found).value? s with
    | some v =>
      refine Or.inl (value?_overridesOf_eq_some_iff.1 ?_)
      rw [hgiven, effective, hgiven]
      rfl
    | none =>
      refine Or.inr ⟨value?_overridesOf_eq_none_iff.1 hgiven, ?_⟩
      rw [effective, hgiven]
      rfl
  refine ⟨fun f hf => ?_, fun config hconfig => ⟨?_, fun _ => isStep_of_mem_generate, ?_, ?_⟩, ?_⟩
  · rw [houtcome, runGenerate_of_load_error hf]
    exact ⟨Outcome.ofFailure_disk _ _ _, Outcome.ofFailure_endsWith _ _ _⟩
  · cases hresult : (generate config d).1 with
    | error f => rw [houtcome, runGenerate_of_generate_error hconfig hresult,
        Outcome.ofFailure_disk]
    | ok statements => rw [houtcome, runGenerate_of_ok hconfig hresult]
  · intro f hf
    rw [houtcome, runGenerate_of_generate_error hconfig hf]
    exact Outcome.ofFailure_endsWith _ _ _
  · intro statements hok
    rw [houtcome, runGenerate_of_ok hconfig hok]
    exact ⟨rfl, rfl, rfl⟩
  · constructor
    · intro hzero
      -- no failure ends with the exit code 0
      have hfailed {f : Failure} {before : List Notice} {c : Disk} :
          outcome ≠ .ofFailure f before c := by
        intro h
        rw [h, (Outcome.ofFailure_endsWith f before c).exitCode] at hzero
        cases hzero
      cases hloaded : loaded.1 with
      | error f => exact absurd (houtcome.trans (runGenerate_of_load_error hloaded)) hfailed
      | ok config =>
        cases hresult : (generate config d).1 with
        | error f =>
          exact absurd (houtcome.trans (runGenerate_of_generate_error hloaded hresult)) hfailed
        | ok statements => exact ⟨config, statements, rfl, hresult⟩
    · rintro ⟨config, statements, hconfig, hok⟩
      rw [houtcome, runGenerate_of_ok hconfig hok]

/-- The arguments of a command for the package of the small disk that leaves out two names and gives
a switch twice. -/
def sampleArguments : List Argument :=
  [.option (.sort true) "", .word "p", .option .exclude "q", .option (.sort false) "",
    .option .exclude "e"]

/-- A command gathers the names to leave out and takes the last state of a switch.  On the small
disk both calls return, and the command leaves the disk that they leave. -/
theorem runCommand_follows_calls_sampleDisk :
    arguments ["--sort", "p", "-eq", "--no-sort", "-e", "e"] = some sampleArguments ∧
      wordsOf sampleArguments = ["p"] ∧
      ∃ o : Overrides, o.value? .sort = some (.boolean false) ∧
        o.value? .exclude = some (.list [.text "q", .text "e"]) ∧
        ∃ config statements,
          (Config.load sampleDisk (Path.ofString "p") (Path.ofString ".") o).1 = .ok config ∧
          (generate config sampleDisk).1 = .ok statements ∧
          (runCommand sampleDisk ["--sort", "p", "-eq", "--no-sort", "-e", "e"]).disk =
            (generate config sampleDisk).2.disk := by
  have hread : arguments ["--sort", "p", "-eq", "--no-sort", "-e", "e"] = some sampleArguments := by
    decide +kernel
  have hdirectory : wordsOf sampleArguments = ["p"] := rfl
  have hhelp : ∀ text, .option .help text ∉ sampleArguments := by simp [sampleArguments]
  have hversion : ∀ text, .option .programVersion text ∉ sampleArguments := by
    simp [sampleArguments]
  obtain ⟨o, hgives, -, -, -, hcalls, hexit⟩ :=
    runCommand_follows_calls (d := sampleDisk) hread hhelp hversion hdirectory
  have hsplit : sampleArguments = sampleArguments.take 3 ++ .option (.sort false) "" ::
      [.option .exclude "e"] := rfl
  have hsort : Gives sampleArguments .sort (.boolean false) :=
    .last hsplit rfl (by simp) (by simp [Flag.setting?])
  have hgathered : valuesOf .exclude sampleArguments ≠ [] := by decide
  have hexclude : Gives sampleArguments .exclude (.list [.text "q", .text "e"]) :=
    .gathered hgathered
  obtain ⟨config, statements, hconfig, hok⟩ := hexit.1 (by decide +kernel)
  exact ⟨hread, hdirectory, o, (hgives _ _).2 hsort, (hgives _ _).2 hexclude, config, statements,
    hconfig, hok, (hcalls config hconfig).1⟩

end PackageIndex
