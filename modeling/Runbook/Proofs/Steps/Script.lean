import Runbook.Proofs.CommandLine.Reading
import Runbook.Proofs.Process
import Runbook.Proofs.Text.Trim
import Runbook.Steps.Script

/-! # What a script runs

The lines of a script run one after another, and the first that does not succeed ends the script. Here
lines are taken as they are, with no variables replaced in them.

* **`ScriptStep.IsCommandOf`** — the command of a line.
* **`ScriptStep.Runs`** — lines that run and succeed, one after another.
* **`ScriptStep.Stops`** — the ways in which a line ends a script.
* **`ScriptStep.runs_or_stops`** — a script runs through, or up to the first line that stops it.
* **`ScriptStep.behaviour_exactly`** — the commands, the output and the failure of a script. -/

namespace Runbook.ScriptStep

variable {ω : Type} {script line : String} {lines : List String}

/-! ## Lines -/

/-- A line does not hold the line feed at which it ends. -/
theorem not_mem_of_mem_lines_go {line text part : List Char} (hline : '\n' ∉ line)
    (h : part ∈ Text.lines.go line text) : '\n' ∉ part := by
  -- on the text; a line feed ends the line that is collected and does not get into it
  induction text generalizing line with
  | nil =>
    rw [Text.lines.go] at h
    split at h
    · exact absurd h List.not_mem_nil
    · rw [List.mem_singleton.mp h, List.mem_reverse]
      exact hline
  | cons c text ih =>
    rw [Text.lines.go] at h
    split at h
    · rcases List.mem_cons.mp h with rfl | h
      · rw [Text.dropReturn]
        split
        · exact fun hmem => hline (List.mem_reverse.mp ((List.dropLast_sublist _).subset hmem))
        · exact fun hmem => hline (List.mem_reverse.mp hmem)
      · exact ih List.not_mem_nil h
    · rename_i hc
      refine ih (fun hmem => ?_) h
      rcases List.mem_cons.mp hmem with rfl | hmem
      · exact hc rfl
      · exact hline hmem

/-- A line of a script is a line, and is not blank. -/
theorem of_mem_scriptLines (h : line ∈ scriptLines script) :
    '\n' ∉ line.toList ∧ ¬ Text.isBlankText line = true := by
  rw [scriptLines] at h
  obtain ⟨text, htext, rfl⟩ := List.mem_map.mp h
  obtain ⟨htrim, hne⟩ := List.mem_filter.mp htext
  obtain ⟨raw, hraw, rfl⟩ := List.mem_map.mp htrim
  rw [String.toList_ofList]
  constructor
  · intro hmem
    exact not_mem_of_mem_lines_go List.not_mem_nil hraw ((Text.infix_trim raw).mem hmem)
  · intro hblank
    rw [Text.isBlankText, String.toList_ofList, List.all_eq_true, ← Text.trim_eq_nil_iff,
      Text.trim_eq_self (Text.isTrimmed_trim raw)] at hblank
    rw [hblank] at hne
    cases hne

variable (step : ScriptStep) (host : Host ω)

/-- **The command of a line**: its words, with the directory and the variables of the script. -/
structure IsCommandOf (line : String) (command : Command) : Prop where
  words : CommandLine.split line = .ok (command.program :: command.arguments)
  directory : command.directory = step.directory
  bindings : command.bindings = step.bindings

/-- A line of a script has a command unless it cannot be split: there always is a first word. -/
theorem exists_command_or_error (h : line ∈ scriptLines script) :
    (∃ command, step.IsCommandOf line command) ∨
      ∃ error, CommandLine.split line = .error error := by
  cases hsplit : CommandLine.split line with
  | error error => exact .inr ⟨error, rfl⟩
  | ok words =>
    cases words with
    | nil =>
      obtain ⟨hbreak, hblank⟩ := of_mem_scriptLines h
      exact absurd (CommandLine.isBlankText_of_split_eq_nil hsplit hbreak) hblank
    | cons program arguments => exact .inl ⟨step.command program arguments, hsplit, rfl, rfl⟩

/-! ## What becomes of lines -/

/-- **A line that succeeds**: its command, what is captured of that, and the world that is left. -/
inductive Succeeds : String → ω → Command → Captured → ω → Prop where
  /-- The program starts, writes text and ends with the exit code zero. -/
  | mk {line : String} {command : Command} {finished : Finished} {captured : Captured}
      {world started : ω} (hcommand : step.IsCommandOf line command)
      (hlaunch : host.launch command world = (.ok finished, started))
      (hcaptured : finished.captured = .ok captured) (hcode : captured.code = some 0) :
      Succeeds line world command captured (host.display step.shown finished started)

/-- **Lines that succeed one after another**, with their commands and what is captured of these. Each
starts in the world that the one before leaves. -/
inductive Runs : List String → ω → List (Command × Captured) → ω → Prop where
  /-- There are no lines. -/
  | nil (world : ω) : Runs [] world [] world
  /-- The first line succeeds, and the others do behind it. -/
  | cons {line : String} {lines : List String} {command : Command} {captured : Captured}
      {ran : List (Command × Captured)} {world reached after : ω}
      (hline : step.Succeeds host line world command captured reached)
      (hlines : Runs lines reached ran after) :
      Runs (line :: lines) world ((command, captured) :: ran) after

/-- **A line that ends a script**: the commands that reach the host by then, the failure, and the world
that is left. -/
inductive Stops : String → ω → List Command → Failure → ω → Prop where
  /-- The line cannot be split, and nothing is started. -/
  | malformed {line : String} {error : SplitError} (world : ω)
      (hsplit : CommandLine.split line = .error error) :
      Stops line world []
        ⟨"could not parse script line '" ++ line ++ "'", [error.message]⟩ world
  /-- The program does not start. -/
  | unstarted {line : String} {command : Command} {error : HostError} {world after : ω}
      (hcommand : step.IsCommandOf line command)
      (hlaunch : host.launch command world = (.error error, after)) :
      Stops line world command.handedOver
        ⟨"failed to start '" ++ command.program ++ "'", [error.message]⟩ after
  /-- The program writes what is no text. -/
  | unreadable {line : String} {command : Command} {finished : Finished} {error : Utf8Error}
      {world started : ω} (hcommand : step.IsCommandOf line command)
      (hlaunch : host.launch command world = (.ok finished, started))
      (hcaptured : finished.captured = .error error) :
      Stops line world [command]
        ⟨"failed to read output of '" ++ command.program ++ "'", [error.message]⟩
        (host.display step.shown finished started)
  /-- The program ends with another exit code than zero, or by a signal. -/
  | unsuccessful {line : String} {command : Command} {finished : Finished} {captured : Captured}
      {world started : ω} (hcommand : step.IsCommandOf line command)
      (hlaunch : host.launch command world = (.ok finished, started))
      (hcaptured : finished.captured = .ok captured) (hcode : captured.code ≠ some 0) :
      Stops line world [command]
        ⟨"run_shell_script failed with error code " ++ captured.codeText ++ ": " ++ captured.stderr,
          []⟩ (host.display step.shown finished started)

variable {step host} {world after : ω} {ran : List (Command × Captured)} {commands : List Command}
  {failure : Failure}

/-- **One line** of a script either succeeds or stops it. -/
theorem succeeds_or_stops (world : ω) (h : line ∈ scriptLines script) :
    (∃ command captured after, step.Succeeds host line world command captured after) ∨
      ∃ commands failure after, step.Stops host line world commands failure after := by
  rcases step.exists_command_or_error h with ⟨command, hcommand⟩ | ⟨error, hsplit⟩
  · cases hlaunch : host.launch command world with
    | mk result started =>
      cases result with
      | error error => exact .inr ⟨_, _, _, .unstarted hcommand hlaunch⟩
      | ok finished =>
        cases hcaptured : finished.captured with
        | error error => exact .inr ⟨_, _, _, .unreadable hcommand hlaunch hcaptured⟩
        | ok captured =>
          by_cases hcode : captured.code = some 0
          · exact .inl ⟨_, _, _, .mk hcommand hlaunch hcaptured hcode⟩
          · exact .inr ⟨_, _, _, .unsuccessful hcommand hlaunch hcaptured hcode⟩
  · exact .inr ⟨_, _, _, .malformed world hsplit⟩

/-- **All lines** of a script succeed, or those up to the first that stops it. -/
theorem runs_or_stops (world : ω) (h : ∀ line ∈ lines, line ∈ scriptLines script) :
    (∃ ran after, step.Runs host lines world ran after) ∨
      ∃ before line rest ran reached commands failure after, lines = before ++ line :: rest ∧
        step.Runs host before world ran reached ∧
        step.Stops host line reached commands failure after := by
  -- on the lines, from any world: the first line leaves the world that the others start in
  induction lines generalizing world with
  | nil => exact .inl ⟨[], world, .nil world⟩
  | cons line lines ih =>
    obtain ⟨hline, hlines⟩ := List.forall_mem_cons.mp h
    rcases succeeds_or_stops world hline with
      ⟨command, captured, next, hsucceeds⟩ | ⟨commands, failure, after, hstops⟩
    · rcases ih next hlines with ⟨ran, after, hruns⟩ |
        ⟨before, stop, rest, ran, reached, commands, failure, after, rfl, hruns, hstops⟩
      · exact .inl ⟨_, after, .cons hsucceeds hruns⟩
      · exact .inr ⟨line :: before, stop, rest, _, reached, commands, failure, after, rfl,
          .cons hsucceeds hruns, hstops⟩
    · exact .inr ⟨[], line, lines, [], world, commands, failure, after, rfl, .nil world, hstops⟩

/-! ## What a run of lines comes to -/

/-- The command of a line is made of its words. -/
theorem IsCommandOf.command_eq {command : Command} (h : step.IsCommandOf line command) :
    step.command command.program command.arguments = command := by
  rw [ScriptStep.command, ← h.directory, ← h.bindings]

/-- The texts that are no empty ones. -/
def nonempties (texts : List String) : List String := texts.filter (· ≠ "")

theorem nonempties_cons (text : String) (texts : List String) :
    nonempties (text :: texts) = nonempty text ++ nonempties texts := by
  rw [nonempties, nonempties, nonempty, List.filter_cons]
  by_cases htext : text = ""
  · simp [htext]
  · simp [htext, String.isEmpty_iff]

section

variable (environment : Environment)

/-- Without expansion a line is taken as it is. -/
theorem lineText_of_plain (hplain : step.expanded = false) (line : String) :
    step.lineText environment line = line := by
  rw [lineText, hplain]
  rfl

/-- **Behind a line that succeeds a script goes on** in the world that the line leaves, and what the
line has written stands in front. -/
theorem runLines_of_succeeds (hplain : step.expanded = false) {command : Command}
    {captured : Captured} (h : step.Succeeds host line world command captured after)
    (lines : List String) :
    step.runLines host environment (line :: lines) world =
      ((step.runLines host environment lines after).1.map fun written =>
        (nonempty captured.stdout ++ written.1, nonempty captured.stderr ++ written.2),
        (step.runLines host environment lines after).2) := by
  obtain ⟨hcommand, hlaunch, hcaptured, hcode⟩ := h
  have hcapture := Host.capture_of_launch_ok hlaunch step.shown
  rw [hcaptured] at hcapture
  have hsucceeded : captured.succeeded = true := by rw [Captured.succeeded, hcode]; rfl
  rw [runLines]
  simp only [lineText_of_plain environment hplain, hcommand.words, hcommand.command_eq, hcapture,
    Except.mapError, if_pos hsucceeded]
  rcases step.runLines host environment lines _ with ⟨_ | _, _⟩ <;> rfl

/-- **With a line that stops it a script ends**, whatever lines are left. -/
theorem runLines_of_stops (hplain : step.expanded = false)
    (h : step.Stops host line world commands failure after) (lines : List String) :
    step.runLines host environment (line :: lines) world = (.error failure, after) := by
  rw [runLines]
  cases h with
  | malformed world hsplit => simp only [lineText_of_plain environment hplain, hsplit]
  | unstarted hcommand hlaunch =>
    have hcapture := Host.capture_of_launch_error hlaunch step.shown
    simp only [lineText_of_plain environment hplain, hcommand.words, hcommand.command_eq, hcapture]
  | unreadable hcommand hlaunch hcaptured =>
    have hcapture := Host.capture_of_launch_ok hlaunch step.shown
    rw [hcaptured] at hcapture
    simp only [lineText_of_plain environment hplain, hcommand.words, hcommand.command_eq, hcapture,
      Except.mapError]
  | @unsuccessful _ _ captured _ _ hcommand hlaunch hcaptured hcode =>
    have hcapture := Host.capture_of_launch_ok hlaunch step.shown
    rw [hcaptured] at hcapture
    have hsucceeded : ¬ captured.succeeded = true := by simpa [Captured.succeeded] using hcode
    simp only [lineText_of_plain environment hplain, hcommand.words, hcommand.command_eq, hcapture,
      Except.mapError, if_neg hsucceeded]
    rfl

/-- **Lines that succeed run in front of any others**, to the same effect as one by one. -/
theorem runLines_of_runs (hplain : step.expanded = false)
    (h : step.Runs host lines world ran after) (rest : List String) :
    step.runLines host environment (lines ++ rest) world =
      ((step.runLines host environment rest after).1.map fun written =>
        (nonempties (ran.map (·.2.stdout)) ++ written.1,
          nonempties (ran.map (·.2.stderr)) ++ written.2),
        (step.runLines host environment rest after).2) := by
  induction h with
  | nil world =>
    rw [List.nil_append]
    rcases step.runLines host environment rest world with ⟨_ | _, _⟩ <;> rfl
  | @cons line lines command captured ran world reached after hline _ ih =>
    rw [List.cons_append, runLines_of_succeeds environment hplain hline, ih, List.map_cons,
      List.map_cons, nonempties_cons, nonempties_cons]
    rcases step.runLines host environment rest after with ⟨_ | _, _⟩ <;>
      simp [Except.map]

end

/-! ## Records -/

/-- What a line starts is recorded. -/
theorem Succeeds.recorded {command : Command} {captured : Captured}
    (h : step.Succeeds host line world command captured after) (commands : List Command) :
    step.Succeeds host.recorded line (world, commands) command captured
      (after, commands ++ [command]) := by
  obtain ⟨hcommand, hlaunch, hcaptured, hcode⟩ := h
  rw [← Host.display_recorded]
  refine .mk hcommand ?_ hcaptured hcode
  rw [Host.launch_recorded, hlaunch, Host.handedOver_of_launch_ok hlaunch]

/-- What lines start is recorded, one after another. -/
theorem Runs.recorded (h : step.Runs host lines world ran after) (commands : List Command) :
    step.Runs host.recorded lines (world, commands) ran (after, commands ++ ran.map Prod.fst) := by
  induction h generalizing commands with
  | nil world =>
    rw [List.map_nil, List.append_nil]
    exact .nil _
  | @cons line lines command captured ran world reached after hline _ ih =>
    have hmore := ih (commands ++ [command])
    rw [List.append_assoc, List.singleton_append] at hmore
    exact .cons (hline.recorded commands) hmore

/-- What a line starts that stops the script is recorded. -/
theorem Stops.recorded (h : step.Stops host line world commands failure after)
    (before : List Command) :
    step.Stops host.recorded line (world, before) commands failure (after, before ++ commands) := by
  cases h with
  | malformed world hsplit =>
    rw [List.append_nil]
    exact .malformed _ hsplit
  | unstarted hcommand hlaunch =>
    refine .unstarted hcommand ?_
    rw [Host.launch_recorded, hlaunch]
  | unreadable hcommand hlaunch hcaptured =>
    rw [← Host.display_recorded]
    refine .unreadable hcommand ?_ hcaptured
    rw [Host.launch_recorded, hlaunch, Host.handedOver_of_launch_ok hlaunch]
  | unsuccessful hcommand hlaunch hcaptured hcode =>
    rw [← Host.display_recorded]
    refine .unsuccessful hcommand ?_ hcaptured hcode
    rw [Host.launch_recorded, hlaunch, Host.handedOver_of_launch_ok hlaunch]

/-! ## The script as a whole -/

/-- The text of a script makes no difference to how its lines are run. -/
theorem runLines_with_script (host : Host ω) (environment : Environment) (script : String)
    (lines : List String) (world : ω) :
    { step with script := script }.runLines host environment lines world =
      step.runLines host environment lines world := by
  induction lines generalizing world with
  | nil => rfl
  | cons line lines ih =>
    simp only [runLines, ih]
    rfl

/-- The texts that are not empty, as lines of one text without the blanks around it. -/
def joined (texts : List String) : String :=
  Text.trimmed (String.intercalate "\n" (nonempties texts))

/-- The step leaves an outcome and a world, and the record of a host that keeps one holds `commands`. -/
def ComesTo (host : Host ω) (environment : Environment) (fields : Fields)
    (diagnostics : List Diagnostic) (world : ω) (outcome : Except Failure Json) (after : ω)
    (commands : List Command) : Prop :=
  behaviour host environment fields diagnostics world = ⟨outcome, diagnostics, after⟩ ∧
    behaviour host.recorded environment fields diagnostics (world, []) =
      ⟨outcome, diagnostics, (after, commands)⟩

section

variable (environment : Environment) {fields : Fields} (diagnostics : List Diagnostic)

/-- A script of lines that all succeed leaves what they have written. -/
theorem behaviour_of_runs (h : ofFields fields = .ok step) (hplain : step.expanded = false)
    (hruns : step.Runs host (scriptLines step.script) world ran after) :
    behaviour host environment fields diagnostics world =
      ⟨.ok (.object [("stderr", .string (joined (ran.map (·.2.stderr)))),
        ("stdout", .string (joined (ran.map (·.2.stdout))))]), diagnostics, after⟩ := by
  have hlines := runLines_of_runs environment hplain hruns []
  rw [List.append_nil] at hlines
  rw [behaviour, h]
  dsimp only
  rw [run, hlines, runLines]
  simp only [Except.map, List.append_nil]
  rfl

/-- A script that is stopped fails like the line that stops it, whatever stands behind that line. -/
theorem behaviour_of_stops (hplain : step.expanded = false) {before rest : List String}
    {reached : ω} (hruns : step.Runs host before world ran reached)
    (hstops : step.Stops host line reached commands failure after) {script : String}
    (h : ofFields fields = .ok { step with script := script })
    (hlines : scriptLines script = before ++ line :: rest) :
    behaviour host environment fields diagnostics world =
      ⟨.error failure, diagnostics, after⟩ := by
  rw [behaviour, h]
  dsimp only
  rw [run, hlines, runLines_with_script, runLines_of_runs environment hplain hruns,
    runLines_of_stops environment hplain hstops]
  rfl

end

/-- **What a script does without expansion, exactly.** Its lines, trimmed and without the blank ones,
are commands by their words, each with the directory and the variables of the script. Either they all
succeed. Then these commands have been started, in order and each once, and the output is what they
have written, line by line. Or there is a first line that does not: it cannot be split, its program
does not start, writes no text, or ends with another code than zero. Then the commands in front of it
have been started, and its own if it has one that can be handed over; the step fails with the failure
of that line and nothing else, and so it does with any other lines behind that one. -/
theorem behaviour_exactly (host : Host ω) (environment : Environment) {fields : Fields}
    {step : ScriptStep} (h : ofFields fields = .ok step) (hplain : step.expanded = false)
    (diagnostics : List Diagnostic) (world : ω) :
    (∃ ran after, step.Runs host (scriptLines step.script) world ran after ∧
        ComesTo host environment fields diagnostics world
          (.ok (.object [("stderr", .string (joined (ran.map (·.2.stderr)))),
            ("stdout", .string (joined (ran.map (·.2.stdout))))])) after (ran.map Prod.fst)) ∨
      ∃ before line rest ran reached commands failure after,
        scriptLines step.script = before ++ line :: rest ∧
          step.Runs host before world ran reached ∧
          step.Stops host line reached commands failure after ∧
          ComesTo host environment fields diagnostics world (.error failure) after
            (ran.map Prod.fst ++ commands) ∧
          ∀ others script more, ofFields others = .ok { step with script := script } →
            scriptLines script = before ++ line :: more →
            ComesTo host environment others diagnostics world (.error failure) after
              (ran.map Prod.fst ++ commands) := by
  rcases runs_or_stops world fun line hline => hline with
    ⟨ran, after, hruns⟩ |
    ⟨before, line, rest, ran, reached, commands, failure, after, hlines, hruns, hstops⟩
  · refine .inl ⟨ran, after, hruns, ?_⟩
    exact ⟨behaviour_of_runs environment diagnostics h hplain hruns,
      behaviour_of_runs environment diagnostics h hplain (hruns.recorded [])⟩
  · -- the script at hand is one of those with other lines behind the one that stops it
    have hcomes : ∀ others script more, ofFields others = .ok { step with script := script } →
        scriptLines script = before ++ line :: more →
        ComesTo host environment others diagnostics world (.error failure) after
          (ran.map Prod.fst ++ commands) := by
      intro others script more hothers hmore
      exact ⟨behaviour_of_stops environment diagnostics hplain hruns hstops hothers hmore,
        behaviour_of_stops environment diagnostics hplain (hruns.recorded [])
          (hstops.recorded (ran.map Prod.fst)) hothers hmore⟩
    exact .inr ⟨before, line, rest, ran, reached, commands, failure, after, hlines, hruns, hstops,
      hcomes fields step.script rest h hlines, hcomes⟩

/-- A host that counts the programs it starts. Its `say` writes a line and succeeds, and any other
program fails with a line of its own. -/
def sampleHost : Host Nat where
  run command count :=
    if command.program = "say" then (.ok ⟨[104, 105, 10], [], some 0⟩, count + 1)
    else (.ok ⟨[104, 105, 10], [110, 111, 10], some 3⟩, count + 1)
  isDirectory _ _ := true
  enter _ count := (.ok (), count)
  read _ _ := .error .missing
  note _ count := count

/-- A script whose last line cannot be split. -/
def sampleFields : Fields :=
  [("directory", .string "api"), ("script", .string " say 'a b' \n\n\tstop\nsay 'c")]

/-- The last line does not show, nor does what the first has written. -/
theorem behaviour_sampleFields :
    ∃ step, ofFields sampleFields = .ok step ∧ step.expanded = false ∧
      ComesTo sampleHost .empty sampleFields [] 0
        (.error ⟨"run_shell_script failed with error code 3: no", []⟩) 2
        [⟨"say", ["a b"], some "api", []⟩, ⟨"stop", [], some "api", []⟩] := by
  have hfields : ofFields sampleFields =
      .ok ⟨" say 'a b' \n\n\tstop\nsay 'c", some "api", [], true, false⟩ := by decide +kernel
  have houtcome : behaviour sampleHost.recorded .empty sampleFields [] (0, []) =
      ⟨.error ⟨"run_shell_script failed with error code 3: no", []⟩, [],
        (2, [⟨"say", ["a b"], some "api", []⟩, ⟨"stop", [], some "api", []⟩])⟩ := rfl
  refine ⟨_, hfields, rfl, ?_⟩
  rcases behaviour_exactly sampleHost .empty hfields rfl [] 0 with
    ⟨ran, after, -, hcomes, hrecord⟩ |
    ⟨_, _, _, ran, _, commands, failure, after, -, -, -, ⟨hcomes, hrecord⟩, -⟩
  · rw [hrecord] at houtcome
    cases houtcome
  · refine ⟨?_, houtcome⟩
    rw [hrecord] at houtcome
    injection houtcome with hfailure _ hworld
    injection hworld with hafter _
    rw [hcomes, hfailure, hafter]

end Runbook.ScriptStep
