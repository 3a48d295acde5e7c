import GridRobot.Client.Console

/-!
# Calls that ask for an action

A call asks for an action on command text. The text is given as an argument or by a variable, and
so are the switches for the form of the output: each of them is on if a flag or a variable says so.

* `Asks`: what a call asks for, when it is a request and its log file can be opened;
* `Action.outcome`, `Asks.client_eq`, `Asks.events_eq`: such a call does what the action does, and
  nothing else decides on its exit code, its output and, but for its level, its log;
* `Arguments.read_words`, `asks_words`: every action can be asked for on every text, with every
  choice of flags.
-/

namespace GridRobot

/-- What an action does on command text. -/
def Action.outcome : Action → String → Flags → Outcome
  | check => checkText
  | run => runText

/-- The exit code of an action. -/
def Outcome.exit (o : Outcome) : Nat := if o.error.isSome then 1 else 0

/-- The call asks for an action on a text. The switches are set on the command line or in the
environment, and the directory of the log file, if there is to be one, can be made. -/
structure Asks (arguments : List String) (env : Environment) (host : Host) (action : Action)
    (text : String) (flags : Flags) : Prop where
  request : ∃ input own, Arguments.read arguments = .request ⟨action, input, own⟩ ∧
    input.or (Config.ofEnvironment env).command = some text ∧
    own.or ⟨(Config.ofEnvironment env).json, (Config.ofEnvironment env).showPath⟩ = flags
  logging : ∀ f, LogFile.of? (Config.ofEnvironment env) env host = some f →
    host.files.obstacle? f.dir = none

section Requests

variable {arguments : List String} {env : Environment} {host : Host} {action : Action}
  {text : String} {flags : Flags}

theorem perform_eq {request : Request} {config : Config}
    (h : request.input.or config.command = some text) :
    perform request config =
      request.action.outcome text (request.flags.or ⟨config.json, config.showPath⟩) := by
  unfold perform
  rw [h]
  cases request.action <;> rfl

/-- The log file is opened first, and then the action is done. -/
theorem Asks.exists_carryOut (h : Asks arguments env host action text flags) :
    ∃ request, perform request (Config.ofEnvironment env) = action.outcome text flags ∧
      client arguments env host = carryOut request (Config.ofEnvironment env) env
        (LogFile.of? (Config.ofEnvironment env) env host) := by
  obtain ⟨⟨input, own, hread, hinput, hflags⟩, hlogging⟩ := h
  refine ⟨⟨action, input, own⟩, by rw [perform_eq hinput, hflags], ?_⟩
  unfold client
  rw [hread]
  dsimp only
  cases hf : LogFile.of? (Config.ofEnvironment env) env host with
  | none => rfl
  | some f =>
    dsimp only
    rw [hlogging f hf]

/-- A call that asks for an action ends as the action does. -/
theorem Asks.client_eq (h : Asks arguments env host action text flags) :
    (client arguments env host).exit = (action.outcome text flags).exit ∧
      (client arguments env host).stdout = (action.outcome text flags).stdout ∧
      (client arguments env host).stderr = (action.outcome text flags).error.getD "" := by
  obtain ⟨request, hperform, hclient⟩ := h.exists_carryOut
  rw [hclient, carryOut, hperform]
  exact ⟨rfl, rfl, rfl⟩

/-- A call logs, at its level, that the log file was opened and what the action logs. -/
theorem Asks.events_eq (h : Asks arguments env host action text flags) {l : Level}
    (hl : logLevel? env = some l) :
    (client arguments env host).events =
      l.select (((LogFile.of? (Config.ofEnvironment env) env host).map LogFile.events).getD [] ++
        (action.outcome text flags).events) := by
  obtain ⟨request, hperform, hclient⟩ := h.exists_carryOut
  rw [hclient, carryOut, hperform, hl]
  rfl

end Requests

/-! ### Words for every request -/

/-- The word for an action. -/
def Action.word : Action → String
  | check => "check"
  | run => "run"

/-- The words for flags. -/
def Flags.words (f : Flags) : List String :=
  (if f.json then ["--json"] else []) ++ if f.showPath then ["--show-path"] else []

/-- Whatever the text looks like, it is taken as it is after `--`. -/
theorem Arguments.read_words (action : Action) (flags : Flags) (text : String) :
    read (action.word :: (flags.words ++ ["--", text])) = .request ⟨action, some text, flags⟩ := by
  obtain ⟨json, showPath⟩ := flags
  cases action <;> cases json <;> cases showPath <;> rfl

/-- Flags that are given in words add to the switches of the environment. -/
theorem asks_words {env : Environment} {host : Host} (action : Action) (flags : Flags)
    (text : String) (hlogging : ∀ f, LogFile.of? (Config.ofEnvironment env) env host = some f →
      host.files.obstacle? f.dir = none) :
    Asks (action.word :: (flags.words ++ ["--", text])) env host action text
      (flags.or ⟨(Config.ofEnvironment env).json, (Config.ofEnvironment env).showPath⟩) :=
  ⟨⟨some text, flags, Arguments.read_words action flags text, rfl, rfl⟩, hlogging⟩

end GridRobot
