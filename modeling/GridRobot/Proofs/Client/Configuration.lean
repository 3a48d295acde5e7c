import GridRobot.Client.Config
import GridRobot.Proofs.Text.Lowercase
import Mathlib.Logic.Function.DependsOn

/-!
# The configuration

Each part of the configuration is read from a variable of its own. Switches know a few words in
any case of ASCII letters; the comparison in lower case lets no other text pass for one of them.

* `IsAnyCase`: the texts that count as one of some words;
* `switch?_eq_some_true_iff`, `switch?_eq_some_false_iff`: what turns a switch on and off;
* `SetsLevel`: an environment that sets the level of the log by its name, or leaves it unset;
* `Config.ReadsOnly`: a part of the configuration that depends on one variable;
* `Config.Reflects`: what the parts say of the variables.

`Config.variables_read_apart` says that the configuration of any variables reflects them, each part
its own variable.
-/

namespace GridRobot

/-! ### Switches -/

/-- The value is one of the words, in any case of its ASCII letters. -/
def IsAnyCase (words : List String) (value : String) : Prop :=
  ∃ w ∈ words, CaseVariant w.toList value.toList

theorem isPlain_onWords : ∀ w ∈ onWords, IsPlainWord w.toList := by decide

theorem isPlain_offWords : ∀ w ∈ offWords, IsPlainWord w.toList := by decide

variable {words : List String} {value : String}

theorem isOneOf_iff : isOneOf words value = true ↔ ∃ w ∈ words, w.toList = lowercase value := by
  simp [isOneOf]

theorem isOneOf_iff_isAnyCase (hw : ∀ w ∈ words, IsPlainWord w.toList) :
    isOneOf words value = true ↔ IsAnyCase words value := by
  rw [isOneOf_iff, IsAnyCase]
  apply exists_congr
  intro w
  apply and_congr_right
  intro hmem
  rw [eq_comm, (lowerForm_lowercase value).eq_iff_caseVariant (hw w hmem)]

/-- No value is a word of both kinds. -/
theorem isOneOf_onWords_eq_false (h : isOneOf offWords value = true) :
    isOneOf onWords value = false := by
  have hne : ∀ w ∈ onWords, ∀ v ∈ offWords, w.toList ≠ v.toList := by decide
  rw [Bool.eq_false_iff]
  intro hon
  obtain ⟨w, hw, hlower⟩ := isOneOf_iff.1 hon
  obtain ⟨v, hv, hlower'⟩ := isOneOf_iff.1 h
  exact hne w hw v hv (hlower.trans hlower'.symm)

theorem switch?_eq_some_true_iff : switch? value = some true ↔ IsAnyCase onWords value := by
  rw [← isOneOf_iff_isAnyCase isPlain_onWords, switch?]
  by_cases hon : isOneOf onWords value = true
  · simp [hon]
  · rw [if_neg hon]
    split <;> simp [hon]

theorem switch?_eq_some_false_iff : switch? value = some false ↔ IsAnyCase offWords value := by
  rw [← isOneOf_iff_isAnyCase isPlain_offWords, switch?]
  by_cases hoff : isOneOf offWords value = true
  · simp [hoff, isOneOf_onWords_eq_false hoff]
  · rw [if_neg hoff]
    split <;> simp [hoff]

theorem isOneOf_eq_false_of_beyond_ascii (hw : ∀ w ∈ words, IsPlainWord w.toList)
    (h : ∃ c ∈ value.toList, 0x80 ≤ c.toNat) : isOneOf words value = false := by
  rw [Bool.eq_false_iff]
  intro hone
  obtain ⟨w, hmem, hlower⟩ := isOneOf_iff.1 hone
  exact (lowerForm_lowercase value).ne_of_beyond_ascii h (hw w hmem) hlower.symm

/-- A text with a character beyond ASCII leaves a switch alone. -/
theorem switch?_eq_none_of_beyond_ascii (h : ∃ c ∈ value.toList, 0x80 ≤ c.toNat) :
    switch? value = none := by
  simp [switch?, isOneOf_eq_false_of_beyond_ascii isPlain_onWords h,
    isOneOf_eq_false_of_beyond_ascii isPlain_offWords h]

/-- A switch that is off by itself is turned on by the words for that. -/
theorem bind_switch?_getD_false_iff {setting : Option String} :
    (setting.bind switch?).getD false = true ↔
      ∃ value, setting = some value ∧ IsAnyCase onWords value := by
  have hgetD : ∀ o : Option Bool, o.getD false = true ↔ o = some true := by
    intro o
    cases o <;> simp
  rw [hgetD, Option.bind_eq_some_iff]
  simp only [switch?_eq_some_true_iff]

/-- A switch that is on once it is set is only turned off by the words for that. -/
theorem switch?_getD_true_iff : (switch? value).getD true = true ↔ ¬ IsAnyCase offWords value := by
  rw [← switch?_eq_some_false_iff]
  rcases switch? value with _ | _ | _ <;> simp

/-! ### The level of the log -/

/-- The environment sets the level of the log: by its name, in any case of ASCII letters, or by
leaving it unset. -/
inductive SetsLevel (env : Environment) : Level → Prop
  | unset : env.get? "RUST_LOG" = none → SetsLevel env .info
  | named {l : Level} {setting : String} : env.get? "RUST_LOG" = some setting →
      CaseVariant l.name.toList setting.toList → SetsLevel env l

theorem Level.isLowerWord_name (l : Level) : IsLowerWord l.name.toList := by
  cases l <;> decide

theorem Level.ofName?_name (l : Level) : ofName? l.name = some l := by
  cases l <;> rfl

theorem SetsLevel.logLevel?_eq {env : Environment} {l : Level} (h : SetsLevel env l) :
    logLevel? env = some l := by
  cases h with
  | unset hunset => rw [logLevel?, hunset]
  | @named _ setting hsetting hname =>
    have hlower : String.ofList (lowercase setting) = l.name := by
      rw [hname.lowercase_eq l.isLowerWord_name, String.ofList_toList]
    have hoff : l.name ≠ "off" := by cases l <;> decide
    have hempty : l.name ≠ "" := by cases l <;> decide
    rw [logLevel?, hsetting]
    dsimp only
    rw [hlower, if_neg hoff, if_neg hempty, l.ofName?_name]
    rfl

/-! ### Parts and variables -/

namespace Config

/-- The part of the configuration depends on the named variable alone. -/
def ReadsOnly {α : Type} (part : Config → α) (name : String) : Prop :=
  DependsOn (fun get? : String → Option String => part (ofVariables get?)) {name}

/-- What the parts of a configuration say of the variables. -/
structure Reflects (config : Config) (get? : String → Option String) : Prop where
  command_none :
    config.command = none ↔ get? "ROBOT_COMMAND" = none ∨ get? "ROBOT_COMMAND" = some ""
  command_some : ∀ text,
    config.command = some text ↔ get? "ROBOT_COMMAND" = some text ∧ text ≠ ""
  showPath : config.showPath = true ↔
    ∃ value, get? "ROBOT_SHOW_PATH" = some value ∧ IsAnyCase ["true", "1", "yes", "on"] value
  json : config.json = true ↔
    ∃ value, get? "ROBOT_JSON" = some value ∧ IsAnyCase ["true", "1", "yes", "on"] value
  logToFile : config.logToFile = true ↔
    ∃ value, get? "ROBOT_LOG_TO_FILE" = some value ∧ ¬ IsAnyCase ["false", "0", "no", "off"] value
  logDir : config.logDir = get? "ROBOT_LOG_DIR"
  sessionId : config.sessionId = get? "ROBOT_SESSION_ID"

theorem reflects_ofVariables (get? : String → Option String) :
    (ofVariables get?).Reflects get? where
  command_none := by
    cases hcommand : get? "ROBOT_COMMAND" with
    | none => simp [ofVariables, hcommand]
    | some text => simp [ofVariables, hcommand]
  command_some text := by simp [ofVariables, Option.filter_eq_some_iff]
  showPath := bind_switch?_getD_false_iff
  json := bind_switch?_getD_false_iff
  logToFile := by
    cases hsetting : get? "ROBOT_LOG_TO_FILE" with
    | none => simp [ofVariables, hsetting]
    | some value =>
      simp only [ofVariables, hsetting, switch?_getD_true_iff]
      simp [offWords]
  logDir := rfl
  sessionId := rfl

/-- **Each part of the configuration is read from a variable of its own.** It depends on no other
variable, and says of its own what it should: the switches know a few words in any case of ASCII
letters, and only the log file is also turned on by other texts. A text with a character beyond
ASCII is none of these words, not even in lower case. -/
theorem variables_read_apart :
    (ReadsOnly command "ROBOT_COMMAND" ∧ ReadsOnly showPath "ROBOT_SHOW_PATH" ∧
        ReadsOnly json "ROBOT_JSON" ∧ ReadsOnly logToFile "ROBOT_LOG_TO_FILE" ∧
        ReadsOnly logDir "ROBOT_LOG_DIR" ∧ ReadsOnly sessionId "ROBOT_SESSION_ID") ∧
      (∀ get? : String → Option String, (ofVariables get?).Reflects get?) ∧
      ∀ value : String, (∃ c ∈ value.toList, 0x80 ≤ c.toNat) →
        switch? value = none ∧
          ∀ form, LowerForm value.toList form → ∀ w ∈ onWords ++ offWords, form ≠ w.toList := by
  refine ⟨?_, reflects_ofVariables, fun value h => ?_⟩
  · refine ⟨?_, ?_, ?_, ?_, ?_, ?_⟩ <;>
    · intro get? get?' h
      simp only [ofVariables, h _ rfl]
  · refine ⟨switch?_eq_none_of_beyond_ascii h, fun form hform w hw => ?_⟩
    rcases List.mem_append.1 hw with hon | hoff
    · exact hform.ne_of_beyond_ascii h (isPlain_onWords w hon)
    · exact hform.ne_of_beyond_ascii h (isPlain_offWords w hoff)

theorem variables_read_apart_longS :
    (∃ c ∈ "yeſ".toList, 0x80 ≤ c.toNat) ∧ switch? "yeſ" = none ∧
      lowercase "yeſ" ≠ "yes".toList :=
  have hlong : ∃ c ∈ "yeſ".toList, 0x80 ≤ c.toNat := ⟨'ſ', by decide, by decide⟩
  have ⟨hswitch, hforms⟩ := variables_read_apart.2.2 "yeſ" hlong
  ⟨hlong, hswitch, hforms _ (lowerForm_lowercase "yeſ") "yes" (by decide)⟩

end Config

end GridRobot
