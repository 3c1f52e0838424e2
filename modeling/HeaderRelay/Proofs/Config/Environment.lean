import HeaderRelay.CommandLine.Program
import HeaderRelay.Proofs.Checks

/-!
# Which settings come from the environment

The required variables are read in a fixed order, and the first that cannot be used
decides.  If it is not set, the program turns to its configuration file or to the
defaults; if its text is malformed, the program ends.  A variable that is set to bytes
which are no text counts as not set, so an environment with every variable can be
passed over, along with the governance and the network that it names.
-/

namespace HeaderRelay

/-! ## Variables -/

/-- What must be set in the environment. -/
inductive RequiredSetting where
  | network
  | proofLength
  | authorizationRequired
  | governance
  | capacity
  | requiredConfirmations
  | enforceAccumulated
  deriving DecidableEq

namespace RequiredSetting

/-- Every setting, in the order in which they are read. -/
def all : List RequiredSetting :=
  [network, proofLength, authorizationRequired, governance, capacity, requiredConfirmations,
    enforceAccumulated]

/-- The variable that a setting is read from. -/
def name : RequiredSetting → String
  | network => "SPV_NETWORK"
  | proofLength => "SPV_PROOF_LENGTH"
  | authorizationRequired => "SPV_AUTHORIZATION_REQUIRED"
  | governance => "SPV_GOVERNANCE"
  | capacity => "SPV_WINDOW_CAPACITY"
  | requiredConfirmations => "SPV_REQUIRED_CONFIRMATIONS"
  | enforceAccumulated => "SPV_ENFORCE_ACCUMULATED_DIFFICULTY"

theorem map_name_all : all.map name = Config.requiredVariables := rfl

theorem name_mem (setting : RequiredSetting) : setting.name ∈ Config.requiredVariables := by
  rw [← map_name_all]
  cases setting <;> simp [all]

/-- What a setting may be set to. -/
abbrev Value : RequiredSetting → Type
  | network => Network
  | proofLength | capacity => Nat
  | authorizationRequired | enforceAccumulated => Bool
  | governance => String
  | requiredConfirmations => UInt32

/-- What the text of a variable stands for. -/
def read : (setting : RequiredSetting) → String → Except Text.ValueError setting.Value
  | network => Network.read
  | proofLength | capacity => Config.readSize
  | authorizationRequired | enforceAccumulated => Text.readBool
  | governance => .ok
  | requiredConfirmations => Config.readConfirmations

/-- The value of a setting. -/
def valueIn (config : Config) : (setting : RequiredSetting) → setting.Value
  | network => config.relay.network
  | proofLength => config.relay.proofLength
  | authorizationRequired => config.relay.authorizationRequired
  | governance => config.relay.governance
  | capacity => config.window.capacity
  | requiredConfirmations => config.verifier.requiredConfirmations
  | enforceAccumulated => config.verifier.enforceAccumulated

end RequiredSetting

namespace Environment

variable {α : Type} {environment : Environment} {read : String → Except Text.ValueError α}
  {name : String} {error : ConfigError} {config : Config} {setting : RequiredSetting}
  {rest : List RequiredSetting}

/-- Whether a variable is set to a text that stands for a value. -/
def Reads (environment : Environment) (read : String → Except Text.ValueError α) (name : String)
    (value : α) : Prop :=
  ∃ bytes text, environment name = some bytes ∧ bytes.toString? = some text ∧
    read text = .ok value

/-- Why a variable cannot be used. -/
inductive Fails (environment : Environment) (read : String → Except Text.ValueError α)
    (name : String) : ConfigError → Prop where
  | absent (unset : environment name = none) :
      Fails environment read name (.unsetVariable .absent)
  | notUnicode {bytes : Bytes} (set : environment name = some bytes)
      (noText : bytes.toString? = none) :
      Fails environment read name (.unsetVariable (.notUnicode bytes))
  | malformed {bytes : Bytes} {text : String} {cause : Text.ValueError}
      (set : environment name = some bytes) (spelled : bytes.toString? = some text)
      (refused : read text = .error cause) :
      Fails environment read name (.malformedVariable name cause)

theorem text_eq_ok_iff {text : String} :
    environment.text name = .ok text ↔
      ∃ bytes, environment name = some bytes ∧ bytes.toString? = some text := by
  unfold Environment.text
  split
  next unset => simp [unset]
  next bytes set =>
    cases spelled : bytes.toString? <;> simp [set, spelled]

theorem text_eq_error_iff {cause : VariableError} :
    environment.text name = .error cause ↔
      environment name = none ∧ cause = .absent ∨
        ∃ bytes, environment name = some bytes ∧ bytes.toString? = none ∧
          cause = .notUnicode bytes := by
  unfold Environment.text
  split
  next unset => simp [unset, eq_comm]
  next bytes set =>
    cases spelled : bytes.toString? <;> simp [set, spelled, eq_comm]

theorem parsed_eq_ok_iff {value : α} :
    environment.parsed read name = .ok value ↔ environment.Reads read name value := by
  simp only [parsed, required, Checks.bind_eq_ok_iff, Checks.mapError_eq_ok_iff, text_eq_ok_iff,
    Reads]
  constructor
  · rintro ⟨text, ⟨bytes, set, spelled⟩, accepted⟩
    exact ⟨bytes, text, set, spelled, accepted⟩
  · rintro ⟨bytes, text, set, spelled, accepted⟩
    exact ⟨text, ⟨bytes, set, spelled⟩, accepted⟩

theorem parsed_eq_error_iff :
    environment.parsed read name = .error error ↔ environment.Fails read name error := by
  simp only [parsed, required, Checks.bind_eq_error_iff, Checks.mapError_eq_error_iff,
    Checks.mapError_eq_ok_iff, text_eq_ok_iff, text_eq_error_iff]
  constructor
  · rintro (⟨cause, unusable, rfl⟩ | ⟨text, ⟨bytes, set, spelled⟩, cause, refused, rfl⟩)
    · cases unusable with
      | inl absent =>
          obtain ⟨unset, rfl⟩ := absent
          exact .absent unset
      | inr noText =>
          obtain ⟨bytes, set, noText, rfl⟩ := noText
          exact .notUnicode set noText
    · exact .malformed set spelled refused
  · intro fails
    cases fails with
    | absent unset => exact .inl ⟨_, .inl ⟨unset, rfl⟩, rfl⟩
    | notUnicode set noText => exact .inl ⟨_, .inr ⟨_, set, noText, rfl⟩, rfl⟩
    | malformed set spelled refused => exact .inr ⟨_, ⟨_, set, spelled⟩, _, refused, rfl⟩

/-- Every text names a governance. -/
theorem required_eq_parsed : environment.required name = environment.parsed .ok name := by
  unfold parsed
  cases environment.required name <;> rfl

/-! ## The first variable that cannot be used -/

/-- Whether the first of some settings that cannot be read fails with an error. -/
def FirstFails (environment : Environment) (settings : List RequiredSetting)
    (error : ConfigError) : Prop :=
  ∃ before setting after, settings = before ++ setting :: after ∧
    (∀ earlier ∈ before, ∃ value, environment.Reads earlier.read earlier.name value) ∧
    environment.Fails setting.read setting.name error

theorem not_firstFails_nil : ¬environment.FirstFails [] error := by
  rintro ⟨before, setting, after, split, _⟩
  cases before <;> cases split

theorem firstFails_cons_iff :
    environment.FirstFails (setting :: rest) error ↔
      environment.Fails setting.read setting.name error ∨
        (∃ value, environment.Reads setting.read setting.name value) ∧
          environment.FirstFails rest error := by
  constructor
  · rintro ⟨before, failing, after, split, passed, fails⟩
    cases before with
    | nil =>
        obtain ⟨rfl, rfl⟩ := List.cons.inj split
        exact .inl fails
    | cons earlier before =>
        obtain ⟨rfl, rfl⟩ := List.cons.inj split
        exact .inr ⟨passed _ List.mem_cons_self, before, failing, after, rfl,
          fun other member => passed other (List.mem_cons_of_mem _ member), fails⟩
  · rintro (fails | ⟨first, before, failing, after, rfl, passed, fails⟩)
    · exact ⟨[], setting, rest, rfl, nofun, fails⟩
    · exact ⟨setting :: before, failing, after, rfl, List.forall_mem_cons.mpr ⟨first, passed⟩,
        fails⟩

/-- Whether an environment gives all settings, and they are those of a configuration. -/
structure Denotes (environment : Environment) (config : Config) : Prop where
  reads : ∀ setting : RequiredSetting,
    environment.Reads setting.read setting.name (setting.valueIn config)
  submitters : config.relay.authorizedSubmitters = Config.submitters environment
  provider : config.provider = {}

theorem ofEnvironment_eq_ok_iff :
    Config.ofEnvironment environment = .ok config ↔ environment.Denotes config := by
  simp only [Config.ofEnvironment, required_eq_parsed, Checks.bind_eq_ok_iff, parsed_eq_ok_iff,
    Checks.pure_eq_ok_iff]
  constructor
  · rintro ⟨_, network, _, length, _, required, _, governance, _, capacity, _, confirmations, _,
      enforce, rfl⟩
    refine ⟨?_, rfl, rfl⟩
    intro setting
    cases setting with
    | network => exact network
    | proofLength => exact length
    | authorizationRequired => exact required
    | governance => exact governance
    | capacity => exact capacity
    | requiredConfirmations => exact confirmations
    | enforceAccumulated => exact enforce
  · rintro ⟨reads, submitters, provider⟩
    refine ⟨_, reads .network, _, reads .proofLength, _, reads .authorizationRequired, _,
      reads .governance, _, reads .capacity, _, reads .requiredConfirmations, _,
      reads .enforceAccumulated, ?_⟩
    obtain ⟨⟨_, _, _, _, _⟩, ⟨_⟩, ⟨_, _⟩, _⟩ := config
    simp only at submitters provider
    rw [submitters, provider]
    rfl

theorem ofEnvironment_eq_error_iff :
    Config.ofEnvironment environment = .error error ↔
      environment.FirstFails RequiredSetting.all error := by
  simp only [Config.ofEnvironment, required_eq_parsed, Checks.bind_eq_error_iff, parsed_eq_ok_iff,
    parsed_eq_error_iff, RequiredSetting.all, firstFails_cons_iff, not_firstFails_nil,
    pure, Except.pure, reduceCtorEq, and_false, exists_false, or_false, exists_and_right]
  rfl

/-! ## The settings that the program runs with -/

/-- Whether every required variable is set, to whatever bytes. -/
def IsComplete (environment : Environment) : Prop :=
  ∀ name ∈ Config.requiredVariables, environment name ≠ none

/-- The environment in which nothing is set. -/
def bare : Environment :=
  fun _ => none

/-- Whether a program that finds the environment runs with the settings that it
gives, or else ends. -/
inductive IsKept (environment : Environment) : Prop where
  | settled (config : Config) (denotes : environment.Denotes config)
      (chosen : ∀ files configFile, Config.choose environment files configFile = .ok config)
  | ended (error : ConfigError)
      (refused : ∀ files configFile, Config.choose environment files configFile = .error error)
      (ends : ∀ files words arguments, Arguments.parse words = .ok arguments →
        Outcome.ofWords environment files words = .refusal error)

/-- Whether a program that finds the environment does what it does if nothing is set. -/
structure IsPassedOver (environment : Environment) : Prop where
  chosen : ∀ files configFile,
    Config.choose environment files configFile = Config.choose bare files configFile
  outcome : ∀ files words,
    Outcome.ofWords environment files words = Outcome.ofWords bare files words

/-- Whether the first variable that cannot be used is set to bytes that are no text. -/
def StopsAtBytes (environment : Environment) : Prop :=
  ∃ bytes, environment.FirstFails RequiredSetting.all (.unsetVariable (.notUnicode bytes))

/-- The configuration file, or the defaults if there is none, stands in for an
environment that does not give all settings. -/
theorem choose_of_unset {cause : VariableError} {files : Files} {configFile : Option String}
    (unset : Config.ofEnvironment environment = .error (.unsetVariable cause)) :
    Config.choose environment files configFile =
      match configFile with
      | some path => Config.ofFile path (files path)
      | none => .ok {} := by
  cases configFile <;> simp only [Config.choose, unset]

theorem choose_of_set {files : Files} {configFile : Option String}
    (set : ∀ cause, Config.ofEnvironment environment ≠ .error (.unsetVariable cause)) :
    Config.choose environment files configFile = Config.ofEnvironment environment := by
  unfold Config.choose
  split
  next cause unset => exact absurd unset (set cause)
  next => rfl

theorem ofEnvironment_bare : Config.ofEnvironment bare = .error (.unsetVariable .absent) :=
  rfl

theorem isPassedOver_of_unset {cause : VariableError}
    (unset : Config.ofEnvironment environment = .error (.unsetVariable cause)) :
    environment.IsPassedOver := by
  have chosen : ∀ files configFile,
      Config.choose environment files configFile = Config.choose bare files configFile := by
    intro files configFile
    rw [choose_of_unset unset, choose_of_unset ofEnvironment_bare]
  refine ⟨chosen, ?_⟩
  intro files words
  simp only [Outcome.ofWords, chosen]

theorem isKept_of_set
    (set : ∀ cause, Config.ofEnvironment environment ≠ .error (.unsetVariable cause)) :
    environment.IsKept := by
  cases found : Config.ofEnvironment environment with
  | ok config =>
      refine .settled config (ofEnvironment_eq_ok_iff.mp found) ?_
      intro files configFile
      rw [choose_of_set set, found]
  | error error =>
      have refused : ∀ files configFile,
          Config.choose environment files configFile = .error error := by
        intro files configFile
        rw [choose_of_set set, found]
      refine .ended error refused ?_
      intro files words arguments parsed
      simp only [Outcome.ofWords, parsed, refused]
      rfl

/-- With no configuration file, the defaults are found where the environment is
passed over. -/
theorem IsKept.not_isUnset {cause : VariableError} (kept : environment.IsKept) :
    Config.ofEnvironment environment ≠ .error (.unsetVariable cause) := by
  intro unset
  have defaults : Config.choose environment (fun _ => none) none = .ok {} :=
    choose_of_unset unset
  cases kept with
  | settled config denotes chosen =>
      rw [ofEnvironment_eq_ok_iff.mpr denotes] at unset
      cases unset
  | ended error refused ends =>
      rw [refused] at defaults
      cases defaults

/-- In an environment with every variable, none is absent. -/
theorem IsComplete.unset_iff (complete : environment.IsComplete) :
    (∃ cause, Config.ofEnvironment environment = .error (.unsetVariable cause)) ↔
      environment.StopsAtBytes := by
  constructor
  · rintro ⟨cause, unset⟩
    have first := ofEnvironment_eq_error_iff.mp unset
    cases cause with
    | absent =>
        obtain ⟨before, setting, after, split, passed, fails⟩ := first
        cases fails with
        | absent unset => exact absurd unset (complete setting.name setting.name_mem)
    | notUnicode bytes => exact ⟨bytes, first⟩
  · rintro ⟨bytes, first⟩
    exact ⟨_, ofEnvironment_eq_error_iff.mpr first⟩

/-- An environment with every variable is kept unless the first variable that
cannot be used is set to bytes which are no text.  Such a variable counts as not set: the
program then goes by its configuration file or the defaults, as it does with no variable. -/
theorem complete_environments_are_kept_iff (complete : environment.IsComplete) :
    (environment.IsKept ↔ ¬environment.StopsAtBytes) ∧
      (environment.StopsAtBytes → environment.IsPassedOver) ∧
      ((∃ cause, Config.ofEnvironment environment = .error (.unsetVariable cause)) ↔
        environment.StopsAtBytes) := by
  refine ⟨⟨?_, ?_⟩, ?_, complete.unset_iff⟩
  · intro kept stops
    obtain ⟨cause, unset⟩ := complete.unset_iff.mpr stops
    exact kept.not_isUnset unset
  · intro runs
    exact isKept_of_set fun cause unset => runs (complete.unset_iff.mp ⟨cause, unset⟩)
  · intro stops
    obtain ⟨cause, unset⟩ := complete.unset_iff.mpr stops
    exact isPassedOver_of_unset unset

/-- An environment with every variable, of which a number of headers and a
governance are given. -/
def testEnvironment (proofLength governance : Bytes) : Environment
  | "SPV_NETWORK" => some (.ofString "regtest")
  | "SPV_PROOF_LENGTH" => some proofLength
  | "SPV_AUTHORIZATION_REQUIRED" => some (.ofString "true")
  | "SPV_GOVERNANCE" => some governance
  | "SPV_WINDOW_CAPACITY" => some (.ofString "64")
  | "SPV_REQUIRED_CONFIRMATIONS" => some (.ofString "6")
  | "SPV_ENFORCE_ACCUMULATED_DIFFICULTY" => some (.ofString "false")
  | _ => none

theorem isComplete_testEnvironment (proofLength governance : Bytes) :
    (testEnvironment proofLength governance).IsComplete := by
  simp [IsComplete, Config.requiredVariables, testEnvironment]

theorem testEnvironment_reads_network (proofLength governance : Bytes) :
    (testEnvironment proofLength governance).Reads Network.read "SPV_NETWORK" .regtest :=
  ⟨_, "regtest", rfl, by decide +kernel, rfl⟩

/-- A number of headers that is no number ends the program before the governance is read,
though that is no text. -/
theorem malformed_environment_is_kept :
    (testEnvironment (.ofString "four") [0xFF]).IsComplete ∧
      (testEnvironment (.ofString "four") [0xFF]).IsKept := by
  have complete := isComplete_testEnvironment (.ofString "four") [0xFF]
  have spelled : Bytes.toString? (.ofString "four") = some "four" := by decide +kernel
  have stops : (testEnvironment (.ofString "four") [0xFF]).FirstFails RequiredSetting.all
      (.malformedVariable "SPV_PROOF_LENGTH" .invalidDigit) :=
    firstFails_cons_iff.mpr (.inr ⟨⟨_, testEnvironment_reads_network _ _⟩,
      firstFails_cons_iff.mpr (.inl (.malformed rfl spelled rfl))⟩)
  refine ⟨complete, (complete_environments_are_kept_iff complete).1.mpr ?_⟩
  rintro ⟨bytes, first⟩
  cases (ofEnvironment_eq_error_iff.mpr first).symm.trans (ofEnvironment_eq_error_iff.mpr stops)

/-- A governance of one byte that is no text is dropped with all other variables. -/
theorem unreadable_environment_is_not_kept :
    (testEnvironment (.ofString "4") [0xFF]).IsComplete ∧
      Config.ofEnvironment (testEnvironment (.ofString "4") [0xFF]) =
        .error (.unsetVariable (.notUnicode [0xFF])) ∧
      Config.choose (testEnvironment (.ofString "4") [0xFF]) bare none = .ok {} ∧
      ¬(testEnvironment (.ofString "4") [0xFF]).IsKept := by
  have stops : (testEnvironment (.ofString "4") [0xFF]).FirstFails RequiredSetting.all
      (.unsetVariable (.notUnicode [0xFF])) := by
    refine ⟨[.network, .proofLength, .authorizationRequired], .governance, _, rfl, ?_,
      .notUnicode rfl (by decide +kernel)⟩
    intro setting member
    simp only [List.mem_cons, List.not_mem_nil, or_false] at member
    rcases member with rfl | rfl | rfl
    · exact ⟨_, testEnvironment_reads_network _ _⟩
    · exact ⟨4, _, "4", rfl, by decide +kernel, rfl⟩
    · exact ⟨true, _, "true", rfl, by decide +kernel, rfl⟩
  have unset := ofEnvironment_eq_error_iff.mpr stops
  exact ⟨isComplete_testEnvironment _ _, unset, choose_of_unset unset,
    fun kept => kept.not_isUnset unset⟩

end Environment

end HeaderRelay
