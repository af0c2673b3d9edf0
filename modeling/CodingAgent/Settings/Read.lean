import CodingAgent.Settings.Schema
import CodingAgent.Settings.Options
import CodingAgent.Json.Lax
import CodingAgent.Decimal.Binary

/-!
# Reading and writing settings

`Settings.read` reads a configuration given as nested objects: each section is an object
whose keys name settings; a key that is absent keeps its default, and keys that name no
setting are ignored inside a section. At the top level a section's name may be written in
any letter case: the first key that names a section is read and later ones are passed over.
The source options (`Settings.Options`) are set aside first, and a value they cannot take
refuses the whole configuration. Any other key is an issue `extra_forbidden`, reported
after the issues of the sections. A section given as anything other than an object is the
issue `model_type`.

Issues are reported in the order of the sections and of the settings in them, each list item
by its position.

`Settings.dump` writes settings back as nested objects, every setting present.

`Settings.conversationBudget` is the token budget times the conversation share, truncated
toward zero.
-/

namespace CodingAgent.Settings

open CodingAgent.Json CodingAgent.Decimal

/-- The names of the sections. -/
def sectionNames : List String := ["model", "agent", "policy", "logging"]

/-- Whether a key names a section, whatever the case of its ASCII letters. -/
def namesSection (key name : String) : Bool :=
  String.ofList (CodingAgent.Decimal.asciiLower key.toList) == name

/-- The key a section is read from among the keys of a configuration: the first that names
it. -/
def sectionKey? (keys : List String) (name : String) : Option String :=
  keys.find? (namesSection · name)

/-- The section that a key of a configuration is read into, if it is read into one. -/
def sectionOfKey? (keys : List String) (key : String) : Option String :=
  sectionNames.find? (fun name => sectionKey? keys name == some key)

/-- A section read from its object; a section given as something else is an issue. -/
def section? (whole : Members) (key : String) (read : Members → Checked α) (default : α) :
    Checked α :=
  match (sectionKey? (Members.keys whole) key).bind (Members.get? whole) with
  | none => { value := default }
  | some (.obj ms) => read ms
  | some v => { value := default, issues := [⟨[key], "model_type", v⟩] }

/-- Read the model section. -/
def ModelSettings.read (ms : Members) : Checked ModelSettings := do
  let loc := ["model"]
  let d : ModelSettings := {}
  let baseUrl ← field ms loc "base_url" (scalar laxText) d.baseUrl
  let apiKey ← field ms loc "api_key" (scalar laxText) d.apiKey
  let model ← field ms loc "model" (scalar laxText) d.model
  let maxTokens ← field ms loc "max_tokens" (scalar laxInt) d.maxTokens
  let temperature ← field ms loc "temperature" (scalar laxFloat) d.temperature
  let timeoutSeconds ← field ms loc "timeout_seconds" (scalar laxInt) d.timeoutSeconds
  let stream ← field ms loc "stream" (scalar laxFlag) d.stream
  pure { baseUrl := baseUrl, apiKey := apiKey, model := model, maxTokens := maxTokens,
         temperature := temperature, timeoutSeconds := timeoutSeconds, stream := stream }

/-- Read the agent section. -/
def AgentSettings.read (ms : Members) : Checked AgentSettings := do
  let loc := ["agent"]
  let d : AgentSettings := {}
  let maxIterations ← field ms loc "max_iterations" (scalar laxInt) d.maxIterations
  let maxTokenBudget ← field ms loc "max_token_budget" (scalar laxInt) d.maxTokenBudget
  let ratio ← field ms loc "conversation_budget_ratio" (scalar laxFloat) d.conversationBudgetRatio
  let keepRecent ← field ms loc "keep_recent_messages" (scalar laxInt) d.keepRecentMessages
  let maxRetries ← field ms loc "max_retries" (scalar laxInt) d.maxRetries
  let retryDelays ← field ms loc "retry_delays_ms" (listOf laxInt) d.retryDelaysMs
  let toolTimeout ← field ms loc "tool_timeout_seconds" (scalar laxFloat) d.toolTimeoutSeconds
  let mistakes ← field ms loc "max_consecutive_mistakes" (scalar laxInt) d.maxConsecutiveMistakes
  let noTool ← field ms loc "max_consecutive_no_tool" (scalar laxInt) d.maxConsecutiveNoTool
  let resultChars ← field ms loc "max_tool_result_chars" (scalar laxInt) d.maxToolResultChars
  let queueSize ← field ms loc "step_queue_size" (scalar laxInt) d.stepQueueSize
  pure { maxIterations := maxIterations, maxTokenBudget := maxTokenBudget,
         conversationBudgetRatio := ratio, keepRecentMessages := keepRecent,
         maxRetries := maxRetries, retryDelaysMs := retryDelays,
         toolTimeoutSeconds := toolTimeout, maxConsecutiveMistakes := mistakes,
         maxConsecutiveNoTool := noTool, maxToolResultChars := resultChars,
         stepQueueSize := queueSize }

/-- Read the policy section. -/
def PolicySettings.read (ms : Members) : Checked PolicySettings := do
  let loc := ["policy"]
  let d : PolicySettings := {}
  let suppression ← field ms loc "suppression_threshold_chars" (scalar laxInt)
    d.suppressionThresholdChars
  let smallTalk ← field ms loc "conversational_max_chars" (scalar laxInt) d.conversationalMaxChars
  let task ← field ms loc "task_keywords" (listOf laxText) d.taskKeywords
  let recursive ← field ms loc "recursive_keywords" (listOf laxText) d.recursiveKeywords
  let completion ← field ms loc "completion_tool" (scalar laxText) d.completionTool
  let condense ← field ms loc "condense_tool" (scalar laxText) d.condenseTool
  let edits ← field ms loc "edit_tools" (listOf laxText) d.editTools
  let listing ← field ms loc "recursive_listing_tool" (scalar laxText) d.recursiveListingTool
  pure { suppressionThresholdChars := suppression, conversationalMaxChars := smallTalk,
         taskKeywords := task, recursiveKeywords := recursive, completionTool := completion,
         condenseTool := condense, editTools := edits, recursiveListingTool := listing }

/-- A log format by name. -/
def LogFormat.ofName (s : String) : LogFormat :=
  if s == "json" then .json else .console

/-- The places of the settings that take one of a few words. -/
def choicePlaces : List (List String) := [["logging", "format"]]

/-- Read the logging section. -/
def LoggingSettings.read (ms : Members) : Checked LoggingSettings := do
  let loc := ["logging"]
  let level ← field ms loc "level" (scalar laxText) "INFO"
  let format ← field ms loc "format" (scalar (laxChoice ["console", "json"])) "console"
  pure { level := level, format := LogFormat.ofName format }

/-- Why a configuration could not be read. -/
inductive ReadError where
  /-- The values do not fit the settings. -/
  | invalid (issues : List Issue)
  /-- A source option has a value it cannot take: the type error's message. -/
  | option (message : String)

/-- The class name of a read error, as errors are reported. -/
def ReadError.className : ReadError → String
  | .invalid _ => "ValidationError"
  | .option _ => "TypeError"

/-- The message of a read error. -/
def ReadError.message : ReadError → String
  | .invalid issues => issuesText issues
  | .option message => message

/-- Read a whole configuration. -/
def read (all : Members) : Except ReadError Settings :=
  let (options, whole) := all.partition (fun kv => isOptionKey kv.1)
  match optionFault? options with
  | some message => .error (.option message)
  | none =>
    let c : Checked Settings := do
      let model ← section? whole "model" ModelSettings.read {}
      let agent ← section? whole "agent" AgentSettings.read {}
      let policy ← section? whole "policy" PolicySettings.read {}
      let logging ← section? whole "logging" LoggingSettings.read {}
      pure { model := model, agent := agent, policy := policy, logging := logging }
    let extra := (Members.keys whole).filter (fun k => !sectionNames.any (namesSection k))
    let issues := c.issues ++
      extra.map (fun k => ⟨[k], "extra_forbidden", (Members.get? whole k).getD .null⟩)
    if issues.isEmpty then .ok c.value else .error (.invalid issues)

/-- The model section as an object. -/
def ModelSettings.dump (s : ModelSettings) : Value :=
  .obj [("base_url", .str s.baseUrl), ("api_key", .str s.apiKey), ("model", .str s.model),
    ("max_tokens", .int s.maxTokens), ("temperature", .num s.temperature),
    ("timeout_seconds", .int s.timeoutSeconds), ("stream", .bool s.stream)]

/-- The agent section as an object. -/
def AgentSettings.dump (s : AgentSettings) : Value :=
  .obj [("max_iterations", .int s.maxIterations), ("max_token_budget", .int s.maxTokenBudget),
    ("conversation_budget_ratio", .num s.conversationBudgetRatio),
    ("keep_recent_messages", .int s.keepRecentMessages), ("max_retries", .int s.maxRetries),
    ("retry_delays_ms", .arr (s.retryDelaysMs.map .int)),
    ("tool_timeout_seconds", .num s.toolTimeoutSeconds),
    ("max_consecutive_mistakes", .int s.maxConsecutiveMistakes),
    ("max_consecutive_no_tool", .int s.maxConsecutiveNoTool),
    ("max_tool_result_chars", .int s.maxToolResultChars),
    ("step_queue_size", .int s.stepQueueSize)]

/-- The policy section as an object. -/
def PolicySettings.dump (s : PolicySettings) : Value :=
  .obj [("suppression_threshold_chars", .int s.suppressionThresholdChars),
    ("conversational_max_chars", .int s.conversationalMaxChars),
    ("task_keywords", .arr (s.taskKeywords.map .str)),
    ("recursive_keywords", .arr (s.recursiveKeywords.map .str)),
    ("completion_tool", .str s.completionTool), ("condense_tool", .str s.condenseTool),
    ("edit_tools", .arr (s.editTools.map .str)),
    ("recursive_listing_tool", .str s.recursiveListingTool)]

/-- The logging section as an object. -/
def LoggingSettings.dump (s : LoggingSettings) : Value :=
  .obj [("level", .str s.level), ("format", .str s.format.name)]

/-- The whole configuration as nested objects. -/
def dump (s : Settings) : Value :=
  .obj [("model", s.model.dump), ("agent", s.agent.dump), ("policy", s.policy.dump),
    ("logging", s.logging.dump)]

/-- Why a budget could not be computed. -/
inductive BudgetError where
  /-- The token budget is past the largest double. -/
  | tooLarge
  /-- The product is infinite. -/
  | infinite
  /-- The product is not a number. -/
  | notANumber

/-- The class name of a budget error, as errors are reported. -/
def BudgetError.className : BudgetError → String
  | .tooLarge => "OverflowError"
  | .infinite => "OverflowError"
  | .notANumber => "ValueError"

/-- The message of a budget error. -/
def BudgetError.message : BudgetError → String
  | .tooLarge => "int too large to convert to float"
  | .infinite => "cannot convert float infinity to integer"
  | .notANumber => "cannot convert float NaN to integer"

/-- The token budget of the conversation: budget times share, truncated toward zero. -/
def conversationBudget (s : Settings) : Except BudgetError Int :=
  match ofInt? s.agent.maxTokenBudget with
  | none => .error .tooLarge
  | some budget =>
    match Kind.ofFloat (budget * s.agent.conversationBudgetRatio) with
    | .finite b => .ok b.truncate
    | .infinite _ => .error .infinite
    | .nan => .error .notANumber

end CodingAgent.Settings
