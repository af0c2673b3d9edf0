/-!
# Settings and their defaults

The agent is configured in four sections. `ModelSettings` says where the model is served and
how it is asked; `AgentSettings` bounds the loop (iterations, token budget, retries, mistakes);
`PolicySettings` holds the word lists and tool names of the request heuristics; and
`LoggingSettings` says how the agent reports. Every field has a default, so `{}` is the
configuration used when nothing is given.

Integers are `Int` because the settings accept any integer; the loop reads a negative bound
as a bound that no count reaches or that every count passes, whichever its comparison gives.
-/

namespace CodingAgent.Settings

/-- Where the model is served and how it is asked. -/
structure ModelSettings where
  baseUrl : String := "http://localhost:8000/v1/"
  apiKey : String := ""
  model : String := "qwen3-coder"
  maxTokens : Int := 4096
  temperature : Float := 0.7
  timeoutSeconds : Int := 120
  stream : Bool := true

/-- The bounds of the agent loop. -/
structure AgentSettings where
  maxIterations : Int := 25
  maxTokenBudget : Int := 32000
  /-- The share of the token budget that the conversation may use; the rest is left to
  the system prompt. -/
  conversationBudgetRatio : Float := 0.85
  keepRecentMessages : Int := 10
  maxRetries : Int := 2
  /-- The pause before each retry, in milliseconds; the last one repeats. -/
  retryDelaysMs : List Int := [1000, 3000]
  toolTimeoutSeconds : Float := 60.0
  maxConsecutiveMistakes : Int := 3
  maxConsecutiveNoTool : Int := 2
  maxToolResultChars : Int := 8000
  stepQueueSize : Int := 64

/-- Words that mark a request as a task rather than small talk. -/
def taskKeywords : List String :=
  ["文件", "代码", "读", "写", "编辑", "修改", "创建", "删除", "搜索", "查找", "查看",
   "运行", "执行", "构建", "编译", "测试", "分析", "重构", "调试", "打开", "关闭",
   "添加", "移除", "更新", "生成", "实现", "修复", "优化", "部署", "安装", "配置",
   "项目", "目录", "函数", "类", "方法", "变量", "错误", "bug", "报错",
   "file", "code", "read", "write", "edit", "create", "delete", "search", "find",
   "run", "exec", "build", "compile", "test", "debug", "refactor", "fix",
   "list", "grep", "dir", "open", "close", "add", "remove", "update", "generate",
   "implement", "deploy", "install", "config", "project", "class", "function",
   "method", "variable", "error", "help me", "帮我", "请帮"]

/-- Words that ask for a whole directory tree. -/
def recursiveKeywords : List String :=
  ["完整", "全部", "递归", "目录树", "结构", "树形", "所有",
   "full", "complete", "recursive", "tree", "entire", "all"]

/-- The word lists and tool names of the request heuristics. -/
structure PolicySettings where
  suppressionThresholdChars : Int := 100
  conversationalMaxChars : Int := 20
  taskKeywords : List String := taskKeywords
  recursiveKeywords : List String := recursiveKeywords
  completionTool : String := "attempt_completion"
  condenseTool : String := "condense"
  editTools : List String := ["edit", "write_to_file"]
  recursiveListingTool : String := "list_dir"

/-- How log lines are written. -/
inductive LogFormat where
  | console
  | json
  deriving DecidableEq

/-- The name of a log format. -/
def LogFormat.name : LogFormat → String
  | .console => "console"
  | .json => "json"

/-- How the agent reports. -/
structure LoggingSettings where
  level : String := "INFO"
  format : LogFormat := .console

end CodingAgent.Settings

namespace CodingAgent

open CodingAgent.Settings

/-- The whole configuration. -/
structure Settings where
  model : ModelSettings := {}
  agent : AgentSettings := {}
  policy : PolicySettings := {}
  logging : LoggingSettings := {}

end CodingAgent
