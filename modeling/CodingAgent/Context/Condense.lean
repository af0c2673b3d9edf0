import CodingAgent.Conversation.Message

/-!
# Condensing a conversation

When the model asks to condense, everything after the system prompt and the first request is
replaced by one system message holding the model's summary.
-/

namespace CodingAgent.Context

open CodingAgent

/-- The start of the message that holds a summary. -/
def condensedPrefix : String :=
  "[Conversation condensed] The following is a summary of all previous work:\n"

/-- The first two messages and the summary after them. -/
def condense (history : List Message) (summary : String) : List Message :=
  history.take 2 ++ [.text .system (condensedPrefix ++ summary)]

end CodingAgent.Context
