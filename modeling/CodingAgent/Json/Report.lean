import CodingAgent.Json.Lax
import CodingAgent.Json.Display
import CodingAgent.Text.CodePoints

/-!
# Validation reports

When a typed record cannot be read, the reader reports every issue in a block of text:

```
1 validation error for ToolResult
content
  Input should be a valid string [type=string_type, input_value=5, input_type=int]
    For further information visit <the page of string_type>
```

The heading counts the issues and names the record; each issue gives its place (the keys
joined by dots), the sentence of its rule, the rule's name, the value as the program writes
values (cut to its first 25 and last 24 characters when longer than 50) and the type of the
value, and the page that explains the rule.
-/

namespace CodingAgent.Json

open CodingAgent.Text

/-- The sentence that states a rule. -/
def ruleSentence : String → String
  | "int_parsing" => "Input should be a valid integer, unable to parse string as an integer"
  | "int_parsing_size" => "Unable to parse input string as an integer, exceeded maximum size"
  | "int_type" => "Input should be a valid integer"
  | "int_from_float" => "Input should be a valid integer, got a number with a fractional part"
  | "finite_number" => "Input should be a finite number"
  | "float_parsing" => "Input should be a valid number, unable to parse string as a number"
  | "float_type" => "Input should be a valid number"
  | "string_type" => "Input should be a valid string"
  | "string_unicode" => "Input should be a valid string, unable to parse raw data as a unicode string"
  | "bool_parsing" => "Input should be a valid boolean, unable to interpret input"
  | "bool_type" => "Input should be a valid boolean"
  | "list_type" => "Input should be a valid list"
  | "model_type" => "Input should be a valid dictionary or instance of the model"
  | "extra_forbidden" => "Extra inputs are not permitted"
  | kind => kind

/-- A value as a report shows it: its written form, cut in the middle when it is long. -/
def shownInput (v : Value) : String :=
  let ns := codePoints v.quotedText.toList
  if ns.length > 50 then
    ofCodePoints (ns.take 25) ++ "..." ++ ofCodePoints (ns.drop (ns.length - 24))
  else ofCodePoints ns

/-- The page that explains a rule. -/
def rulePage (kind : String) : String :=
  "https://errors.pydantic.dev/2.14/v/" ++ kind

/-- The lines of one issue. -/
def Issue.report (i : Issue) : String :=
  ".".intercalate i.loc ++ "\n  " ++ ruleSentence i.kind ++ " [type=" ++ i.kind ++
    ", input_value=" ++ shownInput i.input ++ ", input_type=" ++ i.input.kindName ++
    "]\n    For further information visit " ++ rulePage i.kind

/-- The report of the issues met reading a record named `title`. -/
def validationReport (title : String) (is : List Issue) : String :=
  let count := toString is.length ++ " validation error" ++ (if is.length == 1 then "" else "s")
  count ++ " for " ++ title ++ "\n" ++ "\n".intercalate (is.map Issue.report)

end CodingAgent.Json
