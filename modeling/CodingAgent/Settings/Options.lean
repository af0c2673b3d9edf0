import CodingAgent.Json.Value

/-!
# Source options

Beside its sections, a configuration may carry options that steer the other places settings
come from: the environment, a file of variables and a directory of secrets. Their keys start
with an underscore and are matched exactly. An option never becomes a setting and is never an
unknown key, and an absent or null option keeps its default. Most values are taken as they
are, but a few break the reading of those other places before any section is read, each with
a type error (`optionFault?`), in the order in which the places are set up and then read:

1. the most parts a nested variable name splits into is a number, or empty;
2. the prefix of variable names has a length;
3. the file of variables is one path or a collection of paths;
4. the prefix can be put before a setting's name;
5. the directory of secrets is one path or a collection of paths.
-/

namespace CodingAgent.Settings

open CodingAgent.Json

/-- The keys of the source options. -/
def optionNames : List String :=
  ["_case_sensitive", "_nested_model_default_partial_update", "_env_prefix", "_env_file",
   "_env_file_encoding", "_env_ignore_empty", "_env_nested_delimiter", "_env_nested_max_split",
   "_env_parse_none_str", "_env_parse_enums", "_cli_prog_name", "_cli_parse_args",
   "_cli_settings_source", "_cli_parse_none_str", "_cli_hide_none_type", "_cli_avoid_json",
   "_cli_enforce_required", "_cli_use_class_docs_for_groups", "_cli_exit_on_error",
   "_cli_prefix", "_cli_flag_prefix_char", "_cli_implicit_flags", "_cli_ignore_unknown_args",
   "_cli_kebab_case", "_cli_shortcuts", "_secrets_dir"]

/-- Whether a key is a source option. -/
def isOptionKey (key : String) : Bool :=
  optionNames.contains key

/-- The type error of subtracting an integer from a value of kind `kind`. -/
def cannotSubtract (kind : String) : String :=
  "unsupported operand type(s) for -: '" ++ kind ++ "' and 'int'"

/-- A split limit less one: empty values count as zero, numbers and flags subtract, and any
other value cannot. -/
def splitLimitFault? : Value → Option String
  | .str s => if s.isEmpty then none else some (cannotSubtract "str")
  | .arr xs => if xs.isEmpty then none else some (cannotSubtract "list")
  | .obj ms => if ms.isEmpty then none else some (cannotSubtract "dict")
  | _ => none

/-- The length of a prefix: texts and collections have one, numbers and flags do not. -/
def prefixLengthFault? : Value → Option String
  | .null | .str _ | .arr _ | .obj _ => none
  | v => some ("object of type '" ++ v.kindName ++ "' has no len()")

/-- A prefix put before a setting's name, which only text allows. -/
def prefixJoinFault? : Value → Option String
  | .arr _ => some "can only concatenate list (not \"str\") to list"
  | .obj _ => some "unsupported operand type(s) for +: 'dict' and 'str'"
  | _ => none

/-- Paths given as one text or a collection of texts: a number or flag is no collection, and
each item of a list must be a text (the keys of an object are). -/
def pathsFault? : Value → Option String
  | .null | .str _ | .obj _ => none
  | .arr xs => (xs.find? (fun x => x.asStr?.isNone)).map (fun x =>
      "expected str, bytes or os.PathLike object, not " ++ x.kindName)
  | v => some ("'" ++ v.kindName ++ "' object is not iterable")

/-- The first fault, in the order the places are set up and read, of the source options
among some members. -/
def optionFault? (options : Members) : Option String :=
  let given (key : String) : Value := (Members.get? options key).getD .null
  [splitLimitFault? (given "_env_nested_max_split"), prefixLengthFault? (given "_env_prefix"),
   pathsFault? (given "_env_file"), prefixJoinFault? (given "_env_prefix"),
   pathsFault? (given "_secrets_dir")].findSome? id

end CodingAgent.Settings
