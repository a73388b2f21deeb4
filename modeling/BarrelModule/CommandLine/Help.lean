import BarrelModule.CommandLine.Grammar

namespace BarrelModule.CommandLine

namespace Help

def padded (width : Nat) (s : String) : String :=
  s ++ String.ofList (List.replicate (width - s.length) ' ')

def columns (rows : List (String × String)) : List String :=
  let width := rows.foldl (fun w (l, _) => max w l.length) 0
  rows.map fun (l, r) => "  " ++ padded (width + 2) l ++ r

def spelling (e : OptionEntry) : String :=
  let short := match e.short with
    | some c => "-" ++ String.singleton c ++ ", "
    | none => "    "
  let value := match e.meaning with
    | .setting _ => " <" ++ e.placeholder ++ ">"
    | .verbose => "..."
    | _ => ""
  short ++ "--" ++ e.longs.headD "" ++ value

def explanation (e : OptionEntry) : String :=
  let initial := match e.initial with
    | some "" => " [default: \"\"]"
    | some s => " [default: " ++ s ++ "]"
    | none => ""
  let aliases := match e.longs.tail with
    | [] => ""
    | names => " [alias: " ++ ", ".intercalate (names.map ("--" ++ ·)) ++ "]"
  e.summary ++ initial ++ aliases

def options (c : Command) : List String :=
  match c.entries with
  | [] => []
  | entries => ["", "Options:"] ++ columns (entries.map fun e => (spelling e, explanation e))

def usage : Command → String
  | .top => "Usage: barrel [OPTIONS] <COMMAND>"
  | .build => "Usage: barrel build [OPTIONS]"
  | .completions => "Usage: barrel completions [OPTIONS] <SHELL>"
  | .help => "Usage: barrel help [COMMAND]..."

def operands : Command → List String
  | .top => ["", "Commands:"] ++ columns (Command.subcommands.map fun c => (c.name, c.summary))
  | .build => []
  | .completions => ["", "Arguments:"] ++ columns [("<SHELL>",
      "Shell to generate completions for [possible values: " ++
        ", ".intercalate (Shell.all.map Shell.name) ++ "]")]
  | .help => ["", "Arguments:"] ++ columns [("[COMMAND]...", "Print help for the subcommand(s)")]

def lines (c : Command) : List String :=
  [c.summary, "", usage c] ++ operands c ++ options c

end Help

end BarrelModule.CommandLine
