import BarrelModule.CommandLine.Grammar

namespace BarrelModule.CommandLine

namespace Completion

def optionWords (e : OptionEntry) : List String :=
  (e.short.map fun c => "-" ++ String.singleton c).toList ++ e.longs.map ("--" ++ ·)

def words : Command → List String
  | .top => Command.subcommands.map Command.name ++ Command.top.entries.flatMap optionWords
  | .build => Command.build.entries.flatMap optionWords
  | .completions => Shell.all.map Shell.name ++ Command.completions.entries.flatMap optionWords
  | .help => Command.subcommands.map Command.name

def spaced (ws : List String) : String := " ".intercalate ws

def inQuotes (w : String) : String := "'" ++ w ++ "'"

def bash : List String :=
  ["_barrel() \x7b", "    local cur=\"$\x7bCOMP_WORDS[COMP_CWORD]\x7d\"",
    "    case \"$\x7bCOMP_WORDS[1]\x7d\" in"]
  ++ Command.subcommands.map (fun c =>
    "        " ++ c.name ++ ") COMPREPLY=($(compgen -W \"" ++ spaced (words c) ++ "\" -- \"$cur\")) ;;")
  ++ ["        *) COMPREPLY=($(compgen -W \"" ++ spaced (words .top) ++ "\" -- \"$cur\")) ;;",
    "    esac", "\x7d", "complete -F _barrel -o bashdefault -o default barrel"]

def zsh : List String :=
  ["#compdef barrel", "_barrel() \x7b", "    case \"$words[2]\" in"]
  ++ Command.subcommands.map (fun c => "        " ++ c.name ++ ") compadd -- " ++ spaced (words c) ++ " ;;")
  ++ ["        *) compadd -- " ++ spaced (words .top) ++ " ;;", "    esac", "\x7d", "compdef _barrel barrel"]

def fishEntry (condition : String) (e : OptionEntry) : String :=
  let short := match e.short with
    | some c => " -s " ++ String.singleton c
    | none => ""
  let value := match e.meaning with
    | .setting _ => " -r"
    | _ => ""
  "complete -c barrel -n " ++ inQuotes condition ++ short ++
    String.join (e.longs.map (" -l " ++ ·)) ++ " -d " ++ inQuotes e.summary ++ value

def fish : List String :=
  Command.top.entries.map (fishEntry "__fish_use_subcommand")
  ++ Command.subcommands.flatMap fun c =>
    ("complete -c barrel -n '__fish_use_subcommand' -f -a " ++ c.name ++ " -d " ++ inQuotes c.summary) ::
      c.entries.map (fishEntry ("__fish_seen_subcommand_from " ++ c.name))

def powershell : List String :=
  ["Register-ArgumentCompleter -Native -CommandName 'barrel' -ScriptBlock \x7b",
    "    param($wordToComplete, $commandAst, $cursorPosition)",
    "    $words = switch ($commandAst.CommandElements[1].Value) \x7b"]
  ++ Command.subcommands.map (fun c =>
    "        " ++ inQuotes c.name ++ " \x7b " ++ ", ".intercalate ((words c).map inQuotes) ++ " \x7d")
  ++ ["        default \x7b " ++ ", ".intercalate ((words .top).map inQuotes) ++ " \x7d", "    \x7d",
    "    $words | Where-Object \x7b $_ -like \"$wordToComplete*\" \x7d", "\x7d"]

def elvish : List String :=
  ["set edit:completion:arg-completer[barrel] = \x7b|@words|", "    var completions = ["]
  ++ Command.subcommands.map (fun c => "        &" ++ c.name ++ "=[" ++ spaced (words c) ++ "]")
  ++ ["    ]", "    if (has-key $completions $words[1]) \x7b put $@completions[$words[1]] \x7d else \x7b put "
      ++ spaced (words .top) ++ " \x7d", "\x7d"]

def script : Shell → List String
  | .bash => bash
  | .elvish => elvish
  | .fish => fish
  | .powershell => powershell
  | .zsh => zsh

end Completion

end BarrelModule.CommandLine
