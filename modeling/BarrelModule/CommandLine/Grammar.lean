import BarrelModule.Build

namespace BarrelModule.CommandLine

inductive Setting where
  | outputPath
  | definitionKey
  | directory
  | opening
  | ending
  | pattern
  deriving DecidableEq, Repr

inductive Switch where
  | recursive
  | denyDuplicates
  deriving DecidableEq, Repr

inductive Meaning where
  | setting (s : Setting)
  | switch (s : Switch)
  | verbose
  | help
  | version
  deriving DecidableEq, Repr

structure OptionEntry where
  meaning : Meaning
  short : Option Char
  longs : List String
  placeholder : String
  summary : String
  initial : Option String
  deriving Repr

inductive Command where
  | top
  | build
  | completions
  | help
  deriving DecidableEq, Repr

inductive Shell where
  | bash
  | elvish
  | fish
  | powershell
  | zsh
  deriving DecidableEq, Repr

namespace Shell

def all : List Shell := [.bash, .elvish, .fish, .powershell, .zsh]

def name : Shell → String
  | .bash => "bash"
  | .elvish => "elvish"
  | .fish => "fish"
  | .powershell => "powershell"
  | .zsh => "zsh"

def ofName? (s : String) : Option Shell := all.find? fun shell => shell.name == s

end Shell

namespace Command

def subcommands : List Command := [.build, .completions, .help]

def name : Command → String
  | .top => "barrel"
  | .build => "build"
  | .completions => "completions"
  | .help => "help"

def ofName? (s : String) : Option Command := subcommands.find? fun c => c.name == s

def summary : Command → String
  | .top => "Generate a barrel module for a directory of meta definitions"
  | .build => "Builds the barrel for meta definitions"
  | .completions => "Generate shell completions"
  | .help => "Print this message or the help of the given subcommand(s)"

end Command

def verboseEntry : OptionEntry :=
  ⟨.verbose, some 'v', ["verbose"], "", "Increase log verbosity (-v info, -vv debug)", none⟩

def helpEntry : OptionEntry := ⟨.help, some 'h', ["help"], "", "Print help", none⟩

def versionEntry : OptionEntry := ⟨.version, some 'V', ["version"], "", "Print version", none⟩

def buildEntries : List OptionEntry := [
  ⟨.setting .outputPath, some 'o', ["outputPath", "output-path"], "OUTPUT_PATH",
    "The path to write the barrel file to (empty prints it instead)", some "./barrel.js"⟩,
  verboseEntry,
  ⟨.setting .definitionKey, some 'i', ["definitionKey", "definition-key"], "DEFINITION_KEY",
    "The key representing a unique ID for each definition (empty exports an array)", some "id"⟩,
  ⟨.setting .directory, some 'd', ["directory"], "DIRECTORY",
    "The path to the directory containing the meta definition files", some "."⟩,
  ⟨.setting .opening, some 'p', ["prefix"], "PREFIX", "The prefix to look for in each file name", some ""⟩,
  ⟨.setting .ending, some 's', ["suffix"], "SUFFIX", "The suffix to look for in each file name", some ""⟩,
  ⟨.setting .pattern, some 'P', ["pattern"], "PATTERN",
    "A regular expression to test each file name against (overrides prefix and suffix)", none⟩,
  ⟨.switch .recursive, some 'r', ["recursive"], "", "Whether to search recursively", none⟩,
  ⟨.switch .denyDuplicates, none, ["deny-duplicates"], "",
    "Fail when two files derive the same import name", none⟩,
  helpEntry]

def Command.entries : Command → List OptionEntry
  | .top => [verboseEntry, helpEntry, versionEntry]
  | .build => buildEntries
  | .completions => [verboseEntry, helpEntry]
  | .help => []

def Command.long? (c : Command) (name : String) : Option Meaning :=
  (c.entries.find? fun e => e.longs.contains name).map OptionEntry.meaning

def Command.short? (c : Command) (letter : Char) : Option Meaning :=
  (c.entries.find? fun e => e.short == some letter).map OptionEntry.meaning

def Setting.initial? (s : Setting) : Option String :=
  (buildEntries.find? fun e => e.meaning == .setting s).bind OptionEntry.initial

end BarrelModule.CommandLine
