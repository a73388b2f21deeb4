import BarrelModule.Unicode.CharSet
import BarrelModule.Unicode.PropertyRuns
import BarrelModule.Unicode.Script

namespace BarrelModule.Unicode

namespace CharSet

def letter : CharSet := ofCategories
  [.uppercaseLetter, .lowercaseLetter, .titlecaseLetter, .modifierLetter, .otherLetter]

def assigned : CharSet := ofCategories Category.all

def alphabetic : CharSet := unions
  [letter, ofCategories [.letterNumber], .runs PropertyRuns.otherAlphabetic]

def lowercase : CharSet := .union (ofCategories [.lowercaseLetter]) (.runs PropertyRuns.otherLowercase)

def uppercaseLetters : CharSet :=
  .union (ofCategories [.uppercaseLetter]) (.runs PropertyRuns.otherUppercase)

def math : CharSet := .union (ofCategories [.mathSymbol]) (.runs PropertyRuns.otherMath)

def cased : CharSet := unions [lowercase, uppercaseLetters, ofCategories [.titlecaseLetter]]

def caseIgnorable : CharSet := .union
  (ofCategories [.nonspacingMark, .enclosingMark, .format, .modifierLetter, .modifierSymbol])
  (.runs PropertyRuns.midWord)

def idStart : CharSet := difference
  (unions [letter, ofCategories [.letterNumber], .runs PropertyRuns.otherIdStart])
  (.runs PropertyRuns.notIdStart)

def idContinue : CharSet := unions
  [idStart, ofCategories [.nonspacingMark, .spacingMark, .decimalNumber, .connectorPunctuation],
    .runs PropertyRuns.otherIdContinue]

def xidStart : CharSet := difference idStart (.runs PropertyRuns.notXidStart)

def xidContinue : CharSet := difference idContinue (.runs PropertyRuns.notXidContinue)

def graphemeExtend : CharSet := .union (ofCategories [.enclosingMark, .nonspacingMark])
  (.runs PropertyRuns.otherGraphemeExtend)

def graphemeBase : CharSet := difference
  (difference assigned (ofCategories [.control, .format, .privateUse, .lineSeparator, .paragraphSeparator]))
  graphemeExtend

def mark : CharSet := ofCategories [.nonspacingMark, .spacingMark, .enclosingMark]

def word : CharSet := unions
  [alphabetic, mark, ofCategories [.decimalNumber, .connectorPunctuation], .runs PropertyRuns.joinControl]

def digit : CharSet := ofCategories [.decimalNumber]

def whiteSpace : CharSet := .runs PropertyRuns.whiteSpace

def numeric : CharSet := ofCategories [.decimalNumber, .letterNumber, .otherNumber]

end CharSet

namespace Property

open CharSet

def binary : List (List String × CharSet) := [
  (["ahex", "asciihexdigit"], .runs PropertyRuns.asciiHexDigit),
  (["bidic", "bidicontrol"], .runs PropertyRuns.bidiControl),
  (["bidim", "bidimirrored"], .runs PropertyRuns.bidiMirrored),
  (["cwcf", "changeswhencasefolded"], .runs PropertyRuns.changesWhenCasefolded),
  (["cwcm", "changeswhencasemapped"], .runs PropertyRuns.changesWhenCasemapped),
  (["cwl", "changeswhenlowercased"], .runs PropertyRuns.changesWhenLowercased),
  (["cwt", "changeswhentitlecased"], .runs PropertyRuns.changesWhenTitlecased),
  (["cwu", "changeswhenuppercased"], .runs PropertyRuns.changesWhenUppercased),
  (["dash"], .runs PropertyRuns.dash),
  (["di", "defaultignorablecodepoint"], .runs PropertyRuns.defaultIgnorableCodePoint),
  (["dep", "deprecated"], .runs PropertyRuns.deprecated),
  (["dia", "diacritic"], .runs PropertyRuns.diacritic),
  (["emoji"], .runs PropertyRuns.emoji),
  (["ecomp", "emojicomponent"], .runs PropertyRuns.emojiComponent),
  (["emod", "emojimodifier"], .runs PropertyRuns.emojiModifier),
  (["ebase", "emojimodifierbase"], .runs PropertyRuns.emojiModifierBase),
  (["epres", "emojipresentation"], .runs PropertyRuns.emojiPresentation),
  (["extpict", "extendedpictographic"], .runs PropertyRuns.extendedPictographic),
  (["ext", "extender"], .runs PropertyRuns.extender),
  (["hex", "hexdigit"], .runs PropertyRuns.hexDigit),
  (["hyphen"], .runs PropertyRuns.hyphen),
  (["idsb", "idsbinaryoperator"], .runs PropertyRuns.idsBinaryOperator),
  (["idst", "idstrinaryoperator"], .runs PropertyRuns.idsTrinaryOperator),
  (["ideo", "ideographic"], .runs PropertyRuns.ideographic),
  (["joinc", "joincontrol"], .runs PropertyRuns.joinControl),
  (["loe", "logicalorderexception"], .runs PropertyRuns.logicalOrderException),
  (["nchar", "noncharactercodepoint"], .runs PropertyRuns.noncharacterCodePoint),
  (["patsyn", "patternsyntax"], .runs PropertyRuns.patternSyntax),
  (["patws", "patternwhitespace"], .runs PropertyRuns.patternWhiteSpace),
  (["pcm", "prependedconcatenationmark"], .runs PropertyRuns.prependedConcatenationMark),
  (["qmark", "quotationmark"], .runs PropertyRuns.quotationMark),
  (["radical"], .runs PropertyRuns.radical),
  (["ri", "regionalindicator"], .runs PropertyRuns.regionalIndicator),
  (["sterm", "sentenceterminal"], .runs PropertyRuns.sentenceTerminal),
  (["sd", "softdotted"], .runs PropertyRuns.softDotted),
  (["term", "terminalpunctuation"], .runs PropertyRuns.terminalPunctuation),
  (["uideo", "unifiedideograph"], .runs PropertyRuns.unifiedIdeograph),
  (["vs", "variationselector"], .runs PropertyRuns.variationSelector),
  (["wspace", "whitespace", "space"], .runs PropertyRuns.whiteSpace),
  (["alpha", "alphabetic"], alphabetic),
  (["lower", "lowercase"], lowercase),
  (["upper", "uppercase"], uppercaseLetters),
  (["math"], math),
  (["cased"], cased),
  (["ci", "caseignorable"], caseIgnorable),
  (["ids", "idstart"], idStart),
  (["idc", "idcontinue"], idContinue),
  (["xids", "xidstart"], xidStart),
  (["xidc", "xidcontinue"], xidContinue),
  (["grext", "graphemeextend"], graphemeExtend),
  (["grbase", "graphemebase"], graphemeBase)]

def named? (table : List (List String × CharSet)) (name : String) : Option CharSet :=
  table.findSome? fun (spellings, set) => if spellings.contains name then some set else none

def categories : List (List String × CharSet) :=
  [(["any"], .complement .empty), (["assigned"], assigned),
    (["ascii"], range (Char.ofNat 0) (Char.ofNat 0x7F)),
    (["cn", "unassigned"], .complement assigned),
    (["c", "other"], .union (.complement assigned) (ofCategories [.control, .format, .privateUse]))]
  ++ Category.all.map (fun c => (c.spellings, .runs c.runs))
  ++ Category.groups.map (fun (spellings, cs) => (spellings, ofCategories cs))

def scripts : List (List String × CharSet) :=
  Script.all.map fun (spellings, rs) => (spellings, .runs rs)

def scriptExtensions : List (List String × CharSet) :=
  let listed : Runs := Script.extensions.map fun (first, last, _) => (first, last, 1)
  Script.all.map fun (spellings, rs) =>
    let more : Runs := Script.extensions.filterMap fun (first, last, users) =>
      if users.any spellings.contains then some (first, last, 1) else none
    (spellings, .union (difference (.runs rs) (.runs listed)) (.runs more))

def canonical (name : List Char) : String :=
  let kept := name.filter fun c => c.toNat ≤ 0x7F && c ≠ ' ' && c ≠ '_' && c ≠ '-'
  let lower := kept.map Char.toLower
  match name.map Char.toLower with
  | 'i' :: 's' :: _ =>
    let rest := lower.drop 2
    if rest = ['c'] then "isc" else String.ofList rest
  | _ => String.ofList lower

/-- The set that a single name stands for. The short names of two categories and of a group are also
short names of properties with values, and mean the categories. -/
def ofName? (name : List Char) : Option CharSet :=
  let n := canonical name
  if n = "cf" || n = "sc" || n = "lc" then (named? categories n).or (named? scripts n)
  else (named? binary n).or ((named? categories n).or (named? scripts n))

def ofValue? (property value : List Char) : Option CharSet :=
  let v := canonical value
  match canonical property with
  | "gc" | "generalcategory" => named? categories v
  | "sc" | "script" => named? scripts v
  | "scx" | "scriptextensions" => named? scriptExtensions v
  | _ => none

end Property

end BarrelModule.Unicode
