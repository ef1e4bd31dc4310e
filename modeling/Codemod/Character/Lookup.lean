import Codemod.Character.Category
import Codemod.Character.Script
import Codemod.Character.Property
import Codemod.Character.Age
import Codemod.Character.Boundary

/-!
Classes of characters by name. A name is read without regard to case, blanks, underscores and
hyphens, and a leading `is` is dropped.
-/
namespace Codemod.Character

inductive NameError where
  | property
  | value
  deriving DecidableEq, Repr

def plainName (cs : List Char) : List Char :=
  (cs.filter fun c => c.toNat < 128 && c != ' ' && c != '_' && c != '-').map Char.toLower

def normalName (name : String) : String :=
  match name.toList with
  | a :: b :: rest =>
    if a.toLower = 'i' && b.toLower = 's' then
      let plain := plainName rest
      String.ofList (if plain = ['c'] then ['i', 's', 'c'] else plain)
    else String.ofList (plainName (a :: b :: rest))
  | short => String.ofList (plainName short)

def propertyNames : List String :=
  ["age", "alphabetic alpha", "asciihexdigit ahex", "bidiclass bc", "bidicontrol bidic",
   "bidimirrored bidim", "bidimirroringglyph bmg", "bidipairedbracket bpb",
   "bidipairedbrackettype bpt", "block blk", "canonicalcombiningclass ccc", "cased",
   "casefolding cf", "caseignorable ci", "changeswhencasefolded cwcf",
   "changeswhencasemapped cwcm", "changeswhenlowercased cwl", "changeswhennfkccasefolded cwkcf",
   "changeswhentitlecased cwt", "changeswhenuppercased cwu", "compositionexclusion ce", "dash",
   "decompositionmapping dm", "decompositiontype dt", "defaultignorablecodepoint di",
   "deprecated dep", "diacritic dia", "eastasianwidth ea", "emoji", "emojicomponent ecomp",
   "emojimodifier emod", "emojimodifierbase ebase", "emojipresentation epres",
   "equivalentunifiedideograph equideo", "expandsonnfc xonfc", "expandsonnfd xonfd",
   "expandsonnfkc xonfkc", "expandsonnfkd xonfkd", "extendedpictographic extpict", "extender ext",
   "fcnfkcclosure fcnfkc", "fullcompositionexclusion compex", "generalcategory gc",
   "graphemebase grbase", "graphemeclusterbreak gcb", "graphemeextend grext",
   "graphemelink grlink", "hangulsyllabletype hst", "hexdigit hex", "hyphen",
   "idcompatmathcontinue", "idcompatmathstart", "idcontinue idc", "ideographic ideo",
   "idsbinaryoperator idsb", "idstart ids", "idstrinaryoperator idst", "idsunaryoperator idsu",
   "indicconjunctbreak incb", "indicpositionalcategory inpc", "indicsyllabiccategory insc",
   "isocomment isc", "jamoshortname jsn", "joincontrol joinc", "joininggroup jg",
   "joiningtype jt", "kaccountingnumeric cjkaccountingnumeric",
   "kcompatibilityvariant cjkcompatibilityvariant", "kehcat", "kehdesc", "kehhg", "kehifao",
   "kehjsesh", "kehnomirror", "kehnorotate", "kiicore cjkiicore", "kirggsource cjkirggsource",
   "kirghsource cjkirghsource", "kirgjsource cjkirgjsource", "kirgkpsource cjkirgkpsource",
   "kirgksource cjkirgksource", "kirgmsource cjkirgmsource", "kirgssource cjkirgssource",
   "kirgtsource cjkirgtsource", "kirguksource cjkirguksource", "kirgusource cjkirgusource",
   "kirgvsource cjkirgvsource", "kothernumeric cjkothernumeric",
   "kprimarynumeric cjkprimarynumeric", "krsunicode cjkrsunicode unicoderadicalstroke urs",
   "linebreak lb", "logicalorderexception loe", "lowercase lower", "lowercasemapping lc", "math",
   "modifiercombiningmark mcm", "name na", "namealias", "nfcquickcheck nfcqc",
   "nfdquickcheck nfdqc", "nfkccasefold nfkccf", "nfkcquickcheck nfkcqc",
   "nfkcsimplecasefold nfkcscf", "nfkdquickcheck nfkdqc", "noncharactercodepoint nchar",
   "numerictype nt", "numericvalue nv", "otheralphabetic oalpha",
   "otherdefaultignorablecodepoint odi", "othergraphemeextend ogrext", "otheridcontinue oidc",
   "otheridstart oids", "otherlowercase olower", "othermath omath", "otheruppercase oupper",
   "patternsyntax patsyn", "patternwhitespace patws", "prependedconcatenationmark pcm",
   "quotationmark qmark", "radical", "regionalindicator ri", "script sc", "scriptextensions scx",
   "sentencebreak sb", "sentenceterminal sterm", "simplecasefolding scf sfc",
   "simplelowercasemapping slc", "simpletitlecasemapping stc", "simpleuppercasemapping suc",
   "softdotted sd", "terminalpunctuation term", "titlecasemapping tc", "unicode1name na1",
   "unifiedideograph uideo", "uppercase upper", "uppercasemapping uc", "variationselector vs",
   "verticalorientation vo", "whitespace wspace space", "wordbreak wb", "xidcontinue xidc",
   "xidstart xids"]

def property? (name : String) : Option String :=
  (propertyNames.find? fun row => (wordsOf row).contains name.toList).bind fun row =>
    (wordsOf row).head?.map String.ofList

def category (names : List String) : CharSet :=
  CharSet.unions (names.filterMap (find? categoryRows))

def assigned : CharSet :=
  CharSet.ofSpans (categoryRows.flatMap fun row => (setOf row.members).spans)

def broadCategories : List (String × List String) :=
  [("l letter", ["lu", "ll", "lt", "lm", "lo"]),
   ("lc casedletter", ["lu", "ll", "lt"]),
   ("m mark combiningmark", ["mn", "mc", "me"]),
   ("n number", ["nd", "nl", "no"]),
   ("p punctuation punct", ["pc", "pd", "ps", "pe", "pi", "pf", "po"]),
   ("s symbol", ["sm", "sc", "sk", "so"]),
   ("z separator", ["zs", "zl", "zp"])]

/-- The members of a category, if the name is one. Surrogates are no characters, so that their
category, though it has a name, has no entry. -/
def category? (name : String) : Option (Except NameError CharSet) :=
  if name = "any" then some (.ok CharSet.all)
  else if name = "assigned" then some (.ok assigned)
  else if name = "ascii" then some (.ok ⟨[⟨0, 127⟩]⟩)
  else if name = "cn" || name = "unassigned" then some (.ok assigned.compl)
  else if name = "c" || name = "other" then
    some (.ok (assigned.compl.union (category ["cc", "cf", "co"])))
  else if name = "cs" || name = "surrogate" then some (.error .value)
  else match broadCategories.find? fun entry => (wordsOf entry.1).contains name.toList with
    | some (_, parts) => some (.ok (category parts))
    | none => (find? categoryRows name).map .ok

def script? (name : String) : Option (Except NameError CharSet) :=
  if ["unknown", "zzzz", "hrkt", "katakanaorhiragana"].contains name then some (.error .value)
  else (find? scriptRows name).map .ok

def scriptUse? (name : String) : Option CharSet :=
  match find? scriptUseRows name with
  | some s => some s
  | none => find? scriptRows name

def listed (name : String) : CharSet := (find? propertyRows name).getD CharSet.empty

def lowercase : CharSet := (category ["ll"]).union (listed "otherlowercase")

def uppercase : CharSet := (category ["lu"]).union (listed "otheruppercase")

def cased : CharSet := CharSet.unions [lowercase, uppercase, category ["lt"]]

def alphabetic : CharSet :=
  CharSet.unions [cased, category ["lm", "lo", "nl"], listed "otheralphabetic"]

def graphemeExtend : CharSet :=
  CharSet.unions [category ["me", "mn"], listed "othergraphemeextend"]

def patternReserved : CharSet := (listed "patternsyntax").union (listed "patternwhitespace")

def idStart : CharSet :=
  (CharSet.unions [category ["lu", "ll", "lt", "lm", "lo", "nl"],
    listed "otheridstart"]).diff patternReserved

def idContinue : CharSet :=
  (CharSet.unions [idStart, category ["mn", "mc", "nd", "pc"],
    listed "otheridcontinue"]).diff patternReserved

def idUnstable : CharSet :=
  setOf "37A 309B-309C FC5E-FC63 FDFA-FDFB FE70-FE7E/2"

def binary? (property : String) : Option CharSet :=
  match property with
  | "alphabetic" => some alphabetic
  | "lowercase" => some lowercase
  | "uppercase" => some uppercase
  | "cased" => some cased
  | "caseignorable" =>
    some ((category ["mn", "me", "cf", "lm", "sk"]).union
      (setOf "27 2E 3A B7 387 55F 5F4 2018-2019 2024 2027 FE13 FE52 FE55 FF07 FF0E FF1A"))
  | "changeswhencasemapped" =>
    some (CharSet.unions [listed "changeswhenlowercased", listed "changeswhenuppercased",
      listed "changeswhentitlecased"])
  | "defaultignorablecodepoint" =>
    some ((CharSet.unions [listed "otherdefaultignorablecodepoint", category ["cf"],
      listed "variationselector"]).diff
        (CharSet.unions [listed "whitespace", setOf "FFF9-FFFB 13430-13440",
          listed "prependedconcatenationmark"]))
  | "graphemebase" =>
    some (assigned.diff (CharSet.unions [category ["cc", "cf", "co", "zl", "zp"], graphemeExtend]))
  | "graphemeextend" => some graphemeExtend
  | "math" => some ((category ["sm"]).union (listed "othermath"))
  | "idstart" => some idStart
  | "idcontinue" => some idContinue
  | "xidstart" => some (idStart.diff (idUnstable.union (setOf "E33 EB3 FF9E-FF9F")))
  | "xidcontinue" => some (idContinue.diff idUnstable)
  | _ => find? propertyRows property

def ageUpTo? (name : String) : Option CharSet :=
  match ageRows.findIdx? (·.isNamed name) with
  | some i => some (CharSet.unions ((ageRows.take (i + 1)).map fun row => setOf row.members))
  | none => none

def cluster? (name : String) : Option CharSet :=
  if name = "lvt" then
    (find? clusterRows "lv").map fun lv => (setOf "AC00-D7A3").diff lv
  else find? clusterRows name

/-- The class that a single name denotes: a property, a category or a script, in this order. The
names `cf`, `sc` and `lc` are categories although they also abbreviate properties. -/
def named (name : String) : Except NameError CharSet :=
  let key := normalName name
  let known := if key = "cf" || key = "sc" || key = "lc" then none else property? key
  match known with
  | some property =>
    match binary? property with
    | some s => .ok s
    | none => .error .property
  | none =>
    match category? key with
    | some s => s
    | none =>
      match script? key with
      | some s => s
      | none => .error .property

def valued (property value : String) : Except NameError CharSet :=
  let key := normalName value
  match property? (normalName property) with
  | none => .error .property
  | some "generalcategory" => (category? key).getD (.error .value)
  | some "script" => (script? key).getD (.error .value)
  | some "scriptextensions" => match scriptUse? key with
    | some s => .ok s
    | none => .error .value
  | some "age" => match ageUpTo? key with
    | some s => .ok s
    | none => .error .value
  | some "graphemeclusterbreak" => match cluster? key with
    | some s => .ok s
    | none => .error .value
  | some "wordbreak" => match find? wordRows key with
    | some s => .ok s
    | none => .error .value
  | some "sentencebreak" => match find? sentenceRows key with
    | some s => .ok s
    | none => .error .value
  | some _ => .error .value

def word : CharSet :=
  CharSet.unions [alphabetic, category ["mn", "mc", "me", "nd", "pc"], listed "joincontrol"]

def digit : CharSet := category ["nd"]

def space : CharSet := listed "whitespace"

def alphanumeric : CharSet := alphabetic.union (category ["nd", "nl", "no"])

end Codemod.Character
