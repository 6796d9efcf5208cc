import WikiAxioms.Pattern.Fault
import WikiAxioms.Pattern.Tree

/-!
# Names of Unicode properties

Which properties a pattern can ask for. Names are compared in a loose form, in which case, blanks,
dashes and a leading `is` count for nothing; the tables hold names in that form.
-/

namespace WikiAxioms.Pattern

/-- The loose form of a name. The abbreviation `isc` keeps its lead, for `c` is another name. -/
def looseName (name : Text) : Text :=
  let plain (t : Text) : Text :=
    (t.filter fun c => c.toNat < 0x80 && c != ' ' && c != '_' && c != '-').map Char.toLower
  match name with
  | i :: s :: rest =>
    if i.toLower = 'i' && s.toLower = 's' then
      if plain rest = ['c'] then "isc" else plain rest
    else plain name
  | _ => plain name

def words (table : String) : List Text := Text.runs isSpace table

/-- Properties that a character has or has not. -/
def binaryNames : List Text := words <|
  "ahex alpha alphabetic asciihexdigit bidic bidicontrol bidim bidimirrored cased caseignorable " ++
    "changeswhencasefolded changeswhencasemapped changeswhenlowercased changeswhentitlecased " ++
    "changeswhenuppercased ci cwcf cwcm cwl cwt cwu dash defaultignorablecodepoint dep " ++
    "deprecated di dia diacritic ebase ecomp emod emoji emojicomponent emojimodifier " ++
    "emojimodifierbase emojipresentation epres ext extendedpictographic extender extpict " ++
    "graphemebase graphemeextend graphemelink grbase grext grlink hex hexdigit hyphen idc " ++
    "idcompatmathcontinue idcompatmathstart idcontinue ideo ideographic ids idsb " ++
    "idsbinaryoperator idst idstart idstrinaryoperator idsu idsunaryoperator joinc joincontrol " ++
    "loe logicalorderexception lower lowercase math mcm modifiercombiningmark nchar " ++
    "noncharactercodepoint oalpha odi ogrext oidc oids olower omath otheralphabetic " ++
    "otherdefaultignorablecodepoint othergraphemeextend otheridcontinue otheridstart " ++
    "otherlowercase othermath otheruppercase oupper patsyn patternsyntax patternwhitespace " ++
    "patws pcm prependedconcatenationmark qmark quotationmark radical regionalindicator ri sd " ++
    "sentenceterminal softdotted space sterm term terminalpunctuation uideo unifiedideograph " ++
    "upper uppercase variationselector vs whitespace wspace xidc xidcontinue xids xidstart"

/-- Properties of all other kinds. -/
def otherNames : List Text := words <|
  "age bc bidiclass bidimirroringglyph bidipairedbracket " ++
    "bidipairedbrackettype blk block bmg bpb bpt canonicalcombiningclass casefolding ccc ce cf " ++
    "changeswhennfkccasefolded cjkaccountingnumeric cjkcompatibilityvariant cjkiicore " ++
    "cjkirggsource cjkirghsource cjkirgjsource cjkirgkpsource cjkirgksource cjkirgmsource " ++
    "cjkirgtsource cjkirgusource cjkirgvsource cjkothernumeric cjkprimarynumeric cjkrsunicode " ++
    "compex compositionexclusion cwkcf decompositionmapping decompositiontype dm dt ea " ++
    "eastasianwidth equideo equivalentunifiedideograph expandsonnfc expandsonnfd expandsonnfkc " ++
    "expandsonnfkd fcnfkc fcnfkcclosure fullcompositionexclusion gc gcb generalcategory " ++
    "graphemeclusterbreak hangulsyllabletype hst incb indicconjunctbreak " ++
    "indicpositionalcategory indicsyllabiccategory inpc insc isc jamoshortname jg joininggroup " ++
    "joiningtype jsn jt kaccountingnumeric kcompatibilityvariant kiicore kirggsource " ++
    "kirghsource kirgjsource kirgkpsource kirgksource kirgmsource kirgtsource kirgusource " ++
    "kirgvsource kothernumeric kprimarynumeric krsunicode lb lc linebreak lowercasemapping na " ++
    "na1 name namealias nfcqc nfcquickcheck nfdqc nfdquickcheck nfkccasefold nfkccf nfkcqc " ++
    "nfkcquickcheck nfkcscf nfkcsimplecasefold nfkdqc nfkdquickcheck nt numerictype " ++
    "numericvalue nv ocomment sb sc scf script scriptextensions scx sentencebreak sfc " ++
    "simplecasefolding simplelowercasemapping simpletitlecasemapping simpleuppercasemapping slc " ++
    "stc suc tc titlecasemapping uc unicode1name unicoderadicalstroke uppercasemapping urs " ++
    "verticalorientation vo wb wordbreak xonfc xonfd xonfkc xonfkd"

/-- General categories that hold characters, and three sets that count as such. -/
def categoryNames : List Text := words <|
  "any ascii assigned c casedletter cc cf closepunctuation cn cntrl co combiningmark " ++
    "connectorpunctuation control currencysymbol dashpunctuation decimalnumber digit " ++
    "enclosingmark finalpunctuation format initialpunctuation l lc letter letternumber " ++
    "lineseparator ll lm lo lowercaseletter lt lu m mark mathsymbol mc me mn modifierletter " ++
    "modifiersymbol n nd nl no nonspacingmark number openpunctuation other otherletter " ++
    "othernumber otherpunctuation othersymbol p paragraphseparator pc pd pe pf pi po privateuse " ++
    "ps punct punctuation s sc separator sk sm so spaceseparator spacingmark symbol " ++
    "titlecaseletter unassigned uppercaseletter z zl zp zs"

/-- Categories and scripts that are named but hold no characters. -/
def emptyNames : List Text := words
  "cs hrkt katakanaorhiragana surrogate unknown zzzz"

/-- Scripts. -/
def scriptNames : List Text := words <|
  "adlam adlm aghb ahom anatolianhieroglyphs arab arabic armenian armi armn avestan avst bali " ++
    "balinese bamu bamum bass bassavah batak batk beng bengali bhaiksuki bhks bopo bopomofo " ++
    "brah brahmi brai braille bugi buginese buhd buhid cakm canadianaboriginal cans cari carian " ++
    "caucasianalbanian chakma cham cher cherokee chorasmian chrs common copt coptic cpmn cprt " ++
    "cuneiform cypriot cyprominoan cyrillic cyrl deseret deva devanagari diak divesakuru dogr " ++
    "dogra dsrt dupl duployan egyp egyptianhieroglyphs elba elbasan elym elymaic ethi ethiopic " ++
    "gara garay geor georgian glag glagolitic gong gonm goth gothic gran grantha greek grek " ++
    "gujarati gujr gukh gunjalagondi gurmukhi guru gurungkhema han hang hangul hani " ++
    "hanifirohingya hano hanunoo hatr hatran hebr hebrew hira hiragana hluw hmng hmnp hung " ++
    "imperialaramaic inherited inscriptionalpahlavi inscriptionalparthian ital java javanese " ++
    "kaithi kali kana kannada katakana kawi kayahli khar kharoshthi khitansmallscript khmer " ++
    "khmr khoj khojki khudawadi kiratrai kits knda krai kthi lana lao laoo latin latn lepc " ++
    "lepcha limb limbu lina linb lineara linearb lisu lyci lycian lydi lydian mahajani mahj " ++
    "maka makasar malayalam mand mandaic mani manichaean marc marchen masaramgondi medefaidrin " ++
    "medf meeteimayek mend mendekikakui merc mero meroiticcursive meroitichieroglyphs miao mlym " ++
    "modi mong mongolian mro mroo mtei mult multani myanmar mymr nabataean nagm nagmundari nand " ++
    "nandinagari narb nbat newa newtailue nko nkoo nshu nushu nyiakengpuachuehmong ogam ogham " ++
    "olchiki olck oldhungarian olditalic oldnortharabian oldpermic oldpersian oldsogdian " ++
    "oldsoutharabian oldturkic olduyghur olonal onao oriya orkh orya osage osge osma osmanya " ++
    "ougr pahawhhmong palm palmyrene pauc paucinhau perm phag phagspa phli phlp phnx phoenician " ++
    "plrd prti psalterpahlavi qaac qaai rejang rjng rohg runic runr samaritan samr sarb saur " ++
    "saurashtra sgnw sharada shavian shaw shrd sidd siddham signwriting sind sinh sinhala sogd " ++
    "sogdian sogo sora sorasompeng soyo soyombo sund sundanese sunu sunuwar sylo sylotinagri " ++
    "syrc syriac tagalog tagb tagbanwa taile taitham taiviet takr takri tale talu tamil taml " ++
    "tang tangsa tangut tavt telu telugu tfng tglg thaa thaana thai tibetan tibt tifinagh tirh " ++
    "tirhuta tnsa todhri todr toto tulutigalari tutg ugar ugaritic vai vaii vith vithkuqi " ++
    "wancho wara warangciti wcho xpeo xsux yezi yezidi yi yiii zanabazarsquare zanb zinh zyyy"

/-- Versions in which characters were first assigned. -/
def ageNames : List Text := words <|
  "1.1 10.0 11.0 12.0 12.1 13.0 14.0 15.0 15.1 16.0 2.0 2.1 3.0 3.1 3.2 4.0 4.1 5.0 5.1 5.2 " ++
    "6.0 6.1 6.2 6.3 7.0 8.0 9.0 v100 v11 v110 v120 v121 v130 v140 v150 v151 v160 v20 v21 v30 " ++
    "v31 v32 v40 v41 v50 v51 v52 v60 v61 v62 v63 v70 v80 v90"

/-- Roles of characters at the edges of grapheme clusters. -/
def clusterNames : List Text := words
  "cn control cr ex extend l lf lv lvt pp prepend regionalindicator ri sm spacingmark t v zwj"

/-- Roles of characters at the edges of words. -/
def wordNames : List Text := words <|
  "aletter cr doublequote dq ex extend extendnumlet fo format hebrewletter hl ka katakana le " ++
    "lf mb midletter midnum midnumlet ml mn newline nl nu numeric regionalindicator ri " ++
    "singlequote sq wsegspace zwj"

/-- Roles of characters at the edges of sentences. -/
def sentenceNames : List Text := words <|
  "at aterm cl close cr ex extend fo format le lf lo lower nu numeric oletter sc scontinue se " ++
    "sep sp st sterm up upper"

/-- The values that a property can be asked for, if it can be asked for any. -/
def valuesOf (name : Text) : List Text :=
  if (words "gc generalcategory").contains name then categoryNames
  else if (words "sc script scx scriptextensions").contains name then scriptNames
  else if name = "age" then ageNames
  else if (words "gcb graphemeclusterbreak").contains name then clusterNames
  else if (words "wb wordbreak").contains name then wordNames
  else if (words "sb sentencebreak").contains name then sentenceNames
  else []

/-- Names that stand for a category where no value is given, although properties have them too. -/
def categoriesFirst : List Text := words "cf sc lc"

/-- Says whether there is such a property. -/
def Property.check : Property → Except Fault Unit
  | named name =>
    let name := looseName name
    if binaryNames.contains name then .ok ()
    else if otherNames.contains name && !categoriesFirst.contains name then .error .propertyUnknown
    else if categoryNames.contains name || scriptNames.contains name then .ok ()
    else if emptyNames.contains name then .error .propertyValueUnknown
    else .error .propertyUnknown
  | valued name value =>
    let name := looseName name
    if (valuesOf name).contains (looseName value) then .ok ()
    else if binaryNames.contains name || otherNames.contains name then .error .propertyValueUnknown
    else .error .propertyUnknown

end WikiAxioms.Pattern
