import WikiAxioms.Pattern.Property
import WikiAxioms.Pattern.Size
import WikiAxioms.Text.CaseVariant

/-!
# What one place of a pattern admits

A dot, a class or a property admits one character out of a set. Sets that are written out are known
as ranges. The sets of properties are known by their size only, so that together with others their
size is estimated.
-/

namespace WikiAxioms.Pattern

/-- A set of characters: ranges, and what properties add to them. Of the latter it is known how many
bytes they take backward, and how many all the other characters would take. -/
structure Content where
  ranges : CodePointRanges
  named : Nat
  others : Nat

namespace Content

def ofRanges (ranges : CodePointRanges) : Content := ⟨ranges.normalize, 0, 0⟩

def ofChar (c : Char) : Content := ofRanges [(c.toNat, c.toNat)]

def nothing : Content := ofRanges []

/-- Every character. -/
def all : Content := ofRanges [(0, CodePointRanges.lastCodePoint)]

/-- Two sizes in one: half of the smaller set is taken to be part of the larger one. -/
def joined (m n : Nat) : Nat := max m n + min m n / 2

def union (a b : Content) : Content :=
  ⟨a.ranges.union b.ranges, joined a.named b.named, joined a.others b.others⟩

/-- All characters but these. Ranges beside a property leave about as many gaps as they fill. -/
def complement (a : Content) : Content :=
  if a.named = 0 then ofRanges a.ranges.complement else ⟨a.ranges, a.others, a.named⟩

/-- What remains under an operator: of properties the smaller operand, or the left one. -/
def combine (operator : SetOperator) (a b : Content) : Content :=
  if a.named = 0 ∧ b.named = 0 then
    ofRanges <| match operator with
      | .intersection => a.ranges.intersection b.ranges
      | .difference => a.ranges.difference b.ranges
      | .symmetricDifference => a.ranges.symmetricDifference b.ranges
  else match operator with
    | .intersection => if a.named ≤ b.named then a else b
    | .difference => a
    | .symmetricDifference => a.union b

/-- The size of the automata that read one of the characters. Each range beside a property adds one
sequence of bytes. The forward automaton for a property is smaller, and taken to be half as
large. -/
def size (a : Content) : Size :=
  if a.named = 0 then .ofRanges a.ranges
  else
    let backward := a.named + forkBytes 1 * a.ranges.length
    ⟨backward / 2, backward⟩

end Content

/-- The space characters of all scripts. -/
def spaceRanges : CodePointRanges :=
  [(0x09, 0x0D), (0x20, 0x20), (0x85, 0x85), (0xA0, 0xA0), (0x1680, 0x1680), (0x2000, 0x200A),
   (0x2028, 0x2029), (0x202F, 0x202F), (0x205F, 0x205F), (0x3000, 0x3000)]

/-- The class that a letter names, in Unicode or in ASCII. In Unicode the digits and the characters
of words are known by their sizes. -/
def Shorthand.content (s : Shorthand) (unicode : Bool) : Content :=
  match s, unicode with
  | .digit, true => ⟨[], 5116, 12720⟩
  | .space, true => .ofRanges spaceRanges
  | .word, true => ⟨[], 49836, 46420⟩
  | .digit, false => .ofRanges [(0x30, 0x39)]
  | .space, false => .ofRanges [(0x09, 0x0D), (0x20, 0x20)]
  | .word, false => .ofRanges [(0x30, 0x39), (0x41, 0x5A), (0x5F, 0x5F), (0x61, 0x7A)]

/-- The properties whose characters are many and scattered: their names, the size of the automaton
for them and the size of the one for all other characters. -/
def largeProperties : List (String × Nat × Nat) :=
  [("graphemebase grbase", 55568, 50116), ("xidcontinue xidc", 49816, 46128),
   ("idcontinue idc", 49428, 45844), ("alphabetic alpha", 47072, 44508),
   ("xidstart xids", 43256, 43148), ("c other", 43024, 50756), ("idstart ids", 42868, 42864),
   ("l letter", 42732, 42836), ("cn unassigned", 42372, 50972), ("lo otherletter", 34076, 36720),
   ("lowercase lower", 28196, 31972), ("ll lowercaseletter", 27568, 31172),
   ("uppercase upper", 26976, 30720), ("lu uppercaseletter", 26496, 30072),
   ("changeswhenuppercased cwu", 25452, 29028), ("changeswhentitlecased cwt", 25384, 28892),
   ("changeswhencasefolded cwcf", 25064, 28536), ("changeswhenlowercased cwl", 24504, 27976),
   ("caseignorable ci", 24496, 34912), ("graphemeextend grext", 20196, 29688),
   ("mn nonspacingmark", 19348, 28876), ("m mark combiningmark", 18732, 27108),
   ("s symbol", 15792, 21316), ("diacritic dia", 13476, 23748), ("so othersymbol", 13088, 16940),
   ("zyyy common", 12608, 15548), ("p punctuation punct", 11884, 22828),
   ("po otherpunctuation", 11212, 21536), ("cased", 10372, 12428), ("mc spacingmark", 10308, 15932),
   ("n number", 9748, 20400), ("lc casedletter", 9576, 11324),
   ("extendedpictographic extpict", 8492, 10712), ("changeswhencasemapped cwcm", 8432, 10504),
   ("emoji", 7624, 10296), ("terminalpunctuation term", 7316, 15772), ("math", 7168, 9348),
   ("sentenceterminal sterm", 5796, 13172), ("bidimirrored bidim", 5560, 8336),
   ("nd decimalnumber digit", 5116, 12720), ("no othernumber", 5100, 11008),
   ("lm modifierletter", 4984, 10724), ("emojipresentation epres", 4820, 6828),
   ("sm mathsymbol", 3960, 6944), ("ideographic ideo", 3952, 3964),
   ("ps openpunctuation", 3644, 6040), ("hani han", 3620, 3632), ("arab arabic", 3580, 4780),
   ("pe closepunctuation", 3504, 5968), ("extender ext", 2980, 7820), ("latn latin", 2848, 4904),
   ("unifiedideograph uideo", 2776, 2824), ("zinh qaai inherited", 2408, 5400),
   ("softdotted sd", 2248, 5236), ("grek greek", 2244, 3960),
   ("emojimodifierbase ebase", 2144, 4468), ("sk modifiersymbol", 2020, 4500),
   ("ethi ethiopic", 2016, 3524), ("noncharactercodepoint nchar", 1992, 5356),
   ("patternsyntax patsyn", 1964, 3312), ("cf format", 1784, 4776),
   ("sc currencysymbol", 1720, 4720), ("dash", 1632, 4024),
   ("defaultignorablecodepoint di", 1476, 4200), ("hang hangul", 1456, 2672),
   ("pd dashpunctuation", 1392, 3608), ("cyrl cyrillic", 1244, 2964), ("kana katakana", 1220, 2940),
   ("nl letternumber", 1112, 3176)]

/-- The name of the set that a test is about, which is a property, a category or a script. -/
def Property.setName : Property → Text
  | named name => looseName name
  | valued name value =>
    if (words "gc generalcategory sc script scx scriptextensions").contains (looseName name) then
      looseName value
    else []

/-- The characters with a property. One that is not listed stands in a few places. -/
def Property.content (p : Property) : Content :=
  if p.setName = "any" then .all
  else if p.setName = "ascii" then .ofRanges [(0, 0x7F)]
  else match largeProperties.find? fun row => (words row.1).contains p.setName with
    | some (_, size, others) => ⟨[], size, others⟩
    | none => ⟨[], 350, 1400⟩

end WikiAxioms.Pattern
