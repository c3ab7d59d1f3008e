import PageCheck.Pattern.CharSet
import PageCheck.Unicode.Property
import PageCheck.Unicode.Prose
import PageCheck.Unicode.Script
import PageCheck.Unicode.Segmentation

/-!
# Character properties by name

A property is asked for by the name of a yes-or-no property, a category, a group of categories or a
script, or as the value of one of the properties that have many. Names are compared in lower case,
without blanks, underscores, hyphens and a leading `is`.

The properties that are made of others are put together here as the standard defines them.
-/

namespace PageCheck.Pattern

open Unicode (GeneralCategory NamedTable ages graphemeTables lowerTable otherAlphabetic
  otherExtenders otherLowercase otherUppercase propertyTables scriptExtensions scripts
  sentenceTables wordTables)

/-- Why a property is not known. -/
inductive PropertyFault
  | unknownProperty
  | unknownValue
deriving Repr, DecidableEq

/-- A name in lower case, without blanks, underscores, hyphens and characters beyond ASCII. -/
def denseName (name : List Char) : List Char :=
  (name.filter fun c => c != ' ' && c != '_' && c != '-' && c.toNat < 0x80).map Char.toLower

/-- A name as names of properties are compared. -/
def normalName (name : List Char) : List Char :=
  match name with
  | first :: second :: rest =>
    if first.toLower = 'i' ∧ second.toLower = 's' ∧ denseName rest ≠ ['c'] then denseName rest
    else denseName name
  | _ => denseName name

/-- Whether a normal name is one of some names. -/
def isOneOf (name : List Char) (names : List String) : Bool :=
  names.any fun other => normalName other.toList == name

/-- The set of the first table that goes by a normal name. -/
def tableSet? (tables : List NamedTable) (name : List Char) : Option CharSet :=
  (tables.find? fun entry => isOneOf name entry.names).map fun entry => CharSet.ofText entry.table

/-- The set of the property whose table goes by a name. -/
def propertyNamed (name : String) : CharSet :=
  (tableSet? propertyTables (normalName name.toList)).getD CharSet.empty

/-- The set of some characters and ranges, as tables write them. -/
def written (table : String) : CharSet := CharSet.ofText table

/-! ### Properties made of others -/

/-- White space and signs that patterns of programs are made of. -/
def patternSigns : CharSet :=
  (propertyNamed "Pattern_Syntax").union (propertyNamed "Pattern_White_Space")

/-- Characters with case. -/
def cased : CharSet :=
  CharSet.lowercase.union (CharSet.uppercase.union (CharSet.ofCategories [.titlecaseLetter]))

/-- Characters that are passed over when the end of a word is looked for. -/
def caseIgnorable : CharSet :=
  (CharSet.ofCategories
    [.nonspacingMark, .enclosingMark, .format, .modifierLetter, .modifierSymbol]).union
    (CharSet.ofCodePoints Unicode.midWord)

/-- Characters that lower-casing changes. -/
def changedByLowering : CharSet :=
  ((CharSet.ofRanges (lowerTable.shifts.toList.flatMap fun shift =>
    (Unicode.CodePoints.mk #[shift.source]).ranges)).difference
    (CharSet.ofCodePoints Unicode.newcomers)).union ⟨[(0x130, 0x130)]⟩

/-- What lower-casing turns characters into. -/
def loweredImages : CharSet :=
  CharSet.ofRanges ((lowerTable.shifts.toList.flatMap fun shift =>
    (Unicode.CodePoints.mk #[shift.source]).ranges.flatMap fun (low, high) =>
      (List.range (high - low + 1)).filterMap fun i =>
        if Unicode.newcomers.containsNat (low + i) then none
        else some (lowerTable.image (low + i), lowerTable.image (low + i))) ++ [(0x69, 0x69)])

/-- Characters that upper-casing changes: images of lower-casing, and characters that only go one
way or become several. -/
def changedByRaising : CharSet :=
  loweredImages.union (written ("B5 131 149 17F 1C5-1CB/3 1F0 1F2 345 390 3B0 3C2 3D0-3D1 " ++
    "3D5-3D6 3F0-3F1 3F5 587 1C80-1C88 1E96-1E9B 1F50-1F56/2 1F88-1F8F 1F98-1F9F 1FA8-1FAF " ++
    "1FB2 1FB4 1FB6-1FB7 1FBC 1FBE 1FC2 1FC4 1FC6-1FC7 1FCC 1FD2-1FD3 1FD6-1FD7 1FE2-1FE4 " ++
    "1FE6-1FE7 1FF2 1FF4 1FF6-1FF7 1FFC FB00-FB06 FB13-FB17"))

/-- Characters that title-casing changes. Title-case letters stay, and so do the Georgian letters
that have capitals only for texts in capitals. -/
def changedByTitling : CharSet :=
  (changedByRaising.union (written "1C4-1CA/3 1F1")).difference
    (written "1C5-1CB/3 1F2 10D0-10FA 10FD-10FF 1F88-1F8F 1F98-1F9F 1FA8-1FAF 1FBC 1FCC 1FFC")

/-- Characters that case folding changes, also where they become several. -/
def changedByFolding : CharSet :=
  ((CharSet.ofRanges (CharSet.foldings.map fun entry => (entry.1, entry.1))).difference
    (written "1FBE 1FD3 1FE3")).union (written ("DF 130 149 587 1E9A 1F80-1F87 1F90-1F97 " ++
      "1FA0-1FA7 1FB2-1FB4 1FB7 1FC2-1FC4 1FC7 1FF2-1FF4 1FF7 FB00-FB04 FB06 FB13-FB17"))

/-- Characters that extend the one before them. -/
def graphemeExtend : CharSet :=
  (CharSet.ofCategories [.nonspacingMark, .enclosingMark]).union (CharSet.ofTable otherExtenders)

/-- The code points that have been given a meaning. -/
def assigned : CharSet := CharSet.ofCategories GeneralCategory.all

/-- The code points of characters without meaning. -/
def unassigned : CharSet := assigned.outside

/-- Characters that stand by themselves and leave ink or room. -/
def graphemeBase : CharSet :=
  (assigned.difference (CharSet.ofCategories
    [.control, .format, .privateUse, .lineSeparator, .paragraphSeparator])).difference
    graphemeExtend

/-- Characters that are passed over in display where they are not supported. -/
def defaultIgnorable : CharSet :=
  ((propertyNamed "Other_Default_Ignorable_Code_Point").union
    ((CharSet.ofCategories [.format]).union (propertyNamed "Variation_Selector"))).difference
    ((written "FFF9-FFFB 13430-13440").union (propertyNamed "Prepended_Concatenation_Mark"))

/-- Characters that begin an identifier. -/
def identifierStart : CharSet :=
  ((CharSet.ofCategories (.letterNumber :: GeneralCategory.letters)).union
    (propertyNamed "Other_ID_Start")).difference patternSigns

/-- Characters that go on with an identifier. -/
def identifierContinue : CharSet :=
  (identifierStart.union ((CharSet.ofCategories
    [.nonspacingMark, .spacingMark, .decimalNumber, .connectorPunctuation]).union
    (propertyNamed "Other_ID_Continue"))).difference patternSigns

/-- Characters whose compatibility forms could not go on with an identifier. -/
def unstableInIdentifiers : CharSet := written "37A 309B-309C FC5E-FC63 FDFA-FDFB FE70-FE7E/2"

/-- Characters whose compatibility forms could not begin an identifier. -/
def unstableAtStart : CharSet := unstableInIdentifiers.union (written "E33 EB3 FF9E-FF9F")

/-- The yes-or-no properties that are made of others, with their names. -/
def derivedProperties : List (List String × (Unit → CharSet)) := [
  (["Alphabetic", "Alpha"], fun _ => CharSet.alphabetic),
  (["Cased"], fun _ => cased),
  (["Case_Ignorable", "CI"], fun _ => caseIgnorable),
  (["Changes_When_Casefolded", "CWCF"], fun _ => changedByFolding),
  (["Changes_When_Casemapped", "CWCM"],
    fun _ => changedByLowering.union (changedByRaising.union changedByTitling)),
  (["Changes_When_Lowercased", "CWL"], fun _ => changedByLowering),
  (["Changes_When_Titlecased", "CWT"], fun _ => changedByTitling),
  (["Changes_When_Uppercased", "CWU"], fun _ => changedByRaising),
  (["Default_Ignorable_Code_Point", "DI"], fun _ => defaultIgnorable),
  (["Grapheme_Base", "Gr_Base"], fun _ => graphemeBase),
  (["Grapheme_Extend", "Gr_Ext"], fun _ => graphemeExtend),
  (["ID_Continue", "IDC"], fun _ => identifierContinue),
  (["ID_Start", "IDS"], fun _ => identifierStart),
  (["Lowercase", "Lower"], fun _ => CharSet.lowercase),
  (["Math"], fun _ => (CharSet.ofCategories [.mathSymbol]).union (propertyNamed "Other_Math")),
  (["Other_Alphabetic", "OAlpha"], fun _ => CharSet.ofTable otherAlphabetic),
  (["Other_Grapheme_Extend", "OGr_Ext"], fun _ => CharSet.ofTable otherExtenders),
  (["Other_Lowercase", "OLower"], fun _ => CharSet.ofTable otherLowercase),
  (["Other_Uppercase", "OUpper"], fun _ => CharSet.ofTable otherUppercase),
  (["Uppercase", "Upper"], fun _ => CharSet.uppercase),
  (["XID_Continue", "XIDC"], fun _ => identifierContinue.difference unstableInIdentifiers),
  (["XID_Start", "XIDS"], fun _ => identifierStart.difference unstableAtStart)]

/-! ### Classes of segmentation -/

/-- The set of a class that may be made of other properties, or else has a table. -/
def classSet? (derived : List (List String × (Unit → CharSet))) (tables : List NamedTable)
    (name : List Char) : Option CharSet :=
  match derived.find? fun entry => isOneOf name entry.1 with
  | some entry => some (entry.2 ())
  | none => tableSet? tables name

/-- The set of one of some tables. -/
def tableNamed (tables : List NamedTable) (name : String) : CharSet :=
  (tableSet? tables (normalName name.toList)).getD CharSet.empty

/-- Prepended marks, joiners and characters that extend others are no controls to graphemes. -/
def graphemeControl : CharSet :=
  ((CharSet.ofCategories [.lineSeparator, .paragraphSeparator, .control, .format]).union
    (unassigned.intersection defaultIgnorable)).difference
    ((written "A D 200C-200D").union
      ((propertyNamed "Prepended_Concatenation_Mark").union graphemeExtend))

/-- The classes of graphemes that are made of other properties. -/
def graphemeClasses : List (List String × (Unit → CharSet)) := [
  (["Control", "CN"], fun _ => graphemeControl),
  (["Extend", "EX"], fun _ => graphemeExtend.union (propertyNamed "Emoji_Modifier")),
  (["LVT"], fun _ => (written "AC00-D7A3").difference (tableNamed graphemeTables "LV"))]

/-- The classes of words that are made of other properties. -/
def wordClasses : List (List String × (Unit → CharSet)) := [
  (["Extend"], fun _ => graphemeExtend.union
    ((CharSet.ofCategories [.spacingMark]).union (propertyNamed "Emoji_Modifier"))),
  (["Format", "FO"], fun _ => (CharSet.ofCategories [.format]).difference
    ((written "200B-200D").union ((tableNamed graphemeTables "Prepend").union graphemeExtend)))]

/-- Digits, their signs and the marks that go before numbers. -/
def sentenceNumeric : CharSet :=
  CharSet.digits.union (written "600-605 66B-66C 6DD 890-891 8E2 19DA 110BD 110CD")

/-- What extends the character before it in a sentence. -/
def sentenceExtend : CharSet :=
  graphemeExtend.union ((CharSet.ofCategories [.spacingMark]).union (written "200D"))

/-- Lower-case characters that begin no sentence; Georgian letters have no case here. -/
def sentenceLower : CharSet :=
  CharSet.lowercase.difference (graphemeExtend.union (written "10D0-10FA 10FD-10FF"))

/-- Upper-case and title-case characters; Georgian letters have no case here. -/
def sentenceUpper : CharSet :=
  (CharSet.uppercase.union (CharSet.ofCategories [.titlecaseLetter])).difference
    (written "1C90-1CBA 1CBD-1CBF")

/-- The classes of sentences that are made of other properties. -/
def sentenceClasses : List (List String × (Unit → CharSet)) := [
  (["Extend", "EX"], fun _ => sentenceExtend),
  (["Format", "FO"], fun _ => (CharSet.ofCategories [.format]).difference
    (sentenceNumeric.union sentenceExtend)),
  (["Lower", "LO"], fun _ => sentenceLower),
  (["Numeric", "NU"], fun _ => sentenceNumeric),
  (["OLetter", "LE"], fun _ => (CharSet.alphabetic.union (written "5F3")).difference
    (sentenceLower.union (sentenceUpper.union sentenceExtend))),
  (["STerm", "ST"], fun _ => (propertyNamed "Sentence_Terminal").difference
    (tableNamed sentenceTables "ATerm")),
  (["Sp", "SP"], fun _ => CharSet.blanks.difference (written "A D 85 2028-2029")),
  (["Upper", "UP"], fun _ => sentenceUpper)]

/-! ### Categories, scripts and ages -/

/-- The groups of categories with their names. -/
def categoryGroups : List (List String × List GeneralCategory) := [
  (["L", "Letter"], GeneralCategory.letters),
  (["LC", "Cased_Letter"], [.uppercaseLetter, .lowercaseLetter, .titlecaseLetter]),
  (["M", "Mark", "Combining_Mark"], GeneralCategory.marks),
  (["N", "Number"], [.decimalNumber, .letterNumber, .otherNumber]),
  (["P", "Punctuation", "punct"],
    [.connectorPunctuation, .dashPunctuation, .openPunctuation, .closePunctuation,
      .initialPunctuation, .finalPunctuation, .otherPunctuation]),
  (["S", "Symbol"], [.mathSymbol, .currencySymbol, .modifierSymbol, .otherSymbol]),
  (["Z", "Separator"], [.spaceSeparator, .lineSeparator, .paragraphSeparator]),
  (["cntrl"], [.control]),
  (["digit"], [.decimalNumber])]

/-- The set of a category or a group of categories. Surrogates are no characters and have no
category of their own; among the other code points they fill the gap between those around them. -/
def category? (name : List Char) : Option CharSet :=
  if isOneOf name ["Any"] then some CharSet.all
  else if isOneOf name ["Assigned"] then some unassigned.outside
  else if isOneOf name ["ASCII"] then some ⟨[(0, 0x7F)]⟩
  else if isOneOf name ["Cn", "Unassigned"] then some unassigned
  else if isOneOf name ["C", "Other"] then
    some ((CharSet.ofCategories [.control, .format, .privateUse]).union
      (unassigned.union (written "D800-DFFF")))
  else
    match GeneralCategory.all.find? fun category =>
        isOneOf name [category.shortName, category.longName] with
    | some category => some (CharSet.ofCategories [category])
    | none =>
      (categoryGroups.find? fun group => isOneOf name group.1).map fun group =>
        CharSet.ofCategories group.2

/-- The set of a script. -/
def script? (name : List Char) : Option CharSet := tableSet? scripts name

/-- The characters that go with a script: its own, unless they are known to go with others, and
those of others that are known to go with it. -/
def scriptExtension? (name : List Char) : Option CharSet :=
  (scripts.find? fun script => isOneOf name script.names).map fun script =>
    let codes := script.names.map fun other => normalName other.toList
    let (fitting, others) := scriptExtensions.partition fun (_, names) =>
      (Unicode.words names).any fun other => codes.contains (normalName other)
    let setOf := fun (tables : List (String × String)) =>
      CharSet.unionAll (tables.map fun entry => written entry.1)
    ((written script.table).difference (setOf others)).union (setOf fitting)

/-- The characters that have been there since an edition of the standard or longer. -/
def age? (name : List Char) : Option CharSet :=
  match ages.findIdx? fun edition => isOneOf name edition.names with
  | none => none
  | some index =>
    some (CharSet.unionAll ((ages.take (index + 1)).map fun edition => written edition.table))

/-- The set of a yes-or-no property. -/
def binary? (name : List Char) : Option CharSet := classSet? derivedProperties propertyTables name

/-- The set that a name alone asks for. -/
def property? (name : List Char) : Except PropertyFault CharSet :=
  let name := normalName name
  match ((binary? name).or (category? name)).or (script? name) with
  | some set => .ok set
  | none => .error .unknownProperty

/-- The properties with many values, each with its names and the sets of its values. -/
def valuedProperties : List (List String × (List Char → Option CharSet)) := [
  (["General_Category", "gc"], category?),
  (["Script", "sc"], script?),
  (["Script_Extensions", "scx"], scriptExtension?),
  (["Age"], age?),
  (["Grapheme_Cluster_Break", "GCB"], classSet? graphemeClasses graphemeTables),
  (["Word_Break", "WB"], classSet? wordClasses wordTables),
  (["Sentence_Break", "SB"], classSet? sentenceClasses sentenceTables)]

/-- The set that a property with a value asks for. -/
def valuedProperty? (name value : List Char) : Except PropertyFault CharSet :=
  match valuedProperties.find? fun entry => isOneOf (normalName name) entry.1 with
  | none => .error .unknownProperty
  | some (_, values) =>
    match values (normalName value) with
    | some set => .ok set
    | none => .error .unknownValue

end PageCheck.Pattern
