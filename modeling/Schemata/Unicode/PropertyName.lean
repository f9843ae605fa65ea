import Schemata.Unicode.GeneralCategory
import Schemata.Unicode.Script
import Schemata.Unicode.Age
import Schemata.Unicode.SegmentBreak
import Schemata.Unicode.BinaryProperty

/-!
# Names of properties

Looks up sets of code points by the names of properties and of their values. Names are compared
loosely: letter case, blanks, underscores, hyphens and a leading `is` do not count.
-/

namespace Schemata.Unicode

/-! ## Names and their aliases -/

/-- The comparable form of a name. -/
def looseName (name : String) : String :=
  let letters := (dropIs name.toList).filter fun c => c ≠ ' ' ∧ c ≠ '_' ∧ c ≠ '-' ∧ c.toNat < 128
  let loose := String.ofList (letters.map Char.toLower)
  if loose = "c" ∧ startsWithIs name.toList then "isc" else loose
where
  /-- Whether a name starts with `is` in any case. -/
  startsWithIs : List Char → Bool
    | a :: b :: _ => a.toLower = 'i' && b.toLower = 's'
    | _ => false
  /-- A name without a leading `is`. -/
  dropIs (chars : List Char) : List Char := if startsWithIs chars then chars.drop 2 else chars

/-- The pairs of words with an equals sign between alias and name. -/
def readAliases (text : List String) : List (String × String) :=
  (tableWords text).filterMap fun word =>
    match word.splitOn "=" with
    | [short, name] => some (short, name)
    | _ => none

def categoryAliases : List (String × String) := readAliases [
  "c=C other=C cc=Cc control=Cc cntrl=Cc cf=Cf format=Cf cn=Cn unassigned=Cn co=Co",
  "privateuse=Co cs=Cs surrogate=Cs l=L letter=L lc=LC casedletter=LC ll=Ll lowercaseletter=Ll",
  "lm=Lm modifierletter=Lm lo=Lo otherletter=Lo lt=Lt titlecaseletter=Lt lu=Lu",
  "uppercaseletter=Lu m=M mark=M combiningmark=M mc=Mc spacingmark=Mc me=Me enclosingmark=Me",
  "mn=Mn nonspacingmark=Mn n=N number=N nd=Nd decimalnumber=Nd digit=Nd nl=Nl letternumber=Nl",
  "no=No othernumber=No p=P punctuation=P punct=P pc=Pc connectorpunctuation=Pc pd=Pd",
  "dashpunctuation=Pd pe=Pe closepunctuation=Pe pf=Pf finalpunctuation=Pf pi=Pi",
  "initialpunctuation=Pi po=Po otherpunctuation=Po ps=Ps openpunctuation=Ps s=S symbol=S sc=Sc",
  "currencysymbol=Sc sk=Sk modifiersymbol=Sk sm=Sm mathsymbol=Sm so=So othersymbol=So z=Z",
  "separator=Z zl=Zl lineseparator=Zl zp=Zp paragraphseparator=Zp zs=Zs spaceseparator=Zs"]

def scriptAliases : List (String × String) := readAliases [
  "adlm=Adlm adlam=Adlm aghb=Aghb caucasianalbanian=Aghb ahom=Ahom arab=Arab arabic=Arab",
  "armi=Armi imperialaramaic=Armi armn=Armn armenian=Armn avst=Avst avestan=Avst bali=Bali",
  "balinese=Bali bamu=Bamu bamum=Bamu bass=Bass bassavah=Bass batk=Batk batak=Batk beng=Beng",
  "bengali=Beng bhks=Bhks bhaiksuki=Bhks bopo=Bopo bopomofo=Bopo brah=Brah brahmi=Brah",
  "brai=Brai braille=Brai bugi=Bugi buginese=Bugi buhd=Buhd buhid=Buhd cakm=Cakm chakma=Cakm",
  "cans=Cans canadianaboriginal=Cans cari=Cari carian=Cari cham=Cham cher=Cher cherokee=Cher",
  "chrs=Chrs chorasmian=Chrs copt=Copt coptic=Copt qaac=Copt cpmn=Cpmn cyprominoan=Cpmn",
  "cprt=Cprt cypriot=Cprt cyrl=Cyrl cyrillic=Cyrl deva=Deva devanagari=Deva diak=Diak",
  "divesakuru=Diak dogr=Dogr dogra=Dogr dsrt=Dsrt deseret=Dsrt dupl=Dupl duployan=Dupl",
  "egyp=Egyp egyptianhieroglyphs=Egyp elba=Elba elbasan=Elba elym=Elym elymaic=Elym ethi=Ethi",
  "ethiopic=Ethi geor=Geor georgian=Geor glag=Glag glagolitic=Glag gong=Gong gunjalagondi=Gong",
  "gonm=Gonm masaramgondi=Gonm goth=Goth gothic=Goth gran=Gran grantha=Gran grek=Grek",
  "greek=Grek gujr=Gujr gujarati=Gujr guru=Guru gurmukhi=Guru hang=Hang hangul=Hang hani=Hani",
  "han=Hani hano=Hano hanunoo=Hano hatr=Hatr hatran=Hatr hebr=Hebr hebrew=Hebr hira=Hira",
  "hiragana=Hira hluw=Hluw anatolianhieroglyphs=Hluw hmng=Hmng pahawhhmong=Hmng hmnp=Hmnp",
  "nyiakengpuachuehmong=Hmnp hung=Hung oldhungarian=Hung ital=Ital olditalic=Ital java=Java",
  "javanese=Java kali=Kali kayahli=Kali kana=Kana katakana=Kana kawi=Kawi khar=Khar",
  "kharoshthi=Khar khmr=Khmr khmer=Khmr khoj=Khoj khojki=Khoj kits=Kits khitansmallscript=Kits",
  "knda=Knda kannada=Knda kthi=Kthi kaithi=Kthi lana=Lana taitham=Lana laoo=Laoo lao=Laoo",
  "latn=Latn latin=Latn lepc=Lepc lepcha=Lepc limb=Limb limbu=Limb lina=Lina lineara=Lina",
  "linb=Linb linearb=Linb lisu=Lisu lyci=Lyci lycian=Lyci lydi=Lydi lydian=Lydi mahj=Mahj",
  "mahajani=Mahj maka=Maka makasar=Maka mand=Mand mandaic=Mand mani=Mani manichaean=Mani",
  "marc=Marc marchen=Marc medf=Medf medefaidrin=Medf mend=Mend mendekikakui=Mend merc=Merc",
  "meroiticcursive=Merc mero=Mero meroitichieroglyphs=Mero mlym=Mlym malayalam=Mlym modi=Modi",
  "mong=Mong mongolian=Mong mroo=Mroo mro=Mroo mtei=Mtei meeteimayek=Mtei mult=Mult",
  "multani=Mult mymr=Mymr myanmar=Mymr nagm=Nagm nagmundari=Nagm nand=Nand nandinagari=Nand",
  "narb=Narb oldnortharabian=Narb nbat=Nbat nabataean=Nbat newa=Newa nkoo=Nkoo nko=Nkoo",
  "nshu=Nshu nushu=Nshu ogam=Ogam ogham=Ogam olck=Olck olchiki=Olck orkh=Orkh oldturkic=Orkh",
  "orya=Orya oriya=Orya osge=Osge osage=Osge osma=Osma osmanya=Osma ougr=Ougr olduyghur=Ougr",
  "palm=Palm palmyrene=Palm pauc=Pauc paucinhau=Pauc perm=Perm oldpermic=Perm phag=Phag",
  "phagspa=Phag phli=Phli inscriptionalpahlavi=Phli phlp=Phlp psalterpahlavi=Phlp phnx=Phnx",
  "phoenician=Phnx plrd=Plrd miao=Plrd prti=Prti inscriptionalparthian=Prti rjng=Rjng",
  "rejang=Rjng rohg=Rohg hanifirohingya=Rohg runr=Runr runic=Runr samr=Samr samaritan=Samr",
  "sarb=Sarb oldsoutharabian=Sarb saur=Saur saurashtra=Saur sgnw=Sgnw signwriting=Sgnw",
  "shaw=Shaw shavian=Shaw shrd=Shrd sharada=Shrd sidd=Sidd siddham=Sidd sind=Sind",
  "khudawadi=Sind sinh=Sinh sinhala=Sinh sogd=Sogd sogdian=Sogd sogo=Sogo oldsogdian=Sogo",
  "sora=Sora sorasompeng=Sora soyo=Soyo soyombo=Soyo sund=Sund sundanese=Sund sylo=Sylo",
  "sylotinagri=Sylo syrc=Syrc syriac=Syrc tagb=Tagb tagbanwa=Tagb takr=Takr takri=Takr",
  "tale=Tale taile=Tale talu=Talu newtailue=Talu taml=Taml tamil=Taml tang=Tang tangut=Tang",
  "tavt=Tavt taiviet=Tavt telu=Telu telugu=Telu tfng=Tfng tifinagh=Tfng tglg=Tglg tagalog=Tglg",
  "thaa=Thaa thaana=Thaa thai=Thai tibt=Tibt tibetan=Tibt tirh=Tirh tirhuta=Tirh tnsa=Tnsa",
  "tangsa=Tnsa toto=Toto ugar=Ugar ugaritic=Ugar vaii=Vaii vai=Vaii vith=Vith vithkuqi=Vith",
  "wara=Wara warangciti=Wara wcho=Wcho wancho=Wcho xpeo=Xpeo oldpersian=Xpeo xsux=Xsux",
  "cuneiform=Xsux yezi=Yezi yezidi=Yezi yiii=Yiii yi=Yiii zanb=Zanb zanabazarsquare=Zanb",
  "zinh=Zinh inherited=Zinh qaai=Zinh zyyy=Zyyy common=Zyyy zzzz=Zzzz unknown=Zzzz"]

def ageAliases : List (String × String) := readAliases [
  "1.1=1.1 v11=1.1 10.0=10.0 v100=10.0 11.0=11.0 v110=11.0 12.0=12.0 v120=12.0 12.1=12.1",
  "v121=12.1 13.0=13.0 v130=13.0 14.0=14.0 v140=14.0 15.0=15.0 v150=15.0 2.0=2.0 v20=2.0",
  "2.1=2.1 v21=2.1 3.0=3.0 v30=3.0 3.1=3.1 v31=3.1 3.2=3.2 v32=3.2 4.0=4.0 v40=4.0 4.1=4.1",
  "v41=4.1 5.0=5.0 v50=5.0 5.1=5.1 v51=5.1 5.2=5.2 v52=5.2 6.0=6.0 v60=6.0 6.1=6.1 v61=6.1",
  "6.2=6.2 v62=6.2 6.3=6.3 v63=6.3 7.0=7.0 v70=7.0 8.0=8.0 v80=8.0 9.0=9.0 v90=9.0 na=NA",
  "unassigned=NA"]

def graphemeBreakAliases : List (String × String) := readAliases [
  "cn=CN control=CN cr=CR eb=EB ebase=EB ebg=EBG ebasegaz=EBG em=EM emodifier=EM ex=EX",
  "extend=EX gaz=GAZ glueafterzwj=GAZ l=L lf=LF lv=LV lvt=LVT pp=PP prepend=PP ri=RI",
  "regionalindicator=RI sm=SM spacingmark=SM t=T v=V xx=XX other=XX zwj=ZWJ"]

def wordBreakAliases : List (String × String) := readAliases [
  "cr=CR dq=DQ doublequote=DQ eb=EB ebase=EB ebg=EBG ebasegaz=EBG em=EM emodifier=EM ex=EX",
  "extendnumlet=EX extend=Extend fo=FO format=FO gaz=GAZ glueafterzwj=GAZ hl=HL hebrewletter=HL",
  "ka=KA katakana=KA le=LE aletter=LE lf=LF mb=MB midnumlet=MB ml=ML midletter=ML mn=MN",
  "midnum=MN nl=NL newline=NL nu=NU numeric=NU ri=RI regionalindicator=RI sq=SQ singlequote=SQ",
  "wsegspace=WSegSpace xx=XX other=XX zwj=ZWJ"]

def sentenceBreakAliases : List (String × String) := readAliases [
  "at=AT aterm=AT cl=CL close=CL cr=CR ex=EX extend=EX fo=FO format=FO le=LE oletter=LE lf=LF",
  "lo=LO lower=LO nu=NU numeric=NU sc=SC scontinue=SC se=SE sep=SE sp=SP st=ST sterm=ST up=UP",
  "upper=UP xx=XX other=XX"]

def binaryAliases : List (String × String) := readAliases [
  "ahex=ASCII_Hex_Digit asciihexdigit=ASCII_Hex_Digit alpha=Alphabetic alphabetic=Alphabetic",
  "bidic=Bidi_Control bidicontrol=Bidi_Control bidim=Bidi_Mirrored bidimirrored=Bidi_Mirrored",
  "ci=Case_Ignorable caseignorable=Case_Ignorable cased=Cased cwcf=Changes_When_Casefolded",
  "changeswhencasefolded=Changes_When_Casefolded cwcm=Changes_When_Casemapped",
  "changeswhencasemapped=Changes_When_Casemapped cwl=Changes_When_Lowercased",
  "changeswhenlowercased=Changes_When_Lowercased cwt=Changes_When_Titlecased",
  "changeswhentitlecased=Changes_When_Titlecased cwu=Changes_When_Uppercased",
  "changeswhenuppercased=Changes_When_Uppercased dash=Dash di=Default_Ignorable_Code_Point",
  "defaultignorablecodepoint=Default_Ignorable_Code_Point dep=Deprecated deprecated=Deprecated",
  "dia=Diacritic diacritic=Diacritic emoji=Emoji ecomp=Emoji_Component",
  "emojicomponent=Emoji_Component emod=Emoji_Modifier emojimodifier=Emoji_Modifier",
  "ebase=Emoji_Modifier_Base emojimodifierbase=Emoji_Modifier_Base epres=Emoji_Presentation",
  "emojipresentation=Emoji_Presentation extpict=Extended_Pictographic",
  "extendedpictographic=Extended_Pictographic ext=Extender extender=Extender",
  "grbase=Grapheme_Base graphemebase=Grapheme_Base grext=Grapheme_Extend",
  "graphemeextend=Grapheme_Extend hex=Hex_Digit hexdigit=Hex_Digit hyphen=Hyphen",
  "idsb=IDS_Binary_Operator idsbinaryoperator=IDS_Binary_Operator idst=IDS_Trinary_Operator",
  "idstrinaryoperator=IDS_Trinary_Operator idc=ID_Continue idcontinue=ID_Continue ids=ID_Start",
  "idstart=ID_Start ideo=Ideographic ideographic=Ideographic joinc=Join_Control",
  "joincontrol=Join_Control loe=Logical_Order_Exception",
  "logicalorderexception=Logical_Order_Exception lower=Lowercase lowercase=Lowercase math=Math",
  "nchar=Noncharacter_Code_Point noncharactercodepoint=Noncharacter_Code_Point",
  "patsyn=Pattern_Syntax patternsyntax=Pattern_Syntax patws=Pattern_White_Space",
  "patternwhitespace=Pattern_White_Space pcm=Prepended_Concatenation_Mark",
  "prependedconcatenationmark=Prepended_Concatenation_Mark qmark=Quotation_Mark",
  "quotationmark=Quotation_Mark radical=Radical ri=Regional_Indicator",
  "regionalindicator=Regional_Indicator sterm=Sentence_Terminal",
  "sentenceterminal=Sentence_Terminal sd=Soft_Dotted softdotted=Soft_Dotted",
  "term=Terminal_Punctuation terminalpunctuation=Terminal_Punctuation uideo=Unified_Ideograph",
  "unifiedideograph=Unified_Ideograph upper=Uppercase uppercase=Uppercase vs=Variation_Selector",
  "variationselector=Variation_Selector wspace=White_Space whitespace=White_Space",
  "space=White_Space xidc=XID_Continue xidcontinue=XID_Continue xids=XID_Start",
  "xidstart=XID_Start grlink=Grapheme_Link graphemelink=Grapheme_Link oalpha=Other_Alphabetic",
  "otheralphabetic=Other_Alphabetic odi=Other_Default_Ignorable_Code_Point",
  "otherdefaultignorablecodepoint=Other_Default_Ignorable_Code_Point",
  "ogrext=Other_Grapheme_Extend othergraphemeextend=Other_Grapheme_Extend",
  "oidc=Other_ID_Continue otheridcontinue=Other_ID_Continue oids=Other_ID_Start",
  "otheridstart=Other_ID_Start olower=Other_Lowercase otherlowercase=Other_Lowercase",
  "oupper=Other_Uppercase otheruppercase=Other_Uppercase omath=Other_Math othermath=Other_Math"]

def valuedAliases : List (String × String) := readAliases [
  "gc=General_Category generalcategory=General_Category sc=Script script=Script",
  "scx=Script_Extensions scriptextensions=Script_Extensions age=Age gcb=Grapheme_Cluster_Break",
  "graphemeclusterbreak=Grapheme_Cluster_Break wb=Word_Break wordbreak=Word_Break",
  "sb=Sentence_Break sentencebreak=Sentence_Break"]

/-- Names of properties that exist but name no set here. -/
def otherProperties : List String := tableWords [
  "bc bidiclass blk block bmg bidimirroringglyph bpb bidipairedbracket bpt",
  "bidipairedbrackettype ccc canonicalcombiningclass ce compositionexclusion cf casefolding",
  "compex fullcompositionexclusion cwkcf changeswhennfkccasefolded dm decompositionmapping dt",
  "decompositiontype ea eastasianwidth equideo equivalentunifiedideograph hst",
  "hangulsyllabletype inpc indicpositionalcategory insc indicsyllabiccategory isc ocomment jg",
  "joininggroup jt joiningtype lb linebreak lc lowercasemapping na name na1 unicode1name",
  "namealias nfcqc nfcquickcheck nfdqc nfdquickcheck nfkccf nfkccasefold nfkcqc nfkcquickcheck",
  "nfkdqc nfkdquickcheck nt numerictype nv numericvalue scf simplecasefolding sfc slc",
  "simplelowercasemapping stc simpletitlecasemapping suc simpleuppercasemapping tc",
  "titlecasemapping uc uppercasemapping vo verticalorientation cjkaccountingnumeric",
  "kaccountingnumeric cjkothernumeric kothernumeric cjkprimarynumeric kprimarynumeric",
  "cjkcompatibilityvariant kcompatibilityvariant fcnfkc fcnfkcclosure cjkiicore kiicore",
  "cjkirggsource kirggsource cjkirghsource kirghsource cjkirgjsource kirgjsource cjkirgkpsource",
  "kirgkpsource cjkirgksource kirgksource cjkirgmsource kirgmsource cjkirgssource kirgssource",
  "cjkirgtsource kirgtsource cjkirguksource kirguksource cjkirgusource kirgusource",
  "cjkirgvsource kirgvsource cjkrsunicode krsunicode unicoderadicalstroke urs jsn jamoshortname",
  "xonfc expandsonnfc xonfd expandsonnfd xonfkc expandsonnfkc xonfkd expandsonnfkd"]

/-! ## Look-up -/

/-- Why a name denotes no set. -/
inductive PropertyError where
  /-- No such property. -/
  | unknownProperty
  /-- The property has no such value. -/
  | unknownValue
  deriving DecidableEq, Repr

def categoryGroup (code : String) : CodeRanges :=
  if code = "LC" then inCategory fun category => category = "Lu" || category = "Ll" || category = "Lt"
  else inCategory fun category => category.startsWith code

def categoryByName? (name : String) : Option (Except PropertyError CodeRanges) :=
  if name = "any" then some (.ok [(0, lastCodePoint)])
  else if name = "ascii" then some (.ok [(0, 127)])
  else if name = "assigned" then some (.ok (CodeRanges.negate (categoryGroup "Cn")))
  else (categoryAliases.lookup name).map fun code =>
    if code = "Cs" then .error .unknownValue else .ok (categoryGroup code)

/-- The set of a value, unless it is the value of the code points that have no other. -/
def setOfValue (fallback : String) (set : String → CodeRanges) (value : String) :
    Except PropertyError CodeRanges :=
  if value = fallback then .error .unknownValue
  else
    match set value with
    | [] => .error .unknownValue
    | ranges => .ok ranges

def scriptByName? (name : String) : Option (Except PropertyError CodeRanges) :=
  (scriptAliases.lookup name).map (setOfValue "Zzzz" inScript)

/-- The code points that a property name without a value denotes. -/
def propertyByName (name : String) : Except PropertyError CodeRanges :=
  let loose := looseName name
  let ambiguous := loose = "cf" ∨ loose = "sc" ∨ loose = "lc"
  if ¬ ambiguous ∧ (binaryAliases.lookup loose).isSome then
    match (binaryAliases.lookup loose).bind binaryProperty? with
    | some set => .ok set
    | none => .error .unknownProperty
  else if ¬ ambiguous ∧ ((valuedAliases.lookup loose).isSome ∨ otherProperties.contains loose) then
    .error .unknownProperty
  else
    match categoryByName? loose with
    | some answer => answer
    | none => (scriptByName? loose).getD (.error .unknownProperty)

def propertyByValue (name value : String) : Except PropertyError CodeRanges :=
  let property := looseName name
  let loose := looseName value
  let among (aliases : List (String × String)) (fallback : String) (set : String → CodeRanges) :=
    match aliases.lookup loose with
    | some code => setOfValue fallback set code
    | none => .error .unknownValue
  match valuedAliases.lookup property with
  | some "General_Category" => (categoryByName? loose).getD (.error .unknownValue)
  | some "Script" => (scriptByName? loose).getD (.error .unknownValue)
  | some "Script_Extensions" => among scriptAliases "Zzzz" inScriptExtension
  | some "Age" => among ageAliases "NA" assignedBy
  | some "Grapheme_Cluster_Break" => among graphemeBreakAliases "XX" inGraphemeBreak
  | some "Word_Break" => among wordBreakAliases "XX" inWordBreak
  | some "Sentence_Break" => among sentenceBreakAliases "XX" inSentenceBreak
  | _ =>
    if (binaryAliases.lookup property).isSome ∨ otherProperties.contains property then
      .error .unknownValue
    else .error .unknownProperty

end Schemata.Unicode
