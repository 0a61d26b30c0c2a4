/-!
# Names of properties and their values

Every name by which a property or a value can be called, folded: in lower case, without
blanks, hyphens and underscores. Beside it stands the name under which the tables have its
set.
-/

namespace ConditionalGateway.Unicode.Data

def propertyNames : List (String × String) := [
  ("ahex", "asciihexdigit"), ("asciihexdigit", "asciihexdigit"), ("alpha", "alphabetic"),
  ("alphabetic", "alphabetic"), ("bidic", "bidicontrol"), ("bidicontrol", "bidicontrol"),
  ("bidim", "bidimirrored"), ("bidimirrored", "bidimirrored"),
  ("caseignorable", "caseignorable"), ("ci", "caseignorable"), ("cased", "cased"),
  ("changeswhencasefolded", "changeswhencasefolded"), ("cwcf", "changeswhencasefolded"),
  ("changeswhencasemapped", "changeswhencasemapped"), ("cwcm", "changeswhencasemapped"),
  ("changeswhenlowercased", "changeswhenlowercased"), ("cwl", "changeswhenlowercased"),
  ("changeswhentitlecased", "changeswhentitlecased"), ("cwt", "changeswhentitlecased"),
  ("changeswhenuppercased", "changeswhenuppercased"), ("cwu", "changeswhenuppercased"),
  ("dash", "dash"), ("defaultignorablecodepoint", "defaultignorablecodepoint"),
  ("di", "defaultignorablecodepoint"), ("dep", "deprecated"), ("deprecated", "deprecated"),
  ("dia", "diacritic"), ("diacritic", "diacritic"), ("emoji", "emoji"),
  ("ecomp", "emojicomponent"), ("emojicomponent", "emojicomponent"), ("emod", "emojimodifier"),
  ("emojimodifier", "emojimodifier"), ("ebase", "emojimodifierbase"),
  ("emojimodifierbase", "emojimodifierbase"), ("emojipresentation", "emojipresentation"),
  ("epres", "emojipresentation"), ("extendedpictographic", "extendedpictographic"),
  ("extpict", "extendedpictographic"), ("ext", "extender"), ("extender", "extender"),
  ("graphemebase", "graphemebase"), ("grbase", "graphemebase"),
  ("graphemeextend", "graphemeextend"), ("grext", "graphemeextend"), ("hex", "hexdigit"),
  ("hexdigit", "hexdigit"), ("idsb", "idsbinaryoperator"),
  ("idsbinaryoperator", "idsbinaryoperator"), ("idst", "idstrinaryoperator"),
  ("idstrinaryoperator", "idstrinaryoperator"), ("idc", "idcontinue"),
  ("idcontinue", "idcontinue"), ("ids", "idstart"), ("idstart", "idstart"),
  ("ideo", "ideographic"), ("ideographic", "ideographic"), ("joinc", "joincontrol"),
  ("joincontrol", "joincontrol"), ("loe", "logicalorderexception"),
  ("logicalorderexception", "logicalorderexception"), ("lower", "lowercase"),
  ("lowercase", "lowercase"), ("math", "math"), ("nchar", "noncharactercodepoint"),
  ("noncharactercodepoint", "noncharactercodepoint"), ("patsyn", "patternsyntax"),
  ("patternsyntax", "patternsyntax"), ("patternwhitespace", "patternwhitespace"),
  ("patws", "patternwhitespace"), ("pcm", "prependedconcatenationmark"),
  ("prependedconcatenationmark", "prependedconcatenationmark"), ("qmark", "quotationmark"),
  ("quotationmark", "quotationmark"), ("radical", "radical"),
  ("regionalindicator", "regionalindicator"), ("ri", "regionalindicator"),
  ("sentenceterminal", "sentenceterminal"), ("sterm", "sentenceterminal"), ("sd", "softdotted"),
  ("softdotted", "softdotted"), ("term", "terminalpunctuation"),
  ("terminalpunctuation", "terminalpunctuation"), ("uideo", "unifiedideograph"),
  ("unifiedideograph", "unifiedideograph"), ("upper", "uppercase"), ("uppercase", "uppercase"),
  ("variationselector", "variationselector"), ("vs", "variationselector"),
  ("space", "whitespace"), ("whitespace", "whitespace"), ("wspace", "whitespace"),
  ("xidc", "xidcontinue"), ("xidcontinue", "xidcontinue"), ("xids", "xidstart"),
  ("xidstart", "xidstart")]

def categoryNames : List (String × String) := [
  ("c", "C"), ("other", "C"), ("cc", "Cc"), ("cntrl", "Cc"), ("control", "Cc"), ("cf", "Cf"),
  ("format", "Cf"), ("cn", "Cn"), ("unassigned", "Cn"), ("co", "Co"), ("privateuse", "Co"),
  ("l", "L"), ("letter", "L"), ("casedletter", "LC"), ("lc", "LC"), ("ll", "Ll"),
  ("lowercaseletter", "Ll"), ("lm", "Lm"), ("modifierletter", "Lm"), ("lo", "Lo"),
  ("otherletter", "Lo"), ("lt", "Lt"), ("titlecaseletter", "Lt"), ("lu", "Lu"),
  ("uppercaseletter", "Lu"), ("combiningmark", "M"), ("m", "M"), ("mark", "M"), ("mc", "Mc"),
  ("spacingmark", "Mc"), ("enclosingmark", "Me"), ("me", "Me"), ("mn", "Mn"),
  ("nonspacingmark", "Mn"), ("n", "N"), ("number", "N"), ("decimalnumber", "Nd"),
  ("digit", "Nd"), ("nd", "Nd"), ("letternumber", "Nl"), ("nl", "Nl"), ("no", "No"),
  ("othernumber", "No"), ("p", "P"), ("punct", "P"), ("punctuation", "P"),
  ("connectorpunctuation", "Pc"), ("pc", "Pc"), ("dashpunctuation", "Pd"), ("pd", "Pd"),
  ("closepunctuation", "Pe"), ("pe", "Pe"), ("finalpunctuation", "Pf"), ("pf", "Pf"),
  ("initialpunctuation", "Pi"), ("pi", "Pi"), ("otherpunctuation", "Po"), ("po", "Po"),
  ("openpunctuation", "Ps"), ("ps", "Ps"), ("s", "S"), ("symbol", "S"), ("currencysymbol", "Sc"),
  ("sc", "Sc"), ("modifiersymbol", "Sk"), ("sk", "Sk"), ("mathsymbol", "Sm"), ("sm", "Sm"),
  ("othersymbol", "So"), ("so", "So"), ("separator", "Z"), ("z", "Z"), ("lineseparator", "Zl"),
  ("zl", "Zl"), ("paragraphseparator", "Zp"), ("zp", "Zp"), ("spaceseparator", "Zs"),
  ("zs", "Zs")]

def scriptNames : List (String × String) := [
  ("adlam", "adlam"), ("adlm", "adlam"), ("aghb", "caucasianalbanian"),
  ("caucasianalbanian", "caucasianalbanian"), ("ahom", "ahom"), ("arab", "arabic"),
  ("arabic", "arabic"), ("armi", "imperialaramaic"), ("imperialaramaic", "imperialaramaic"),
  ("armenian", "armenian"), ("armn", "armenian"), ("avestan", "avestan"), ("avst", "avestan"),
  ("bali", "balinese"), ("balinese", "balinese"), ("bamu", "bamum"), ("bamum", "bamum"),
  ("bass", "bassavah"), ("bassavah", "bassavah"), ("batak", "batak"), ("batk", "batak"),
  ("beng", "bengali"), ("bengali", "bengali"), ("bhaiksuki", "bhaiksuki"), ("bhks", "bhaiksuki"),
  ("bopo", "bopomofo"), ("bopomofo", "bopomofo"), ("brah", "brahmi"), ("brahmi", "brahmi"),
  ("brai", "braille"), ("braille", "braille"), ("bugi", "buginese"), ("buginese", "buginese"),
  ("buhd", "buhid"), ("buhid", "buhid"), ("cakm", "chakma"), ("chakma", "chakma"),
  ("canadianaboriginal", "canadianaboriginal"), ("cans", "canadianaboriginal"),
  ("cari", "carian"), ("carian", "carian"), ("cham", "cham"), ("cher", "cherokee"),
  ("cherokee", "cherokee"), ("chorasmian", "chorasmian"), ("chrs", "chorasmian"),
  ("copt", "coptic"), ("coptic", "coptic"), ("qaac", "coptic"), ("cpmn", "cyprominoan"),
  ("cyprominoan", "cyprominoan"), ("cprt", "cypriot"), ("cypriot", "cypriot"),
  ("cyrillic", "cyrillic"), ("cyrl", "cyrillic"), ("deva", "devanagari"),
  ("devanagari", "devanagari"), ("diak", "divesakuru"), ("divesakuru", "divesakuru"),
  ("dogr", "dogra"), ("dogra", "dogra"), ("deseret", "deseret"), ("dsrt", "deseret"),
  ("dupl", "duployan"), ("duployan", "duployan"), ("egyp", "egyptianhieroglyphs"),
  ("egyptianhieroglyphs", "egyptianhieroglyphs"), ("elba", "elbasan"), ("elbasan", "elbasan"),
  ("elym", "elymaic"), ("elymaic", "elymaic"), ("ethi", "ethiopic"), ("ethiopic", "ethiopic"),
  ("geor", "georgian"), ("georgian", "georgian"), ("glag", "glagolitic"),
  ("glagolitic", "glagolitic"), ("gong", "gunjalagondi"), ("gunjalagondi", "gunjalagondi"),
  ("gonm", "masaramgondi"), ("masaramgondi", "masaramgondi"), ("goth", "gothic"),
  ("gothic", "gothic"), ("gran", "grantha"), ("grantha", "grantha"), ("greek", "greek"),
  ("grek", "greek"), ("gujarati", "gujarati"), ("gujr", "gujarati"), ("gurmukhi", "gurmukhi"),
  ("guru", "gurmukhi"), ("hang", "hangul"), ("hangul", "hangul"), ("han", "han"),
  ("hani", "han"), ("hano", "hanunoo"), ("hanunoo", "hanunoo"), ("hatr", "hatran"),
  ("hatran", "hatran"), ("hebr", "hebrew"), ("hebrew", "hebrew"), ("hira", "hiragana"),
  ("hiragana", "hiragana"), ("anatolianhieroglyphs", "anatolianhieroglyphs"),
  ("hluw", "anatolianhieroglyphs"), ("hmng", "pahawhhmong"), ("pahawhhmong", "pahawhhmong"),
  ("hmnp", "nyiakengpuachuehmong"), ("nyiakengpuachuehmong", "nyiakengpuachuehmong"),
  ("hung", "oldhungarian"), ("oldhungarian", "oldhungarian"), ("ital", "olditalic"),
  ("olditalic", "olditalic"), ("java", "javanese"), ("javanese", "javanese"),
  ("kali", "kayahli"), ("kayahli", "kayahli"), ("kana", "katakana"), ("katakana", "katakana"),
  ("kawi", "kawi"), ("khar", "kharoshthi"), ("kharoshthi", "kharoshthi"), ("khmer", "khmer"),
  ("khmr", "khmer"), ("khoj", "khojki"), ("khojki", "khojki"),
  ("khitansmallscript", "khitansmallscript"), ("kits", "khitansmallscript"),
  ("kannada", "kannada"), ("knda", "kannada"), ("kaithi", "kaithi"), ("kthi", "kaithi"),
  ("lana", "taitham"), ("taitham", "taitham"), ("lao", "lao"), ("laoo", "lao"),
  ("latin", "latin"), ("latn", "latin"), ("lepc", "lepcha"), ("lepcha", "lepcha"),
  ("limb", "limbu"), ("limbu", "limbu"), ("lina", "lineara"), ("lineara", "lineara"),
  ("linb", "linearb"), ("linearb", "linearb"), ("lisu", "lisu"), ("lyci", "lycian"),
  ("lycian", "lycian"), ("lydi", "lydian"), ("lydian", "lydian"), ("mahajani", "mahajani"),
  ("mahj", "mahajani"), ("maka", "makasar"), ("makasar", "makasar"), ("mand", "mandaic"),
  ("mandaic", "mandaic"), ("mani", "manichaean"), ("manichaean", "manichaean"),
  ("marc", "marchen"), ("marchen", "marchen"), ("medefaidrin", "medefaidrin"),
  ("medf", "medefaidrin"), ("mend", "mendekikakui"), ("mendekikakui", "mendekikakui"),
  ("merc", "meroiticcursive"), ("meroiticcursive", "meroiticcursive"),
  ("mero", "meroitichieroglyphs"), ("meroitichieroglyphs", "meroitichieroglyphs"),
  ("malayalam", "malayalam"), ("mlym", "malayalam"), ("modi", "modi"), ("mong", "mongolian"),
  ("mongolian", "mongolian"), ("mro", "mro"), ("mroo", "mro"), ("meeteimayek", "meeteimayek"),
  ("mtei", "meeteimayek"), ("mult", "multani"), ("multani", "multani"), ("myanmar", "myanmar"),
  ("mymr", "myanmar"), ("nagm", "nagmundari"), ("nagmundari", "nagmundari"),
  ("nand", "nandinagari"), ("nandinagari", "nandinagari"), ("narb", "oldnortharabian"),
  ("oldnortharabian", "oldnortharabian"), ("nabataean", "nabataean"), ("nbat", "nabataean"),
  ("newa", "newa"), ("nko", "nko"), ("nkoo", "nko"), ("nshu", "nushu"), ("nushu", "nushu"),
  ("ogam", "ogham"), ("ogham", "ogham"), ("olchiki", "olchiki"), ("olck", "olchiki"),
  ("oldturkic", "oldturkic"), ("orkh", "oldturkic"), ("oriya", "oriya"), ("orya", "oriya"),
  ("osage", "osage"), ("osge", "osage"), ("osma", "osmanya"), ("osmanya", "osmanya"),
  ("olduyghur", "olduyghur"), ("ougr", "olduyghur"), ("palm", "palmyrene"),
  ("palmyrene", "palmyrene"), ("pauc", "paucinhau"), ("paucinhau", "paucinhau"),
  ("oldpermic", "oldpermic"), ("perm", "oldpermic"), ("phag", "phagspa"), ("phagspa", "phagspa"),
  ("inscriptionalpahlavi", "inscriptionalpahlavi"), ("phli", "inscriptionalpahlavi"),
  ("phlp", "psalterpahlavi"), ("psalterpahlavi", "psalterpahlavi"), ("phnx", "phoenician"),
  ("phoenician", "phoenician"), ("miao", "miao"), ("plrd", "miao"),
  ("inscriptionalparthian", "inscriptionalparthian"), ("prti", "inscriptionalparthian"),
  ("rejang", "rejang"), ("rjng", "rejang"), ("hanifirohingya", "hanifirohingya"),
  ("rohg", "hanifirohingya"), ("runic", "runic"), ("runr", "runic"), ("samaritan", "samaritan"),
  ("samr", "samaritan"), ("oldsoutharabian", "oldsoutharabian"), ("sarb", "oldsoutharabian"),
  ("saur", "saurashtra"), ("saurashtra", "saurashtra"), ("sgnw", "signwriting"),
  ("signwriting", "signwriting"), ("shavian", "shavian"), ("shaw", "shavian"),
  ("sharada", "sharada"), ("shrd", "sharada"), ("sidd", "siddham"), ("siddham", "siddham"),
  ("khudawadi", "khudawadi"), ("sind", "khudawadi"), ("sinh", "sinhala"), ("sinhala", "sinhala"),
  ("sogd", "sogdian"), ("sogdian", "sogdian"), ("oldsogdian", "oldsogdian"),
  ("sogo", "oldsogdian"), ("sora", "sorasompeng"), ("sorasompeng", "sorasompeng"),
  ("soyo", "soyombo"), ("soyombo", "soyombo"), ("sund", "sundanese"), ("sundanese", "sundanese"),
  ("sylo", "sylotinagri"), ("sylotinagri", "sylotinagri"), ("syrc", "syriac"),
  ("syriac", "syriac"), ("tagb", "tagbanwa"), ("tagbanwa", "tagbanwa"), ("takr", "takri"),
  ("takri", "takri"), ("taile", "taile"), ("tale", "taile"), ("newtailue", "newtailue"),
  ("talu", "newtailue"), ("tamil", "tamil"), ("taml", "tamil"), ("tang", "tangut"),
  ("tangut", "tangut"), ("taiviet", "taiviet"), ("tavt", "taiviet"), ("telu", "telugu"),
  ("telugu", "telugu"), ("tfng", "tifinagh"), ("tifinagh", "tifinagh"), ("tagalog", "tagalog"),
  ("tglg", "tagalog"), ("thaa", "thaana"), ("thaana", "thaana"), ("thai", "thai"),
  ("tibetan", "tibetan"), ("tibt", "tibetan"), ("tirh", "tirhuta"), ("tirhuta", "tirhuta"),
  ("tangsa", "tangsa"), ("tnsa", "tangsa"), ("toto", "toto"), ("ugar", "ugaritic"),
  ("ugaritic", "ugaritic"), ("vai", "vai"), ("vaii", "vai"), ("vith", "vithkuqi"),
  ("vithkuqi", "vithkuqi"), ("wara", "warangciti"), ("warangciti", "warangciti"),
  ("wancho", "wancho"), ("wcho", "wancho"), ("oldpersian", "oldpersian"), ("xpeo", "oldpersian"),
  ("cuneiform", "cuneiform"), ("xsux", "cuneiform"), ("yezi", "yezidi"), ("yezidi", "yezidi"),
  ("yi", "yi"), ("yiii", "yi"), ("zanabazarsquare", "zanabazarsquare"),
  ("zanb", "zanabazarsquare"), ("inherited", "inherited"), ("qaai", "inherited"),
  ("zinh", "inherited"), ("common", "common"), ("zyyy", "common"), ("gara", "garay"),
  ("garay", "garay"), ("gukh", "gurungkhema"), ("gurungkhema", "gurungkhema"),
  ("kiratrai", "kiratrai"), ("krai", "kiratrai"), ("olonal", "olonal"), ("onao", "olonal"),
  ("sunu", "sunuwar"), ("sunuwar", "sunuwar"), ("todhri", "todhri"), ("todr", "todhri"),
  ("tulutigalari", "tulutigalari"), ("tutg", "tulutigalari")]

def ageNames : List (String × String) := [
  ("1.1", "1.1"), ("v11", "1.1"), ("10.0", "10.0"), ("v100", "10.0"), ("11.0", "11.0"),
  ("v110", "11.0"), ("12.0", "12.0"), ("v120", "12.0"), ("12.1", "12.1"), ("v121", "12.1"),
  ("13.0", "13.0"), ("v130", "13.0"), ("14.0", "14.0"), ("v140", "14.0"), ("15.0", "15.0"),
  ("v150", "15.0"), ("2.0", "2.0"), ("v20", "2.0"), ("2.1", "2.1"), ("v21", "2.1"),
  ("3.0", "3.0"), ("v30", "3.0"), ("3.1", "3.1"), ("v31", "3.1"), ("3.2", "3.2"), ("v32", "3.2"),
  ("4.0", "4.0"), ("v40", "4.0"), ("4.1", "4.1"), ("v41", "4.1"), ("5.0", "5.0"), ("v50", "5.0"),
  ("5.1", "5.1"), ("v51", "5.1"), ("5.2", "5.2"), ("v52", "5.2"), ("6.0", "6.0"), ("v60", "6.0"),
  ("6.1", "6.1"), ("v61", "6.1"), ("6.2", "6.2"), ("v62", "6.2"), ("6.3", "6.3"), ("v63", "6.3"),
  ("7.0", "7.0"), ("v70", "7.0"), ("8.0", "8.0"), ("v80", "8.0"), ("9.0", "9.0"), ("v90", "9.0"),
  ("15.1", "15.1"), ("v151", "15.1"), ("16.0", "16.0"), ("v160", "16.0")]

def graphemeBreakNames : List (String × String) := [
  ("cn", "control"), ("control", "control"), ("cr", "cr"), ("ex", "extend"),
  ("extend", "extend"), ("l", "l"), ("lf", "lf"), ("lv", "lv"), ("lvt", "lvt"),
  ("pp", "prepend"), ("prepend", "prepend"), ("regionalindicator", "regionalindicator"),
  ("ri", "regionalindicator"), ("sm", "spacingmark"), ("spacingmark", "spacingmark"), ("t", "t"),
  ("v", "v"), ("zwj", "zwj")]

def wordBreakNames : List (String × String) := [
  ("cr", "cr"), ("doublequote", "doublequote"), ("dq", "doublequote"), ("ex", "extendnumlet"),
  ("extendnumlet", "extendnumlet"), ("extend", "extend"), ("fo", "format"), ("format", "format"),
  ("hebrewletter", "hebrewletter"), ("hl", "hebrewletter"), ("ka", "katakana"),
  ("katakana", "katakana"), ("aletter", "aletter"), ("le", "aletter"), ("lf", "lf"),
  ("mb", "midnumlet"), ("midnumlet", "midnumlet"), ("midletter", "midletter"),
  ("ml", "midletter"), ("midnum", "midnum"), ("mn", "midnum"), ("newline", "newline"),
  ("nl", "newline"), ("nu", "numeric"), ("numeric", "numeric"),
  ("regionalindicator", "regionalindicator"), ("ri", "regionalindicator"),
  ("singlequote", "singlequote"), ("sq", "singlequote"), ("wsegspace", "wsegspace"),
  ("zwj", "zwj")]

def sentenceBreakNames : List (String × String) := [
  ("at", "aterm"), ("aterm", "aterm"), ("cl", "close"), ("close", "close"), ("cr", "cr"),
  ("ex", "extend"), ("extend", "extend"), ("fo", "format"), ("format", "format"),
  ("le", "oletter"), ("oletter", "oletter"), ("lf", "lf"), ("lo", "lower"), ("lower", "lower"),
  ("nu", "numeric"), ("numeric", "numeric"), ("sc", "scontinue"), ("scontinue", "scontinue"),
  ("se", "sep"), ("sep", "sep"), ("sp", "sp"), ("st", "sterm"), ("sterm", "sterm"),
  ("up", "upper"), ("upper", "upper")]

end ConditionalGateway.Unicode.Data
