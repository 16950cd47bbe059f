set_option autoImplicit false

namespace OrdersContract.Text

structure Composition where
  first : Char
  second : Char
  whole : Char

/-- A second character, the characters that may stand before it, and what each gives with it. -/
def compositionRows : List (Char × List (Char × Char)) :=
  [('\u0300', [('A', 'À'), ('E', 'È'), ('I', 'Ì'), ('N', 'Ǹ'), ('O', 'Ò'), ('U', 'Ù'), ('W', 'Ẁ'),
      ('Y', 'Ỳ'), ('a', 'à'), ('e', 'è'), ('i', 'ì'), ('n', 'ǹ'), ('o', 'ò'), ('u', 'ù'),
      ('w', 'ẁ'), ('y', 'ỳ'), ('¨', '῭'), ('Â', 'Ầ'), ('Ê', 'Ề'), ('Ô', 'Ồ'), ('Ü', 'Ǜ'),
      ('â', 'ầ'), ('ê', 'ề'), ('ô', 'ồ'), ('ü', 'ǜ'), ('Ă', 'Ằ'), ('ă', 'ằ'), ('Ē', 'Ḕ'),
      ('ē', 'ḕ'), ('Ō', 'Ṑ'), ('ō', 'ṑ'), ('Ơ', 'Ờ'), ('ơ', 'ờ'), ('Ư', 'Ừ'), ('ư', 'ừ'),
      ('Α', 'Ὰ'), ('Ε', 'Ὲ'), ('Η', 'Ὴ'), ('Ι', 'Ὶ'), ('Ο', 'Ὸ'), ('Υ', 'Ὺ'), ('Ω', 'Ὼ'),
      ('α', 'ὰ'), ('ε', 'ὲ'), ('η', 'ὴ'), ('ι', 'ὶ'), ('ο', 'ὸ'), ('υ', 'ὺ'), ('ω', 'ὼ'),
      ('ϊ', 'ῒ'), ('ϋ', 'ῢ'), ('Е', 'Ѐ'), ('И', 'Ѝ'), ('е', 'ѐ'), ('и', 'ѝ'), ('ἀ', 'ἂ'),
      ('ἁ', 'ἃ'), ('Ἀ', 'Ἂ'), ('Ἁ', 'Ἃ'), ('ἐ', 'ἒ'), ('ἑ', 'ἓ'), ('Ἐ', 'Ἒ'), ('Ἑ', 'Ἓ'),
      ('ἠ', 'ἢ'), ('ἡ', 'ἣ'), ('Ἠ', 'Ἢ'), ('Ἡ', 'Ἣ'), ('ἰ', 'ἲ'), ('ἱ', 'ἳ'), ('Ἰ', 'Ἲ'),
      ('Ἱ', 'Ἳ'), ('ὀ', 'ὂ'), ('ὁ', 'ὃ'), ('Ὀ', 'Ὂ'), ('Ὁ', 'Ὃ'), ('ὐ', 'ὒ'), ('ὑ', 'ὓ'),
      ('Ὑ', 'Ὓ'), ('ὠ', 'ὢ'), ('ὡ', 'ὣ'), ('Ὠ', 'Ὢ'), ('Ὡ', 'Ὣ'), ('᾿', '῍'), ('῾', '῝')]),
    ('\u0301', [('A', 'Á'), ('C', 'Ć'), ('E', 'É'), ('G', 'Ǵ'), ('I', 'Í'), ('K', 'Ḱ'), ('L', 'Ĺ'),
      ('M', 'Ḿ'), ('N', 'Ń'), ('O', 'Ó'), ('P', 'Ṕ'), ('R', 'Ŕ'), ('S', 'Ś'), ('U', 'Ú'),
      ('W', 'Ẃ'), ('Y', 'Ý'), ('Z', 'Ź'), ('a', 'á'), ('c', 'ć'), ('e', 'é'), ('g', 'ǵ'),
      ('i', 'í'), ('k', 'ḱ'), ('l', 'ĺ'), ('m', 'ḿ'), ('n', 'ń'), ('o', 'ó'), ('p', 'ṕ'),
      ('r', 'ŕ'), ('s', 'ś'), ('u', 'ú'), ('w', 'ẃ'), ('y', 'ý'), ('z', 'ź'), ('¨', '΅'),
      ('Â', 'Ấ'), ('Å', 'Ǻ'), ('Æ', 'Ǽ'), ('Ç', 'Ḉ'), ('Ê', 'Ế'), ('Ï', 'Ḯ'), ('Ô', 'Ố'),
      ('Õ', 'Ṍ'), ('Ø', 'Ǿ'), ('Ü', 'Ǘ'), ('â', 'ấ'), ('å', 'ǻ'), ('æ', 'ǽ'), ('ç', 'ḉ'),
      ('ê', 'ế'), ('ï', 'ḯ'), ('ô', 'ố'), ('õ', 'ṍ'), ('ø', 'ǿ'), ('ü', 'ǘ'), ('Ă', 'Ắ'),
      ('ă', 'ắ'), ('Ē', 'Ḗ'), ('ē', 'ḗ'), ('Ō', 'Ṓ'), ('ō', 'ṓ'), ('Ũ', 'Ṹ'), ('ũ', 'ṹ'),
      ('Ơ', 'Ớ'), ('ơ', 'ớ'), ('Ư', 'Ứ'), ('ư', 'ứ'), ('Α', 'Ά'), ('Ε', 'Έ'), ('Η', 'Ή'),
      ('Ι', 'Ί'), ('Ο', 'Ό'), ('Υ', 'Ύ'), ('Ω', 'Ώ'), ('α', 'ά'), ('ε', 'έ'), ('η', 'ή'),
      ('ι', 'ί'), ('ο', 'ό'), ('υ', 'ύ'), ('ω', 'ώ'), ('ϊ', 'ΐ'), ('ϋ', 'ΰ'), ('ϒ', 'ϓ'),
      ('Г', 'Ѓ'), ('К', 'Ќ'), ('г', 'ѓ'), ('к', 'ќ'), ('ἀ', 'ἄ'), ('ἁ', 'ἅ'), ('Ἀ', 'Ἄ'),
      ('Ἁ', 'Ἅ'), ('ἐ', 'ἔ'), ('ἑ', 'ἕ'), ('Ἐ', 'Ἔ'), ('Ἑ', 'Ἕ'), ('ἠ', 'ἤ'), ('ἡ', 'ἥ'),
      ('Ἠ', 'Ἤ'), ('Ἡ', 'Ἥ'), ('ἰ', 'ἴ'), ('ἱ', 'ἵ'), ('Ἰ', 'Ἴ'), ('Ἱ', 'Ἵ'), ('ὀ', 'ὄ'),
      ('ὁ', 'ὅ'), ('Ὀ', 'Ὄ'), ('Ὁ', 'Ὅ'), ('ὐ', 'ὔ'), ('ὑ', 'ὕ'), ('Ὑ', 'Ὕ'), ('ὠ', 'ὤ'),
      ('ὡ', 'ὥ'), ('Ὠ', 'Ὤ'), ('Ὡ', 'Ὥ'), ('᾿', '῎'), ('῾', '῞')]),
    ('\u0302', [('A', 'Â'), ('C', 'Ĉ'), ('E', 'Ê'), ('G', 'Ĝ'), ('H', 'Ĥ'), ('I', 'Î'), ('J', 'Ĵ'),
      ('O', 'Ô'), ('S', 'Ŝ'), ('U', 'Û'), ('W', 'Ŵ'), ('Y', 'Ŷ'), ('Z', 'Ẑ'), ('a', 'â'),
      ('c', 'ĉ'), ('e', 'ê'), ('g', 'ĝ'), ('h', 'ĥ'), ('i', 'î'), ('j', 'ĵ'), ('o', 'ô'),
      ('s', 'ŝ'), ('u', 'û'), ('w', 'ŵ'), ('y', 'ŷ'), ('z', 'ẑ'), ('Ạ', 'Ậ'), ('ạ', 'ậ'),
      ('Ẹ', 'Ệ'), ('ẹ', 'ệ'), ('Ọ', 'Ộ'), ('ọ', 'ộ')]),
    ('\u0303', [('A', 'Ã'), ('E', 'Ẽ'), ('I', 'Ĩ'), ('N', 'Ñ'), ('O', 'Õ'), ('U', 'Ũ'), ('V', 'Ṽ'),
      ('Y', 'Ỹ'), ('a', 'ã'), ('e', 'ẽ'), ('i', 'ĩ'), ('n', 'ñ'), ('o', 'õ'), ('u', 'ũ'),
      ('v', 'ṽ'), ('y', 'ỹ'), ('Â', 'Ẫ'), ('Ê', 'Ễ'), ('Ô', 'Ỗ'), ('â', 'ẫ'), ('ê', 'ễ'),
      ('ô', 'ỗ'), ('Ă', 'Ẵ'), ('ă', 'ẵ'), ('Ơ', 'Ỡ'), ('ơ', 'ỡ'), ('Ư', 'Ữ'), ('ư', 'ữ')]),
    ('\u0304', [('A', 'Ā'), ('E', 'Ē'), ('G', 'Ḡ'), ('I', 'Ī'), ('O', 'Ō'), ('U', 'Ū'), ('Y', 'Ȳ'),
      ('a', 'ā'), ('e', 'ē'), ('g', 'ḡ'), ('i', 'ī'), ('o', 'ō'), ('u', 'ū'), ('y', 'ȳ'),
      ('Ä', 'Ǟ'), ('Æ', 'Ǣ'), ('Õ', 'Ȭ'), ('Ö', 'Ȫ'), ('Ü', 'Ǖ'), ('ä', 'ǟ'), ('æ', 'ǣ'),
      ('õ', 'ȭ'), ('ö', 'ȫ'), ('ü', 'ǖ'), ('Ǫ', 'Ǭ'), ('ǫ', 'ǭ'), ('Ȧ', 'Ǡ'), ('ȧ', 'ǡ'),
      ('Ȯ', 'Ȱ'), ('ȯ', 'ȱ'), ('Α', 'Ᾱ'), ('Ι', 'Ῑ'), ('Υ', 'Ῡ'), ('α', 'ᾱ'), ('ι', 'ῑ'),
      ('υ', 'ῡ'), ('И', 'Ӣ'), ('У', 'Ӯ'), ('и', 'ӣ'), ('у', 'ӯ'), ('Ḷ', 'Ḹ'), ('ḷ', 'ḹ'),
      ('Ṛ', 'Ṝ'), ('ṛ', 'ṝ')]),
    ('\u0306', [('A', 'Ă'), ('E', 'Ĕ'), ('G', 'Ğ'), ('I', 'Ĭ'), ('O', 'Ŏ'), ('U', 'Ŭ'), ('a', 'ă'),
      ('e', 'ĕ'), ('g', 'ğ'), ('i', 'ĭ'), ('o', 'ŏ'), ('u', 'ŭ'), ('Ȩ', 'Ḝ'), ('ȩ', 'ḝ'),
      ('Α', 'Ᾰ'), ('Ι', 'Ῐ'), ('Υ', 'Ῠ'), ('α', 'ᾰ'), ('ι', 'ῐ'), ('υ', 'ῠ'), ('А', 'Ӑ'),
      ('Е', 'Ӗ'), ('Ж', 'Ӂ'), ('И', 'Й'), ('У', 'Ў'), ('а', 'ӑ'), ('е', 'ӗ'), ('ж', 'ӂ'),
      ('и', 'й'), ('у', 'ў'), ('Ạ', 'Ặ'), ('ạ', 'ặ')]),
    ('\u0307', [('A', 'Ȧ'), ('B', 'Ḃ'), ('C', 'Ċ'), ('D', 'Ḋ'), ('E', 'Ė'), ('F', 'Ḟ'), ('G', 'Ġ'),
      ('H', 'Ḣ'), ('I', 'İ'), ('M', 'Ṁ'), ('N', 'Ṅ'), ('O', 'Ȯ'), ('P', 'Ṗ'), ('R', 'Ṙ'),
      ('S', 'Ṡ'), ('T', 'Ṫ'), ('W', 'Ẇ'), ('X', 'Ẋ'), ('Y', 'Ẏ'), ('Z', 'Ż'), ('a', 'ȧ'),
      ('b', 'ḃ'), ('c', 'ċ'), ('d', 'ḋ'), ('e', 'ė'), ('f', 'ḟ'), ('g', 'ġ'), ('h', 'ḣ'),
      ('m', 'ṁ'), ('n', 'ṅ'), ('o', 'ȯ'), ('p', 'ṗ'), ('r', 'ṙ'), ('s', 'ṡ'), ('t', 'ṫ'),
      ('w', 'ẇ'), ('x', 'ẋ'), ('y', 'ẏ'), ('z', 'ż'), ('Ś', 'Ṥ'), ('ś', 'ṥ'), ('Š', 'Ṧ'),
      ('š', 'ṧ'), ('ſ', 'ẛ'), ('Ṣ', 'Ṩ'), ('ṣ', 'ṩ')]),
    ('\u0308', [('A', 'Ä'), ('E', 'Ë'), ('H', 'Ḧ'), ('I', 'Ï'), ('O', 'Ö'), ('U', 'Ü'), ('W', 'Ẅ'),
      ('X', 'Ẍ'), ('Y', 'Ÿ'), ('a', 'ä'), ('e', 'ë'), ('h', 'ḧ'), ('i', 'ï'), ('o', 'ö'),
      ('t', 'ẗ'), ('u', 'ü'), ('w', 'ẅ'), ('x', 'ẍ'), ('y', 'ÿ'), ('Õ', 'Ṏ'), ('õ', 'ṏ'),
      ('Ū', 'Ṻ'), ('ū', 'ṻ'), ('Ι', 'Ϊ'), ('Υ', 'Ϋ'), ('ι', 'ϊ'), ('υ', 'ϋ'), ('ϒ', 'ϔ'),
      ('І', 'Ї'), ('А', 'Ӓ'), ('Е', 'Ё'), ('Ж', 'Ӝ'), ('З', 'Ӟ'), ('И', 'Ӥ'), ('О', 'Ӧ'),
      ('У', 'Ӱ'), ('Ч', 'Ӵ'), ('Ы', 'Ӹ'), ('Э', 'Ӭ'), ('а', 'ӓ'), ('е', 'ё'), ('ж', 'ӝ'),
      ('з', 'ӟ'), ('и', 'ӥ'), ('о', 'ӧ'), ('у', 'ӱ'), ('ч', 'ӵ'), ('ы', 'ӹ'), ('э', 'ӭ'),
      ('і', 'ї'), ('Ә', 'Ӛ'), ('ә', 'ӛ'), ('Ө', 'Ӫ'), ('ө', 'ӫ')]),
    ('\u0309', [('A', 'Ả'), ('E', 'Ẻ'), ('I', 'Ỉ'), ('O', 'Ỏ'), ('U', 'Ủ'), ('Y', 'Ỷ'), ('a', 'ả'),
      ('e', 'ẻ'), ('i', 'ỉ'), ('o', 'ỏ'), ('u', 'ủ'), ('y', 'ỷ'), ('Â', 'Ẩ'), ('Ê', 'Ể'),
      ('Ô', 'Ổ'), ('â', 'ẩ'), ('ê', 'ể'), ('ô', 'ổ'), ('Ă', 'Ẳ'), ('ă', 'ẳ'), ('Ơ', 'Ở'),
      ('ơ', 'ở'), ('Ư', 'Ử'), ('ư', 'ử')]),
    ('\u030a', [('A', 'Å'), ('U', 'Ů'), ('a', 'å'), ('u', 'ů'), ('w', 'ẘ'), ('y', 'ẙ')]),
    ('\u030b', [('O', 'Ő'), ('U', 'Ű'), ('o', 'ő'), ('u', 'ű'), ('У', 'Ӳ'), ('у', 'ӳ')]),
    ('\u030c', [('A', 'Ǎ'), ('C', 'Č'), ('D', 'Ď'), ('E', 'Ě'), ('G', 'Ǧ'), ('H', 'Ȟ'), ('I', 'Ǐ'),
      ('K', 'Ǩ'), ('L', 'Ľ'), ('N', 'Ň'), ('O', 'Ǒ'), ('R', 'Ř'), ('S', 'Š'), ('T', 'Ť'),
      ('U', 'Ǔ'), ('Z', 'Ž'), ('a', 'ǎ'), ('c', 'č'), ('d', 'ď'), ('e', 'ě'), ('g', 'ǧ'),
      ('h', 'ȟ'), ('i', 'ǐ'), ('j', 'ǰ'), ('k', 'ǩ'), ('l', 'ľ'), ('n', 'ň'), ('o', 'ǒ'),
      ('r', 'ř'), ('s', 'š'), ('t', 'ť'), ('u', 'ǔ'), ('z', 'ž'), ('Ü', 'Ǚ'), ('ü', 'ǚ'),
      ('Ʒ', 'Ǯ'), ('ʒ', 'ǯ')]),
    ('\u030f', [('A', 'Ȁ'), ('E', 'Ȅ'), ('I', 'Ȉ'), ('O', 'Ȍ'), ('R', 'Ȑ'), ('U', 'Ȕ'), ('a', 'ȁ'),
      ('e', 'ȅ'), ('i', 'ȉ'), ('o', 'ȍ'), ('r', 'ȑ'), ('u', 'ȕ'), ('Ѵ', 'Ѷ'), ('ѵ', 'ѷ')]),
    ('\u0311', [('A', 'Ȃ'), ('E', 'Ȇ'), ('I', 'Ȋ'), ('O', 'Ȏ'), ('R', 'Ȓ'), ('U', 'Ȗ'), ('a', 'ȃ'),
      ('e', 'ȇ'), ('i', 'ȋ'), ('o', 'ȏ'), ('r', 'ȓ'), ('u', 'ȗ')]),
    ('\u0313', [('Α', 'Ἀ'), ('Ε', 'Ἐ'), ('Η', 'Ἠ'), ('Ι', 'Ἰ'), ('Ο', 'Ὀ'), ('Ω', 'Ὠ'), ('α', 'ἀ'),
      ('ε', 'ἐ'), ('η', 'ἠ'), ('ι', 'ἰ'), ('ο', 'ὀ'), ('ρ', 'ῤ'), ('υ', 'ὐ'), ('ω', 'ὠ')]),
    ('\u0314', [('Α', 'Ἁ'), ('Ε', 'Ἑ'), ('Η', 'Ἡ'), ('Ι', 'Ἱ'), ('Ο', 'Ὁ'), ('Ρ', 'Ῥ'), ('Υ', 'Ὑ'),
      ('Ω', 'Ὡ'), ('α', 'ἁ'), ('ε', 'ἑ'), ('η', 'ἡ'), ('ι', 'ἱ'), ('ο', 'ὁ'), ('ρ', 'ῥ'),
      ('υ', 'ὑ'), ('ω', 'ὡ')]),
    ('\u031b', [('O', 'Ơ'), ('U', 'Ư'), ('o', 'ơ'), ('u', 'ư')]),
    ('\u0323', [('A', 'Ạ'), ('B', 'Ḅ'), ('D', 'Ḍ'), ('E', 'Ẹ'), ('H', 'Ḥ'), ('I', 'Ị'), ('K', 'Ḳ'),
      ('L', 'Ḷ'), ('M', 'Ṃ'), ('N', 'Ṇ'), ('O', 'Ọ'), ('R', 'Ṛ'), ('S', 'Ṣ'), ('T', 'Ṭ'),
      ('U', 'Ụ'), ('V', 'Ṿ'), ('W', 'Ẉ'), ('Y', 'Ỵ'), ('Z', 'Ẓ'), ('a', 'ạ'), ('b', 'ḅ'),
      ('d', 'ḍ'), ('e', 'ẹ'), ('h', 'ḥ'), ('i', 'ị'), ('k', 'ḳ'), ('l', 'ḷ'), ('m', 'ṃ'),
      ('n', 'ṇ'), ('o', 'ọ'), ('r', 'ṛ'), ('s', 'ṣ'), ('t', 'ṭ'), ('u', 'ụ'), ('v', 'ṿ'),
      ('w', 'ẉ'), ('y', 'ỵ'), ('z', 'ẓ'), ('Ơ', 'Ợ'), ('ơ', 'ợ'), ('Ư', 'Ự'), ('ư', 'ự')]),
    ('\u0324', [('U', 'Ṳ'), ('u', 'ṳ')]),
    ('\u0325', [('A', 'Ḁ'), ('a', 'ḁ')]),
    ('\u0326', [('S', 'Ș'), ('T', 'Ț'), ('s', 'ș'), ('t', 'ț')]),
    ('\u0327', [('C', 'Ç'), ('D', 'Ḑ'), ('E', 'Ȩ'), ('G', 'Ģ'), ('H', 'Ḩ'), ('K', 'Ķ'), ('L', 'Ļ'),
      ('N', 'Ņ'), ('R', 'Ŗ'), ('S', 'Ş'), ('T', 'Ţ'), ('c', 'ç'), ('d', 'ḑ'), ('e', 'ȩ'),
      ('g', 'ģ'), ('h', 'ḩ'), ('k', 'ķ'), ('l', 'ļ'), ('n', 'ņ'), ('r', 'ŗ'), ('s', 'ş'),
      ('t', 'ţ')]),
    ('\u0328', [('A', 'Ą'), ('E', 'Ę'), ('I', 'Į'), ('O', 'Ǫ'), ('U', 'Ų'), ('a', 'ą'), ('e', 'ę'),
      ('i', 'į'), ('o', 'ǫ'), ('u', 'ų')]),
    ('\u032d', [('D', 'Ḓ'), ('E', 'Ḙ'), ('L', 'Ḽ'), ('N', 'Ṋ'), ('T', 'Ṱ'), ('U', 'Ṷ'), ('d', 'ḓ'),
      ('e', 'ḙ'), ('l', 'ḽ'), ('n', 'ṋ'), ('t', 'ṱ'), ('u', 'ṷ')]),
    ('\u032e', [('H', 'Ḫ'), ('h', 'ḫ')]),
    ('\u0330', [('E', 'Ḛ'), ('I', 'Ḭ'), ('U', 'Ṵ'), ('e', 'ḛ'), ('i', 'ḭ'), ('u', 'ṵ')]),
    ('\u0331', [('B', 'Ḇ'), ('D', 'Ḏ'), ('K', 'Ḵ'), ('L', 'Ḻ'), ('N', 'Ṉ'), ('R', 'Ṟ'), ('T', 'Ṯ'),
      ('Z', 'Ẕ'), ('b', 'ḇ'), ('d', 'ḏ'), ('h', 'ẖ'), ('k', 'ḵ'), ('l', 'ḻ'), ('n', 'ṉ'),
      ('r', 'ṟ'), ('t', 'ṯ'), ('z', 'ẕ')]),
    ('\u0338', [('<', '≮'), ('=', '≠'), ('>', '≯'), ('←', '↚'), ('→', '↛'), ('↔', '↮'), ('⇐', '⇍'),
      ('⇒', '⇏'), ('⇔', '⇎'), ('∃', '∄'), ('∈', '∉'), ('∋', '∌'), ('∣', '∤'), ('∥', '∦'),
      ('∼', '≁'), ('≃', '≄'), ('≅', '≇'), ('≈', '≉'), ('≍', '≭'), ('≡', '≢'), ('≤', '≰'),
      ('≥', '≱'), ('≲', '≴'), ('≳', '≵'), ('≶', '≸'), ('≷', '≹'), ('≺', '⊀'), ('≻', '⊁'),
      ('≼', '⋠'), ('≽', '⋡'), ('⊂', '⊄'), ('⊃', '⊅'), ('⊆', '⊈'), ('⊇', '⊉'), ('⊑', '⋢'),
      ('⊒', '⋣'), ('⊢', '⊬'), ('⊨', '⊭'), ('⊩', '⊮'), ('⊫', '⊯'), ('⊲', '⋪'), ('⊳', '⋫'),
      ('⊴', '⋬'), ('⊵', '⋭')]),
    ('\u0342', [('¨', '῁'), ('α', 'ᾶ'), ('η', 'ῆ'), ('ι', 'ῖ'), ('υ', 'ῦ'), ('ω', 'ῶ'), ('ϊ', 'ῗ'),
      ('ϋ', 'ῧ'), ('ἀ', 'ἆ'), ('ἁ', 'ἇ'), ('Ἀ', 'Ἆ'), ('Ἁ', 'Ἇ'), ('ἠ', 'ἦ'), ('ἡ', 'ἧ'),
      ('Ἠ', 'Ἦ'), ('Ἡ', 'Ἧ'), ('ἰ', 'ἶ'), ('ἱ', 'ἷ'), ('Ἰ', 'Ἶ'), ('Ἱ', 'Ἷ'), ('ὐ', 'ὖ'),
      ('ὑ', 'ὗ'), ('Ὑ', 'Ὗ'), ('ὠ', 'ὦ'), ('ὡ', 'ὧ'), ('Ὠ', 'Ὦ'), ('Ὡ', 'Ὧ'), ('᾿', '῏'),
      ('῾', '῟')]),
    ('\u0345', [('Α', 'ᾼ'), ('Η', 'ῌ'), ('Ω', 'ῼ'), ('ά', 'ᾴ'), ('ή', 'ῄ'), ('α', 'ᾳ'), ('η', 'ῃ'),
      ('ω', 'ῳ'), ('ώ', 'ῴ'), ('ἀ', 'ᾀ'), ('ἁ', 'ᾁ'), ('ἂ', 'ᾂ'), ('ἃ', 'ᾃ'), ('ἄ', 'ᾄ'),
      ('ἅ', 'ᾅ'), ('ἆ', 'ᾆ'), ('ἇ', 'ᾇ'), ('Ἀ', 'ᾈ'), ('Ἁ', 'ᾉ'), ('Ἂ', 'ᾊ'), ('Ἃ', 'ᾋ'),
      ('Ἄ', 'ᾌ'), ('Ἅ', 'ᾍ'), ('Ἆ', 'ᾎ'), ('Ἇ', 'ᾏ'), ('ἠ', 'ᾐ'), ('ἡ', 'ᾑ'), ('ἢ', 'ᾒ'),
      ('ἣ', 'ᾓ'), ('ἤ', 'ᾔ'), ('ἥ', 'ᾕ'), ('ἦ', 'ᾖ'), ('ἧ', 'ᾗ'), ('Ἠ', 'ᾘ'), ('Ἡ', 'ᾙ'),
      ('Ἢ', 'ᾚ'), ('Ἣ', 'ᾛ'), ('Ἤ', 'ᾜ'), ('Ἥ', 'ᾝ'), ('Ἦ', 'ᾞ'), ('Ἧ', 'ᾟ'), ('ὠ', 'ᾠ'),
      ('ὡ', 'ᾡ'), ('ὢ', 'ᾢ'), ('ὣ', 'ᾣ'), ('ὤ', 'ᾤ'), ('ὥ', 'ᾥ'), ('ὦ', 'ᾦ'), ('ὧ', 'ᾧ'),
      ('Ὠ', 'ᾨ'), ('Ὡ', 'ᾩ'), ('Ὢ', 'ᾪ'), ('Ὣ', 'ᾫ'), ('Ὤ', 'ᾬ'), ('Ὥ', 'ᾭ'), ('Ὦ', 'ᾮ'),
      ('Ὧ', 'ᾯ'), ('ὰ', 'ᾲ'), ('ὴ', 'ῂ'), ('ὼ', 'ῲ'), ('ᾶ', 'ᾷ'), ('ῆ', 'ῇ'), ('ῶ', 'ῷ')]),
    ('\u0653', [('\u0627', '\u0622')]),
    ('\u0654', [('\u0627', '\u0623'), ('\u0648', '\u0624'), ('\u064a', '\u0626'),
      ('\u06c1', '\u06c2'), ('\u06d2', '\u06d3'), ('\u06d5', '\u06c0')]),
    ('\u0655', [('\u0627', '\u0625')]),
    ('\u093c', [('न', 'ऩ'), ('र', 'ऱ'), ('ळ', 'ऴ')]),
    ('\u09be', [('\u09c7', '\u09cb')]),
    ('\u09d7', [('\u09c7', '\u09cc')]),
    ('\u0b3e', [('\u0b47', '\u0b4b')]),
    ('\u0b56', [('\u0b47', '\u0b48')]),
    ('\u0b57', [('\u0b47', '\u0b4c')]),
    ('\u0bbe', [('\u0bc6', '\u0bca'), ('\u0bc7', '\u0bcb')]),
    ('\u0bd7', [('ஒ', 'ஔ'), ('\u0bc6', '\u0bcc')]),
    ('\u0c56', [('\u0c46', '\u0c48')]),
    ('\u0cc2', [('\u0cc6', '\u0cca')]),
    ('\u0cd5', [('\u0cbf', '\u0cc0'), ('\u0cc6', '\u0cc7'), ('\u0cca', '\u0ccb')]),
    ('\u0cd6', [('\u0cc6', '\u0cc8')]),
    ('\u0d3e', [('\u0d46', '\u0d4a'), ('\u0d47', '\u0d4b')]),
    ('\u0d57', [('\u0d46', '\u0d4c')]),
    ('\u0dca', [('\u0dd9', '\u0dda'), ('\u0ddc', '\u0ddd')]),
    ('\u0dcf', [('\u0dd9', '\u0ddc')]),
    ('\u0ddf', [('\u0dd9', '\u0dde')]),
    ('\u102e', [('ဥ', 'ဦ')]),
    ('\u1b35', [('ᬅ', 'ᬆ'), ('ᬇ', 'ᬈ'), ('ᬉ', 'ᬊ'), ('ᬋ', 'ᬌ'), ('ᬍ', 'ᬎ'), ('ᬑ', 'ᬒ'),
      ('\u1b3a', '\u1b3b'), ('\u1b3c', '\u1b3d'), ('\u1b3e', '\u1b40'), ('\u1b3f', '\u1b41'),
      ('\u1b42', '\u1b43')]),
    ('\u3099', [('う', 'ゔ'), ('か', 'が'), ('き', 'ぎ'), ('く', 'ぐ'), ('け', 'げ'), ('こ', 'ご'), ('さ', 'ざ'),
      ('し', 'じ'), ('す', 'ず'), ('せ', 'ぜ'), ('そ', 'ぞ'), ('た', 'だ'), ('ち', 'ぢ'), ('つ', 'づ'),
      ('て', 'で'), ('と', 'ど'), ('は', 'ば'), ('ひ', 'び'), ('ふ', 'ぶ'), ('へ', 'べ'), ('ほ', 'ぼ'),
      ('ゝ', 'ゞ'), ('ウ', 'ヴ'), ('カ', 'ガ'), ('キ', 'ギ'), ('ク', 'グ'), ('ケ', 'ゲ'), ('コ', 'ゴ'),
      ('サ', 'ザ'), ('シ', 'ジ'), ('ス', 'ズ'), ('セ', 'ゼ'), ('ソ', 'ゾ'), ('タ', 'ダ'), ('チ', 'ヂ'),
      ('ツ', 'ヅ'), ('テ', 'デ'), ('ト', 'ド'), ('ハ', 'バ'), ('ヒ', 'ビ'), ('フ', 'ブ'), ('ヘ', 'ベ'),
      ('ホ', 'ボ'), ('ワ', 'ヷ'), ('ヰ', 'ヸ'), ('ヱ', 'ヹ'), ('ヲ', 'ヺ'), ('ヽ', 'ヾ')]),
    ('\u309a', [('は', 'ぱ'), ('ひ', 'ぴ'), ('ふ', 'ぷ'), ('へ', 'ぺ'), ('ほ', 'ぽ'), ('ハ', 'パ'), ('ヒ', 'ピ'),
      ('フ', 'プ'), ('ヘ', 'ペ'), ('ホ', 'ポ')])]

def distantCompositions : List (Nat × Nat × Nat) :=
  [(0x105d2, 0x307, 0x105c9), (0x105da, 0x307, 0x105e4), (0x11099, 0x110ba, 0x1109a),
    (0x1109b, 0x110ba, 0x1109c), (0x110a5, 0x110ba, 0x110ab), (0x11131, 0x11127, 0x1112e),
    (0x11132, 0x11127, 0x1112f), (0x11347, 0x1133e, 0x1134b), (0x11347, 0x11357, 0x1134c),
    (0x113c2, 0x113b8, 0x113c7), (0x11384, 0x113bb, 0x11385), (0x1138b, 0x113c2, 0x1138e),
    (0x113c2, 0x113c2, 0x113c5), (0x11382, 0x113c9, 0x11383), (0x11390, 0x113c9, 0x11391),
    (0x113c2, 0x113c9, 0x113c8), (0x114b9, 0x114b0, 0x114bc), (0x114b9, 0x114ba, 0x114bb),
    (0x114b9, 0x114bd, 0x114be), (0x115b8, 0x115af, 0x115ba), (0x115b9, 0x115af, 0x115bb),
    (0x11935, 0x11930, 0x11938), (0x1611e, 0x1611e, 0x16121), (0x1611e, 0x1611f, 0x16123),
    (0x16121, 0x1611f, 0x16126), (0x16122, 0x1611f, 0x16127), (0x16129, 0x1611f, 0x16124),
    (0x1611e, 0x16120, 0x16125), (0x16121, 0x16120, 0x16128), (0x1611e, 0x16129, 0x16122),
    (0x16d63, 0x16d67, 0x16d69), (0x16d67, 0x16d67, 0x16d68), (0x16d69, 0x16d67, 0x16d6a)]

def compositions : List Composition :=
  (compositionRows.flatMap fun (second, pairs) =>
    pairs.map fun (first, whole) => ⟨first, second, whole⟩) ++
  distantCompositions.map fun (first, second, whole) =>
    ⟨.ofNat first, .ofNat second, .ofNat whole⟩

example : compositions.length = 961 := by decide +kernel

namespace Syllable

def firstLead : Nat := 0x1100
def leadCount : Nat := 19
def firstVowel : Nat := 0x1161
def vowelCount : Nat := 21

/-- One before the first: a syllable may have no tail, which counts as one of the tails. -/
def beforeTails : Nat := 0x11a7
def tailCount : Nat := 28
def firstCode : Nat := 0xac00
def count : Nat := leadCount * vowelCount * tailCount

def compose? (left right : Nat) : Option Nat :=
  if firstLead ≤ left ∧ left < firstLead + leadCount then
    if firstVowel ≤ right ∧ right < firstVowel + vowelCount then
      some (firstCode + ((left - firstLead) * vowelCount + (right - firstVowel)) * tailCount)
    else none
  else if firstCode ≤ left ∧ left < firstCode + count ∧ (left - firstCode) % tailCount = 0 then
    if beforeTails < right ∧ right < beforeTails + tailCount then
      some (left + (right - beforeTails))
    else none
  else none

def divide? (code : Nat) : Option (Nat × Nat) :=
  if firstCode ≤ code ∧ code < firstCode + count then
    let index := code - firstCode
    let syllable := index / tailCount
    if index % tailCount = 0 then
      some (firstLead + syllable / vowelCount, firstVowel + syllable % vowelCount)
    else some (code - index % tailCount, beforeTails + index % tailCount)
  else none

theorem compose?_of_divide? {code left right : Nat} (divided : divide? code = some (left, right)) :
    compose? left right = some code := by
  simp only [divide?] at divided
  split at divided
  next within =>
    split at divided
    next =>
      simp only [Option.some.injEq, Prod.mk.injEq] at divided
      obtain ⟨rfl, rfl⟩ := divided
      simp only [firstCode, count, leadCount, vowelCount, tailCount] at *
      rw [compose?, if_pos (by simp only [leadCount]; omega),
        if_pos (by simp only [vowelCount]; omega)]
      simp only [firstCode, vowelCount, tailCount, Option.some.injEq]
      omega
    next =>
      simp only [Option.some.injEq, Prod.mk.injEq] at divided
      obtain ⟨rfl, rfl⟩ := divided
      simp only [firstCode, count, leadCount, vowelCount, tailCount] at *
      rw [compose?, if_neg (by simp only [firstLead, leadCount]; omega),
        if_pos (by simp only [firstCode, count, leadCount, vowelCount, tailCount]; omega),
        if_pos (by simp only [tailCount]; omega), Option.some.injEq]
      omega
  next => simp at divided

end Syllable

/-- No character before U+0300 is second in a pair. -/
def compose? (first second : Char) : Option Char :=
  if second.toNat < 0x300 then none
  else
    match Syllable.compose? first.toNat second.toNat with
    | some code => some (.ofNat code)
    | none =>
      (compositions.find? fun pair => pair.second == second && pair.first == first).map (·.whole)

/-- No character before U+00C0 is a whole. -/
def divide? (c : Char) : Option (Char × Char) :=
  if c.toNat < 0xc0 then none
  else
    match Syllable.divide? c.toNat with
    | some (left, right) => some (.ofNat left, .ofNat right)
    | none =>
      (compositions.find? fun pair => pair.whole == c).map fun pair => (pair.first, pair.second)

end OrdersContract.Text
