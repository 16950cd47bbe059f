import OrdersContract.Text.CodeRange

set_option autoImplicit false

namespace OrdersContract.Address

/-- Code points from `first` to `last`, `stride` apart, whose image is `shift` further. -/
structure ImageRun where
  first : Nat
  last : Nat
  stride : Nat
  shift : Int

def imageRuns : List ImageRun :=
  [⟨0xc0, 0xd6, 1, 32⟩, ⟨0xd8, 0xde, 1, 32⟩, ⟨0x100, 0x12e, 2, 1⟩, ⟨0x139, 0x13d, 2, 1⟩,
    ⟨0x141, 0x147, 2, 1⟩, ⟨0x14a, 0x176, 2, 1⟩, ⟨0x179, 0x17d, 2, 1⟩, ⟨0x1a0, 0x1a4, 2, 1⟩,
    ⟨0x1cd, 0x1db, 2, 1⟩, ⟨0x1de, 0x1ee, 2, 1⟩, ⟨0x1f8, 0x21e, 2, 1⟩, ⟨0x222, 0x232, 2, 1⟩,
    ⟨0x246, 0x24e, 2, 1⟩, ⟨0x388, 0x38a, 1, 37⟩, ⟨0x391, 0x3a1, 1, 32⟩, ⟨0x3a3, 0x3ab, 1, 32⟩,
    ⟨0x3d8, 0x3ee, 2, 1⟩, ⟨0x3fd, 0x3ff, 1, -130⟩, ⟨0x400, 0x40f, 1, 80⟩, ⟨0x410, 0x42f, 1, 32⟩,
    ⟨0x460, 0x480, 2, 1⟩, ⟨0x48a, 0x4be, 2, 1⟩, ⟨0x4c1, 0x4cd, 2, 1⟩, ⟨0x4d0, 0x52e, 2, 1⟩,
    ⟨0x531, 0x556, 1, 48⟩, ⟨0x10a0, 0x10c5, 1, 7264⟩, ⟨0x13f8, 0x13fd, 1, -8⟩,
    ⟨0x1c90, 0x1cba, 1, -3008⟩, ⟨0x1cbd, 0x1cbf, 1, -3008⟩, ⟨0x1d33, 0x1d3a, 1, -7372⟩,
    ⟨0x1d5d, 0x1d5f, 1, -6571⟩, ⟨0x1da4, 0x1da6, 1, -6972⟩, ⟨0x1dae, 0x1db1, 1, -6972⟩,
    ⟨0x1dbc, 0x1dbe, 1, -6956⟩, ⟨0x1e00, 0x1e94, 2, 1⟩, ⟨0x1ea0, 0x1efe, 2, 1⟩,
    ⟨0x1f08, 0x1f0f, 1, -8⟩, ⟨0x1f18, 0x1f1d, 1, -8⟩, ⟨0x1f28, 0x1f2f, 1, -8⟩,
    ⟨0x1f38, 0x1f3f, 1, -8⟩, ⟨0x1f48, 0x1f4d, 1, -8⟩, ⟨0x1f59, 0x1f5f, 2, -8⟩,
    ⟨0x1f68, 0x1f6f, 1, -8⟩, ⟨0x2074, 0x2079, 1, -8256⟩, ⟨0x2080, 0x2089, 1, -8272⟩,
    ⟨0x2096, 0x2099, 1, -8235⟩, ⟨0x2119, 0x211b, 1, -8361⟩, ⟨0x2135, 0x2138, 1, -7013⟩,
    ⟨0x2460, 0x2468, 1, -9263⟩, ⟨0x24b6, 0x24cf, 1, -9301⟩, ⟨0x24d0, 0x24e9, 1, -9327⟩,
    ⟨0x2c00, 0x2c2f, 1, 48⟩, ⟨0x2c67, 0x2c6b, 2, 1⟩, ⟨0x2c80, 0x2ce2, 2, 1⟩,
    ⟨0x3137, 0x3139, 1, -8244⟩, ⟨0x313a, 0x313f, 1, -8074⟩, ⟨0x3141, 0x3143, 1, -8251⟩,
    ⟨0x3145, 0x314e, 1, -8252⟩, ⟨0x314f, 0x3163, 1, -8174⟩, ⟨0x3178, 0x317c, 1, -8269⟩,
    ⟨0x3184, 0x3186, 1, -8237⟩, ⟨0x3263, 0x3265, 1, -8542⟩, ⟨0x3269, 0x326d, 1, -8539⟩,
    ⟨0x32e4, 0x32e9, 1, -538⟩, ⟨0x32ee, 0x32f2, 1, -528⟩, ⟨0x32f5, 0x32fa, 1, -525⟩,
    ⟨0x32fb, 0x32fe, 1, -524⟩, ⟨0xa640, 0xa66c, 2, 1⟩, ⟨0xa680, 0xa69a, 2, 1⟩,
    ⟨0xa722, 0xa72e, 2, 1⟩, ⟨0xa732, 0xa76e, 2, 1⟩, ⟨0xa77e, 0xa786, 2, 1⟩, ⟨0xa796, 0xa7a8, 2, 1⟩,
    ⟨0xa7b4, 0xa7c2, 2, 1⟩, ⟨0xa7cc, 0xa7da, 2, 1⟩, ⟨0xab70, 0xabbf, 1, -38864⟩,
    ⟨0xfb24, 0xfb26, 1, -62793⟩, ⟨0xfe41, 0xfe44, 1, -52789⟩, ⟨0xff01, 0xff20, 1, -65248⟩,
    ⟨0xff21, 0xff3a, 1, -65216⟩, ⟨0xff3b, 0xff5e, 1, -65248⟩, ⟨0xff85, 0xff8a, 1, -52923⟩,
    ⟨0xff8f, 0xff93, 1, -52913⟩, ⟨0xff96, 0xff9b, 1, -52910⟩, ⟨0xffa7, 0xffa9, 1, -61092⟩,
    ⟨0xffaa, 0xffaf, 1, -60922⟩, ⟨0xffb1, 0xffb3, 1, -61099⟩, ⟨0xffb5, 0xffbe, 1, -61100⟩,
    ⟨0xffc2, 0xffc7, 1, -61025⟩, ⟨0xffca, 0xffcf, 1, -61027⟩, ⟨0xffd2, 0xffd7, 1, -61029⟩,
    ⟨0xffda, 0xffdc, 1, -61031⟩, ⟨0xffe9, 0xffec, 1, -56921⟩, ⟨0x10400, 0x10427, 1, 40⟩,
    ⟨0x104b0, 0x104d3, 1, 40⟩, ⟨0x10570, 0x1057a, 1, 39⟩, ⟨0x1057c, 0x1058a, 1, 39⟩,
    ⟨0x1058c, 0x10592, 1, 39⟩, ⟨0x107b6, 0x107b8, 1, -67062⟩, ⟨0x10c80, 0x10cb2, 1, 64⟩,
    ⟨0x10d50, 0x10d65, 1, 32⟩, ⟨0x118a0, 0x118bf, 1, 32⟩, ⟨0x16e40, 0x16e5f, 1, 32⟩,
    ⟨0x16ea0, 0x16eb8, 1, 27⟩, ⟨0x1ccd6, 0x1ccef, 1, -117877⟩, ⟨0x1ccf0, 0x1ccf9, 1, -117952⟩,
    ⟨0x1d400, 0x1d419, 1, -119711⟩, ⟨0x1d41a, 0x1d433, 1, -119737⟩, ⟨0x1d434, 0x1d44d, 1, -119763⟩,
    ⟨0x1d44e, 0x1d454, 1, -119789⟩, ⟨0x1d456, 0x1d467, 1, -119789⟩, ⟨0x1d468, 0x1d481, 1, -119815⟩,
    ⟨0x1d482, 0x1d49b, 1, -119841⟩, ⟨0x1d4a9, 0x1d4ac, 1, -119867⟩, ⟨0x1d4ae, 0x1d4b5, 1, -119867⟩,
    ⟨0x1d4b6, 0x1d4b9, 1, -119893⟩, ⟨0x1d4bd, 0x1d4c3, 1, -119893⟩, ⟨0x1d4c5, 0x1d4cf, 1, -119893⟩,
    ⟨0x1d4d0, 0x1d4e9, 1, -119919⟩, ⟨0x1d4ea, 0x1d503, 1, -119945⟩, ⟨0x1d507, 0x1d50a, 1, -119971⟩,
    ⟨0x1d50d, 0x1d514, 1, -119971⟩, ⟨0x1d516, 0x1d51c, 1, -119971⟩, ⟨0x1d51e, 0x1d537, 1, -119997⟩,
    ⟨0x1d53b, 0x1d53e, 1, -120023⟩, ⟨0x1d540, 0x1d544, 1, -120023⟩, ⟨0x1d54a, 0x1d550, 1, -120023⟩,
    ⟨0x1d552, 0x1d56b, 1, -120049⟩, ⟨0x1d56c, 0x1d585, 1, -120075⟩, ⟨0x1d586, 0x1d59f, 1, -120101⟩,
    ⟨0x1d5a0, 0x1d5b9, 1, -120127⟩, ⟨0x1d5ba, 0x1d5d3, 1, -120153⟩, ⟨0x1d5d4, 0x1d5ed, 1, -120179⟩,
    ⟨0x1d5ee, 0x1d607, 1, -120205⟩, ⟨0x1d608, 0x1d621, 1, -120231⟩, ⟨0x1d622, 0x1d63b, 1, -120257⟩,
    ⟨0x1d63c, 0x1d655, 1, -120283⟩, ⟨0x1d656, 0x1d66f, 1, -120309⟩, ⟨0x1d670, 0x1d689, 1, -120335⟩,
    ⟨0x1d68a, 0x1d6a3, 1, -120361⟩, ⟨0x1d6a8, 0x1d6b8, 1, -119543⟩, ⟨0x1d6ba, 0x1d6c0, 1, -119543⟩,
    ⟨0x1d6c2, 0x1d6d2, 1, -119569⟩, ⟨0x1d6d4, 0x1d6da, 1, -119569⟩, ⟨0x1d6e2, 0x1d6f2, 1, -119601⟩,
    ⟨0x1d6f4, 0x1d6fa, 1, -119601⟩, ⟨0x1d6fc, 0x1d70c, 1, -119627⟩, ⟨0x1d70e, 0x1d714, 1, -119627⟩,
    ⟨0x1d71c, 0x1d72c, 1, -119659⟩, ⟨0x1d72e, 0x1d734, 1, -119659⟩, ⟨0x1d736, 0x1d746, 1, -119685⟩,
    ⟨0x1d748, 0x1d74e, 1, -119685⟩, ⟨0x1d756, 0x1d766, 1, -119717⟩, ⟨0x1d768, 0x1d76e, 1, -119717⟩,
    ⟨0x1d770, 0x1d780, 1, -119743⟩, ⟨0x1d782, 0x1d788, 1, -119743⟩, ⟨0x1d790, 0x1d7a0, 1, -119775⟩,
    ⟨0x1d7a2, 0x1d7a8, 1, -119775⟩, ⟨0x1d7aa, 0x1d7ba, 1, -119801⟩, ⟨0x1d7bc, 0x1d7c2, 1, -119801⟩,
    ⟨0x1d7ce, 0x1d7d7, 1, -120734⟩, ⟨0x1d7d8, 0x1d7e1, 1, -120744⟩, ⟨0x1d7e2, 0x1d7eb, 1, -120754⟩,
    ⟨0x1d7ec, 0x1d7f5, 1, -120764⟩, ⟨0x1d7f6, 0x1d7ff, 1, -120774⟩, ⟨0x1e030, 0x1e038, 1, -121856⟩,
    ⟨0x1e039, 0x1e03b, 1, -121855⟩, ⟨0x1e03c, 0x1e046, 1, -121854⟩, ⟨0x1e051, 0x1e059, 1, -121889⟩,
    ⟨0x1e05f, 0x1e064, 1, -121884⟩, ⟨0x1e900, 0x1e921, 1, 34⟩, ⟨0x1ee0a, 0x1ee0d, 1, -124871⟩,
    ⟨0x1ee2a, 0x1ee2d, 1, -124903⟩, ⟨0x1ee8b, 0x1ee8d, 1, -124999⟩, ⟨0x1eeab, 0x1eead, 1, -125031⟩,
    ⟨0x1f130, 0x1f149, 1, -127183⟩, ⟨0x1fbf0, 0x1fbf9, 1, -129984⟩]

/-- A first and a last code point, and the images from one to the other. -/
def imageRows : List (Nat × Nat × String) :=
  [(0xa0, 0xa0, " "), (0xaa, 0xaa, "a"), (0xb2, 0xb3, "23"), (0xb5, 0xb5, "μ"), (0xb9, 0xba, "1o"),
    (0x134, 0x134, "ĵ"), (0x136, 0x136, "ķ"), (0x178, 0x178, "ÿ"), (0x17f, 0x17f, "s"),
    (0x181, 0x182, "ɓƃ"), (0x184, 0x184, "ƅ"), (0x186, 0x187, "ɔƈ"), (0x189, 0x18b, "ɖɗƌ"),
    (0x18e, 0x191, "ǝəɛƒ"), (0x193, 0x194, "ɠɣ"), (0x196, 0x198, "ɩɨƙ"), (0x19c, 0x19d, "ɯɲ"),
    (0x19f, 0x19f, "ɵ"), (0x1a6, 0x1a7, "ʀƨ"), (0x1a9, 0x1a9, "ʃ"), (0x1ac, 0x1ac, "ƭ"),
    (0x1ae, 0x1af, "ʈư"), (0x1b1, 0x1b3, "ʊʋƴ"), (0x1b5, 0x1b5, "ƶ"), (0x1b7, 0x1b8, "ʒƹ"),
    (0x1bc, 0x1bc, "ƽ"), (0x1f4, 0x1f4, "ǵ"), (0x1f6, 0x1f7, "ƕƿ"), (0x220, 0x220, "ƞ"),
    (0x23a, 0x23b, "ⱥȼ"), (0x23d, 0x23e, "ƚⱦ"), (0x241, 0x241, "ɂ"), (0x243, 0x245, "ƀʉʌ"),
    (0x2b0, 0x2b8, "hɦjrɹɻʁwy"), (0x2e0, 0x2e4, "ɣlsxʕ"), (0x340, 0x341, "\u0300\u0301"),
    (0x343, 0x343, "\u0313"), (0x345, 0x345, "ι"), (0x370, 0x370, "ͱ"), (0x372, 0x372, "ͳ"),
    (0x374, 0x374, "ʹ"), (0x376, 0x376, "ͷ"), (0x37e, 0x37f, ";ϳ"), (0x386, 0x387, "ά·"),
    (0x38c, 0x38c, "ό"), (0x38e, 0x38f, "ύώ"), (0x3cf, 0x3d6, "ϗβθυύϋφπ"), (0x3f0, 0x3f2, "κρσ"),
    (0x3f4, 0x3f5, "θε"), (0x3f7, 0x3f7, "ϸ"), (0x3f9, 0x3fa, "σϻ"), (0x4c0, 0x4c0, "ӏ"),
    (0x558, 0x558, "ՠ"), (0x58c, 0x58c, "ֈ"), (0xf0c, 0xf0c, "་"), (0x10c7, 0x10c7, "ⴧ"),
    (0x10cd, 0x10cd, "ⴭ"), (0x10fc, 0x10fc, "ნ"), (0x1c80, 0x1c89, "вдосттъѣꙋᲊ"),
    (0x1d2c, 0x1d2e, "aæb"), (0x1d30, 0x1d32, "deǝ"), (0x1d3c, 0x1d4d, "oȣprtuwaɐɑᴂbdeəɛɜg"),
    (0x1d4f, 0x1d5c, "kmŋoɔᴖᴗptuᴝɯvᴥ"), (0x1d60, 0x1d6a, "φχiruvβγρφχ"), (0x1d78, 0x1d78, "н"),
    (0x1d9b, 0x1da3, "ɒcɕðɜfɟɡɥ"), (0x1da7, 0x1dad, "ᵻʝɭᶅʟɱɰ"), (0x1db2, 0x1dbb, "ɸʂʃƫʉʊᴜʋʌz"),
    (0x1dbf, 0x1dbf, "θ"), (0x1e9b, 0x1e9b, "ṡ"), (0x1e9e, 0x1e9e, "ß"), (0x1f71, 0x1f71, "ά"),
    (0x1f73, 0x1f73, "έ"), (0x1f75, 0x1f75, "ή"), (0x1f77, 0x1f77, "ί"), (0x1f79, 0x1f79, "ό"),
    (0x1f7b, 0x1f7b, "ύ"), (0x1f7d, 0x1f7d, "ώ"), (0x1fb8, 0x1fbb, "ᾰᾱὰά"), (0x1fbe, 0x1fbe, "ι"),
    (0x1fc8, 0x1fcb, "ὲέὴή"), (0x1fd3, 0x1fd3, "ΐ"), (0x1fd8, 0x1fdb, "ῐῑὶί"),
    (0x1fe3, 0x1fe3, "ΰ"), (0x1fe8, 0x1fec, "ῠῡὺύῥ"), (0x1fef, 0x1fef, "\x60"),
    (0x1ff8, 0x1ffb, "ὸόὼώ"), (0x2000, 0x200a, "           "), (0x2011, 0x2011, "‐"),
    (0x202f, 0x202f, " "), (0x205f, 0x205f, " "), (0x2070, 0x2071, "0i"),
    (0x207a, 0x207f, "+−=()n"), (0x208a, 0x208e, "+−=()"), (0x2090, 0x2095, "aeoxəh"),
    (0x209a, 0x209f, "pstwyz"), (0x2102, 0x2102, "c"), (0x2107, 0x2107, "ɛ"),
    (0x210a, 0x2113, "ghhhhħiill"), (0x2115, 0x2115, "n"), (0x211c, 0x211d, "rr"),
    (0x2124, 0x2124, "z"), (0x2126, 0x2126, "ω"), (0x2128, 0x2128, "z"), (0x212a, 0x212d, "kåbc"),
    (0x212f, 0x2134, "eefⅎmo"), (0x2139, 0x2139, "i"), (0x213c, 0x2140, "πγγπ∑"),
    (0x2145, 0x2149, "ddeij"), (0x2160, 0x2160, "i"), (0x2164, 0x2164, "v"), (0x2169, 0x2169, "x"),
    (0x216c, 0x2170, "lcdmi"), (0x2174, 0x2174, "v"), (0x2179, 0x2179, "x"),
    (0x217c, 0x217f, "lcdm"), (0x2183, 0x2183, "ↄ"), (0x2329, 0x232a, "〈〉"), (0x24ea, 0x24ea, "0"),
    (0x2c60, 0x2c60, "ⱡ"), (0x2c62, 0x2c64, "ɫᵽɽ"), (0x2c6d, 0x2c70, "ɑɱɐɒ"), (0x2c72, 0x2c72, "ⱳ"),
    (0x2c75, 0x2c75, "ⱶ"), (0x2c7c, 0x2c7f, "jvȿɀ"), (0x2ceb, 0x2ceb, "ⳬ"), (0x2ced, 0x2ced, "ⳮ"),
    (0x2cf2, 0x2cf2, "ⳳ"), (0x2d6f, 0x2d6f, "ⵡ"), (0x2e9f, 0x2e9f, "母"), (0x2ef3, 0x2ef3, "龟"),
    (0x2f00, 0x2f27, "一丨丶丿乙亅二亠人儿入八冂冖冫几凵刀力勹匕匚匸十卜卩厂厶又口囗土士夂夊夕大女子宀"),
    (0x2f28, 0x2f4f, "寸小尢尸屮山巛工己巾干幺广廴廾弋弓彐彡彳心戈戶手支攴文斗斤方无日曰月木欠止歹殳毋"),
    (0x2f50, 0x2f77, "比毛氏气水火爪父爻爿片牙牛犬玄玉瓜瓦甘生用田疋疒癶白皮皿目矛矢石示禸禾穴立竹米糸"),
    (0x2f78, 0x2f9f, "缶网羊羽老而耒耳聿肉臣自至臼舌舛舟艮色艸虍虫血行衣襾見角言谷豆豕豸貝赤走足身車辛"),
    (0x2fa0, 0x2fc7, "辰辵邑酉釆里金長門阜隶隹雨靑非面革韋韭音頁風飛食首香馬骨高髟鬥鬯鬲鬼魚鳥鹵鹿麥麻"),
    (0x2fc8, 0x2fd5, "黃黍黑黹黽鼎鼓鼠鼻齊齒龍龜龠"), (0x3000, 0x3000, " "), (0x3002, 0x3002, "."),
    (0x3036, 0x3036, "〒"), (0x3038, 0x303a, "十卄卅"), (0x3131, 0x3136, "ᄀᄁᆪᄂᆬᆭ"),
    (0x3140, 0x3140, "ᄚ"), (0x3144, 0x3144, "ᄡ"), (0x3165, 0x3177, "ᄔᄕᇇᇈᇌᇎᇓᇗᇙᄜᇝᇟᄝᄞᄠᄢᄣᄧᄩ"),
    (0x317d, 0x3183, "ᄲᄶᅀᅇᅌᇱᇲ"), (0x3187, 0x318e, "ᆄᆅᆈᆑᆒᆔᆞᆡ"), (0x3192, 0x319f, "一二三四上中下甲乙丙丁天地人"),
    (0x3244, 0x3247, "問幼文箏"), (0x3260, 0x3262, "ᄀᄂᄃ"), (0x3266, 0x3268, "ᄉᄋᄌ"),
    (0x326e, 0x327b, "가나다라마바사아자차카타파하"), (0x327e, 0x327e, "우"),
    (0x3280, 0x32a7, "一二三四五六七八九十月火水木金土日株有社名特財祝労秘男女適優印注項休写正上中下左"), (0x32a8, 0x32b0, "右医宗学監企資協夜"),
    (0x32d0, 0x32e3, "アイウエオカキクケコサシスセソタチツテト"), (0x32ea, 0x32ed, "ヒフヘホ"), (0x32f3, 0x32f4, "ヤユ"),
    (0xa69c, 0xa69d, "ъь"), (0xa770, 0xa770, "ꝯ"), (0xa779, 0xa779, "ꝺ"), (0xa77b, 0xa77b, "ꝼ"),
    (0xa77d, 0xa77d, "ᵹ"), (0xa78b, 0xa78b, "ꞌ"), (0xa78d, 0xa78d, "ɥ"), (0xa790, 0xa790, "ꞑ"),
    (0xa792, 0xa792, "ꞓ"), (0xa7aa, 0xa7ae, "ɦɜɡɬɪ"), (0xa7b0, 0xa7b3, "ʞʇʝꭓ"),
    (0xa7c4, 0xa7c7, "ꞔʂᶎꟈ"), (0xa7c9, 0xa7c9, "ꟊ"), (0xa7cb, 0xa7cb, "ɤ"), (0xa7dc, 0xa7dc, "ƛ"),
    (0xa7e2, 0xa7e2, "ɼ"), (0xa7f1, 0xa7f5, "scfqꟶ"), (0xa7f8, 0xa7f9, "ħœ"),
    (0xab5c, 0xab5f, "ꜧꬷɫꭒ"), (0xab69, 0xab69, "ʍ"), (0xab6c, 0xab6d, "ꭋꭌ"),
    (0xf900, 0xf927, "豈更車賈滑串句龜龜契金喇奈懶癩羅蘿螺裸邏樂洛烙珞落酪駱亂卵欄爛蘭鸞嵐濫藍襤拉臘蠟"),
    (0xf928, 0xf94f, "廊朗浪狼郎來冷勞擄櫓爐盧老蘆虜路露魯鷺碌祿綠菉錄鹿論壟弄籠聾牢磊賂雷壘屢樓淚漏累"),
    (0xf950, 0xf977, "縷陋勒肋凜凌稜綾菱陵讀拏樂諾丹寧怒率異北磻便復不泌數索參塞省葉說殺辰沈拾若掠略亮"),
    (0xf978, 0xf99f, "兩凉梁糧良諒量勵呂女廬旅濾礪閭驪麗黎力曆歷轢年憐戀撚漣煉璉秊練聯輦蓮連鍊列劣咽烈"),
    (0xf9a0, 0xf9c7, "裂說廉念捻殮簾獵令囹寧嶺怜玲瑩羚聆鈴零靈領例禮醴隸惡了僚寮尿料樂燎療蓼遼龍暈阮劉"),
    (0xf9c8, 0xf9ef, "杻柳流溜琉留硫紐類六戮陸倫崙淪輪律慄栗率隆利吏履易李梨泥理痢罹裏裡里離匿溺吝燐璘"),
    (0xf9f0, 0xfa0d, "藺隣鱗麟林淋臨立笠粒狀炙識什茶刺切度拓糖宅洞暴輻行降見廓兀嗀"), (0xfa10, 0xfa10, "塚"),
    (0xfa12, 0xfa12, "晴"), (0xfa15, 0xfa1e, "凞猪益礼神祥福靖精羽"), (0xfa20, 0xfa20, "蘒"),
    (0xfa22, 0xfa22, "諸"), (0xfa25, 0xfa26, "逸都"),
    (0xfa2a, 0xfa51, "飯飼館鶴郞隷侮僧免勉勤卑喝嘆器塀墨層屮悔慨憎懲敏既暑梅海渚漢煮爫琢碑社祉祈祐祖祝"),
    (0xfa52, 0xfa6d, "禍禎穀突節練縉繁署者臭艹艹著褐視謁謹賓贈辶逸難響頻恵𤋮舘"),
    (0xfa70, 0xfa97, "並况全侀充冀勇勺喝啕喙嗢塚墳奄奔婢嬨廒廙彩徭惘慎愈憎慠懲戴揄搜摒敖晴朗望杖歹殺流"),
    (0xfa98, 0xfabf, "滛滋漢瀞煮瞧爵犯猪瑱甆画瘝瘟益盛直睊着磌窱節类絛練缾者荒華蝹襁覆視調諸請謁諾諭謹"),
    (0xfac0, 0xfad9, "變贈輸遲醙鉶陼難靖韛響頋頻鬒龜𢡊𢡄𣏕㮝䀘䀹𥉉𥳐𧻓齃龎"), (0xfb20, 0xfb23, "\u05e2\u05d0\u05d3\u05d4"),
    (0xfb27, 0xfb29, "\u05e8\u05ea+"),
    (0xfb50, 0xfb5b, "\u0671\u0671\u067b\u067b\u067b\u067b\u067e\u067e\u067e\u067e\u0680\u0680"),
    (0xfb5c, 0xfb67, "\u0680\u0680\u067a\u067a\u067a\u067a\u067f\u067f\u067f\u067f\u0679\u0679"),
    (0xfb68, 0xfb73, "\u0679\u0679\u06a4\u06a4\u06a4\u06a4\u06a6\u06a6\u06a6\u06a6\u0684\u0684"),
    (0xfb74, 0xfb7f, "\u0684\u0684\u0683\u0683\u0683\u0683\u0686\u0686\u0686\u0686\u0687\u0687"),
    (0xfb80, 0xfb8b, "\u0687\u0687\u068d\u068d\u068c\u068c\u068e\u068e\u0688\u0688\u0698\u0698"),
    (0xfb8c, 0xfb97, "\u0691\u0691\u06a9\u06a9\u06a9\u06a9\u06af\u06af\u06af\u06af\u06b3\u06b3"),
    (0xfb98, 0xfba3, "\u06b3\u06b3\u06b1\u06b1\u06b1\u06b1\u06ba\u06ba\u06bb\u06bb\u06bb\u06bb"),
    (0xfba4, 0xfbaf, "\u06c0\u06c0\u06c1\u06c1\u06c1\u06c1\u06be\u06be\u06be\u06be\u06d2\u06d2"),
    (0xfbb0, 0xfbb1, "\u06d3\u06d3"),
    (0xfbd3, 0xfbdc, "\u06ad\u06ad\u06ad\u06ad\u06c7\u06c7\u06c6\u06c6\u06c8\u06c8"),
    (0xfbde, 0xfbe9, "\u06cb\u06cb\u06c5\u06c5\u06c9\u06c9\u06d0\u06d0\u06d0\u06d0\u0649\u0649"),
    (0xfbfc, 0xfbff, "\u06cc\u06cc\u06cc\u06cc"), (0xfe10, 0xfe11, ",、"),
    (0xfe13, 0xfe18, ":;!?〖〗"), (0xfe31, 0xfe40, "—–__()\x7b\x7d〔〕【】《》〈〉"), (0xfe47, 0xfe48, "[]"),
    (0xfe4d, 0xfe51, "___,、"), (0xfe54, 0xfe66, ";:?!—()\x7b\x7d〔〕#&*+-<>="),
    (0xfe68, 0xfe6b, "\\$%@"),
    (0xfe80, 0xfe8b, "\u0621\u0622\u0622\u0623\u0623\u0624\u0624\u0625\u0625\u0626\u0626\u0626"),
    (0xfe8c, 0xfe97, "\u0626\u0627\u0627\u0628\u0628\u0628\u0628\u0629\u0629\u062a\u062a\u062a"),
    (0xfe98, 0xfea3, "\u062a\u062b\u062b\u062b\u062b\u062c\u062c\u062c\u062c\u062d\u062d\u062d"),
    (0xfea4, 0xfeaf, "\u062d\u062e\u062e\u062e\u062e\u062f\u062f\u0630\u0630\u0631\u0631\u0632"),
    (0xfeb0, 0xfebb, "\u0632\u0633\u0633\u0633\u0633\u0634\u0634\u0634\u0634\u0635\u0635\u0635"),
    (0xfebc, 0xfec7, "\u0635\u0636\u0636\u0636\u0636\u0637\u0637\u0637\u0637\u0638\u0638\u0638"),
    (0xfec8, 0xfed3, "\u0638\u0639\u0639\u0639\u0639\u063a\u063a\u063a\u063a\u0641\u0641\u0641"),
    (0xfed4, 0xfedf, "\u0641\u0642\u0642\u0642\u0642\u0643\u0643\u0643\u0643\u0644\u0644\u0644"),
    (0xfee0, 0xfeeb, "\u0644\u0645\u0645\u0645\u0645\u0646\u0646\u0646\u0646\u0647\u0647\u0647"),
    (0xfeec, 0xfef4, "\u0647\u0648\u0648\u0649\u0649\u064a\u064a\u064a\u064a"),
    (0xff5f, 0xff84, "⦅⦆.「」、・ヲァィゥェォャュョッーアイウエオカキクケコサシスセソタチツテト"), (0xff8b, 0xff8e, "ヒフヘホ"),
    (0xff94, 0xff95, "ヤユ"), (0xff9c, 0xff9f, "ワン\u3099\u309a"), (0xffa1, 0xffa6, "ᄀᄁᆪᄂᆬᆭ"),
    (0xffb0, 0xffb0, "ᄚ"), (0xffb4, 0xffb4, "ᄡ"), (0xffe0, 0xffe2, "¢£¬"), (0xffe4, 0xffe6, "¦¥₩"),
    (0xffe8, 0xffe8, "│"), (0xffed, 0xffee, "■○"), (0x10594, 0x10595, "𐖻𐖼"),
    (0x10781, 0x10785, "ːˑæʙɓ"), (0x10787, 0x107ae, "ʣꭦʥʤɖɗᶑɘɞʩɤɢɠʛħʜɧʄʪʫɬ𝼄ꞎɮ𝼅ʎ𝼆øɶɷqɺ𝼈ɽɾʀʨʦꭧʧ"),
    (0x107af, 0x107b0, "ʈⱱ"), (0x107b2, 0x107b5, "ʏʡʢʘ"), (0x107b9, 0x107ba, "𝼊𝼞"),
    (0x107bf, 0x107bf, "𝼋"), (0x1d49c, 0x1d49c, "a"), (0x1d49e, 0x1d49f, "cd"),
    (0x1d4a2, 0x1d4a2, "g"), (0x1d4a5, 0x1d4a6, "jk"), (0x1d4bb, 0x1d4bb, "f"),
    (0x1d504, 0x1d505, "ab"), (0x1d538, 0x1d539, "ab"), (0x1d546, 0x1d546, "o"),
    (0x1d6a4, 0x1d6a5, "ıȷ"), (0x1d6b9, 0x1d6b9, "θ"), (0x1d6c1, 0x1d6c1, "∇"),
    (0x1d6d3, 0x1d6d3, "σ"), (0x1d6db, 0x1d6e1, "∂εθκφρπ"), (0x1d6f3, 0x1d6f3, "θ"),
    (0x1d6fb, 0x1d6fb, "∇"), (0x1d70d, 0x1d70d, "σ"), (0x1d715, 0x1d71b, "∂εθκφρπ"),
    (0x1d72d, 0x1d72d, "θ"), (0x1d735, 0x1d735, "∇"), (0x1d747, 0x1d747, "σ"),
    (0x1d74f, 0x1d755, "∂εθκφρπ"), (0x1d767, 0x1d767, "θ"), (0x1d76f, 0x1d76f, "∇"),
    (0x1d781, 0x1d781, "σ"), (0x1d789, 0x1d78f, "∂εθκφρπ"), (0x1d7a1, 0x1d7a1, "θ"),
    (0x1d7a9, 0x1d7a9, "∇"), (0x1d7bb, 0x1d7bb, "σ"), (0x1d7c3, 0x1d7cb, "∂εθκφρπϝϝ"),
    (0x1dfcd, 0x1dfcd, "𝽗"), (0x1e047, 0x1e050, "ыэюꚉәіјөүӏ"), (0x1e05a, 0x1e05e, "клопс"),
    (0x1e065, 0x1e06d, "ъыґіѕџҫꙑұ"), (0x1ee00, 0x1ee03, "\u0627\u0628\u062c\u062f"),
    (0x1ee05, 0x1ee09, "\u0648\u0632\u062d\u0637\u064a"),
    (0x1ee0e, 0x1ee19, "\u0633\u0639\u0641\u0635\u0642\u0631\u0634\u062a\u062b\u062e\u0630\u0636"),
    (0x1ee1a, 0x1ee1f, "\u0638\u063a\u066e\u06ba\u06a1\u066f"), (0x1ee21, 0x1ee22, "\u0628\u062c"),
    (0x1ee24, 0x1ee24, "\u0647"), (0x1ee27, 0x1ee27, "\u062d"), (0x1ee29, 0x1ee29, "\u064a"),
    (0x1ee2e, 0x1ee32, "\u0633\u0639\u0641\u0635\u0642"),
    (0x1ee34, 0x1ee37, "\u0634\u062a\u062b\u062e"), (0x1ee39, 0x1ee39, "\u0636"),
    (0x1ee3b, 0x1ee3b, "\u063a"), (0x1ee42, 0x1ee42, "\u062c"), (0x1ee47, 0x1ee47, "\u062d"),
    (0x1ee49, 0x1ee49, "\u064a"), (0x1ee4b, 0x1ee4b, "\u0644"),
    (0x1ee4d, 0x1ee4f, "\u0646\u0633\u0639"), (0x1ee51, 0x1ee52, "\u0635\u0642"),
    (0x1ee54, 0x1ee54, "\u0634"), (0x1ee57, 0x1ee57, "\u062e"), (0x1ee59, 0x1ee59, "\u0636"),
    (0x1ee5b, 0x1ee5b, "\u063a"), (0x1ee5d, 0x1ee5d, "\u06ba"), (0x1ee5f, 0x1ee5f, "\u066f"),
    (0x1ee61, 0x1ee62, "\u0628\u062c"), (0x1ee64, 0x1ee64, "\u0647"),
    (0x1ee67, 0x1ee6a, "\u062d\u0637\u064a\u0643"),
    (0x1ee6c, 0x1ee72, "\u0645\u0646\u0633\u0639\u0641\u0635\u0642"),
    (0x1ee74, 0x1ee77, "\u0634\u062a\u062b\u062e"), (0x1ee79, 0x1ee7c, "\u0636\u0638\u063a\u066e"),
    (0x1ee7e, 0x1ee7e, "\u06a1"),
    (0x1ee80, 0x1ee89, "\u0627\u0628\u062c\u062f\u0647\u0648\u0632\u062d\u0637\u064a"),
    (0x1ee8e, 0x1ee99, "\u0633\u0639\u0641\u0635\u0642\u0631\u0634\u062a\u062b\u062e\u0630\u0636"),
    (0x1ee9a, 0x1ee9b, "\u0638\u063a"), (0x1eea1, 0x1eea3, "\u0628\u062c\u062f"),
    (0x1eea5, 0x1eea9, "\u0648\u0632\u062d\u0637\u064a"),
    (0x1eeae, 0x1eeb9, "\u0633\u0639\u0641\u0635\u0642\u0631\u0634\u062a\u062b\u062e\u0630\u0636"),
    (0x1eeba, 0x1eebb, "\u0638\u063a"), (0x1f12b, 0x1f12c, "cr"), (0x1f202, 0x1f202, "サ"),
    (0x1f210, 0x1f237, "手字双デ二多解天交映無料前後再新初終生販声吹演投捕一三遊左中右指走打禁空合満有月"), (0x1f238, 0x1f23b, "申割営配"),
    (0x1f250, 0x1f251, "得可"), (0x2f800, 0x2f827, "丽丸乁𠄢你侮侻倂偺備僧像㒞𠘺免兔兤具𠔜㒹內再𠕋冗冤仌冬况𩇟凵刃㓟刻剆割剷㔕勇勉勤"),
    (0x2f828, 0x2f84f, "勺包匆北卉卑博即卽卿卿卿𠨬灰及叟𠭣叫叱吆咞吸呈周咢哶唐啓啣善善喙喫喳嗂圖嘆圗噑噴"),
    (0x2f850, 0x2f877, "切壮城埴堍型堲報墬𡓤売壷夆多夢奢𡚨𡛪姬娛娧姘婦㛮㛼嬈嬾嬾𡧈寃寘寧寳𡬘寿将当尢㞁屠"),
    (0x2f878, 0x2f89f, "屮峀岍𡷤嵃𡷦嵮嵫嵼巡巢㠯巽帨帽幩㡢𢆃㡼庰庳庶廊𪎒廾𢌱𢌱舁弢弢㣇𣊸𦇚形彫㣣徚忍志忹"),
    (0x2f8a0, 0x2f8c7, "悁㤺㤜悔𢛔惇慈慌慎慌慺憎憲憤憯懞懲懶成戛扝抱拔捐𢬌挽拼捨掃揤𢯱搢揅掩㨮摩摾撝摷㩬"),
    (0x2f8c8, 0x2f8ef, "敏敬𣀊旣書晉㬙暑㬈㫤冒冕最暜肭䏙朗望朡杞杓𣏃㭉柺枅桒梅𣑭梎栟椔㮝楂榣槪檨𣚣櫛㰘次"),
    (0x2f8f0, 0x2f917, "𣢧歔㱎歲殟殺殻𣪍𡴋𣫺汎𣲼沿泍汧洖派海流浩浸涅𣴞洴港湮㴳滋滇𣻑淹潮𣽞𣾎濆瀹瀞瀛㶖灊"),
    (0x2f918, 0x2f93f, "災灷炭𠔥煅𤉣熜𤎫爨爵牐𤘈犀犕𤜵𤠔獺王㺬玥㺸㺸瑇瑜瑱璅瓊㼛甤𤰶甾𤲒異𢆟瘐𤾡𤾸𥁄㿼䀈"),
    (0x2f940, 0x2f967, "直𥃳𥃲𥄙𥄳眞真真睊䀹瞋䁆䂖𥐝硎碌磌䃣𥘦祖𥚚𥛅福秫䄯穀穊穏𥥼𥪧𥪧竮䈂𥮫篆築䈧𥲀糒䊠"),
    (0x2f968, 0x2f98f, "糨糣紀𥾆絣䌁緇縂繅䌴𦈨𦉇䍙𦋙罺𦌾羕翺者𦓚𦔣聠𦖨聰𣍟䏕育脃䐋脾媵𦞧𦞵𣎓𣎜舁舄辞䑫芑"),
    (0x2f990, 0x2f9b7, "芋芝劳花芳芽苦𦬼若茝荣莭茣莽菧著荓菊菌菜𦰶𦵫𦳕䔫蓱蓳蔖𧏊蕤𦼬䕝䕡𦾱𧃒䕫虐虜虧虩蚩"),
    (0x2f9b8, 0x2f9df, "蚈蜎蛢蝹蜨蝫螆䗗蟡蠁䗹衠衣𧙧裗裞䘵裺㒻𧢮𧥦䚾䛇誠諭變豕𧲨貫賁贛起𧼯𠠄跋趼跰𠣞軔輸"),
    (0x2f9e0, 0x2fa07, "𨗒𨗭邔郱鄑𨜮鄛鈸鋗鋘鉼鏹鐕𨯺開䦕閷𨵷䧦雃嶲霣𩅅𩈚䩮䩶韠𩐊䪲𩒖頋頋頩𩖶飢䬳餩馧駂駾"),
    (0x2fa08, 0x2fa1d, "䯎𩬰鬒鱀鳽䳎䳭鵧𪃎䳸𪄅𪈎𪊑麻䵖黹黾鼅鼏鼖鼻𪘀")]

example : Text.isAscending (imageRows.map fun (first, last, _) => (first, last)) = true := by
  decide +kernel

def ImageRun.image? (run : ImageRun) (code : Nat) : Option Nat :=
  if run.first ≤ code ∧ code ≤ run.last ∧ (code - run.first) % run.stride = 0 then
    some (code + run.shift).toNat
  else none

def hostImage? (c : Char) : Option Char :=
  match imageRuns.findSome? (·.image? c.toNat) with
  | some code => some (.ofNat code)
  | none =>
    imageRows.findSome? fun (first, last, images) =>
      if first ≤ c.toNat ∧ c.toNat ≤ last then images.toList[c.toNat - first]? else none

example : hostImage? 'É' = some 'é' := by decide +kernel

end OrdersContract.Address
