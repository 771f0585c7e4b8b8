import TaskDesk.Text.Blank
import TaskDesk.Text.Ranges
import TaskDesk.Url.Refused

/-!
# Folding

Names are compared in a folded form: capital letters become small, wide and narrow shapes become
the usual ones, ligatures and enclosed characters are spelled out, and characters that say
nothing are left out.

## Main definitions

* `fold?`: the folded form of a character.

## Design notes

Most characters are their own form. The form of the others follows one of four rules, and each
rule has a table: a whole range moves, capital and small letters alternate, every character has
one other character for it, or every one has a text. In the last two tables a dash fills the
place of a code point that is never looked up, because it is refused or left out.
-/

namespace TaskDesk

namespace Folding

/-- The code points that say nothing in a name: soft hyphens, joiners of words, choices of
shape. -/
def ignored : CodeRanges :=
  [(0xAD, 0xAD), (0x34F, 0x34F), (0x115F, 0x1160), (0x17B4, 0x17B5), (0x180B, 0x180F),
    (0x200B, 0x200B), (0x2060, 0x2064), (0x206A, 0x206F), (0x3164, 0x3164), (0xFE00, 0xFE0F),
    (0xFEFF, 0xFEFF), (0xFFA0, 0xFFA0), (0x1BCA0, 0x1BCA3), (0x1D173, 0x1D17A), (0xE0100, 0xE01EF)]

/-- Ranges that move as a whole: the first code point, the last one and the form of the first. -/
def shifts : List (Nat × Nat × Nat) :=
  [(0x41, 0x5A, 0x61), (0xC0, 0xD6, 0xE0), (0xD8, 0xDE, 0xF8), (0x391, 0x3AB, 0x3B1),
    (0x400, 0x40F, 0x450), (0x410, 0x42F, 0x430), (0x531, 0x556, 0x561), (0x10A0, 0x10CD, 0x2D00),
    (0x13F8, 0x13FD, 0x13F0), (0x1C90, 0x1CBF, 0x10D0), (0x1D33, 0x1D3A, 0x67),
    (0x1DAE, 0x1DB1, 0x272), (0x1F08, 0x1F0F, 0x1F00), (0x1F18, 0x1F1D, 0x1F10),
    (0x1F28, 0x1F2F, 0x1F20), (0x1F38, 0x1F3F, 0x1F30), (0x1F48, 0x1F4D, 0x1F40),
    (0x1F59, 0x1F5F, 0x1F51), (0x1F68, 0x1F6F, 0x1F60), (0x2074, 0x2079, 0x34),
    (0x2080, 0x2089, 0x30), (0x2096, 0x2099, 0x6B), (0x2135, 0x2138, 0x5D0),
    (0x2460, 0x2468, 0x31), (0x24B6, 0x24CF, 0x61), (0x24D0, 0x24E9, 0x61),
    (0x2C00, 0x2C2F, 0x2C30), (0x313A, 0x313F, 0x11B0), (0x3145, 0x314E, 0x1109),
    (0x314F, 0x3163, 0x1161), (0x3178, 0x317C, 0x112B), (0x3269, 0x326D, 0x110E),
    (0x32E4, 0x32E9, 0x30CA), (0x32EE, 0x32F2, 0x30DE), (0x32F5, 0x32FA, 0x30E8),
    (0x32FB, 0x32FE, 0x30EF), (0xAB70, 0xABBF, 0x13A0), (0xFE41, 0xFE44, 0x300C),
    (0xFF01, 0xFF20, 0x21), (0xFF21, 0xFF3A, 0x61), (0xFF3B, 0xFF5E, 0x5B),
    (0xFF85, 0xFF8A, 0x30CA), (0xFF8F, 0xFF93, 0x30DE), (0xFF96, 0xFF9B, 0x30E8),
    (0xFFAA, 0xFFAF, 0x11B0), (0xFFB5, 0xFFBE, 0x1109), (0xFFC2, 0xFFC7, 0x1161),
    (0xFFCA, 0xFFCF, 0x1167), (0xFFD2, 0xFFD7, 0x116D), (0xFFE9, 0xFFEC, 0x2190),
    (0x10400, 0x10427, 0x10428), (0x104B0, 0x104D3, 0x104D8), (0x10570, 0x10595, 0x10597),
    (0x10C80, 0x10CB2, 0x10CC0), (0x10D50, 0x10D65, 0x10D70), (0x118A0, 0x118BF, 0x118C0),
    (0x16E40, 0x16E5F, 0x16E60), (0x16EA0, 0x16EB8, 0x16EBB), (0x1CCD6, 0x1CCEF, 0x61),
    (0x1CCF0, 0x1CCF9, 0x30), (0x1D400, 0x1D419, 0x61), (0x1D41A, 0x1D433, 0x61),
    (0x1D434, 0x1D44D, 0x61), (0x1D44E, 0x1D467, 0x61), (0x1D468, 0x1D481, 0x61),
    (0x1D482, 0x1D49B, 0x61), (0x1D49C, 0x1D4B5, 0x61), (0x1D4B6, 0x1D4CF, 0x61),
    (0x1D4D0, 0x1D4E9, 0x61), (0x1D4EA, 0x1D503, 0x61), (0x1D504, 0x1D51C, 0x61),
    (0x1D51E, 0x1D537, 0x61), (0x1D538, 0x1D550, 0x61), (0x1D552, 0x1D56B, 0x61),
    (0x1D56C, 0x1D585, 0x61), (0x1D586, 0x1D59F, 0x61), (0x1D5A0, 0x1D5B9, 0x61),
    (0x1D5BA, 0x1D5D3, 0x61), (0x1D5D4, 0x1D5ED, 0x61), (0x1D5EE, 0x1D607, 0x61),
    (0x1D608, 0x1D621, 0x61), (0x1D622, 0x1D63B, 0x61), (0x1D63C, 0x1D655, 0x61),
    (0x1D656, 0x1D66F, 0x61), (0x1D670, 0x1D689, 0x61), (0x1D68A, 0x1D6A3, 0x61),
    (0x1D6A8, 0x1D6B8, 0x3B1), (0x1D6BA, 0x1D6C0, 0x3C3), (0x1D6C2, 0x1D6D2, 0x3B1),
    (0x1D6D4, 0x1D6DA, 0x3C3), (0x1D6E2, 0x1D6F2, 0x3B1), (0x1D6F4, 0x1D6FA, 0x3C3),
    (0x1D6FC, 0x1D70C, 0x3B1), (0x1D70E, 0x1D714, 0x3C3), (0x1D71C, 0x1D72C, 0x3B1),
    (0x1D72E, 0x1D734, 0x3C3), (0x1D736, 0x1D746, 0x3B1), (0x1D748, 0x1D74E, 0x3C3),
    (0x1D756, 0x1D766, 0x3B1), (0x1D768, 0x1D76E, 0x3C3), (0x1D770, 0x1D780, 0x3B1),
    (0x1D782, 0x1D788, 0x3C3), (0x1D790, 0x1D7A0, 0x3B1), (0x1D7A2, 0x1D7A8, 0x3C3),
    (0x1D7AA, 0x1D7BA, 0x3B1), (0x1D7BC, 0x1D7C2, 0x3C3), (0x1D7CE, 0x1D7D7, 0x30),
    (0x1D7D8, 0x1D7E1, 0x30), (0x1D7E2, 0x1D7EB, 0x30), (0x1D7EC, 0x1D7F5, 0x30),
    (0x1D7F6, 0x1D7FF, 0x30), (0x1E030, 0x1E038, 0x430), (0x1E03C, 0x1E046, 0x43E),
    (0x1E051, 0x1E059, 0x430), (0x1E05F, 0x1E064, 0x443), (0x1E900, 0x1E921, 0x1E922),
    (0x1EE0A, 0x1EE0D, 0x643), (0x1EE2A, 0x1EE2D, 0x643), (0x1F130, 0x1F149, 0x61),
    (0x1FBF0, 0x1FBF9, 0x30)]

/-- Ranges of capital and small letters in turn; each capital is followed by its small letter. -/
def alternations : List (Nat × Nat) :=
  [(0x100, 0x12E), (0x139, 0x13D), (0x141, 0x147), (0x14A, 0x176), (0x179, 0x17D), (0x1A0, 0x1A4),
    (0x1CD, 0x1DB), (0x1DE, 0x1EE), (0x1F8, 0x21E), (0x222, 0x232), (0x246, 0x24E), (0x3D8, 0x3EE),
    (0x460, 0x480), (0x48A, 0x4BE), (0x4C1, 0x4CD), (0x4D0, 0x52E), (0x1E00, 0x1E94),
    (0x1EA0, 0x1EFE), (0x2C67, 0x2C6B), (0x2C80, 0x2CE2), (0xA640, 0xA66C), (0xA680, 0xA69A),
    (0xA722, 0xA72E), (0xA732, 0xA76E), (0xA77E, 0xA786), (0xA796, 0xA7A8), (0xA7B4, 0xA7C2),
    (0xA7CC, 0xA7DA)]

/-- Code points with the forms of the characters from there on, one character each. -/
def letters : List (Nat × String) :=
  [(0xA0, " "), (0xB0, "°±23"), (0xB5, "μ¶·"), (0xB9, "1o»"), (0x134, "ĵĵķ"), (0x178, "ÿ"),
    (0x17F, "sƀɓƃƃƅƅɔƈƈɖɗƌƌƍǝəɛƒƒɠɣƕɩɨƙ"), (0x19C, "ɯɲƞɵ"), (0x1A6, "ʀƨƨʃƪƫƭƭʈưưʊʋƴƴƶƶʒƹ"),
    (0x1BC, "ƽ"), (0x1F4, "ǵǵƕƿ"), (0x220, "ƞ"), (0x23A, "ⱥȼȼƚⱦȿɀɂɂƀʉʌ"), (0x2B0, "hɦjrɹɻʁwy"),
    (0x2DE, "˞˟ɣlsxʕ"), (0x340, "\u0300\u0301\u0342\u0313"), (0x370, "ͱͱͳͳʹ͵ͷ"), (0x37E, ";ϳ"),
    (0x386, "ά·έήί-ό-ύώ"), (0x3CF, "ϗβθυύϋφπ"), (0x3F0, "κρσϳθε϶ϸϸσϻϻϼͻͼͽ"), (0x4C0, "ӏ"),
    (0xF0C, "་"), (0x10FC, "ნ"), (0x1C80, "вдосттъѣꙋᲊ"), (0x1D2C, "aæbᴯdeǝ"),
    (0x1D3C, "oȣprtuwaɐɑᴂbdeəɛɜgᵎkmŋoɔᴖᴗptuᴝɯvᴥβγδφχiruvβγρφχ"), (0x1D78, "н"),
    (0x1D9B, "ɒcɕðɜfɟɡɥɨɩɪᵻʝɭᶅʟɱɰ"), (0x1DB2, "ɸʂʃƫʉʊᴜʋʌzʐʑʒθ"), (0x1E9B, "ṡẜẝß"),
    (0x1F71, "άὲέὴήὶίὸόὺύὼώ"), (0x1FB8, "ᾰᾱὰά"), (0x1FC8, "ὲέὴή"), (0x1FD3, "ΐ"), (0x1FD8, "ῐῑὶί"),
    (0x1FE3, "ΰ"), (0x1FE8, "ῠῡὺύῥ"), (0x1FEF, "\x60"), (0x1FF8, "ὸόὼώ"), (0x2000, "           "),
    (0x2011, "‐"), (0x202F, " "), (0x205F, " "), (0x2070, "0i"), (0x207A, "+−=()n"),
    (0x208A, "+−=()-aeoxəh"), (0x209A, "pst"), (0x210A, "ghhhhħiill℔n"), (0x2117, "℗℘pqrrr℞℟"),
    (0x2123, "℣z℥ω℧z℩kåbc℮eefⅎmo"), (0x213C, "πγγπ∑"), (0x2145, "ddeij"), (0x216C, "lcdmi"),
    (0x217C, "lcdm"), (0x2183, "ↄ"), (0x2329, "〈〉"), (0x24EA, "0"), (0x2C60, "ⱡⱡɫᵽɽ"),
    (0x2C6D, "ɑɱɐɒⱱⱳⱳⱴⱶ"), (0x2C7C, "jvȿɀ"), (0x2CEB, "ⳬⳬⳮ"), (0x2CF2, "ⳳ"), (0x2D6F, "ⵡ"),
    (0x2E9F, "母"), (0x2EF3, "龟"),
    (0x2F00, "一丨丶丿乙亅二亠人儿入八冂冖冫几凵刀力勹匕匚匸十卜卩厂厶又口囗土士夂夊夕大女子宀寸小尢尸屮山巛工己巾干幺广廴廾弋弓彐彡彳心戈戶手支攴文斗斤方无日曰月木欠止歹殳毋"),
    (0x2F50, "比毛氏气水火爪父爻爿片牙牛犬玄玉瓜瓦甘生用田疋疒癶白皮皿目矛矢石示禸禾穴立竹米糸缶网羊羽老而耒耳聿肉臣自至臼舌舛舟艮色艸虍虫血行衣襾見角言谷豆豕豸貝赤走足身車辛"),
    (0x2FA0, "辰辵邑酉釆里金長門阜隶隹雨靑非面革韋韭音頁風飛食首香馬骨高髟鬥鬯鬲鬼魚鳥鹵鹿麥麻黃黍黑黹黽鼎鼓鼠鼻齊齒龍龜龠"), (0x3000, " 、."),
    (0x3036, "〒〷十卄卅"), (0x3131, "\u1100\u1101\u11aa\u1102\u11ac\u11ad\u1103\u1104\u1105"),
    (0x3140, "\u111a\u1106\u1107\u1108\u1121"),
    (0x3165, "\u1114\u1115\u11c7\u11c8\u11cc\u11ce\u11d3\u11d7\u11d9\u111c\u11dd\u11df\u111d"),
    (0x3172, "\u111e\u1120\u1122\u1123\u1127\u1129"),
    (0x317D, "\u1132\u1136\u1140\u1147\u114c\u11f1\u11f2\u1157\u1158\u1159\u1184\u1185\u1188"),
    (0x318A, "\u1191\u1192\u1194\u119e\u11a1"), (0x3192, "一二三四上中下甲乙丙丁天地人"), (0x3244, "問幼文箏"),
    (0x3260, "\u1100\u1102\u1103\u1105\u1106\u1107\u1109\u110b\u110c"), (0x326E, "가나다라마바사아자차카타파하"),
    (0x327E, "우㉿一二三四五六七八九十月火水木金土日株有社名特財祝労秘男女適優印注項休写正上中下左右医宗学監企資協夜"),
    (0x32D0, "アイウエオカキクケコサシスセソタチツテト"), (0x32EA, "ヒフヘホ"), (0x32F3, "ヤユ"), (0xA69C, "ъь"),
    (0xA770, "ꝯ"), (0xA779, "ꝺꝺꝼꝼᵹ"), (0xA78B, "ꞌꞌɥꞎꞏꞑꞑꞓ"), (0xA7AA, "ɦɜɡɬɪꞯʞʇʝꭓ"),
    (0xA7C4, "ꞔʂᶎꟈꟈꟊꟊɤ"), (0xA7DC, "ƛ"), (0xA7F1, "scfqꟶꟶꟷħœ"), (0xAB5C, "ꜧꬷɫꭒ"), (0xAB69, "ʍ"),
    (0xF900, "豈更車賈滑串句龜龜契金喇奈懶癩羅蘿螺裸邏樂洛烙珞落酪駱亂卵欄爛蘭鸞嵐濫藍襤拉臘蠟廊朗浪狼郎來冷勞擄櫓爐盧老蘆虜路露魯鷺碌祿綠菉錄鹿論壟弄籠聾牢磊賂雷壘屢樓淚漏累"),
    (0xF950, "縷陋勒肋凜凌稜綾菱陵讀拏樂諾丹寧怒率異北磻便復不泌數索參塞省葉說殺辰沈拾若掠略亮兩凉梁糧良諒量勵呂女廬旅濾礪閭驪麗黎力曆歷轢年憐戀撚漣煉璉秊練聯輦蓮連鍊列劣咽烈"),
    (0xF9A0, "裂說廉念捻殮簾獵令囹寧嶺怜玲瑩羚聆鈴零靈領例禮醴隸惡了僚寮尿料樂燎療蓼遼龍暈阮劉杻柳流溜琉留硫紐類六戮陸倫崙淪輪律慄栗率隆利吏履易李梨泥理痢罹裏裡里離匿溺吝燐璘"),
    (0xF9F0, "藺隣鱗麟林淋臨立笠粒狀炙識什茶刺切度拓糖宅洞暴輻行降見廓兀嗀﨎﨏塚﨑晴﨓﨔凞猪益礼神祥福靖精羽﨟蘒﨡諸﨣﨤逸都"),
    (0xFA2A, "飯飼館鶴郞隷侮僧免勉勤卑喝嘆器塀墨層屮悔慨憎懲敏既暑梅海渚漢煮爫琢碑社祉祈祐祖祝禍禎穀突節練縉繁署者臭艹艹著褐視謁謹賓贈辶逸難響頻恵𤋮舘--並况全侀充冀勇勺喝啕"),
    (0xFA7A, "喙嗢塚墳奄奔婢嬨廒廙彩徭惘慎愈憎慠懲戴揄搜摒敖晴朗望杖歹殺流滛滋漢瀞煮瞧爵犯猪瑱甆画瘝瘟益盛直睊着磌窱節类絛練缾者荒華蝹襁覆視調諸請謁諾諭謹變贈輸遲醙鉶陼難靖韛"),
    (0xFACA, "響頋頻鬒龜𢡊𢡄𣏕㮝䀘䀹𥉉𥳐𧻓齃龎"),
    (0xFB20, "\u05e2\u05d0\u05d3\u05d4\u05db\u05dc\u05dd\u05e8\u05ea+"),
    (0xFB50, "\u0671\u0671\u067b\u067b\u067b\u067b\u067e\u067e\u067e\u067e\u0680\u0680\u0680"),
    (0xFB5D, "\u0680\u067a\u067a\u067a\u067a\u067f\u067f\u067f\u067f\u0679\u0679\u0679\u0679"),
    (0xFB6A, "\u06a4\u06a4\u06a4\u06a4\u06a6\u06a6\u06a6\u06a6\u0684\u0684\u0684\u0684\u0683"),
    (0xFB77, "\u0683\u0683\u0683\u0686\u0686\u0686\u0686\u0687\u0687\u0687\u0687\u068d\u068d"),
    (0xFB84, "\u068c\u068c\u068e\u068e\u0688\u0688\u0698\u0698\u0691\u0691\u06a9\u06a9\u06a9"),
    (0xFB91, "\u06a9\u06af\u06af\u06af\u06af\u06b3\u06b3\u06b3\u06b3\u06b1\u06b1\u06b1\u06b1"),
    (0xFB9E, "\u06ba\u06ba\u06bb\u06bb\u06bb\u06bb\u06c0\u06c0\u06c1\u06c1\u06c1\u06c1\u06be"),
    (0xFBAB, "\u06be\u06be\u06be\u06d2\u06d2\u06d3\u06d3"),
    (0xFBD3, "\u06ad\u06ad\u06ad\u06ad\u06c7\u06c7\u06c6\u06c6\u06c8\u06c8"),
    (0xFBDE, "\u06cb\u06cb\u06c5\u06c5\u06c9\u06c9\u06d0\u06d0\u06d0\u06d0\u0649\u0649"),
    (0xFBFC, "\u06cc\u06cc\u06cc\u06cc"), (0xFE10, ",、-:;!?〖〗"),
    (0xFE31, "—–__()\x7b\x7d〔〕【】《》〈〉"), (0xFE4D, "___,、--;:?!—()\x7b\x7d〔〕#&*+-<>=-\\$%@"),
    (0xFE80, "\u0621\u0622\u0622\u0623\u0623\u0624\u0624\u0625\u0625\u0626\u0626\u0626\u0626"),
    (0xFE8D, "\u0627\u0627\u0628\u0628\u0628\u0628\u0629\u0629\u062a\u062a\u062a\u062a\u062b"),
    (0xFE9A, "\u062b\u062b\u062b\u062c\u062c\u062c\u062c\u062d\u062d\u062d\u062d\u062e\u062e"),
    (0xFEA7, "\u062e\u062e\u062f\u062f\u0630\u0630\u0631\u0631\u0632\u0632\u0633\u0633\u0633"),
    (0xFEB4, "\u0633\u0634\u0634\u0634\u0634\u0635\u0635\u0635\u0635\u0636\u0636\u0636\u0636"),
    (0xFEC1, "\u0637\u0637\u0637\u0637\u0638\u0638\u0638\u0638\u0639\u0639\u0639\u0639\u063a"),
    (0xFECE, "\u063a\u063a\u063a\u0641\u0641\u0641\u0641\u0642\u0642\u0642\u0642\u0643\u0643"),
    (0xFEDB, "\u0643\u0643\u0644\u0644\u0644\u0644\u0645\u0645\u0645\u0645\u0646\u0646\u0646"),
    (0xFEE8, "\u0646\u0647\u0647\u0647\u0647\u0648\u0648\u0649\u0649\u064a\u064a\u064a\u064a"),
    (0xFF5F, "⦅⦆.「」、・ヲァィゥェォャュョッーアイウエオカキクケコサシスセソタチツテト"), (0xFF8B, "ヒフヘホ"), (0xFF94, "ヤユ"),
    (0xFF9C, "ワン\u3099\u309a-\u1100\u1101\u11aa\u1102\u11ac\u11ad\u1103\u1104\u1105"),
    (0xFFB0, "\u111a\u1106\u1107\u1108\u1121"), (0xFFDA, "\u1173\u1174\u1175"), (0xFFE0, "¢£¬"),
    (0xFFE4, "¦¥₩-│"), (0xFFED, "■○"),
    (0x10781, "ːˑæʙɓ-ʣꭦʥʤɖɗᶑɘɞʩɤɢɠʛħʜɧʄʪʫɬ𝼄ꞎɮ𝼅ʎ𝼆øɶɷqɺ𝼈ɽɾʀʨʦꭧʧʈⱱ-ʏʡʢʘǀǁǂ𝼊𝼞"), (0x1D6A4, "ıȷ"),
    (0x1D6B9, "θ"), (0x1D6C1, "∇"), (0x1D6D3, "σ"), (0x1D6DB, "∂εθκφρπ"), (0x1D6F3, "θ"),
    (0x1D6FB, "∇"), (0x1D70D, "σ"), (0x1D715, "∂εθκφρπ"), (0x1D72D, "θ"), (0x1D735, "∇"),
    (0x1D747, "σ"), (0x1D74F, "∂εθκφρπ"), (0x1D767, "θ"), (0x1D76F, "∇"), (0x1D781, "σ"),
    (0x1D789, "∂εθκφρπ"), (0x1D7A1, "θ"), (0x1D7A9, "∇"), (0x1D7BB, "σ"), (0x1D7C3, "∂εθκφρπϝϝ"),
    (0x1E039, "клм"), (0x1E047, "ыэюꚉәіјөүӏ"), (0x1E05A, "клопс"), (0x1E065, "ъыґіѕџҫꙑұ"),
    (0x1EE00, "\u0627\u0628\u062c\u062f-\u0648\u0632\u062d\u0637\u064a"),
    (0x1EE0E, "\u0633\u0639\u0641\u0635\u0642\u0631\u0634\u062a\u062b\u062e\u0630\u0636\u0638"),
    (0x1EE1B, "\u063a\u066e\u06ba\u06a1\u066f-\u0628\u062c-\u0647--\u062d-\u064a"),
    (0x1EE2E, "\u0633\u0639\u0641\u0635\u0642-\u0634\u062a\u062b\u062e-\u0636-\u063a"),
    (0x1EE42, "\u062c"),
    (0x1EE47, "\u062d-\u064a-\u0644-\u0646\u0633\u0639-\u0635\u0642-\u0634--\u062e-\u0636-"),
    (0x1EE5B, "\u063a-\u06ba-\u066f-\u0628\u062c-\u0647--\u062d\u0637\u064a\u0643-\u0645\u0646"),
    (0x1EE6E, "\u0633\u0639\u0641\u0635\u0642-\u0634\u062a\u062b\u062e-\u0636\u0638\u063a\u066e"),
    (0x1EE7D, "-\u06a1-\u0627\u0628\u062c\u062f\u0647\u0648\u0632\u062d\u0637\u064a-\u0644"),
    (0x1EE8C, "\u0645\u0646\u0633\u0639\u0641\u0635\u0642\u0631\u0634\u062a\u062b\u062e\u0630"),
    (0x1EE99, "\u0636\u0638\u063a"),
    (0x1EEA1, "\u0628\u062c\u062f-\u0648\u0632\u062d\u0637\u064a-\u0644\u0645\u0646\u0633\u0639"),
    (0x1EEB0, "\u0641\u0635\u0642\u0631\u0634\u062a\u062b\u062e\u0630\u0636\u0638\u063a"),
    (0x1F210, "手字双デ二多解天交映無料前後再新初終生販声吹演投捕一三遊左中右指走打禁空合満有月申割営配"), (0x1F250, "得可"),
    (0x2F800, "丽丸乁𠄢你侮侻倂偺備僧像㒞𠘺免兔兤具𠔜㒹內再𠕋冗冤仌冬况𩇟凵刃㓟刻剆割剷㔕勇勉勤勺包匆北卉卑博即卽卿卿卿𠨬灰及叟𠭣叫叱吆咞吸呈周咢哶唐啓啣善善喙喫喳嗂圖嘆圗噑噴"),
    (0x2F850, "切壮城埴堍型堲報墬𡓤売壷夆多夢奢𡚨𡛪姬娛娧姘婦㛮㛼嬈嬾嬾𡧈寃寘寧寳𡬘寿将当尢㞁屠屮峀岍𡷤嵃𡷦嵮嵫嵼巡巢㠯巽帨帽幩㡢𢆃㡼庰庳庶廊𪎒廾𢌱𢌱舁弢弢㣇𣊸𦇚形彫㣣徚忍志忹"),
    (0x2F8A0, "悁㤺㤜悔𢛔惇慈慌慎慌慺憎憲憤憯懞懲懶成戛扝抱拔捐𢬌挽拼捨掃揤𢯱搢揅掩㨮摩摾撝摷㩬敏敬𣀊旣書晉㬙暑㬈㫤冒冕最暜肭䏙朗望朡杞杓𣏃㭉柺枅桒梅𣑭梎栟椔㮝楂榣槪檨𣚣櫛㰘次"),
    (0x2F8F0, "𣢧歔㱎歲殟殺殻𣪍𡴋𣫺汎𣲼沿泍汧洖派海流浩浸涅𣴞洴港湮㴳滋滇𣻑淹潮𣽞𣾎濆瀹瀞瀛㶖灊災灷炭𠔥煅𤉣熜𤎫爨爵牐𤘈犀犕𤜵𤠔獺王㺬玥㺸㺸瑇瑜瑱璅瓊㼛甤𤰶甾𤲒異𢆟瘐𤾡𤾸𥁄㿼䀈"),
    (0x2F940, "直𥃳𥃲𥄙𥄳眞真真睊䀹瞋䁆䂖𥐝硎碌磌䃣𥘦祖𥚚𥛅福秫䄯穀穊穏𥥼𥪧𥪧竮䈂𥮫篆築䈧𥲀糒䊠糨糣紀𥾆絣䌁緇縂繅䌴𦈨𦉇䍙𦋙罺𦌾羕翺者𦓚𦔣聠𦖨聰𣍟䏕育脃䐋脾媵𦞧𦞵𣎓𣎜舁舄辞䑫芑"),
    (0x2F990, "芋芝劳花芳芽苦𦬼若茝荣莭茣莽菧著荓菊菌菜𦰶𦵫𦳕䔫蓱蓳蔖𧏊蕤𦼬䕝䕡𦾱𧃒䕫虐虜虧虩蚩蚈蜎蛢蝹蜨蝫螆䗗蟡蠁䗹衠衣𧙧裗裞䘵裺㒻𧢮𧥦䚾䛇誠諭變豕𧲨貫賁贛起𧼯𠠄跋趼跰𠣞軔輸"),
    (0x2F9E0, "𨗒𨗭邔郱鄑𨜮鄛鈸鋗鋘鉼鏹鐕𨯺開䦕閷𨵷䧦雃嶲霣𩅅𩈚䩮䩶韠𩐊䪲𩒖頋頋頩𩖶飢䬳餩馧駂駾䯎𩬰鬒鱀鳽䳎䳭鵧𪃎䳸𪄅𪈎𪊑麻䵖黹黾鼅鼏鼖鼻𪘀")]

/-- Code points with the forms of the characters from there on, a text each. -/
def phrases : List (Nat × List String) :=
  [(0xA8, [" \u0308", "©", "a"]),
    (0xAF, [" \u0304"]),
    (0xB4, [" \u0301"]),
    (0xB8, [" \u0327"]),
    (0xBC, ["1⁄4", "1⁄2", "3⁄4"]),
    (0x130, ["i\u0307", "ı", "ij", "ij"]),
    (0x13F, ["l·", "l·"]),
    (0x149, ["ʼn"]),
    (0x1C4, ["dž", "dž", "dž", "lj", "lj", "lj", "nj", "nj", "nj"]),
    (0x1F1, ["dz", "dz", "dz"]),
    (0x2D8, [" \u0306", " \u0307", " \u030a", " \u0328", " \u0303", " \u030b"]),
    (0x344, ["\u0308\u0301", "ι"]),
    (0x37A, [" ι"]),
    (0x384, [" \u0301", " \u0308\u0301"]),
    (0x587, ["եւ"]),
    (0x675, ["\u0627\u0674", "\u0648\u0674", "\u06c7\u0674", "\u064a\u0674"]),
    (0x958, ["क\u093c", "ख\u093c", "ग\u093c", "ज\u093c", "ड\u093c", "ढ\u093c", "फ\u093c",
      "य\u093c"]),
    (0x9DC, ["ড\u09bc", "ঢ\u09bc", "-", "য\u09bc"]),
    (0xA33, ["ਲ\u0a3c", "-", "ਵ", "ਸ\u0a3c"]),
    (0xA59, ["ਖ\u0a3c", "ਗ\u0a3c", "ਜ\u0a3c", "ੜ", "-", "ਫ\u0a3c"]),
    (0xB5C, ["ଡ\u0b3c", "ଢ\u0b3c"]),
    (0xE33, ["\u0e4dา"]),
    (0xEB3, ["\u0ecdາ"]),
    (0xEDC, ["ຫນ", "ຫມ"]),
    (0xF43, ["ག\u0fb7"]),
    (0xF4D, ["ཌ\u0fb7"]),
    (0xF52, ["ད\u0fb7"]),
    (0xF57, ["བ\u0fb7"]),
    (0xF5C, ["ཛ\u0fb7"]),
    (0xF69, ["ཀ\u0fb5"]),
    (0xF73, ["\u0f71\u0f72", "\u0f74", "\u0f71\u0f74", "\u0fb2\u0f80", "\u0fb2\u0f71\u0f80",
      "\u0fb3\u0f80", "\u0fb3\u0f71\u0f80"]),
    (0xF81, ["\u0f71\u0f80"]),
    (0xF93, ["\u0f92\u0fb7"]),
    (0xF9D, ["\u0f9c\u0fb7"]),
    (0xFA2, ["\u0fa1\u0fb7"]),
    (0xFA7, ["\u0fa6\u0fb7"]),
    (0xFAC, ["\u0fab\u0fb7"]),
    (0xFB9, ["\u0f90\u0fb5"]),
    (0x1E9A, ["aʾ"]),
    (0x1F80, ["ἀι", "ἁι", "ἂι", "ἃι", "ἄι", "ἅι", "ἆι", "ἇι", "ἀι", "ἁι", "ἂι", "ἃι", "ἄι", "ἅι",
      "ἆι", "ἇι", "ἠι", "ἡι", "ἢι", "ἣι", "ἤι", "ἥι", "ἦι", "ἧι", "ἠι", "ἡι", "ἢι", "ἣι", "ἤι",
      "ἥι", "ἦι", "ἧι", "ὠι", "ὡι", "ὢι", "ὣι", "ὤι", "ὥι", "ὦι", "ὧι", "ὠι", "ὡι", "ὢι", "ὣι",
      "ὤι", "ὥι", "ὦι", "ὧι", "ᾰ", "ᾱ", "ὰι", "αι", "άι", "-", "ᾶ", "ᾶι"]),
    (0x1FBC, ["αι", " \u0313", "ι", " \u0313", " \u0342", " \u0308\u0342", "ὴι", "ηι", "ήι", "-",
      "ῆ", "ῆι"]),
    (0x1FCC, ["ηι", " \u0313\u0300", " \u0313\u0301", " \u0313\u0342"]),
    (0x1FDD, [" \u0314\u0300", " \u0314\u0301", " \u0314\u0342"]),
    (0x1FED, [" \u0308\u0300", " \u0308\u0301"]),
    (0x1FF2, ["ὼι", "ωι", "ώι", "-", "ῶ", "ῶι"]),
    (0x1FFC, ["ωι", " \u0301", " \u0314"]),
    (0x2017, [" \u0333"]),
    (0x2033, ["′′", "′′′", "‵", "‵‵", "‵‵‵"]),
    (0x203C, ["!!", "‽", " \u0305"]),
    (0x2047, ["??", "?!", "!?"]),
    (0x2057, ["′′′′"]),
    (0x20A8, ["rs"]),
    (0x2100, ["a/c", "a/s", "c", "°c", "℄", "c/o", "c/u", "ɛ", "℈", "°f"]),
    (0x2116, ["no"]),
    (0x2120, ["sm", "tel", "tm"]),
    (0x2139, ["i", "℺", "fax"]),
    (0x2150, ["1⁄7", "1⁄9", "1⁄10", "1⁄3", "2⁄3", "1⁄5", "2⁄5", "3⁄5", "4⁄5", "1⁄6", "5⁄6", "1⁄8",
      "3⁄8", "5⁄8", "7⁄8", "1⁄", "i", "ii", "iii", "iv", "v", "vi", "vii", "viii", "ix", "x", "xi",
      "xii"]),
    (0x2171, ["ii", "iii", "iv", "v", "vi", "vii", "viii", "ix", "x", "xi", "xii"]),
    (0x2189, ["0⁄3"]),
    (0x222C, ["∫∫", "∫∫∫", "∮", "∮∮", "∮∮∮"]),
    (0x2469, ["10", "11", "12", "13", "14", "15", "16", "17", "18", "19", "20", "(1)", "(2)",
      "(3)", "(4)", "(5)", "(6)", "(7)", "(8)", "(9)", "(10)", "(11)", "(12)", "(13)", "(14)",
      "(15)", "(16)", "(17)", "(18)", "(19)", "(20)"]),
    (0x249C, ["(a)", "(b)", "(c)", "(d)", "(e)", "(f)", "(g)", "(h)", "(i)", "(j)", "(k)", "(l)",
      "(m)", "(n)", "(o)", "(p)", "(q)", "(r)", "(s)", "(t)", "(u)", "(v)", "(w)", "(x)", "(y)",
      "(z)"]),
    (0x2A0C, ["∫∫∫∫"]),
    (0x2A74, ["::=", "==", "==="]),
    (0x2ADC, ["⫝\u0338"]),
    (0x309B, [" \u3099", " \u309a", "ゝ", "ゞ", "より"]),
    (0x30FF, ["コト"]),
    (0x3200, ["(\u1100)", "(\u1102)", "(\u1103)", "(\u1105)", "(\u1106)", "(\u1107)", "(\u1109)",
      "(\u110b)", "(\u110c)", "(\u110e)", "(\u110f)", "(\u1110)", "(\u1111)", "(\u1112)", "(가)",
      "(나)", "(다)", "(라)", "(마)", "(바)", "(사)", "(아)", "(자)", "(차)", "(카)", "(타)", "(파)", "(하)",
      "(주)", "(오전)", "(오후)", "-", "(一)", "(二)", "(三)", "(四)", "(五)", "(六)", "(七)", "(八)", "(九)",
      "(十)", "(月)", "(火)", "(水)", "(木)", "(金)", "(土)", "(日)", "(株)", "(有)", "(社)", "(名)", "(特)",
      "(財)", "(祝)", "(労)", "(代)", "(呼)", "(学)", "(監)", "(企)", "(資)", "(協)", "(祭)", "(休)", "(自)",
      "(至)"]),
    (0x3250, ["pte", "21", "22", "23", "24", "25", "26", "27", "28", "29", "30", "31", "32", "33",
      "34", "35"]),
    (0x327C, ["참고", "주의"]),
    (0x32B1, ["36", "37", "38", "39", "40", "41", "42", "43", "44", "45", "46", "47", "48", "49",
      "50", "1月", "2月", "3月", "4月", "5月", "6月", "7月", "8月", "9月", "10月", "11月", "12月", "hg", "erg",
      "ev", "ltd"]),
    (0x32FF, ["令和", "アパート", "アルファ", "アンペア", "アール", "イニング", "インチ", "ウォン", "エスクード", "エーカー", "オンス",
      "オーム", "カイリ", "カラット", "カロリー", "ガロン", "ガンマ", "ギガ", "ギニー", "キュリー", "ギルダー", "キロ", "キログラム",
      "キロメートル", "キロワット", "グラム", "グラムトン", "クルゼイロ", "クローネ", "ケース", "コルナ", "コーポ", "サイクル", "サンチーム",
      "シリング", "センチ", "セント", "ダース", "デシ", "ドル", "トン", "ナノ", "ノット", "ハイツ", "パーセント", "パーツ", "バーレル",
      "ピアストル", "ピクル", "ピコ", "ビル", "ファラッド", "フィート", "ブッシェル", "フラン", "ヘクタール", "ペソ", "ペニヒ", "ヘルツ",
      "ペンス", "ページ", "ベータ", "ポイント", "ボルト", "ホン", "ポンド", "ホール", "ホーン", "マイクロ", "マイル", "マッハ", "マルク",
      "マンション", "ミクロン", "ミリ", "ミリバール", "メガ", "メガトン", "メートル", "ヤード", "ヤール", "ユアン", "リットル", "リラ",
      "ルピー", "ルーブル", "レム", "レントゲン", "ワット", "0点", "1点", "2点", "3点", "4点", "5点", "6点", "7点", "8点",
      "9点", "10点", "11点", "12点", "13点", "14点", "15点", "16点", "17点", "18点", "19点", "20点", "21点",
      "22点", "23点", "24点", "hpa", "da", "au", "bar", "ov", "pc", "dm", "dm2", "dm3", "iu", "平成",
      "昭和", "大正", "明治", "株式会社", "pa", "na", "μa", "ma", "ka", "kb", "mb", "gb", "cal", "kcal",
      "pf", "nf", "μf", "μg", "mg", "kg", "hz", "khz", "mhz", "ghz", "thz", "μl", "ml", "dl", "kl",
      "fm", "nm", "μm", "mm", "cm", "km", "mm2", "cm2", "m2", "km2", "mm3", "cm3", "m3", "km3",
      "m∕s", "m∕s2", "pa", "kpa", "mpa", "gpa", "rad", "rad∕s", "rad∕s2", "ps", "ns", "μs", "ms",
      "pv", "nv", "μv", "mv", "kv", "mv", "pw", "nw", "μw", "mw", "kw", "mw", "kω", "mω", "-",
      "bq", "cc", "cd", "c∕kg", "-", "db", "gy", "ha", "hp", "in", "kk", "km", "kt", "lm", "ln",
      "log", "lx", "mb", "mil", "mol", "ph", "-", "ppm", "pr", "sr", "sv", "wb", "v∕m", "a∕m",
      "1日", "2日", "3日", "4日", "5日", "6日", "7日", "8日", "9日", "10日", "11日", "12日", "13日", "14日",
      "15日", "16日", "17日", "18日", "19日", "20日", "21日", "22日", "23日", "24日", "25日", "26日", "27日",
      "28日", "29日", "30日", "31日", "gal"]),
    (0xFB00, ["ff", "fi", "fl", "ffi", "ffl", "st", "st"]),
    (0xFB13, ["մն", "մե", "մի", "վն", "մխ"]),
    (0xFB1D, ["\u05d9\u05b4", "\ufb1e", "\u05f2\u05b7"]),
    (0xFB2A, ["\u05e9\u05c1", "\u05e9\u05c2", "\u05e9\u05bc\u05c1", "\u05e9\u05bc\u05c2",
      "\u05d0\u05b7", "\u05d0\u05b8", "\u05d0\u05bc", "\u05d1\u05bc", "\u05d2\u05bc",
      "\u05d3\u05bc", "\u05d4\u05bc", "\u05d5\u05bc", "\u05d6\u05bc", "-", "\u05d8\u05bc",
      "\u05d9\u05bc", "\u05da\u05bc", "\u05db\u05bc", "\u05dc\u05bc", "-", "\u05de\u05bc", "-",
      "\u05e0\u05bc", "\u05e1\u05bc", "-", "\u05e3\u05bc", "\u05e4\u05bc", "-", "\u05e6\u05bc",
      "\u05e7\u05bc", "\u05e8\u05bc", "\u05e9\u05bc", "\u05ea\u05bc", "\u05d5\u05b9",
      "\u05d1\u05bf", "\u05db\u05bf", "\u05e4\u05bf", "\u05d0\u05dc"]),
    (0xFBDD, ["\u06c7\u0674"]),
    (0xFBEA, ["\u0626\u0627", "\u0626\u0627", "\u0626\u06d5", "\u0626\u06d5", "\u0626\u0648",
      "\u0626\u0648", "\u0626\u06c7", "\u0626\u06c7", "\u0626\u06c6", "\u0626\u06c6",
      "\u0626\u06c8", "\u0626\u06c8", "\u0626\u06d0", "\u0626\u06d0", "\u0626\u06d0",
      "\u0626\u0649", "\u0626\u0649", "\u0626\u0649"]),
    (0xFC00, ["\u0626\u062c", "\u0626\u062d", "\u0626\u0645", "\u0626\u0649", "\u0626\u064a",
      "\u0628\u062c", "\u0628\u062d", "\u0628\u062e", "\u0628\u0645", "\u0628\u0649",
      "\u0628\u064a", "\u062a\u062c", "\u062a\u062d", "\u062a\u062e", "\u062a\u0645",
      "\u062a\u0649", "\u062a\u064a", "\u062b\u062c", "\u062b\u0645", "\u062b\u0649",
      "\u062b\u064a", "\u062c\u062d", "\u062c\u0645", "\u062d\u062c", "\u062d\u0645",
      "\u062e\u062c", "\u062e\u062d", "\u062e\u0645", "\u0633\u062c", "\u0633\u062d",
      "\u0633\u062e", "\u0633\u0645", "\u0635\u062d", "\u0635\u0645", "\u0636\u062c",
      "\u0636\u062d", "\u0636\u062e", "\u0636\u0645", "\u0637\u062d", "\u0637\u0645",
      "\u0638\u0645", "\u0639\u062c", "\u0639\u0645", "\u063a\u062c", "\u063a\u0645",
      "\u0641\u062c", "\u0641\u062d", "\u0641\u062e", "\u0641\u0645", "\u0641\u0649",
      "\u0641\u064a", "\u0642\u062d", "\u0642\u0645", "\u0642\u0649", "\u0642\u064a",
      "\u0643\u0627", "\u0643\u062c", "\u0643\u062d", "\u0643\u062e", "\u0643\u0644",
      "\u0643\u0645", "\u0643\u0649", "\u0643\u064a", "\u0644\u062c", "\u0644\u062d",
      "\u0644\u062e", "\u0644\u0645", "\u0644\u0649", "\u0644\u064a", "\u0645\u062c",
      "\u0645\u062d", "\u0645\u062e", "\u0645\u0645", "\u0645\u0649", "\u0645\u064a",
      "\u0646\u062c", "\u0646\u062d", "\u0646\u062e", "\u0646\u0645", "\u0646\u0649",
      "\u0646\u064a", "\u0647\u062c", "\u0647\u0645", "\u0647\u0649", "\u0647\u064a",
      "\u064a\u062c", "\u064a\u062d", "\u064a\u062e", "\u064a\u0645", "\u064a\u0649",
      "\u064a\u064a", "\u0630\u0670", "\u0631\u0670", "\u0649\u0670", " \u064c\u0651",
      " \u064d\u0651", " \u064e\u0651", " \u064f\u0651", " \u0650\u0651", " \u0651\u0670",
      "\u0626\u0631", "\u0626\u0632", "\u0626\u0645", "\u0626\u0646", "\u0626\u0649",
      "\u0626\u064a", "\u0628\u0631", "\u0628\u0632", "\u0628\u0645", "\u0628\u0646",
      "\u0628\u0649", "\u0628\u064a", "\u062a\u0631", "\u062a\u0632", "\u062a\u0645",
      "\u062a\u0646", "\u062a\u0649", "\u062a\u064a", "\u062b\u0631", "\u062b\u0632",
      "\u062b\u0645", "\u062b\u0646", "\u062b\u0649", "\u062b\u064a", "\u0641\u0649",
      "\u0641\u064a", "\u0642\u0649", "\u0642\u064a", "\u0643\u0627", "\u0643\u0644",
      "\u0643\u0645", "\u0643\u0649", "\u0643\u064a", "\u0644\u0645", "\u0644\u0649",
      "\u0644\u064a", "\u0645\u0627", "\u0645\u0645", "\u0646\u0631", "\u0646\u0632",
      "\u0646\u0645", "\u0646\u0646", "\u0646\u0649", "\u0646\u064a", "\u0649\u0670",
      "\u064a\u0631", "\u064a\u0632", "\u064a\u0645", "\u064a\u0646", "\u064a\u0649",
      "\u064a\u064a", "\u0626\u062c", "\u0626\u062d", "\u0626\u062e", "\u0626\u0645",
      "\u0626\u0647", "\u0628\u062c", "\u0628\u062d", "\u0628\u062e", "\u0628\u0645",
      "\u0628\u0647", "\u062a\u062c", "\u062a\u062d", "\u062a\u062e", "\u062a\u0645",
      "\u062a\u0647", "\u062b\u0645", "\u062c\u062d", "\u062c\u0645", "\u062d\u062c",
      "\u062d\u0645", "\u062e\u062c", "\u062e\u0645", "\u0633\u062c", "\u0633\u062d",
      "\u0633\u062e", "\u0633\u0645", "\u0635\u062d", "\u0635\u062e", "\u0635\u0645",
      "\u0636\u062c", "\u0636\u062d", "\u0636\u062e", "\u0636\u0645", "\u0637\u062d",
      "\u0638\u0645", "\u0639\u062c", "\u0639\u0645", "\u063a\u062c", "\u063a\u0645",
      "\u0641\u062c", "\u0641\u062d", "\u0641\u062e", "\u0641\u0645", "\u0642\u062d",
      "\u0642\u0645", "\u0643\u062c", "\u0643\u062d", "\u0643\u062e", "\u0643\u0644",
      "\u0643\u0645", "\u0644\u062c", "\u0644\u062d", "\u0644\u062e", "\u0644\u0645",
      "\u0644\u0647", "\u0645\u062c", "\u0645\u062d", "\u0645\u062e", "\u0645\u0645",
      "\u0646\u062c", "\u0646\u062d", "\u0646\u062e", "\u0646\u0645", "\u0646\u0647",
      "\u0647\u062c", "\u0647\u0645", "\u0647\u0670", "\u064a\u062c", "\u064a\u062d",
      "\u064a\u062e", "\u064a\u0645", "\u064a\u0647", "\u0626\u0645", "\u0626\u0647",
      "\u0628\u0645", "\u0628\u0647", "\u062a\u0645", "\u062a\u0647", "\u062b\u0645",
      "\u062b\u0647", "\u0633\u0645", "\u0633\u0647", "\u0634\u0645", "\u0634\u0647",
      "\u0643\u0644", "\u0643\u0645", "\u0644\u0645", "\u0646\u0645", "\u0646\u0647",
      "\u064a\u0645", "\u064a\u0647", "\u0640\u064e\u0651", "\u0640\u064f\u0651",
      "\u0640\u0650\u0651", "\u0637\u0649", "\u0637\u064a", "\u0639\u0649", "\u0639\u064a",
      "\u063a\u0649", "\u063a\u064a", "\u0633\u0649", "\u0633\u064a", "\u0634\u0649",
      "\u0634\u064a", "\u062d\u0649", "\u062d\u064a", "\u062c\u0649", "\u062c\u064a",
      "\u062e\u0649", "\u062e\u064a", "\u0635\u0649", "\u0635\u064a", "\u0636\u0649",
      "\u0636\u064a", "\u0634\u062c", "\u0634\u062d", "\u0634\u062e", "\u0634\u0645",
      "\u0634\u0631", "\u0633\u0631", "\u0635\u0631", "\u0636\u0631", "\u0637\u0649",
      "\u0637\u064a", "\u0639\u0649", "\u0639\u064a", "\u063a\u0649", "\u063a\u064a",
      "\u0633\u0649", "\u0633\u064a", "\u0634\u0649", "\u0634\u064a", "\u062d\u0649",
      "\u062d\u064a", "\u062c\u0649", "\u062c\u064a", "\u062e\u0649", "\u062e\u064a",
      "\u0635\u0649", "\u0635\u064a", "\u0636\u0649", "\u0636\u064a", "\u0634\u062c",
      "\u0634\u062d", "\u0634\u062e", "\u0634\u0645", "\u0634\u0631", "\u0633\u0631",
      "\u0635\u0631", "\u0636\u0631", "\u0634\u062c", "\u0634\u062d", "\u0634\u062e",
      "\u0634\u0645", "\u0633\u0647", "\u0634\u0647", "\u0637\u0645", "\u0633\u062c",
      "\u0633\u062d", "\u0633\u062e", "\u0634\u062c", "\u0634\u062d", "\u0634\u062e",
      "\u0637\u0645", "\u0638\u0645", "\u0627\u064b", "\u0627\u064b"]),
    (0xFD50, ["\u062a\u062c\u0645", "\u062a\u062d\u062c", "\u062a\u062d\u062c",
      "\u062a\u062d\u0645", "\u062a\u062e\u0645", "\u062a\u0645\u062c", "\u062a\u0645\u062d",
      "\u062a\u0645\u062e", "\u062c\u0645\u062d", "\u062c\u0645\u062d", "\u062d\u0645\u064a",
      "\u062d\u0645\u0649", "\u0633\u062d\u062c", "\u0633\u062c\u062d", "\u0633\u062c\u0649",
      "\u0633\u0645\u062d", "\u0633\u0645\u062d", "\u0633\u0645\u062c", "\u0633\u0645\u0645",
      "\u0633\u0645\u0645", "\u0635\u062d\u062d", "\u0635\u062d\u062d", "\u0635\u0645\u0645",
      "\u0634\u062d\u0645", "\u0634\u062d\u0645", "\u0634\u062c\u064a", "\u0634\u0645\u062e",
      "\u0634\u0645\u062e", "\u0634\u0645\u0645", "\u0634\u0645\u0645", "\u0636\u062d\u0649",
      "\u0636\u062e\u0645", "\u0636\u062e\u0645", "\u0637\u0645\u062d", "\u0637\u0645\u062d",
      "\u0637\u0645\u0645", "\u0637\u0645\u064a", "\u0639\u062c\u0645", "\u0639\u0645\u0645",
      "\u0639\u0645\u0645", "\u0639\u0645\u0649", "\u063a\u0645\u0645", "\u063a\u0645\u064a",
      "\u063a\u0645\u0649", "\u0641\u062e\u0645", "\u0641\u062e\u0645", "\u0642\u0645\u062d",
      "\u0642\u0645\u0645", "\u0644\u062d\u0645", "\u0644\u062d\u064a", "\u0644\u062d\u0649",
      "\u0644\u062c\u062c", "\u0644\u062c\u062c", "\u0644\u062e\u0645", "\u0644\u062e\u0645",
      "\u0644\u0645\u062d", "\u0644\u0645\u062d", "\u0645\u062d\u062c", "\u0645\u062d\u0645",
      "\u0645\u062d\u064a", "\u0645\u062c\u062d", "\u0645\u062c\u0645", "\u0645\u062e\u062c",
      "\u0645\u062e\u0645", "﶐", "﶑", "\u0645\u062c\u062e", "\u0647\u0645\u062c",
      "\u0647\u0645\u0645", "\u0646\u062d\u0645", "\u0646\u062d\u0649", "\u0646\u062c\u0645",
      "\u0646\u062c\u0645", "\u0646\u062c\u0649", "\u0646\u0645\u064a", "\u0646\u0645\u0649",
      "\u064a\u0645\u0645", "\u064a\u0645\u0645", "\u0628\u062e\u064a", "\u062a\u062c\u064a",
      "\u062a\u062c\u0649", "\u062a\u062e\u064a", "\u062a\u062e\u0649", "\u062a\u0645\u064a",
      "\u062a\u0645\u0649", "\u062c\u0645\u064a", "\u062c\u062d\u0649", "\u062c\u0645\u0649",
      "\u0633\u062e\u0649", "\u0635\u062d\u064a", "\u0634\u062d\u064a", "\u0636\u062d\u064a",
      "\u0644\u062c\u064a", "\u0644\u0645\u064a", "\u064a\u062d\u064a", "\u064a\u062c\u064a",
      "\u064a\u0645\u064a", "\u0645\u0645\u064a", "\u0642\u0645\u064a", "\u0646\u062d\u064a",
      "\u0642\u0645\u062d", "\u0644\u062d\u0645", "\u0639\u0645\u064a", "\u0643\u0645\u064a",
      "\u0646\u062c\u062d", "\u0645\u062e\u064a", "\u0644\u062c\u0645", "\u0643\u0645\u0645",
      "\u0644\u062c\u0645", "\u0646\u062c\u062d", "\u062c\u062d\u064a", "\u062d\u062c\u064a",
      "\u0645\u062c\u064a", "\u0641\u0645\u064a", "\u0628\u062d\u064a", "\u0643\u0645\u0645",
      "\u0639\u062c\u0645", "\u0635\u0645\u0645", "\u0633\u062e\u064a", "\u0646\u062c\u064a"]),
    (0xFDF0, ["\u0635\u0644\u06d2", "\u0642\u0644\u06d2", "\u0627\u0644\u0644\u0647",
      "\u0627\u0643\u0628\u0631", "\u0645\u062d\u0645\u062f", "\u0635\u0644\u0639\u0645",
      "\u0631\u0633\u0648\u0644", "\u0639\u0644\u064a\u0647", "\u0648\u0633\u0644\u0645",
      "\u0635\u0644\u0649", "صلى الله عليه وسلم", "\u062c\u0644 \u062c\u0644\u0627\u0644\u0647",
      "\u0631\u06cc\u0627\u0644"]),
    (0xFE47, ["[", "]", " \u0305", " \u0305", " \u0305", " \u0305"]),
    (0xFE70, [" \u064b", "\u0640\u064b", " \u064c", "\ufe73", " \u064d", "-", " \u064e",
      "\u0640\u064e", " \u064f", "\u0640\u064f", " \u0650", "\u0640\u0650", " \u0651",
      "\u0640\u0651", " \u0652", "\u0640\u0652"]),
    (0xFEF5, ["\u0644\u0622", "\u0644\u0622", "\u0644\u0623", "\u0644\u0623", "\u0644\u0625",
      "\u0644\u0625", "\u0644\u0627", "\u0644\u0627"]),
    (0xFFE3, [" \u0304"]),
    (0x1D15E, ["𝅗𝅥", "𝅘𝅥", "𝅘𝅥𝅮", "𝅘𝅥𝅯", "𝅘𝅥𝅰", "𝅘𝅥𝅱", "𝅘𝅥𝅲"]),
    (0x1D1BB, ["𝆹𝅥", "𝆺𝅥", "𝆹𝅥𝅮", "𝆺𝅥𝅮", "𝆹𝅥𝅯", "𝆺𝅥𝅯"]),
    (0x1F101, ["0,", "1,", "2,", "3,", "4,", "5,", "6,", "7,", "8,", "9,"]),
    (0x1F110, ["(a)", "(b)", "(c)", "(d)", "(e)", "(f)", "(g)", "(h)", "(i)", "(j)", "(k)", "(l)",
      "(m)", "(n)", "(o)", "(p)", "(q)", "(r)", "(s)", "(t)", "(u)", "(v)", "(w)", "(x)", "(y)",
      "(z)", "〔s〕", "c", "r", "cd", "wz"]),
    (0x1F14A, ["hv", "mv", "sd", "ss", "ppv", "wc"]),
    (0x1F16A, ["mc", "md", "mr"]),
    (0x1F190, ["dj"]),
    (0x1F200, ["ほか", "ココ", "サ"]),
    (0x1F240, ["〔本〕", "〔三〕", "〔二〕", "〔安〕", "〔点〕", "〔打〕", "〔盗〕", "〔勝〕", "〔敗〕"])]

/-- The form of a character whose range moves. -/
def shifted? (n : Nat) : Option Nat :=
  (shifts.find? fun (first, last, _) => first ≤ n && n ≤ last).map fun (first, _, form) =>
    form + (n - first)

/-- The form of a letter among capital and small ones in turn. -/
def alternated? (n : Nat) : Option Nat :=
  (alternations.find? fun (first, last) => first ≤ n && n ≤ last).map fun (first, _) =>
    if (n - first) % 2 = 0 then n + 1 else n

/-- The form of a character that is spelled as one other. -/
def letter? (n : Nat) : Option Char :=
  letters.findSome? fun (first, forms) => if first ≤ n then forms.toList[n - first]? else none

/-- The form of a character that is spelled as a text. -/
def phrase? (n : Nat) : Option String :=
  phrases.findSome? fun (first, forms) => if first ≤ n then forms[n - first]? else none

/-- The form of a character that is neither refused nor left out. -/
def form (c : Char) : List Char :=
  match shifted? c.toNat, alternated? c.toNat with
  | some n, _ => [Char.ofNat n]
  | none, some n => [Char.ofNat n]
  | none, none =>
    match letter? c.toNat with
    | some letter => [letter]
    | none => ((phrase? c.toNat).map String.toList).getD [c]

end Folding

/-- The form that a character has in names; none if no name can have it. -/
def fold? (c : Char) : Option (List Char) :=
  if c.toNat < 0x80 then some [c.toLower]
  else if isRefused c then none
  else if Folding.ignored.has c then some []
  else some (Folding.form c)

end TaskDesk
