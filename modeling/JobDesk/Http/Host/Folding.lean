import JobDesk.Text.Ranges

/-!
# Folding — characters of host names that stand for others

In the name of a host some characters beyond ASCII stand for others: capital letters for small ones,
and compatibility forms for what they are forms of.  Some stand for nothing at all.
-/

namespace JobDesk.Http.Host

def silentRanges : Array (Nat × Nat) := #[
  (0xad, 0xad), (0x34f, 0x34f), (0x115f, 0x1160), (0x17b4, 0x17b5), (0x180b, 0x180f),
  (0x200b, 0x200b), (0x2060, 0x2064), (0x206a, 0x206f), (0x3164, 0x3164), (0xfe00, 0xfe0f),
  (0xfeff, 0xfeff), (0xffa0, 0xffa0), (0x1bca0, 0x1bca3), (0x1d173, 0x1d17a), (0xe0100, 0xe01ef)]

/-- Runs of characters that stand for others: the code point of the first one, the distance from one
to the next, and what they stand for, divided by blanks. -/
def foldingRuns : List (Nat × Nat × String) := [
  (0xaa, 1, "a"),
  (0xb2, 1, "2 3"),
  (0xb5, 1, "μ"),
  (0xb9, 1, "1 o"),
  (0xbc, 2, "1⁄4 3⁄4 à â ä æ è ê ì î ð ò ô ö ø ú ü þ"),
  (0xbd, 1, "1⁄2"),
  (0xc1, 2, "á ã å ç é ë í ï ñ ó õ"),
  (0xd9, 2, "ù û ý"),
  (0x100, 2, "ā ă ą ć ĉ ċ č ď đ ē ĕ ė ę ě ĝ ğ ġ ģ ĥ ħ ĩ ī ĭ į i̇ ij ĵ ķ"),
  (0x133, 1, "ij"),
  (0x139, 2, "ĺ ļ ľ l· ł ń ņ ň ʼn"),
  (0x140, 1, "l·"),
  (0x14a, 2, "ŋ ō ŏ ő œ ŕ ŗ ř ś ŝ ş š ţ ť ŧ ũ ū ŭ ů ű ų ŵ ŷ ÿ"),
  (0x179, 2, "ź ż ž s ɓ"),
  (0x182, 2, "ƃ ƅ ɔ"),
  (0x187, 2, "ƈ ɖ ƌ"),
  (0x18a, 1, "ɗ"),
  (0x18e, 1, "ǝ ə ɛ ƒ"),
  (0x193, 1, "ɠ ɣ"),
  (0x196, 1, "ɩ ɨ ƙ"),
  (0x19c, 1, "ɯ ɲ"),
  (0x19f, 1, "ɵ ơ"),
  (0x1a2, 2, "ƣ ƥ ʀ"),
  (0x1a7, 2, "ƨ ʃ"),
  (0x1ac, 2, "ƭ ʈ"),
  (0x1af, 2, "ư ʊ ƴ ƶ ʒ"),
  (0x1b2, 1, "ʋ"),
  (0x1b8, 1, "ƹ"),
  (0x1bc, 1, "ƽ"),
  (0x1c4, 1, "dž dž dž lj lj lj nj nj nj ǎ"),
  (0x1cf, 2, "ǐ ǒ ǔ ǖ ǘ ǚ ǜ"),
  (0x1de, 2, "ǟ ǡ ǣ ǥ ǧ ǩ ǫ ǭ ǯ"),
  (0x1f1, 1, "dz dz dz ǵ"),
  (0x1f6, 2, "ƕ ǹ ǻ ǽ ǿ ȁ ȃ ȅ ȇ ȉ ȋ ȍ ȏ ȑ ȓ ȕ ȗ ș ț ȝ ȟ ƞ ȣ ȥ ȧ ȩ ȫ ȭ ȯ ȱ ȳ"),
  (0x1f7, 1, "ƿ"),
  (0x23a, 1, "ⱥ ȼ"),
  (0x23d, 1, "ƚ ⱦ"),
  (0x241, 2, "ɂ ƀ ʌ"),
  (0x244, 2, "ʉ ɇ ɉ ɋ ɍ ɏ"),
  (0x2b0, 1, "h ɦ j r ɹ ɻ ʁ w y"),
  (0x2e0, 1, "ɣ l s x ʕ"),
  (0x340, 1, "̀ ́"),
  (0x343, 1, "̓ ̈́ ι"),
  (0x370, 2, "ͱ ͳ ʹ ͷ"),
  (0x37e, 1, "; ϳ"),
  (0x386, 1, "ά · έ ή ί"),
  (0x38c, 2, "ό ύ"),
  (0x38f, 2, "ώ α γ ε η ι λ ν ο ρ σ υ χ ω ϋ"),
  (0x392, 2, "β δ ζ θ κ μ ξ π"),
  (0x3a4, 2, "τ φ ψ ϊ"),
  (0x3cf, 1, "ϗ β θ υ ύ ϋ φ π"),
  (0x3d8, 2, "ϙ ϛ ϝ ϟ ϡ ϣ ϥ ϧ ϩ ϫ ϭ ϯ κ σ θ"),
  (0x3f1, 1, "ρ"),
  (0x3f5, 2, "ε ϸ σ"),
  (0x3fa, 1, "ϻ"),
  (0x3fd, 1, "ͻ ͼ ͽ ѐ ё ђ ѓ є ѕ і ї ј љ њ ћ ќ ѝ ў џ а б в г д е ж з и й к л м н о п р с т у ф х"),
  (0x426, 1, "ц ч ш щ ъ ы ь э ю я"),
  (0x460, 2, "ѡ ѣ ѥ ѧ ѩ ѫ ѭ ѯ ѱ ѳ ѵ ѷ ѹ ѻ ѽ ѿ ҁ"),
  (0x48a, 2, "ҋ ҍ ҏ ґ ғ ҕ җ ҙ қ ҝ ҟ ҡ ң ҥ ҧ ҩ ҫ ҭ ү ұ ҳ ҵ ҷ ҹ һ ҽ ҿ ӏ"),
  (0x4c1, 2, "ӂ ӄ ӆ ӈ ӊ ӌ ӎ"),
  (0x4d0, 2, "ӑ ӓ ӕ ӗ ә ӛ ӝ ӟ ӡ ӣ ӥ ӧ ө ӫ ӭ ӯ ӱ ӳ ӵ ӷ ӹ ӻ ӽ ӿ ԁ ԃ ԅ ԇ ԉ ԋ ԍ ԏ ԑ ԓ ԕ ԗ ԙ ԛ ԝ ԟ ԡ"),
  (0x522, 2, "ԣ ԥ ԧ ԩ ԫ ԭ ԯ"),
  (0x531, 1, "ա բ գ դ ե զ է ը թ ժ ի լ խ ծ կ հ ձ ղ ճ մ յ ն շ ո չ պ ջ ռ ս վ տ ր ց ւ փ ք օ ֆ"),
  (0x587, 1, "եւ"),
  (0x675, 1, "اٴ وٴ ۇٴ يٴ"),
  (0x958, 1, "क़ ख़ ग़ ज़ ड़ ढ़ फ़ य़"),
  (0x9dc, 1, "ড় ঢ়"),
  (0x9df, 1, "য়"),
  (0xa33, 1, "ਲ਼"),
  (0xa36, 1, "ਸ਼"),
  (0xa59, 1, "ਖ਼ ਗ਼ ਜ਼"),
  (0xa5e, 1, "ਫ਼"),
  (0xb5c, 1, "ଡ଼ ଢ଼"),
  (0xe33, 1, "ํา"),
  (0xeb3, 1, "ໍາ"),
  (0xedc, 1, "ຫນ ຫມ"),
  (0xf0c, 1, "་"),
  (0xf43, 1, "གྷ"),
  (0xf4d, 1, "ཌྷ"),
  (0xf52, 1, "དྷ"),
  (0xf57, 1, "བྷ"),
  (0xf5c, 1, "ཛྷ"),
  (0xf69, 1, "ཀྵ"),
  (0xf73, 2, "ཱི ཱུ ྲཱྀ ླཱྀ"),
  (0xf76, 2, "ྲྀ ླྀ"),
  (0xf81, 1, "ཱྀ"),
  (0xf93, 1, "ྒྷ"),
  (0xf9d, 1, "ྜྷ"),
  (0xfa2, 1, "ྡྷ"),
  (0xfa7, 1, "ྦྷ"),
  (0xfac, 1, "ྫྷ"),
  (0xfb9, 1, "ྐྵ"),
  (0x10a0, 1, "ⴀ ⴁ ⴂ ⴃ ⴄ ⴅ ⴆ ⴇ ⴈ ⴉ ⴊ ⴋ ⴌ ⴍ ⴎ ⴏ ⴐ ⴑ ⴒ ⴓ ⴔ ⴕ ⴖ ⴗ ⴘ ⴙ ⴚ ⴛ ⴜ ⴝ ⴞ ⴟ ⴠ ⴡ ⴢ ⴣ ⴤ ⴥ"),
  (0x10c7, 1, "ⴧ"),
  (0x10cd, 1, "ⴭ"),
  (0x10fc, 1, "ნ"),
  (0x13f8, 1, "Ᏸ Ᏹ Ᏺ Ᏻ Ᏼ Ᏽ"),
  (0x1c80, 1, "в д о с т т ъ ѣ ꙋ ᲊ"),
  (0x1c90, 1, "ა ბ გ დ ე ვ ზ თ ი კ ლ მ ნ ო პ ჟ რ ს ტ უ ფ ქ ღ ყ შ ჩ ც ძ წ ჭ ხ ჯ ჰ ჱ ჲ ჳ ჴ ჵ ჶ ჷ ჸ"),
  (0x1cb9, 1, "ჹ ჺ"),
  (0x1cbd, 1, "ჽ ჾ ჿ"),
  (0x1d2c, 2, "a b d ǝ h j l n o p t w ɐ ᴂ d ə ɜ"),
  (0x1d2d, 1, "æ"),
  (0x1d31, 2, "e g i k m"),
  (0x1d3d, 2, "ȣ r u a ɑ b e ɛ g k ŋ ɔ ᴗ t ᴝ v β δ χ r v γ φ"),
  (0x1d50, 2, "m o ᴖ p u ɯ ᴥ γ φ i u β ρ χ"),
  (0x1d78, 1, "н"),
  (0x1d9b, 1, "ɒ c ɕ ð ɜ f ɟ ɡ ɥ ɨ ɩ ɪ ᵻ ʝ ɭ ᶅ ʟ ɱ ɰ ɲ ɳ ɴ ɵ ɸ ʂ ʃ ƫ ʉ ʊ ᴜ ʋ ʌ z ʐ ʑ ʒ θ"),
  (0x1e00, 2, "ḁ ḃ ḅ ḇ ḉ ḋ ḍ ḏ ḑ ḓ ḕ ḗ ḙ ḛ ḝ ḟ ḡ ḣ ḥ ḧ ḩ ḫ ḭ ḯ ḱ ḳ ḵ ḷ ḹ ḻ ḽ ḿ ṁ ṃ ṅ ṇ ṉ ṋ ṍ ṏ ṑ"),
  (0x1e52, 2, "ṓ ṕ ṗ ṙ ṛ ṝ ṟ ṡ ṣ ṥ ṧ ṩ ṫ ṭ ṯ ṱ ṳ ṵ ṷ ṹ ṻ ṽ ṿ ẁ ẃ ẅ ẇ ẉ ẋ ẍ ẏ ẑ ẓ ẕ"),
  (0x1e9a, 1, "aʾ ṡ"),
  (0x1e9e, 2, "ß ạ ả ấ ầ ẩ ẫ ậ ắ ằ ẳ ẵ ặ ẹ ẻ ẽ ế ề ể ễ ệ ỉ ị ọ ỏ ố ồ ổ ỗ ộ ớ ờ ở ỡ ợ ụ ủ ứ ừ ử ữ"),
  (0x1ef0, 2, "ự ỳ ỵ ỷ ỹ ỻ ỽ ỿ"),
  (0x1f08, 1, "ἀ ἁ ἂ ἃ ἄ ἅ ἆ ἇ"),
  (0x1f18, 1, "ἐ ἑ ἒ ἓ ἔ ἕ"),
  (0x1f28, 1, "ἠ ἡ ἢ ἣ ἤ ἥ ἦ ἧ"),
  (0x1f38, 1, "ἰ ἱ ἲ ἳ ἴ ἵ ἶ ἷ"),
  (0x1f48, 1, "ὀ ὁ ὂ ὃ ὄ ὅ"),
  (0x1f59, 2, "ὑ ὓ ὕ ὗ"),
  (0x1f68, 1, "ὠ ὡ ὢ ὣ ὤ ὥ ὦ ὧ"),
  (0x1f71, 2, "ά έ ή ί ό ύ ώ"),
  (0x1f80, 1, "ἀι ἁι ἂι ἃι ἄι ἅι ἆι ἇι ἀι ἁι ἂι ἃι ἄι ἅι ἆι ἇι ἠι ἡι ἢι ἣι ἤι ἥι ἦι ἧι ἠι ἡι ἢι"),
  (0x1f9b, 1, "ἣι ἤι ἥι ἦι ἧι ὠι ὡι ὢι ὣι ὤι ὥι ὦι ὧι ὠι ὡι ὢι ὣι ὤι ὥι ὦι ὧι"),
  (0x1fb2, 1, "ὰι αι άι"),
  (0x1fb7, 1, "ᾶι ᾰ ᾱ ὰ ά αι"),
  (0x1fbe, 1, "ι"),
  (0x1fc2, 1, "ὴι ηι ήι"),
  (0x1fc7, 1, "ῆι ὲ έ ὴ ή ηι"),
  (0x1fd3, 1, "ΐ"),
  (0x1fd8, 1, "ῐ ῑ ὶ ί"),
  (0x1fe3, 1, "ΰ"),
  (0x1fe8, 1, "ῠ ῡ ὺ ύ ῥ"),
  (0x1ff2, 1, "ὼι ωι ώι"),
  (0x1ff7, 1, "ῶι ὸ ό ὼ ώ ωι"),
  (0x2011, 1, "‐"),
  (0x2033, 1, "′′ ′′′"),
  (0x2036, 1, "‵‵ ‵‵‵"),
  (0x203c, 1, "!!"),
  (0x2057, 1, "′′′′"),
  (0x2070, 1, "0 i"),
  (0x2074, 1, "4 5 6 7 8 9 + − = ( ) n 0 1 2 3 4 5 6 7 8 9 + − = ( )"),
  (0x2090, 1, "a e o x ə h k l m n p s t"),
  (0x20a8, 1, "rs"),
  (0x2102, 1, "c °c"),
  (0x2107, 2, "ɛ °f h h ħ i l n"),
  (0x210a, 2, "g h h i l"),
  (0x2116, 1, "no"),
  (0x2119, 1, "p q r r r"),
  (0x2120, 2, "sm tm z ω z k b"),
  (0x2121, 1, "tel"),
  (0x212b, 2, "å c e f m א ג i fax γ π"),
  (0x2130, 2, "e ⅎ o ב ד"),
  (0x213c, 2, "π γ ∑"),
  (0x2145, 1, "d d e i j"),
  (0x2150, 1, "1⁄7 1⁄9 1⁄10 1⁄3 2⁄3 1⁄5 2⁄5 3⁄5 4⁄5 1⁄6 5⁄6 1⁄8 3⁄8 5⁄8 7⁄8 1⁄ i ii iii iv v vi"),
  (0x2166, 1, "vii viii ix x xi xii l c d m i ii iii iv v vi vii viii ix x xi xii l c d m"),
  (0x2183, 1, "ↄ"),
  (0x2189, 1, "0⁄3"),
  (0x222c, 1, "∫∫ ∫∫∫"),
  (0x222f, 1, "∮∮ ∮∮∮"),
  (0x2329, 1, "〈 〉"),
  (0x2460, 1, "1 2 3 4 5 6 7 8 9 10 11 12 13 14 15 16 17 18 19 20 (1) (2) (3) (4) (5) (6) (7)"),
  (0x247b, 1, "(8) (9) (10) (11) (12) (13) (14) (15) (16) (17) (18) (19) (20)"),
  (0x249c, 1, "(a) (b) (c) (d) (e) (f) (g) (h) (i) (j) (k) (l) (m) (n) (o) (p) (q) (r) (s) (t)"),
  (0x24b0, 1, "(u) (v) (w) (x) (y) (z) a b c d e f g h i j k l m n o p q r s t u v w x y z a b c"),
  (0x24d3, 1, "d e f g h i j k l m n o p q r s t u v w x y z 0"),
  (0x2a0c, 1, "∫∫∫∫"),
  (0x2a75, 1, "== ==="),
  (0x2adc, 1, "⫝̸"),
  (0x2c00, 1, "ⰰ ⰱ ⰲ ⰳ ⰴ ⰵ ⰶ ⰷ ⰸ ⰹ ⰺ ⰻ ⰼ ⰽ ⰾ ⰿ ⱀ ⱁ ⱂ ⱃ ⱄ ⱅ ⱆ ⱇ ⱈ ⱉ ⱊ ⱋ ⱌ ⱍ ⱎ ⱏ ⱐ ⱑ ⱒ ⱓ ⱔ ⱕ ⱖ ⱗ ⱘ"),
  (0x2c29, 1, "ⱙ ⱚ ⱛ ⱜ ⱝ ⱞ ⱟ"),
  (0x2c60, 2, "ⱡ ɫ ɽ"),
  (0x2c63, 1, "ᵽ"),
  (0x2c67, 2, "ⱨ ⱪ ⱬ ɑ ɐ"),
  (0x2c6e, 2, "ɱ ɒ ⱳ"),
  (0x2c75, 1, "ⱶ"),
  (0x2c7c, 2, "j ȿ ⲁ ⲃ ⲅ ⲇ ⲉ ⲋ ⲍ ⲏ ⲑ ⲓ ⲕ ⲗ ⲙ ⲛ ⲝ ⲟ ⲡ ⲣ ⲥ ⲧ ⲩ ⲫ ⲭ ⲯ ⲱ ⲳ ⲵ ⲷ ⲹ ⲻ ⲽ ⲿ ⳁ ⳃ ⳅ ⳇ ⳉ ⳋ ⳍ"),
  (0x2cce, 2, "ⳏ ⳑ ⳓ ⳕ ⳗ ⳙ ⳛ ⳝ ⳟ ⳡ ⳣ"),
  (0x2c7d, 2, "v ɀ"),
  (0x2ceb, 2, "ⳬ ⳮ"),
  (0x2cf2, 1, "ⳳ"),
  (0x2d6f, 1, "ⵡ"),
  (0x2e9f, 1, "母"),
  (0x2ef3, 1, "龟"),
  (0x2f00, 1, "一 丨 丶 丿 乙 亅 二 亠 人 儿 入 八 冂 冖 冫 几 凵 刀 力 勹 匕 匚 匸 十 卜 卩 厂 厶 又 口 囗 土 士 夂 夊 夕 大 女 子 宀 寸"),
  (0x2f29, 1, "小 尢 尸 屮 山 巛 工 己 巾 干 幺 广 廴 廾 弋 弓 彐 彡 彳 心 戈 戶 手 支 攴 文 斗 斤 方 无 日 曰 月 木 欠 止 歹 殳 毋 比 毛"),
  (0x2f52, 1, "氏 气 水 火 爪 父 爻 爿 片 牙 牛 犬 玄 玉 瓜 瓦 甘 生 用 田 疋 疒 癶 白 皮 皿 目 矛 矢 石 示 禸 禾 穴 立 竹 米 糸 缶 网 羊"),
  (0x2f7b, 1, "羽 老 而 耒 耳 聿 肉 臣 自 至 臼 舌 舛 舟 艮 色 艸 虍 虫 血 行 衣 襾 見 角 言 谷 豆 豕 豸 貝 赤 走 足 身 車 辛 辰 辵 邑 酉"),
  (0x2fa4, 1, "釆 里 金 長 門 阜 隶 隹 雨 靑 非 面 革 韋 韭 音 頁 風 飛 食 首 香 馬 骨 高 髟 鬥 鬯 鬲 鬼 魚 鳥 鹵 鹿 麥 麻 黃 黍 黑 黹 黽"),
  (0x2fcd, 1, "鼎 鼓 鼠 鼻 齊 齒 龍 龜 龠"),
  (0x3002, 1, "."),
  (0x3036, 2, "〒 十 卅"),
  (0x3039, 1, "卄"),
  (0x309f, 1, "より"),
  (0x30ff, 1, "コト"),
  (0x3131, 1, "ᄀ ᄁ ᆪ ᄂ ᆬ ᆭ ᄃ ᄄ ᄅ ᆰ ᆱ ᆲ ᆳ ᆴ ᆵ ᄚ ᄆ ᄇ ᄈ ᄡ ᄉ ᄊ ᄋ ᄌ ᄍ ᄎ ᄏ ᄐ ᄑ ᄒ ᅡ ᅢ ᅣ ᅤ ᅥ ᅦ ᅧ ᅨ ᅩ ᅪ ᅫ"),
  (0x315a, 1, "ᅬ ᅭ ᅮ ᅯ ᅰ ᅱ ᅲ ᅳ ᅴ ᅵ"),
  (0x3165, 1, "ᄔ ᄕ ᇇ ᇈ ᇌ ᇎ ᇓ ᇗ ᇙ ᄜ ᇝ ᇟ ᄝ ᄞ ᄠ ᄢ ᄣ ᄧ ᄩ ᄫ ᄬ ᄭ ᄮ ᄯ ᄲ ᄶ ᅀ ᅇ ᅌ ᇱ ᇲ ᅗ ᅘ ᅙ ᆄ ᆅ ᆈ ᆑ ᆒ ᆔ ᆞ"),
  (0x318e, 1, "ᆡ"),
  (0x3192, 1, "一 二 三 四 上 中 下 甲 乙 丙 丁 天 地 人"),
  (0x3200, 2, "(ᄀ) (ᄃ) (ᄆ) (ᄉ) (ᄌ) (ᄏ) (ᄑ) (가) (다) (마) (사) (자) (카) (파) (주) (오후) (一) (三) (五) (七)"),
  (0x3228, 2, "(九) (月) (水) (金) (日) (有) (名) (財) (労) (呼) (監) (資) (祭) (自) 問 文"),
  (0x3201, 2, "(ᄂ) (ᄅ) (ᄇ) (ᄋ) (ᄎ) (ᄐ) (ᄒ) (나) (라) (바) (아) (차) (타) (하) (오전)"),
  (0x3221, 2, "(二) (四) (六) (八) (十) (火) (木) (土) (株) (社) (特) (祝) (代) (学) (企) (協) (休) (至) 幼 箏"),
  (0x3250, 2, "pte 22 24 26 28 30 32 34 ᄀ ᄃ ᄆ ᄉ ᄌ ᄏ ᄑ 가 다 마 사 자 카 파 참고 우 一 三 五 七 九 月 水 金 日 有 名 財"),
  (0x3298, 2, "労 男 適 印 項 写 上 下 右 宗 監 資 夜 37 39 41 43 45 47 49 1月 3月 5月 7月 9月 11月 hg ev ア ウ オ キ ケ"),
  (0x32da, 2, "サ ス ソ チ テ ナ ヌ ノ ヒ ヘ マ ム モ ユ ラ ル ロ ヰ ヲ アパート アンペア イニング ウォン エーカー オーム カラット ガロン ギガ"),
  (0x3312, 2, "キュリー キロ キロメートル グラム クルゼイロ ケース コーポ サンチーム センチ ダース ドル ナノ ハイツ パーツ ピアストル ピコ ファラッド ブッシェル"),
  (0x3336, 2, "ヘクタール ペニヒ ペンス ベータ ボルト ポンド ホーン マイル マルク ミクロン ミリバール メガトン ヤード ユアン リラ ルーブル レントゲン 0点 2点"),
  (0x335c, 2, "4点 6点 8点 10点 12点 14点 16点 18点 20点 22点 24点 da bar pc dm2 iu 昭和 明治 pa μa ka mb cal"),
  (0x338a, 2, "pf μf mg hz mhz thz ml kl nm mm km cm2 km2 cm3 km3 m∕s2 kpa gpa rad∕s ps μs pv μv"),
  (0x33b8, 2, "kv pw μw kw kω"),
  (0x3251, 2, "21 23 25 27 29 31 33 35 ᄂ ᄅ ᄇ ᄋ ᄎ ᄐ ᄒ 나 라 바 아 차 타 하 주의"),
  (0x3281, 2, "二 四 六 八 十 火 木 土 株 社 特 祝 秘 女 優 注 休 正 中 左 医 学 企 協 36 38 40 42 44 46 48 50 2月 4月 6月"),
  (0x32c7, 2, "8月 10月 12月 erg ltd イ エ カ ク コ シ セ タ ツ ト ニ ネ ハ フ ホ ミ メ ヤ ヨ リ レ ワ ヱ 令和 アルファ アール インチ"),
  (0x3307, 2, "エスクード オンス カイリ カロリー ガンマ ギニー ギルダー キログラム キロワット グラムトン クローネ コルナ サイクル シリング セント デシ トン"),
  (0x3329, 2, "ノット パーセント バーレル ピクル ビル フィート フラン ペソ ヘルツ ページ ポイント ホン ホール マイクロ マッハ マンション ミリ メガ メートル"),
  (0x334f, 2, "ヤール リットル ルピー レム ワット 1点 3点 5点 7点 9点 11点 13点 15点 17点 19点 21点 23点 hpa au ov dm dm3"),
  (0x337b, 2, "平成 大正 株式会社 na ma kb gb kcal nf μg kg khz ghz μl dl fm μm cm mm2 m2 mm3 m3 m∕s pa"),
  (0x33ab, 2, "mpa rad rad∕s2 ns ms nv mv mv nw mw mw mω bq cd"),
  (0x33c4, 2, "cc c∕kg db ha in km lm log mb mol"),
  (0x33c9, 2, "gy hp kk kt ln lx mil ph ppm sr wb a∕m 2日 4日 6日 8日 10日 12日 14日 16日 18日 20日 22日"),
  (0x33f7, 2, "24日 26日 28日 30日 gal"),
  (0x33da, 2, "pr sv v∕m 1日 3日 5日 7日 9日 11日 13日 15日 17日 19日 21日 23日 25日 27日 29日 31日"),
  (0xa640, 2, "ꙁ ꙃ ꙅ ꙇ ꙉ ꙋ ꙍ ꙏ ꙑ ꙓ ꙕ ꙗ ꙙ ꙛ ꙝ ꙟ ꙡ ꙣ ꙥ ꙧ ꙩ ꙫ ꙭ"),
  (0xa680, 2, "ꚁ ꚃ ꚅ ꚇ ꚉ ꚋ ꚍ ꚏ ꚑ ꚓ ꚕ ꚗ ꚙ ꚛ ъ"),
  (0xa69d, 1, "ь"),
  (0xa722, 2, "ꜣ ꜥ ꜧ ꜩ ꜫ ꜭ ꜯ"),
  (0xa732, 2, "ꜳ ꜵ ꜷ ꜹ ꜻ ꜽ ꜿ ꝁ ꝃ ꝅ ꝇ ꝉ ꝋ ꝍ ꝏ ꝑ ꝓ ꝕ ꝗ ꝙ ꝛ ꝝ ꝟ ꝡ ꝣ ꝥ ꝧ ꝩ ꝫ ꝭ ꝯ ꝯ"),
  (0xa779, 2, "ꝺ ꝼ ᵹ"),
  (0xa77e, 2, "ꝿ ꞁ ꞃ ꞅ ꞇ"),
  (0xa78b, 2, "ꞌ ɥ"),
  (0xa790, 2, "ꞑ ꞓ"),
  (0xa796, 2, "ꞗ ꞙ ꞛ ꞝ ꞟ ꞡ ꞣ ꞥ ꞧ ꞩ ɦ ɡ ɪ ʞ ʝ ꞵ ꞷ ꞹ ꞻ ꞽ ꞿ ꟁ ꟃ ꞔ ᶎ"),
  (0xa7ab, 2, "ɜ ɬ"),
  (0xa7b1, 2, "ʇ ꭓ"),
  (0xa7c5, 2, "ʂ ꟈ ꟊ ɤ"),
  (0xa7cc, 2, "ꟍ ꟏ ꟑ ꟓ ꟕ ꟗ ꟙ ꟛ ƛ"),
  (0xa7f1, 1, "s c f q ꟶ"),
  (0xa7f8, 1, "ħ œ"),
  (0xab5c, 1, "ꜧ ꬷ ɫ ꭒ"),
  (0xab69, 1, "ʍ"),
  (0xab70, 1, "Ꭰ Ꭱ Ꭲ Ꭳ Ꭴ Ꭵ Ꭶ Ꭷ Ꭸ Ꭹ Ꭺ Ꭻ Ꭼ Ꭽ Ꭾ Ꭿ Ꮀ Ꮁ Ꮂ Ꮃ Ꮄ Ꮅ Ꮆ Ꮇ Ꮈ Ꮉ Ꮊ Ꮋ Ꮌ Ꮍ Ꮎ Ꮏ Ꮐ Ꮑ Ꮒ Ꮓ Ꮔ Ꮕ Ꮖ Ꮗ Ꮘ"),
  (0xab99, 1, "Ꮙ Ꮚ Ꮛ Ꮜ Ꮝ Ꮞ Ꮟ Ꮠ Ꮡ Ꮢ Ꮣ Ꮤ Ꮥ Ꮦ Ꮧ Ꮨ Ꮩ Ꮪ Ꮫ Ꮬ Ꮭ Ꮮ Ꮯ Ꮰ Ꮱ Ꮲ Ꮳ Ꮴ Ꮵ Ꮶ Ꮷ Ꮸ Ꮹ Ꮺ Ꮻ Ꮼ Ꮽ Ꮾ Ꮿ"),
  (0xf900, 1, "豈 更 車 賈 滑 串 句 龜 龜 契 金 喇 奈 懶 癩 羅 蘿 螺 裸 邏 樂 洛 烙 珞 落 酪 駱 亂 卵 欄 爛 蘭 鸞 嵐 濫 藍 襤 拉 臘 蠟 廊"),
  (0xf929, 1, "朗 浪 狼 郎 來 冷 勞 擄 櫓 爐 盧 老 蘆 虜 路 露 魯 鷺 碌 祿 綠 菉 錄 鹿 論 壟 弄 籠 聾 牢 磊 賂 雷 壘 屢 樓 淚 漏 累 縷 陋"),
  (0xf952, 1, "勒 肋 凜 凌 稜 綾 菱 陵 讀 拏 樂 諾 丹 寧 怒 率 異 北 磻 便 復 不 泌 數 索 參 塞 省 葉 說 殺 辰 沈 拾 若 掠 略 亮 兩 凉 梁"),
  (0xf97b, 1, "糧 良 諒 量 勵 呂 女 廬 旅 濾 礪 閭 驪 麗 黎 力 曆 歷 轢 年 憐 戀 撚 漣 煉 璉 秊 練 聯 輦 蓮 連 鍊 列 劣 咽 烈 裂 說 廉 念"),
  (0xf9a4, 1, "捻 殮 簾 獵 令 囹 寧 嶺 怜 玲 瑩 羚 聆 鈴 零 靈 領 例 禮 醴 隸 惡 了 僚 寮 尿 料 樂 燎 療 蓼 遼 龍 暈 阮 劉 杻 柳 流 溜 琉"),
  (0xf9cd, 1, "留 硫 紐 類 六 戮 陸 倫 崙 淪 輪 律 慄 栗 率 隆 利 吏 履 易 李 梨 泥 理 痢 罹 裏 裡 里 離 匿 溺 吝 燐 璘 藺 隣 鱗 麟 林 淋"),
  (0xf9f6, 1, "臨 立 笠 粒 狀 炙 識 什 茶 刺 切 度 拓 糖 宅 洞 暴 輻 行 降 見 廓 兀 嗀"),
  (0xfa10, 2, "塚 晴"),
  (0xfa15, 1, "凞 猪 益 礼 神 祥 福 靖 精 羽"),
  (0xfa20, 2, "蘒 諸"),
  (0xfa25, 1, "逸 都"),
  (0xfa2a, 1, "飯 飼 館 鶴 郞 隷 侮 僧 免 勉 勤 卑 喝 嘆 器 塀 墨 層 屮 悔 慨 憎 懲 敏 既 暑 梅 海 渚 漢 煮 爫 琢 碑 社 祉 祈 祐 祖 祝 禍"),
  (0xfa53, 1, "禎 穀 突 節 練 縉 繁 署 者 臭 艹 艹 著 褐 視 謁 謹 賓 贈 辶 逸 難 響 頻 恵 𤋮 舘"),
  (0xfa70, 1, "並 况 全 侀 充 冀 勇 勺 喝 啕 喙 嗢 塚 墳 奄 奔 婢 嬨 廒 廙 彩 徭 惘 慎 愈 憎 慠 懲 戴 揄 搜 摒 敖 晴 朗 望 杖 歹 殺 流 滛"),
  (0xfa99, 1, "滋 漢 瀞 煮 瞧 爵 犯 猪 瑱 甆 画 瘝 瘟 益 盛 直 睊 着 磌 窱 節 类 絛 練 缾 者 荒 華 蝹 襁 覆 視 調 諸 請 謁 諾 諭 謹 變 贈"),
  (0xfac2, 1, "輸 遲 醙 鉶 陼 難 靖 韛 響 頋 頻 鬒 龜 𢡊 𢡄 𣏕 㮝 䀘 䀹 𥉉 𥳐 𧻓 齃 龎"),
  (0xfb00, 1, "ff fi fl ffi ffl st st"),
  (0xfb13, 1, "մն մե մի վն մխ"),
  (0xfb1d, 2, "יִ ײַ א ה ל ר + שׂ שּׂ אָ בּ דּ וּ"),
  (0xfb20, 2, "ע ד כ ם ת שׁ שּׁ אַ אּ גּ הּ זּ טּ ךּ לּ מּ נּ"),
  (0xfb39, 2, "יּ כּ"),
  (0xfb41, 2, "סּ ףּ"),
  (0xfb44, 2, "פּ צּ רּ תּ בֿ פֿ ٱ ٻ ٻ پ پ ڀ ڀ ٺ ٺ ٿ ٿ ٹ ٹ ڤ ڤ ڦ ڦ ڄ ڄ ڃ ڃ چ چ ڇ ڇ ڍ ڌ ڎ ڈ ژ ڑ ک"),
  (0xfb90, 2, "ک گ گ ڳ ڳ ڱ ڱ ں ڻ ڻ ۀ ہ ہ ھ ھ ے ۓ"),
  (0xfb47, 2, "קּ שּ וֹ כֿ אל ٱ ٻ ٻ پ پ ڀ ڀ ٺ ٺ ٿ ٿ ٹ ٹ ڤ ڤ ڦ ڦ ڄ ڄ ڃ ڃ چ چ ڇ ڇ ڍ ڌ ڎ ڈ ژ ڑ ک ک"),
  (0xfb93, 2, "گ گ ڳ ڳ ڱ ڱ ں ڻ ڻ ۀ ہ ہ ھ ھ ے ۓ"),
  (0xfbd3, 1, "ڭ ڭ ڭ ڭ ۇ ۇ ۆ ۆ ۈ ۈ ۇٴ ۋ ۋ ۅ ۅ ۉ ۉ ې ې ې ې ى ى ئا ئا ئە ئە ئو ئو ئۇ ئۇ ئۆ ئۆ ئۈ"),
  (0xfbf5, 1, "ئۈ ئې ئې ئې ئى ئى ئى ی ی ی ی ئج ئح ئم ئى ئي بج بح بخ بم بى بي تج تح تخ تم تى تي"),
  (0xfc11, 1, "ثج ثم ثى ثي جح جم حج حم خج خح خم سج سح سخ سم صح صم ضج ضح ضخ ضم طح طم ظم عج عم غج"),
  (0xfc2c, 1, "غم فج فح فخ فم فى في قح قم قى قي كا كج كح كخ كل كم كى كي لج لح لخ لم لى لي مج مح"),
  (0xfc47, 1, "مخ مم مى مي نج نح نخ نم نى ني هج هم هى هي يج يح يخ يم يى يي ذٰ رٰ ىٰ"),
  (0xfc64, 1, "ئر ئز ئم ئن ئى ئي بر بز بم بن بى بي تر تز تم تن تى تي ثر ثز ثم ثن ثى ثي فى في قى"),
  (0xfc7f, 1, "قي كا كل كم كى كي لم لى لي ما مم نر نز نم نن نى ني ىٰ ير يز يم ين يى يي ئج ئح ئخ"),
  (0xfc9a, 1, "ئم ئه بج بح بخ بم به تج تح تخ تم ته ثم جح جم حج حم خج خم سج سح سخ سم صح صخ صم ضج"),
  (0xfcb5, 1, "ضح ضخ ضم طح ظم عج عم غج غم فج فح فخ فم قح قم كج كح كخ كل كم لج لح لخ لم له مج مح"),
  (0xfcd0, 1, "مخ مم نج نح نخ نم نه هج هم هٰ يج يح يخ يم يه ئم ئه بم به تم ته ثم ثه سم سه شم شه"),
  (0xfceb, 1, "كل كم لم نم نه يم يه ـَّ ـُّ ـِّ طى طي عى عي غى غي سى سي شى شي حى حي جى جي خى خي"),
  (0xfd05, 1, "صى صي ضى ضي شج شح شخ شم شر سر صر ضر طى طي عى عي غى غي سى سي شى شي حى حي جى جي خى"),
  (0xfd20, 1, "خي صى صي ضى ضي شج شح شخ شم شر سر صر ضر شج شح شخ شم سه شه طم سج سح سخ شج شح شخ طم"),
  (0xfd3b, 1, "ظم اً اً"),
  (0xfd50, 1, "تجم تحج تحج تحم تخم تمج تمح تمخ جمح جمح حمي حمى سحج سجح سجى سمح سمح سمج سمم سمم"),
  (0xfd64, 1, "صحح صحح صمم شحم شحم شجي شمخ شمخ شمم شمم ضحى ضخم ضخم طمح طمح طمم طمي عجم عمم عمم"),
  (0xfd78, 1, "عمى غمم غمي غمى فخم فخم قمح قمم لحم لحي لحى لجج لجج لخم لخم لمح لمح محج محم محي"),
  (0xfd8c, 1, "مجح مجم مخج مخم"),
  (0xfd92, 1, "مجخ همج همم نحم نحى نجم نجم نجى نمي نمى يمم يمم بخي تجي تجى تخي تخى تمي تمى جمي"),
  (0xfda6, 1, "جحى جمى سخى صحي شحي ضحي لجي لمي يحي يجي يمي ممي قمي نحي قمح لحم عمي كمي نجح مخي"),
  (0xfdba, 1, "لجم كمم لجم نجح جحي حجي مجي فمي بحي كمم عجم صمم سخي نجي"),
  (0xfdf0, 1, "صلے قلے الله اكبر محمد صلعم رسول عليه وسلم صلى"),
  (0xfdfc, 1, "ریال"),
  (0xfe10, 1, ", 、"),
  (0xfe14, 1, "; !"),
  (0xfe17, 1, "〖 〗"),
  (0xfe31, 1, "— – _ _ ( )"),
  (0xfe39, 1, "〔 〕 【 】 《 》 〈 〉 「 」 『 』"),
  (0xfe4d, 1, "_ _ _ , 、"),
  (0xfe54, 1, ";"),
  (0xfe57, 1, "! — ( )"),
  (0xfe5d, 1, "〔 〕"),
  (0xfe60, 1, "& * + -"),
  (0xfe66, 1, "="),
  (0xfe69, 1, "$"),
  (0xfe71, 1, "ـً"),
  (0xfe77, 2, "ـَ ـُ ـِ ـّ ـْ آ أ ؤ إ ئ ئ ا ب ب ة ت ت ث ث ج ج ح ح خ خ د ذ ر ز س س ش ش ص ص ض ض ط"),
  (0xfec3, 2, "ط ظ ظ ع ع غ غ ف ف ق ق ك ك ل ل م م ن ن ه ه و ى ي ي لآ لأ لإ لا"),
  (0xfe80, 2, "ء آ أ ؤ إ ئ ئ ا ب ب ة ت ت ث ث ج ج ح ح خ خ د ذ ر ز س س ش ش ص ص ض ض ط ط ظ ظ ع ع غ غ"),
  (0xfed2, 2, "ف ف ق ق ك ك ل ل م م ن ن ه ه و ى ي ي لآ لأ لإ لا"),
  (0xff01, 1, "!"),
  (0xff04, 2, "$ & ( * , . 0 2 4 6 8"),
  (0xff07, 2, "' ) + -"),
  (0xff11, 2, "1 3 5 7 9 ; ="),
  (0xff21, 1, "a b c d e f g h i j k l m n o p q r s t u v w x y z"),
  (0xff3f, 2, "_ a c e g i k m o q s u w y"),
  (0xff42, 2, "b d f h j l n p r t v x z"),
  (0xff5e, 1, "~ ⦅ ⦆ . 「 」 、 ・ ヲ ァ ィ ゥ ェ ォ ャ ュ ョ ッ ー ア イ ウ エ オ カ キ ク ケ コ サ シ ス セ ソ タ チ ツ テ ト ナ ニ"),
  (0xff87, 1, "ヌ ネ ノ ハ ヒ フ ヘ ホ マ ミ ム メ モ ヤ ユ ヨ ラ リ ル レ ロ ワ ン ゙ ゚"),
  (0xffa1, 1, "ᄀ ᄁ ᆪ ᄂ ᆬ ᆭ ᄃ ᄄ ᄅ ᆰ ᆱ ᆲ ᆳ ᆴ ᆵ ᄚ ᄆ ᄇ ᄈ ᄡ ᄉ ᄊ ᄋ ᄌ ᄍ ᄎ ᄏ ᄐ ᄑ ᄒ"),
  (0xffc2, 1, "ᅡ ᅢ ᅣ ᅤ ᅥ ᅦ"),
  (0xffca, 1, "ᅧ ᅨ ᅩ ᅪ ᅫ ᅬ"),
  (0xffd2, 1, "ᅭ ᅮ ᅯ ᅰ ᅱ ᅲ"),
  (0xffda, 1, "ᅳ ᅴ ᅵ"),
  (0xffe0, 2, "¢ ¬ ¦ ₩ │ ↑ ↓ ○"),
  (0xffe1, 1, "£"),
  (0xffe5, 1, "¥"),
  (0xffe9, 2, "← → ■"),
  (0x10400, 1, "𐐨 𐐩 𐐪 𐐫 𐐬 𐐭 𐐮 𐐯 𐐰 𐐱 𐐲 𐐳 𐐴 𐐵 𐐶 𐐷 𐐸 𐐹 𐐺 𐐻 𐐼 𐐽 𐐾 𐐿 𐑀 𐑁 𐑂 𐑃 𐑄 𐑅 𐑆 𐑇 𐑈 𐑉 𐑊 𐑋 𐑌 𐑍 𐑎 𐑏"),
  (0x104b0, 1, "𐓘 𐓙 𐓚 𐓛 𐓜 𐓝 𐓞 𐓟 𐓠 𐓡 𐓢 𐓣 𐓤 𐓥 𐓦 𐓧 𐓨 𐓩 𐓪 𐓫 𐓬 𐓭 𐓮 𐓯 𐓰 𐓱 𐓲 𐓳 𐓴 𐓵 𐓶 𐓷 𐓸 𐓹 𐓺 𐓻"),
  (0x10570, 2, "𐖗 𐖙 𐖛 𐖝 𐖟 𐖡 𐖣 𐖥 𐖧 𐖩 𐖫 𐖭 𐖯 𐖱 𐖳 𐖵 𐖷 𐖹 𐖻"),
  (0x10571, 2, "𐖘 𐖚 𐖜 𐖞 𐖠"),
  (0x1057d, 2, "𐖤 𐖦 𐖨 𐖪 𐖬 𐖮 𐖰"),
  (0x1058d, 2, "𐖴 𐖶 𐖸"),
  (0x10595, 1, "𐖼"),
  (0x10781, 2, "ː æ ɓ ʣ ʥ ɖ ᶑ ɞ ɤ ɠ ħ ɧ ʪ ɬ ꞎ 𝼅 𝼆 ɶ q 𝼈 ɾ ʨ ꭧ ʈ"),
  (0x10782, 2, "ˑ ʙ"),
  (0x10788, 2, "ꭦ ʤ ɗ ɘ ʩ ɢ ʛ ʜ ʄ ʫ 𝼄 ɮ ʎ ø ɷ ɺ ɽ ʀ ʦ ʧ ⱱ ʏ ʢ ǀ ǂ 𝼞"),
  (0x107b3, 2, "ʡ ʘ ǁ 𝼊"),
  (0x10c80, 1, "𐳀 𐳁 𐳂 𐳃 𐳄 𐳅 𐳆 𐳇 𐳈 𐳉 𐳊 𐳋 𐳌 𐳍 𐳎 𐳏 𐳐 𐳑 𐳒 𐳓 𐳔 𐳕 𐳖 𐳗 𐳘 𐳙 𐳚 𐳛 𐳜 𐳝 𐳞 𐳟 𐳠 𐳡 𐳢 𐳣 𐳤 𐳥 𐳦 𐳧"),
  (0x10ca8, 1, "𐳨 𐳩 𐳪 𐳫 𐳬 𐳭 𐳮 𐳯 𐳰 𐳱 𐳲"),
  (0x10d50, 1, "𐵰 𐵱 𐵲 𐵳 𐵴 𐵵 𐵶 𐵷 𐵸 𐵹 𐵺 𐵻 𐵼 𐵽 𐵾 𐵿 𐶀 𐶁 𐶂 𐶃 𐶄 𐶅"),
  (0x118a0, 1, "𑣀 𑣁 𑣂 𑣃 𑣄 𑣅 𑣆 𑣇 𑣈 𑣉 𑣊 𑣋 𑣌 𑣍 𑣎 𑣏 𑣐 𑣑 𑣒 𑣓 𑣔 𑣕 𑣖 𑣗 𑣘 𑣙 𑣚 𑣛 𑣜 𑣝 𑣞 𑣟"),
  (0x16e40, 1, "𖹠 𖹡 𖹢 𖹣 𖹤 𖹥 𖹦 𖹧 𖹨 𖹩 𖹪 𖹫 𖹬 𖹭 𖹮 𖹯 𖹰 𖹱 𖹲 𖹳 𖹴 𖹵 𖹶 𖹷 𖹸 𖹹 𖹺 𖹻 𖹼 𖹽 𖹾 𖹿"),
  (0x16ea0, 1, "𖺻 𖺼 𖺽 𖺾 𖺿 𖻀 𖻁 𖻂 𖻃 𖻄 𖻅 𖻆 𖻇 𖻈 𖻉 𖻊 𖻋 𖻌 𖻍 𖻎 𖻏 𖻐 𖻑 𖻒 𖻓"),
  (0x1ccd6, 1, "a b c d e f g h i j k l m n o p q r s t u v w x y z 0 1 2 3 4 5 6 7 8 9"),
  (0x1d15e, 1, "𝅗𝅥 𝅘𝅥 𝅘𝅥𝅮 𝅘𝅥𝅯 𝅘𝅥𝅰 𝅘𝅥𝅱 𝅘𝅥𝅲"),
  (0x1d1bb, 1, "𝆹𝅥 𝆺𝅥 𝆹𝅥𝅮 𝆺𝅥𝅮 𝆹𝅥𝅯 𝆺𝅥𝅯"),
  (0x1d400, 1, "a b c d e f g h i j k l m n o p q r s t u v w x y z a b c d e f g h i j k l m n"),
  (0x1d428, 1, "o p q r s t u v w x y z a b c d e f g h i j k l m n o p q r s t u v w x y z a b"),
  (0x1d450, 1, "c d e f g"),
  (0x1d456, 1, "i j k l m n o p q r s t u v w x y z a b c d e f g h i j k l m n o p q r s t u v"),
  (0x1d47e, 1, "w x y z a b c d e f g h i j k l m n o p q r s t u v w x y z a"),
  (0x1d49e, 1, "c d"),
  (0x1d4a2, 1, "g"),
  (0x1d4a5, 1, "j k"),
  (0x1d4a9, 1, "n o p q"),
  (0x1d4ae, 1, "s t u v w x y z a b c d"),
  (0x1d4bb, 2, "f h j l n p r t v x z b d f h j l n p r t v x z b d f h j l n p r t v x z b d f"),
  (0x1d4be, 2, "i k m"),
  (0x1d4c6, 2, "q s u w y a c e g i k m o q s u w y a c e g i k m o q s u w y a"),
  (0x1d508, 2, "e g"),
  (0x1d50d, 1, "j k l m n o p q"),
  (0x1d516, 2, "s u w y a c e g i k m o q s u w y a"),
  (0x1d517, 2, "t v x"),
  (0x1d51f, 2, "b d f h j l n p r t v x z b d f"),
  (0x1d53c, 2, "e g i k m o"),
  (0x1d541, 2, "j l"),
  (0x1d54a, 2, "s u w y a c e g i k m o q s u w y a c e g i k m o q s u w y a c e g i k m o q s"),
  (0x1d59a, 2, "u w y a c e g i k m o q s u w y a c e g i k m o q s u w y a c e g i k m o q s u"),
  (0x1d5ea, 2, "w y a c e g i k m o q s u w y a c e g i k m o q s u w y a c e g i k m o q s u w"),
  (0x1d63a, 2, "y a c e g i k m o q s u w y a c e g i k m o q s u w y a c e g i k m o q s u w y"),
  (0x1d68a, 2, "a c e g i k m o q s u w y ı"),
  (0x1d54b, 2, "t v x"),
  (0x1d553, 2, "b d f h j l n p r t v x z b d f h j l n p r t v x z b d f h j l n p r t v x z b"),
  (0x1d5a3, 2, "d f h j l n p r t v x z b d f h j l n p r t v x z b d f h j l n p r t v x z b d"),
  (0x1d5f3, 2, "f h j l n p r t v x z b d f h j l n p r t v x z b d f h j l n p r t v x z b d f"),
  (0x1d643, 2, "h j l n p r t v x z b d f h j l n p r t v x z b d f h j l n p r t v x z b d f h"),
  (0x1d693, 2, "j l n p r t v x z ȷ"),
  (0x1d6a8, 1, "α β γ δ ε ζ η θ ι κ λ μ ν ξ ο π ρ θ σ τ υ φ χ ψ ω ∇ α β γ δ ε ζ η θ ι κ λ μ ν ξ"),
  (0x1d6d0, 1, "ο π ρ σ σ τ υ φ χ ψ ω ∂ ε θ κ φ ρ π α β γ δ ε ζ η θ ι κ λ μ ν ξ ο π ρ θ σ τ υ φ"),
  (0x1d6f8, 1, "χ ψ ω ∇ α β γ δ ε ζ η θ ι κ λ μ ν ξ ο π ρ σ σ τ υ φ χ ψ ω ∂ ε θ κ φ ρ π α β γ δ"),
  (0x1d720, 1, "ε ζ η θ ι κ λ μ ν ξ ο π ρ θ σ τ υ φ χ ψ ω ∇ α β γ δ ε ζ η θ ι κ λ μ ν ξ ο π ρ σ"),
  (0x1d748, 1, "σ τ υ φ χ ψ ω ∂ ε θ κ φ ρ π α β γ δ ε ζ η θ ι κ λ μ ν ξ ο π ρ θ σ τ υ φ χ ψ ω ∇"),
  (0x1d770, 1, "α β γ δ ε ζ η θ ι κ λ μ ν ξ ο π ρ σ σ τ υ φ χ ψ ω ∂ ε θ κ φ ρ π α β γ δ ε ζ η θ"),
  (0x1d798, 1, "ι κ λ μ ν ξ ο π ρ θ σ τ υ φ χ ψ ω ∇ α β γ δ ε ζ η θ ι κ λ μ ν ξ ο π ρ σ σ τ υ φ"),
  (0x1d7c0, 1, "χ ψ ω ∂ ε θ κ φ ρ π ϝ ϝ"),
  (0x1d7ce, 1, "0 1 2 3 4 5 6 7 8 9 0 1 2 3 4 5 6 7 8 9 0 1 2 3 4 5 6 7 8 9 0 1 2 3 4 5 6 7 8 9"),
  (0x1d7f6, 1, "0 1 2 3 4 5 6 7 8 9"),
  (0x1e030, 1, "а б в г д е ж з и к л м о п р с т у ф х ц ч ш ы э ю ꚉ ә і ј ө ү ӏ а б в г д е ж"),
  (0x1e058, 1, "з и к л о п с у ф х ц ч ш ъ ы ґ і ѕ џ ҫ ꙑ ұ"),
  (0x1e900, 1, "𞤢 𞤣 𞤤 𞤥 𞤦 𞤧 𞤨 𞤩 𞤪 𞤫 𞤬 𞤭 𞤮 𞤯 𞤰 𞤱 𞤲 𞤳 𞤴 𞤵 𞤶 𞤷 𞤸 𞤹 𞤺 𞤻 𞤼 𞤽 𞤾 𞤿 𞥀 𞥁 𞥂 𞥃"),
  (0x1ee00, 1, "ا ب ج د"),
  (0x1ee05, 1, "و ز ح ط ي ك ل م ن س ع ف ص ق ر ش ت ث خ ذ ض ظ غ ٮ ں ڡ ٯ"),
  (0x1ee21, 1, "ب ج"),
  (0x1ee24, 1, "ه"),
  (0x1ee27, 2, "ح ي ل ن ع ص"),
  (0x1ee2a, 2, "ك م س ف ق ش ث"),
  (0x1ee35, 2, "ت خ ض غ"),
  (0x1ee42, 1, "ج"),
  (0x1ee47, 2, "ح ي ل ن ع ص"),
  (0x1ee4e, 1, "س"),
  (0x1ee52, 2, "ق ش"),
  (0x1ee57, 2, "خ ض غ ں ٯ ب"),
  (0x1ee62, 2, "ج ه"),
  (0x1ee67, 1, "ح ط ي ك"),
  (0x1ee6c, 1, "م ن س ع ف ص ق"),
  (0x1ee74, 1, "ش ت ث خ"),
  (0x1ee79, 1, "ض ظ غ ٮ"),
  (0x1ee7e, 2, "ڡ ا ج ه ز ط"),
  (0x1ee81, 2, "ب د و ح ي ل ن ع ص ر ت خ ض غ"),
  (0x1ee8c, 2, "م س ف ق ش ث ذ ظ"),
  (0x1eea1, 2, "ب د و ح ي ل ن ع ص ر ت خ ض غ"),
  (0x1eea2, 1, "ج"),
  (0x1eea6, 2, "ز ط"),
  (0x1eeac, 2, "م س ف ق ش ث ذ ظ"),
  (0x1f101, 1, "0, 1, 2, 3, 4, 5, 6, 7, 8, 9,"),
  (0x1f110, 2, "(a) (c) (e) (g) (i) (k) (m) (o) (q) (s) (u) (w) (y) 〔s〕 r wz a c e g i k m o q s"),
  (0x1f144, 2, "u w y hv sd ppv"),
  (0x1f111, 2, "(b) (d) (f) (h) (j) (l) (n) (p) (r) (t) (v) (x) (z) c cd"),
  (0x1f131, 2, "b d f h j l n p r t v x z mv ss wc"),
  (0x1f16a, 1, "mc md mr"),
  (0x1f190, 1, "dj"),
  (0x1f200, 1, "ほか ココ サ"),
  (0x1f210, 1, "手 字 双 デ 二 多 解 天 交 映 無 料 前 後 再 新 初 終 生 販 声 吹 演 投 捕 一 三 遊 左 中 右 指 走 打 禁 空 合 満 有 月"),
  (0x1f238, 1, "申 割 営 配"),
  (0x1f240, 1, "〔本〕 〔三〕 〔二〕 〔安〕 〔点〕 〔打〕 〔盗〕 〔勝〕 〔敗〕"),
  (0x1f250, 1, "得 可"),
  (0x1fbf0, 1, "0 1 2 3 4 5 6 7 8 9"),
  (0x2f800, 1, "丽 丸 乁 𠄢 你 侮 侻 倂 偺 備 僧 像 㒞 𠘺 免 兔 兤 具 𠔜 㒹 內 再 𠕋 冗 冤 仌 冬 况 𩇟 凵 刃 㓟 刻 剆 割 剷 㔕 勇 勉 勤"),
  (0x2f828, 1, "勺 包 匆 北 卉 卑 博 即 卽 卿 卿 卿 𠨬 灰 及 叟 𠭣 叫 叱 吆 咞 吸 呈 周 咢 哶 唐 啓 啣 善 善 喙 喫 喳 嗂 圖 嘆 圗 噑 噴"),
  (0x2f850, 1, "切 壮 城 埴 堍 型 堲 報 墬 𡓤 売 壷 夆 多 夢 奢 𡚨 𡛪 姬 娛 娧 姘 婦 㛮 㛼 嬈 嬾 嬾 𡧈 寃 寘 寧 寳 𡬘 寿 将 当 尢 㞁 屠"),
  (0x2f878, 1, "屮 峀 岍 𡷤 嵃 𡷦 嵮 嵫 嵼 巡 巢 㠯 巽 帨 帽 幩 㡢 𢆃 㡼 庰 庳 庶 廊 𪎒 廾 𢌱 𢌱 舁 弢 弢 㣇 𣊸 𦇚 形 彫 㣣 徚 忍 志 忹"),
  (0x2f8a0, 1, "悁 㤺 㤜 悔 𢛔 惇 慈 慌 慎 慌 慺 憎 憲 憤 憯 懞 懲 懶 成 戛 扝 抱 拔 捐 𢬌 挽 拼 捨 掃 揤 𢯱 搢 揅 掩 㨮 摩 摾 撝 摷 㩬"),
  (0x2f8c8, 1, "敏 敬 𣀊 旣 書 晉 㬙 暑 㬈 㫤 冒 冕 最 暜 肭 䏙 朗 望 朡 杞 杓 𣏃 㭉 柺 枅 桒 梅 𣑭 梎 栟 椔 㮝 楂 榣 槪 檨 𣚣 櫛 㰘 次"),
  (0x2f8f0, 1, "𣢧 歔 㱎 歲 殟 殺 殻 𣪍 𡴋 𣫺 汎 𣲼 沿 泍 汧 洖 派 海 流 浩 浸 涅 𣴞 洴 港 湮 㴳 滋 滇 𣻑 淹 潮 𣽞 𣾎 濆 瀹 瀞 瀛 㶖 灊"),
  (0x2f918, 1, "災 灷 炭 𠔥 煅 𤉣 熜 𤎫 爨 爵 牐 𤘈 犀 犕 𤜵 𤠔 獺 王 㺬 玥 㺸 㺸 瑇 瑜 瑱 璅 瓊 㼛 甤 𤰶 甾 𤲒 異 𢆟 瘐 𤾡 𤾸 𥁄 㿼 䀈"),
  (0x2f940, 1, "直 𥃳 𥃲 𥄙 𥄳 眞 真 真 睊 䀹 瞋 䁆 䂖 𥐝 硎 碌 磌 䃣 𥘦 祖 𥚚 𥛅 福 秫 䄯 穀 穊 穏 𥥼 𥪧 𥪧 竮 䈂 𥮫 篆 築 䈧 𥲀 糒 䊠"),
  (0x2f968, 1, "糨 糣 紀 𥾆 絣 䌁 緇 縂 繅 䌴 𦈨 𦉇 䍙 𦋙 罺 𦌾 羕 翺 者 𦓚 𦔣 聠 𦖨 聰 𣍟 䏕 育 脃 䐋 脾 媵 𦞧 𦞵 𣎓 𣎜 舁 舄 辞 䑫 芑"),
  (0x2f990, 1, "芋 芝 劳 花 芳 芽 苦 𦬼 若 茝 荣 莭 茣 莽 菧 著 荓 菊 菌 菜 𦰶 𦵫 𦳕 䔫 蓱 蓳 蔖 𧏊 蕤 𦼬 䕝 䕡 𦾱 𧃒 䕫 虐 虜 虧 虩 蚩"),
  (0x2f9b8, 1, "蚈 蜎 蛢 蝹 蜨 蝫 螆 䗗 蟡 蠁 䗹 衠 衣 𧙧 裗 裞 䘵 裺 㒻 𧢮 𧥦 䚾 䛇 誠 諭 變 豕 𧲨 貫 賁 贛 起 𧼯 𠠄 跋 趼 跰 𠣞 軔 輸"),
  (0x2f9e0, 1, "𨗒 𨗭 邔 郱 鄑 𨜮 鄛 鈸 鋗 鋘 鉼 鏹 鐕 𨯺 開 䦕 閷 𨵷 䧦 雃 嶲 霣 𩅅 𩈚 䩮 䩶 韠 𩐊 䪲 𩒖 頋 頋 頩 𩖶 飢 䬳 餩 馧 駂 駾"),
  (0x2fa08, 1, "䯎 𩬰 鬒 鱀 鳽 䳎 䳭 鵧 𪃎 䳸 𪄅 𪈎 𪊑 麻 䵖 黹 黾 鼅 鼏 鼖 鼻 𪘀")]

def fold (c : Char) : List Char :=
  let folded? := foldingRuns.findSome? fun (first, distance, texts) =>
    if c.toNat < first ∨ (c.toNat - first) % distance ≠ 0 then none
    else (texts.toList.splitOn ' ')[(c.toNat - first) / distance]?
  if Text.inRanges silentRanges c.toNat then [] else folded?.getD [c]

end JobDesk.Http.Host
