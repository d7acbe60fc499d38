import JobDesk.Text.Canonical.Classes

/-!
# Pairs — characters that are made of a character and a mark

A character with a mark can often be written in two ways: as one character, or as one that the mark
follows.  A syllable of Korean is made of two or three letters, by their numbers.  A character that
is only another name of a character or of a row of them is not among them.
-/

namespace JobDesk.Text.Canonical

/-! ## 1. Marks -/

def pairRuns : List (Nat × String) := [
  (0x300, "AÀ EÈ IÌ NǸ OÒ UÙ WẀ YỲ aà eè iì nǹ oò uù wẁ yỳ ¨῭ ÂẦ ÊỀ ÔỒ ÜǛ âầ êề ôồ üǜ ĂẰ ăằ ĒḔ ēḕ"),
  (0x300, "ŌṐ ōṑ ƠỜ ơờ ƯỪ ưừ ΑᾺ ΕῈ ΗῊ ΙῚ ΟῸ ΥῪ ΩῺ αὰ εὲ ηὴ ιὶ οὸ υὺ ωὼ ϊῒ ϋῢ ЕЀ ИЍ еѐ иѝ ἀἂ ἁἃ ἈἊ"),
  (0x300, "ἉἋ ἐἒ ἑἓ ἘἚ ἙἛ ἠἢ ἡἣ ἨἪ ἩἫ ἰἲ ἱἳ ἸἺ ἹἻ ὀὂ ὁὃ ὈὊ ὉὋ ὐὒ ὑὓ ὙὛ ὠὢ ὡὣ ὨὪ ὩὫ ᾿῍ ῾῝"),
  (0x301, "AÁ CĆ EÉ GǴ IÍ KḰ LĹ MḾ NŃ OÓ PṔ RŔ SŚ UÚ WẂ YÝ ZŹ aá cć eé gǵ ií kḱ lĺ mḿ nń oó pṕ rŕ"),
  (0x301, "sś uú wẃ yý zź ¨΅ ÂẤ ÅǺ ÆǼ ÇḈ ÊẾ ÏḮ ÔỐ ÕṌ ØǾ ÜǗ âấ åǻ æǽ çḉ êế ïḯ ôố õṍ øǿ üǘ ĂẮ ăắ ĒḖ"),
  (0x301, "ēḗ ŌṒ ōṓ ŨṸ ũṹ ƠỚ ơớ ƯỨ ưứ ΑΆ ΕΈ ΗΉ ΙΊ ΟΌ ΥΎ ΩΏ αά εέ ηή ιί οό υύ ωώ ϊΐ ϋΰ ϒϓ ГЃ КЌ гѓ"),
  (0x301, "кќ ἀἄ ἁἅ ἈἌ ἉἍ ἐἔ ἑἕ ἘἜ ἙἝ ἠἤ ἡἥ ἨἬ ἩἭ ἰἴ ἱἵ ἸἼ ἹἽ ὀὄ ὁὅ ὈὌ ὉὍ ὐὔ ὑὕ ὙὝ ὠὤ ὡὥ ὨὬ ὩὭ ᾿῎"),
  (0x301, "῾῞"),
  (0x302, "AÂ CĈ EÊ GĜ HĤ IÎ JĴ OÔ SŜ UÛ WŴ YŶ ZẐ aâ cĉ eê gĝ hĥ iî jĵ oô sŝ uû wŵ yŷ zẑ ẠẬ ạậ ẸỆ"),
  (0x302, "ẹệ ỌỘ ọộ"),
  (0x303, "AÃ EẼ IĨ NÑ OÕ UŨ VṼ YỸ aã eẽ iĩ nñ oõ uũ vṽ yỹ ÂẪ ÊỄ ÔỖ âẫ êễ ôỗ ĂẴ ăẵ ƠỠ ơỡ ƯỮ ưữ"),
  (0x304, "AĀ EĒ GḠ IĪ OŌ UŪ YȲ aā eē gḡ iī oō uū yȳ ÄǞ ÆǢ ÕȬ ÖȪ ÜǕ äǟ æǣ õȭ öȫ üǖ ǪǬ ǫǭ ȦǠ ȧǡ ȮȰ"),
  (0x304, "ȯȱ ΑᾹ ΙῙ ΥῩ αᾱ ιῑ υῡ ИӢ УӮ иӣ уӯ ḶḸ ḷḹ ṚṜ ṛṝ"),
  (0x306, "AĂ EĔ GĞ IĬ OŎ UŬ aă eĕ gğ iĭ oŏ uŭ ȨḜ ȩḝ ΑᾸ ΙῘ ΥῨ αᾰ ιῐ υῠ АӐ ЕӖ ЖӁ ИЙ УЎ аӑ еӗ жӂ ий"),
  (0x306, "уў ẠẶ ạặ"),
  (0x307, "AȦ BḂ CĊ DḊ EĖ FḞ GĠ HḢ Iİ MṀ NṄ OȮ PṖ RṘ SṠ TṪ WẆ XẊ YẎ ZŻ aȧ bḃ cċ dḋ eė fḟ gġ hḣ mṁ"),
  (0x307, "nṅ oȯ pṗ rṙ sṡ tṫ wẇ xẋ yẏ zż ŚṤ śṥ ŠṦ šṧ ſẛ ṢṨ ṣṩ 𐗒𐗉 𐗚𐗤"),
  (0x308, "AÄ EË HḦ IÏ OÖ UÜ WẄ XẌ YŸ aä eë hḧ iï oö tẗ uü wẅ xẍ yÿ ÕṎ õṏ ŪṺ ūṻ ΙΪ ΥΫ ιϊ υϋ ϒϔ ІЇ"),
  (0x308, "АӒ ЕЁ ЖӜ ЗӞ ИӤ ОӦ УӰ ЧӴ ЫӸ ЭӬ аӓ её жӝ зӟ иӥ оӧ уӱ чӵ ыӹ эӭ ії ӘӚ әӛ ӨӪ өӫ"),
  (0x309, "AẢ EẺ IỈ OỎ UỦ YỶ aả eẻ iỉ oỏ uủ yỷ ÂẨ ÊỂ ÔỔ âẩ êể ôổ ĂẲ ăẳ ƠỞ ơở ƯỬ ưử"),
  (0x30a, "AÅ UŮ aå uů wẘ yẙ"),
  (0x30b, "OŐ UŰ oő uű УӲ уӳ"),
  (0x30c, "AǍ CČ DĎ EĚ GǦ HȞ IǏ KǨ LĽ NŇ OǑ RŘ SŠ TŤ UǓ ZŽ aǎ cč dď eě gǧ hȟ iǐ jǰ kǩ lľ nň oǒ rř"),
  (0x30c, "sš tť uǔ zž ÜǙ üǚ ƷǮ ʒǯ"),
  (0x30f, "AȀ EȄ IȈ OȌ RȐ UȔ aȁ eȅ iȉ oȍ rȑ uȕ ѴѶ ѵѷ"),
  (0x311, "AȂ EȆ IȊ OȎ RȒ UȖ aȃ eȇ iȋ oȏ rȓ uȗ"),
  (0x313, "ΑἈ ΕἘ ΗἨ ΙἸ ΟὈ ΩὨ αἀ εἐ ηἠ ιἰ οὀ ρῤ υὐ ωὠ"),
  (0x314, "ΑἉ ΕἙ ΗἩ ΙἹ ΟὉ ΡῬ ΥὙ ΩὩ αἁ εἑ ηἡ ιἱ οὁ ρῥ υὑ ωὡ"),
  (0x31b, "OƠ UƯ oơ uư"),
  (0x323, "AẠ BḄ DḌ EẸ HḤ IỊ KḲ LḶ MṂ NṆ OỌ RṚ SṢ TṬ UỤ VṾ WẈ YỴ ZẒ aạ bḅ dḍ eẹ hḥ iị kḳ lḷ mṃ nṇ"),
  (0x323, "oọ rṛ sṣ tṭ uụ vṿ wẉ yỵ zẓ ƠỢ ơợ ƯỰ ưự"),
  (0x324, "UṲ uṳ"),
  (0x325, "AḀ aḁ"),
  (0x326, "SȘ TȚ sș tț"),
  (0x327, "CÇ DḐ EȨ GĢ HḨ KĶ LĻ NŅ RŖ SŞ TŢ cç dḑ eȩ gģ hḩ kķ lļ nņ rŗ sş tţ"),
  (0x328, "AĄ EĘ IĮ OǪ UŲ aą eę iį oǫ uų"),
  (0x32d, "DḒ EḘ LḼ NṊ TṰ UṶ dḓ eḙ lḽ nṋ tṱ uṷ"),
  (0x32e, "HḪ hḫ"),
  (0x330, "EḚ IḬ UṴ eḛ iḭ uṵ"),
  (0x331, "BḆ DḎ KḴ LḺ NṈ RṞ TṮ ZẔ bḇ dḏ hẖ kḵ lḻ nṉ rṟ tṯ zẕ"),
  (0x338, "<≮ =≠ >≯ ←↚ →↛ ↔↮ ⇐⇍ ⇒⇏ ⇔⇎ ∃∄ ∈∉ ∋∌ ∣∤ ∥∦ ∼≁ ≃≄ ≅≇ ≈≉ ≍≭ ≡≢ ≤≰ ≥≱ ≲≴ ≳≵ ≶≸ ≷≹ ≺⊀ ≻⊁ ≼⋠"),
  (0x338, "≽⋡ ⊂⊄ ⊃⊅ ⊆⊈ ⊇⊉ ⊑⋢ ⊒⋣ ⊢⊬ ⊨⊭ ⊩⊮ ⊫⊯ ⊲⋪ ⊳⋫ ⊴⋬ ⊵⋭"),
  (0x342, "¨῁ αᾶ ηῆ ιῖ υῦ ωῶ ϊῗ ϋῧ ἀἆ ἁἇ ἈἎ ἉἏ ἠἦ ἡἧ ἨἮ ἩἯ ἰἶ ἱἷ ἸἾ ἹἿ ὐὖ ὑὗ ὙὟ ὠὦ ὡὧ ὨὮ ὩὯ ᾿῏ ῾῟"),
  (0x345, "Αᾼ Ηῌ Ωῼ άᾴ ήῄ αᾳ ηῃ ωῳ ώῴ ἀᾀ ἁᾁ ἂᾂ ἃᾃ ἄᾄ ἅᾅ ἆᾆ ἇᾇ Ἀᾈ Ἁᾉ Ἂᾊ Ἃᾋ Ἄᾌ Ἅᾍ Ἆᾎ Ἇᾏ ἠᾐ ἡᾑ ἢᾒ ἣᾓ"),
  (0x345, "ἤᾔ ἥᾕ ἦᾖ ἧᾗ Ἠᾘ Ἡᾙ Ἢᾚ Ἣᾛ Ἤᾜ Ἥᾝ Ἦᾞ Ἧᾟ ὠᾠ ὡᾡ ὢᾢ ὣᾣ ὤᾤ ὥᾥ ὦᾦ ὧᾧ Ὠᾨ Ὡᾩ Ὢᾪ Ὣᾫ Ὤᾬ Ὥᾭ Ὦᾮ Ὧᾯ ὰᾲ"),
  (0x345, "ὴῂ ὼῲ ᾶᾷ ῆῇ ῶῷ"),
  (0x653, "اآ"),
  (0x654, "اأ وؤ يئ ہۂ ےۓ ەۀ"),
  (0x655, "اإ"),
  (0x93c, "नऩ रऱ ळऴ"),
  (0x9be, "\u09c7\u09cb"),
  (0x9d7, "\u09c7\u09cc"),
  (0xb3e, "\u0b47\u0b4b"),
  (0xb56, "\u0b47\u0b48"),
  (0xb57, "\u0b47\u0b4c"),
  (0xbbe, "\u0bc6\u0bca \u0bc7\u0bcb"),
  (0xbd7, "ஒஔ \u0bc6\u0bcc"),
  (0xc56, "\u0c46\u0c48"),
  (0xcc2, "\u0cc6\u0cca"),
  (0xcd5, "\u0cbf\u0cc0 \u0cc6\u0cc7 \u0cca\u0ccb"),
  (0xcd6, "\u0cc6\u0cc8"),
  (0xd3e, "\u0d46\u0d4a \u0d47\u0d4b"),
  (0xd57, "\u0d46\u0d4c"),
  (0xdca, "\u0dd9\u0dda \u0ddc\u0ddd"),
  (0xdcf, "\u0dd9\u0ddc"),
  (0xddf, "\u0dd9\u0dde"),
  (0x102e, "ဥဦ"),
  (0x1b35, "ᬅᬆ ᬇᬈ ᬉᬊ ᬋᬌ ᬍᬎ ᬑᬒ \u1b3a\u1b3b \u1b3c\u1b3d \u1b3e\u1b40 \u1b3f\u1b41 \u1b42\u1b43"),
  (0x3099, "うゔ かが きぎ くぐ けげ こご さざ しじ すず せぜ そぞ ただ ちぢ つづ てで とど はば ひび ふぶ へべ ほぼ ゝゞ ウヴ カガ キギ クグ ケゲ コゴ"),
  (0x3099, "サザ シジ スズ セゼ ソゾ タダ チヂ ツヅ テデ トド ハバ ヒビ フブ ヘベ ホボ ワヷ ヰヸ ヱヹ ヲヺ ヽヾ"),
  (0x309a, "はぱ ひぴ ふぷ へぺ ほぽ ハパ ヒピ フプ ヘペ ホポ"),
  (0x110ba, "𑂙𑂚 𑂛𑂜 𑂥𑂫"),
  (0x11127, "𑄱𑄮 𑄲𑄯"),
  (0x1133e, "𑍇𑍋"),
  (0x11357, "𑍇𑍌"),
  (0x113b8, "𑏅𑎸"),
  (0x113bb, "𑎄𑎅"),
  (0x113c2, "𑎋𑎎 𑏅𑏂"),
  (0x113c9, "𑎂𑎃 𑎐𑎑 𑏅𑏉"),
  (0x114b0, "𑒹𑒼"),
  (0x114ba, "𑒹𑒻"),
  (0x114bd, "𑒹𑒾"),
  (0x115af, "𑖸𑖺 𑖹𑖻"),
  (0x11930, "𑤵𑤸"),
  (0x1611e, "𖄡𖄞"),
  (0x1611f, "𖄦 𖄡𖄦 𖄢𖄧 𖄩𖄤"),
  (0x16120, "𖄨 𖄡𖄨"),
  (0x16129, "𖄡𖄩"),
  (0x16d67, "𖵣𖵩 𖵨𖵧 𖵩𖵪")]

structure Pair where
  first : Char
  second : Char
  whole : Char
  deriving DecidableEq, Inhabited

def pairs : List Pair :=
  pairRuns.flatMap fun (second, words) =>
    (words.toList.splitOn ' ').map fun word =>
      ⟨word.getD 0 ' ', Char.ofNat second, word.getD 1 ' '⟩

/-! ## 2. Korean -/

def leads : Nat := 0x1100

def vowels : Nat := 0x1161

def trails : Nat := 0x11a7

def syllables : Nat := 0xac00

def isAmong (code first count : Nat) : Bool := first ≤ code && code < first + count

def letters? (c : Char) : Option (List Char) :=
  if isAmong c.toNat syllables 11172 then
    let number := c.toNat - syllables
    let trail := number % 28
    let spoken := [Char.ofNat (leads + number / 588), Char.ofNat (vowels + number / 28 % 21)]
    some (if trail = 0 then spoken else spoken ++ [Char.ofNat (trails + trail)])
  else none

/-- The syllable that two letters make, or a syllable without a trailing letter and one. -/
def syllable? (first second : Char) : Option Char :=
  let (a, b) := (first.toNat, second.toNat)
  if isAmong a leads 19 && isAmong b vowels 21 then
    some (Char.ofNat (syllables + (a - leads) * 588 + (b - vowels) * 28))
  else if isAmong a syllables 11172 && (a - syllables) % 28 == 0 && isAmong b (trails + 1) 27 then
    some (Char.ofNat (a + (b - trails)))
  else none

/-! ## 3. Both -/

def whole? (first second : Char) : Option Char :=
  match syllable? first second with
  | some syllable => some syllable
  | none => (pairs.find? fun p => p.first == first && p.second == second).map Pair.whole

def parts : (rounds : Nat) → Char → List Char
  | 0, c => [c]
  | rounds + 1, c =>
    match pairs.find? (·.whole == c) with
    | some p => parts rounds p.first ++ [p.second]
    | none => [c]

/-- The characters that a character is made of: itself if it is made of none.  No character has more
than three marks. -/
def decompose (c : Char) : List Char := (letters? c).getD (parts 3 c)

end JobDesk.Text.Canonical
