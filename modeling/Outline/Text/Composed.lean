import Outline.Text.Mark
import Outline.Text.Split

/-!
# Composed text

A letter with a mark can be written as two characters or, for many of them, as one. Composed text
uses the one wherever there is one: every character is taken apart, the marks of each letter are put
into the order of their classes, and then letters and marks are put together again from the left.
The table holds the pairs that are put together; a character that is never the outcome of putting
two together is kept as it stands.
-/

namespace Outline

/-! ### Pairs -/

/-- Second characters of pairs, each with words of two characters: the first character of a pair and
the one that the pair is written as. -/
def pairTable : List (Nat × String) :=
  [(0x300, "AÀ EÈ IÌ NǸ OÒ UÙ WẀ YỲ aà eè iì nǹ oò uù wẁ yỳ ¨῭ ÂẦ ÊỀ ÔỒ ÜǛ âầ êề ôồ üǜ ĂẰ"),
   (0x300, "ăằ ĒḔ ēḕ ŌṐ ōṑ ƠỜ ơờ ƯỪ ưừ ΑᾺ ΕῈ ΗῊ ΙῚ ΟῸ ΥῪ ΩῺ αὰ εὲ ηὴ ιὶ οὸ υὺ ωὼ ϊῒ ϋῢ ЕЀ"),
   (0x300, "ИЍ еѐ иѝ ἀἂ ἁἃ ἈἊ ἉἋ ἐἒ ἑἓ ἘἚ ἙἛ ἠἢ ἡἣ ἨἪ ἩἫ ἰἲ ἱἳ ἸἺ ἹἻ ὀὂ ὁὃ ὈὊ ὉὋ ὐὒ ὑὓ ὙὛ"),
   (0x300, "ὠὢ ὡὣ ὨὪ ὩὫ ᾿῍ ῾῝"),
   (0x301, "AÁ CĆ EÉ GǴ IÍ KḰ LĹ MḾ NŃ OÓ PṔ RŔ SŚ UÚ WẂ YÝ ZŹ aá cć eé gǵ ií kḱ lĺ mḿ nń"),
   (0x301, "oó pṕ rŕ sś uú wẃ yý zź ¨΅ ÂẤ ÅǺ ÆǼ ÇḈ ÊẾ ÏḮ ÔỐ ÕṌ ØǾ ÜǗ âấ åǻ æǽ çḉ êế ïḯ ôố"),
   (0x301, "õṍ øǿ üǘ ĂẮ ăắ ĒḖ ēḗ ŌṒ ōṓ ŨṸ ũṹ ƠỚ ơớ ƯỨ ưứ ΑΆ ΕΈ ΗΉ ΙΊ ΟΌ ΥΎ ΩΏ αά εέ ηή ιί"),
   (0x301, "οό υύ ωώ ϊΐ ϋΰ ϒϓ ГЃ КЌ гѓ кќ ἀἄ ἁἅ ἈἌ ἉἍ ἐἔ ἑἕ ἘἜ ἙἝ ἠἤ ἡἥ ἨἬ ἩἭ ἰἴ ἱἵ ἸἼ ἹἽ"),
   (0x301, "ὀὄ ὁὅ ὈὌ ὉὍ ὐὔ ὑὕ ὙὝ ὠὤ ὡὥ ὨὬ ὩὭ ᾿῎ ῾῞"),
   (0x302, "AÂ CĈ EÊ GĜ HĤ IÎ JĴ OÔ SŜ UÛ WŴ YŶ ZẐ aâ cĉ eê gĝ hĥ iî jĵ oô sŝ uû wŵ yŷ zẑ"),
   (0x302, "ẠẬ ạậ ẸỆ ẹệ ỌỘ ọộ"),
   (0x303, "AÃ EẼ IĨ NÑ OÕ UŨ VṼ YỸ aã eẽ iĩ nñ oõ uũ vṽ yỹ ÂẪ ÊỄ ÔỖ âẫ êễ ôỗ ĂẴ ăẵ ƠỠ ơỡ"),
   (0x303, "ƯỮ ưữ"),
   (0x304, "AĀ EĒ GḠ IĪ OŌ UŪ YȲ aā eē gḡ iī oō uū yȳ ÄǞ ÆǢ ÕȬ ÖȪ ÜǕ äǟ æǣ õȭ öȫ üǖ ǪǬ ǫǭ"),
   (0x304, "ȦǠ ȧǡ ȮȰ ȯȱ ΑᾹ ΙῙ ΥῩ αᾱ ιῑ υῡ ИӢ УӮ иӣ уӯ ḶḸ ḷḹ ṚṜ ṛṝ"),
   (0x306, "AĂ EĔ GĞ IĬ OŎ UŬ aă eĕ gğ iĭ oŏ uŭ ȨḜ ȩḝ ΑᾸ ΙῘ ΥῨ αᾰ ιῐ υῠ АӐ ЕӖ ЖӁ ИЙ УЎ аӑ"),
   (0x306, "еӗ жӂ ий уў ẠẶ ạặ"),
   (0x307, "AȦ BḂ CĊ DḊ EĖ FḞ GĠ HḢ Iİ MṀ NṄ OȮ PṖ RṘ SṠ TṪ WẆ XẊ YẎ ZŻ aȧ bḃ cċ dḋ eė fḟ"),
   (0x307, "gġ hḣ mṁ nṅ oȯ pṗ rṙ sṡ tṫ wẇ xẋ yẏ zż ŚṤ śṥ ŠṦ šṧ ſẛ ṢṨ ṣṩ 𐗒𐗉 𐗚𐗤"),
   (0x308, "AÄ EË HḦ IÏ OÖ UÜ WẄ XẌ YŸ aä eë hḧ iï oö tẗ uü wẅ xẍ yÿ ÕṎ õṏ ŪṺ ūṻ ΙΪ ΥΫ ιϊ"),
   (0x308, "υϋ ϒϔ ІЇ АӒ ЕЁ ЖӜ ЗӞ ИӤ ОӦ УӰ ЧӴ ЫӸ ЭӬ аӓ её жӝ зӟ иӥ оӧ уӱ чӵ ыӹ эӭ ії ӘӚ әӛ"),
   (0x308, "ӨӪ өӫ"),
   (0x309, "AẢ EẺ IỈ OỎ UỦ YỶ aả eẻ iỉ oỏ uủ yỷ ÂẨ ÊỂ ÔỔ âẩ êể ôổ ĂẲ ăẳ ƠỞ ơở ƯỬ ưử"),
   (0x30A, "AÅ UŮ aå uů wẘ yẙ"),
   (0x30B, "OŐ UŰ oő uű УӲ уӳ"),
   (0x30C, "AǍ CČ DĎ EĚ GǦ HȞ IǏ KǨ LĽ NŇ OǑ RŘ SŠ TŤ UǓ ZŽ aǎ cč dď eě gǧ hȟ iǐ jǰ kǩ lľ"),
   (0x30C, "nň oǒ rř sš tť uǔ zž ÜǙ üǚ ƷǮ ʒǯ"),
   (0x30F, "AȀ EȄ IȈ OȌ RȐ UȔ aȁ eȅ iȉ oȍ rȑ uȕ ѴѶ ѵѷ"),
   (0x311, "AȂ EȆ IȊ OȎ RȒ UȖ aȃ eȇ iȋ oȏ rȓ uȗ"),
   (0x313, "ΑἈ ΕἘ ΗἨ ΙἸ ΟὈ ΩὨ αἀ εἐ ηἠ ιἰ οὀ ρῤ υὐ ωὠ"),
   (0x314, "ΑἉ ΕἙ ΗἩ ΙἹ ΟὉ ΡῬ ΥὙ ΩὩ αἁ εἑ ηἡ ιἱ οὁ ρῥ υὑ ωὡ"),
   (0x31B, "OƠ UƯ oơ uư"),
   (0x323, "AẠ BḄ DḌ EẸ HḤ IỊ KḲ LḶ MṂ NṆ OỌ RṚ SṢ TṬ UỤ VṾ WẈ YỴ ZẒ aạ bḅ dḍ eẹ hḥ iị kḳ"),
   (0x323, "lḷ mṃ nṇ oọ rṛ sṣ tṭ uụ vṿ wẉ yỵ zẓ ƠỢ ơợ ƯỰ ưự"),
   (0x324, "UṲ uṳ"),
   (0x325, "AḀ aḁ"),
   (0x326, "SȘ TȚ sș tț"),
   (0x327, "CÇ DḐ EȨ GĢ HḨ KĶ LĻ NŅ RŖ SŞ TŢ cç dḑ eȩ gģ hḩ kķ lļ nņ rŗ sş tţ"),
   (0x328, "AĄ EĘ IĮ OǪ UŲ aą eę iį oǫ uų"),
   (0x32D, "DḒ EḘ LḼ NṊ TṰ UṶ dḓ eḙ lḽ nṋ tṱ uṷ"),
   (0x32E, "HḪ hḫ"),
   (0x330, "EḚ IḬ UṴ eḛ iḭ uṵ"),
   (0x331, "BḆ DḎ KḴ LḺ NṈ RṞ TṮ ZẔ bḇ dḏ hẖ kḵ lḻ nṉ rṟ tṯ zẕ"),
   (0x338, "<≮ =≠ >≯ ←↚ →↛ ↔↮ ⇐⇍ ⇒⇏ ⇔⇎ ∃∄ ∈∉ ∋∌ ∣∤ ∥∦ ∼≁ ≃≄ ≅≇ ≈≉ ≍≭ ≡≢ ≤≰ ≥≱ ≲≴ ≳≵ ≶≸ ≷≹"),
   (0x338, "≺⊀ ≻⊁ ≼⋠ ≽⋡ ⊂⊄ ⊃⊅ ⊆⊈ ⊇⊉ ⊑⋢ ⊒⋣ ⊢⊬ ⊨⊭ ⊩⊮ ⊫⊯ ⊲⋪ ⊳⋫ ⊴⋬ ⊵⋭"),
   (0x342, "¨῁ αᾶ ηῆ ιῖ υῦ ωῶ ϊῗ ϋῧ ἀἆ ἁἇ ἈἎ ἉἏ ἠἦ ἡἧ ἨἮ ἩἯ ἰἶ ἱἷ ἸἾ ἹἿ ὐὖ ὑὗ ὙὟ ὠὦ ὡὧ ὨὮ"),
   (0x342, "ὩὯ ᾿῏ ῾῟"),
   (0x345, "Αᾼ Ηῌ Ωῼ άᾴ ήῄ αᾳ ηῃ ωῳ ώῴ ἀᾀ ἁᾁ ἂᾂ ἃᾃ ἄᾄ ἅᾅ ἆᾆ ἇᾇ Ἀᾈ Ἁᾉ Ἂᾊ Ἃᾋ Ἄᾌ Ἅᾍ Ἆᾎ Ἇᾏ ἠᾐ"),
   (0x345, "ἡᾑ ἢᾒ ἣᾓ ἤᾔ ἥᾕ ἦᾖ ἧᾗ Ἠᾘ Ἡᾙ Ἢᾚ Ἣᾛ Ἤᾜ Ἥᾝ Ἦᾞ Ἧᾟ ὠᾠ ὡᾡ ὢᾢ ὣᾣ ὤᾤ ὥᾥ ὦᾦ ὧᾧ Ὠᾨ Ὡᾩ Ὢᾪ"),
   (0x345, "Ὣᾫ Ὤᾬ Ὥᾭ Ὦᾮ Ὧᾯ ὰᾲ ὴῂ ὼῲ ᾶᾷ ῆῇ ῶῷ"),
   (0x653, "اآ"),
   (0x654, "اأ وؤ يئ ہۂ ےۓ ەۀ"),
   (0x655, "اإ"),
   (0x93C, "नऩ रऱ ळऴ"),
   (0x9BE, "েো"),
   (0x9D7, "েৌ"),
   (0xB3E, "େୋ"),
   (0xB56, "େୈ"),
   (0xB57, "େୌ"),
   (0xBBE, "ெொ ேோ"),
   (0xBD7, "ஒஔ ெௌ"),
   (0xC56, "ెై"),
   (0xCC2, "ೆೊ"),
   (0xCD5, "ಿೀ ೆೇ ೊೋ"),
   (0xCD6, "ೆೈ"),
   (0xD3E, "െൊ േോ"),
   (0xD57, "െൌ"),
   (0xDCA, "ෙේ ොෝ"),
   (0xDCF, "ෙො"),
   (0xDDF, "ෙෞ"),
   (0x102E, "ဥဦ"),
   (0x1B35, "ᬅᬆ ᬇᬈ ᬉᬊ ᬋᬌ ᬍᬎ ᬑᬒ ᬺᬻ ᬼᬽ ᬾᭀ ᬿᭁ ᭂᭃ"),
   (0x3099, "うゔ かが きぎ くぐ けげ こご さざ しじ すず せぜ そぞ ただ ちぢ つづ てで とど はば ひび ふぶ へべ ほぼ ゝゞ ウヴ カガ キギ クグ"),
   (0x3099, "ケゲ コゴ サザ シジ スズ セゼ ソゾ タダ チヂ ツヅ テデ トド ハバ ヒビ フブ ヘベ ホボ ワヷ ヰヸ ヱヹ ヲヺ ヽヾ"),
   (0x309A, "はぱ ひぴ ふぷ へぺ ほぽ ハパ ヒピ フプ ヘペ ホポ"),
   (0x110BA, "𑂙𑂚 𑂛𑂜 𑂥𑂫"),
   (0x11127, "𑄱𑄮 𑄲𑄯"),
   (0x1133E, "𑍇𑍋"),
   (0x11357, "𑍇𑍌"),
   (0x113B8, "𑏅𑎸"),
   (0x113BB, "𑎄𑎅"),
   (0x113C2, "𑎋𑎎 𑏅𑏂"),
   (0x113C9, "𑎂𑎃 𑎐𑎑 𑏅𑏉"),
   (0x114B0, "𑒹𑒼"),
   (0x114BA, "𑒹𑒻"),
   (0x114BD, "𑒹𑒾"),
   (0x115AF, "𑖸𑖺 𑖹𑖻"),
   (0x11930, "𑤵𑤸"),
   (0x1611E, "𖄡𖄞"),
   (0x1611F, "𖄦 𖄡𖄦 𖄢𖄧 𖄩𖄤"),
   (0x16120, "𖄨 𖄡𖄨"),
   (0x16129, "𖄡𖄩"),
   (0x16D67, "𖵣𖵩 𖵨𖵧 𖵩𖵪")]

/-- A pair and the character it is written as. -/
structure Composition where
  first    : Char
  second   : Char
  composed : Char

/-- The pairs of one row of the table. -/
def rowPairs (row : Nat × String) : List Composition :=
  (splitOn ' ' row.2.toList).filterMap fun
    | [first, composed] => some ⟨first, Char.ofNat row.1, composed⟩
    | _                 => none

/-- The single character of a pair in the table. -/
def tableComposed? (first second : Char) : Option Char :=
  (((pairTable.filter (·.1 == second.toNat)).flatMap rowPairs).find? (·.first == first)).map
    (·.composed)

/-- The pair that a character of the table is written for. -/
def tablePair? (c : Char) : Option (Char × Char) :=
  (pairTable.find? fun row => row.2.contains c && (rowPairs row).any (·.composed == c)).bind
    fun row => ((rowPairs row).find? (·.composed == c)).map fun p => (p.first, p.second)

/-! ### Korean syllables -/

/-- A syllable as its leading consonant and vowel, or as a shorter syllable and its last
consonant. -/
def syllablePair? (c : Char) : Option (Char × Char) :=
  if 0xAC00 ≤ c.toNat && c.toNat ≤ 0xD7A3 then
    let n := c.toNat - 0xAC00
    if n % 28 = 0 then some (Char.ofNat (0x1100 + n / 588), Char.ofNat (0x1161 + n % 588 / 28))
    else some (Char.ofNat (0xAC00 + n / 28 * 28), Char.ofNat (0x11A7 + n % 28))
  else none

/-- The syllable of two letters, or of a syllable and a last consonant. -/
def syllable? (first second : Char) : Option Char :=
  let a := first.toNat
  let b := second.toNat
  if 0x1100 ≤ a && a ≤ 0x1112 && 0x1161 ≤ b && b ≤ 0x1175 then
    some (Char.ofNat (0xAC00 + (a - 0x1100) * 588 + (b - 0x1161) * 28))
  else if 0xAC00 ≤ a && a ≤ 0xD7A3 && (a - 0xAC00) % 28 = 0 && 0x11A8 ≤ b && b ≤ 0x11C2 then
    some (Char.ofNat (a + (b - 0x11A7)))
  else none

/-! ### Taking apart and putting together -/

/-- The pair a character is written for. -/
def pair? (c : Char) : Option (Char × Char) := (syllablePair? c).orElse fun _ => tablePair? c

/-- The single character of a pair. -/
def composed? (first second : Char) : Option Char :=
  (syllable? first second).orElse fun _ => tableComposed? first second

/-- A character taken apart; `depth` bounds how often its first part is taken apart again. -/
def apart : (depth : Nat) → Char → List Char
  | 0,         c => [c]
  | depth + 1, c =>
    match pair? c with
    | some (first, second) => apart depth first ++ [second]
    | none                 => [c]

/-- Puts a character behind the others, which stand in reverse; a mark passes those of a higher
class. -/
def placeMark (c : Char) : (done : List Char) → List Char
  | []        => [c]
  | d :: done =>
    if combiningClass c ≠ 0 && combiningClass d > combiningClass c then d :: placeMark c done
    else c :: d :: done

/-- Characters taken apart, the marks of each in the order of their classes. -/
def decomposed (cs : List Char) : List Char :=
  ((cs.flatMap (apart 4)).foldl (fun done c => placeMark c done) []).reverse

/-- Puts the characters behind `base` together with it where they can be. `marks` are those that
could not, in reverse; a mark is out of reach behind one of the same or a higher class. -/
def composeOn : (base : Char) → (marks : List Char) → List Char → List Char
  | base, marks, []      => base :: marks.reverse
  | base, marks, c :: cs =>
    let reached := marks.head?.all fun m => combiningClass m < combiningClass c
    match if reached then composed? base c else none with
    | some d => composeOn d marks cs
    | none   =>
      if combiningClass c = 0 then base :: marks.reverse ++ composeOn c [] cs
      else composeOn base (c :: marks) cs

/-- Composed text. -/
def compose (cs : List Char) : List Char :=
  let parts := decomposed cs
  let marks := parts.takeWhile fun c => combiningClass c ≠ 0
  match parts.dropWhile fun c => combiningClass c ≠ 0 with
  | []           => marks
  | base :: rest => marks ++ composeOn base [] rest

end Outline
