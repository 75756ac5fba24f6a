import TrainingPortal.Text.Mark

/-!
# Composed letters

Letters with marks in their composed form, as of Unicode 17 (Normalization Form C): letters are
taken apart into plain ones and marks, the marks of each are put in order, and every letter takes in
the marks that it can. The tables know the letters that domains hold, so no capital letters.
-/

namespace TrainingPortal.Url.Domain

open Text

/-- What letters and marks make: after a mark, letters and what each of them becomes in turn. -/
def compositions : List (Nat × String) :=
  [
    (0x300, "aàeèiìnǹoòuùwẁyỳâầêềôồüǜăằēḕōṑơờưừαὰεὲηὴιὶοὸυὺωὼϊῒϋῢеѐиѝἀἂἁἃἐἒἑἓἠἢἡἣἰἲἱἳὀὂὁὃὐὒὑὓὠὢὡὣ"),
    (0x301, "aácćeégǵiíkḱlĺmḿnńoópṕrŕsśuúwẃyýzźâấåǻæǽçḉêếïḯôốõṍøǿüǘăắēḗōṓũṹơớưứαάεέηήιίοόυύωώϊΐϋΰ"),
    (0x301, "гѓкќἀἄἁἅἐἔἑἕἠἤἡἥἰἴἱἵὀὄὁὅὐὔὑὕὠὤὡὥ"),
    (0x302, "aâcĉeêgĝhĥiîjĵoôsŝuûwŵyŷzẑạậẹệọộ"),
    (0x303, "aãeẽiĩnñoõuũvṽyỹâẫêễôỗăẵơỡưữ"),
    (0x304, "aāeēgḡiīoōuūyȳäǟæǣõȭöȫüǖǫǭȧǡȯȱαᾱιῑυῡиӣуӯḷḹṛṝ"),
    (0x306, "aăeĕgğiĭoŏuŭȩḝαᾰιῐυῠаӑеӗжӂийуўạặ"),
    (0x307, "aȧbḃcċdḋeėfḟgġhḣmṁnṅoȯpṗrṙsṡtṫwẇxẋyẏzżśṥšṧṣṩ𐗒𐗉𐗚𐗤"),
    (0x308, "aäeëhḧiïoötẗuüwẅxẍyÿõṏūṻιϊυϋаӓеёжӝзӟиӥоӧуӱчӵыӹэӭіїәӛөӫ"),
    (0x309, "aảeẻiỉoỏuủyỷâẩêểôổăẳơởưử"),
    (0x30A, "aåuůwẘyẙ"),
    (0x30B, "oőuűуӳ"),
    (0x30C, "aǎcčdďeěgǧhȟiǐjǰkǩlľnňoǒrřsštťuǔzžüǚʒǯ"),
    (0x30F, "aȁeȅiȉoȍrȑuȕѵѷ"),
    (0x311, "aȃeȇiȋoȏrȓuȗ"),
    (0x313, "αἀεἐηἠιἰοὀρῤυὐωὠ"),
    (0x314, "αἁεἑηἡιἱοὁρῥυὑωὡ"),
    (0x31B, "oơuư"),
    (0x323, "aạbḅdḍeẹhḥiịkḳlḷmṃnṇoọrṛsṣtṭuụvṿwẉyỵzẓơợưự"),
    (0x324, "uṳ"),
    (0x325, "aḁ"),
    (0x326, "sștț"),
    (0x327, "cçdḑeȩgģhḩkķlļnņrŗsştţ"),
    (0x328, "aąeęiįoǫuų"),
    (0x32D, "dḓeḙlḽnṋtṱuṷ"),
    (0x32E, "hḫ"),
    (0x330, "eḛiḭuṵ"),
    (0x331, "bḇdḏhẖkḵlḻnṉrṟtṯzẕ"),
    (0x338, "<≮=≠>≯←↚→↛↔↮⇐⇍⇒⇏⇔⇎∃∄∈∉∋∌∣∤∥∦∼≁≃≄≅≇≈≉≍≭≡≢≤≰≥≱≲≴≳≵≶≸≷≹≺⊀≻⊁≼⋠≽⋡⊂⊄⊃⊅⊆⊈⊇⊉⊑⋢⊒⋣⊢⊬⊨⊭⊩⊮⊫⊯⊲⋪⊳⋫"),
    (0x338, "⊴⋬⊵⋭"),
    (0x342, "αᾶηῆιῖυῦωῶϊῗϋῧἀἆἁἇἠἦἡἧἰἶἱἷὐὖὑὗὠὦὡὧ"),
    (0x653, "اآ"),
    (0x654, "اأوؤيئہۂےۓەۀ"),
    (0x655, "اإ"),
    (0x93C, "नऩरऱळऴ"),
    (0x9BE, "েো"),
    (0x9D7, "েৌ"),
    (0xB3E, "େୋ"),
    (0xB56, "େୈ"),
    (0xB57, "େୌ"),
    (0xBBE, "ெொேோ"),
    (0xBD7, "ஒஔெௌ"),
    (0xC56, "ెై"),
    (0xCC2, "ೆೊ"),
    (0xCD5, "ಿೀೆೇೊೋ"),
    (0xCD6, "ೆೈ"),
    (0xD3E, "െൊേോ"),
    (0xD57, "െൌ"),
    (0xDCA, "ෙේොෝ"),
    (0xDCF, "ෙො"),
    (0xDDF, "ෙෞ"),
    (0x102E, "ဥဦ"),
    (0x1B35, "ᬅᬆᬇᬈᬉᬊᬋᬌᬍᬎᬑᬒᬺᬻᬼᬽᬾᭀᬿᭁᭂᭃ"),
    (0x3099, "うゔかがきぎくぐけげこごさざしじすずせぜそぞただちぢつづてでとどはばひびふぶへべほぼゝゞウヴカガキギクグケゲコゴサザシジスズセゼソゾタダチヂツヅテデトドハバヒビフブ"),
    (0x3099, "ヘベホボワヷヰヸヱヹヲヺヽヾ"),
    (0x309A, "はぱひぴふぷへぺほぽハパヒピフプヘペホポ"),
    (0x110BA, "𑂙𑂚𑂛𑂜𑂥𑂫"),
    (0x11127, "𑄱𑄮𑄲𑄯"),
    (0x1133E, "𑍇𑍋"),
    (0x11357, "𑍇𑍌"),
    (0x113B8, "𑏅𑎸"),
    (0x113BB, "𑎄𑎅"),
    (0x113C2, "𑎋𑎎𑏅𑏂"),
    (0x113C9, "𑎂𑎃𑎐𑎑𑏅𑏉"),
    (0x114B0, "𑒹𑒼"),
    (0x114BA, "𑒹𑒻"),
    (0x114BD, "𑒹𑒾"),
    (0x115AF, "𑖸𑖺𑖹𑖻"),
    (0x11930, "𑤵𑤸"),
    (0x1611E, "𖄡𖄞"),
    (0x1611F, "𖄦𖄡𖄦𖄢𖄧𖄩𖄤"),
    (0x16120, "𖄨𖄡𖄨"),
    (0x16129, "𖄡𖄩"),
    (0x16D67, "𖵣𖵪𖵨𖵩𖵪")]

/-- The pairs of successive characters. -/
def pairs : List Char → List (Char × Char)
  | letter :: composed :: rest => (letter, composed) :: pairs rest
  | _ => []

/-- The Korean syllable that a syllable and a further sound make. -/
def syllable? (c d : Char) : Option Char :=
  let (m, n) := (c.toNat, d.toNat)
  if 0x1100 ≤ m ∧ m ≤ 0x1112 ∧ 0x1161 ≤ n ∧ n ≤ 0x1175 then
    some (Char.ofNat (0xAC00 + ((m - 0x1100) * 21 + (n - 0x1161)) * 28))
  else if 0xAC00 ≤ m ∧ m ≤ 0xD7A3 ∧ (m - 0xAC00) % 28 = 0 ∧ 0x11A8 ≤ n ∧ n ≤ 0x11C2 then
    some (Char.ofNat (m + (n - 0x11A7)))
  else none

/-- The parts that make a Korean syllable. -/
def syllableParts? (c : Char) : Option (Char × Char) :=
  let n := c.toNat - 0xAC00
  if c.toNat < 0xAC00 ∨ 0xD7A3 < c.toNat then none
  else if n % 28 ≠ 0 then some (Char.ofNat (0xAC00 + n / 28 * 28), Char.ofNat (0x11A7 + n % 28))
  else some (Char.ofNat (0x1100 + n / 588), Char.ofNat (0x1161 + n % 588 / 28))

/-- The letter that a letter makes with a mark. -/
def join? (letter mark : Char) : Option Char :=
  (syllable? letter mark).or <| compositions.findSome? fun (n, row) =>
    if n = mark.toNat then (pairs row.toList).lookup letter else none

/-- The letter and the mark that make a letter. -/
def parts? (c : Char) : Option (Char × Char) :=
  (syllableParts? c).or <| compositions.findSome? fun (n, row) =>
    ((pairs row.toList).find? (·.2 = c)).map fun (letter, _) => (letter, Char.ofNat n)

/-- A letter taken apart in at most so many steps. -/
def takeApart : Nat → Char → List Char
  | 0, c => [c]
  | steps + 1, c =>
    match parts? c with
    | none => [c]
    | some (letter, mark) => takeApart steps letter ++ [mark]

/-- The most marks that a letter takes in. -/
def maxMarks : Nat := 3

/-- Puts a character before characters with marks in order, behind those marks that precede it. -/
def place (c : Char) : List Char → List Char
  | [] => [c]
  | d :: ds =>
    if 0 < combiningClass d ∧ combiningClass d < combiningClass c then d :: place c ds
    else c :: d :: ds

/-- The characters with the marks of each letter in order. -/
def arrange (cs : List Char) : List Char := cs.foldr place []

/-- Lets a letter take in the marks that follow it, `passed` being those it cannot take in. A mark
is out of its reach behind one of the same class, and what is no mark behind any. -/
def gather (letter : Char) (passed : List Char) : List Char → List Char
  | [] => letter :: passed
  | c :: cs =>
    let reached := passed.getLast?.all (combiningClass · < combiningClass c)
    match if reached then join? letter c else none with
    | some composed => gather composed passed cs
    | none =>
      if combiningClass c = 0 then letter :: passed ++ gather c [] cs
      else gather letter (passed ++ [c]) cs

/-- The characters in composed form. -/
def compose (cs : List Char) : List Char :=
  let arranged := arrange (cs.flatMap (takeApart maxMarks))
  let (marks, rest) := (arranged.takeWhile (combiningClass · ≠ 0),
    arranged.dropWhile (combiningClass · ≠ 0))
  marks ++ match rest with
    | [] => []
    | c :: cs => gather c [] cs

end TrainingPortal.Url.Domain
