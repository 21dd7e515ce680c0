import QuorumGate.Text.Mark

/-!
# Composed text

A letter and a mark on it may be one character, or two. Composed text has one wherever there is
one, and marks of different places in the order of their classes.
-/

namespace QuorumGate.Text

/-- For each mark the letters that it is put on, each followed by what comes out. -/
def compositions : List (Nat × String) :=
  [(0x300, "aàeèiìoòuùüǜnǹеѐиѝēḕōṑwẁâầăằêềôồơờưừyỳἀἂἁἃἐἒἑἓἠἢἡἣἰἲἱἳὀὂὁὃὐὒὑὓὠὢὡὣαὰεὲηὴιὶοὸυὺωὼ" ++
     "ϊῒϋῢ"),
   (0x301, "aáeéiíoóuúyýcćlĺnńrŕsśzźüǘgǵåǻæǽøǿϊΐαάεέηήιίϋΰοόυύωώгѓкќçḉēḗïḯkḱmḿõṍōṓpṕũṹwẃâấăắ" ++
     "êếôốơớưứἀἄἁἅἐἔἑἕἠἤἡἥἰἴἱἵὀὄὁὅὐὔὑὕὠὤὡὥ"),
   (0x302, "aâeêiîoôuûcĉgĝhĥjĵsŝwŵyŷzẑạậẹệọộ"),
   (0x303, "aãnñoõiĩuũvṽâẫăẵeẽêễôỗơỡưữyỹ"),
   (0x304, "aāeēiīoōuūüǖäǟȧǡæǣǫǭöȫõȭȯȱyȳиӣуӯgḡḷḹṛṝαᾱιῑυῡ"),
   (0x306, "aăeĕgğiĭoŏuŭийуўжӂаӑеӗȩḝạặαᾰιῐυῠ"),
   (0x307, "cċeėgġzżaȧoȯbḃdḋfḟhḣmṁnṅpṗrṙsṡśṥšṧṣṩtṫwẇxẋyẏ"),
   (0x308, "aäeëiïoöuüyÿιϊυϋеёіїаӓәӛжӝзӟиӥоӧөӫэӭуӱчӵыӹhḧõṏūṻwẅxẍtẗ"),
   (0x309, "aảâẩăẳeẻêểiỉoỏôổơởuủưửyỷ"),
   (0x30A, "aåuůwẘyẙ"),
   (0x30B, "oőuűуӳ"),
   (0x30C, "cčdďeělľnňrřsštťzžaǎiǐoǒuǔüǚgǧkǩʒǯjǰhȟ"),
   (0x30F, "aȁeȅiȉoȍrȑuȕѵѷ"),
   (0x311, "aȃeȇiȋoȏrȓuȗ"),
   (0x313, "αἀεἐηἠιἰοὀυὐωὠρῤ"),
   (0x314, "αἁεἑηἡιἱοὁυὑωὡρῥ"),
   (0x31B, "oơuư"),
   (0x323, "bḅdḍhḥkḳlḷmṃnṇrṛsṣtṭvṿwẉzẓaạeẹiịoọơợuụưựyỵ"),
   (0x324, "uṳ"),
   (0x325, "aḁ"),
   (0x326, "sștț"),
   (0x327, "cçgģkķlļnņrŗsştţeȩdḑhḩ"),
   (0x328, "aąeęiįuųoǫ"),
   (0x32D, "dḓeḙlḽnṋtṱuṷ"),
   (0x32E, "hḫ"),
   (0x330, "eḛiḭuṵ"),
   (0x331, "bḇdḏkḵlḻnṉrṟtṯzẕhẖ"),
   (0x342, "ἀἆἁἇἠἦἡἧἰἶἱἷὐὖὑὗὠὦὡὧαᾶηῆιῖϊῗυῦϋῧωῶ"),
   (0x653, "\u0627\u0622"),
   (0x654, "\u0627\u0623\u0648\u0624\u064a\u0626\u06d5\u06c0\u06c1\u06c2\u06d2\u06d3"),
   (0x655, "\u0627\u0625"),
   (0x93C, "नऩरऱळऴ"),
   (0x9BE, "\u09c7\u09cb"),
   (0x9D7, "\u09c7\u09cc"),
   (0xB3E, "\u0b47\u0b4b"),
   (0xB56, "\u0b47\u0b48"),
   (0xB57, "\u0b47\u0b4c"),
   (0xBBE, "\u0bc6\u0bca\u0bc7\u0bcb"),
   (0xBD7, "ஒஔ\u0bc6\u0bcc"),
   (0xC56, "\u0c46\u0c48"),
   (0xCC2, "\u0cc6\u0cca"),
   (0xCD5, "\u0cbf\u0cc0\u0cc6\u0cc7\u0cca\u0ccb"),
   (0xCD6, "\u0cc6\u0cc8"),
   (0xD3E, "\u0d46\u0d4a\u0d47\u0d4b"),
   (0xD57, "\u0d46\u0d4c"),
   (0xDCA, "\u0dd9\u0dda\u0ddc\u0ddd"),
   (0xDCF, "\u0dd9\u0ddc"),
   (0xDDF, "\u0dd9\u0dde"),
   (0x102E, "ဥဦ"),
   (0x1B35, "ᬅᬆᬇᬈᬉᬊᬋᬌᬍᬎᬑᬒ\u1b3a\u1b3b\u1b3c\u1b3d\u1b3e\u1b40\u1b3f\u1b41\u1b42\u1b43"),
   (0x3099, "\u304b\u304c\u304d\u304e\u304f\u3050\u3051\u3052\u3053\u3054\u3055\u3056" ++
     "\u3057\u3058\u3059\u305a\u305b\u305c\u305d\u305e\u305f\u3060\u3061\u3062\u3064\u3065" ++
     "\u3066\u3067\u3068\u3069\u306f\u3070\u3072\u3073\u3075\u3076\u3078\u3079\u307b\u307c" ++
     "\u3046\u3094\u309d\u309e\u30ab\u30ac\u30ad\u30ae\u30af\u30b0\u30b1\u30b2\u30b3\u30b4" ++
     "\u30b5\u30b6\u30b7\u30b8\u30b9\u30ba\u30bb\u30bc\u30bd\u30be\u30bf\u30c0\u30c1\u30c2" ++
     "\u30c4\u30c5\u30c6\u30c7\u30c8\u30c9\u30cf\u30d0\u30d2\u30d3\u30d5\u30d6\u30d8\u30d9" ++
     "\u30db\u30dc\u30a6\u30f4\u30ef\u30f7\u30f0\u30f8\u30f1\u30f9\u30f2\u30fa\u30fd\u30fe"),
   (0x309A, "\u306f\u3071\u3072\u3074\u3075\u3077\u3078\u307a\u307b\u307d\u30cf\u30d1" ++
     "\u30d2\u30d4\u30d5\u30d7\u30d8\u30da\u30db\u30dd"),
   (0x110BA, "𑂙𑂚𑂛𑂜𑂥𑂫"),
   (0x11127, "𑄱𑄮𑄲𑄯"),
   (0x1133E, "𑍇𑍋"),
   (0x11357, "𑍇𑍌"),
   (0x114B0, "𑒹𑒼"),
   (0x114BA, "𑒹𑒻"),
   (0x114BD, "𑒹𑒾"),
   (0x115AF, "𑖸𑖺𑖹𑖻"),
   (0x11930, "𑤵𑤸")]

/-- What comes out of a letter, or is put in, in a row of pairs. -/
def afterIn? (c : Char) : List Char → Option Char
  | a :: b :: rest => if a = c then some b else afterIn? c rest
  | _ => none

def beforeIn? (c : Char) : List Char → Option Char
  | a :: b :: rest => if b = c then some a else beforeIn? c rest
  | _ => none

def compose? (letter mark : Char) : Option Char :=
  (compositions.lookup mark.toNat).bind fun pairs => afterIn? letter pairs.toList

def split? (c : Char) : Option (Char × Char) :=
  compositions.findSome? fun (mark, pairs) =>
    (beforeIn? c pairs.toList).map fun letter => (letter, Char.ofNat mark)

/-- A letter without its marks, and the marks behind it. At most so many are taken off. -/
def decompose : Nat → Char → List Char
  | 0, c => [c]
  | n + 1, c =>
    match split? c with
    | some (letter, mark) => decompose n letter ++ [mark]
    | none => [c]

/-- No character has more marks. -/
def mostMarks : Nat := 4

/-- Puts a mark behind the marks of lower or equal classes that stand at the end. -/
def insertMark (c : Char) : List Char → List Char
  | [] => [c]
  | d :: before =>
    if combiningClass c != 0 && combiningClass c < combiningClass d then d :: insertMark c before
    else c :: d :: before

/-- Brings neighbouring marks into the order of their classes. -/
def sortMarks (s : List Char) : List Char :=
  (s.foldl (fun before c => insertMark c before) []).reverse

/-- Composes what follows a letter with it. A mark is out of reach behind another one that is held
back and does not have a lower class. -/
def composeOnto (letter : Char) (held : List Char) : List Char → List Char
  | [] => letter :: held.reverse
  | c :: rest =>
    let inReach := held.head?.all fun h => combiningClass h < combiningClass c
    match if inReach then compose? letter c else none with
    | some composed => composeOnto composed held rest
    | none =>
      if combiningClass c = 0 then letter :: held.reverse ++ composeOnto c [] rest
      else composeOnto letter (c :: held) rest

def composed (s : List Char) : List Char :=
  match sortMarks (s.flatMap (decompose mostMarks)) with
  | [] => []
  | c :: rest => composeOnto c [] rest

def isComposed (s : List Char) : Bool := composed s == s

end QuorumGate.Text
