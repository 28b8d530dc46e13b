import NearDup.Verb.Table

/-! The verb table that comes with the library. -/

namespace NearDup

namespace VerbTable

/-- Infinitive, simple past and past participle of each verb of the bundled table. -/
def bundledRows : List (List String) := [
  ["arise", "arose", "arisen"],
  ["awake", "awoke", "awoken"],
  ["be", "was/were", "been"],
  ["bear", "bore", "born/borne"],
  ["beat", "beat", "beaten"],
  ["become", "became", "become"],
  ["begin", "began", "begun"],
  ["bend", "bent", "bent"],
  ["bet", "bet", "bet"],
  ["bind", "bound", "bound"],
  ["bite", "bit", "bitten"],
  ["bleed", "bled", "bled"],
  ["blow", "blew", "blown"],
  ["break", "broke", "broken"],
  ["breed", "bred", "bred"],
  ["bring", "brought", "brought"],
  ["broadcast", "broadcast", "broadcast"],
  ["build", "built", "built"],
  ["burn", "burnt/burned", "burnt/burned"],
  ["burst", "burst", "burst"],
  ["buy", "bought", "bought"],
  ["catch", "caught", "caught"],
  ["choose", "chose", "chosen"],
  ["cling", "clung", "clung"],
  ["come", "came", "come"],
  ["cost", "cost", "cost"],
  ["creep", "crept", "crept"],
  ["cut", "cut", "cut"],
  ["deal", "dealt", "dealt"],
  ["dig", "dug", "dug"],
  ["do", "did", "done"],
  ["draw", "drew", "drawn"],
  ["dream", "dreamt/dreamed", "dreamt/dreamed"],
  ["drink", "drank", "drunk"],
  ["drive", "drove", "driven"],
  ["eat", "ate", "eaten"],
  ["fall", "fell", "fallen"],
  ["feed", "fed", "fed"],
  ["feel", "felt", "felt"],
  ["fight", "fought", "fought"],
  ["find", "found", "found"],
  ["flee", "fled", "fled"],
  ["fly", "flew", "flown"],
  ["forbid", "forbade", "forbidden"],
  ["forget", "forgot", "forgotten"],
  ["forgive", "forgave", "forgiven"],
  ["freeze", "froze", "frozen"],
  ["get", "got", "got/gotten"],
  ["give", "gave", "given"],
  ["go", "went", "gone"],
  ["grind", "ground", "ground"],
  ["grow", "grew", "grown"],
  ["hang", "hung", "hung"],
  ["have", "had", "had"],
  ["hear", "heard", "heard"],
  ["hide", "hid", "hidden"],
  ["hit", "hit", "hit"],
  ["hold", "held", "held"],
  ["hurt", "hurt", "hurt"],
  ["keep", "kept", "kept"],
  ["kneel", "knelt", "knelt"],
  ["know", "knew", "known"],
  ["lay", "laid", "laid"],
  ["lead", "led", "led"],
  ["lean", "leant/leaned", "leant/leaned"],
  ["leap", "leapt/leaped", "leapt/leaped"],
  ["learn", "learnt/learned", "learnt/learned"],
  ["leave", "left", "left"],
  ["lend", "lent", "lent"],
  ["let", "let", "let"],
  ["lie", "lay", "lain"],
  ["light", "lit", "lit"],
  ["lose", "lost", "lost"],
  ["make", "made", "made"],
  ["mean", "meant", "meant"],
  ["meet", "met", "met"],
  ["mistake", "mistook", "mistaken"],
  ["overcome", "overcame", "overcome"],
  ["pay", "paid", "paid"],
  ["prove", "proved", "proven"],
  ["put", "put", "put"],
  ["quit", "quit", "quit"],
  ["read", "read", "read"],
  ["ride", "rode", "ridden"],
  ["ring", "rang", "rung"],
  ["rise", "rose", "risen"],
  ["run", "ran", "run"],
  ["say", "said", "said"],
  ["see", "saw", "seen"],
  ["seek", "sought", "sought"],
  ["sell", "sold", "sold"],
  ["send", "sent", "sent"],
  ["set", "set", "set"],
  ["sew", "sewed", "sewn"],
  ["shake", "shook", "shaken"],
  ["shine", "shone", "shone"],
  ["shoot", "shot", "shot"],
  ["show", "showed", "shown"],
  ["shrink", "shrank", "shrunk"],
  ["shut", "shut", "shut"],
  ["sing", "sang", "sung"],
  ["sink", "sank", "sunk"],
  ["sit", "sat", "sat"],
  ["sleep", "slept", "slept"],
  ["slide", "slid", "slid"],
  ["speak", "spoke", "spoken"],
  ["speed", "sped", "sped"],
  ["spend", "spent", "spent"],
  ["spill", "spilt/spilled", "spilt/spilled"],
  ["spin", "spun", "spun"],
  ["spit", "spat", "spat"],
  ["split", "split", "split"],
  ["spread", "spread", "spread"],
  ["spring", "sprang", "sprung"],
  ["stand", "stood", "stood"],
  ["steal", "stole", "stolen"],
  ["stick", "stuck", "stuck"],
  ["sting", "stung", "stung"],
  ["stink", "stank", "stunk"],
  ["strike", "struck", "struck"],
  ["swear", "swore", "sworn"],
  ["sweep", "swept", "swept"],
  ["swim", "swam", "swum"],
  ["swing", "swung", "swung"],
  ["take", "took", "taken"],
  ["teach", "taught", "taught"],
  ["tear", "tore", "torn"],
  ["tell", "told", "told"],
  ["think", "thought", "thought"],
  ["throw", "threw", "thrown"],
  ["understand", "understood", "understood"],
  ["undertake", "undertook", "undertaken"],
  ["upset", "upset", "upset"],
  ["wake", "woke", "woken"],
  ["wear", "wore", "worn"],
  ["weave", "wove", "woven"],
  ["weep", "wept", "wept"],
  ["win", "won", "won"],
  ["wind", "wound", "wound"],
  ["withdraw", "withdrew", "withdrawn"],
  ["write", "wrote", "written"]
]

/-- The bundled table as a text of records. -/
def bundledText : String :=
  "# infinitive,simple past,past participle\n" ++ Csv.ofRows bundledRows

def bundled? : Except MalformedRow VerbTable :=
  ofCsv? bundledText

end VerbTable

end NearDup
