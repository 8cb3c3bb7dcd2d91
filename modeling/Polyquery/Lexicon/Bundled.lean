import Polyquery.Lexicon.Document

/-!
# The bundled lexicon

The lexicon that is used when no catalog file is given: the words of the game for fifteen languages.
-/

namespace Polyquery

namespace Bundled

def column (language : Language) (terms : List String) : Language × List Text :=
  (language, terms.map String.toList)

def pin (index : Nat) (language : Language) (type : SearchType) : PinRecord :=
  { concept := { index := index }, language := language, type := type }

def columns : List (Language × List Text) := [
  column .english [
    "shiny", "lucky", "shadow", "purified", "legendary", "mythical", "costume", "evolve",
    "traded", "hatched", "defender", "buddy", "psychic", "psychic", "fire", "water", "cp",
    "hp", "distance", "age", "male", "female"],
  column .german [
    "schillernd", "glücks", "crypto", "erlöst", "legendär", "mysteriös", "kostüm",
    "entwickelbar", "getauscht", "geschlüpft", "verteidiger", "kumpel", "psycho",
    "psychokinese", "feuer", "wasser", "wp", "kp", "entfernung", "alter", "männlich",
    "weiblich"],
  column .french [
    "chromatique", "chanceux", "obscur", "purifié", "légendaire", "fabuleux", "costume",
    "évolution", "échangé", "éclos", "défenseur", "copain", "psy", "psyko", "feu", "eau",
    "pc", "pv", "distance", "âge", "mâle", "femelle"],
  column .spanish [
    "variocolor", "suerte", "oscuro", "purificado", "legendario", "singular", "disfraz",
    "evolucionar", "intercambiado", "eclosionado", "defensor", "compañero", "psíquico",
    "psíquico", "fuego", "agua", "pc", "ps", "distancia", "antigüedad", "macho", "hembra"],
  column .italian [
    "cromatico", "fortunato", "ombra", "purificato", "leggendario", "mitico", "costume",
    "evolvi", "scambiato", "schiuso", "difensore", "compagno", "psico", "psichico", "fuoco",
    "acqua", "pl", "ps", "distanza", "età", "maschio", "femmina"],
  column .brazilianPortuguese [
    "brilhante", "sortudo", "sombroso", "purificado", "lendário", "mítico", "fantasia",
    "evoluir", "trocado", "chocado", "defensor", "parceiro", "psíquico", "psíquico", "fogo",
    "água", "pc", "ps", "distância", "idade", "macho", "fêmea"],
  column .japanese [
    "色違い", "キラ", "シャドウ", "リトレーン", "伝説", "幻", "コスチューム", "進化", "交換", "タマゴ", "ジム", "相棒",
    "エスパー", "サイコキネシス", "ほのお", "みず", "cp", "hp", "きょり", "日数", "オス", "メス"],
  column .korean [
    "이로치", "반짝반짝", "그림자", "정화", "전설", "환상", "코스튬", "진화", "교환", "부화", "체육관", "파트너", "에스퍼",
    "사이코키네시스", "불꽃", "물", "cp", "hp", "거리", "날짜", "수컷", "암컷"],
  column .traditionalChinese [
    "異色", "亮晶晶", "暗影", "淨化", "傳說", "幻之", "服裝", "進化", "交換", "孵化", "道館", "夥伴", "超能力", "精神強念",
    "火", "水", "cp", "hp", "距離", "天數", "雄性", "雌性"],
  column .russian [
    "блестящий", "счастливый", "тень", "очищенный", "легендарный", "мифический", "костюм",
    "эволюция", "обмененный", "вылупившийся", "защитник", "приятель", "психический",
    "психическое", "огонь", "вода", "cp", "hp", "расстояние", "возраст", "самец", "самка"],
  column .thai [
    "ไชนี่", "ลัคกี้", "ชาโดว์", "ชำระ", "ตำนาน", "มายา", "ชุด", "วิวัฒนาการ", "แลกเปลี่ยน",
    "ฟัก", "ผู้ป้องกัน", "บัดดี้", "พลังจิต", "ไซคิก", "ไฟ", "น้ำ", "cp", "hp", "ระยะทาง",
    "อายุ", "ตัวผู้", "ตัวเมีย"],
  column .turkish [
    "parlak", "şanslı", "gölge", "arındırılmış", "efsanevi", "mitik", "kostüm", "evrim",
    "takas", "yumurtadan", "savunucu", "dost", "psişik", "psişik", "ateş", "su", "sp",
    "can", "mesafe", "yaş", "erkek", "dişi"],
  column .hindi [
    "चमकदार", "भाग्यशाली", "छाया", "शुद्ध", "पौराणिक", "मिथकीय", "पोशाक", "विकास",
    "व्यापार", "अंडे", "रक्षक", "साथी", "मानसिक", "मानसिक", "आग", "जल", "cp", "hp", "दूरी",
    "आयु", "नर", "मादा"],
  column .indonesian [
    "berkilau", "beruntung", "bayangan", "dimurnikan", "legendaris", "mitos", "kostum",
    "evolusi", "ditukar", "menetas", "pembela", "sobat", "psikis", "psikis", "api", "air",
    "cp", "hp", "jarak", "umur", "jantan", "betina"],
  column .mexicanSpanish [
    "variocolor", "suertudo", "oscuro", "purificado", "legendario", "singular", "disfraz",
    "evolucionar", "intercambiado", "eclosionado", "defensor", "compañero", "psíquico",
    "psíquico", "fuego", "agua", "pc", "ps", "distancia", "antigüedad", "macho", "hembra"]]

def pins : List PinRecord := [
  pin 12 .english .name,
  pin 13 .english .move,
  pin 12 .spanish .name,
  pin 13 .spanish .move,
  pin 12 .brazilianPortuguese .name,
  pin 13 .brazilianPortuguese .move,
  pin 12 .turkish .name,
  pin 13 .turkish .move,
  pin 12 .hindi .name,
  pin 13 .hindi .move,
  pin 12 .indonesian .name,
  pin 13 .indonesian .move,
  pin 12 .mexicanSpanish .name,
  pin 13 .mexicanSpanish .move]

def warnings : List WarningRecord := [
  { term := "age".toList
    language := .english
    entry := {
      qualifier := .only .search
      sourceMessage :=
        "`age` counts days since the Pokémon was caught, not how old it is".toList
      targetMessage :=
        "the term written as `age` counts days since the Pokémon was caught".toList } },
  { term := "defender".toList
    language := .english
    entry := {
      qualifier := .any
      sourceMessage :=
        "`defender` only matches Pokémon currently placed in a gym".toList
      targetMessage :=
        "`defender` only matches Pokémon currently placed in a gym".toList } },
  { term := "ジム".toList
    language := .japanese
    entry := {
      qualifier := .any
      sourceMessage :=
        "`ジム` matches Pokémon defending a gym, not gym badges".toList
      targetMessage :=
        "`ジム` (gym) matches Pokémon defending a gym, not gym badges".toList } },
  { term := "oscuro".toList
    language := .spanish
    entry := {
      qualifier := .any
      sourceMessage :=
        "`oscuro` means the Shadow state here, not the Dark type".toList
      targetMessage :=
        "`oscuro` will be read as the Shadow state, not the Dark type".toList } },
  { term := "oscuro".toList
    language := .mexicanSpanish
    entry := {
      qualifier := .any
      sourceMessage :=
        "`oscuro` means the Shadow state here, not the Dark type".toList
      targetMessage :=
        "`oscuro` will be read as the Shadow state, not the Dark type".toList } }]

def document : CatalogDocument :=
  { languages := .ofList columns, pins := pins, warnings := warnings }

theorem exists_lexicon : document.toLexicon.toOption.isSome = true := by
  decide +kernel

end Bundled

def Lexicon.bundled : Lexicon :=
  Bundled.document.toLexicon.toOption.get Bundled.exists_lexicon

end Polyquery
