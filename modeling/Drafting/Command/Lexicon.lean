/-!
# The vocabulary of drawing commands

Commands are read in English, Italian and Chinese.  This module holds the words:
the shapes and actions they name, and the colour names with their indices in
the standard 256-colour palette of CAD drawings.

Each table lists its words in the order they are tried; the first word of a
table found in a command decides, so the order is part of the meaning: `line`
comes before `polyline`, and `圆` before `椭圆`.
-/

namespace Drafting.Command

/-- A kind of drawing entity a command may ask for. -/
inductive Shape where
  | line | circle | arc | ellipse | rectangle | polyline | text | dimension | hatch
  deriving DecidableEq, Repr

/-- What a command asks to do. -/
inductive Action where
  | draw | modify | move | rotate | scale | erase | save
  deriving DecidableEq, Repr

/-- The name of a shape. -/
def Shape.name : Shape → String
  | .line => "line" | .circle => "circle" | .arc => "arc" | .ellipse => "ellipse"
  | .rectangle => "rectangle" | .polyline => "polyline" | .text => "text"
  | .dimension => "dimension" | .hatch => "hatch"

/-- The name of an action. -/
def Action.name : Action → String
  | .draw => "draw" | .modify => "modify" | .move => "move" | .rotate => "rotate"
  | .scale => "scale" | .erase => "erase" | .save => "save"

/-- Colour names and their palette indices, English, then Italian in both genders,
then Chinese. -/
def colourNames : List (String × Nat) :=
  [("red", 1), ("yellow", 2), ("green", 3), ("cyan", 4), ("blue", 5), ("magenta", 6),
   ("white", 7), ("gray", 8), ("grey", 8), ("black", 250), ("orange", 30), ("brown", 33),
   ("purple", 200), ("pink", 221),
   ("rosso", 1), ("rossa", 1), ("giallo", 2), ("gialla", 2), ("verde", 3), ("ciano", 4),
   ("blu", 5), ("azzurro", 5), ("azzurra", 5), ("bianco", 7), ("bianca", 7), ("grigio", 8),
   ("grigia", 8), ("nero", 250), ("nera", 250), ("arancione", 30), ("marrone", 33),
   ("viola", 200), ("rosa", 221),
   ("红", 1), ("红色", 1), ("黄", 2), ("黄色", 2), ("绿", 3), ("绿色", 3), ("青", 4),
   ("青色", 4), ("蓝", 5), ("蓝色", 5), ("洋红", 6), ("洋红色", 6), ("紫红", 6), ("白", 7),
   ("白色", 7), ("灰", 8), ("灰色", 8), ("黑", 250), ("黑色", 250), ("橙", 30), ("橙色", 30),
   ("棕", 33), ("棕色", 33), ("紫", 200), ("紫色", 200), ("粉", 221), ("粉色", 221),
   ("粉红", 221)]

/-- Words that name a shape, in the order they are tried. -/
def shapeWords : List (String × Shape) :=
  [("line", .line), ("circle", .circle), ("arc", .arc), ("ellipse", .ellipse),
   ("rectangle", .rectangle), ("rect", .rectangle), ("square", .rectangle),
   ("polyline", .polyline), ("polygon", .polyline), ("text", .text),
   ("dimension", .dimension), ("hatch", .hatch), ("fill", .hatch),
   ("linea", .line), ("cerchio", .circle), ("arco", .arc), ("ellisse", .ellipse),
   ("rettangolo", .rectangle), ("quadrato", .rectangle), ("polilinea", .polyline),
   ("poligono", .polyline), ("testo", .text), ("quota", .dimension),
   ("quotatura", .dimension), ("riempimento", .hatch), ("tratteggio", .hatch),
   ("线", .line), ("直线", .line), ("圆", .circle), ("圆形", .circle), ("弧", .arc),
   ("圆弧", .arc), ("椭圆", .ellipse), ("椭圆形", .ellipse), ("矩形", .rectangle),
   ("方形", .rectangle), ("正方形", .rectangle), ("多段线", .polyline), ("折线", .polyline),
   ("多边形", .polyline), ("文字", .text), ("文本", .text), ("标注", .dimension),
   ("尺寸", .dimension), ("填充", .hatch), ("图案填充", .hatch)]

/-- Words that name an action, in the order they are tried. -/
def actionWords : List (String × Action) :=
  [("draw", .draw), ("create", .draw), ("add", .draw), ("make", .draw), ("place", .draw),
   ("insert", .draw), ("modify", .modify), ("change", .modify), ("edit", .modify),
   ("move", .move), ("rotate", .rotate), ("scale", .scale), ("resize", .scale),
   ("delete", .erase), ("remove", .erase), ("erase", .erase), ("save", .save),
   ("disegna", .draw), ("crea", .draw), ("aggiungi", .draw), ("inserisci", .draw),
   ("traccia", .draw), ("modifica", .modify), ("cambia", .modify), ("sposta", .move),
   ("ruota", .rotate), ("scala", .scale), ("ridimensiona", .scale), ("elimina", .erase),
   ("cancella", .erase), ("rimuovi", .erase), ("salva", .save),
   ("画", .draw), ("绘制", .draw), ("创建", .draw), ("添加", .draw), ("制作", .draw),
   ("放置", .draw), ("修改", .modify), ("更改", .modify), ("调整", .modify), ("移动", .move),
   ("旋转", .rotate), ("缩放", .scale), ("删除", .erase), ("移除", .erase), ("擦除", .erase),
   ("保存", .save)]

/-- Words that ask for a closed polyline. -/
def closingWords : List String := ["closed", "close", "闭合", "封闭"]

end Drafting.Command
