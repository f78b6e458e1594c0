import ApiCatalog.Number.Literal
import ApiCatalog.Text.Casing

set_option autoImplicit false

namespace ApiCatalog

structure Style where
  attributes : List (String × Bool) := []
  color : Option String := none
  background : Option String := none
  link : Option String := none
  deriving DecidableEq, Repr

namespace Style

inductive Fault
  | unknown
  | part
  deriving DecidableEq, Repr

def words (cs : List Char) : List String :=
  ((cs.splitOnP Text.isBlank).filter (!·.isEmpty)).map String.ofList

def attributeNames : List (String × List String) :=
  [("bold", ["b"]), ("dim", ["d"]), ("italic", ["i"]), ("underline", ["u"]), ("blink", []),
   ("blink2", []), ("reverse", ["r"]), ("conceal", ["c"]), ("strike", ["s"]),
   ("underline2", ["uu"]), ("frame", []), ("encircle", []), ("overline", ["o"])]

def attribute? (word : String) : Option String :=
  (attributeNames.find? fun (name, short) => name == word || short.contains word).map (·.1)

def colorText : String := "
  black red green yellow blue magenta cyan white bright_black bright_red bright_green
  bright_yellow bright_blue bright_magenta bright_cyan bright_white grey0 gray0 navy_blue
  dark_blue blue3 blue1 dark_green deep_sky_blue4 dodger_blue3 dodger_blue2 green4 spring_green4
  turquoise4 deep_sky_blue3 dodger_blue1 green3 spring_green3 dark_cyan light_sea_green
  deep_sky_blue2 deep_sky_blue1 spring_green2 cyan3 dark_turquoise turquoise2 green1 spring_green1
  medium_spring_green cyan2 cyan1 dark_red deep_pink4 purple4 purple3 blue_violet orange4 grey37
  gray37 medium_purple4 slate_blue3 royal_blue1 chartreuse4 dark_sea_green4 pale_turquoise4
  steel_blue steel_blue3 cornflower_blue chartreuse3 cadet_blue sky_blue3 steel_blue1 pale_green3
  sea_green3 aquamarine3 medium_turquoise chartreuse2 sea_green2 sea_green1 aquamarine1
  dark_slate_gray2 dark_magenta dark_violet purple light_pink4 plum4 medium_purple3 slate_blue1
  yellow4 wheat4 grey53 gray53 light_slate_grey light_slate_gray medium_purple light_slate_blue
  dark_olive_green3 dark_sea_green light_sky_blue3 sky_blue2 dark_sea_green3 dark_slate_gray3
  sky_blue1 chartreuse1 light_green pale_green1 dark_slate_gray1 red3 medium_violet_red magenta3
  dark_orange3 indian_red hot_pink3 medium_orchid3 medium_orchid medium_purple2 dark_goldenrod
  light_salmon3 rosy_brown grey63 gray63 medium_purple1 gold3 dark_khaki navajo_white3 grey69
  gray69 light_steel_blue3 light_steel_blue yellow3 dark_sea_green2 light_cyan3 light_sky_blue1
  green_yellow dark_olive_green2 dark_sea_green1 pale_turquoise1 deep_pink3 magenta2 hot_pink2
  orchid medium_orchid1 orange3 light_pink3 pink3 plum3 violet light_goldenrod3 tan misty_rose3
  thistle3 plum2 khaki3 light_goldenrod2 light_yellow3 grey84 gray84 light_steel_blue1 yellow2
  dark_olive_green1 honeydew2 light_cyan1 red1 deep_pink2 deep_pink1 magenta1 orange_red1
  indian_red1 hot_pink dark_orange salmon1 light_coral pale_violet_red1 orchid2 orchid1 orange1
  sandy_brown light_salmon1 light_pink1 pink1 plum1 gold1 navajo_white1 misty_rose1 thistle1
  yellow1 light_goldenrod1 khaki1 wheat1 cornsilk1 grey100 gray100 grey3 gray3 grey7 gray7 grey11
  gray11 grey15 gray15 grey19 gray19 grey23 gray23 grey27 gray27 grey30 gray30 grey35 gray35
  grey39 gray39 grey42 gray42 grey46 gray46 grey50 gray50 grey54 gray54 grey58 gray58 grey62
  gray62 grey66 gray66 grey70 gray70 grey74 gray74 grey78 gray78 grey82 gray82 grey85 gray85
  grey89 gray89 grey93 gray93"

def colorNames : List String := "default" :: words colorText.toList

def argument? (function : String) (word : List Char) : Option (List Char) :=
  if (function.toList ++ ['(']).isPrefixOf word && word.getLast? == some ')' then
    some ((word.drop (function.length + 1)).dropLast)
  else none

def isHexColor : List Char → Bool
  | '#' :: digits => digits.length == 6 && digits.all fun c => (Number.hexDigit? c).isSome
  | _ => false

def isNumberedColor (word : List Char) : Bool :=
  match argument? "color" word with
  | some digits =>
    !digits.isEmpty && digits.length ≤ 3 && digits.all Char.isDigit &&
      Number.natOfDigits digits ≤ 255
  | none => false

def mixedColor (parts : List (List Char)) : Except Fault Unit :=
  if parts.length ≠ 3 then .error .unknown
  else if parts.any fun part => part.isEmpty || Number.maxIntegerDigits < part.length then
    .error .part
  else if parts.any fun part => 255 < Number.natOfDigits (part.map Number.asciiDigit) then
    .error .unknown
  else .ok ()

def readColor (word : String) : Except Fault String :=
  let name := Text.lower word
  if colorNames.contains name || isHexColor name.toList || isNumberedColor name.toList then .ok name
  else
    match argument? "rgb" name.toList with
    | some parts =>
      if !parts.isEmpty && parts.all fun c => c == ',' || (Text.digitValue? c).isSome then
        (mixedColor (parts.splitOn ',')).map fun _ => name
      else .error .unknown
    | none => .error .unknown

def addWord (s : Style) (word : String) : Except Fault Style :=
  match attribute? word with
  | some name => .ok { s with attributes := (name, true) :: s.attributes }
  | none => (readColor word).map fun color => { s with color := some color }

def readWords (s : Style) : List String → Except Fault Style
  | [] => .ok s
  | [word] => do
    match Text.lower word with
    | "on" | "not" | "link" => .error .unknown
    | lower => s.addWord lower
  | word :: next :: rest => do
    match Text.lower word with
    | "on" => ({ s with background := some (← readColor next) } : Style).readWords rest
    | "not" =>
      match attribute? next with
      | some name => ({ s with attributes := (name, false) :: s.attributes } : Style).readWords rest
      | none => .error .unknown
    | "link" => ({ s with link := some next } : Style).readWords rest
    | lower => (← s.addWord lower).readWords (next :: rest)

def read (text : List Char) : Except Fault Style :=
  if Text.trim text = "none".toList then .ok {} else readWords {} (words text)

def attributeText? (s : Style) (name : String) : Option String :=
  (s.attributes.lookup name).map fun on => if on then name else "not " ++ name

def toText (s : Style) : String :=
  let parts := attributeNames.filterMap (fun (name, _) => s.attributeText? name) ++
    s.color.toList ++ (s.background.map ("on " ++ ·)).toList ++ (s.link.map ("link " ++ ·)).toList
  if parts.isEmpty then "none" else " ".intercalate parts

-- What a style is known by, however it is written. A text that is no style is known by itself.
def nameOf (text : List Char) : Except Fault String :=
  match read text with
  | .ok style => .ok style.toText
  | .error .unknown => .ok (Text.lower (String.ofList (Text.trim text)))
  | .error .part => .error .part

end Style

end ApiCatalog
