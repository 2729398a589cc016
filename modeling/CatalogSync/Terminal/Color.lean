import CatalogSync.Failure

namespace CatalogSync.Terminal

open CatalogSync.Text

def colorNames : List String :=
  ["black", "red", "green", "yellow", "blue", "magenta", "cyan", "white", "bright_black",
    "bright_red", "bright_green", "bright_yellow", "bright_blue", "bright_magenta", "bright_cyan",
    "bright_white", "grey0", "gray0", "navy_blue", "dark_blue", "blue3", "blue1", "dark_green",
    "deep_sky_blue4", "dodger_blue3", "dodger_blue2", "green4", "spring_green4", "turquoise4",
    "deep_sky_blue3", "dodger_blue1", "green3", "spring_green3", "dark_cyan", "light_sea_green",
    "deep_sky_blue2", "deep_sky_blue1", "spring_green2", "cyan3", "dark_turquoise", "turquoise2",
    "green1", "spring_green1", "medium_spring_green", "cyan2", "cyan1", "dark_red", "deep_pink4",
    "purple4", "purple3", "blue_violet", "orange4", "grey37", "gray37", "medium_purple4",
    "slate_blue3", "royal_blue1", "chartreuse4", "dark_sea_green4", "pale_turquoise4",
    "steel_blue", "steel_blue3", "cornflower_blue", "chartreuse3", "cadet_blue", "sky_blue3",
    "steel_blue1", "pale_green3", "sea_green3", "aquamarine3", "medium_turquoise", "chartreuse2",
    "sea_green2", "sea_green1", "aquamarine1", "dark_slate_gray2", "dark_magenta", "dark_violet",
    "purple", "light_pink4", "plum4", "medium_purple3", "slate_blue1", "yellow4", "wheat4",
    "grey53", "gray53", "light_slate_grey", "light_slate_gray", "medium_purple",
    "light_slate_blue", "dark_olive_green3", "dark_sea_green", "light_sky_blue3", "sky_blue2",
    "dark_sea_green3", "dark_slate_gray3", "sky_blue1", "chartreuse1", "light_green",
    "pale_green1", "dark_slate_gray1", "red3", "medium_violet_red", "magenta3", "dark_orange3",
    "indian_red", "hot_pink3", "medium_orchid3", "medium_orchid", "medium_purple2",
    "dark_goldenrod", "light_salmon3", "rosy_brown", "grey63", "gray63", "medium_purple1", "gold3",
    "dark_khaki", "navajo_white3", "grey69", "gray69", "light_steel_blue3", "light_steel_blue",
    "yellow3", "dark_sea_green2", "light_cyan3", "light_sky_blue1", "green_yellow",
    "dark_olive_green2", "dark_sea_green1", "pale_turquoise1", "deep_pink3", "magenta2",
    "hot_pink2", "orchid", "medium_orchid1", "orange3", "light_pink3", "pink3", "plum3", "violet",
    "light_goldenrod3", "tan", "misty_rose3", "thistle3", "plum2", "khaki3", "light_goldenrod2",
    "light_yellow3", "grey84", "gray84", "light_steel_blue1", "yellow2", "dark_olive_green1",
    "honeydew2", "light_cyan1", "red1", "deep_pink2", "deep_pink1", "magenta1", "orange_red1",
    "indian_red1", "hot_pink", "dark_orange", "salmon1", "light_coral", "pale_violet_red1",
    "orchid2", "orchid1", "orange1", "sandy_brown", "light_salmon1", "light_pink1", "pink1",
    "plum1", "gold1", "navajo_white1", "misty_rose1", "thistle1", "yellow1", "light_goldenrod1",
    "khaki1", "wheat1", "cornsilk1", "grey100", "gray100", "grey3", "gray3", "grey7", "gray7",
    "grey11", "gray11", "grey15", "gray15", "grey19", "gray19", "grey23", "gray23", "grey27",
    "gray27", "grey30", "gray30", "grey35", "gray35", "grey39", "gray39", "grey42", "gray42",
    "grey46", "gray46", "grey50", "gray50", "grey54", "gray54", "grey58", "gray58", "grey62",
    "gray62", "grey66", "gray66", "grey70", "gray70", "grey74", "gray74", "grey78", "gray78",
    "grey82", "gray82", "grey85", "gray85", "grey89", "gray89", "grey93", "gray93"]

def argumentOf? (name : String) (text : List Char) : Option (List Char) :=
  let argument := (text.drop (name.length + 1)).dropLast
  if text = name.toList ++ '(' :: argument ++ [')'] then some argument else none

-- Whether a text is a colour's number: at most three digits, from 0 to 255.
def isPaletteNumber (cs : List Char) : Bool :=
  !cs.isEmpty && cs.length ≤ 3 && cs.all isAsciiDigit &&
    ((Numeral.magnitude? cs).any fun n => n ≤ 255)

def isComponentChar (c : Char) : Bool := (digitValue? c).isSome || c == ',' || isBlank c

def component (cs : List Char) : Except Failure Int :=
  match Numeral.read? (.ofList cs) with
  | some n => .ok n
  | none => .error (.value (.numeral (.ofList cs)))

-- Whether the text holds the three components of a colour. A component that is no number is a
-- failure.
def holdsComponents (cs : List Char) : Except Failure Bool := do
  let parts := pieces ',' cs
  if cs.isEmpty || !cs.all isComponentChar || parts.length != 3 then return false
  return (← parts.mapM component).all (· ≤ 255)

def colorName? (word : String) : Except Failure (Option String) := do
  let name := lower word
  let cs := name.toList
  let isKnown := name = "default" ∨ name ∈ colorNames
  let isTriplet := cs.length = 7 ∧ cs.head? = some '#' ∧ (cs.drop 1).all isHexDigit
  let isNumbered := (argumentOf? "color" cs).any isPaletteNumber
  if isKnown ∨ isTriplet ∨ isNumbered then return some name
  match argumentOf? "rgb" cs with
  | none => return none
  | some components => return if ← holdsComponents components then some name else none

end CatalogSync.Terminal
