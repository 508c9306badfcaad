import FenceLint.Markup.Fault
import FenceLint.Text.Blank
import FenceLint.Text.Case
import FenceLint.Text.Integer
import FenceLint.Text.Lines

/-!
# Names of styles

A style is named by words: attributes to switch on, attributes to switch off after `not`, a colour,
a background colour after `on`, and an address after `link`.  Names with the same meaning have the
same normal form, so that `[b red]` is closed by `[/red bold]`.  A name in which a word means
nothing has no meaning, and its normal form is the name in lower case.
-/

namespace FenceLint.Markup.StyleName

/-- The attributes, in the order in which a normal form lists them. -/
def attributes : List String :=
  ["bold", "dim", "italic", "underline", "blink", "blink2", "reverse", "conceal", "strike",
   "underline2", "frame", "encircle", "overline"]

/-- Short names of attributes. -/
def shortNames : List (String × String) :=
  [("b", "bold"), ("d", "dim"), ("i", "italic"), ("u", "underline"), ("r", "reverse"),
   ("c", "conceal"), ("s", "strike"), ("uu", "underline2"), ("o", "overline")]

/-- The attribute that a word names. -/
def attribute? (word : String) : Option String :=
  if attributes.contains word then some word else shortNames.lookup word

/-! ## Colours -/

/-- The colours with a name of their own, shades of grey aside. -/
def colorNames : List String :=
  ["black", "red", "green", "yellow", "blue", "magenta", "cyan", "white", "bright_black",
   "bright_red", "bright_green", "bright_yellow", "bright_blue", "bright_magenta", "bright_cyan",
   "bright_white", "navy_blue", "dark_blue", "blue3", "blue1", "dark_green", "deep_sky_blue4",
   "dodger_blue3", "dodger_blue2", "green4", "spring_green4", "turquoise4", "deep_sky_blue3",
   "dodger_blue1", "green3", "spring_green3", "dark_cyan", "light_sea_green", "deep_sky_blue2",
   "deep_sky_blue1", "spring_green2", "cyan3", "dark_turquoise", "turquoise2", "green1",
   "spring_green1", "medium_spring_green", "cyan2", "cyan1", "dark_red", "deep_pink4", "purple4",
   "purple3", "blue_violet", "orange4", "medium_purple4", "slate_blue3", "royal_blue1",
   "chartreuse4", "dark_sea_green4", "pale_turquoise4", "steel_blue", "steel_blue3",
   "cornflower_blue", "chartreuse3", "cadet_blue", "sky_blue3", "steel_blue1", "pale_green3",
   "sea_green3", "aquamarine3", "medium_turquoise", "chartreuse2", "sea_green2", "sea_green1",
   "aquamarine1", "dark_slate_gray2", "dark_magenta", "dark_violet", "purple", "light_pink4",
   "plum4", "medium_purple3", "slate_blue1", "yellow4", "wheat4", "light_slate_grey",
   "light_slate_gray", "medium_purple", "light_slate_blue", "dark_olive_green3", "dark_sea_green",
   "light_sky_blue3", "sky_blue2", "dark_sea_green3", "dark_slate_gray3", "sky_blue1",
   "chartreuse1", "light_green", "pale_green1", "dark_slate_gray1", "red3", "medium_violet_red",
   "magenta3", "dark_orange3", "indian_red", "hot_pink3", "medium_orchid3", "medium_orchid",
   "medium_purple2", "dark_goldenrod", "light_salmon3", "rosy_brown", "medium_purple1", "gold3",
   "dark_khaki", "navajo_white3", "light_steel_blue3", "light_steel_blue", "yellow3",
   "dark_sea_green2", "light_cyan3", "light_sky_blue1", "green_yellow", "dark_olive_green2",
   "dark_sea_green1", "pale_turquoise1", "deep_pink3", "magenta2", "hot_pink2", "orchid",
   "medium_orchid1", "orange3", "light_pink3", "pink3", "plum3", "violet", "light_goldenrod3",
   "tan", "misty_rose3", "thistle3", "plum2", "khaki3", "light_goldenrod2", "light_yellow3",
   "light_steel_blue1", "yellow2", "dark_olive_green1", "honeydew2", "light_cyan1", "red1",
   "deep_pink2", "deep_pink1", "magenta1", "orange_red1", "indian_red1", "hot_pink",
   "dark_orange", "salmon1", "light_coral", "pale_violet_red1", "orchid2", "orchid1", "orange1",
   "sandy_brown", "light_salmon1", "light_pink1", "pink1", "plum1", "gold1", "navajo_white1",
   "misty_rose1", "thistle1", "yellow1", "light_goldenrod1", "khaki1", "wheat1", "cornsilk1"]

/-- The percentages of white in the shades of grey that have a name. -/
def greys : List Nat :=
  [0, 3, 7, 11, 15, 19, 23, 27, 30, 35, 37, 39, 42, 46, 50, 53, 54, 58, 62, 63, 66, 69, 70, 74, 78,
   82, 84, 85, 89, 93, 100]

/-- The word names a shade of grey, in either spelling. -/
def isGrey (word : String) : Bool :=
  greys.any fun n => word == "grey" ++ toString n || word == "gray" ++ toString n

/-- What stands between an opening text and a closing parenthesis. -/
def argument? (opening : String) (word : List Char) : Option (List Char) :=
  if opening.toList.isPrefixOf word && word.getLast? == some ')' then
    some (word.drop opening.length).dropLast
  else none

/-- A colour by its six hexadecimal digits. -/
def isHexColor (word : List Char) : Bool :=
  match word with
  | '#' :: cs => cs.length == 6 && cs.all fun c => c.isDigit || ('a' ≤ c && c ≤ 'f')
  | _ => false

/-- A colour by its number. -/
def isNumberedColor (word : List Char) : Bool :=
  match argument? "color(" word with
  | some cs => 1 ≤ cs.length && cs.length ≤ 3 && cs.all Char.isDigit && Text.digitsValue cs ≤ 255
  | none => false

/-- A colour by its components, none of which may be empty if there are three of them. -/
def isMixedColor (word : List Char) : Except Fault Bool :=
  match argument? "rgb(" word with
  | none => .ok false
  | some cs =>
    if cs.isEmpty || !cs.all (fun c => c.isDigit || c == ',') then .ok false
    else
      let components := Text.cutAt ',' cs
      if components.length != 3 then .ok false
      else if components.any (·.isEmpty) then .error .emptyComponent
      else .ok (components.all fun c => Text.digitsValue c ≤ 255)

/-- A word in lower case names a colour. -/
def isColor (word : String) : Except Fault Bool :=
  if word == "default" || colorNames.contains word || isGrey word || isHexColor word.toList ||
      isNumberedColor word.toList then .ok true
  else isMixedColor word.toList

/-! ## Meanings -/

/-- What the words of a name say. -/
structure Meaning where
  /-- The attributes that are switched on or off, the last switch of each first. -/
  switches : List (String × Bool) := []
  /-- The colour. -/
  color : Option String := none
  /-- The colour of the background. -/
  background : Option String := none
  /-- The address that is linked to. -/
  link : Option String := none
deriving Repr, DecidableEq, Inhabited

/-- The normal form of a meaning. -/
def Meaning.text (m : Meaning) : String :=
  let switched := attributes.flatMap fun a =>
    match m.switches.lookup a with
    | some true => [a]
    | some false => ["not", a]
    | none => []
  let words := switched ++ m.color.toList ++
    (match m.background with | some c => ["on", c] | none => []) ++
    (match m.link with | some l => ["link", l] | none => [])
  if words.isEmpty then "none" else String.intercalate " " words

/-- What more words say; nothing if one of them means nothing. -/
def read : Meaning → List String → Except Fault (Option Meaning)
  | m, [] => .ok (some m)
  | m, word :: rest =>
    let lower := Text.lower word
    if lower == "on" then
      match rest with
      | [] => .ok none
      | color :: rest =>
        (isColor (Text.lower color)).bind fun known =>
          if known then read { m with background := some (Text.lower color) } rest else .ok none
    else if lower == "not" then
      match rest with
      | [] => .ok none
      | name :: rest =>
        match attribute? name with
        | some a => read { m with switches := (a, false) :: m.switches } rest
        | none => .ok none
    else if lower == "link" then
      match rest with
      | [] => .ok none
      | address :: rest => read { m with link := some address } rest
    else
      match attribute? lower with
      | some a => read { m with switches := (a, true) :: m.switches } rest
      | none =>
        (isColor lower).bind fun known =>
          if known then read { m with color := some lower } rest else .ok none

/-- The words of a text between blanks. -/
def wordsOf (s : String) : List String :=
  ((s.toList.splitBy fun a b => Text.isBlank a == Text.isBlank b).filter fun w =>
    !w.all Text.isBlank).map String.ofList

/-- The normal form of a name. -/
def normalize (name : String) : Except Fault String :=
  if Text.strip name == "none" then .ok "none"
  else
    (read {} (wordsOf name)).map fun
      | some m => m.text
      | none => Text.lower (Text.strip name)

end FenceLint.Markup.StyleName
