import CssTheming.Text.Basic

/-!
# Literal colours

Which values stand for themselves as the value of a colour property: the named colours and the
general keywords, hexadecimal colours, references to variables, and colour functions. Names are
compared without regard to case.
-/

namespace CssTheming.Colour

/-- The keywords that every colour property takes. -/
def keywords : List Text :=
  ["currentcolor", "inherit", "initial", "unset", "revert", "transparent"]

/-- The named colours. -/
def names : List Text :=
  List.map String.toList
    ["aliceblue", "antiquewhite", "aqua", "aquamarine", "azure", "beige", "bisque", "black",
      "blanchedalmond", "blue", "blueviolet", "brown", "burlywood", "cadetblue", "chartreuse",
      "chocolate", "coral", "cornflowerblue", "cornsilk", "crimson", "cyan", "darkblue", "darkcyan",
      "darkgoldenrod", "darkgray", "darkgreen", "darkgrey", "darkkhaki", "darkmagenta",
      "darkolivegreen", "darkorange", "darkorchid", "darkred", "darksalmon", "darkseagreen",
      "darkslateblue", "darkslategray", "darkslategrey", "darkturquoise", "darkviolet", "deeppink",
      "deepskyblue", "dimgray", "dimgrey", "dodgerblue", "firebrick", "floralwhite", "forestgreen",
      "fuchsia", "gainsboro", "ghostwhite", "gold", "goldenrod", "gray", "green", "greenyellow",
      "grey", "honeydew", "hotpink", "indianred", "indigo", "ivory", "khaki", "lavender",
      "lavenderblush", "lawngreen", "lemonchiffon", "lightblue", "lightcoral", "lightcyan",
      "lightgoldenrodyellow", "lightgray", "lightgreen", "lightgrey", "lightpink", "lightsalmon",
      "lightseagreen", "lightskyblue", "lightslategray", "lightslategrey", "lightsteelblue",
      "lightyellow", "lime", "limegreen", "linen", "magenta", "maroon", "mediumaquamarine",
      "mediumblue", "mediumorchid", "mediumpurple", "mediumseagreen", "mediumslateblue",
      "mediumspringgreen", "mediumturquoise", "mediumvioletred", "midnightblue", "mintcream",
      "mistyrose", "moccasin", "navajowhite", "navy", "oldlace", "olive", "olivedrab", "orange",
      "orangered", "orchid", "palegoldenrod", "palegreen", "paleturquoise", "palevioletred",
      "papayawhip", "peachpuff", "peru", "pink", "plum", "powderblue", "purple", "rebeccapurple",
      "red", "rosybrown", "royalblue", "saddlebrown", "salmon", "sandybrown", "seagreen",
      "seashell", "sienna", "silver", "skyblue", "slateblue", "slategray", "slategrey", "snow",
      "springgreen", "steelblue", "tan", "teal", "thistle", "tomato", "turquoise", "violet",
      "wheat", "white", "whitesmoke", "yellow", "yellowgreen"]

/-- The functions that make a colour of their arguments. -/
def functions : List Text :=
  ["rgb", "rgba", "hsl", "hsla", "hwb", "lab", "lch", "oklab", "oklch", "color"]

/-- The lower-case form of a character as far as it is an ASCII letter. The Kelvin sign is a capital
    letter, and its small letter is the ordinary one. -/
def toLower (c : Char) : Char :=
  if c = '\u212A' then 'k' else c.toLower

/-- The ASCII letter that `c` is a form of, if it is one in any case. The long s counts as one
    too. -/
def foldCase (c : Char) : Char :=
  if c = '\u017F' then 's' else toLower c

/-- Whether `c` is a hexadecimal digit. -/
def isHexDigit (c : Char) : Bool :=
  c.isDigit || 'a' ≤ c && c ≤ 'f' || 'A' ≤ c && c ≤ 'F'

/-- A number sign and three, four, six or eight hexadecimal digits. -/
def isHex : Text → Bool
  | '#' :: digits => [3, 4, 6, 8].contains digits.length && digits.all isHexDigit
  | _ => false

/-- A keyword or a named colour. -/
def isName (t : Text) : Bool :=
  let lower := t.map toLower
  keywords.contains lower || names.contains lower

/-- A reference to a variable. Only its start is looked at. -/
def isReference (t : Text) : Bool :=
  List.isPrefixOf "var(" (t.map toLower)

/-- A colour function, an opening parenthesis, anything, and a closing parenthesis. -/
def isFunction (t : Text) : Bool :=
  let folded := t.map foldCase
  functions.any fun name =>
    match (name ++ ['(']).isPrefixOf? folded with
    | some arguments => arguments.getLast? == some ')'
    | none => false

/-- Whether a value, apart from blank space around it, is a literal colour. -/
def isLiteral (value : Text) : Bool :=
  let t := value.trim
  isName t || isReference t || isHex t || isFunction t

end CssTheming.Colour
