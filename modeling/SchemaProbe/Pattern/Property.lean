import SchemaProbe.Pattern.Basic
import SchemaProbe.Text.Script

set_option autoImplicit false

namespace SchemaProbe.CharSet

def capital : CharSet := steps Category.capitals

def smallLetter : CharSet := steps Category.smallLetters

def titlecase : CharSet := ranges Category.titlecaseLetters

def modifierLetter : CharSet := ranges Category.modifierLetters

def letter : CharSet := ranges Category.letters

def mark : CharSet := ranges Category.marks

def nonspacing : CharSet := ranges Category.nonspacingMarks

def enclosing : CharSet := ranges Category.enclosingMarks

def number : CharSet := unionAll [decimalDigit, ranges Category.letterNumbers, ranges Category.otherNumbers]

def punctuation : CharSet :=
  unionAll ([Category.connectors, Category.dashes, Category.openers, Category.closers, Category.openingQuotes,
    Category.closingQuotes, Category.otherPunctuation].map ranges)

def symbol : CharSet :=
  unionAll ([Category.mathSymbols, Category.currencySymbols, Category.modifierSymbols,
    Category.otherSymbols].map ranges)

def lineSeparator : CharSet := single '\u2028'

def paragraphSeparator : CharSet := single '\u2029'

def separator : CharSet := unionAll [ranges Category.spaces, lineSeparator, paragraphSeparator]

-- Neither letters, marks, numbers, punctuation, symbols nor separators.
def other : CharSet := compl (unionAll [letter, mark, number, punctuation, symbol, separator])

def unassigned : CharSet :=
  diff other (unionAll ([Category.controls, Category.formats, Category.privateUse].map ranges))

def generalCategories : List (List String × CharSet) :=
  [(["any"], any), (["ascii"], range '\x00' '\x7f'), (["assigned"], compl unassigned),
   (["l", "letter"], letter), (["lc", "casedletter"], unionAll [capital, smallLetter, titlecase]),
   (["lu", "uppercaseletter"], capital), (["ll", "lowercaseletter"], smallLetter),
   (["lt", "titlecaseletter"], titlecase), (["lm", "modifierletter"], modifierLetter),
   (["lo", "otherletter"], diff letter (unionAll [capital, smallLetter, titlecase, modifierLetter])),
   (["m", "mark", "combiningmark"], mark), (["mn", "nonspacingmark"], nonspacing),
   (["mc", "spacingmark"], diff mark (union nonspacing enclosing)), (["me", "enclosingmark"], enclosing),
   (["n", "number"], number), (["nd", "decimalnumber", "digit"], decimalDigit),
   (["nl", "letternumber"], ranges Category.letterNumbers), (["no", "othernumber"], ranges Category.otherNumbers),
   (["p", "punctuation", "punct"], punctuation), (["pc", "connectorpunctuation"], ranges Category.connectors),
   (["pd", "dashpunctuation"], ranges Category.dashes), (["ps", "openpunctuation"], ranges Category.openers),
   (["pe", "closepunctuation"], ranges Category.closers), (["pi", "initialpunctuation"], ranges Category.openingQuotes),
   (["pf", "finalpunctuation"], ranges Category.closingQuotes),
   (["po", "otherpunctuation"], ranges Category.otherPunctuation),
   (["s", "symbol"], symbol), (["sm", "mathsymbol"], ranges Category.mathSymbols),
   (["sc", "currencysymbol"], ranges Category.currencySymbols),
   (["sk", "modifiersymbol"], ranges Category.modifierSymbols), (["so", "othersymbol"], ranges Category.otherSymbols),
   (["z", "separator"], separator), (["zs", "spaceseparator"], ranges Category.spaces),
   (["zl", "lineseparator"], lineSeparator), (["zp", "paragraphseparator"], paragraphSeparator),
   (["c", "other"], other), (["cc", "control", "cntrl"], ranges Category.controls),
   (["cf", "format"], ranges Category.formats), (["co", "privateuse"], ranges Category.privateUse),
   (["cn", "unassigned"], unassigned)]

def binaryProperties : List (List String × CharSet) :=
  [(["alphabetic", "alpha"],
     unionAll [letter, ranges Category.letterNumbers, ranges Category.enclosedLetters,
       diff mark (ranges Category.silentMarks)]),
   (["uppercase", "upper"], union capital (ranges Category.otherCapitals)),
   (["lowercase", "lower"], union smallLetter (ranges Category.otherSmallLetters)),
   (["whitespace", "wspace", "space"], blank)]

def namedIn? (sets : List (List String × CharSet)) (name : String) : Option CharSet :=
  (sets.find? fun s => s.1.contains name).map (·.2)

def ofScript? (name : String) : Option CharSet := (Script.ranges? name).map ranges

-- Names are the same in either case, with or without "is" before them and blanks, dashes and underscores between words.
def looseName (cs : List Char) : String :=
  let stem := match cs with
    | a :: b :: rest => if a.toLower = 'i' && b.toLower = 's' then rest else cs
    | _ => cs
  let name := String.ofList ((stem.filter fun c => !([' ', '-', '_'].contains c) && c.toNat < 0x80).map Char.toLower)
  -- This one is the name of a property, not of a category behind "is".
  if name = "c" && stem.length < cs.length then "isc" else name

def ofValue? (property value : List Char) : Option CharSet :=
  match looseName property with
  | "gc" | "generalcategory" => namedIn? generalCategories (looseName value)
  | "sc" | "script" => ofScript? (looseName value)
  | _ => none

def ofProperty? (cs : List Char) : Option CharSet :=
  match cs.span fun c => !(['!', '=', ':'].contains c) with
  | (_, []) =>
    let name := looseName cs
    (namedIn? (binaryProperties ++ generalCategories) name).or (ofScript? name)
  | (property, '!' :: '=' :: value) => (ofValue? property value).map compl
  | (property, '=' :: value) | (property, ':' :: value) => ofValue? property value
  | _ => none

end SchemaProbe.CharSet
