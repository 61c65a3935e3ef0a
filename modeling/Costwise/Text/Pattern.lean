/-!
# Text Patterns

The shapes that a text is searched for: characters of a class, repetition of a
class, alternatives, and conditions on the two characters around a place. That
is all the signals need. Every condition looks at one character on each side,
so a place in a text is the character before it and the text after it, and
nothing else can influence a match.

A pattern is run by listing every place where a match that starts here can
end. No order or greed is involved: whether a text holds a match does not
depend on which match is preferred.

## Main definitions

* `Place`: A place in a text.
* `Pattern`: What to look for.
* `Pattern.ends`: Where a match starting at a place can end.
* `Pattern.occursIn`: Whether a text holds a match.
-/

namespace Costwise

namespace Text

/-- A place in a text: the character before it, if any, and the text after it. -/
structure Place where
  /-- The character before. -/
  before : Option Char
  /-- The text after. -/
  rest : List Char
  deriving DecidableEq, Repr

/-- What to look for in a text. -/
inductive Pattern where
  /-- Nothing, which is found everywhere. -/
  | empty
  /-- One character of a class. -/
  | one (accepts : Char → Bool)
  /-- Any number of characters of a class, none included. -/
  | many (accepts : Char → Bool)
  /-- No character, at a place where the characters before and after agree with a condition. -/
  | edge (holds : Option Char → Option Char → Bool)
  /-- The first, then the second. -/
  | seq (first second : Pattern)
  /-- The first or the second. -/
  | alt (left right : Pattern)

namespace Pattern

/-- The places reached from here through characters of a class. -/
def reach (accepts : Char → Bool) (before : Option Char) : List Char → List Place
  | [] => [⟨before, []⟩]
  | c :: rest =>
    ⟨before, c :: rest⟩ :: if accepts c then reach accepts (some c) rest else []

/-- The places where a match that starts here can end. -/
def ends : Pattern → Place → List Place
  | empty, place => [place]
  | one _, ⟨_, []⟩ => []
  | one accepts, ⟨_, c :: rest⟩ => if accepts c then [⟨some c, rest⟩] else []
  | many accepts, place => reach accepts place.before place.rest
  | edge holds, place => if holds place.before place.rest.head? then [place] else []
  | seq first second, place => (first.ends place).flatMap second.ends
  | alt left right, place => left.ends place ++ right.ends place

/-- Whether a match starts here or later. -/
def occursFrom (pattern : Pattern) (before : Option Char) : List Char → Bool
  | [] => !(pattern.ends ⟨before, []⟩).isEmpty
  | c :: rest => !(pattern.ends ⟨before, c :: rest⟩).isEmpty || occursFrom pattern (some c) rest

/-- Whether a text holds a match. -/
def occursIn (pattern : Pattern) (text : List Char) : Bool :=
  pattern.occursFrom none text

/-- The patterns one after the other. -/
def sequence (patterns : List Pattern) : Pattern :=
  patterns.foldr seq empty

/-- One of several patterns, which is never found if there are none. -/
def choice (patterns : List Pattern) : Pattern :=
  patterns.foldr alt (one fun _ => false)

/-- One given character. -/
def char (c : Char) : Pattern :=
  one (· == c)

/-- One of the given characters. -/
def among (cs : String) : Pattern :=
  one cs.toList.contains

/-- A given text. -/
def literal (text : String) : Pattern :=
  sequence (text.toList.map char)

/-- The pattern, or nothing. -/
def optional (pattern : Pattern) : Pattern :=
  alt pattern empty

/-- One or more characters of a class. -/
def oneOrMore (accepts : Char → Bool) : Pattern :=
  seq (one accepts) (many accepts)

/-- A place that does not follow a character of the class. -/
def notAfter (refuses : Char → Bool) : Pattern :=
  edge fun before _ => !before.any refuses

/-- A place that no character of the class follows. -/
def notBefore (refuses : Char → Bool) : Pattern :=
  edge fun _ next => !next.any refuses

/-- A place where a word of the class begins or ends. -/
def boundary (isWord : Char → Bool) : Pattern :=
  edge fun before next => before.any isWord != next.any isWord

end Pattern

end Text

end Costwise
