import DashboardKit.Console.Emoji
import DashboardKit.Console.Style

/-!
# Console: markup

Lines are printed with markup: a tag in square brackets opens a style, and a tag with a slash closes
one, which may be written in another way.  Text that is no markup is escaped with backslashes, and
emoji codes become emoji.  What counts here is the text without its tags, and the faults: a tag
that closes what was not opened, and a colour whose parts are no numbers.
-/

set_option autoImplicit false

namespace DashboardKit.Markup

/-- What is wrong with markup. -/
inductive Fault where
  /-- a closing tag while no such style is open -/
  | unmatched (tag : Text) (position : Nat)
  /-- a closing tag while no style at all is open -/
  | nothingOpen (position : Nat)
  /-- a colour in a tag cannot be read -/
  | color (fault : Color.PartFault)
  deriving DecidableEq, Repr

/-- Whether a code point can begin the inside of a tag. -/
def beginsTag (p : CodePoint) : Bool :=
  match p with
  | .scalar c => ('a' ≤ c && c ≤ 'z') || c == '#' || c == '/' || c == '@'
  | .surrogate _ => false

/-- The inside of the tag after an opening bracket, and what comes after the tag.  A tag holds no
opening bracket, and ends at the first closing one. -/
def tag? (t : Text) : Option (Text × Text) :=
  match t with
  | [] => none
  | p :: rest =>
    if beginsTag p then
      let inner := rest.takeWhile fun q => q ≠ .scalar '[' ∧ q ≠ .scalar ']'
      match rest.drop inner.length with
      | .scalar ']' :: after => some (p :: inner, after)
      | _ => none
    else none

/-- The number of backslashes at the front. -/
def backslashes (t : Text) : Nat := (t.takeWhile (· = .scalar '\\')).length

/-- The tag here with the backslashes in front of it: their number, the inside of the tag, and what
comes after it. -/
def escapedTag? (t : Text) : Option (Nat × Text × Text) :=
  let n := backslashes t
  match t.drop n with
  | .scalar '[' :: rest => (tag? rest).map fun (inner, after) => (n, inner, after)
  | _ => none

/-- A tag in its brackets. -/
def bracketed (inner : Text) : Text :=
  (.scalar '[' : CodePoint) :: (inner ++ [(.scalar ']' : CodePoint)])

/-! ## Escaping -/

/-- Puts a backslash in front of every tag, and doubles those that are there. -/
def escapeTags : (bound : Nat) → Text → Text
  | 0, t => t
  | _ + 1, [] => []
  | bound + 1, p :: t =>
    match escapedTag? (p :: t) with
    | some (n, inner, after) =>
      List.replicate (2 * n + 1) (.scalar '\\') ++ bracketed inner ++ escapeTags bound after
    | none => p :: escapeTags bound t

/-- A text as markup that shows it.  A single backslash at the end is doubled, so that it does not
escape a tag that follows. -/
def escape (t : Text) : Text :=
  let e := escapeTags t.length t
  match e.reverse with
  | .scalar '\\' :: .scalar '\\' :: _ => e
  | .scalar '\\' :: _ => e ++ [(.scalar '\\' : CodePoint)]
  | _ => e

/-! ## Showing -/

/-- A part of markup. -/
inductive Part where
  /-- text between tags -/
  | plain (t : Text)
  /-- text that was escaped -/
  | escaped (t : Text)
  /-- the inside of a tag and its position -/
  | tag (inner : Text) (position : Nat)
  deriving DecidableEq, Repr

/-- A code point in front of parts; text in front takes it up. -/
def consPlain (p : CodePoint) : List Part → List Part
  | .plain t :: rest => .plain (p :: t) :: rest
  | parts => .plain [p] :: parts

/-- The parts of markup of which `position` code points are behind. -/
def parts : (bound : Nat) → (position : Nat) → Text → List Part
  | 0, _, _ => []
  | _ + 1, _, [] => []
  | bound + 1, position, p :: t =>
    match escapedTag? (p :: t) with
    | some (n, inner, after) =>
      let next := position + n + inner.length + 2
      .escaped (List.replicate (n / 2) (.scalar '\\'))
        :: (if n % 2 = 1 then .escaped (bracketed inner) else .tag inner (position + n / 2 * 2))
        :: parts bound next after
    | none => consPlain p (parts bound (position + 1) t)

/-- Whether a code point is shown at all; the bell and moves of the cursor are not. -/
def isShown (p : CodePoint) : Bool := !List.contains [7, 8, 11, 12, 13] p.value

/-- The name that the style in a tag goes by. -/
def styleName (t : Text) : Except Fault Text := (Style.nameOf t).mapError .color

/-- The styles that are open after an opening or closing tag. -/
def openAfter (styles : List Text) (inner : Text) (position : Nat) : Except Fault (List Text) :=
  let name := inner.takeWhile (· ≠ .scalar '=')
  match name with
  | .scalar '/' :: closed =>
    if (Text.trim CodePoint.isBlank closed).isEmpty then
      match styles with
      | [] => .error (.nothingOpen position)
      | _ :: rest => .ok rest
    else
      match styleName closed with
      | .error e => .error e
      | .ok style =>
        if styles.contains style then .ok (styles.erase style)
        else .error (.unmatched (bracketed inner) position)
  | _ => (styleName name).map (· :: styles)

/-- The text that is shown for text without tags. -/
def shownText (t : Text) : Text := (Emoji.replaceCodes t).filter isShown

/-- The text of parts while the given styles are open, the last opened one first. -/
def shownParts (styles : List Text) : List Part → Except Fault Text
  | [] => .ok []
  | .plain t :: rest =>
    (shownParts styles rest).map (shownText (Text.replace "\\[" "[" t) ++ ·)
  | .escaped t :: rest => (shownParts styles rest).map (shownText t ++ ·)
  | .tag inner position :: rest =>
    match openAfter styles inner position with
    | .error e => .error e
    | .ok styles => shownParts styles rest

/-- The text that markup shows. -/
def shown (t : Text) : Except Fault Text :=
  if t.contains (.scalar '[') then shownParts [] (parts t.length 0 t)
  else .ok (shownText t)

/-- The wording of a fault. -/
def Fault.message : Fault → Text
  | .color .empty => "invalid literal for int() with base 10: ''"
  | .color (.digits count) => Text.ofChars (Decimal.limitMessage count)
  | .unmatched tag position =>
    ("closing tag '" : Text) ++ tag ++ ("' at position " : Text)
      ++ Text.ofChars (Decimal.digits position) ++ (" doesn't match any open tag" : Text)
  | .nothingOpen position =>
    ("closing tag '[/]' at position " : Text) ++ Text.ofChars (Decimal.digits position)
      ++ (" has nothing to close" : Text)

end DashboardKit.Markup
