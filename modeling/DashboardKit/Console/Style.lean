import DashboardKit.Console.Color

/-!
# Console: styles

A style is written as words in any order: effects that are on or, behind `not`, off, a colour, a
background behind `on` and a link.  The same style has the same text however it was written; words
that make no style go by themselves.  Main statement: `text_ofEffect`, a single effect goes by its
name.
-/

set_option autoImplicit false

namespace DashboardKit

/-- What text can be shown with besides colours, in the order in which a style tells them. -/
inductive Effect where
  | bold
  | dim
  | italic
  | underline
  | blink
  | blinkFast
  | reverse
  | conceal
  | strike
  | underlineTwice
  | frame
  | encircle
  | overline
  deriving DecidableEq, Repr

namespace Effect

/-- All effects in order. -/
def all : List Effect :=
  [bold, dim, italic, underline, blink, blinkFast, reverse, conceal, strike, underlineTwice, frame,
    encircle, overline]

/-- The words for an effect; it goes by the first. -/
def words : Effect → List Text
  | bold => ["bold", "b"]
  | dim => ["dim", "d"]
  | italic => ["italic", "i"]
  | underline => ["underline", "u"]
  | blink => ["blink"]
  | blinkFast => ["blink2"]
  | reverse => ["reverse", "r"]
  | conceal => ["conceal", "c"]
  | strike => ["strike", "s"]
  | underlineTwice => ["underline2", "uu"]
  | frame => ["frame"]
  | encircle => ["encircle"]
  | overline => ["overline", "o"]

/-- The effect that a word stands for. -/
def ofWord? (word : Text) : Option Effect := all.find? fun e => e.words.contains word

/-- The name of an effect. -/
def name (e : Effect) : Text := e.words.headD []

/-- Every effect is among all. -/
theorem mem_all (e : Effect) : e ∈ all := by cases e <;> decide

/-- No word stands for two effects. -/
theorem ofWord?_of_mem {e : Effect} {w : Text} (h : w ∈ e.words) : ofWord? w = some e := by
  have hall : ∀ e ∈ all, ∀ w ∈ e.words, ofWord? w = some e := by decide +kernel
  exact hall e (mem_all e) w h

end Effect

/-- How text is shown. -/
structure Style where
  /-- which effects are on or off, the last one said first -/
  effects : List (Effect × Bool)
  color : Option Text
  background : Option Text
  link : Option Text
  deriving DecidableEq, Repr

namespace Style

/-- The style that changes nothing. -/
def plain : Style := ⟨[], none, none, none⟩

/-- The words that tell a style. -/
def toWords (s : Style) : List Text :=
  let effect (e : Effect) : List Text :=
    match s.effects.lookup e with
    | some true => [e.name]
    | some false => ["not", e.name]
    | none => []
  let behind (word : Text) (value : Option Text) : List Text :=
    match value with
    | some t => [word, t]
    | none => []
  Effect.all.flatMap effect ++ s.color.toList ++ behind "on" s.background ++ behind "link" s.link

/-- The text of a style. -/
def text (s : Style) : Text :=
  match s.toWords with
  | [] => "none"
  | ws => Text.join " " ws

/-- An effect alone goes by its name. -/
theorem text_ofEffect (e : Effect) :
    ({ plain with effects := [(e, true)] } : Style).text = e.name := by
  cases e <;> decide +kernel

/-- Reads the words of a style onto one; `none` if they make no style.  The word behind `not` has to
be in lower case, as no other. -/
def read? (s : Style) : List Text → Except Color.PartFault (Option Style)
  | [] => .ok (some s)
  | word :: rest =>
    if Text.lower word = "on" then
      match rest with
      | [] => .ok none
      | color :: rest =>
        match Color.read? color with
        | .error e => .error e
        | .ok none => .ok none
        | .ok (some c) => read? { s with background := some c } rest
    else if Text.lower word = "not" then
      match rest with
      | [] => .ok none
      | effect :: rest =>
        match Effect.ofWord? effect with
        | none => .ok none
        | some e => read? { s with effects := (e, false) :: s.effects } rest
    else if Text.lower word = "link" then
      match rest with
      | [] => .ok none
      | url :: rest => read? { s with link := some url } rest
    else
      match Effect.ofWord? (Text.lower word) with
      | some e => read? { s with effects := (e, true) :: s.effects } rest
      | none =>
        match Color.read? word with
        | .error e => .error e
        | .ok none => .ok none
        | .ok (some c) => read? { s with color := some c } rest

/-- The words of a text, which blanks part. -/
def wordsOf (t : Text) : List Text :=
  (Text.splitOn ' ' (t.map fun p => if p.isBlank then .scalar ' ' else p)).filter (!·.isEmpty)

/-- The name that the style told by a text goes by. -/
def nameOf (t : Text) : Except Color.PartFault Text :=
  (read? plain (wordsOf t)).map fun
    | some s => s.text
    | none => Text.lower (Text.trim CodePoint.isBlank t)

end Style

end DashboardKit
