import Bandwidth.Display.ControlSequence

/-!
# Styles

On a terminal some parts of the output stand out. What stands out is an emphasis; which control sequence it takes is
decided here, and only if the output is styled at all.
-/

namespace Bandwidth

inductive Emphasis where
  | title
  | heading
  | bright
  | faint
  | warning
  | alarm
  deriving DecidableEq, Repr

/-- The parameters of the control sequence that starts an emphasis. -/
def Emphasis.parameters : Emphasis → String
  | title => "1;96"
  | heading => "1"
  | bright => "97"
  | faint => "2"
  | warning => "33"
  | alarm => "1;31"

inductive Style where
  | plain
  | colored
  deriving DecidableEq, Repr

namespace Style

/-- A control sequence that changes how text is shown. -/
def sequence (parameters : String) : String :=
  String.ofList [Display.escapeCharacter, '['] ++ parameters ++ "m"

/-- A text that stands out. Where the text resets the style by itself, its emphasis starts anew. -/
def paint (style : Style) (emphasis : Emphasis) (text : String) : String :=
  match style with
  | plain => text
  | colored =>
      let start := sequence emphasis.parameters
      let reset := sequence "0"
      start ++ text.replace reset (reset ++ start) ++ reset

/-- What is left of a text for a terminal on an output of this style. -/
def render (style : Style) (text : String) : String :=
  match style with
  | plain => Display.withoutControls text
  | colored => text

end Style

end Bandwidth
