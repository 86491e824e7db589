/-!
# Strings of a document

A string of a JSON document is a sequence of characters and of UTF-16 code units that were written as numbers. A
character outside the basic plane is written as a pair of such units, and half a pair is no character; so units are kept
as they are until someone asks for the text. A document may hold a string that has no text, as long as nobody asks.
-/

namespace Bandwidth.Json

inductive Symbol where
  | char (character : Char)
  /-- A code unit that was written as a number. -/
  | unit (code : Nat)
  deriving DecidableEq, Repr

abbrev Text := List Symbol

namespace Text

def ofString (text : String) : Text := text.toList.map .char

/-- Whether a code unit is the first half of a pair. -/
def isLeading (code : Nat) : Bool := 0xD800 ≤ code && code ≤ 0xDBFF

/-- Whether a code unit is the second half of a pair. -/
def isTrailing (code : Nat) : Bool := 0xDC00 ≤ code && code ≤ 0xDFFF

/-- The characters of a string, unless it holds half a pair alone. -/
def characters? : Text → Option (List Char)
  | [] => some []
  | .char character :: rest => (characters? rest).map (character :: ·)
  | .unit leading :: .unit trailing :: rest =>
      if isLeading leading then
        if isTrailing trailing then
          (characters? rest).map (Char.ofNat (0x10000 + 1024 * (leading - 0xD800) + (trailing - 0xDC00)) :: ·)
        else
          none
      else if isTrailing leading then
        none
      else
        (characters? (.unit trailing :: rest)).map (Char.ofNat leading :: ·)
  | .unit code :: rest =>
      if isLeading code || isTrailing code then none
      else (characters? rest).map (Char.ofNat code :: ·)

def toString? (text : Text) : Option String :=
  text.characters?.map String.ofList

end Text

end Bandwidth.Json
