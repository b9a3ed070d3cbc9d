import MonkeySyntax.Text.Input
import MonkeySyntax.TokenStream

/-!
# The interactive loop

A prompt is shown, a line is read and its tokens are listed, until the input ends.  Each line is a
text of its own.
-/

set_option autoImplicit false

namespace MonkeySyntax.Interactive

def defaultPrompt : String :=
  ">> "

def lineTokens (line : List Char) : List Token :=
  (Cursor.ofChars (Text.trimLineEnds line)).tokens.1

def reply (line : List Char) : String :=
  String.join
    (((lineTokens line).filter (fun token => token.kind ≠ .eof)).map
      (fun token => token.listing ++ "\n"))

/-- Everything that is written while the lines are read and the input then ends. -/
def transcript (prompt : String) (lines : List (List Char)) : String :=
  String.join (lines.map (fun line => prompt ++ reply line)) ++ prompt

def events (lines : List (List Char)) : List Event :=
  lines.flatMap (fun line => (lineTokens line).map Event.read)

/-- The transcript of a text whose lines end at line feeds only. -/
def transcriptOf (prompt input : String) : String :=
  transcript prompt (Text.splitLines input.toList)

end MonkeySyntax.Interactive
