/-!
# Laying a grammar out over lines

The layout is textual: three substitutions, one after another, put a line break after each opening
brace, before each closing brace and after each comma that a blank follows. They do not look at
what a brace or comma belongs to.
-/

namespace SchemaGrammar

/-- Breaks the line after each opening brace and indents what follows. -/
def breakAfterOpening (text : List Char) : List Char :=
  text.flatMap fun c => if c = '\x7b' then ['\x7b', '\n', ' ', ' '] else [c]

/-- Breaks the line before each closing brace. -/
def breakBeforeClosing (text : List Char) : List Char :=
  text.flatMap fun c => if c = '\x7d' then ['\n', '\x7d'] else [c]

/-- Breaks the line after each comma that a blank follows; two blanks replace the one. -/
def breakAfterComma : List Char → List Char
  | [] => []
  | ',' :: ' ' :: text => ',' :: '\n' :: ' ' :: ' ' :: breakAfterComma text
  | c :: text => c :: breakAfterComma text

/-- The text laid out over lines, as characters. -/
def layoutChars (text : List Char) : List Char :=
  breakAfterComma (breakBeforeClosing (breakAfterOpening text))

/-- A grammar text laid out over lines. -/
def layout (grammar : String) : String := String.ofList (layoutChars grammar.toList)

end SchemaGrammar
