import MonkeySyntax.Proofs.TokenStream.Placement

/-!
# Positions behind another text

When a text is put behind another one, its positions move down by the lines of that text, and those
on its first line also move right by what stands on the last line of that text.
-/

set_option autoImplicit false

namespace MonkeySyntax

/-- The column of a position when `before` is put in front of its text. -/
def shiftedColumn (before : List Char) (line column : Int) : Int :=
  if line = 1 then column + (openLine before).length else column

def shiftedLine (before : List Char) (line : Int) : Int :=
  line + before.count '\n'

def Token.behind (before : List Char) (token : Token) : Token :=
  { token with
    line := shiftedLine before token.line
    column := shiftedColumn before token.line token.column }

def Location.behind (before : List Char) (location : Location) : Location :=
  { location with
    line := shiftedLine before location.line
    column := shiftedColumn before location.line location.column }

def Diagnostic.behind (before : List Char) (diagnostic : Diagnostic) : Diagnostic :=
  { diagnostic with location := diagnostic.location.behind before }

theorem Kind.reportedColumn_add (kind : Kind) (column more : Nat) :
    kind.reportedColumn (column + more) = kind.reportedColumn column + more := by
  unfold reportedColumn
  split
  · omega
  · omega

theorem Lexeme.tokenBehind_append (before chars : List Char) (lexeme : Lexeme) :
    lexeme.tokenBehind (before ++ chars) = (lexeme.tokenBehind chars).behind before := by
  have lines : ((1 + (before ++ chars).count '\n' : Nat) : Int)
      = shiftedLine before (1 + chars.count '\n' : Nat) := by
    rw [shiftedLine, List.count_append]
    omega
  have columns : lexeme.kind.reportedColumn (1 + (openLine (before ++ chars)).length)
      = shiftedColumn before (1 + chars.count '\n' : Nat)
          (lexeme.kind.reportedColumn (1 + (openLine chars).length)) := by
    rw [shiftedColumn, openLine_append]
    by_cases newline : '\n' ∈ chars
    · have below : ((1 + chars.count '\n' : Nat) : Int) ≠ 1 := by
        have positive := List.count_pos_iff.mpr newline
        omega
      rw [if_pos newline, if_neg below]
    · have first : ((1 + chars.count '\n' : Nat) : Int) = 1 := by
        rw [List.count_eq_zero.mpr newline]
        rfl
      have length : 1 + (openLine before ++ chars).length
          = 1 + chars.length + (openLine before).length := by
        rw [List.length_append]
        omega
      rw [if_neg newline, if_pos first, openLine_eq_self chars newline, length,
        Kind.reportedColumn_add]
  rw [tokenBehind, lines, columns]
  rfl

theorem tokensBehind_eq_map (before chars : List Char) (pieces : List Piece) :
    tokensBehind (before ++ chars) pieces
      = (tokensBehind chars pieces).map (Token.behind before) := by
  induction pieces generalizing chars with
  | nil => rfl
  | cons piece pieces ih =>
    rw [tokensBehind, tokensBehind, List.map_cons, List.append_assoc, List.append_assoc, ih,
      Lexeme.tokenBehind_append]

theorem tokensBehind_eq_map_behind (before : List Char) (pieces : List Piece) :
    tokensBehind before pieces = (tokensBehind [] pieces).map (Token.behind before) := by
  rw [← tokensBehind_eq_map, List.append_nil]

end MonkeySyntax
