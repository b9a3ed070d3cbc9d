import MonkeySyntax.Proofs.Node.Layout
import MonkeySyntax.Proofs.Text.Escapes

/-!
# Labels and anchors

Both can be read back: names and numerals hold none of the marks that end them, and a quoted text is
told apart by itself.
-/

set_option autoImplicit false

namespace MonkeySyntax

open Text

/-! ## Names of kinds -/

namespace Kind

theorem ofName?_name (kind : Kind) : ofName? kind.name = some kind := by
  cases kind <;> rfl

theorem name_inj {kind other : Kind} : kind.name = other.name ↔ kind = other := by
  refine ⟨fun same => ?_, congrArg name⟩
  have read := congrArg ofName? same
  rw [ofName?_name, ofName?_name] at read
  exact Option.some.inj read

theorem isLetter_of_mem_name (kind : Kind) : ∀ c ∈ kind.name.toList, isLetter c = true := by
  have checked : ∀ kind ∈ all, kind.name.toList.all isLetter = true := by decide +kernel
  exact List.all_eq_true.mp (checked kind kind.mem_all)

theorem not_mem_name (kind : Kind) {stop : Char} (noLetter : isLetter stop = false) :
    stop ∉ kind.name.toList := by
  intro member
  rw [kind.isLetter_of_mem_name stop member] at noLetter
  contradiction

theorem allPrintable_name (kind : Kind) : AllPrintable kind.name := by
  have checked : ∀ kind ∈ all, AllPrintable kind.name := by decide +kernel
  exact checked kind kind.mem_all

end Kind

/-! ## Labels -/

namespace Token

theorem eq_of_parts {token other : Token} (kinds : token.kind = other.kind)
    (texts : token.text = other.text) (lines : token.line = other.line)
    (columns : token.column = other.column) : token = other := by
  obtain ⟨kind, text, line, column⟩ := token
  obtain ⟨rfl, rfl, rfl, rfl⟩ := And.intro kinds (And.intro texts (And.intro lines columns))
  rfl

theorem toList_label (token : Token) :
    token.label.toList = token.kind.name.toList ++ '(' :: ((quoted token.text).toList ++ [')']) := by
  have pieces : token.label = token.kind.name ++ "(" ++ quoted token.text ++ ")" := rfl
  simp [pieces]

theorem label_inj {token other : Token} :
    token.label = other.label ↔ token.kind = other.kind ∧ token.text = other.text := by
  constructor
  · intro same
    rw [← String.toList_inj, toList_label, toList_label] at same
    have bracket : isLetter '(' = false := by decide
    obtain ⟨names, behind⟩ :=
      append_cons_inj (token.kind.not_mem_name bracket) (other.kind.not_mem_name bracket) same
    exact ⟨Kind.name_inj.mp (String.toList_inj.mp names),
      quoted_inj.mp (String.toList_inj.mp (List.append_cancel_right behind))⟩
  · rintro ⟨kinds, texts⟩
    rw [label, label, kinds, texts]

theorem allPrintable_label (token : Token) : AllPrintable token.label := by
  have brackets : AllPrintable "(" ∧ AllPrintable ")" := by decide
  exact ((token.kind.allPrintable_name.append brackets.1).append
    (allPrintable_quoted token.text)).append brackets.2

end Token

/-! ## Anchors -/

namespace Printer

/-- How the header of a node ends: a quoted text and the place of the anchor. -/
def anchored (text : String) (anchor : Token) : String :=
  quoted text ++ " " ++ place anchor

def anchorText (anchor : Token) : String :=
  anchored anchor.text anchor

theorem header_letStatement (anchor : Token) (name : Node) (value? : Option Node) :
    header (.letStatement anchor name value?) = "LetStatement " ++ anchorText anchor := by
  have pieces : header (.letStatement anchor name value?)
      = "LetStatement " ++ quoted anchor.text ++ " " ++ place anchor := rfl
  simp only [pieces, anchorText, anchored, String.append_assoc]

theorem header_returnStatement (anchor : Token) (value? : Option Node) :
    header (.returnStatement anchor value?) = "ReturnStatement " ++ anchorText anchor := by
  have pieces : header (.returnStatement anchor value?)
      = "ReturnStatement " ++ quoted anchor.text ++ " " ++ place anchor := rfl
  simp only [pieces, anchorText, anchored, String.append_assoc]

theorem header_identifier (anchor : Token) (value : String) :
    header (.identifier anchor value) = "Identifier " ++ anchored value anchor := by
  have pieces : header (.identifier anchor value)
      = "Identifier " ++ quoted value ++ " " ++ place anchor := rfl
  simp only [pieces, anchored, String.append_assoc]

theorem toList_anchored (text : String) (anchor : Token) :
    (anchored text anchor).toList
      = ((quoted text).toList ++ [' '] ++ '@' :: (toString anchor.line).toList)
          ++ ':' :: (toString anchor.column).toList := by
  have pieces : place anchor
      = "@" ++ toString anchor.line ++ ":" ++ toString anchor.column := rfl
  simp [anchored, pieces]

theorem anchored_inj {text other : String} {anchor anchor' : Token} :
    anchored text anchor = anchored other anchor' ↔
      text = other ∧ anchor.line = anchor'.line ∧ anchor.column = anchor'.column := by
  constructor
  · intro same
    have colon : ∀ number : Int, ':' ∉ (toString number).toList :=
      not_mem_toString_int (by decide) (by decide)
    have sign : ∀ number : Int, '@' ∉ (toString number).toList :=
      not_mem_toString_int (by decide) (by decide)
    -- The quoted text may hold both marks, so the numbers are taken off from behind.
    rw [← String.toList_inj, toList_anchored, toList_anchored] at same
    obtain ⟨front, columns⟩ := append_cons_inj_right (colon _) (colon _) same
    obtain ⟨texts, lines⟩ := append_cons_inj_right (sign _) (sign _) front
    exact ⟨quoted_inj.mp (String.toList_inj.mp (List.append_cancel_right texts)),
      toString_int_inj (String.toList_inj.mp lines), toString_int_inj (String.toList_inj.mp columns)⟩
  · rintro ⟨rfl, lines, columns⟩
    rw [anchored, anchored, place, place, lines, columns]

theorem allPrintable_anchored (text : String) (anchor : Token) :
    AllPrintable (anchored text anchor) := by
  have blank : AllPrintable " " := by decide
  exact ((allPrintable_quoted text).append blank).append (allPrintable_place anchor)

end Printer

/-- The text is on one line, and every character of it is visible. -/
structure Text.OnOneLine (text : String) : Prop where
  printable : AllPrintable text
  unbroken : ∀ c ∈ lineBreaks, c ∉ text.toList

theorem Text.AllPrintable.onOneLine {text : String} (shown : AllPrintable text) : OnOneLine text :=
  ⟨shown, shown.not_mem_of_lineBreak⟩

/-- A label tells the kind and the text of its token, and an anchor the text, the line and the
column, whatever the text is; and each of them is one line. -/
theorem labels_and_anchors_readable :
    (∀ token other : Token,
        token.label = other.label ↔ token.kind = other.kind ∧ token.text = other.text) ∧
      (∀ token : Token, OnOneLine token.label) ∧
      (∀ anchor name value?,
        Printer.header (.letStatement anchor name value?)
            = "LetStatement " ++ Printer.anchorText anchor ∧
          Printer.header (.returnStatement anchor value?)
            = "ReturnStatement " ++ Printer.anchorText anchor) ∧
      (∀ token other : Token,
        Printer.anchorText token = Printer.anchorText other ↔
          token.text = other.text ∧ token.line = other.line ∧ token.column = other.column) ∧
      ∀ token : Token, OnOneLine (Printer.anchorText token) := by
  refine ⟨fun _ _ => Token.label_inj, ?_, ?_, fun _ _ => Printer.anchored_inj, ?_⟩
  · exact fun token => token.allPrintable_label.onOneLine
  · intro anchor name value?
    exact ⟨Printer.header_letStatement anchor name value?,
      Printer.header_returnStatement anchor value?⟩
  · exact fun token => (Printer.allPrintable_anchored token.text token).onOneLine

end MonkeySyntax
