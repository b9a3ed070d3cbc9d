import MonkeySyntax.CommandLine.Run
import MonkeySyntax.Proofs.Token.Label
import MonkeySyntax.Proofs.TokenStream.Placement

/-!
# Listings of tokens

A listing shows the text of its token as it is, between labels that this text may imitate.  The kind
is read from the front, where no name holds a blank, and the numbers are read from behind; the text
is what is left.
-/

set_option autoImplicit false

namespace MonkeySyntax

open Text

/-! ## One token -/

namespace Token

theorem toList_listing (token : Token) :
    token.listing.toList
      = "\x7bType:".toList ++ (token.kind.name.toList ++ ' ' ::
          ("Literal:".toList
            ++ (((token.text.toList ++ " Line".toList ++ ':' :: (toString token.line).toList)
              ++ " Column".toList) ++ ':' :: ((toString token.column).toList ++ ['\x7d'])))) := by
  have pieces : token.listing
      = "\x7bType:" ++ token.kind.name ++ " Literal:" ++ token.text ++ " Line:"
          ++ toString token.line ++ " Column:" ++ toString token.column ++ "\x7d" := rfl
  simp [pieces]

theorem listing_inj {token other : Token} : token.listing = other.listing ↔ token = other := by
  refine ⟨fun same => ?_, congrArg listing⟩
  rw [← String.toList_inj, toList_listing, toList_listing] at same
  have blank : isLetter ' ' = false := by decide
  obtain ⟨names, behind⟩ := append_cons_inj (token.kind.not_mem_name blank)
    (other.kind.not_mem_name blank) (List.append_cancel_left same)
  have colon : ∀ number : Int, ':' ∉ (toString number).toList :=
    not_mem_toString_int (by decide) (by decide)
  have closed : ∀ number : Int, ':' ∉ (toString number).toList ++ ['\x7d'] := by
    intro number member
    rcases List.mem_append.mp member with digit | brace
    · exact colon number digit
    · exact absurd (List.mem_singleton.mp brace) (by decide)
  obtain ⟨front, columns⟩ :=
    append_cons_inj_right (closed _) (closed _) (List.append_cancel_left behind)
  obtain ⟨texts, lines⟩ :=
    append_cons_inj_right (colon _) (colon _) (List.append_cancel_right front)
  exact eq_of_parts (Kind.name_inj.mp (String.toList_inj.mp names))
    (String.toList_inj.mp (List.append_cancel_right texts))
    (toString_int_inj (String.toList_inj.mp lines))
    (toString_int_inj (String.toList_inj.mp (List.append_cancel_right columns)))

theorem newline_not_mem_listing {token : Token} (single : '\n' ∉ token.text.toList) :
    '\n' ∉ token.listing.toList := by
  have name : '\n' ∉ token.kind.name.toList := token.kind.not_mem_name (by decide)
  have numeral : ∀ number : Int, '\n' ∉ number.repr.toList :=
    not_mem_toString_int (by decide) (by decide)
  rw [toList_listing]
  simp [single, name, numeral]

end Token

/-! ## All tokens of a text -/

def Token.listingLine (token : Token) : String :=
  token.listing ++ "\n"

theorem toldApart_listingLine {token other : Token} (single : '\n' ∉ token.text.toList)
    (singleOther : '\n' ∉ other.text.toList) :
    ToldApart (fun token => token.listingLine.toList) token other := by
  intro rest more same
  simp only [Token.listingLine, String.toList_append, List.append_assoc] at same
  obtain ⟨listings, behind⟩ := append_cons_inj (Token.newline_not_mem_listing single)
    (Token.newline_not_mem_listing singleOther) same
  exact ⟨Token.listing_inj.mp (String.toList_inj.mp listings), behind⟩

theorem newline_not_mem_of_mem_tokenize {source : String} {token : Token}
    (member : token ∈ tokenize source) : '\n' ∉ token.text.toList := by
  obtain ⟨pieces, last, whole⟩ := exists_decomposition source.toList
  rw [whole.tokenize_eq] at member
  rcases List.mem_append.mp member with inside | ended
  · exact (form_of_mem_tokensBehind whole [] token inside).newline_not_mem
  · rw [List.mem_singleton.mp ended]
    simp [Lexeme.tokenBehind, Lexeme.ending]

theorem listingLines_inj {source other : String} :
    String.join ((tokenize source).map Token.listingLine)
        = String.join ((tokenize other).map Token.listingLine) ↔
      tokenize source = tokenize other := by
  refine ⟨fun same => ?_, fun same => by rw [same]⟩
  apply eq_of_join_eq _ _ same
  · simp [Token.listingLine]
  · intro token member otherToken present
    exact toldApart_listingLine (newline_not_mem_of_mem_tokenize member)
      (newline_not_mem_of_mem_tokenize present)

/-- A listing tells its token whatever the token is, and the lines written for a text tell all of
its tokens, because none of them breaks a line. -/
theorem listings_tell_tokens :
    (∀ token other : Token, token.listing = other.listing ↔ token = other) ∧
      (∀ source, ∀ token ∈ tokenize source, '\n' ∉ token.text.toList) ∧
      (∀ level file source,
        (CommandLine.tokenizeText level false file source).stdout
          = String.join ((tokenize source).map Token.listingLine)) ∧
      ∀ level otherLevel file otherFile source other,
        (CommandLine.tokenizeText level false file source).stdout
            = (CommandLine.tokenizeText otherLevel false otherFile other).stdout ↔
          tokenize source = tokenize other :=
  ⟨fun _ _ => Token.listing_inj, fun _ _ => newline_not_mem_of_mem_tokenize,
    fun _ _ _ => rfl, fun _ _ _ _ _ _ => listingLines_inj⟩

end MonkeySyntax
