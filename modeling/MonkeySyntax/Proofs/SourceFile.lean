import MonkeySyntax.FileTree.Source
import MonkeySyntax.Proofs.Text.Utf8
import MonkeySyntax.Proofs.TokenStream.LineEnds
import MonkeySyntax.Proofs.Unplaced

/-!
# Reading a text from a file

A text that was stored comes back with its line ends unified.  Carriage returns that stand alone end
lines in a file and nowhere else.
-/

set_option autoImplicit false

namespace MonkeySyntax

theorem SourceFile.textOf_encode (text : List Char) :
    textOf (Text.Utf8.encode text) = .ok (String.ofList (Text.unifyLineEnds text)) := by
  rw [textOf, Text.Utf8.decode_encode]

namespace FileTree

structure Stores (tree : FileTree) (path source : String) : Prop where
  nullFree : '\x00' ∉ path.toList
  opened : tree.openFile path = .ok (Text.Utf8.encode source.toList)

theorem Stores.readSource_eq {tree : FileTree} {path source : String}
    (stored : tree.Stores path source) :
    tree.readSource path = .ok (String.ofList (Text.unifyLineEnds source.toList)) := by
  rw [readSource, stored.opened]
  simp only [SourceFile.read, if_neg stored.nullFree, SourceFile.textOf_encode]

theorem splitOn_slash_of_letter {name : String} (letter : name = "a" ∨ name = "b") :
    name.splitOn "/" = [name] := by
  rcases letter with rfl | rfl
  · rw [String.splitOn, if_neg (by decide), String.splitOnAux, if_neg (by decide),
      if_neg (by decide), String.splitOnAux, if_pos (by decide)]
    rfl
  · rw [String.splitOn, if_neg (by decide), String.splitOnAux, if_neg (by decide),
      if_neg (by decide), String.splitOnAux, if_pos (by decide)]
    rfl

theorem openFile_alone (bytes : List UInt8) :
    openFile ⟨[(["a"], .file bytes)]⟩ "a" = .ok bytes ∧
      openFile ⟨[(["a"], .file bytes)]⟩ "b" = .error .missing := by
  have relative : "a".startsWith "/" = false ∧ "b".startsWith "/" = false := by decide +kernel
  refine ⟨?_, ?_⟩
  · rw [openFile, if_neg (by decide), if_neg (by decide), splitOn_slash_of_letter (.inl rfl),
      relative.1]
    rfl
  · rw [openFile, if_neg (by decide), if_neg (by decide), splitOn_slash_of_letter (.inr rfl),
      relative.2]
    rfl

end FileTree

end MonkeySyntax
