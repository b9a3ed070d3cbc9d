import MonkeySyntax.Cursor.Session
import MonkeySyntax.Node.Walk
import MonkeySyntax.Parser.Session
import MonkeySyntax.Main
import MonkeySyntax.Proofs.Parser.Resynchronization
import MonkeySyntax.Proofs.Parser.Resumption
import MonkeySyntax.Proofs.TokenStream.Spot
import MonkeySyntax.Proofs.TokenStream.Joint
import MonkeySyntax.Proofs.Parser.Work
import MonkeySyntax.Proofs.Parser.Sharing
import MonkeySyntax.Proofs.TokenStream.Pulls
import MonkeySyntax.Proofs.Interactive
import MonkeySyntax.Proofs.Text.Utf8
import MonkeySyntax.Proofs.TokenStream.LineEnds
import MonkeySyntax.FileTree.Source
import MonkeySyntax.Proofs.Unplaced
import MonkeySyntax.Proofs.SourceFile
import MonkeySyntax.Proofs.Parser.Order
import MonkeySyntax.Proofs.Parser.Acceptance
import MonkeySyntax.Proofs.Respacing
import MonkeySyntax.Proofs.Parser.Draining
import MonkeySyntax.Proofs.CommandLine.Records
import MonkeySyntax.Proofs.Node.Layout
import MonkeySyntax.Proofs.Text.Escapes
import MonkeySyntax.Proofs.Token.Label
import MonkeySyntax.Proofs.Token.Listing
import MonkeySyntax.Proofs.Node.Margin
import MonkeySyntax.Proofs.Diagnostic.Report
import MonkeySyntax.Proofs.CommandLine.Printout
import MonkeySyntax.Proofs.TokenStream.Scanning
