import ModuleLang.Check
import ModuleLang.CommandLine.Arguments
import ModuleLang.CommandLine.Messages
import ModuleLang.CommandLine.Run
import ModuleLang.CommandLine.Switch
import ModuleLang.Diagnostic.Error
import ModuleLang.Language.Grammar
import ModuleLang.Language.Lexical
import ModuleLang.Location
import ModuleLang.Main
import ModuleLang.Parser.Basic
import ModuleLang.Parser.Grammar
import ModuleLang.Proofs.Check.Containment
import ModuleLang.Proofs.Check.Exactness
import ModuleLang.Proofs.CommandLine.Arguments
import ModuleLang.Proofs.CommandLine.Channels
import ModuleLang.Proofs.CommandLine.Descriptions
import ModuleLang.Proofs.CommandLine.NormalForm
import ModuleLang.Proofs.Diagnostic.Caret
import ModuleLang.Proofs.Language.Automaton
import ModuleLang.Proofs.Parser.Agreement
import ModuleLang.Proofs.Parser.Chain
import ModuleLang.Proofs.Parser.Continuation
import ModuleLang.Proofs.Parser.Decision
import ModuleLang.Proofs.Parser.Expected
import ModuleLang.Proofs.Parser.Layout
import ModuleLang.Proofs.Parser.Logic
import ModuleLang.Proofs.Parser.Nesting
import ModuleLang.Proofs.Parser.Pasting
import ModuleLang.Proofs.Parser.Reported
import ModuleLang.Proofs.Parser.RoundTrip
import ModuleLang.Proofs.Parser.Rules
import ModuleLang.Proofs.Parser.Stopping
import ModuleLang.Proofs.Parser.Taking
import ModuleLang.Proofs.Parser.Trail
import ModuleLang.Proofs.Parser.Verdict
import ModuleLang.Proofs.Token.Bounds
import ModuleLang.Proofs.Token.Continuation
import ModuleLang.Proofs.Token.FirstStray
import ModuleLang.Proofs.Token.Indexed
import ModuleLang.Proofs.Token.Layout
import ModuleLang.Proofs.Token.Position
import ModuleLang.Proofs.Token.Replay
import ModuleLang.Proofs.Token.Row
import ModuleLang.Proofs.Token.Stepwise
import ModuleLang.Proofs.Token.Tokenization
import ModuleLang.Proofs.Token.Truth
import ModuleLang.Proofs.Token.Written
import ModuleLang.Proofs.Tree.Construction
import ModuleLang.Proofs.Tree.Covering
import ModuleLang.Proofs.Tree.Identity
import ModuleLang.Proofs.Tree.Printing
import ModuleLang.Proofs.Tree.Relocation
import ModuleLang.Proofs.Tree.Spine
import ModuleLang.Proofs.Tree.Unambiguous
import ModuleLang.Proofs.Tree.WellFormed
import ModuleLang.Session
import ModuleLang.Text.Lines
import ModuleLang.Text.Quoted
import ModuleLang.Text.Terminal
import ModuleLang.Token.Basic
import ModuleLang.Token.Cursor
import ModuleLang.Token.Indexed
import ModuleLang.Token.Kind
import ModuleLang.Token.Lookahead
import ModuleLang.Token.Stream
import ModuleLang.Tree.Dump
import ModuleLang.Tree.Expr
import ModuleLang.Tree.Module
import ModuleLang.Tree.Statement
import ModuleLang.Tree.WellFormed
import ModuleLang.Tree.Yield
import ModuleLang.Unicode.Alphabetic
import ModuleLang.Unicode.GraphemeExtend
import ModuleLang.Unicode.Graphic
import ModuleLang.Unicode.Ranges
