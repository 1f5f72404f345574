import CallForm.Main
import CallForm.Proofs.Compile.Concatenation
import CallForm.Proofs.Compile.Punctuation
import CallForm.Proofs.Compile.Unfinished
import CallForm.Proofs.Command.Agreement
import CallForm.Proofs.Config.Loading
import CallForm.Proofs.CommandLine.Ending
import CallForm.Proofs.Source.Trace
import CallForm.Proofs.Source.Viability
import CallForm.Proofs.Token.Viability
import CallForm.Proofs.Json.Quoting
import CallForm.Proofs.Source.Outline
import CallForm.Proofs.Compile.Indentation
import CallForm.Proofs.Json.Lexeme
import CallForm.Proofs.Json.Text
import CallForm.Proofs.Compile.Records
import CallForm.Proofs.Source.Steps
import CallForm.Proofs.Command.Listing
import CallForm.Proofs.Config.Discovery
import CallForm.Proofs.CommandLine.LineEnds
