import TapeC.Main
import TapeC.Proofs.CommandLine.Comments
import TapeC.Proofs.CommandLine.Compiling
import TapeC.Proofs.CommandLine.Runs
import TapeC.Proofs.Formatter.Pipes
import TapeC.Proofs.Formatter.Verdict
import TapeC.Proofs.Host.Saving
import TapeC.Proofs.Lexer.Concatenation
import TapeC.Proofs.Lexer.Printing
import TapeC.Proofs.Listing.Braces
import TapeC.Proofs.Listing.CellArithmetic
import TapeC.Proofs.Listing.Levels
import TapeC.Proofs.Op.Concatenation
import TapeC.Proofs.Run.NormalForm
import TapeC.Proofs.Sameness
import TapeC.Proofs.Translation
