import ScriptLexer.Cursor.Session
import ScriptLexer.Proofs.Layout
import ScriptLexer.Scan.Course
import ScriptLexer.Survey
import ScriptLexer.Token.ListingReader
import ScriptLexer.Proofs.MaximalMunch
import ScriptLexer.Proofs.Quotes
import ScriptLexer.Proofs.Concatenation
import ScriptLexer.Proofs.Listing
import ScriptLexer.Proofs.RoundTrip
import ScriptLexer.Proofs.Growth
import ScriptLexer.Proofs.Renaming
import ScriptLexer.Proofs.Safety
import ScriptLexer.Proofs.Cuts
import ScriptLexer.Proofs.Recovery
import ScriptLexer.Proofs.Events
import ScriptLexer.Proofs.Spacing
import ScriptLexer.Proofs.Unrecognized
import ScriptLexer.Proofs.WordRuns
import ScriptLexer.Proofs.OperatorRuns
import ScriptLexer.Proofs.TokenText
import ScriptLexer.Proofs.Checkpoints
