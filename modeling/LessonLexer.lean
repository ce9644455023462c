import LessonLexer.Release
import LessonLexer.Session
import LessonLexer.Proofs.ItemShape
import LessonLexer.Proofs.ScanSteps
import LessonLexer.Proofs.Tiling
import LessonLexer.Proofs.Grammar
import LessonLexer.Proofs.LongestMatch
import LessonLexer.Proofs.Effects
import LessonLexer.Proofs.PositionLaw
import LessonLexer.Proofs.Lookahead
import LessonLexer.Proofs.Seams
import LessonLexer.Proofs.Relocation
import LessonLexer.Proofs.Reports
import LessonLexer.Proofs.Pieces
import LessonLexer.Proofs.Cutting
import LessonLexer.Proofs.Lines
import LessonLexer.Proofs.Gaps
import LessonLexer.Proofs.Stability
import LessonLexer.Proofs.Layout
import LessonLexer.Proofs.Printing
import LessonLexer.Proofs.Results
import LessonLexer.Proofs.Acts
import LessonLexer.Proofs.Scanners
import LessonLexer.Proofs.Turns
import LessonLexer.Proofs.SharedLists
import LessonLexer.Proofs.Failing
import LessonLexer.Proofs.Classes
import LessonLexer.Proofs.Integers
import LessonLexer.Proofs.Decoding
import LessonLexer.Proofs.Significands
import LessonLexer.Proofs.Rounding
import LessonLexer.Proofs.Floats
import LessonLexer.Proofs.Log
import LessonLexer.Proofs.Equality
import LessonLexer.Proofs.QuotedText
import LessonLexer.Proofs.WrittenForms
import LessonLexer.Proofs.ErrorLines
