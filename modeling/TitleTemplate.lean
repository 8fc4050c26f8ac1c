import TitleTemplate.Json.Writer
import TitleTemplate.Main
import TitleTemplate.Value.Keyed
import TitleTemplate.Proofs.Template.Items
import TitleTemplate.Proofs.Template.Outline
import TitleTemplate.Proofs.Template.Spelling
import TitleTemplate.Proofs.Template.Lexing
import TitleTemplate.Proofs.Template.Words
import TitleTemplate.Proofs.Legacy.HeadLexemes
import TitleTemplate.Proofs.Legacy.HeadReading
import TitleTemplate.Proofs.Legacy.Rewriting
import TitleTemplate.Proofs.Legacy.KeptSpans
import TitleTemplate.Proofs.Legacy.Places
import TitleTemplate.Proofs.Template.Rendering
import TitleTemplate.Proofs.Legacy.Readers
import TitleTemplate.Proofs.Legacy.Meaning
import TitleTemplate.Proofs.Legacy.Segments
import TitleTemplate.Proofs.Legacy.Following
import TitleTemplate.Proofs.Legacy.Memory
import TitleTemplate.Proofs.Legacy.Refusals
import TitleTemplate.Proofs.Template.Truncation
import TitleTemplate.Proofs.Template.Operands
import TitleTemplate.Proofs.Template.Conditions
import TitleTemplate.Proofs.Template.Joining
import TitleTemplate.Proofs.Template.Pieces
import TitleTemplate.Proofs.Template.Bodies
import TitleTemplate.Proofs.Template.Composition
import TitleTemplate.Proofs.Template.Threshold
import TitleTemplate.Proofs.Template.Writing
import TitleTemplate.Proofs.Template.Heights
import TitleTemplate.Proofs.Template.Parts
import TitleTemplate.Proofs.Template.Contexts
import TitleTemplate.Proofs.Template.Faults
import TitleTemplate.Proofs.Legacy.Branches
import TitleTemplate.Proofs.Legacy.TooDeep
import TitleTemplate.Proofs.Value.Passage
import TitleTemplate.Proofs.Command.Output
import TitleTemplate.Proofs.Legacy.Untouched
import TitleTemplate.Proofs.Legacy.Literals
import TitleTemplate.Proofs.Modifier.Inputs
import TitleTemplate.Proofs.Text.Escapes
import TitleTemplate.Proofs.Modifier.NumericText
import TitleTemplate.Proofs.Value.Sorting
import TitleTemplate.Proofs.Modifier.Escaping
import TitleTemplate.Proofs.Command.Definitions
import TitleTemplate.Proofs.Modifier.Sizes
import TitleTemplate.Proofs.Modifier.Grouping
import TitleTemplate.Proofs.Template.Alignment
import TitleTemplate.Proofs.Bytes.Slices
