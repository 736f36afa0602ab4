import SchemaAtlas.Json.Write
import SchemaAtlas.Main
import SchemaAtlas.Proofs.Command.Writing
import SchemaAtlas.Proofs.Ddl.AddedKeyForm
import SchemaAtlas.Proofs.Ddl.Clauses
import SchemaAtlas.Proofs.Ddl.ColumnForm
import SchemaAtlas.Proofs.Ddl.ColumnWords
import SchemaAtlas.Proofs.Ddl.Extraction
import SchemaAtlas.Proofs.Ddl.Heading
import SchemaAtlas.Proofs.Ddl.Openings
import SchemaAtlas.Proofs.Ddl.Reextraction
import SchemaAtlas.Proofs.Ddl.Region
import SchemaAtlas.Proofs.Ddl.Rejoining
import SchemaAtlas.Proofs.Ddl.Reordering
import SchemaAtlas.Proofs.Ddl.Respacing
import SchemaAtlas.Proofs.Ddl.SectionText
import SchemaAtlas.Proofs.Ddl.Splitting
import SchemaAtlas.Proofs.Ddl.Surroundings
import SchemaAtlas.Proofs.Ddl.TableMembers
import SchemaAtlas.Proofs.Ddl.TableSection
import SchemaAtlas.Proofs.Ddl.Truncation
import SchemaAtlas.Proofs.Diagram.Agreement
import SchemaAtlas.Proofs.Diagram.Growth
import SchemaAtlas.Proofs.Diagram.Labels
import SchemaAtlas.Proofs.Diagram.Parts
import SchemaAtlas.Proofs.Diagram.Recovery
import SchemaAtlas.Proofs.Files.Paths
import SchemaAtlas.Proofs.Files.Plans
import SchemaAtlas.Proofs.Files.Trees
import SchemaAtlas.Proofs.Report.Book
import SchemaAtlas.Proofs.Report.Chapters
import SchemaAtlas.Proofs.Report.Chunks
import SchemaAtlas.Proofs.Report.Contents
import SchemaAtlas.Proofs.Report.Distribution
import SchemaAtlas.Proofs.Report.Documentation
import SchemaAtlas.Proofs.Report.Drawings
import SchemaAtlas.Proofs.Report.PageShape
import SchemaAtlas.Proofs.Report.PageTags
import SchemaAtlas.Proofs.Report.Pages
import SchemaAtlas.Proofs.Report.Relationships
import SchemaAtlas.Proofs.Report.Texts
import SchemaAtlas.Proofs.Report.Word
import SchemaAtlas.Proofs.Schema.ColumnNames
import SchemaAtlas.Proofs.Schema.Folding
import SchemaAtlas.Proofs.Schema.LastDefinition
import SchemaAtlas.Proofs.Schema.OfDump
import SchemaAtlas.Proofs.Script.Alterations
import SchemaAtlas.Proofs.Script.Basic
import SchemaAtlas.Proofs.Script.Columns
import SchemaAtlas.Proofs.Script.Entries
import SchemaAtlas.Proofs.Script.Listing
import SchemaAtlas.Proofs.Script.Members
import SchemaAtlas.Proofs.Script.Printing
import SchemaAtlas.Proofs.Script.Reading
import SchemaAtlas.Proofs.Script.Regrouping
import SchemaAtlas.Proofs.Script.Statements
import SchemaAtlas.Proofs.Script.Words
import SchemaAtlas.Proofs.Text.Backtracking
import SchemaAtlas.Proofs.Text.Lines
import SchemaAtlas.Proofs.Text.Markup
import SchemaAtlas.Proofs.Text.Numbers
import SchemaAtlas.Proofs.Text.Passing
import SchemaAtlas.Proofs.Text.Segments
import SchemaAtlas.Proofs.Text.Spacing
import SchemaAtlas.Proofs.Web.Diagrams
import SchemaAtlas.Proofs.Web.Status
import SchemaAtlas.Proofs.Word.Borders
import SchemaAtlas.Schema.Describe
import SchemaAtlas.Web.Service
