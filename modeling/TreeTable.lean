import TreeTable.Main
import TreeTable.Walk.Record
import TreeTable.Proofs.Dashboard.Currency
import TreeTable.Proofs.Html.Table
import TreeTable.Proofs.Csv.Forest
import TreeTable.Proofs.Delegate
import TreeTable.Proofs.Header
import TreeTable.Proofs.Counts
import TreeTable.Proofs.Html.Bullets
import TreeTable.Proofs.Walk.TreeActs
import TreeTable.Proofs.Html.Outline
import TreeTable.Proofs.Html.Inline
import TreeTable.Proofs.Walk.Alike
import TreeTable.Proofs.Html.Marks
import TreeTable.Proofs.Dashboard.Separation
import TreeTable.Proofs.Matrix
import TreeTable.Proofs.Edit
import TreeTable.Proofs.Dashboard.Change
import TreeTable.Proofs.Document
import TreeTable.Proofs.Command.Show
import TreeTable.Proofs.Command.Run
import TreeTable.Proofs.Walk.Nesting
import TreeTable.Proofs.Walk.Ceiling
import TreeTable.Proofs.Endless
import TreeTable.Proofs.Clear
import TreeTable.Proofs.Deeper
import TreeTable.Proofs.Markup.Target
import TreeTable.Proofs.HeadedTable
import TreeTable.Proofs.Markup.Address
import TreeTable.Proofs.Markup.Display
import TreeTable.Proofs.RowAffix
import TreeTable.Proofs.Markup.Clip
import TreeTable.Proofs.Csv.TopLevel
import TreeTable.Proofs.Csv.Runs
import TreeTable.Proofs.Html.Decoration
