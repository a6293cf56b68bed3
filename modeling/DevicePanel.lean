import DevicePanel.App.Basic
import DevicePanel.App.Draw
import DevicePanel.Button
import DevicePanel.CommandLine.Arguments
import DevicePanel.CommandLine.Failure
import DevicePanel.CommandLine.Help
import DevicePanel.CommandLine.Run
import DevicePanel.Decimal.Binary64
import DevicePanel.Decimal.Scientific
import DevicePanel.Decimal.Shortest
import DevicePanel.Editor.Basic
import DevicePanel.Editor.Draft
import DevicePanel.Editor.Draw
import DevicePanel.Editor.Layout
import DevicePanel.Host.Basic
import DevicePanel.Host.FileTree
import DevicePanel.Host.Locations
import DevicePanel.Input
import DevicePanel.Json.Basic
import DevicePanel.Json.Fault
import DevicePanel.Json.Number
import DevicePanel.Json.Printer
import DevicePanel.Json.Reader
import DevicePanel.LineBuffer
import DevicePanel.LineBuffer.Indexed
import DevicePanel.Main
import DevicePanel.Panel.Basic
import DevicePanel.Panel.Draw
import DevicePanel.Panel.Focus
import DevicePanel.Panel.Input
import DevicePanel.Path
import DevicePanel.Screen.Canvas
import DevicePanel.Screen.Frame
import DevicePanel.Screen.Rect
import DevicePanel.Screen.Style
import DevicePanel.Screen.Text
import DevicePanel.Sheet.Basic
import DevicePanel.Sheet.Field
import DevicePanel.Sheet.FromJson
import DevicePanel.Sheet.FromYaml
import DevicePanel.Sheet.Load
import DevicePanel.Sheet.Report
import DevicePanel.Text.Blank
import DevicePanel.Text.Cluster
import DevicePanel.Text.Columns
import DevicePanel.Text.Combining
import DevicePanel.Text.Emoji
import DevicePanel.Text.Ligature
import DevicePanel.Text.Position
import DevicePanel.Text.Property.Cluster
import DevicePanel.Text.Property.Columns
import DevicePanel.Text.Property.Emoji
import DevicePanel.Text.Property.Visibility
import DevicePanel.Text.Quoted
import DevicePanel.Text.Ranges
import DevicePanel.Text.Width
import DevicePanel.Theme.Basic
import DevicePanel.Theme.Choice
import DevicePanel.Theme.Palette
import DevicePanel.Toggle
import DevicePanel.Value.Basic
import DevicePanel.Value.Commit
import DevicePanel.Value.Error
import DevicePanel.Value.Format
import DevicePanel.Yaml.Cursor
import DevicePanel.Yaml.Document
import DevicePanel.Yaml.Error
import DevicePanel.Yaml.Event
import DevicePanel.Yaml.Meaning
import DevicePanel.Yaml.Reader
import DevicePanel.Yaml.Tag
import DevicePanel.Yaml.Token
import DevicePanel.Yaml.Token.Lexer
import DevicePanel.Yaml.Token.Property
import DevicePanel.Yaml.Token.Scalar
import DevicePanel.Proofs.App.DownLink
import DevicePanel.Proofs.App.Frame
import DevicePanel.Proofs.App.ListRows
import DevicePanel.Proofs.App.Locality
import DevicePanel.Proofs.App.NumericCommits
import DevicePanel.Proofs.App.Reachable
import DevicePanel.Proofs.App.Run
import DevicePanel.Proofs.App.Switches
import DevicePanel.Proofs.App.TypedStore
import DevicePanel.Proofs.App.Typing
import DevicePanel.Proofs.Editor.Event
import DevicePanel.Proofs.Editor.Phase
import DevicePanel.Proofs.Editor.Typing
import DevicePanel.Proofs.Json.WholeNumber
import DevicePanel.Proofs.Panel.Event
import DevicePanel.Proofs.Panel.Keys
import DevicePanel.Proofs.Panel.Switch
import DevicePanel.Proofs.Sheet.Accepted
import DevicePanel.Proofs.Support.Except
import DevicePanel.Proofs.Value.Numeric
import DevicePanel.Proofs.Value.Shape
import DevicePanel.Proofs.Editor.Change
import DevicePanel.Proofs.Editor.Lifetime
import DevicePanel.Proofs.App.Cursor
import DevicePanel.Proofs.Panel.Anchored
import DevicePanel.Proofs.App.LiveFocus
import DevicePanel.Proofs.App.Selection
import DevicePanel.Proofs.App.Redraw
import DevicePanel.Proofs.Sheet.Resolution
import DevicePanel.Proofs.Json.Structure
import DevicePanel.Proofs.Json.ReadBack
import DevicePanel.Proofs.Json.ReadStructure
import DevicePanel.Proofs.Value.RoundTrip
import DevicePanel.Proofs.Text.Cut
import DevicePanel.Proofs.LineBuffer.Refinement
import DevicePanel.Proofs.Json.Decimal
import DevicePanel.Proofs.LineBuffer.Column
import DevicePanel.Proofs.Value.TypedNumber
import DevicePanel.Proofs.Screen.Confined
import DevicePanel.Proofs.Editor.Layout
import DevicePanel.Proofs.Editor.FieldCursor
import DevicePanel.Proofs.Editor.Confined
import DevicePanel.Proofs.Text.SharedColumns
import DevicePanel.Proofs.Editor.DrawnText
import DevicePanel.Proofs.Editor.Pasting
import DevicePanel.Proofs.App.Resubmission
import DevicePanel.Proofs.Sheet.Declared
import DevicePanel.Proofs.Sheet.Fault
import DevicePanel.Proofs.Panel.CurrentValue
import DevicePanel.Proofs.Value.Boolean
import DevicePanel.Proofs.Path.Home
import DevicePanel.Proofs.Text.Padding
import DevicePanel.Proofs.Sheet.Columns
import DevicePanel.Proofs.Json.OneLine
import DevicePanel.Proofs.CommandLine.Check
import DevicePanel.Proofs.Text.LetterCase
import DevicePanel.Proofs.Theme.Choice
