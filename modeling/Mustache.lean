import Mustache.Cache
import Mustache.Calendar
import Mustache.Command.Arguments
import Mustache.Command.Options
import Mustache.Command.Run
import Mustache.ContextData
import Mustache.Disk.Fault
import Mustache.Disk.Path
import Mustache.Disk.Pattern
import Mustache.Disk.Tree
import Mustache.Engine
import Mustache.Fault
import Mustache.Libraries
import Mustache.Main
import Mustache.Notice
import Mustache.Number.Binary64
import Mustache.Number.Shortest
import Mustache.Proofs.Cache.Asking
import Mustache.Proofs.Cache.Bookkeeping
import Mustache.Proofs.Cache.Clearing
import Mustache.Proofs.Cache.CompileOnce
import Mustache.Proofs.Cache.Deadlock
import Mustache.Proofs.Cache.Moves
import Mustache.Proofs.Cache.Reentry
import Mustache.Proofs.Cache.Stepping
import Mustache.Proofs.Cache.Threads
import Mustache.Proofs.Cache.Traffic
import Mustache.Proofs.Command.Checking
import Mustache.Proofs.Command.Writing
import Mustache.Proofs.ContextData.Loading
import Mustache.Proofs.Disk.Opening
import Mustache.Proofs.Disk.PathText
import Mustache.Proofs.Disk.Places
import Mustache.Proofs.Disk.Reading
import Mustache.Proofs.Engine.Cycles
import Mustache.Proofs.Engine.Faithful
import Mustache.Proofs.Engine.Malformed
import Mustache.Proofs.Engine.Mirror
import Mustache.Proofs.Engine.Missing
import Mustache.Proofs.Engine.Reached
import Mustache.Proofs.Engine.Refinement
import Mustache.Proofs.Engine.Snapshot
import Mustache.Proofs.Engine.Stocked
import Mustache.Proofs.Failing
import Mustache.Proofs.Lookup
import Mustache.Proofs.Render.Asked
import Mustache.Proofs.Render.Chain
import Mustache.Proofs.Render.Complement
import Mustache.Proofs.Render.Concatenation
import Mustache.Proofs.Render.Congruence
import Mustache.Proofs.Render.Ending
import Mustache.Proofs.Render.Flushing
import Mustache.Proofs.Render.InStep
import Mustache.Proofs.Render.InclusionCycle
import Mustache.Proofs.Render.Inlining
import Mustache.Proofs.Render.Origin
import Mustache.Proofs.Render.Output
import Mustache.Proofs.Render.Private
import Mustache.Proofs.Render.Raised
import Mustache.Proofs.Render.Remarks
import Mustache.Proofs.Render.Repetition
import Mustache.Proofs.Render.Scoped
import Mustache.Proofs.Render.Scopes
import Mustache.Proofs.Render.Simulation
import Mustache.Proofs.Render.Stepping
import Mustache.Proofs.Render.Transparent
import Mustache.Proofs.Render.Twins
import Mustache.Proofs.Report
import Mustache.Proofs.Scope.Alike
import Mustache.Proofs.Scope.Blocks
import Mustache.Proofs.Scope.Steady
import Mustache.Proofs.Settings.Agreement
import Mustache.Proofs.Settings.Entries
import Mustache.Proofs.Settings.Suffixes
import Mustache.Proofs.Source.Keys
import Mustache.Proofs.Source.Listing
import Mustache.Proofs.Source.Loading
import Mustache.Proofs.Source.Names
import Mustache.Proofs.Template.Concatenation
import Mustache.Proofs.Template.ErrorPosition
import Mustache.Proofs.Template.Flatten
import Mustache.Proofs.Template.Inclusions
import Mustache.Proofs.Template.Insertion
import Mustache.Proofs.Template.LineEndings
import Mustache.Proofs.Template.LineGrammar
import Mustache.Proofs.Template.Nesting
import Mustache.Proofs.Template.Page
import Mustache.Proofs.Template.Print
import Mustache.Proofs.Template.Reading
import Mustache.Proofs.Template.Relocation
import Mustache.Proofs.Template.Remarks
import Mustache.Proofs.Template.RoundTrip
import Mustache.Proofs.Template.Spelling
import Mustache.Proofs.Text.Decoded
import Mustache.Proofs.Text.Escape
import Mustache.Proofs.Text.Utf8
import Mustache.Proofs.Value.Alike
import Mustache.Proofs.Value.Every
import Mustache.Render.Sink
import Mustache.Render.Walk
import Mustache.Report
import Mustache.Scope
import Mustache.Settings
import Mustache.Source.Basic
import Mustache.Source.Folder
import Mustache.Template.Basic
import Mustache.Template.Cursor
import Mustache.Template.Line
import Mustache.Template.Node
import Mustache.Template.Parse
import Mustache.Template.Raw
import Mustache.Template.Scan
import Mustache.Template.SyntaxError
import Mustache.Template.Token
import Mustache.Text.Base64
import Mustache.Text.Blank
import Mustache.Text.CodePage
import Mustache.Text.DecodeFault
import Mustache.Text.Digest
import Mustache.Text.Digits
import Mustache.Text.Encoding
import Mustache.Text.Escape
import Mustache.Text.Printable
import Mustache.Text.Quoted
import Mustache.Text.Utf16
import Mustache.Text.Utf8
import Mustache.Value.Basic
import Mustache.Value.Buffer
import Mustache.Value.Key
import Mustache.Value.Member
import Mustache.Value.Memory
import Mustache.Value.Text
import Mustache.Yaml.Basic
import Mustache.Yaml.Block
import Mustache.Yaml.Compose
import Mustache.Yaml.Node
import Mustache.Yaml.Notation
import Mustache.Yaml.Plain
import Mustache.Yaml.Problem
import Mustache.Yaml.Quoted
import Mustache.Yaml.Reader
import Mustache.Yaml.Scan
import Mustache.Yaml.Tag
import Mustache.Yaml.Token
import Mustache.Yaml.Word
