import SandboxClient.Text.Blank
import SandboxClient.Yaml.Quoted
import SandboxClient.Yaml.Plain
import SandboxClient.Yaml.BlockText
import SandboxClient.Yaml.Tokens
import SandboxClient.Yaml.Tree
import SandboxClient.Yaml.Node
import SandboxClient.Yaml.Written
import SandboxClient.Text.Quoted
import SandboxClient.Server.Entry
import SandboxClient.Server.Config
import SandboxClient.Server.Layout
import SandboxClient.Text.Utf8
import SandboxClient.Url.Percent
import SandboxClient.Url.Punycode
import SandboxClient.Unicode.DomainMapping
import SandboxClient.Unicode.Composition
import SandboxClient.Unicode.Direction
import SandboxClient.Unicode.Composed
import SandboxClient.Url.Domain
import SandboxClient.Url.Segments
import SandboxClient.Server.Alias
import SandboxClient.Server.Token
import SandboxClient.Server.Fault
import SandboxClient.Text.Width
import SandboxClient.Terminal.Table
import SandboxClient.Terminal.Message
import SandboxClient.Terminal.Size
import SandboxClient.Time.Distance
import SandboxClient.Json.Tree
import SandboxClient.Json.Scalar
import SandboxClient.Json.Fields
import SandboxClient.Text.Charset
import SandboxClient.Remote.Resource
import SandboxClient.Remote.Info
import SandboxClient.Remote.Calls
import SandboxClient.Session.Words
import SandboxClient.Session.Named
import SandboxClient.Session.Ssh
import SandboxClient.Session.Waiting
import SandboxClient.Files.Path
import SandboxClient.Files.Disk
import SandboxClient.Files.Replacing
import SandboxClient.Server.Stored
import SandboxClient.Usage.Command
import SandboxClient.Usage.Form
import SandboxClient.Usage.Reader
import SandboxClient.Usage.Forms
import SandboxClient.Login.Device
import SandboxClient.Program.World
import SandboxClient.Program.Failure
import SandboxClient.Session.Marker
import SandboxClient.Program.Run
import SandboxClient.Program.Servers
import SandboxClient.Program.Sandboxes
import SandboxClient.Program.Resources
import SandboxClient.Program.Perform
import SandboxClient.Main
import SandboxClient.Proofs.Text.Octets
import SandboxClient.Proofs.Yaml.Blocks
import SandboxClient.Proofs.Yaml.Placed
import SandboxClient.Proofs.Yaml.PlainTexts
import SandboxClient.Proofs.Yaml.QuotedTexts
import SandboxClient.Proofs.Yaml.LiteralTexts
import SandboxClient.Proofs.Yaml.Reaching
import SandboxClient.Proofs.Yaml.WrittenLeaves
import SandboxClient.Proofs.Yaml.WrittenBlocks
import SandboxClient.Proofs.Yaml.WrittenDocuments
import SandboxClient.Proofs.Files.Calls
import SandboxClient.Proofs.Files.Replaced
import SandboxClient.Proofs.Server.Lookup
import SandboxClient.Proofs.Server.Operations
import SandboxClient.Proofs.Server.Runs
import SandboxClient.Proofs.Server.Provenance
import SandboxClient.Proofs.Server.CurrentEntry
import SandboxClient.Proofs.Server.Document
import SandboxClient.Proofs.Server.Reload
import SandboxClient.Proofs.Server.Written
import SandboxClient.Proofs.Login.Polling
import SandboxClient.Proofs.Text.Columns
import SandboxClient.Proofs.Terminal.Wrapped
import SandboxClient.Proofs.Terminal.ErrorBox
import SandboxClient.Proofs.Url.Percent
import SandboxClient.Proofs.Url.Below
import SandboxClient.Proofs.Remote.Addressed
import SandboxClient.Proofs.Files.Sound
import SandboxClient.Proofs.Files.Failing
import SandboxClient.Proofs.Files.Spared
import SandboxClient.Proofs.Server.Kept
import SandboxClient.Proofs.Program.Failed
import SandboxClient.Proofs.Server.Settled
import SandboxClient.Proofs.Server.Migrated
import SandboxClient.Proofs.Remote.Sent
import SandboxClient.Proofs.Program.LoggedIn
import SandboxClient.Proofs.Program.Temporary
import SandboxClient.Proofs.Server.DerivedAlias
import SandboxClient.Proofs.Files.AllOrNothing
import SandboxClient.Proofs.Server.Saved
import SandboxClient.Proofs.Files.AtOnce
import SandboxClient.Proofs.Server.SavedAtOnce
import SandboxClient.Proofs.Program.Asked
import SandboxClient.Proofs.Remote.SandboxPaths
import SandboxClient.Proofs.Program.NamedSandboxes
import SandboxClient.Proofs.Server.LoginEntry
import SandboxClient.Proofs.Server.LoginAgain
import SandboxClient.Proofs.Server.Selected
import SandboxClient.Proofs.Program.Displays
import SandboxClient.Proofs.Url.Hosts
import SandboxClient.Proofs.Server.HiddenTokens
import SandboxClient.Proofs.Server.FirstAliases
import SandboxClient.Proofs.Program.Trusted
import SandboxClient.Proofs.Session.Arguments
import SandboxClient.Proofs.Program.Sessions
import SandboxClient.Proofs.Session.Errands
import SandboxClient.Proofs.Terminal.AlignedTables
import SandboxClient.Proofs.Terminal.FilledLines
import SandboxClient.Proofs.Session.PortWait
import SandboxClient.Proofs.Unicode.Tables
import SandboxClient.Proofs.Unicode.Composed
import SandboxClient.Proofs.Text.Trimmed
import SandboxClient.Proofs.Url.Domains
import SandboxClient.Proofs.Url.Endings
import SandboxClient.Proofs.Remote.Reached
import SandboxClient.Proofs.Remote.Refusals
import SandboxClient.Proofs.Program.ShownTokens
import SandboxClient.Proofs.Session.Markers
import SandboxClient.Proofs.Program.ActiveNames
import SandboxClient.Proofs.Text.Found
import SandboxClient.Proofs.Terminal.ToldCauses
import SandboxClient.Proofs.Terminal.CutTexts
import SandboxClient.Proofs.Server.HiddenBlanks
import SandboxClient.Proofs.Json.Strings
import SandboxClient.Proofs.Program.RestoredSnapshots
