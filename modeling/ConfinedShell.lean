import ConfinedShell.Arrow
import ConfinedShell.Calendar
import ConfinedShell.Command.Basic
import ConfinedShell.Command.Catalogue
import ConfinedShell.Command.Files
import ConfinedShell.Command.Network
import ConfinedShell.Command.Registry
import ConfinedShell.Command.Shell
import ConfinedShell.Command.System
import ConfinedShell.Command.Texts
import ConfinedShell.Config
import ConfinedShell.Editor
import ConfinedShell.Failure
import ConfinedShell.Host.Calls
import ConfinedShell.Host.Error
import ConfinedShell.Host.FileTree
import ConfinedShell.Host.Storage
import ConfinedShell.Host.Walk
import ConfinedShell.Hosts
import ConfinedShell.Input
import ConfinedShell.Main
import ConfinedShell.Mission
import ConfinedShell.Page
import ConfinedShell.Program
import ConfinedShell.Proofs.Advancing
import ConfinedShell.Proofs.ArrowKeys
import ConfinedShell.Proofs.Bare
import ConfinedShell.Proofs.BareCommands
import ConfinedShell.Proofs.BareOperations
import ConfinedShell.Proofs.Calls
import ConfinedShell.Proofs.Careful
import ConfinedShell.Proofs.Chronicle
import ConfinedShell.Proofs.Confinement
import ConfinedShell.Proofs.Copying
import ConfinedShell.Proofs.Creating
import ConfinedShell.Proofs.CurrentDirectory
import ConfinedShell.Proofs.Delivery
import ConfinedShell.Proofs.Differing
import ConfinedShell.Proofs.Dispatching
import ConfinedShell.Proofs.Display
import ConfinedShell.Proofs.Echoing
import ConfinedShell.Proofs.Editing
import ConfinedShell.Proofs.Effects
import ConfinedShell.Proofs.Elsewhere
import ConfinedShell.Proofs.Excerpts
import ConfinedShell.Proofs.Footprint
import ConfinedShell.Proofs.Growth
import ConfinedShell.Proofs.Integrity
import ConfinedShell.Proofs.Interruptions
import ConfinedShell.Proofs.Leading
import ConfinedShell.Proofs.Likeness
import ConfinedShell.Proofs.LinkFree
import ConfinedShell.Proofs.Listing
import ConfinedShell.Proofs.Lookups
import ConfinedShell.Proofs.Making
import ConfinedShell.Proofs.MonthGrid
import ConfinedShell.Proofs.Moving
import ConfinedShell.Proofs.Naming
import ConfinedShell.Proofs.Opening
import ConfinedShell.Proofs.Operations
import ConfinedShell.Proofs.Pages
import ConfinedShell.Proofs.Parallel
import ConfinedShell.Proofs.Parking
import ConfinedShell.Proofs.PathLaws
import ConfinedShell.Proofs.Plans
import ConfinedShell.Proofs.Planting
import ConfinedShell.Proofs.Processing
import ConfinedShell.Proofs.Reading
import ConfinedShell.Proofs.Recalling
import ConfinedShell.Proofs.Registering
import ConfinedShell.Proofs.Relocation
import ConfinedShell.Proofs.Remembering
import ConfinedShell.Proofs.Reports
import ConfinedShell.Proofs.Saving
import ConfinedShell.Proofs.Secrecy
import ConfinedShell.Proofs.Seeding
import ConfinedShell.Proofs.Sight
import ConfinedShell.Proofs.Sparing
import ConfinedShell.Proofs.Steady
import ConfinedShell.Proofs.Stepping
import ConfinedShell.Proofs.Survival
import ConfinedShell.Proofs.TextLines
import ConfinedShell.Proofs.Tree
import ConfinedShell.Proofs.Typing
import ConfinedShell.Proofs.Utf8
import ConfinedShell.Proofs.VirtualStore
import ConfinedShell.Proofs.Waiting
import ConfinedShell.Proofs.Walk
import ConfinedShell.Proofs.WellFormed
import ConfinedShell.Recall
import ConfinedShell.Sandbox
import ConfinedShell.Schedule
import ConfinedShell.Seed
import ConfinedShell.Session
import ConfinedShell.Terminal
import ConfinedShell.Text.Blank
import ConfinedShell.Text.Column
import ConfinedShell.Text.Lines
import ConfinedShell.Text.Pieces
import ConfinedShell.Text.Printable
import ConfinedShell.Text.Quoted
import ConfinedShell.Text.Utf8
import ConfinedShell.Toml.Document
import ConfinedShell.Toml.Number
import ConfinedShell.Toml.Scan
import ConfinedShell.Toml.Value
import ConfinedShell.VirtualPath
