import Gamebook.Text
import Gamebook.Text.Rune
import Gamebook.Text.Ranges
import Gamebook.Text.Letter
import Gamebook.Text.Digit
import Gamebook.Text.Printable
import Gamebook.Text.Blank
import Gamebook.Text.CaseFold
import Gamebook.Text.LowerCase
import Gamebook.Text.Quoted
import Gamebook.Text.Numeral
import Gamebook.Position
import Gamebook.Token
import Gamebook.Problem
import Gamebook.Failure
import Gamebook.Diagnostic
import Gamebook.Source
import Gamebook.Address
import Gamebook.Entry
import Gamebook.Script
import Gamebook.Script.Parse
import Gamebook.Inventory
import Gamebook.Path
import Gamebook.Log
import Gamebook.Loader
import Gamebook.Session
import Gamebook.Session.Run
import Gamebook.Session.Id
import Gamebook.Session.Shown
import Gamebook.Session.Rehearsal
import Gamebook.Transcript
import Gamebook.Transcript.Memory
import Gamebook.Transcript.Tables
import Gamebook.Transcript.Layout
import Gamebook.Disk
import Gamebook.Archive
import Gamebook.Screen
import Gamebook.LineReader
import Gamebook.Theater
import Gamebook.Log.Line
import Gamebook.Log.Destination
import Gamebook.Log.Writer
import Gamebook.Markup.Token
import Gamebook.Markup.Cursor
import Gamebook.Markup.Scalar
import Gamebook.Markup.Scan
import Gamebook.Markup.Tree
import Gamebook.Manifest
import Gamebook.Settings.Dotenv
import Gamebook.Settings
import Gamebook.Command.Flags
import Gamebook.Command
import Gamebook.Command.Reach
import Gamebook.Main
import Gamebook.Proofs.Text.Order
import Gamebook.Proofs.Codes
import Gamebook.Proofs.Inventory
import Gamebook.Proofs.Loader
import Gamebook.Proofs.Session.Game
import Gamebook.Proofs.Session.View
import Gamebook.Proofs.Session.Steps
import Gamebook.Proofs.Session.Chronicle
import Gamebook.Proofs.Session.Refinement
import Gamebook.Proofs.Session.Invariant
import Gamebook.Proofs.Recording
import Gamebook.Proofs.Session.Commit
import Gamebook.Proofs.Session.Protocol
import Gamebook.Proofs.Script.Grammar
import Gamebook.Proofs.Script.Soundness
import Gamebook.Proofs.Script.Completeness
import Gamebook.Proofs.Script.Acceptance
import Gamebook.Proofs.Loader.Snapshot
import Gamebook.Proofs.Session.Lazy
import Gamebook.Proofs.Source.Spelling
import Gamebook.Proofs.Source.Runewise
import Gamebook.Proofs.Source.Layout
import Gamebook.Proofs.Transcript.Memory
import Gamebook.Proofs.Transcript.Tables
import Gamebook.Proofs.Disk
import Gamebook.Proofs.Archive
import Gamebook.Proofs.Session.Company
import Gamebook.Proofs.Session.Live
import Gamebook.Proofs.Text.Quoted
import Gamebook.Proofs.Source.Written
import Gamebook.Proofs.Script.Writable
import Gamebook.Proofs.Script.Printing
import Gamebook.Proofs.Session.Endings
import Gamebook.Proofs.Theater
import Gamebook.Proofs.Command.Play
import Gamebook.Proofs.Script.Items
import Gamebook.Proofs.Session.Retelling
import Gamebook.Proofs.Script.Placement
import Gamebook.Proofs.Path
import Gamebook.Proofs.Script.Recovery
import Gamebook.Proofs.Source.Failing
import Gamebook.Proofs.Command.Check
import Gamebook.Proofs.Text.Numeral
import Gamebook.Proofs.Session.Picking
import Gamebook.Proofs.Session.Passage
import Gamebook.Proofs.Session.Stepwise
import Gamebook.Proofs.Session.Mistakes
import Gamebook.Proofs.Inventory.Effects
import Gamebook.Proofs.Session.Patience
import Gamebook.Proofs.Session.Reentry
import Gamebook.Proofs.Source.Spacing
import Gamebook.Proofs.Source.Breakage
import Gamebook.Proofs.Inventory.Sharing
import Gamebook.Proofs.Inventory.Storeroom
import Gamebook.Proofs.Loader.Addresses
import Gamebook.Proofs.Script.Cutoff
import Gamebook.Proofs.LineReader
import Gamebook.Proofs.Address
import Gamebook.Proofs.Script.Names
import Gamebook.Proofs.Session.Visits
