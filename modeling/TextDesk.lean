import TextDesk.Completion
import TextDesk.Keyboard
import TextDesk.Main
import TextDesk.Proofs.Diagnosis
import TextDesk.Proofs.Diagnosis.UsageLine
import TextDesk.Proofs.Dialogue
import TextDesk.Proofs.Dialogue.Events
import TextDesk.Proofs.Dialogue.AreaEnd
import TextDesk.Proofs.Reachable
import TextDesk.Proofs.Session.ShownData
import TextDesk.Proofs.Session.Independent
import TextDesk.Proofs.Listing
import TextDesk.Proofs.Store.NamePattern
import TextDesk.Proofs.Store.Put
import TextDesk.Proofs.MessagePack.Stable
import TextDesk.Proofs.StateFile.CutOff
import TextDesk.Proofs.Folder
import TextDesk.Proofs.Printed
import TextDesk.Proofs.Script.Items
import TextDesk.Proofs.Script.KeepGoing
import TextDesk.Proofs.Script.Append
import TextDesk.Proofs.CommandLine
import TextDesk.Proofs.CommandLine.Split
import TextDesk.Proofs.Highlight
import TextDesk.Proofs.Grammar.Placeholders
import TextDesk.Proofs.Store.Lookup
import TextDesk.Proofs.Store.Reflow
import TextDesk.Proofs.Session.CursorTarget
import TextDesk.Proofs.Store.Format
import TextDesk.Proofs.Destination.Numerals
import TextDesk.Proofs.Words.Places
import TextDesk.Proofs.Highlight.Decoration
import TextDesk.Proofs.Completion
import TextDesk.Proofs.StateFile.LostSize
import TextDesk.Proofs.Grammar.Pattern
