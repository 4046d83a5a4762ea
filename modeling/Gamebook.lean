import Gamebook.Main
import Gamebook.Proofs.Commands.PrintedChoices
import Gamebook.Proofs.Commands.Refinement
import Gamebook.Proofs.Story.Checking
import Gamebook.Proofs.Play.Safety
import Gamebook.Proofs.Library.Editing
import Gamebook.Proofs.Play.Segments
import Gamebook.Proofs.Commands.Continuing
import Gamebook.Proofs.Files.Folders
import Gamebook.Proofs.Files.Looking
import Gamebook.Proofs.Library.Writing
import Gamebook.Proofs.Commands.Failing
import Gamebook.Proofs.Library.Shelf
import Gamebook.Proofs.Library.Calls
import Gamebook.Proofs.Story.Authored
import Gamebook.Proofs.Library.ShareCodes
import Gamebook.Proofs.Text.ByteOrder
import Gamebook.Proofs.Library.Snapshots
import Gamebook.Proofs.Play.Evolution
import Gamebook.Proofs.Commands.Published
import Gamebook.Proofs.Play.Observation
import Gamebook.Proofs.Library.Refusals
import Gamebook.Proofs.Library.Drafting
import Gamebook.Proofs.Commands.Players
import Gamebook.Proofs.Library.SessionTables
import Gamebook.Proofs.Commands.Confinement
import Gamebook.Proofs.Commands.Privacy
import Gamebook.Proofs.Library.Naming
import Gamebook.Proofs.Commands.StatGates
import Gamebook.Proofs.Story.Restyling
import Gamebook.Proofs.Story.Findings
import Gamebook.Proofs.Commands.Verdicts
import Gamebook.Proofs.Play.Choosing
import Gamebook.Proofs.Play.Joining
import Gamebook.Proofs.Commands.Menus
